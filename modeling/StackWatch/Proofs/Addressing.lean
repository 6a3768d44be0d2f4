import Mathlib.Data.List.Forall2
import Mathlib.Data.List.TakeWhile
import StackWatch.Resource.Basic
import StackWatch.Proofs.Numerals
import StackWatch.Proofs.Wire

/-!
# What a URL addresses

Whoever answers a request takes its URL apart: the path at its slashes, the query at its
ampersands, and reads the escapes of each part. A resource is addressed (`Addresses`) if that gives
the segments of the endpoint, then the resource's own, with each identifier in a segment of its
own, and exactly its parameters.

An identifier of the query always comes through. One of the path does if it is plain (`IsPlain`),
and only then (`Resource.addresses_url_iff`): a slash, a question mark or a number sign in it ends
its segment, and an escape of its own is read.
-/

namespace StackWatch

open Percent

namespace Url

/-- The segments of the path of a URL, those of the endpoint among them. -/
def segmentsOf (url : String) : List (List Char) := (url.toList.takeWhile (· != '?')).splitOn '/'

/-- The pieces of a text behind the mark it begins with. A text without one has no pieces. -/
def splitBelow (a : Char) : List Char → List (List Char)
  | [] => []
  | _ :: cs => cs.splitOn a

/-- The parameters of the query of a URL, as they are written. -/
def parametersOf (url : String) : List (List Char) :=
  splitBelow '&' (url.toList.dropWhile (· != '?'))

/-- Whether an identifier can stand in a path as it is. -/
def IsPlain (id : String) : Prop :=
  (∀ c ∈ id.toList, endsHost c = false) ∧ hasEscape id.toList = false

instance : DecidablePred IsPlain := fun id =>
  have : Decidable (∀ c ∈ id.toList, endsHost c = false) := List.decidableBAll _ _
  inferInstanceAs (Decidable (_ ∧ hasEscape id.toList = false))

/-- Whether a text can be a word of a path. -/
def isWord (text : String) : Bool :=
  !text.toList.isEmpty && text.toList.all fun c => isWireChar c && !endsHost c

/-- Whether a text can be the name of a parameter. -/
def isName (text : String) : Bool := text.toList.all fun c => isWireChar c && !separators.contains c

end Url

open Url

/-- What stands in a segment of a path. -/
inductive Piece where
  /-- a word that is the same for every resource of its kind -/
  | word (text : String)
  /-- an identifier -/
  | id (text : String)

namespace Piece

/-- A piece as it is put into a URL. -/
def text : Piece → String
  | word text | id text => text

/-- A segment says what the piece says: the word itself, or the identifier in some escaped form. -/
def FoundIn : Piece → List Char → Prop
  | word text, segment => segment = text.toList
  | id text, segment => decode segment = bytesOf text

end Piece

/-- A part of a query names a parameter and gives its value in some escaped form. -/
def Target.ParameterIn (parameter : String × String) (part : List Char) : Prop :=
  part.takeWhile (· != '=') = parameter.1.toList ∧
    decode ((part.dropWhile (· != '=')).drop 1) = bytesOf parameter.2

namespace Resource

/-- The segments of the path, with the identifiers told from the words. -/
def pieces : Resource → List Piece
  | listing (.groupUsers group) => [.word "v3", .word "groups", .id group, .word "users"]
  | listing (.members _ pool) =>
    [.word "v2", .word "lbaas", .word "pools", .id pool, .word "members"]
  | listing (.amphoraStatistics amphora) =>
    [.word "v2", .word "octavia", .word "amphorae", .id amphora, .word "stats"]
  | flavor id => [.word "flavors", .id id]
  | quotaSet project => [.word "os-quota-sets", .id project]
  | networkQuotas project => [.word "v2.0", .word "quotas", .id project]
  | loadBalancerStatistics loadBalancer =>
    [.word "v2", .word "lbaas", .word "loadbalancers", .id loadBalancer, .word "stats"]
  | listenerStatistics listener =>
    [.word "v2", .word "lbaas", .word "listeners", .id listener, .word "stats"]
  | r => r.target.segments.map .word

/-- The identifiers of the path. -/
def pathIds (r : Resource) : List String :=
  r.pieces.filterMap fun
    | .word _ => none
    | .id text => some text

/-- The identifiers of the query. What is asked of the hypervisors is not about an identifier. -/
def queryIds : Resource → List String
  | listing .hypervisors => []
  | r => r.target.parameters.map Prod.snd

/-- A URL addresses a resource below an endpoint. -/
structure Addresses (r : Resource) (endpoint url : String) : Prop where
  /-- the path is the endpoint's, followed by the segments of the resource -/
  path : ∃ own, segmentsOf url = (endpoint.toList.splitOn '/').map written ++ own ∧
    List.Forall₂ Piece.FoundIn r.pieces own
  /-- the query has exactly the parameters of the resource -/
  query : List.Forall₂ Target.ParameterIn r.target.parameters (parametersOf url)

theorem map_text_pieces (r : Resource) : r.pieces.map Piece.text = r.target.segments := by
  cases r with
  | listing l => cases l <;> rfl
  | _ => rfl

/-- The words of every path are words. -/
theorem isWord_of_mem_pieces (r : Resource) {text : String} (h : Piece.word text ∈ r.pieces) :
    isWord text = true := by
  have hall : (r.pieces.all fun | .word text => isWord text | .id _ => true) = true := by
    cases r with
    | listing l => cases l <;> rfl
    | _ => rfl
  exact List.all_eq_true.1 hall _ h

/-- The names of all parameters are names. -/
theorem isName_of_mem_parameters (r : Resource) {parameter : String × String}
    (h : parameter ∈ r.target.parameters) : isName parameter.1 = true := by
  have hall : (r.target.parameters.all fun parameter => isName parameter.1) = true := by
    cases r with
    | listing l =>
      cases l <;> simp only [target, Listing.target, List.all_cons, List.all_nil,
        Bool.and_true] <;> rfl
    | servers project =>
      simp only [target, List.all_cons, List.all_nil, Bool.and_true]
      rfl
    | _ => rfl
  exact List.all_eq_true.1 hall _ h

/-- A path that stands above an identifier has more than one segment. -/
theorem exists_pieces_of_ids (r : Resource) (h : r.pathIds ++ r.queryIds ≠ []) :
    ∃ first second rest, r.pieces = .word first :: second :: rest := by
  cases r with
  | listing l =>
    cases l <;> first
      | exact ⟨_, _, _, rfl⟩
      | exact absurd rfl h
  | registeredLimits | limits | computeLimits => exact absurd rfl h
  | _ => exact ⟨_, _, _, rfl⟩

end Resource

/-! ## Taking the path apart -/

namespace Url

/-- What a URL has before its query and its fragment. -/
def beforeQuery (cs : List Char) : List Char := (cs.takeWhile (· != '#')).takeWhile (· != '?')

variable {cs rest : List Char}

theorem ne_of_endsHost {c : Char} (h : endsHost c = false) : c ≠ '/' ∧ c ≠ '?' ∧ c ≠ '#' := by
  simpa [endsHost, and_assoc] using h

theorem beforeQuery_append (h : ∀ c ∈ cs, c ≠ '?' ∧ c ≠ '#') (rest : List Char) :
    beforeQuery (cs ++ rest) = cs ++ beforeQuery rest := by
  rw [beforeQuery, List.takeWhile_append_of_pos, List.takeWhile_append_of_pos, beforeQuery]
  · intro c hc
    simpa using (h c hc).1
  · intro c hc
    simpa using (h c hc).2

theorem beforeQuery_of_head? (h : rest.head? = some '?' ∨ rest = []) : beforeQuery rest = [] := by
  rcases h with h | rfl
  · obtain ⟨more, rfl⟩ := List.head?_eq_some_iff.1 h
    simp [beforeQuery]
  · rfl

/-- The first segment ends where the path does or another segment begins. -/
theorem takeWhile_beforeQuery (h : ∀ c, rest.head? = some c → endsHost c = true) (cs : List Char) :
    (beforeQuery (cs ++ rest)).takeWhile (· != '/') = cs.takeWhile (!endsHost ·) := by
  induction cs with
  | nil =>
    cases rest with
    | nil => rfl
    | cons c more =>
      have hend := h c rfl
      simp only [endsHost, Bool.or_eq_true, beq_iff_eq] at hend
      rcases hend with (rfl | rfl) | rfl <;> simp [beforeQuery]
  | cons c more ih =>
    cases hend : endsHost c with
    | true =>
      simp only [endsHost, Bool.or_eq_true, beq_iff_eq] at hend
      rcases hend with (rfl | rfl) | rfl <;> simp [beforeQuery, endsHost]
    | false =>
      obtain ⟨hslash, hquery, hfragment⟩ := ne_of_endsHost hend
      have hstep : beforeQuery (c :: (more ++ rest)) = c :: beforeQuery (more ++ rest) := by
        simp [beforeQuery, hquery, hfragment]
      rw [List.cons_append, hstep, List.takeWhile_cons_of_pos (by simpa using hslash), ih,
        List.takeWhile_cons_of_pos (by simp [hend])]

/-- The first piece is what stands before the first separator. -/
theorem exists_splitOn_eq (a : Char) (cs : List Char) :
    ∃ more, cs.splitOn a = cs.takeWhile (· != a) :: more := by
  induction cs with
  | nil => exact ⟨[], rfl⟩
  | cons c rest ih =>
    obtain ⟨more, hmore⟩ := ih
    rw [List.splitOn_cons_eq_if_modifyHead, hmore]
    by_cases h : c = a
    · exact ⟨_, by simp [h]; rfl⟩
    · exact ⟨more, by simp [h]⟩

/-- What hangs below a text is taken apart by itself. -/
theorem splitOn_append_below (h : rest.head? = some '/' ∨ rest = []) (cs : List Char) :
    (cs ++ rest).splitOn '/' = cs.splitOn '/' ++ splitBelow '/' rest := by
  rcases h with h | rfl
  · obtain ⟨more, rfl⟩ := List.head?_eq_some_iff.1 h
    exact List.splitOn_append_cons_self cs more
  · simp [splitBelow]

/-- An identifier's segment holds what the identifier has before its first separator, so that it
says the whole identifier only if that is plain. -/
theorem decode_written_takeWhile_iff (id : String) :
    decode (written (id.toList.takeWhile (!endsHost ·))) = bytesOf id ↔ IsPlain id := by
  rw [bytesOf_eq_bytes]
  constructor
  · intro hread
    have hsplit := List.takeWhile_append_dropWhile (p := (!endsHost ·)) (l := id.toList)
    have hwhole : id.toList.takeWhile (!endsHost ·) = id.toList := by
      have hle := length_decode_written_le (id.toList.takeWhile (!endsHost ·))
      have hlost := le_length_bytes (id.toList.dropWhile (!endsHost ·))
      rw [hread, ← hsplit, bytes_append, List.length_append, hsplit] at hle
      have hnil : id.toList.dropWhile (!endsHost ·) = [] := List.length_eq_zero_iff.1 (by omega)
      rwa [hnil, List.append_nil] at hsplit
    rw [hwhole] at hread
    refine ⟨?_, decode_written_eq_iff.1 hread⟩
    intro c hc
    simpa using List.takeWhile_eq_self_iff.1 hwhole c hc
  · rintro ⟨hopen, hescape⟩
    have hwhole : id.toList.takeWhile (!endsHost ·) = id.toList :=
      List.takeWhile_eq_self_iff.2 fun c hc => by simp [hopen c hc]
    rw [hwhole, decode_written hescape]

/-! ## The wire form -/

theorem exists_dropWhile_eq (h : ∀ c ∈ cs, c ≠ '?' ∧ c ≠ '#') (rest : List Char) :
    ∃ more, (cs ++ '/' :: rest).dropWhile (!endsHost ·) = '/' :: more := by
  induction cs with
  | nil => exact ⟨rest, rfl⟩
  | cons c more ih =>
    obtain ⟨hquery, hfragment⟩ := h c List.mem_cons_self
    by_cases hslash : c = '/'
    · subst hslash
      exact ⟨more ++ '/' :: rest, rfl⟩
    · rw [List.cons_append, List.dropWhile_cons_of_pos
        (by simp [endsHost, hslash, hquery, hfragment])]
      exact ih fun d hd => h d (List.mem_cons_of_mem c hd)

/-- A slash before any query is the path's, so that none is added. -/
theorem withPath_append (h : ∀ c ∈ cs, c ≠ '?' ∧ c ≠ '#') (rest : List Char) :
    withPath (cs ++ '/' :: rest) = cs ++ '/' :: rest := by
  obtain ⟨more, hmore⟩ := exists_dropWhile_eq h rest
  rw [withPath, hmore]
  rfl

/-- A scheme has no slash but at its end. -/
theorem getLast?_take_scheme : ∀ scheme ∈ schemes, ∀ n ≤ scheme.length, '/' ∈ scheme.take n →
    (scheme.take n).getLast? = some '/' := by decide

/-- A text with a slash, and not at its end, goes beyond the scheme of every
URL that begins with it. -/
theorem length_scheme_le (hslash : '/' ∈ cs) (hlast : cs.getLast? ≠ some '/') {scheme : List Char}
    (hscheme : scheme? (cs ++ rest) = some scheme) : scheme.length ≤ cs.length := by
  by_contra hshort
  have hlower : (cs ++ rest).map Char.toLower = cs.map Char.toLower ++ rest.map Char.toLower :=
    List.map_append
  have hstarts : scheme <+: (cs ++ rest).map Char.toLower := by
    unfold scheme? at hscheme
    have hfound := List.find?_some hscheme
    exact List.isPrefixOf_iff_prefix.1 hfound
  -- the text would end within the scheme, whose only slashes stand at its end
  have htake : scheme.take cs.length = cs.map Char.toLower := by
    have hequal := List.prefix_iff_eq_take.1 hstarts
    rw [hequal, List.take_take, hlower, Nat.min_eq_left (by omega)]
    exact List.take_left' (List.length_map _)
  have hend := getLast?_take_scheme scheme (List.mem_of_find?_eq_some hscheme) cs.length (by omega)
  rw [htake] at hend
  have hlower := hend (List.mem_map.2 ⟨'/', hslash, rfl⟩)
  rw [List.getLast?_map] at hlower
  obtain ⟨c, hc, hlow⟩ := Option.map_eq_some_iff.1 hlower
  rw [eq_of_toLower_eq rfl hlow] at hc
  exact hlast hc

/-- A URL with a segment in its path goes over the wire as it is written. -/
theorem encodedChars_append (h : ∀ c ∈ cs, c ≠ '?' ∧ c ≠ '#') (hslash : '/' ∈ cs)
    (hlast : cs.getLast? ≠ some '/') (rest : List Char) :
    encodedChars (cs ++ '/' :: rest) = written (cs ++ '/' :: rest) := by
  rw [encodedChars, written]
  congr
  cases hscheme : scheme? (cs ++ '/' :: rest) with
  | none => rfl
  | some scheme =>
    have hlength := length_scheme_le hslash hlast hscheme
    dsimp only
    rw [List.drop_append_of_le_length hlength, withPath_append,
      ← List.drop_append_of_le_length hlength, List.take_append_drop]
    intro c hc
    exact h c (List.mem_of_mem_drop hc)

end Url

/-! ## The URL of a resource -/

namespace Piece

/-- Whether a piece can be told from its segment. -/
def IsPlain : Piece → Prop
  | word text => isWord text = true
  | id text => Url.IsPlain text

variable {p : Piece} {pieces : List Piece} {query : List Char}

/-- What follows an endpoint: each piece after a slash, and the query. -/
def below (pieces : List Piece) (query : List Char) : List Char :=
  pieces.flatMap (fun p => '/' :: p.text.toList) ++ query

theorem below_cons (p : Piece) (pieces : List Piece) (query : List Char) :
    below (p :: pieces) query = '/' :: (p.text.toList ++ below pieces query) := by
  simp [below]

theorem head?_below (hquery : query.head? = some '?' ∨ query = []) (pieces : List Piece) :
    ∀ c, (below pieces query).head? = some c → endsHost c = true := by
  intro c hc
  cases pieces with
  | nil =>
    rcases hquery with h | rfl
    · rw [below, List.flatMap_nil, List.nil_append, h] at hc
      cases hc
      decide
    · cases hc
  | cons p rest =>
    rw [below_cons] at hc
    cases hc
    decide

theorem head?_beforeQuery_below (hquery : query.head? = some '?' ∨ query = [])
    (pieces : List Piece) :
    (beforeQuery (below pieces query)).head? = some '/' ∨
    beforeQuery (below pieces query) = [] := by
  cases pieces with
  | nil => exact Or.inr (beforeQuery_of_head? hquery)
  | cons p rest => simp [below_cons, beforeQuery]

theorem isOpen_of_isWord {text : String} (h : isWord text = true) :
    ∀ c ∈ text.toList, isWireChar c = true ∧ endsHost c = false := by
  intro c hc
  rw [isWord, Bool.and_eq_true, List.all_eq_true] at h
  simpa using h.2 c hc

theorem ne_nil_of_isWord {text : String} (h : isWord text = true) : text.toList ≠ [] := by
  rw [isWord, Bool.and_eq_true] at h
  simpa using h.1

theorem endsHost_of_isPlain (h : p.IsPlain) : ∀ c ∈ p.text.toList, endsHost c = false := by
  cases p with
  | word text => exact fun c hc => (isOpen_of_isWord h c hc).2
  | id text => exact h.1

/-- A piece is found in its segment if it is plain, and only then. -/
theorem foundIn_iff (hword : ∀ text, p = .word text → isWord text = true) :
    p.FoundIn (written (p.text.toList.takeWhile (!endsHost ·))) ↔ p.IsPlain := by
  cases p with
  | id text => exact decode_written_takeWhile_iff text
  | word text =>
    have hplain := hword text rfl
    have hopen := isOpen_of_isWord hplain
    have hwhole : text.toList.takeWhile (!endsHost ·) = text.toList :=
      List.takeWhile_eq_self_iff.2 fun c hc => by simp [(hopen c hc).2]
    have hsame : written text.toList = text.toList :=
      written_of_forall_isWireChar fun c hc => (hopen c hc).1
    simp [FoundIn, IsPlain, Piece.text, hwhole, hsame, hplain]

/-- A plain piece has its segment to itself. -/
theorem splitOn_of_isPlain (hquery : query.head? = some '?' ∨ query = []) (h : p.IsPlain)
    (pieces : List Piece) :
    (beforeQuery (p.text.toList ++ below pieces query)).splitOn '/' =
      p.text.toList :: splitBelow '/' (beforeQuery (below pieces query)) := by
  have hopen := endsHost_of_isPlain h
  have hslash : '/' ∉ p.text.toList := fun hmem => (ne_of_endsHost (hopen _ hmem)).1 rfl
  rw [beforeQuery_append fun c hc => (ne_of_endsHost (hopen c hc)).2,
    splitOn_append_below (head?_beforeQuery_below hquery pieces), List.splitOn_eq_singleton hslash,
    List.singleton_append]

/-- **Each piece is found in a segment of its own** if all of them are plain, and only then. By
induction on the pieces: the first that is not plain is not found where it should be. -/
theorem foundIn_below_iff (hquery : query.head? = some '?' ∨ query = [])
    (hwords : ∀ text, .word text ∈ pieces → isWord text = true) :
    List.Forall₂ FoundIn pieces ((splitBelow '/' (beforeQuery (below pieces query))).map written) ↔
      ∀ p ∈ pieces, p.IsPlain := by
  induction pieces with
  | nil => simp [below, beforeQuery_of_head? hquery, splitBelow]
  | cons p rest ih =>
    have hstep : splitBelow '/' (beforeQuery (below (p :: rest) query)) =
        (beforeQuery (p.text.toList ++ below rest query)).splitOn '/' := by
      simp [below_cons, beforeQuery, splitBelow]
    have hword := foundIn_iff (p := p) fun text htext => hwords text (by simp [htext])
    have ih := ih fun text htext => hwords text (List.mem_cons_of_mem p htext)
    rw [hstep]
    constructor
    · intro hfound
      have hplain : p.IsPlain := by
        obtain ⟨more, hfirst⟩ :=
          exists_splitOn_eq '/' (beforeQuery (p.text.toList ++ below rest query))
        rw [hfirst, takeWhile_beforeQuery (head?_below hquery rest), List.map_cons,
          List.forall₂_cons] at hfound
        exact hword.1 hfound.1
      rw [splitOn_of_isPlain hquery hplain, List.map_cons, List.forall₂_cons] at hfound
      exact List.forall_mem_cons.2 ⟨hplain, ih.1 hfound.2⟩
    · intro hplain
      obtain ⟨hfirst, hrest⟩ := List.forall_mem_cons.1 hplain
      have hfound := hword.2 hfirst
      rw [List.takeWhile_eq_self_iff.2 fun c hc => by
        simp [endsHost_of_isPlain hfirst c hc]] at hfound
      rw [splitOn_of_isPlain hquery hfirst, List.map_cons]
      exact List.Forall₂.cons hfound (ih.2 hrest)

end Piece

namespace Target

variable {parameter : String × String} {parameters : List (String × String)}

theorem isWireChar_of_mem_encode {value : String} :
    ∀ c ∈ (encode value).toList, isWireChar c = true := by
  intro c hc
  rw [encode, String.toList_ofList] at hc
  exact isWireChar_of_mem_encodeBytes hc

theorem toList_parameterText (parameter : String × String) :
    (parameterText parameter).toList = parameter.1.toList ++
      '=' :: (encode parameter.2).toList := by
  simp [parameterText]

/-- A parameter goes over the wire as it is written. -/
theorem isWireChar_of_mem_parameterText (hname : isName parameter.1 = true) :
    ∀ c ∈ (parameterText parameter).toList, isWireChar c = true := by
  intro c hc
  rw [toList_parameterText, List.mem_append, List.mem_cons] at hc
  rcases hc with hc | rfl | hc
  · have hopen := List.all_eq_true.1 hname c hc
    rw [Bool.and_eq_true] at hopen
    exact hopen.1
  · decide
  · exact isWireChar_of_mem_encode c hc

theorem not_mem_of_isName {name : String} (h : isName name = true) {c : Char}
    (hc : c ∈ separators) : c ∉ name.toList := by
  intro hmem
  have hopen := List.all_eq_true.1 h c hmem
  simp [hc] at hopen

/-- Nothing in a parameter can be taken for the end of it. -/
theorem not_mem_parameterText (hname : isName parameter.1 = true) {c : Char} (hc : c ∈ separators)
    (hne : c ≠ '=') : c ∉ (parameterText parameter).toList := by
  rw [toList_parameterText, List.mem_append, List.mem_cons, not_or, not_or]
  exact ⟨not_mem_of_isName hname hc, hne, not_mem_encode hc parameter.2⟩

/-- **A parameter is read as it was meant**, whatever its value is. -/
theorem parameterIn_parameterText (hname : isName parameter.1 = true) :
    ParameterIn parameter (parameterText parameter).toList := by
  have hpass : ∀ c ∈ parameter.1.toList, (c != '=') = true := by
    intro c hc
    have hne : c ≠ '=' := fun heq => not_mem_of_isName hname (by decide) (heq ▸ hc)
    simpa using hne
  rw [ParameterIn, toList_parameterText, List.takeWhile_append_of_pos hpass,
    List.dropWhile_append_of_pos hpass]
  simp [encode, decode_encodeBytes]

theorem toList_queryText (h : parameters ≠ []) :
    (queryText parameters).toList =
      '?' :: ['&'].intercalate (parameters.map fun p => (parameterText p).toList) := by
  cases parameters with
  | nil => exact absurd rfl h
  | cons parameter rest => simp [queryText, String.toList_intercalate, Function.comp_def]

theorem head?_queryText (parameters : List (String × String)) :
    (queryText parameters).toList.head? = some '?' ∨ (queryText parameters).toList = [] := by
  cases parameters with
  | nil => exact Or.inr rfl
  | cons parameter rest => exact Or.inl (by simp [toList_queryText])

theorem mem_of_mem_intercalate {c a : Char} {parts : List (List Char)}
    (h : c ∈ [a].intercalate parts) : c = a ∨ ∃ part ∈ parts, c ∈ part := by
  induction parts with
  | nil => cases h
  | cons part rest ih =>
    cases rest with
    | nil => exact Or.inr ⟨part, List.mem_cons_self, by simpa using h⟩
    | cons next more =>
      rw [List.intercalate_cons_cons, List.append_assoc, List.mem_append, List.mem_append,
        List.mem_singleton] at h
      rcases h with h | h | h
      · exact Or.inr ⟨part, List.mem_cons_self, h⟩
      · exact Or.inl h
      · exact (ih h).imp_right fun ⟨part', hmem, hc⟩ => ⟨part', List.mem_cons_of_mem part hmem, hc⟩

/-- A query is not taken for a fragment. -/
theorem ne_of_mem_queryText (hnames : ∀ p ∈ parameters, isName p.1 = true) :
    ∀ c ∈ (queryText parameters).toList, c ≠ '#' := by
  intro c hc
  by_cases h : parameters = []
  · subst h
    cases hc
  · rw [toList_queryText h, List.mem_cons] at hc
    rcases hc with rfl | hc
    · decide
    · rcases mem_of_mem_intercalate hc with rfl | ⟨part, hpart, hmem⟩
      · decide
      · obtain ⟨p, hp, rfl⟩ := List.mem_map.1 hpart
        rintro rfl
        exact not_mem_parameterText (hnames p hp) (by decide) (by decide) hmem

/-- The query is taken apart into its parameters. -/
theorem splitBelow_queryText (hnames : ∀ p ∈ parameters, isName p.1 = true) :
    splitBelow '&' (written ((queryText parameters).toList.dropWhile (· != '?'))) =
      parameters.map fun p => (parameterText p).toList := by
  by_cases h : parameters = []
  · subst h
    rw [show (queryText []).toList = [] from rfl]
    simp [splitBelow]
  · have hself : ∀ p ∈ parameters, written (parameterText p).toList = (parameterText p).toList :=
      fun p hp => written_of_forall_isWireChar (isWireChar_of_mem_parameterText (hnames p hp))
    have hclosed : ∀ part ∈ parameters.map (fun p => (parameterText p).toList), '&' ∉ part := by
      intro part hpart
      obtain ⟨p, hp, rfl⟩ := List.mem_map.1 hpart
      exact not_mem_parameterText (hnames p hp) (by decide) (by decide)
    rw [toList_queryText h, List.dropWhile_cons_of_neg (by simp), written_cons,
      written_of_isWireChar (by decide), List.singleton_append, splitBelow,
      splitOn_written (by decide), List.splitOn_intercalate '&' hclosed (by simpa using h),
      List.map_map]
    exact List.map_congr_left hself

end Target

namespace Resource

variable {r : Resource} {endpoint : String}

theorem toList_url (endpoint : String) (r : Resource) :
    (r.url endpoint).toList =
      endpoint.toList ++ Piece.below r.pieces (Target.queryText r.target.parameters).toList := by
  simp [url, Target.text, Target.pathText, String.toList_join, ← map_text_pieces,
    Piece.below, List.flatMap_map]

theorem mem_pathIds {id : String} : id ∈ r.pathIds ↔ Piece.id id ∈ r.pieces := by
  rw [pathIds, List.mem_filterMap]
  constructor
  · rintro ⟨p, hp, htext⟩
    cases p with
    | word text => cases htext
    | id text =>
      cases htext
      exact hp
  · exact fun h => ⟨_, h, rfl⟩

theorem forall_isPlain_iff : (∀ p ∈ r.pieces, p.IsPlain) ↔ ∀ id ∈ r.pathIds, Url.IsPlain id := by
  constructor
  · exact fun h id hid => h _ (mem_pathIds.1 hid)
  · intro h p hp
    cases p with
    | word text => exact isWord_of_mem_pieces r hp
    | id text => exact h text (mem_pathIds.2 hp)

/-- An endpoint without query and fragment ends neither a path nor a URL. -/
theorem ne_of_mem_endpoint (hquery : '?' ∉ endpoint.toList) (hfragment : '#' ∉ endpoint.toList) :
    ∀ c ∈ endpoint.toList, c ≠ '?' ∧ c ≠ '#' := by
  intro c hc
  constructor
  · rintro rfl
    exact hquery hc
  · rintro rfl
    exact hfragment hc

/-- The URL goes over the wire with neither slash nor segment added to it. -/
theorem toList_wire_url (hquery : '?' ∉ endpoint.toList) (hfragment : '#' ∉ endpoint.toList)
    (hids : r.pathIds ++ r.queryIds ≠ []) :
    (Url.wire (r.url endpoint)).toList =
      written ((r.url endpoint).toList.takeWhile (· != '#')) := by
  obtain ⟨first, second, rest, hpieces⟩ := exists_pieces_of_ids r hids
  have hfirst : isWord first = true := isWord_of_mem_pieces r (by simp [hpieces])
  have hopen := Piece.isOpen_of_isWord hfirst
  have hpass : ∀ c ∈ endpoint.toList ++ '/' :: first.toList, c ≠ '?' ∧ c ≠ '#' := by
    intro c hc
    rw [List.mem_append, List.mem_cons] at hc
    rcases hc with hc | rfl | hc
    · exact ne_of_mem_endpoint hquery hfragment c hc
    · decide
    · exact (ne_of_endsHost (hopen c hc).2).2
  have hlast : (endpoint.toList ++ '/' :: first.toList).getLast? ≠ some '/' := by
    have hne := Piece.ne_nil_of_isWord hfirst
    rw [List.append_cons, List.getLast?_append_of_ne_nil _ hne, List.getLast?_eq_some_getLast hne]
    intro heq
    exact (ne_of_endsHost (hopen _ (List.getLast_mem hne)).2).1 (Option.some_inj.1 heq)
  have hcut : ∀ more, (endpoint.toList ++ '/' :: first.toList ++ '/' :: more).takeWhile (· != '#') =
      endpoint.toList ++ '/' :: first.toList ++ '/' :: more.takeWhile (· != '#') := by
    intro more
    rw [List.takeWhile_append_of_pos fun c hc => by simpa using (hpass c hc).2]
    simp
  have hurl : (r.url endpoint).toList = endpoint.toList ++ '/' :: first.toList ++
      '/' :: (second.text.toList ++
        Piece.below rest (Target.queryText r.target.parameters).toList) := by
    rw [toList_url, hpieces, Piece.below_cons, Piece.below_cons]
    simp [Piece.text]
  rw [Url.wire, String.toList_ofList, hurl, hcut, encodedChars_append hpass (by simp) hlast]

theorem segmentsOf_wire_url (hquery : '?' ∉ endpoint.toList) (hfragment : '#' ∉ endpoint.toList)
    (hids : r.pathIds ++ r.queryIds ≠ []) :
    segmentsOf (Url.wire (r.url endpoint)) = (endpoint.toList.splitOn '/').map written ++
      (splitBelow '/' (beforeQuery
        (Piece.below r.pieces (Target.queryText r.target.parameters).toList))).map written := by
  have hpass := ne_of_mem_endpoint hquery hfragment
  have hbelow := Piece.head?_beforeQuery_below (Target.head?_queryText r.target.parameters) r.pieces
  rw [segmentsOf, toList_wire_url hquery hfragment hids, takeWhile_written (by decide),
    splitOn_written (by decide), ← beforeQuery, toList_url, beforeQuery_append hpass,
    splitOn_append_below hbelow, List.map_append]

/-- Where every identifier of the path is plain, the query comes through. -/
theorem parametersOf_wire_url (hquery : '?' ∉ endpoint.toList) (hfragment : '#' ∉ endpoint.toList)
    (hids : r.pathIds ++ r.queryIds ≠ []) (hplain : ∀ p ∈ r.pieces, p.IsPlain) :
    parametersOf (Url.wire (r.url endpoint)) =
      r.target.parameters.map fun p => (Target.parameterText p).toList := by
  have hpass : ∀ c ∈ endpoint.toList ++ r.pieces.flatMap (fun p => '/' :: p.text.toList),
      c ≠ '?' ∧ c ≠ '#' := by
    intro c hc
    rw [List.mem_append, List.mem_flatMap] at hc
    rcases hc with hc | ⟨p, hp, hc⟩
    · exact ne_of_mem_endpoint hquery hfragment c hc
    · rcases List.mem_cons.1 hc with rfl | hc
      · decide
      · exact (ne_of_endsHost (Piece.endsHost_of_isPlain (hplain p hp) c hc)).2
  have hnames : ∀ p ∈ r.target.parameters, isName p.1 = true := fun p => isName_of_mem_parameters r
  rw [parametersOf, toList_wire_url hquery hfragment hids, toList_url, Piece.below,
    ← List.append_assoc, List.takeWhile_append_of_pos fun c hc => by simpa using (hpass c hc).2,
    List.takeWhile_eq_self_iff.2 fun c hc => by simpa using Target.ne_of_mem_queryText hnames c hc,
    dropWhile_written (by decide), List.dropWhile_append_of_pos
      fun c hc => by simpa using (hpass c hc).1,
    Target.splitBelow_queryText hnames]

/-- **Exactly the plain identifiers of a path reach their segments**, and with them all parameters
reach the query, whatever their values are. -/
theorem addresses_url_iff (hquery : '?' ∉ endpoint.toList) (hfragment : '#' ∉ endpoint.toList)
    (hids : r.pathIds ++ r.queryIds ≠ []) :
    r.Addresses endpoint (Url.wire (r.url endpoint)) ↔ ∀ id ∈ r.pathIds, Url.IsPlain id := by
  have hhead := Target.head?_queryText r.target.parameters
  have hfound := Piece.foundIn_below_iff hhead fun text => isWord_of_mem_pieces r
  rw [← forall_isPlain_iff]
  constructor
  · rintro ⟨⟨own, hown, hpieces⟩, -⟩
    rw [segmentsOf_wire_url hquery hfragment hids] at hown
    rw [← List.append_cancel_left hown] at hpieces
    exact hfound.1 hpieces
  · intro hplain
    refine ⟨⟨_, segmentsOf_wire_url hquery hfragment hids, hfound.2 hplain⟩, ?_⟩
    rw [parametersOf_wire_url hquery hfragment hids hplain, List.forall₂_map_right_iff,
      List.forall₂_same]
    exact fun p hp => Target.parameterIn_parameterText (isName_of_mem_parameters r hp)

/-- Any text can be asked for in a query, and a text with blanks and accents even in a path. -/
theorem addresses_members_url :
    '?' ∉ "http://octavia".toList ∧ '#' ∉ "http://octavia".toList ∧
      (listing (.members "a&b=/#?%41" "é 100%")).pathIds ++
        (listing (.members "a&b=/#?%41" "é 100%")).queryIds ≠ [] ∧
      (listing (.members "a&b=/#?%41" "é 100%")).Addresses "http://octavia"
        (Url.wire ((listing (.members "a&b=/#?%41" "é 100%")).url "http://octavia")) :=
  ⟨by decide, by decide, by decide,
    (addresses_url_iff (by decide) (by decide) (by decide)).2 (by decide)⟩

/-- A slash in the identifier of a flavor makes two segments of it, so that another
resource is addressed. -/
theorem not_addresses_flavor_url :
    '?' ∉ "http://nova".toList ∧ '#' ∉ "http://nova".toList ∧
      (flavor "a/b").pathIds ++ (flavor "a/b").queryIds ≠ [] ∧
      ¬ (flavor "a/b").Addresses "http://nova" (Url.wire ((flavor "a/b").url "http://nova")) := by
  refine ⟨by decide, by decide, by decide, ?_⟩
  rintro ⟨⟨own, hown, hpieces⟩, -⟩
  have hsegments : (segmentsOf (Url.wire ((flavor "a/b").url "http://nova"))).length = 6 := by
    decide +kernel
  have hendpoint : ("http://nova".toList.splitOn '/').length = 3 := by decide
  have htwo : own.length = 2 := hpieces.length_eq.symm
  rw [hown, List.length_append, List.length_map, hendpoint, htwo] at hsegments
  cases hsegments

end Resource

end StackWatch
