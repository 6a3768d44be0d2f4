import Mathlib.Data.List.Forall2
import StackWatch.Proofs.Granting

/-!
# Catalogs are read as they are written

A record may be given as an object or as an array of its fields in the order of their declaration,
on each of the three levels of a catalog. `Catalog.Spells` says what a catalog may look like: an
object may have members that are not known, in any order, and what is not required may be left out
or, if it is a text, be null. Every such form is read as the catalog that it spells
(`Catalog.Spells.read`), and the form in which catalogs are written is one of them
(`Catalog.spells_toJson`). So a catalog that was read from any form and written is read again as it
was (`Catalog.written_and_read`).

A record is read in two steps. First, nothing that is given is refused (`Schema.exists_read`); then
each field holds what was given for it (`Schema.Shows.fills`). A record type whose fields do not
touch each other and make up its records is laid out in `Schema.Slots`, and then a record is read as
the one whose slots show what was given (`Schema.Slots.read_eq`). Endpoints and entries both are.
-/

namespace StackWatch

/-! ## Values that are not refused -/

/-- An object, or an array of at most as many items as there are fields. -/
def Json.isRecordOf (fields : Nat) : Json → Bool
  | .obj _ => true
  | .arr items => items.length ≤ fields
  | _ => false

/-- A field that stores a value whatever the record is. -/
def Field.Takes {ρ : Type} (field : Field ρ) (value : Json) : Prop :=
  ∀ record, ∃ record', field.store value record = .ok record'

theorem Field.takes_of {ρ α : Type} {name : String} {required : Bool}
    {read : Reader α} {set : α → ρ → ρ} {value : Json} {a : α} (h : read value = .ok a) :
    (Field.of name required read set).Takes value := by
  intro record
  refine ⟨set a record, ?_⟩
  change (read value).map _ = _
  rw [h]
  rfl

namespace Schema

variable {ρ : Type} {schema : Schema ρ}

/-- What is given for a field that stands at a place is taken, and something is
given if it is required. -/
def Accepts (value : Json) (p : Field ρ × Nat) : Prop :=
  (∀ v ∈ value.given p.1.name p.2, p.1.Takes v) ∧
    (p.1.required = true → value.given p.1.name p.2 ≠ [])

theorem exists_storeMembers {members : List (String × Json)}
    (h : ∀ m ∈ members, ∀ field ∈ schema.fields, field.name = m.1 → field.Takes m.2) :
    ∀ record, ∃ record', schema.storeMembers record members = .ok record' := by
  induction members with
  | nil => exact fun record => ⟨record, rfl⟩
  | cons m rest ih =>
    obtain ⟨key, value⟩ := m
    obtain ⟨hfirst, hrest⟩ := List.forall_mem_cons.1 h
    intro record
    unfold storeMembers
    split
    · exact ih hrest record
    · next field hfield =>
      obtain ⟨hmem, hname⟩ := field?_eq_some hfield
      obtain ⟨record₁, hstore⟩ := hfirst field hmem hname record
      rw [hstore]
      exact ih hrest record₁

/-- Items are stored if each field takes the one at its place and what is required has one. By
induction on the fields, the first of which stands at the place `index`. -/
theorem exists_storeItems {items : List Json} {fields : List (Field ρ)} :
    ∀ {index : Nat} {record : ρ}, items.length ≤ index + fields.length →
      (∀ p ∈ fields.zipIdx index, Accepts (.arr items) p) →
      ∃ record', schema.storeItems index record fields (items.drop index) = .ok (record', []) := by
  induction fields with
  | nil =>
    intro index record hlength _
    rw [List.drop_eq_nil_of_le (by simpa using hlength)]
    exact ⟨record, rfl⟩
  | cons field rest ih =>
    intro index record hlength haccepts
    rw [List.zipIdx_cons, List.forall_mem_cons] at haccepts
    obtain ⟨⟨htakes, hgiven⟩, hrest⟩ := haccepts
    have hrestLength : items.length ≤ index + 1 + rest.length := by
      rw [List.length_cons] at hlength
      omega
    cases hitem : items[index]? with
    | none =>
      have hend : items.length ≤ index := List.getElem?_eq_none_iff.1 hitem
      have hoptional : field.required = false := by
        by_contra hrequired
        exact hgiven (by simpa using hrequired) (by simp [Json.given, hitem])
      have hnext := @ih (index + 1) record hrestLength hrest
      rw [List.drop_eq_nil_of_le (Nat.le_succ_of_le hend)] at hnext
      rw [List.drop_eq_nil_of_le hend, storeItems, if_neg (by simp [hoptional])]
      exact hnext
    | some item =>
      obtain ⟨hlt, hget⟩ := List.getElem?_eq_some_iff.1 hitem
      obtain ⟨record₁, hstore⟩ := htakes item (by simp [Json.given, hitem]) record
      rw [List.drop_eq_getElem_cons hlt, hget, storeItems, hstore]
      exact ih hrestLength hrest

/-- **A record is read** if all that is given for its fields is taken and nothing that
is required is missing. -/
theorem exists_read {value : Json} (hrecord : value.isRecordOf schema.fields.length = true)
    (haccepts : ∀ p ∈ schema.fields.zipIdx, Accepts value p) :
    ∃ record, schema.read value = .ok record := by
  have hplace : ∀ field ∈ schema.fields, ∃ place, Accepts value (field, place) := by
    intro field hfield
    obtain ⟨place, hplace⟩ := List.mem_iff_getElem?.1 hfield
    exact ⟨place, haccepts _ (List.mk_mem_zipIdx_iff_getElem?.2 hplace)⟩
  cases value with
  | obj members =>
    have htaken : ∀ m ∈ members, ∀ field ∈ schema.fields, field.name = m.1 → field.Takes m.2 := by
      intro m hm field hfield hname
      obtain ⟨place, htakes, -⟩ := hplace field hfield
      exact htakes m.2 (List.mem_map.2 ⟨m, List.mem_filter.2 ⟨hm, by simp [hname]⟩, rfl⟩)
    obtain ⟨record, hstored⟩ := exists_storeMembers htaken schema.blank
    have hcomplete : schema.firstMissing? (members.map (·.1)) = none := by
      rw [firstMissing?, Option.map_eq_none_iff, List.find?_eq_none]
      intro field hfield hmissing
      obtain ⟨hrequired, habsent⟩ := Bool.and_eq_true_iff.1 hmissing
      obtain ⟨place, -, hgiven⟩ := hplace field hfield
      obtain ⟨v, hv⟩ := List.exists_mem_of_ne_nil _ (hgiven hrequired)
      obtain ⟨m, hm, rfl⟩ := List.mem_map.1 hv
      obtain ⟨hmem, hname⟩ := List.mem_filter.1 hm
      have hlisted : field.name ∈ members.map (·.1) :=
        List.mem_map.2 ⟨m, hmem, by simpa using hname⟩
      simp [hlisted] at habsent
    refine ⟨record, ?_⟩
    simp only [read, hstored, complete, hcomplete]
  | arr items =>
    have hlength : items.length ≤ schema.fields.length := by simpa [Json.isRecordOf] using hrecord
    have hstarted : ∃ record, schema.storeItems 0 schema.blank schema.fields (items.drop 0) =
        .ok (record, []) :=
      exists_storeItems (by simpa using hlength) haccepts
    obtain ⟨record, hstored⟩ := hstarted
    refine ⟨record, ?_⟩
    rw [List.drop_zero] at hstored
    simp only [read, hstored]
  | _ => cases hrecord

end Schema

/-- What is given for a field comes to a value: nothing to the default unless something is required,
and a single value to what it is read as. -/
inductive Reader.Comes {α : Type} (read : Reader α) (required : Bool) (default : α) :
    List Json → α → Prop where
  | default (h : required = false) : Comes read required default [] default
  | single {v : Json} {a : α} (h : read v = .ok a) : Comes read required default [v] a

namespace Reader.Comes

variable {ρ α : Type} {name : String} {required : Bool} {read : Reader α} {set : α → ρ → ρ}
  {default a a' : α}

theorem accepts {value : Json} {place : Nat}
    (h : read.Comes required default (value.given name place) a) :
    Schema.Accepts value (.of name required read set, place) := by
  generalize hgiven : value.given name place = given at h
  have hgiven' : value.given (Field.of name required read set).name place = given := hgiven
  unfold Schema.Accepts
  rw [hgiven']
  cases h with
  | default h =>
    refine ⟨nofun, fun hrequired => ?_⟩
    change required = true at hrequired
    rw [h] at hrequired
    cases hrequired
  | @single v _ h =>
    refine ⟨fun v' hv' => ?_, fun _ => List.cons_ne_nil _ _⟩
    rw [List.mem_singleton.1 hv']
    exact Field.takes_of h

theorem eq_of_fills {given : List Json} (h : read.Comes required default given a)
    (hfills : read.Fills given.getLast? default a') : a' = a := by
  cases h with
  | default _ => exact hfills
  | single h => exact Except.ok.inj (hfills.symm.trans h)

end Reader.Comes

/-! ## Records that are made up of their fields -/

/-- A field that is read and put in place, and what a record shows of it. -/
structure Slot (ρ : Type) where
  {α : Type}
  name : String
  required : Bool
  read : Reader α
  set : α → ρ → ρ
  get : ρ → α

/-- The field that a slot is for. -/
def Slot.field {ρ : Type} (s : Slot ρ) : Field ρ := .of s.name s.required s.read s.set

/-- Two slots of different names, neither of which touches what the other shows. -/
@[mk_iff]
structure Slot.Apart {ρ : Type} (s t : Slot ρ) : Prop where
  name : s.name ≠ t.name
  left : ∀ a record, s.get (t.set a record) = s.get record
  right : ∀ a record, t.get (s.set a record) = t.get record

/-- The slots of a record type, which make up its records. -/
structure Schema.Slots {ρ : Type} (schema : Schema ρ) (slots : List (Slot ρ)) : Prop where
  fields : schema.fields = slots.map Slot.field
  shown : ∀ s ∈ slots, ∀ a record, s.get (s.set a record) = a
  apart : slots.Pairwise Slot.Apart
  /-- records that show the same in every slot are the same -/
  ext : ∀ record record', (∀ s ∈ slots, s.get record = s.get record') → record = record'

namespace Schema.Slots

variable {ρ : Type} {schema : Schema ρ} {slots before after : List (Slot ρ)} {s : Slot ρ}

/-- A record shows a slot that stands after some and before others. -/
theorem shows (h : schema.Slots (before ++ s :: after)) :
    schema.Shows (before.map Slot.field) s.field (after.map Slot.field) s.read s.get := by
  obtain ⟨-, hafter, hbefore⟩ := List.pairwise_append.1 h.apart
  have hothers : ∀ field ∈ before.map Slot.field ++ after.map Slot.field,
      field.name ≠ s.name ∧ field.Spares s.get := by
    rw [← List.map_append]
    intro field hfield
    obtain ⟨t, ht, rfl⟩ := List.mem_map.1 hfield
    -- a slot before this one and a slot after it are on different sides of `Slot.Apart`
    rcases List.mem_append.1 ht with ht | ht
    · have hapart := hbefore t ht s List.mem_cons_self
      exact ⟨hapart.name, Field.spares_of hapart.right⟩
    · have hapart := (List.pairwise_cons.1 hafter).1 t ht
      exact ⟨hapart.name.symm, Field.spares_of hapart.left⟩
  exact {
    fields := by rw [h.fields, List.map_append, List.map_cons]
    alone := fun field hfield => (hothers field hfield).1
    stores := Field.stores_of s.get (h.shown s (List.mem_append_right _ List.mem_cons_self))
    others := fun field hfield => (hothers field hfield).2 }

/-- **A record is read as the one whose slots show what was given for them.** -/
theorem read_eq (h : schema.Slots slots) {value : Json} {record : ρ}
    (hrecord : value.isRecordOf slots.length = true)
    (hcomes : ∀ p ∈ slots.zipIdx, p.1.read.Comes p.1.required (p.1.get schema.blank)
      (value.given p.1.name p.2) (p.1.get record)) :
    schema.read value = .ok record := by
  have haccepts : ∀ p ∈ schema.fields.zipIdx, Schema.Accepts value p := by
    rw [h.fields, List.zipIdx_map]
    intro p hp
    obtain ⟨q, hq, rfl⟩ := List.mem_map.1 hp
    exact (hcomes q hq).accepts
  obtain ⟨record', hread⟩ := schema.exists_read (by rwa [h.fields, List.length_map]) haccepts
  rw [hread, h.ext record' record]
  intro s hs
  obtain ⟨before, after, rfl⟩ := List.append_of_mem hs
  have hfills := h.shows.fills hread
  rw [List.length_map] at hfills
  have hplace : (s, before.length) ∈ (before ++ s :: after).zipIdx :=
    List.mk_mem_zipIdx_iff_getElem?.2 (by simp)
  exact (hcomes _ hplace).eq_of_fills hfills

end Schema.Slots

/-- Values that are read one by one are read together. -/
theorem Reader.list_of_forall₂ {α : Type} {read : Reader α} {values : List Json} {as : List α}
    (h : List.Forall₂ (fun value a => read value = .ok a) values as) :
    Reader.list read (.arr values) = .ok as := by
  change items read values = .ok as
  induction h with
  | nil => rfl
  | cons hfirst _ ih => rw [items, hfirst, ih]

/-! ## The forms of a catalog -/

/-- An interface is given by its name, or by an object with a null under its name. -/
inductive Interface.Spells : Json → Interface → Prop where
  | name (interface : Interface) : Spells (.str interface.name) interface
  | object (interface : Interface) : Spells (.obj [(interface.name, .null)]) interface

theorem Interface.Spells.read {value : Json} {interface : Interface}
    (h : Interface.Spells value interface) : Interface.read value = .ok interface := by
  cases h with
  | name interface => cases interface <;> rfl
  | object interface => cases interface <;> rfl

namespace Catalog

/-- What is given for a text that may be absent: nothing, null, or the text. -/
inductive SpellsText : List Json → Option String → Prop where
  | absent : SpellsText [] none
  | null : SpellsText [.null] none
  | text (s : String) : SpellsText [.str s] (some s)

/-- The forms of an endpoint. -/
structure SpellsEndpoint (value : Json) (e : CatalogEndpoint) : Prop where
  record : value.isRecordOf 3 = true
  interface : ∃ v, value.given "interface" 0 = [v] ∧ Interface.Spells v e.interface
  url : value.given "url" 1 = [.str e.url]
  region : SpellsText (value.given "region_id" 2) e.region

/-- What is given for the endpoints of an entry: nothing if there are none, or an array of them. -/
inductive SpellsEndpoints : List Json → List CatalogEndpoint → Prop where
  | absent : SpellsEndpoints [] []
  | array {values : List Json} {endpoints : List CatalogEndpoint}
      (h : List.Forall₂ SpellsEndpoint values endpoints) : SpellsEndpoints [.arr values] endpoints

/-- The forms of an entry. -/
structure SpellsEntry (value : Json) (e : CatalogEntry) : Prop where
  record : value.isRecordOf 3 = true
  type : value.given "type" 0 = [.str e.type]
  name : SpellsText (value.given "name" 1) e.name
  endpoints : SpellsEndpoints (value.given "endpoints" 2) e.endpoints

/-- The forms of a catalog: an array of forms of its entries. -/
inductive Spells : Json → Catalog → Prop where
  | array {values : List Json} {entries : List CatalogEntry}
      (h : List.Forall₂ SpellsEntry values entries) :
      Spells (.arr values) ⟨entries⟩

/-! ## Every form is read -/

/-- A text that may be absent is absent if it is not given. -/
theorem SpellsText.comes {given : List Json} {text : Option String} (h : SpellsText given text) :
    (Reader.optional Reader.string).Comes false none given text := by
  cases h with
  | absent => exact .default rfl
  | null => exact .single rfl
  | text s => exact .single rfl

/-- The slots of an endpoint. -/
def endpointSlots : List (Slot CatalogEndpoint) :=
  [⟨"interface", true, Interface.read, fun interface e => { e with interface }, (·.interface)⟩,
   ⟨"url", true, Reader.string, fun url e => { e with url }, (·.url)⟩,
   ⟨"region_id", false, Reader.optional Reader.string, fun region e => { e with region },
     (·.region)⟩]

theorem slots_endpoint : endpointSchema.Slots endpointSlots where
  fields := rfl
  shown := by simp [endpointSlots]
  apart := by simp [endpointSlots, Slot.apart_iff]
  ext := by
    rintro ⟨⟩ ⟨⟩ h
    simpa [endpointSlots] using h

theorem SpellsEndpoint.read {value : Json} {e : CatalogEndpoint} (h : SpellsEndpoint value e) :
    endpointSchema.read value = .ok e := by
  refine slots_endpoint.read_eq h.record ?_
  simp only [endpointSlots, List.zipIdx_cons, List.zipIdx_nil, List.forall_mem_cons]
  refine ⟨?interface, ?url, h.region.comes, nofun⟩
  case interface =>
    obtain ⟨v, hv, hspells⟩ := h.interface
    rw [hv]
    exact .single hspells.read
  case url =>
    rw [h.url]
    exact .single rfl

/-- The slots of an entry. -/
def entrySlots : List (Slot CatalogEntry) :=
  [⟨"type", true, Reader.string, fun type e => { e with type }, (·.type)⟩,
   ⟨"name", false, Reader.optional Reader.string, fun name e => { e with name }, (·.name)⟩,
   ⟨"endpoints", false, Reader.list endpointSchema.read, fun endpoints e => { e with endpoints },
     (·.endpoints)⟩]

theorem slots_entry : entrySchema.Slots entrySlots where
  fields := rfl
  shown := by simp [entrySlots]
  apart := by simp [entrySlots, Slot.apart_iff]
  ext := by
    rintro ⟨⟩ ⟨⟩ h
    simpa [entrySlots] using h

theorem SpellsEndpoints.comes {given : List Json} {endpoints : List CatalogEndpoint}
    (h : SpellsEndpoints given endpoints) :
    (Reader.list endpointSchema.read).Comes false [] given endpoints := by
  cases h with
  | absent => exact .default rfl
  | array h => exact .single (Reader.list_of_forall₂ (h.imp fun _ _ => SpellsEndpoint.read))

theorem SpellsEntry.read {value : Json} {e : CatalogEntry} (h : SpellsEntry value e) :
    entrySchema.read value = .ok e := by
  refine slots_entry.read_eq h.record ?_
  simp only [entrySlots, List.zipIdx_cons, List.zipIdx_nil, List.forall_mem_cons]
  refine ⟨?type, h.name.comes, h.endpoints.comes, nofun⟩
  case type =>
    rw [h.type]
    exact .single rfl

theorem Spells.read {value : Json} {catalog : Catalog} (h : Spells value catalog) :
    Catalog.read value = .ok catalog := by
  obtain @⟨values, entries, h⟩ := h
  rw [Catalog.read, Reader.list_of_forall₂ (h.imp fun _ _ => SpellsEntry.read)]
  rfl

/-! ## Catalogs as they are written -/

theorem spellsText_textOrNull (text : Option String) : SpellsText [textOrNull text] text := by
  cases text with
  | none => exact .null
  | some s => exact .text s

theorem spells_endpointJson (e : CatalogEndpoint) : SpellsEndpoint (endpointJson e) e where
  record := rfl
  interface := ⟨_, rfl, .name e.interface⟩
  url := rfl
  region := spellsText_textOrNull e.region

theorem spells_entryJson (e : CatalogEntry) : SpellsEntry (entryJson e) e where
  record := rfl
  type := rfl
  name := spellsText_textOrNull e.name
  endpoints :=
    .array (List.forall₂_map_left_iff.2 (List.forall₂_same.2 fun e _ => spells_endpointJson e))

/-- A written catalog is a form of it. -/
theorem spells_toJson (catalog : Catalog) : Spells catalog.toJson catalog :=
  .array (List.forall₂_map_left_iff.2 (List.forall₂_same.2 fun e _ => spells_entryJson e))

/-- **Catalogs are read as they are written.** A written catalog is read as it was, in the same
order; so is every other form of a catalog, with unknown members, without what is not required, with
nulls, and with arrays in place of objects. What was read from any value at all is the same after it
was written and read again, and so are the endpoints that are found in it. -/
theorem written_and_read :
    (∀ catalog : Catalog, read catalog.toJson = .ok catalog) ∧
    (∀ value catalog, Spells value catalog → read value = .ok catalog) ∧
    ∀ value catalog, read value = .ok catalog → ∃ again, read catalog.toJson = .ok again ∧
    again = catalog ∧
      ∀ c interface, again.findUrl? c interface = catalog.findUrl? c interface ∧
        again.contains c = catalog.contains c :=
  ⟨fun catalog => (spells_toJson catalog).read, fun _ _ h => h.read,
    fun _ catalog _ => ⟨catalog, (spells_toJson catalog).read, rfl, fun _ _ => ⟨rfl, rfl⟩⟩⟩

end Catalog

end StackWatch
