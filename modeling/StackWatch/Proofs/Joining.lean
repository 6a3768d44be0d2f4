import StackWatch.Proofs.Pruning

/-!
# Parts of a run beside one that leaves something out

Beside a run goes a second one whose configuration leaves out something optional (`Omission`). It is
`Run.Behind` the first: it has reported the same but for what was emitted for the extra. Under one
login both are `Run.Nearby`, and have read the same of the URLs that are not the extra's own.

`Run.Joint` is the rule by which parts of the two runs, which need not be the same, keep them so. It
asks of the journal of the first run that the URLs of its operations tell those for the extra from
the others. A part may be one that the first run does and the second one leaves out
(`Omission.instead`), and then its loops and its conditions are left out as a whole
(`joint_forEach_instead`, `joint_ifAsked`).
-/

namespace StackWatch

/-- A session that holds a login holds no other. -/
theorem Session.Holds.eq_some {s : Session} {held : Option Login} {login : Login} (h : s.Holds held)
    (h' : s.Holds (some login)) : held = some login := by
  have htoken := h.token.symm.trans h'.token
  have hcatalog := h.catalog.symm.trans h'.catalog
  cases held with
  | none => cases htoken
  | some login' => exact congrArg some (Prod.ext (Option.some.inj htoken) hcatalog)

namespace Step

variable {e : Extra} {answer : Request → Answer} {config : Config} {login : Login}
  {known : String → Prop} {s s' : Session} {w w' : Unit}

theorem Trailing.steady (h : Trailing e answer config login known s w s' w') :
    s.Steady answer login := by
  obtain ⟨t, v, hbeside, -⟩ := h
  exact hbeside.steady

theorem Following.configured (h : Following e config known s w s' w') :
    s.config = config ∧ s'.config = e.off config := by
  obtain ⟨t, v, hfellow, rfl, -⟩ := h
  exact ⟨hfellow.configured, congrArg e.off (hfellow.setup.config.trans hfellow.configured)⟩

/-- A project is chosen in both. -/
theorem Following.choose (h : Following e config known s w s' w') (project : Option String) :
    Following e config known (s.choose project) w (s'.choose project) w' := by
  obtain ⟨t, v, hfellow, rfl, hstate⟩ := h
  exact ⟨t.choose project, v, hfellow.choose project, rfl, hstate⟩

/-- The first session may read more, as long as that is not known. -/
theorem Trailing.grow (h : Trailing e answer config login known s w s' w')
    {urls : List String} {t : Session} (hgrows : s.Grows answer login urls t)
    (hunknown : ∀ url ∈ urls, ¬ known url) : Trailing e answer config login known t w s' w' := by
  obtain ⟨t', v, hbeside, hspared⟩ := h
  refine ⟨t', v, ?_, hspared⟩
  exact
    { akin := hgrows.akin.symm.trans hbeside.akin
      configured := hgrows.akin.config.trans hbeside.configured
      steady := hgrows.steady
      steady' := hbeside.steady'
      agree := fun url hurl => (hbeside.agree url hurl).trans
        ⟨fun hread => hgrows.kept hread,
          fun hread => (hgrows.new url hread).resolve_right fun hmem => hunknown url hmem hurl⟩ }

end Step

/-- An extra that is left out, of runs against one deployment, and the URLs that are
known not to be its own. -/
structure Omission where
  extra : Extra
  answer : Request → Answer
  /-- the configuration that does not leave it out -/
  config : Config
  known : String → Prop

namespace Omission

/-- The deployment that both runs are against. -/
abbrev deployment (t : Omission) : Deployment Unit := .stateless t.answer

/-- Whether the URLs that a journal asks for tell the extra from the rest. -/
abbrev Parts (t : Omission) (journal : List Entry) : Prop := Parted t.extra t.config t.known journal

/-- What the run that leaves the extra out does in place of something optional. -/
def instead (t : Omission) (x : Extra) (part : Run Unit Unit) : Run Unit Unit :=
  if x = t.extra then pure () else part

end Omission

namespace Run

/-! ## Two runs -/

/-- A run, and one that has come equally far but has left out an extra. -/
structure Behind (t : Omission) (R : Session → Unit → Session → Unit → Prop)
    (p p' : Progress Unit) : Prop
    where
  related : R p.session p.state p'.session p'.state
  holds : p.session.Holds (lastLogin t.config.tokenUrl p.trace)
  pruned : Pruned t.extra p.journal p'.journal
  fitting : Fitting p.journal

/-- A component that is not in the catalog was given up, and is reported as missing. -/
def Placed (config : Config) (login : Login) (c : Component) (p : Progress Unit) : Prop :=
  login.2.findUrl? c config.interface = none → c ∈ p.skipped ∧ c ∈ p.report.missing

/-- Two runs between logins. -/
abbrev Loose (t : Omission) : Progress Unit → Progress Unit → Prop :=
  Behind t (Step.Following t.extra t.config t.known)

/-- Two runs under one login, which may have asked for a component. -/
structure Nearby (t : Omission) (login : Login) (asked : Option Component)
    (p p' : Progress Unit) : Prop
    extends Behind t (Step.Trailing t.extra t.answer t.config login t.known) p p' where
  placed : ∀ c ∈ asked, Placed t.config login c p

/-- Two runs that have come to data of a query, which nothing was asked after. -/
structure Given {shape : Shape} (t : Omission) (login : Login) (q : Query shape)
    (value : shape.Value) (p p' : Progress Unit) :
    Prop extends Nearby t login q.component? p p' where
  last : lastOperation p.journal = some (.ask q)
  carries : q.Carries value

variable {α β : Type} {t : Omission} {login : Login} {asked : Option Component} {c : Component}
  {op : Operation} {p p' q q' : Progress Unit}

theorem Placed.later {config : Config} (h : Placed config login c p)
    (hextends : p.journal <+: q.journal) : Placed config login c q := by
  intro hnone
  obtain ⟨hskipped, hmissing⟩ := h hnone
  obtain ⟨later, hlater⟩ := hextends
  refine ⟨mem_skipped_later ⟨later, hlater⟩ hskipped, ?_⟩
  change c ∈ missingOf q.journal
  rw [← hlater, missingOf_append]
  exact List.mem_append_left _ hmissing

section Behind

variable {R R' : Session → Unit → Session → Unit → Prop} {remarks : List Entry}

theorem Behind.skipped (h : Behind t R p p') : p'.skipped = p.skipped := h.pruned.skipped

theorem Behind.mono (h : Behind t R p p') (hR : ∀ {s w s' w'}, R s w s' w' → R' s w s' w') :
    Behind t R' p p' := ⟨hR h.related, h.holds, h.pruned, h.fitting⟩

/-- The login that is held after an operation. -/
theorem holds_after {config : Config} {P : Config → Option Login → Event → Prop} {m : Step Unit α}
    (htracks : Step.Tracks P m) (hholds : p.session.Holds (lastLogin config.tokenUrl p.trace))
    (hconfig : p.session.config = config) (op : Operation) (d : Deployment Unit) :
    (m d p.session p.state).session.Holds
      (lastLogin config.tokenUrl (p.after op (m d p.session p.state)).trace) := by
  have hafter := htracks.holds (d := d) (w := p.state) hholds
  rw [hconfig, lastLogin, ← loginAfter_append, ← Progress.trace_after p op] at hafter
  exact hafter

/-- What both can be paced from. -/
theorem Behind.since (h : Behind t R p p') :
    Paced R (p.journal.map Entry.blur) (p'.journal.map Entry.blur) p p' :=
  .since h.related h.pruned.skipped h.pruned.missing

/-- What both write is the same but for answers, and is not for the extra. -/
theorem Behind.paced (h : Behind t R p p')
    (hpaced : Paced R' (p.journal.map Entry.blur) (p'.journal.map Entry.blur) q q')
    {entries : List Entry} (hjournal : q.journal = p.journal ++ entries)
    (hextends : p'.journal <+: q'.journal)
    (hholds : q.session.Holds (lastLogin t.config.tokenUrl q.trace))
    (hkept : ∀ m ∈ emissionsAfter (lastOperation p.journal) entries, ¬ t.extra.Brings m)
    (hfits : ∀ m ∈ emissionsAfter (lastOperation p.journal) entries,
      Extra.membership.Brings m ↔ m.2.name = membersName) : Behind t R' q q' where
  related := hpaced.related
  holds := hholds
  pruned := by
    obtain ⟨entries', hjournal'⟩ := hextends
    rw [hjournal, ← hjournal']
    exact h.pruned.append (hpaced.added_eq hjournal hjournal'.symm) hkept
  fitting := by
    rw [hjournal]
    exact h.fitting.append hfits

/-- **An operation that is not for the extra**, done by both, and what both remark on it. -/
theorem Behind.operation (h : Behind t R p p')
    {P : Config → Option Login → Event → Prop} {m : Step Unit α} (htracks : Step.Tracks P m)
    (hconfig : p.session.config = t.config)
    (hpaced : Paced R' (p.journal.map Entry.blur) (p'.journal.map Entry.blur) q q')
    (hafter : q = (p.after op (m t.deployment p.session p.state)).write remarks)
    (hremarks : ∀ e ∈ remarks, e.IsRemark) (hextends : p'.journal <+: q'.journal)
    (hkept : op.extra? ≠ some t.extra) (hfits : ∀ m ∈ metricsOf remarks, op.Fits m.name) :
    Behind t R' q q' := by
  have hjournal : q.journal =
      p.journal ++ (op.record (m t.deployment p.session p.state).trace ++ remarks) := by
    rw [hafter, ← List.append_assoc]
    rfl
  refine h.paced hpaced hjournal hextends ?_ ?_ ?_
  · rw [hafter, Progress.lastLogin_write _ _ hremarks]
    exact holds_after htracks h.holds hconfig op t.deployment
  · rw [emissionsAfter_record _ op _ hremarks]
    intro emission hmem
    obtain ⟨metric, -, rfl⟩ := List.mem_map.1 hmem
    exact hkept
  · rw [emissionsAfter_record _ op _ hremarks]
    intro emission hmem
    obtain ⟨metric, hmetric, rfl⟩ := List.mem_map.1 hmem
    exact hfits metric hmetric

/-- An operation that both do, and that leaves them in another relation. -/
theorem Behind.after (h : Behind t R p p') {P : Config → Option Login → Event → Prop}
    {m : Step Unit α} (htracks : Step.Tracks P m)
    (hconfig : p.session.config = t.config) (op : Operation) {o' : Outcome Unit β}
    (hrelated : R' (m t.deployment p.session p.state).session
      (m t.deployment p.session p.state).state o'.session o'.state) :
    Behind t R' (p.after op (m t.deployment p.session p.state)) (p'.after op o') where
  related := hrelated
  holds := holds_after htracks h.holds hconfig op t.deployment
  pruned := h.pruned.record op _ _
  fitting := by
    have hnone : emissionsAfter (lastOperation p.journal)
        (op.record (m t.deployment p.session p.state).trace) = [] :=
      List.map_eq_nil_iff.1 ((map_snd_emissionsAfter _ _).trans (metricsOf_record op _))
    refine h.fitting.append ?_
    rw [hnone]
    exact nofun

/-- A notice that both write. -/
theorem Behind.note (h : Behind t R p p') (n : Notice) :
    Behind t R (p.write [.event (.notice n)]) (p'.write [.event (.notice n)]) := by
  refine h.paced (h.since.write rfl) rfl (List.prefix_append _ _) ?_ nofun nofun
  rw [Progress.lastLogin_write _ p fun e he => by rw [List.mem_singleton.1 he]; trivial]
  exact h.holds

end Behind

namespace Nearby

theorem steady (h : Nearby t login asked p p') : p.session.Steady t.answer login := h.related.steady

theorem configured (h : Nearby t login asked p p') : p.session.config = t.config :=
  h.related.following.configured.1

theorem loosen (h : Nearby t login asked p p') : Loose t p p' :=
  h.toBehind.mono fun htrailing => htrailing.following

/-- What was asked for may be forgotten. -/
theorem unasked (h : Nearby t login asked p p') : Nearby t login none p p' := ⟨h.toBehind, nofun⟩

/-- The login that is held is the one that the journal tells of. -/
theorem lastLogin_eq (h : Nearby t login asked p p') :
    lastLogin t.config.tokenUrl p.trace = some login :=
  h.holds.eq_some h.steady.holds

theorem endpoint? (h : Nearby t login asked p p') (c : Component) :
    p.session.endpoint? c = login.2.findUrl? c t.config.interface := by
  rw [h.steady.endpoint?, h.configured]

end Nearby

/-! ## Parts of the two runs -/

/-- A part of a run, and what the other does in its place: from one relation they come to
the same value and to another relation, as long as the URLs that the first asks for tell
the extra from the rest. -/
structure Joint (t : Omission) (R : Progress Unit → Progress Unit → Prop) (m m' : Run Unit α)
    (S : α → Progress Unit → Progress Unit → Prop) : Prop where
  extending : Extends m
  related : ∀ {p p'}, R p p' → t.Parts (m t.deployment p).2.journal →
    (m' t.deployment p').1 = (m t.deployment p).1 ∧
      S (m t.deployment p).1 (m t.deployment p).2 (m' t.deployment p').2

section Joint

variable {R R' : Progress Unit → Progress Unit → Prop}
  {S S' : α → Progress Unit → Progress Unit → Prop} {m m' : Run Unit α}

theorem joint_pure {a : α} (h : ∀ p p', R p p' → S a p p') : Joint t R (pure a) (pure a) S :=
  ⟨extends_pure a, fun hR _ => ⟨rfl, h _ _ hR⟩⟩

theorem Joint.bind {f f' : α → Run Unit β} {T : β → Progress Unit → Progress Unit → Prop}
    (hm : Joint t R m m' S) (hf : ∀ a, Joint t (S a) (f a) (f' a) T) :
    Joint t R (m >>= f) (m' >>= f') T where
  extending := hm.extending.bind fun a => (hf a).extending
  related {p p'} hR hparts := by
    have hfirst : t.Parts (m t.deployment p).2.journal :=
      hparts.earlier ((hf (m t.deployment p).1).extending t.deployment (m t.deployment p).2)
    obtain ⟨hvalue, hS⟩ := hm.related hR hfirst
    rw [bind_apply, bind_apply, hvalue]
    exact (hf _).related hS hparts

theorem Joint.mono (hm : Joint t R m m' S) (hpre : ∀ p p', R' p p' → R p p')
    (hpost : ∀ a p p', S a p p' → S' a p p') : Joint t R' m m' S' where
  extending := hm.extending
  related hR hparts := (hm.related (hpre _ _ hR) hparts).imp_right (hpost _ _ _)

/-- Parts that begin where a relation holds with some value that is not known before. -/
theorem Joint.exists {ι : Type} [Inhabited ι] {R : ι → Progress Unit → Progress Unit → Prop}
    (h : ∀ i, Joint t (R i) m m' S) : Joint t (fun p p' => ∃ i, R i p p') m m' S where
  extending := (h default).extending
  related := fun ⟨i, hR⟩ => (h i).related hR

/-- Parts that go by something that both runs have in common. -/
theorem joint_get {ι : Type} (view : Progress Unit → ι) {f f' : ι → Run Unit α}
    (hcommon : ∀ p p', R p p' → view p' = view p) (h : ∀ i, Joint t R (f i) (f' i) S) :
    Joint t R (get >>= fun p => f (view p)) (get >>= fun p' => f' (view p')) S where
  extending := extends_get fun p => (h (view p)).extending
  related {p p'} hR hparts := by
    rw [bind_apply, bind_apply, get_apply, get_apply, hcommon p p' hR]
    exact (h (view p)).related hR hparts

/-- By induction on the items. -/
theorem joint_forEach {ι : Type} {f f' : ι → Run Unit Unit} :
    ∀ {items : List ι}, (∀ a ∈ items, Joint t R (f a) (f' a) fun _ => R) →
      Joint t R (forEach f items) (forEach f' items) fun _ => R
  | [], _ => joint_pure fun _ _ hR => hR
  | a :: rest, h => by
    refine (h a (List.mem_cons_self ..)).bind fun _ => ?_
    exact joint_forEach fun b hb => h b (List.mem_cons_of_mem _ hb)

/-- A loop in place of which the second run does nothing. By induction on the items. -/
theorem joint_forEach_alone {ι : Type} {f : ι → Run Unit Unit} :
    ∀ {items : List ι}, (∀ a ∈ items, Joint t R (f a) (pure ()) fun _ => R) →
      Joint t R (forEach f items) (pure ()) fun _ => R
  | [], _ => joint_pure fun _ _ hR => hR
  | a :: rest, h => by
    have hrest : Joint t R (forEach f rest) (pure ()) fun _ => R :=
      joint_forEach_alone fun b hb => h b (List.mem_cons_of_mem _ hb)
    have hwhole := (h a (List.mem_cons_self ..)).bind fun _ => hrest
    exact hwhole

/-! ### Optional parts -/

variable {x : Extra} {part : Run Unit Unit}

/-- A loop over something optional. -/
theorem joint_forEach_instead {ι : Type} {f : ι → Run Unit Unit} {items : List ι}
    (h : ∀ a ∈ items, Joint t R (f a) (t.instead x (f a)) fun _ => R) :
    Joint t R (forEach f items) (t.instead x (forEach f items)) fun _ => R := by
  unfold Omission.instead at h ⊢
  split
  · rename_i hx
    exact joint_forEach_alone fun a ha => by simpa only [if_pos hx] using h a ha
  · rename_i hx
    exact joint_forEach fun a ha => by simpa only [if_neg hx] using h a ha

/-- **Something optional** is left out where it is the extra, and else done
by both or by neither. -/
theorem joint_ifAsked
    (hconfig : ∀ p p', R p p' → p.session.config = t.config ∧
      p'.session.config = t.extra.off t.config)
    (hpart : Joint t R part (t.instead x part) fun _ => R) :
    Joint t R (get >>= fun p => if x.isAsked p.session.config then part else pure ())
      (get >>= fun p => if x.isAsked p.session.config then part else pure ()) fun _ => R where
  extending := by
    refine extends_get fun p => ?_
    split
    · exact hpart.extending
    · exact extends_pure ()
  related {p p'} hR hparts := by
    obtain ⟨hleft, hright⟩ := hconfig p p' hR
    rw [bind_apply, get_apply] at hparts
    rw [bind_apply _ _ t.deployment p, get_apply t.deployment p, bind_apply _ _ t.deployment p',
      get_apply t.deployment p']
    dsimp only at hparts ⊢
    rw [hleft] at hparts ⊢
    rw [hright]
    by_cases hx : x = t.extra
    · -- the second run does not ask for it
      have hoff : x.isAsked (t.extra.off t.config) = false := hx ▸ t.extra.isAsked_off t.config
      rw [Omission.instead, if_pos hx] at hpart
      rw [hoff]
      cases hasked : x.isAsked t.config with
      | false => exact ⟨rfl, hR⟩
      | true =>
        rw [hasked] at hparts
        exact hpart.related hR hparts
    · rw [Omission.instead, if_neg hx] at hpart
      rw [Extra.isAsked_off_of_ne hx]
      cases hasked : x.isAsked t.config with
      | false => exact ⟨rfl, hR⟩
      | true =>
        rw [hasked] at hparts
        exact hpart.related hR hparts

end Joint

/-! ## What both runs do -/

theorem joint_unlessSkipped {R : Progress Unit → Progress Unit → Prop} {part part' : Run Unit Unit}
    (hskipped : ∀ p p', R p p' → p'.skipped = p.skipped) (h : Joint t R part part' fun _ => R) :
    Joint t R (unlessSkipped c part) (unlessSkipped c part') fun _ => R := by
  have hview : ∀ skipped : List Component, Joint t R (if c ∈ skipped then pure () else part)
      (if c ∈ skipped then pure () else part') fun _ => R := by
    intro skipped
    split
    · exact joint_pure fun _ _ hR => hR
    · exact h
  exact joint_get Progress.skipped hskipped hview

theorem joint_note_loose (n : Notice) :
    Joint t (Loose t) (Run.note n) (Run.note n) fun _ => Loose t :=
  ⟨extends_write _, fun h _ => ⟨rfl, h.note n⟩⟩

theorem joint_note (n : Notice) :
    Joint t (Nearby t login asked) (Run.note n) (Run.note n) fun _ => Nearby t login asked :=
  ⟨extends_write _, fun h _ => ⟨rfl, h.toBehind.note n, fun c hc => (h.placed c hc).later
    (List.prefix_append _ _)⟩⟩

end Run

end StackWatch
