import ClassSchema.Proofs.Store.Validation

/-
# Histories as scripts

The history of a catalog can be given to an empty catalog as a script, and the same schema comes
out.  The order of the script does not matter, as long as each constraint comes after the relations
that it names (`RelationsFirst`).  No two scripts are compared request by request: a catalog that
holds a part of what another holds admits whatever else the other holds, if the relations that it
names are there (`Sound.admits_of_mem_history`).  So a script is accepted one request after the
other (`Sound.replay`), and in the end the two catalogs have filed the same requests.
-/

namespace ClassSchema.Catalog

open Schema OrderedMap

/-- In a script each constraint comes after all the relations that it names. -/
def RelationsFirst (script : List Request) : Prop :=
  ∀ before k rest, script = before ++ .constraint k :: rest →
    ∀ m ∈ k.mentions, ∃ r, .relation r ∈ before ∧ r.name = m.1

attribute [ext] Catalog

variable {c d : Catalog}

/-! ### Scripts -/

lemma relationsFirst_nil : RelationsFirst [] := by
  intro before k rest h
  simp at h

/-- A script can go on with any relation, and with a constraint if the relations that it names have
come. -/
lemma RelationsFirst.concat {script : List Request} (h : RelationsFirst script) {q : Request}
    (hq : ∀ k, q = .constraint k → ∀ m ∈ k.mentions, ∃ r, .relation r ∈ script ∧ r.name = m.1) :
    RelationsFirst (script ++ [q]) := by
  intro before k rest hsplit
  rcases of_concat_eq hsplit with ⟨rfl, hk⟩ | ⟨rest', hold⟩
  · exact hq k hk
  · exact h before k rest' hold

/-! ### Parts of a history -/

/-- No request is in a list twice, if no relation and no constraint is. -/
lemma nodup_requests {qs : List Request}
    (hrelations : (qs.filterMap fun | .relation r => some r | .constraint _ => none).Nodup)
    (hconstraints : (qs.filterMap fun | .constraint k => some k | .relation _ => none).Nodup) :
    qs.Nodup := by
  induction qs with
  | nil => exact .nil
  | cons q rest ih =>
    cases q with
    | relation r =>
      simp only [List.filterMap_cons, List.nodup_cons] at hrelations hconstraints
      refine List.nodup_cons.2 ⟨fun hmem => ?_, ih hrelations.2 hconstraints⟩
      exact hrelations.1 (List.mem_filterMap.2 ⟨_, hmem, rfl⟩)
    | constraint k =>
      simp only [List.filterMap_cons, List.nodup_cons] at hrelations hconstraints
      refine List.nodup_cons.2 ⟨fun hmem => ?_, ih hrelations hconstraints.2⟩
      exact hconstraints.1 (List.mem_filterMap.2 ⟨_, hmem, rfl⟩)

namespace Sound

lemma history_nodup (h : c.Sound) : c.history.Nodup :=
  nodup_requests (.of_map _ h.relations_filed.names_nodup)
    (.of_map _ h.constraints_filed.names_nodup)

/-- A catalog that holds a part of what another one holds admits the rest of it, a constraint if the
relations that it names are there. -/
lemma admits_of_mem_history (hc : c.Sound) (hd : d.Sound) (hsub : d.history ⊆ c.history)
    {q : Request} (hq : q ∈ c.history) (hnew : q ∉ d.history)
    (hfirst : ∀ k, q = .constraint k → ∀ m ∈ k.mentions, ∃ r, .relation r ∈ d.history ∧
      r.name = m.1) : d.Admits q := by
  cases q with
  | relation r =>
    have hmem : r ∈ c.relationsInOrder := mem_relationsInOrder.2 hq
    have hfree : d.relations.get? r.name = none :=
      hd.relations_filed.get?_eq_none_of_subset hc.relations_filed
        (List.filterMap_subset _ hsub) hmem (mt mem_relationsInOrder.1 hnew)
    exact ⟨hfree, hc.relation_wellFormed _ r (hc.relations_filed.get?_of_mem hmem)⟩
  | constraint k =>
    have hmem : k ∈ c.constraintsInOrder := mem_constraintsInOrder.2 hq
    have hget : c.constraints.get? k.name = some k := hc.constraints_filed.get?_of_mem hmem
    have hfree : d.constraints.get? k.name = none :=
      hd.constraints_filed.get?_eq_none_of_subset hc.constraints_filed
        (List.filterMap_subset _ hsub) hmem (mt mem_constraintsInOrder.1 hnew)
    refine ⟨hfree, fun m hm => ?_, hc.constraint_balanced _ k hget⟩
    -- the relation that is there is the one that has supported the constraint
    obtain ⟨r, hr, hname⟩ := hfirst k rfl m hm
    obtain ⟨r', hr', hcolumns⟩ := supportedBy_view_iff.1 (hc.constraint_supported _ k hget) m hm
    have hstored := hc.relations_filed.get?_of_mem (mem_relationsInOrder.2 (hsub hr))
    rw [hname, hr', Option.some.injEq] at hstored
    have hheld := hd.relations_filed.get?_of_mem (mem_relationsInOrder.2 hr)
    rw [hname] at hheld
    exact ⟨r, hheld, hstored ▸ hcolumns⟩

/-- A catalog that holds a part of what another one holds accepts the rest of it, in any order in
which relations come first. -/
lemma replay (hc : c.Sound) {script : List Request} (hd : d.Sound)
    (hp : (d.history ++ script).Perm c.history) (hfirst : RelationsFirst (d.history ++ script)) :
    (∀ a ∈ Store.answers d script, a = .ok ()) ∧ (Store.afterAll d script).Sound ∧
      (Store.afterAll d script).history = d.history ++ script := by
  induction script generalizing d with
  | nil => exact ⟨by simp [Store.answers], hd, (List.append_nil _).symm⟩
  | cons q rest ih =>
    have hnodup : (d.history ++ q :: rest).Nodup := hp.nodup_iff.2 hc.history_nodup
    have hnew : q ∉ d.history := by
      intro hq
      exact (List.nodup_append.1 hnodup).2.2 q hq q List.mem_cons_self rfl
    have hq : q ∈ c.history := hp.subset (List.mem_append_right _ List.mem_cons_self)
    have hsub : d.history ⊆ c.history := fun x hx => hp.subset (List.mem_append_left _ hx)
    have hadmits : d.Admits q := by
      refine hc.admits_of_mem_history hd hsub hq hnew fun k hk => ?_
      subst hk
      exact hfirst d.history k rest rfl
    have hcreate : Store.create d q = .ok (d.add q) := create_of_admits hadmits
    have happend : (d.add q).history ++ rest = d.history ++ q :: rest := by
      rw [history_add, List.append_assoc, List.singleton_append]
    obtain ⟨hanswers, hsound, hhistory⟩ := ih (sound_of_create hd hcreate) (by rwa [happend])
      (by rwa [happend])
    rw [Store.answers, Store.afterAll_cons, Store.after_of_create_ok hcreate, List.forall_mem_cons]
    exact ⟨⟨Store.answer_of_create_ok hcreate, hanswers⟩, hsound, hhistory.trans happend⟩

/-- Catalogs with the same requests in their histories hold the same. -/
lemma eq_of_history_perm (hc : c.Sound) (hd : d.Sound) (hp : d.history.Perm c.history) :
    d.relations = c.relations ∧ d.constraints = c.constraints :=
  ⟨hd.relations_filed.eq_of_perm hc.relations_filed (hp.filterMap _),
    hd.constraints_filed.eq_of_perm hc.constraints_filed (hp.filterMap _)⟩

end Sound

/-- **A history is a script.**  Whatever requests a catalog has got, accepted or rejected, in its
history each constraint comes after the relations that it names.  Given to an empty catalog, the
history makes the same catalog again.  If it is given in any order with this property, its own or
another one, all of it is accepted and the same relations and constraints come out. -/
theorem history_replays (qs : List Request) :
    RelationsFirst (Store.afterAll Catalog.empty qs).history ∧
    Store.afterAll Catalog.empty (Store.afterAll Catalog.empty qs).history =
      Store.afterAll Catalog.empty qs ∧
    ∀ script, script.Perm (Store.afterAll Catalog.empty qs).history → RelationsFirst script →
      (∀ a ∈ Store.answers Catalog.empty script, a = .ok ()) ∧
      (Store.afterAll Catalog.empty script).relations =
        (Store.afterAll Catalog.empty qs).relations ∧
      (Store.afterAll Catalog.empty script).constraints =
        (Store.afterAll Catalog.empty qs).constraints ∧
      (Store.afterAll Catalog.empty script).history = script := by
  have hsound : (Store.afterAll Catalog.empty qs).Sound := Sound.empty.afterAll qs
  refine ⟨hsound.relations_first, ?_, fun script hp hfirst => ?_⟩
  · obtain ⟨-, hsound', hhistory⟩ := hsound.replay Sound.empty (.refl _) hsound.relations_first
    obtain ⟨hrelations, hconstraints⟩ := hsound.eq_of_history_perm hsound' (.of_eq hhistory)
    exact Catalog.ext hrelations hconstraints hhistory
  · obtain ⟨hanswers, hsound', hhistory⟩ := hsound.replay Sound.empty hp hfirst
    obtain ⟨hrelations, hconstraints⟩ :=
      hsound.eq_of_history_perm hsound' ((List.Perm.of_eq hhistory).trans hp)
    exact ⟨hanswers, hrelations, hconstraints, hhistory⟩

def owner : Relation := ⟨"Owner", [⟨"Name", .string⟩], .ofList [(1, ["Name"])]⟩

def dog : Relation :=
  ⟨"Dog", [⟨"Tag", .int⟩, ⟨"Owner", .string⟩], .ofList [(1, ["Tag"])]⟩

def animal : Relation := ⟨"Animal", [⟨"ID", .int⟩], .ofList [(1, ["ID"])]⟩

def owned : Constraint :=
  .association ⟨"R2", ⟨"Dog", ["Owner"], .zeroOneOrMany⟩, ⟨"Owner", ["Name"], .exactlyOne⟩⟩

def bred : Constraint :=
  .partition ⟨"R1", "Animal", ["ID"], .ofList [("Dog", ["Tag"])]⟩

/-- A session in which a second relation for dogs is rejected. -/
def breeding : List Request :=
  [.relation animal, .relation dog, .constraint bred, .relation dog, .relation owner,
    .constraint owned]

/-- The accepted requests of the session, those for owners first. -/
def breedingAgain : List Request :=
  [] ++ [.relation owner] ++ [.relation dog] ++ [.constraint owned] ++ [.relation animal] ++
    [.constraint bred]

theorem history_replays_breeding :
    breedingAgain.Perm (Store.afterAll Catalog.empty breeding).history ∧
    RelationsFirst breedingAgain ∧
    (Store.afterAll Catalog.empty breedingAgain).relations =
      (Store.afterAll Catalog.empty breeding).relations ∧
    (Store.afterAll Catalog.empty breedingAgain).constraints =
      (Store.afterAll Catalog.empty breeding).constraints := by
  have hp : breedingAgain.Perm (Store.afterAll Catalog.empty breeding).history := by
    decide +kernel
  have hentries : (ofList [("Dog", ["Tag"])]).entries = [("Dog", ["Tag"])] := rfl
  have hfirst : RelationsFirst breedingAgain := by
    refine ((((relationsFirst_nil.concat ?_).concat ?_).concat ?_).concat ?_).concat ?_
    all_goals grind [owned, bred, Constraint.mentions, owner, dog, animal]
  obtain ⟨-, -, hscript⟩ := history_replays breeding
  obtain ⟨-, hrelations, hconstraints, -⟩ := hscript breedingAgain hp hfirst
  exact ⟨hp, hfirst, hrelations, hconstraints⟩

end ClassSchema.Catalog
