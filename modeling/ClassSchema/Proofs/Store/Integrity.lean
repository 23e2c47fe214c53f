import ClassSchema.Proofs.Schema.Validity
import ClassSchema.Proofs.Store.Session
import ClassSchema.Store.Catalog

/-
# Integrity of catalogs

A catalog holds its schema twice, as two maps by name and as the history of accepted requests.
`Catalog.Sound` says that what it holds is in order: relations are well formed, constraints name
only what is there and match attributes one to one, maps and history tell the same, and in the
history a constraint comes after the relations that it names.  An accepted request preserves this
(`Sound.add_relation`, `Sound.add_constraint`), so it holds after every session that starts with
the empty catalog (`sound_afterAll_empty`).
-/

namespace ClassSchema.Catalog

open Schema OrderedMap Outcome

/-- The accepted relations, the first one first. -/
def relationsInOrder (c : Catalog) : List Relation :=
  c.history.filterMap fun
    | .relation r => some r
    | .constraint _ => none

/-- A map files a list: it holds the members of the list and nothing else, each under its own
name, and no two members share a name. -/
structure Files {α : Type} (m : OrderedMap String α) (name : α → String) (xs : List α) : Prop where
  get?_eq_some_iff : ∀ n x, m.get? n = some x ↔ x ∈ xs ∧ name x = n
  names_nodup : (xs.map name).Nodup

/-- What a catalog holds is in order. -/
structure Sound (c : Catalog) : Prop where
  relation_wellFormed : ∀ n r, c.relations.get? n = some r → r.WellFormed
  constraint_supported : ∀ n k, c.constraints.get? n = some k → k.SupportedBy c.view.columns?
  constraint_balanced : ∀ n k, c.constraints.get? n = some k → k.Balanced
  relations_filed : Files c.relations Relation.name c.relationsInOrder
  constraints_filed : Files c.constraints Constraint.name c.constraintsInOrder
  /-- A constraint comes after the relations that it names. -/
  relations_first : ∀ before k rest, c.history = before ++ .constraint k :: rest →
    ∀ m ∈ k.mentions, ∃ r, .relation r ∈ before ∧ r.name = m.1

/-! ### Filing -/

lemma files_empty {α : Type} (name : α → String) : Files .empty name [] :=
  ⟨by simp, List.nodup_nil⟩

/-- Filing one more value under a name that is still free. -/
lemma Files.insert {α : Type} {m : OrderedMap String α} {name : α → String} {xs : List α}
    (h : Files m name xs) {x : α} (hnew : m.get? (name x) = none) :
    Files (m.insert (name x) x) name (xs ++ [x]) := by
  have hfree : ∀ y ∈ xs, name y ≠ name x := by
    intro y hy heq
    have hget := (h.get?_eq_some_iff (name x) y).2 ⟨hy, heq⟩
    simp [hnew] at hget
  constructor
  · intro n y
    rw [List.mem_append, List.mem_singleton]
    by_cases hn : n = name x
    · subst hn
      rw [get?_insert_self, Option.some.injEq]
      constructor
      · rintro rfl
        exact ⟨.inr rfl, rfl⟩
      · rintro ⟨hy | rfl, heq⟩
        · exact absurd heq (hfree y hy)
        · rfl
    · rw [get?_insert_of_ne _ _ hn, h.get?_eq_some_iff]
      constructor
      · rintro ⟨hy, heq⟩
        exact ⟨.inl hy, heq⟩
      · rintro ⟨hy | rfl, heq⟩
        · exact ⟨hy, heq⟩
        · exact absurd heq.symm hn
  · rw [List.map_append, List.map_singleton, List.nodup_append]
    refine ⟨h.names_nodup, by simp, ?_⟩
    intro n hn n' hn'
    obtain ⟨y, hy, rfl⟩ := List.mem_map.1 hn
    rw [List.mem_singleton.1 hn']
    exact hfree y hy

namespace Files

variable {α : Type} {m m' : OrderedMap String α} {name : α → String} {xs ys : List α}

lemma get?_of_mem (h : Files m name xs) {x : α} (hx : x ∈ xs) : m.get? (name x) = some x :=
  (h.get?_eq_some_iff (name x) x).2 ⟨hx, rfl⟩

/-- Nothing is filed under a name that nothing in the list has. -/
lemma get?_eq_none (h : Files m name xs) {n : String} (hn : ∀ x ∈ xs, name x ≠ n) :
    m.get? n = none := by
  rw [Option.eq_none_iff_forall_ne_some]
  intro x hx
  obtain ⟨hmem, hname⟩ := (h.get?_eq_some_iff n x).1 hx
  exact hn x hmem hname

lemma eq_of_name_eq (h : Files m name xs) {x y : α} (hx : x ∈ xs) (hy : y ∈ xs)
    (hname : name x = name y) : x = y :=
  List.inj_on_of_nodup_map h.names_nodup hx hy hname

/-- Where a part of a list is filed, the name of anything else in the list is still free. -/
lemma get?_eq_none_of_subset (h : Files m name xs) (h' : Files m' name ys) (hsub : xs ⊆ ys) {x : α}
    (hx : x ∈ ys) (hnew : x ∉ xs) : m.get? (name x) = none := by
  refine h.get?_eq_none fun y hy hname => hnew ?_
  rwa [← h'.eq_of_name_eq (hsub hy) hx hname]

/-- Maps that file the same are the same. -/
lemma eq_of_perm (h : Files m name xs) (h' : Files m' name ys) (hp : xs.Perm ys) : m = m' := by
  refine ext_get? fun n => Option.ext fun x => ?_
  rw [h.get?_eq_some_iff, h'.get?_eq_some_iff, hp.mem_iff]

end Files

/-! ### The views of a catalog -/

variable {c : Catalog}

lemma create_eq_ok_iff {c' : Catalog} {q : Request} :
    Store.create c q = .ok c' ↔ c.view.check q = .ok () ∧ c' = c.add q := by
  rw [Store.create_eq_ok_iff]
  refine and_congr_right fun _ => ?_
  change Except.ok (c.add q) = .ok c' ↔ c' = c.add q
  rw [Except.ok.injEq, eq_comm]

lemma mem_relationsInOrder {r : Relation} : r ∈ c.relationsInOrder ↔ .relation r ∈ c.history := by
  rw [relationsInOrder, List.mem_filterMap]
  constructor
  · rintro ⟨q, hq, h⟩
    cases q with
    | relation r' => obtain rfl := Option.some.inj h; exact hq
    | constraint k => simp at h
  · exact fun h => ⟨_, h, rfl⟩

lemma mem_constraintsInOrder {k : Constraint} :
    k ∈ c.constraintsInOrder ↔ .constraint k ∈ c.history := by
  rw [constraintsInOrder, List.mem_filterMap]
  constructor
  · rintro ⟨q, hq, h⟩
    cases q with
    | relation r => cases h
    | constraint k' => obtain rfl := Option.some.inj h; exact hq
  · exact fun h => ⟨_, h, rfl⟩

@[simp] lemma history_add (q : Request) : (c.add q).history = c.history ++ [q] := by
  cases q <;> rfl

@[simp] lemma relations_add_relation (r : Relation) :
    (c.add (.relation r)).relations = c.relations.insert r.name r := rfl

@[simp] lemma constraints_add_relation (r : Relation) :
    (c.add (.relation r)).constraints = c.constraints := rfl

@[simp] lemma relations_add_constraint (k : Constraint) :
    (c.add (.constraint k)).relations = c.relations := rfl

@[simp] lemma constraints_add_constraint (k : Constraint) :
    (c.add (.constraint k)).constraints = c.constraints.insert k.name k := rfl

@[simp] lemma relationsInOrder_add_relation (r : Relation) :
    (c.add (.relation r)).relationsInOrder = c.relationsInOrder ++ [r] := by
  simp [relationsInOrder]

@[simp] lemma relationsInOrder_add_constraint (k : Constraint) :
    (c.add (.constraint k)).relationsInOrder = c.relationsInOrder := by
  simp [relationsInOrder]

@[simp] lemma constraintsInOrder_add_relation (r : Relation) :
    (c.add (.relation r)).constraintsInOrder = c.constraintsInOrder := by
  simp [constraintsInOrder]

@[simp] lemma constraintsInOrder_add_constraint (k : Constraint) :
    (c.add (.constraint k)).constraintsInOrder = c.constraintsInOrder ++ [k] := by
  simp [constraintsInOrder]

lemma view_columns?_eq_some_iff {n : String} {columns : List String} :
    c.view.columns? n = some columns ↔ ∃ r, c.relations.get? n = some r ∧ r.columns = columns :=
  Option.map_eq_some_iff

/-- A new relation takes no columns away. -/
lemma columns?_add_relation {r : Relation} (hnew : c.relations.get? r.name = none) {n : String}
    {columns : List String} (h : c.view.columns? n = some columns) :
    (c.add (.relation r)).view.columns? n = some columns := by
  obtain ⟨r', hr', rfl⟩ := view_columns?_eq_some_iff.1 h
  have hne : n ≠ r.name := by
    rintro rfl
    simp [hnew] at hr'
  exact view_columns?_eq_some_iff.2 ⟨r', by simpa [get?_insert_of_ne _ _ hne] using hr', rfl⟩

/-- A place in a history with one more request is its end or a place in the history before. -/
lemma of_concat_eq {history before rest : List Request} {q x : Request}
    (h : history ++ [q] = before ++ x :: rest) :
    (history = before ∧ q = x) ∨ ∃ rest', history = before ++ x :: rest' := by
  rcases List.eq_nil_or_concat rest with rfl | ⟨rest', y, rfl⟩
  · obtain ⟨hb, hq⟩ := List.append_inj' h rfl
    exact .inl ⟨hb, List.singleton_inj.1 hq⟩
  · refine .inr ⟨rest', ?_⟩
    rw [List.concat_eq_append, ← List.cons_append, ← List.append_assoc] at h
    exact (List.append_inj' h rfl).1

/-! ### Accepted requests preserve soundness -/

namespace Sound

theorem empty : Sound Catalog.empty where
  relation_wellFormed := by simp [Catalog.empty]
  constraint_supported := by simp [Catalog.empty]
  constraint_balanced := by simp [Catalog.empty]
  relations_filed := files_empty _
  constraints_filed := files_empty _
  relations_first := by simp [Catalog.empty]

theorem add_relation (h : c.Sound) {r : Relation} (hnew : c.relations.get? r.name = none)
    (hr : r.WellFormed) : (c.add (.relation r)).Sound where
  relation_wellFormed n r' hn := by
    by_cases hne : n = r.name
    · subst hne
      obtain rfl : r = r' := by simpa using hn
      exact hr
    · rw [relations_add_relation, get?_insert_of_ne _ _ hne] at hn
      exact h.relation_wellFormed n r' hn
  constraint_supported n k hn m hm := by
    obtain ⟨columns, hcolumns, hmem⟩ := h.constraint_supported n k hn m hm
    exact ⟨columns, columns?_add_relation hnew hcolumns, hmem⟩
  constraint_balanced := h.constraint_balanced
  relations_filed := by
    rw [relations_add_relation, relationsInOrder_add_relation]
    exact h.relations_filed.insert hnew
  constraints_filed := by
    rw [constraints_add_relation, constraintsInOrder_add_relation]
    exact h.constraints_filed
  relations_first before k rest hsplit m hm := by
    rw [history_add] at hsplit
    obtain ⟨-, hbad⟩ | ⟨rest', hold⟩ := of_concat_eq hsplit
    · simp at hbad
    · exact h.relations_first before k rest' hold m hm

theorem add_constraint (h : c.Sound) {k : Constraint} (hnew : c.constraints.get? k.name = none)
    (hsup : k.SupportedBy c.view.columns?) (hbal : k.Balanced) :
    (c.add (.constraint k)).Sound where
  relation_wellFormed := h.relation_wellFormed
  constraint_supported n k' hn := by
    by_cases hne : n = k.name
    · subst hne
      obtain rfl : k = k' := by simpa using hn
      exact hsup
    · rw [constraints_add_constraint, get?_insert_of_ne _ _ hne] at hn
      exact h.constraint_supported n k' hn
  constraint_balanced n k' hn := by
    by_cases hne : n = k.name
    · subst hne
      obtain rfl : k = k' := by simpa using hn
      exact hbal
    · rw [constraints_add_constraint, get?_insert_of_ne _ _ hne] at hn
      exact h.constraint_balanced n k' hn
  relations_filed := by
    rw [relations_add_constraint, relationsInOrder_add_constraint]
    exact h.relations_filed
  constraints_filed := by
    rw [constraints_add_constraint, constraintsInOrder_add_constraint]
    exact h.constraints_filed.insert hnew
  relations_first before k' rest hsplit m hm := by
    rw [history_add] at hsplit
    obtain ⟨rfl, hk⟩ | ⟨rest', hold⟩ := of_concat_eq hsplit
    · -- the new constraint: what supports it is stored, so it is in the history
      obtain rfl : k = k' := by simpa using hk
      obtain ⟨columns, hcolumns, -⟩ := hsup m hm
      obtain ⟨r, hr, -⟩ := view_columns?_eq_some_iff.1 hcolumns
      obtain ⟨hmem, hname⟩ := (h.relations_filed.get?_eq_some_iff m.1 r).1 hr
      exact ⟨r, mem_relationsInOrder.1 hmem, hname⟩
    · exact h.relations_first before k' rest' hold m hm

end Sound

lemma sound_of_create {c' : Catalog} {q : Request} (h : c.Sound)
    (hq : Store.create c q = .ok c') : c'.Sound := by
  obtain ⟨hcheck, rfl⟩ := create_eq_ok_iff.1 hq
  cases q with
  | relation r =>
    obtain ⟨hnew, hr⟩ := View.checkRelation_eq_ok_iff.1 hcheck
    exact h.add_relation (contains_eq_false_iff.1 hnew) hr
  | constraint k =>
    obtain ⟨hnew, hsup, hbal⟩ := View.check_constraint_eq_ok_iff.1 hcheck
    exact h.add_constraint (contains_eq_false_iff.1 hnew) hsup hbal

lemma sound_after (h : c.Sound) (q : Request) : (Store.after c q).Sound := by
  cases hcheck : c.view.check q with
  | error e =>
    rw [Store.after_of_check_error hcheck]
    exact h
  | ok _ =>
    have hcreate : Store.create c q = .ok (c.add q) := create_eq_ok_iff.2 ⟨hcheck, rfl⟩
    rw [Store.after_of_create_ok hcreate]
    exact sound_of_create h hcreate

lemma Sound.afterAll (h : c.Sound) (qs : List Request) : (Store.afterAll c qs).Sound :=
  Store.afterAll_induction (P := Sound) (fun _ q h => sound_after h q) h qs

/-- **Integrity.**  Whatever requests a catalog gets, in whatever order, what it holds is in
order after them. -/
theorem sound_afterAll_empty (qs : List Request) : (Store.afterAll Catalog.empty qs).Sound :=
  Store.afterAll_induction (P := Sound) (fun _ q h => sound_after h q) Sound.empty qs

end ClassSchema.Catalog
