import ClassSchema.Proofs.Store.Integrity

/-
# Catalogs that grow by many requests

A catalog looks at requests one after the other, each time at what it holds by then.  For requests
of one kind the same can be said of all of them at once, against what the catalog held at first:
`AdmitsRelations` and `AdmitsConstraints`.  Neither speaks of an order, so neither depends on one
(`AdmitsRelations.perm`, `AdmitsConstraints.perm`), and what the catalog holds afterwards depends
on none either (`relations_addAll_perm`).  To admit two lists one after the other is to admit both
as one (`admitsRelations_append_iff`, `admitsConstraints_append_iff`).
-/

namespace ClassSchema.Catalog

open Schema OrderedMap

/-! ### Names that are free -/

/-- All of a list can be filed in a map: the names are free and differ from each other. -/
structure Fileable {α : Type} (m : OrderedMap String α) (name : α → String) (xs : List α) :
    Prop where
  free : ∀ x ∈ xs, m.get? (name x) = none
  names_nodup : (xs.map name).Nodup

section

variable {α : Type} {m : OrderedMap String α} {name : α → String} {xs ys : List α}

lemma fileable_nil : Fileable m name [] := ⟨by simp, List.nodup_nil⟩

/-- To file all of a list is to file the first and then the others. -/
lemma fileable_cons_iff {x : α} : Fileable m name (x :: xs) ↔
    m.get? (name x) = none ∧ Fileable (m.insert (name x) x) name xs := by
  constructor
  · rintro ⟨hfree, hnames⟩
    rw [List.map_cons, List.nodup_cons] at hnames
    refine ⟨hfree x List.mem_cons_self, fun y hy => ?_, hnames.2⟩
    refine get?_insert_eq_none_iff.2 ⟨fun heq => ?_, hfree y (List.mem_cons_of_mem _ hy)⟩
    exact hnames.1 (List.mem_map.2 ⟨y, hy, heq⟩)
  · rintro ⟨hx, hfree, hnames⟩
    refine ⟨List.forall_mem_cons.2 ⟨hx, fun y hy => (get?_insert_eq_none_iff.1 (hfree y hy)).2⟩,
      List.nodup_cons.2 ⟨fun hmem => ?_, hnames⟩⟩
    obtain ⟨y, hy, heq⟩ := List.mem_map.1 hmem
    exact (get?_insert_eq_none_iff.1 (hfree y hy)).1 heq

/-- To file two lists as one is to file them one after the other. -/
lemma fileable_append_iff : Fileable m name (xs ++ ys) ↔
    Fileable m name xs ∧ Fileable (xs.foldl (fun m x => m.insert (name x) x) m) name ys := by
  induction xs generalizing m with
  | nil => simp [fileable_nil]
  | cons x rest ih =>
    rw [List.cons_append, fileable_cons_iff, ih, ← and_assoc, ← fileable_cons_iff, List.foldl_cons]

lemma Fileable.perm (h : Fileable m name xs) (hp : xs.Perm ys) : Fileable m name ys where
  free x hx := h.free x (hp.mem_iff.2 hx)
  names_nodup := (hp.map _).nodup_iff.1 h.names_nodup

end

/-! ### Many requests -/

/-- The catalog with some more relations and constraints. -/
def addAll (c : Catalog) (qs : List Request) : Catalog := qs.foldl add c

variable {c c' : Catalog} {rs rs' : List Relation} {ks ks' : List Constraint}

@[simp] lemma addAll_nil (c : Catalog) : c.addAll [] = c := rfl

@[simp] lemma addAll_cons (c : Catalog) (q : Request) (qs : List Request) :
    c.addAll (q :: qs) = (c.add q).addAll qs := rfl

lemma addAll_append (c : Catalog) (qs qs' : List Request) :
    c.addAll (qs ++ qs') = (c.addAll qs).addAll qs' := List.foldl_append

lemma history_addAll (c : Catalog) (qs : List Request) :
    (c.addAll qs).history = c.history ++ qs := by
  induction qs generalizing c with
  | nil => simp
  | cons q rest ih => rw [addAll_cons, ih, history_add, List.append_assoc, List.singleton_append]

lemma relations_addAll_relations (c : Catalog) (rs : List Relation) :
    (c.addAll (rs.map .relation)).relations =
      rs.foldl (fun m r => m.insert r.name r) c.relations := by
  induction rs generalizing c with
  | nil => rfl
  | cons r rest ih => rw [List.map_cons, addAll_cons, ih, relations_add_relation, List.foldl_cons]

lemma constraints_addAll_relations (c : Catalog) (rs : List Relation) :
    (c.addAll (rs.map .relation)).constraints = c.constraints := by
  induction rs generalizing c with
  | nil => rfl
  | cons r rest ih => rw [List.map_cons, addAll_cons, ih, constraints_add_relation]

lemma relations_addAll_constraints (c : Catalog) (ks : List Constraint) :
    (c.addAll (ks.map .constraint)).relations = c.relations := by
  induction ks generalizing c with
  | nil => rfl
  | cons k rest ih => rw [List.map_cons, addAll_cons, ih, relations_add_constraint]

lemma constraints_addAll_constraints (c : Catalog) (ks : List Constraint) :
    (c.addAll (ks.map .constraint)).constraints =
      ks.foldl (fun m k => m.insert k.name k) c.constraints := by
  induction ks generalizing c with
  | nil => rfl
  | cons k rest ih =>
    rw [List.map_cons, addAll_cons, ih, constraints_add_constraint, List.foldl_cons]

/-! ### Relations -/

/-- The catalog accepts all of the relations: they are well formed and can be filed. -/
@[mk_iff]
structure AdmitsRelations (c : Catalog) (rs : List Relation) : Prop where
  wellFormed : ∀ r ∈ rs, r.WellFormed
  fileable : Fileable c.relations Relation.name rs

lemma admitsRelations_nil (c : Catalog) : c.AdmitsRelations [] := ⟨by simp, fileable_nil⟩

/-- To accept relations is to accept the first and then the others. -/
lemma admitsRelations_cons_iff {r : Relation} : c.AdmitsRelations (r :: rs) ↔
    c.view.check (.relation r) = .ok () ∧ (c.add (.relation r)).AdmitsRelations rs := by
  have hcheck : c.view.check (.relation r) = .ok () ↔
      c.relations.get? r.name = none ∧ r.WellFormed :=
    View.checkRelation_eq_ok_iff.trans (and_congr_left' contains_eq_false_iff)
  rw [hcheck]
  constructor
  · rintro ⟨hwell, hfile⟩
    obtain ⟨hfree, hrest⟩ := fileable_cons_iff.1 hfile
    obtain ⟨hr, hwell⟩ := List.forall_mem_cons.1 hwell
    exact ⟨⟨hfree, hr⟩, hwell, hrest⟩
  · rintro ⟨⟨hfree, hr⟩, hwell, hrest⟩
    exact ⟨List.forall_mem_cons.2 ⟨hr, hwell⟩, fileable_cons_iff.2 ⟨hfree, hrest⟩⟩

lemma admitsRelations_append_iff : c.AdmitsRelations (rs ++ rs') ↔
    c.AdmitsRelations rs ∧ (c.addAll (rs.map .relation)).AdmitsRelations rs' := by
  simp only [admitsRelations_iff, List.forall_mem_append, fileable_append_iff,
    relations_addAll_relations]
  exact and_and_and_comm

lemma AdmitsRelations.perm (h : c.AdmitsRelations rs) (hp : rs.Perm rs') :
    c.AdmitsRelations rs' :=
  ⟨fun r hr => h.wellFormed r (hp.mem_iff.2 hr), h.fileable.perm hp⟩

/-- Whether relations are accepted depends on the relations that are stored. -/
lemma AdmitsRelations.congr (h : c.AdmitsRelations rs) (hr : c.relations = c'.relations) :
    c'.AdmitsRelations rs :=
  ⟨h.wellFormed, hr ▸ h.fileable⟩

/-- Accepted relations take no columns away. -/
lemma columns?_addAll_relations (h : c.AdmitsRelations rs) {n : String} {columns : List String}
    (hn : c.view.columns? n = some columns) :
    (c.addAll (rs.map .relation)).view.columns? n = some columns := by
  induction rs generalizing c with
  | nil => exact hn
  | cons r rest ih =>
    have hnew : c.relations.get? r.name = none := (fileable_cons_iff.1 h.fileable).1
    exact ih (admitsRelations_cons_iff.1 h).2 (columns?_add_relation hnew hn)

/-- Relations in another order make the same map of relations. -/
lemma relations_addAll_perm (h : c.AdmitsRelations rs) (hp : rs.Perm rs') :
    (c.addAll (rs.map .relation)).relations = (c.addAll (rs'.map .relation)).relations := by
  rw [relations_addAll_relations, relations_addAll_relations]
  exact foldl_insert_perm hp h.fileable.names_nodup _

/-! ### Constraints -/

/-- The catalog accepts all of the constraints: what they name is there, their attributes are
matched one to one, and they can be filed. -/
@[mk_iff]
structure AdmitsConstraints (c : Catalog) (ks : List Constraint) : Prop where
  supported : ∀ k ∈ ks, k.SupportedBy c.view.columns?
  balanced : ∀ k ∈ ks, k.Balanced
  fileable : Fileable c.constraints Constraint.name ks

lemma admitsConstraints_nil (c : Catalog) : c.AdmitsConstraints [] :=
  ⟨by simp, by simp, fileable_nil⟩

/-- Constraints leave the columns of all relations as they are. -/
lemma columns?_addAll_constraints (c : Catalog) (ks : List Constraint) :
    (c.addAll (ks.map .constraint)).view.columns? = c.view.columns? := by
  funext n
  simp only [view, relations_addAll_constraints]

/-- To accept constraints is to accept the first and then the others. -/
lemma admitsConstraints_cons_iff {k : Constraint} : c.AdmitsConstraints (k :: ks) ↔
    c.view.check (.constraint k) = .ok () ∧ (c.add (.constraint k)).AdmitsConstraints ks := by
  have hcheck : c.view.check (.constraint k) = .ok () ↔ c.constraints.get? k.name = none ∧
      k.SupportedBy c.view.columns? ∧ k.Balanced :=
    View.check_constraint_eq_ok_iff.trans (and_congr_left' contains_eq_false_iff)
  rw [hcheck]
  constructor
  · rintro ⟨hsup, hbal, hfile⟩
    obtain ⟨hfree, hrest⟩ := fileable_cons_iff.1 hfile
    obtain ⟨hk, hsup⟩ := List.forall_mem_cons.1 hsup
    obtain ⟨hk', hbal⟩ := List.forall_mem_cons.1 hbal
    exact ⟨⟨hfree, hk, hk'⟩, hsup, hbal, hrest⟩
  · rintro ⟨⟨hfree, hk, hk'⟩, hsup, hbal, hrest⟩
    exact ⟨List.forall_mem_cons.2 ⟨hk, hsup⟩, List.forall_mem_cons.2 ⟨hk', hbal⟩,
      fileable_cons_iff.2 ⟨hfree, hrest⟩⟩

lemma admitsConstraints_append_iff : c.AdmitsConstraints (ks ++ ks') ↔
    c.AdmitsConstraints ks ∧ (c.addAll (ks.map .constraint)).AdmitsConstraints ks' := by
  simp only [admitsConstraints_iff, List.forall_mem_append, fileable_append_iff,
    constraints_addAll_constraints, columns?_addAll_constraints]
  grind

lemma AdmitsConstraints.perm (h : c.AdmitsConstraints ks) (hp : ks.Perm ks') :
    c.AdmitsConstraints ks' :=
  ⟨fun k hk => h.supported k (hp.mem_iff.2 hk), fun k hk => h.balanced k (hp.mem_iff.2 hk),
    h.fileable.perm hp⟩

/-- Whether constraints are accepted depends on the columns of the relations that they name and on
the constraints that are stored. -/
lemma AdmitsConstraints.congr_mentions (h : c.AdmitsConstraints ks)
    (hcolumns : ∀ k ∈ ks, ∀ m ∈ k.mentions, c'.view.columns? m.1 = c.view.columns? m.1)
    (hk : c.constraints = c'.constraints) : c'.AdmitsConstraints ks where
  supported k hmem m hm := by
    rw [hcolumns k hmem m hm]
    exact h.supported k hmem m hm
  balanced := h.balanced
  fileable := hk ▸ h.fileable

/-- Whether constraints are accepted depends on what is stored, not on how it came there. -/
lemma AdmitsConstraints.congr (h : c.AdmitsConstraints ks) (hr : c.relations = c'.relations)
    (hk : c.constraints = c'.constraints) : c'.AdmitsConstraints ks :=
  h.congr_mentions (fun k _ m _ => by simp only [view, hr]) hk

/-! ### Relations and constraints by turns -/

/-- It makes no difference to the relations whether constraints come before or after them. -/
lemma relations_addAll_comm (c : Catalog) (rs : List Relation) (ks : List Constraint) :
    ((c.addAll (ks.map .constraint)).addAll (rs.map .relation)).relations =
      ((c.addAll (rs.map .relation)).addAll (ks.map .constraint)).relations := by
  simp only [relations_addAll_relations, relations_addAll_constraints]

/-- It makes no difference to the constraints whether relations come before or after them. -/
lemma constraints_addAll_comm (c : Catalog) (rs : List Relation) (ks : List Constraint) :
    ((c.addAll (ks.map .constraint)).addAll (rs.map .relation)).constraints =
      ((c.addAll (rs.map .relation)).addAll (ks.map .constraint)).constraints := by
  simp only [constraints_addAll_relations, constraints_addAll_constraints]

end ClassSchema.Catalog
