import ClassSchema.Proofs.Store.Integrity

/-
# Which requests a catalog accepts

A catalog checks a request step by step and gives the first reason against it.  `Catalog.Admits`
says what there must be nothing against, without steps and without an order: a relation must be new
and well formed; a constraint must be new, the relations that it names must be stored with the
attributes that it lists of them, and its attributes must be matched one to one.  The checks accept
just that (`check_eq_ok_iff`).  An accepted request is added under its name and at the end of the
history and changes nothing else (`gains_add`); a rejected one changes nothing at all.
-/

namespace ClassSchema.Catalog

open Schema OrderedMap Outcome

/-- There is nothing against the request. -/
def Admits (c : Catalog) : Request → Prop
  | .relation r => c.relations.get? r.name = none ∧ r.WellFormed
  | .constraint k =>
    c.constraints.get? k.name = none ∧
    (∀ m ∈ k.mentions, ∃ r, c.relations.get? m.1 = some r ∧ ∀ n ∈ m.2, n ∈ r.columns) ∧
    k.Balanced

/-- The catalog `c'` holds what `c` holds and what the request asks for, and nothing else. -/
def Gains (c : Catalog) (q : Request) (c' : Catalog) : Prop :=
  c'.history = c.history ++ [q] ∧
  match q with
  | .relation r => c'.constraints = c.constraints ∧
    ∀ n, c'.relations.get? n = if n = r.name then some r else c.relations.get? n
  | .constraint k => c'.relations = c.relations ∧
    ∀ n, c'.constraints.get? n = if n = k.name then some k else c.constraints.get? n

variable {c : Catalog} {q : Request}

/-! ### Acceptance -/

/-- What supports a constraint in a catalog is a stored relation for each that it names. -/
lemma supportedBy_view_iff {k : Constraint} : k.SupportedBy c.view.columns? ↔
    ∀ m ∈ k.mentions, ∃ r, c.relations.get? m.1 = some r ∧ ∀ n ∈ m.2, n ∈ r.columns := by
  constructor
  · intro h m hm
    obtain ⟨columns, hcolumns, hmem⟩ := h m hm
    obtain ⟨r, hr, rfl⟩ := view_columns?_eq_some_iff.1 hcolumns
    exact ⟨r, hr, hmem⟩
  · intro h m hm
    obtain ⟨r, hr, hmem⟩ := h m hm
    exact ⟨r.columns, view_columns?_eq_some_iff.2 ⟨r, hr, rfl⟩, hmem⟩

/-- The checks accept what the catalog admits. -/
theorem check_eq_ok_iff : c.view.check q = .ok () ↔ c.Admits q := by
  cases q with
  | relation r =>
    rw [View.check, View.checkRelation_eq_ok_iff]
    exact and_congr_left' contains_eq_false_iff
  | constraint k =>
    rw [View.check_constraint_eq_ok_iff, supportedBy_view_iff]
    exact and_congr_left' contains_eq_false_iff

lemma create_of_admits (h : c.Admits q) : Store.create c q = .ok (c.add q) :=
  create_eq_ok_iff.2 ⟨check_eq_ok_iff.2 h, rfl⟩

lemma exists_check_error_of_not_admits (h : ¬ c.Admits q) : ∃ e, c.view.check q = .error e := by
  cases hcheck : c.view.check q with
  | error e => exact ⟨e, rfl⟩
  | ok _ => exact absurd (check_eq_ok_iff.1 hcheck) h

lemma answer_eq_ok_iff : Store.answer c q = .ok () ↔ c.Admits q := by
  constructor
  · intro h
    by_contra hnot
    obtain ⟨e, he⟩ := exists_check_error_of_not_admits hnot
    cases he.symm.trans (Store.check_of_answer_ok h)
  · intro h
    exact Store.answer_of_create_ok (create_of_admits h)

lemma after_of_admits (h : c.Admits q) : Store.after c q = c.add q :=
  Store.after_of_create_ok (create_of_admits h)

/-! ### What changes -/

lemma gains_add (c : Catalog) (q : Request) : c.Gains q (c.add q) := by
  refine ⟨history_add q, ?_⟩
  cases q with
  | relation r => exact ⟨rfl, fun n => get?_insert_eq_ite c.relations r.name n r⟩
  | constraint k => exact ⟨rfl, fun n => get?_insert_eq_ite c.constraints k.name n k⟩

/-- **Validation is exact and leaves no traces.**  Whatever a catalog holds, it accepts a request if
and only if there is nothing against it.  Then it gains what the request asks for; else it stays as
it is. -/
theorem validation_exact (c : Catalog) (q : Request) :
    (Store.answer c q = .ok () ↔ c.Admits q) ∧
    (c.Admits q → c.Gains q (Store.after c q)) ∧
    (¬ c.Admits q → Store.after c q = c) := by
  refine ⟨answer_eq_ok_iff, fun h => ?_, fun h => ?_⟩
  · rw [after_of_admits h]
    exact gains_add c q
  · obtain ⟨e, he⟩ := exists_check_error_of_not_admits h
    exact Store.after_of_check_error he

/-- A catalog of animals with a relation for dogs and one for cats. -/
def kennel : Catalog :=
  Store.afterAll .empty
    [.relation ⟨"Animal", [⟨"ID", .int⟩], .ofList [(1, ["ID"])]⟩,
      .relation ⟨"Dog", [⟨"Tag", .int⟩, ⟨"Name", .string⟩], .ofList [(1, ["Tag"]), (2, ["Name"])]⟩,
      .relation ⟨"Cat", [⟨"Chip", .int⟩], .ofList [(1, ["Chip"])]⟩]

/-- Dogs and cats are animals. -/
def pets : Partition := ⟨"R1", "Animal", ["ID"], .ofList [("Dog", ["Tag"]), ("Cat", ["Chip"])]⟩

/-- Dogs and cats are animals, but cats have no tags. -/
def tagged : Partition := ⟨"R1", "Animal", ["ID"], .ofList [("Dog", ["Tag"]), ("Cat", ["Tag"])]⟩

theorem validation_exact_kennel :
    kennel.Admits (.constraint (.partition pets)) ∧
    (Store.after kennel (.constraint (.partition pets))).constraints.get? "R1" =
      some (.partition pets) ∧
    ¬ kennel.Admits (.constraint (.partition tagged)) ∧
    Store.after kennel (.constraint (.partition tagged)) = kennel := by
  obtain ⟨hiff, hgains, -⟩ := validation_exact kennel (.constraint (.partition pets))
  obtain ⟨hiff', -, hstays⟩ := validation_exact kennel (.constraint (.partition tagged))
  have hpets : kennel.Admits (.constraint (.partition pets)) := hiff.1 (by decide +kernel)
  have htagged : ¬ kennel.Admits (.constraint (.partition tagged)) := by
    rw [← hiff']
    decide +kernel
  refine ⟨hpets, ?_, htagged, hstays htagged⟩
  have hR1 := (hgains hpets).2.2 "R1"
  rw [hR1]
  rfl

end ClassSchema.Catalog
