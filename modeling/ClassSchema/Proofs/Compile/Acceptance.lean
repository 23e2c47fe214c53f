import ClassSchema.Proofs.Compile.Plan
import ClassSchema.Proofs.Store.Growth

/-
# When a compilation ends well

A compilation into a catalog ends well when each step of its plan does.  Said of the model as a
whole (`Compilable`): all types are known, the catalog admits the relations of the classes, and with
these it admits the constraints of the relationships that are due.  Then the catalog holds just the
two in addition (`exists_compile_iff`, `store_of_compile`).  The steps are looked at in a single
induction (`execute_requests_eq_ok_iff`), which serves both kinds of requests.
-/

namespace ClassSchema

open Model Schema OrderedMap Outcome

namespace Plan

/-- The relations of the classes that get one, in order. -/
def relations (types : TypeDictionary) (ss : List Subsystem) : List Relation :=
  (materialized ss).map fun m => relation types m.2

/-- The constraints of the relationships that are due, in order. -/
def constraints (ss : List Subsystem) : List Constraint :=
  ((ss.flatMap (·.relationships)).filter (isDue ss)).filterMap (·.constraint?)

variable {types : TypeDictionary} {c c' : Catalog} {ss : List Subsystem}

/-! ### Carrying out requests -/

/-- Requests are carried out when the catalog accepts the first and then the others. -/
lemma execute_requests_eq_ok_iff {α : Type} {q : α → Request} {P : Catalog → List α → Prop}
    (hnil : ∀ c, P c [])
    (hcons : ∀ c x xs, P c (x :: xs) ↔ c.view.check (q x) = .ok () ∧ P (c.add (q x)) xs)
    {xs : List α} : execute (xs.map fun x => .ok (q x)) c = .ok c' ↔
      P c xs ∧ c' = c.addAll (xs.map q) := by
  induction xs generalizing c with
  | nil =>
    simp only [List.map_nil, execute, Except.ok.injEq, hnil, true_and, Catalog.addAll_nil]
    exact eq_comm
  | cons x rest ih =>
    rw [List.map_cons, execute_cons_eq_ok_iff, hcons, List.map_cons, Catalog.addAll_cons, and_assoc,
      ← ih]
    constructor
    · rintro ⟨q', mid, hq, hcreate, hrest⟩
      obtain rfl := Except.ok.inj hq
      obtain ⟨hcheck, rfl⟩ := Catalog.create_eq_ok_iff.1 hcreate
      exact ⟨hcheck, hrest⟩
    · rintro ⟨hcheck, hrest⟩
      exact ⟨_, _, rfl, Catalog.create_eq_ok_iff.2 ⟨hcheck, rfl⟩, hrest⟩

/-! ### The steps for classes -/

lemma classStep_eq_ok_iff {m : Model.Class} {q : Request} : classStep types m = .ok q ↔
    untyped? types m.attributes = none ∧ q = .relation (relation types m) := by
  rw [classStep]
  cases untyped? types m.attributes with
  | some a => simp
  | none => simp [eq_comm]

lemma classSteps_of_typed {ms : List (String × Model.Class)}
    (h : ∀ m ∈ ms, untyped? types m.2.attributes = none) :
    classSteps types ms = (ms.map fun m => relation types m.2).map fun r => .ok (.relation r) := by
  rw [classSteps, List.map_map]
  exact List.map_congr_left fun m hm => classStep_eq_ok_iff.2 ⟨h m hm, rfl⟩

/-- The classes get their relations when all their types are known and the catalog admits the
relations. -/
theorem execute_classSteps_eq_ok_iff {ms : List (String × Model.Class)} :
    execute (classSteps types ms) c = .ok c' ↔
      (∀ m ∈ ms, untyped? types m.2.attributes = none) ∧
      c.AdmitsRelations (ms.map fun m => relation types m.2) ∧
      c' = c.addAll ((ms.map fun m => relation types m.2).map .relation) := by
  have hrelations {rs : List Relation} : execute (rs.map fun r => .ok (.relation r)) c = .ok c' ↔
      c.AdmitsRelations rs ∧ c' = c.addAll (rs.map .relation) :=
    execute_requests_eq_ok_iff Catalog.admitsRelations_nil
      fun _ _ _ => Catalog.admitsRelations_cons_iff
  constructor
  · intro h
    -- the steps that have been carried out were requests
    have htyped : ∀ m ∈ ms, untyped? types m.2.attributes = none := by
      intro m hm
      obtain ⟨qs, hqs, -⟩ := history_of_execute_ok h
      have hmem : classStep types m.2 ∈ classSteps types ms := List.mem_map_of_mem hm
      rw [hqs] at hmem
      obtain ⟨q, -, hq⟩ := List.mem_map.1 hmem
      exact (classStep_eq_ok_iff.1 hq.symm).1
    rw [classSteps_of_typed htyped] at h
    exact ⟨htyped, hrelations.1 h⟩
  · rintro ⟨htyped, h⟩
    rw [classSteps_of_typed htyped]
    exact hrelations.2 h

/-! ### The steps for relationships -/

lemma constraintSteps_eq (ss : List Subsystem) :
    constraintSteps ss (ss.flatMap (·.relationships)) =
      (constraints ss).map fun k => .ok (.constraint k) := by
  rw [constraintSteps, constraints, List.map_filterMap]

lemma execute_constraints_eq_ok_iff {ks : List Constraint} :
    execute (ks.map fun k => .ok (.constraint k)) c = .ok c' ↔
      c.AdmitsConstraints ks ∧ c' = c.addAll (ks.map .constraint) :=
  execute_requests_eq_ok_iff Catalog.admitsConstraints_nil
    fun _ _ _ => Catalog.admitsConstraints_cons_iff

/-! ### All steps -/

/-- The model can be compiled into the catalog. -/
structure Compilable (types : TypeDictionary) (c : Catalog) (ss : List Subsystem) : Prop where
  typed : ∀ m ∈ materialized ss, untyped? types m.2.attributes = none
  relations : c.AdmitsRelations (relations types ss)
  constraints :
    (c.addAll ((Plan.relations types ss).map .relation)).AdmitsConstraints (constraints ss)

/-- What a compilation adds to a catalog. -/
def requests (types : TypeDictionary) (ss : List Subsystem) : List Request :=
  (relations types ss).map .relation ++ (constraints ss).map .constraint

lemma relations_addAll_requests (types : TypeDictionary) (c : Catalog) (ss : List Subsystem) :
    (c.addAll (requests types ss)).relations =
      (c.addAll ((relations types ss).map .relation)).relations := by
  rw [requests, Catalog.addAll_append, Catalog.relations_addAll_constraints]

lemma constraints_addAll_requests (types : TypeDictionary) (c : Catalog) (ss : List Subsystem) :
    (c.addAll (requests types ss)).constraints =
      (constraints ss).foldl (fun m k => m.insert k.name k) c.constraints := by
  rw [requests, Catalog.addAll_append, Catalog.constraints_addAll_constraints,
    Catalog.constraints_addAll_relations]

theorem execute_plan_eq_ok_iff : execute (plan types ss) c = .ok c' ↔
    Compilable types c ss ∧ c' = c.addAll (requests types ss) := by
  rw [plan, execute_append, bind_eq_ok_iff, constraintSteps_eq, requests, Catalog.addAll_append]
  constructor
  · rintro ⟨mid, hfirst, hsecond⟩
    obtain ⟨htyped, hrelations, rfl⟩ := execute_classSteps_eq_ok_iff.1 hfirst
    obtain ⟨hconstraints, rfl⟩ := execute_constraints_eq_ok_iff.1 hsecond
    exact ⟨⟨htyped, hrelations, hconstraints⟩, rfl⟩
  · rintro ⟨h, rfl⟩
    exact ⟨_, execute_classSteps_eq_ok_iff.2 ⟨h.typed, h.relations, rfl⟩,
      execute_constraints_eq_ok_iff.2 ⟨h.constraints, rfl⟩⟩

end Plan

/-! ### The compilation -/

section

variable {types : TypeDictionary} {start : Catalog} {ss : List Subsystem}

/-- A compilation ends well when the model can be compiled. -/
theorem exists_compile_iff :
    (∃ done, compile types start ss = .ok done) ↔ Plan.Compilable types start ss := by
  have hplan := compile_store types start ss
  constructor
  · rintro ⟨done, h⟩
    rw [h, map_ok] at hplan
    exact (Plan.execute_plan_eq_ok_iff.1 hplan.symm).1
  · intro h
    rw [Plan.execute_plan_eq_ok_iff.2 ⟨h, rfl⟩] at hplan
    cases hc : compile types start ss with
    | error stop => rw [hc] at hplan; cases hplan
    | ok done => exact ⟨done, rfl⟩

lemma compilable_of_compile {done : Compilation Catalog} (h : compile types start ss = .ok done) :
    Plan.Compilable types start ss := exists_compile_iff.1 ⟨done, h⟩

/-- After a compilation that has ended well the catalog holds its relations and constraints in
addition. -/
theorem store_of_compile {done : Compilation Catalog} (h : compile types start ss = .ok done) :
    done.store = start.addAll (Plan.requests types ss) := by
  have hplan := compile_store types start ss
  rw [h, map_ok] at hplan
  exact (Plan.execute_plan_eq_ok_iff.1 hplan.symm).2

end

end ClassSchema
