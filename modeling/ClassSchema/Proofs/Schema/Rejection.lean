import ClassSchema.Proofs.Schema.Validity

/-
# Why requests are rejected

A rejection names what is wrong with the request.  `Relation.Faults` and `Constraint.Faults` list
what can be wrong with a relation and with a constraint, each with the names that the rejection
gives.  They leave out what a request can be kept from: a relation whose identifiers list
attributes of its own, none of them twice, is not rejected for its identifiers
(`View.checkRelation_failsOnly`), and a constraint between stored relations, with a subclass if it
is a partition, is not rejected for what it is between (`View.check_constraint_failsOnly`).
-/

namespace ClassSchema.Schema

open OrderedMap Outcome

/-- What can be wrong with a relation, its identifiers apart. -/
inductive Relation.Faults (r : Relation) : SchemaError → Prop
  | name : r.Faults (.duplicateRelation r.name)
  | attributes : r.attributes = [] → r.Faults (.emptyRelation r.name)
  | column {column : String} : column ∈ r.columns → r.Faults (.duplicateAttribute r.name column)

/-- What can be wrong with a constraint, what it is between apart. -/
inductive Constraint.Faults (k : Constraint) : SchemaError → Prop
  | name : k.Faults (.duplicateConstraint k.name)
  | attribute {m : String × List String} {column : String} :
      m ∈ k.mentions → column ∈ m.2 → k.Faults (.unknownAttribute m.1 column)
  | counts {p : List String × List String} :
      p ∈ k.pairings → k.Faults (.countMismatch k.name p.1.length p.2.length)

/-! ### The single checks -/

lemma mem_of_firstRepeat? {before names : List String} {n : String}
    (h : firstRepeat? before names = some n) : n ∈ names := by
  induction names generalizing before with
  | nil => cases h
  | cons m rest ih =>
    rw [firstRepeat?] at h
    split at h
    · obtain rfl := Option.some.inj h
      exact List.mem_cons_self
    · exact List.mem_cons_of_mem _ (ih h)

lemma checkNames_failsOnly {P : SchemaError → Prop} {relation : String}
    {columns names : List String} (h : ∀ n ∈ names, P (.unknownAttribute relation n)) :
    FailsOnly P (checkNames relation columns names) := by
  unfold checkNames
  split
  next n hn => exact .of_error rfl (h n (List.mem_of_find?_eq_some hn))
  next => exact .of_ok rfl

lemma checkCounts_failsOnly {P : SchemaError → Prop} {constraint : String}
    {referring referenced : List String}
    (h : P (.countMismatch constraint referring.length referenced.length)) :
    FailsOnly P (checkCounts constraint referring referenced) := by
  unfold checkCounts
  split
  · exact .of_error rfl h
  · exact .of_ok rfl

namespace View

variable {v : View}

/-- The attributes of a stored relation can be missing, but not the relation. -/
lemma checkReference_failsOnly {P : SchemaError → Prop} {relation : String} {names : List String}
    (hstored : (v.columns? relation).isSome) (h : ∀ n ∈ names, P (.unknownAttribute relation n)) :
    FailsOnly P (v.checkReference relation names) := by
  obtain ⟨columns, hcolumns⟩ := Option.isSome_iff_exists.1 hstored
  rw [checkReference, hcolumns]
  exact checkNames_failsOnly h

lemma checkNew_failsOnly {P : SchemaError → Prop} {constraint : String}
    (h : P (.duplicateConstraint constraint)) : FailsOnly P (v.checkNew constraint) := by
  unfold checkNew
  split
  · exact .of_error rfl h
  · exact .of_ok rfl

/-! ### Requests -/

theorem checkRelation_failsOnly {r : Relation}
    (h : checkIdentifiers r.name r.columns r.identifiers.entries = .ok ()) :
    FailsOnly r.Faults (v.checkRelation r) := by
  unfold checkRelation
  split
  · exact .of_error rfl .name
  · split
    next hempty => exact .of_error rfl (.attributes (List.isEmpty_iff.1 hempty))
    next =>
      split
      next n hn => exact .of_error rfl (.column (mem_of_firstRepeat? hn))
      next => exact .of_ok h

lemma checkSubclasses_failsOnly {P : SchemaError → Prop} {constraint : String}
    {superAttributes : List String} {subclasses : List (String × List String)}
    (hreference : ∀ e ∈ subclasses, FailsOnly P (v.checkReference e.1 e.2))
    (hcounts : ∀ e ∈ subclasses, FailsOnly P (checkCounts constraint e.2 superAttributes)) :
    FailsOnly P (v.checkSubclasses constraint superAttributes subclasses) := by
  induction subclasses with
  | nil => exact .of_ok rfl
  | cons e rest ih =>
    obtain ⟨relation, names⟩ := e
    rw [List.forall_mem_cons] at hreference hcounts
    rw [checkSubclasses]
    exact hreference.1.bind fun _ _ => hcounts.1.bind fun _ _ => ih hreference.2 hcounts.2

theorem check_constraint_failsOnly {k : Constraint}
    (hstored : ∀ m ∈ k.mentions, (v.columns? m.1).isSome)
    (hsubclasses : ∀ c, k = .partition c → c.subclasses.entries ≠ []) :
    FailsOnly k.Faults (v.check (.constraint k)) := by
  have hreference : ∀ m ∈ k.mentions, FailsOnly k.Faults (v.checkReference m.1 m.2) :=
    fun m hm => checkReference_failsOnly (hstored m hm) fun n hn => .attribute hm hn
  have hcounts : ∀ p ∈ k.pairings, FailsOnly k.Faults (checkCounts k.name p.1 p.2) :=
    fun p hp => checkCounts_failsOnly (.counts hp)
  have hnew : FailsOnly k.Faults (v.checkNew k.name) := checkNew_failsOnly .name
  cases k with
  | association c =>
    simp only [Constraint.mentions, Constraint.pairings, List.forall_mem_cons] at hreference hcounts
    rw [check, checkAssociation]
    exact hnew.bind fun _ _ => hreference.1.bind fun _ _ => hreference.2.1.bind fun _ _ => hcounts.1
  | correlation c =>
    simp only [Constraint.mentions, Constraint.pairings, List.forall_mem_cons] at hreference hcounts
    obtain ⟨hareferring, hareferenced, hbreferring, hbreferenced, -⟩ := hreference
    rw [check, checkCorrelation]
    refine hnew.bind fun _ _ => .bind ?_ fun _ _ => ?_
    · exact hareferring.bind fun _ _ => hareferenced.bind fun _ _ => hcounts.1
    · exact hbreferring.bind fun _ _ => hbreferenced.bind fun _ _ => hcounts.2.1
  | partition c =>
    rw [Constraint.mentions, List.forall_mem_cons] at hreference
    rw [Constraint.pairings, List.forall_mem_map] at hcounts
    have hempty : c.subclasses.isEmpty = false := by
      rw [Bool.eq_false_iff, Ne, isEmpty_eq_true_iff]
      exact hsubclasses c rfl
    rw [check, checkPartition, hempty]
    exact hnew.bind fun _ _ => hreference.1.bind fun _ _ =>
      checkSubclasses_failsOnly hreference.2 hcounts

end View

end ClassSchema.Schema
