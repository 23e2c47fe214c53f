import ClassSchema.Proofs.OrderedMap
import ClassSchema.Proofs.Outcome
import ClassSchema.Schema.Request

/-
# What validation accepts

The checks of `View.check` run in a fixed order and stop at the first that fails.  Read together
they accept exactly this: a relation that is new and well formed, and a constraint that is new,
that names stored relations and attributes of theirs only, and whose lists of referring attributes
are matched one to one.  The main statements are `View.checkRelation_eq_ok_iff` and
`View.check_constraint_eq_ok_iff`; later proofs use them and open no check.
-/

namespace ClassSchema.Schema

open OrderedMap Outcome

/-- A relation with attributes, no two of one name, whose identifiers list attributes of its own
and none of them twice. -/
structure Relation.WellFormed (r : Relation) : Prop where
  attributes_ne_nil : r.attributes ≠ []
  columns_nodup : r.columns.Nodup
  identifier_mem : ∀ g names, r.identifiers.get? g = some names → ∀ n ∈ names, n ∈ r.columns
  identifier_nodup : ∀ g names, r.identifiers.get? g = some names → names.Nodup

namespace Constraint

/-- The relations that a constraint names, each time with the attributes that it lists of it. -/
def mentions : Constraint → List (String × List String)
  | .association c =>
    [(c.referring.relation, c.referring.attributes),
      (c.referenced.relation, c.referenced.attributes)]
  | .correlation c =>
    [(c.relation, c.a.attributes), (c.a.relation, c.a.referenced), (c.relation, c.b.attributes),
      (c.b.relation, c.b.referenced)]
  | .partition c => (c.superclass, c.superAttributes) :: c.subclasses.entries

/-- The lists of referring attributes, each with the list of attributes that they refer to. -/
def pairings : Constraint → List (List String × List String)
  | .association c => [(c.referring.attributes, c.referenced.attributes)]
  | .correlation c => [(c.a.attributes, c.a.referenced), (c.b.attributes, c.b.referenced)]
  | .partition c => c.subclasses.entries.map fun e => (e.2, c.superAttributes)

/-- Whatever a constraint names is there: its relations have columns, and these hold the
attributes that it lists. -/
def SupportedBy (columns? : String → Option (List String)) (k : Constraint) : Prop :=
  ∀ m ∈ k.mentions, ∃ columns, columns? m.1 = some columns ∧ ∀ n ∈ m.2, n ∈ columns

/-- Some attributes refer in each place where attributes do, and to as many attributes; a
partition has a subclass. -/
structure Balanced (k : Constraint) : Prop where
  referring_ne_nil : ∀ p ∈ k.pairings, p.1 ≠ []
  length_eq : ∀ p ∈ k.pairings, p.1.length = p.2.length
  subclasses_ne_nil : ∀ c, k = .partition c → c.subclasses.entries ≠ []

variable {columns? : String → Option (List String)}

lemma supportedBy_association {c : Association} :
    SupportedBy columns? (.association c) ↔
      (∃ columns, columns? c.referring.relation = some columns ∧
        ∀ n ∈ c.referring.attributes, n ∈ columns) ∧
      ∃ columns, columns? c.referenced.relation = some columns ∧
        ∀ n ∈ c.referenced.attributes, n ∈ columns := by
  simp [SupportedBy, mentions]

lemma balanced_association {c : Association} :
    Balanced (.association c) ↔ c.referring.attributes ≠ [] ∧
      c.referring.attributes.length = c.referenced.attributes.length := by
  constructor
  · intro h
    exact ⟨h.referring_ne_nil _ List.mem_cons_self, h.length_eq _ List.mem_cons_self⟩
  · rintro ⟨hne, hlen⟩
    exact ⟨by simpa [pairings] using hne, by simpa [pairings] using hlen, by simp⟩

lemma supportedBy_correlation {c : Correlation} :
    SupportedBy columns? (.correlation c) ↔
      (∃ columns, columns? c.relation = some columns ∧ ∀ n ∈ c.a.attributes, n ∈ columns) ∧
      (∃ columns, columns? c.a.relation = some columns ∧ ∀ n ∈ c.a.referenced, n ∈ columns) ∧
      (∃ columns, columns? c.relation = some columns ∧ ∀ n ∈ c.b.attributes, n ∈ columns) ∧
      ∃ columns, columns? c.b.relation = some columns ∧ ∀ n ∈ c.b.referenced, n ∈ columns := by
  simp [SupportedBy, mentions]

lemma balanced_correlation {c : Correlation} :
    Balanced (.correlation c) ↔
      (c.a.attributes ≠ [] ∧ c.a.attributes.length = c.a.referenced.length) ∧
      c.b.attributes ≠ [] ∧ c.b.attributes.length = c.b.referenced.length := by
  constructor
  · intro h
    have hb : (c.b.attributes, c.b.referenced) ∈ pairings (.correlation c) :=
      List.mem_cons_of_mem _ List.mem_cons_self
    exact ⟨⟨h.referring_ne_nil _ List.mem_cons_self, h.length_eq _ List.mem_cons_self⟩,
      h.referring_ne_nil _ hb, h.length_eq _ hb⟩
  · rintro ⟨⟨hane, halen⟩, hbne, hblen⟩
    exact ⟨by simpa [pairings] using ⟨hane, hbne⟩, by simpa [pairings] using ⟨halen, hblen⟩,
      by simp⟩

lemma supportedBy_partition {c : Partition} :
    SupportedBy columns? (.partition c) ↔
      (∃ columns, columns? c.superclass = some columns ∧ ∀ n ∈ c.superAttributes, n ∈ columns) ∧
      ∀ e ∈ c.subclasses.entries, ∃ columns, columns? e.1 = some columns ∧
        ∀ n ∈ e.2, n ∈ columns := by
  rw [SupportedBy, mentions, List.forall_mem_cons]

lemma balanced_partition {c : Partition} :
    Balanced (.partition c) ↔ c.subclasses.entries ≠ [] ∧
      ∀ e ∈ c.subclasses.entries, e.2 ≠ [] ∧ e.2.length = c.superAttributes.length := by
  constructor
  · intro h
    refine ⟨h.subclasses_ne_nil c rfl, fun e he => ?_⟩
    have hp : (e.2, c.superAttributes) ∈ pairings (.partition c) := List.mem_map.2 ⟨e, he, rfl⟩
    exact ⟨h.referring_ne_nil _ hp, h.length_eq _ hp⟩
  · rintro ⟨hne, hsubs⟩
    refine ⟨?_, ?_, ?_⟩
    · simpa only [pairings, List.forall_mem_map] using fun e he => (hsubs e he).1
    · simpa only [pairings, List.forall_mem_map] using fun e he => (hsubs e he).2
    · rintro c' ⟨⟩
      exact hne

end Constraint

/-! ### The single checks -/

lemma firstRepeat?_eq_none_iff {before names : List String} :
    firstRepeat? before names = none ↔ names.Nodup ∧ ∀ n ∈ names, n ∉ before := by
  induction names generalizing before with
  | nil => simp [firstRepeat?]
  | cons n rest ih =>
    rw [firstRepeat?]
    split
    next h => simp [h]
    next h =>
      rw [ih, List.nodup_cons]
      simp only [List.mem_cons, not_or, forall_eq_or_imp]
      constructor
      · rintro ⟨hrest, hnot⟩
        exact ⟨⟨fun hn => (hnot n hn).1 rfl, hrest⟩, h, fun x hx => (hnot x hx).2⟩
      · rintro ⟨⟨hn, hrest⟩, -, hnot⟩
        exact ⟨hrest, fun x hx => ⟨fun hxn => hn (hxn ▸ hx), hnot x hx⟩⟩

lemma firstRepeat?_nil_eq_none_iff {names : List String} :
    firstRepeat? [] names = none ↔ names.Nodup := by
  simp [firstRepeat?_eq_none_iff]

lemma checkNames_eq_ok_iff {relation : String} {columns names : List String} :
    checkNames relation columns names = .ok () ↔ ∀ n ∈ names, n ∈ columns := by
  unfold checkNames
  split
  next n h =>
    have hmem := List.mem_of_find?_eq_some h
    have hn := List.find?_some h
    simp only [decide_eq_true_eq] at hn
    simpa using ⟨n, hmem, hn⟩
  next h => simpa using h

lemma checkIdentifiers_eq_ok_iff {relation : String} {columns : List String}
    {groups : List (UInt32 × List String)} :
    checkIdentifiers relation columns groups = .ok () ↔
      ∀ e ∈ groups, (∀ n ∈ e.2, n ∈ columns) ∧ e.2.Nodup := by
  induction groups with
  | nil => simp [checkIdentifiers]
  | cons e rest ih =>
    obtain ⟨g, names⟩ := e
    rw [checkIdentifiers, seq_eq_ok_iff, checkNames_eq_ok_iff, List.forall_mem_cons, and_assoc]
    refine and_congr_right fun _ => ?_
    rw [← firstRepeat?_nil_eq_none_iff]
    cases firstRepeat? [] names with
    | none => simpa using ih
    | some n => simp

lemma checkCounts_eq_ok_iff {constraint : String} {referring referenced : List String} :
    checkCounts constraint referring referenced = .ok () ↔
      referring ≠ [] ∧ referring.length = referenced.length := by
  unfold checkCounts
  split
  next h => simpa [Decidable.or_iff_not_imp_left] using h
  next h => simpa using h

namespace View

variable {v : View}

lemma checkReference_eq_ok_iff {relation : String} {names : List String} :
    v.checkReference relation names = .ok () ↔
      ∃ columns, v.columns? relation = some columns ∧ ∀ n ∈ names, n ∈ columns := by
  unfold checkReference
  split
  next columns h => simp [h, checkNames_eq_ok_iff]
  next h => simp [h]

lemma checkNew_eq_ok_iff {constraint : String} :
    v.checkNew constraint = .ok () ↔ v.hasConstraint constraint = false := by
  unfold checkNew
  split <;> simp_all

/-! ### Requests -/

/-- A relation is accepted when it is new and well formed. -/
theorem checkRelation_eq_ok_iff {r : Relation} :
    v.checkRelation r = .ok () ↔ v.hasRelation r.name = false ∧ r.WellFormed := by
  unfold checkRelation
  split
  next h => simp [h]
  next h =>
    have hnew : v.hasRelation r.name = false := by simpa using h
    split
    next he =>
      have hnil : r.attributes = [] := List.isEmpty_iff.1 he
      simp only [reduceCtorEq, hnew, true_and, false_iff]
      exact fun hr => hr.attributes_ne_nil hnil
    next he =>
      have hne : r.attributes ≠ [] := fun hnil => he (List.isEmpty_iff.2 hnil)
      split
      next n hrep =>
        simp only [reduceCtorEq, hnew, true_and, false_iff]
        intro hr
        rw [firstRepeat?_nil_eq_none_iff.2 hr.columns_nodup] at hrep
        simp at hrep
      next hrep =>
        have hnodup : r.columns.Nodup := firstRepeat?_nil_eq_none_iff.1 hrep
        rw [checkIdentifiers_eq_ok_iff]
        constructor
        · intro hid
          exact ⟨hnew, hne, hnodup, fun g names hg => (hid (g, names) (mem_entries_iff.2 hg)).1,
            fun g names hg => (hid (g, names) (mem_entries_iff.2 hg)).2⟩
        · rintro ⟨-, hr⟩ ⟨g, names⟩ he
          have hg := mem_entries_iff.1 he
          exact ⟨hr.identifier_mem g names hg, hr.identifier_nodup g names hg⟩

lemma checkEnd_eq_ok_iff {constraint relation : String} {e : CorrelationEnd} :
    v.checkEnd constraint relation e = .ok () ↔
      v.checkReference relation e.attributes = .ok () ∧
        v.checkReference e.relation e.referenced = .ok () ∧
        checkCounts constraint e.attributes e.referenced = .ok () := by
  simp only [checkEnd, seq_eq_ok_iff]

lemma checkSubclasses_eq_ok_iff {constraint : String} {superAttributes : List String}
    {subclasses : List (String × List String)} :
    v.checkSubclasses constraint superAttributes subclasses = .ok () ↔
      ∀ e ∈ subclasses, v.checkReference e.1 e.2 = .ok () ∧
        checkCounts constraint e.2 superAttributes = .ok () := by
  induction subclasses with
  | nil => simp [checkSubclasses]
  | cons e rest ih =>
    obtain ⟨relation, names⟩ := e
    simp only [checkSubclasses, seq_eq_ok_iff, ih, List.forall_mem_cons, and_assoc]

/-- A constraint is accepted when it is new, what it names is there, and its attributes are
matched one to one. -/
theorem check_constraint_eq_ok_iff {k : Constraint} :
    v.check (.constraint k) = .ok () ↔
      v.hasConstraint k.name = false ∧ k.SupportedBy v.columns? ∧ k.Balanced := by
  cases k with
  | association c =>
    simp only [check, checkAssociation, seq_eq_ok_iff, checkNew_eq_ok_iff,
      checkReference_eq_ok_iff, checkCounts_eq_ok_iff, Constraint.supportedBy_association,
      Constraint.balanced_association, Constraint.name, and_assoc]
  | correlation c =>
    simp only [check, checkCorrelation, seq_eq_ok_iff, checkNew_eq_ok_iff, checkEnd_eq_ok_iff,
      checkReference_eq_ok_iff, checkCounts_eq_ok_iff, Constraint.supportedBy_correlation,
      Constraint.balanced_correlation, Constraint.name]
    tauto
  | partition c =>
    rw [check, checkPartition, seq_eq_ok_iff, checkNew_eq_ok_iff]
    refine and_congr_right fun _ => ?_
    rw [Constraint.supportedBy_partition, Constraint.balanced_partition]
    by_cases hc : c.subclasses.entries = []
    · simp [hc, isEmpty_eq_true_iff.2 hc]
    · have he : c.subclasses.isEmpty = false := by
        rwa [Bool.eq_false_iff, Ne, isEmpty_eq_true_iff]
      simp only [he, Bool.false_eq_true, if_false, seq_eq_ok_iff, checkSubclasses_eq_ok_iff,
        checkReference_eq_ok_iff, checkCounts_eq_ok_iff, forall_and, hc, ne_eq,
        not_false_eq_true, true_and, and_assoc]

end View

end ClassSchema.Schema
