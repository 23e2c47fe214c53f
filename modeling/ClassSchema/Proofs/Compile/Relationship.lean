import ClassSchema.Compile.Relationship
import ClassSchema.Proofs.OrderedMap
import Mathlib.Tactic.Common

/-
# What the constraint of a relationship says

`Relationship.constraint?` computes the constraint.  `States` says what is in it: names without
spaces, lists of attributes in the order in which the paths give them, and the multiplicities of
the sides that name the classes.  A partition is a map, so it is described by what stands under
each name: the list of the one path that serves all subclasses, or else that of the last path that
starts at a subclass of this name.
-/

namespace ClassSchema

open Model Schema OrderedMap

namespace Plan

/-- The attributes of a path's source or target as a constraint lists them. -/
def listed (e : PathEnd) : List String := e.attributes.map unspaced

/-- What a partition lists of the relation `n`. -/
def subclassList? (r : Generalization) (n : String) : Option (List String) :=
  match r.genrefs with
  | [shared] => if n ∈ r.subclasses.map unspaced then some (listed shared.source) else none
  | paths =>
    (paths.reverse.find? fun p => unspaced p.source.className == n).map (listed ·.source)

/-- What the constraint of a relationship is. -/
def States : Relationship → Schema.Constraint → Prop
  | .association r, .association k =>
    let source := r.ref1.source
    let target := r.ref1.target
    let multiplicities := r.sides.project source.className
    k.name = r.number ∧
      k.referring = ⟨unspaced source.className, listed source, multiplicities.1⟩ ∧
      k.referenced = ⟨unspaced target.className, listed target, multiplicities.2⟩
  | .associative r, .correlation k =>
    let multiplicities := r.sides.project r.ref1.target.className
    k.name = r.number ∧ k.relation = unspaced r.associationClass ∧
      k.a = ⟨listed r.ref1.source, multiplicities.1, unspaced r.ref1.target.className,
        listed r.ref1.target⟩ ∧
      k.b = ⟨listed r.ref2.source, multiplicities.2, unspaced r.ref2.target.className,
        listed r.ref2.target⟩
  | .generalization r, .partition k =>
    k.name = r.number ∧ k.superclass = unspaced r.superclass ∧
      k.superAttributes = (r.genrefs.head?.map (listed ·.target)).getD [] ∧
      ∀ n, k.subclasses.get? n = subclassList? r n
  | _, _ => False

lemma find_map_pairs {α : Type} (key : α → String) (value : α → List String) (xs : List α)
    (n : String) : find n (xs.map fun x => (key x, value x)) =
      (xs.find? fun x => key x == n).map value := by
  induction xs with
  | nil => rfl
  | cons x rest ih =>
    rw [List.map_cons, find, List.find?_cons, ih]
    by_cases h : n = key x
    · simp [h]
    · have h' : (key x == n) = false := by simpa using fun h' => h h'.symm
      simp [h, h']

lemma get?_subclassAttributes (r : Generalization) (n : String) :
    r.subclassAttributes.get? n = subclassList? r n := by
  rw [Generalization.subclassAttributes, subclassList?]
  rcases h : r.genrefs with _ | ⟨shared, _ | ⟨second, rest⟩⟩
  · rfl
  · -- one path serves all subclasses
    have hmap : (r.subclasses.map fun c => (unspaced c, shared.source.attributes.map unspaced)) =
        (r.subclasses.map unspaced).map fun c => (c, listed shared.source) := by
      rw [List.map_map]
      rfl
    dsimp only
    rw [hmap, get?_ofList_map_pair]
  · dsimp only
    rw [get?_ofList, ← List.map_reverse]
    exact find_map_pairs _ _ _ n

lemma association_constraint_eq_iff {r : Model.Association} {k : Schema.Association} :
    r.constraint = k ↔ States (.association r) (.association k) := by
  obtain ⟨name, referring, referenced⟩ := k
  simp only [Association.constraint, States, listed, Schema.Association.mk.injEq]
  constructor
  · rintro ⟨rfl, rfl, rfl⟩
    exact ⟨rfl, rfl, rfl⟩
  · rintro ⟨rfl, rfl, rfl⟩
    exact ⟨rfl, rfl, rfl⟩

lemma associative_constraint_eq_iff {r : Associative} {k : Correlation} :
    r.constraint = k ↔ States (.associative r) (.correlation k) := by
  obtain ⟨name, relation, a, b⟩ := k
  simp only [Associative.constraint, States, listed, Correlation.mk.injEq]
  constructor
  · rintro ⟨rfl, rfl, rfl, rfl⟩
    exact ⟨rfl, rfl, rfl, rfl⟩
  · rintro ⟨rfl, rfl, rfl, rfl⟩
    exact ⟨rfl, rfl, rfl, rfl⟩

lemma superAttributes_constraint (r : Generalization) :
    r.constraint.superAttributes = (r.genrefs.head?.map (listed ·.target)).getD [] := by
  rw [Generalization.constraint]
  cases r.genrefs <;> rfl

lemma generalization_constraint_eq_iff {r : Generalization} {k : Schema.Partition} :
    r.constraint = k ↔ States (.generalization r) (.partition k) := by
  constructor
  · rintro rfl
    exact ⟨rfl, rfl, superAttributes_constraint r, get?_subclassAttributes r⟩
  · obtain ⟨name, superclass, superAttributes, subclasses⟩ := k
    rintro ⟨hname, hsuperclass, hsuper, hsubclasses⟩
    have hmap : r.subclassAttributes = subclasses :=
      ext_get? fun n => (get?_subclassAttributes r n).trans (hsubclasses n).symm
    change (⟨r.number, unspaced r.superclass, r.constraint.superAttributes,
      r.subclassAttributes⟩ : Schema.Partition) = _
    rw [superAttributes_constraint, hmap, ← hname, ← hsuperclass, ← hsuper]

/-- The constraint of a relationship is the one that is stated. -/
theorem constraint?_eq_some_iff {x : Relationship} {k : Schema.Constraint} :
    x.constraint? = some k ↔ States x k := by
  cases x with
  | association r =>
    cases k with
    | association k => simp [Relationship.constraint?, association_constraint_eq_iff]
    | correlation k => simp [Relationship.constraint?, States]
    | partition k => simp [Relationship.constraint?, States]
  | associative r =>
    cases k with
    | association k => simp [Relationship.constraint?, States]
    | correlation k => simp [Relationship.constraint?, associative_constraint_eq_iff]
    | partition k => simp [Relationship.constraint?, States]
  | generalization r =>
    cases k with
    | association k => simp [Relationship.constraint?, States]
    | correlation k => simp [Relationship.constraint?, States]
    | partition k => simp [Relationship.constraint?, generalization_constraint_eq_iff]
  | ordinal r => cases k <;> simp [Relationship.constraint?, States]

end Plan

end ClassSchema
