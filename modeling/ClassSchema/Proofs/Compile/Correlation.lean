import ClassSchema.Proofs.Compile.Multiplicity
import ClassSchema.Proofs.Compile.Partition
import ClassSchema.Proofs.Model.Classification

/-
# What a correlation keeps of an associative relationship

An associative relationship has two paths that lead from its association class to the two classes
that it associates.  Two things are said here of the correlation that is made of it.

The first is about the ends.  Which of the two paths comes first does not matter, as long as the
sides tell the two classes apart: with the paths exchanged the relationship comes to the same, and
its correlation has the ends exchanged and nothing else (`paths_exchange`).  The multiplicities go
along, although they are looked up for the first path only, since the side that does not name the
class of the first path names that of the second.

The second is about the relation that the correlation is stated on.  It is that of the class which
the record calls the association class, and the attributes that the paths start with are attributes
of this relation (`correlation_on_association_class`).  The paths name a class where they start,
too, but nothing looks at this name; where it is another one the correlation is created all the
same (`exists_correlation_of_other_source`).
-/

namespace ClassSchema

open Model Schema OrderedMap Outcome

/-! ### The two paths -/

namespace Schema.Correlation

/-- The two ends in each other's place. -/
def exchangeEnds (c : Correlation) : Correlation := { c with a := c.b, b := c.a }

variable {c : Correlation}

lemma supportedBy_exchangeEnds {columns? : String → Option (List String)} :
    Constraint.SupportedBy columns? (.correlation c.exchangeEnds) ↔
      Constraint.SupportedBy columns? (.correlation c) := by
  rw [Constraint.supportedBy_correlation, Constraint.supportedBy_correlation]
  constructor
  · rintro ⟨hb, hbref, ha, haref⟩
    exact ⟨ha, haref, hb, hbref⟩
  · rintro ⟨ha, haref, hb, hbref⟩
    exact ⟨hb, hbref, ha, haref⟩

lemma balanced_exchangeEnds :
    Constraint.Balanced (.correlation c.exchangeEnds) ↔ Constraint.Balanced (.correlation c) := by
  rw [Constraint.balanced_correlation, Constraint.balanced_correlation]
  exact and_comm

/-- A view accepts a correlation with the ends in either place. -/
lemma check_exchangeEnds_eq_ok_iff {v : View} :
    v.check (.constraint (.correlation c.exchangeEnds)) = .ok () ↔
      v.check (.constraint (.correlation c)) = .ok () := by
  rw [View.check_constraint_eq_ok_iff, View.check_constraint_eq_ok_iff, supportedBy_exchangeEnds,
    balanced_exchangeEnds]
  rfl

end Schema.Correlation

namespace Model.Associative

/-- The two paths in each other's place. -/
def exchangePaths (r : Associative) : Associative := { r with ref1 := r.ref2, ref2 := r.ref1 }

/-- The paths lead to two different classes, of which each side names one. -/
structure SidesNameTargets (r : Associative) : Prop where
  targets_ne : r.ref1.target.className ≠ r.ref2.target.className
  named : (r.sides.t.className = r.ref1.target.className ∧
      r.sides.p.className = r.ref2.target.className) ∨
    (r.sides.t.className = r.ref2.target.className ∧
      r.sides.p.className = r.ref1.target.className)

variable {r : Associative}

/-- What is the role class for one path is the other class for the other path. -/
lemma SidesNameTargets.project_eq_swap (h : r.SidesNameTargets) :
    r.sides.project r.ref2.target.className = (r.sides.project r.ref1.target.className).swap := by
  rcases h.named with ⟨ht, hp⟩ | ⟨ht, hp⟩
  · have hne : r.sides.t.className ≠ r.ref2.target.className := ht ▸ h.targets_ne
    rw [Sides.project_of_ne hne, Sides.project_of_eq ht, Prod.swap_prod_mk]
  · have hne : r.sides.t.className ≠ r.ref1.target.className := ht ▸ h.targets_ne.symm
    rw [Sides.project_of_eq ht, Sides.project_of_ne hne, Prod.swap_prod_mk]

/-- With the paths exchanged the constraint has the ends exchanged. -/
lemma SidesNameTargets.constraint_exchangePaths (h : r.SidesNameTargets) :
    r.exchangePaths.constraint = r.constraint.exchangeEnds := by
  have hproject : r.exchangePaths.sides.project r.exchangePaths.ref1.target.className =
      (r.sides.project r.ref1.target.className).swap := h.project_eq_swap
  rw [Associative.constraint, hproject]
  rfl

/-- The same classes are required, so all of them are known or some are missing in both. -/
lemma firstMissing?_exchangePaths {σ : Type} (b : Build σ) (r : Associative) :
    b.firstMissing? (Relationship.associative r.exchangePaths).requiredClasses = none ↔
      b.firstMissing? (Relationship.associative r).requiredClasses = none := by
  have hperm : (Relationship.associative r.exchangePaths).requiredClasses.Perm
      (Relationship.associative r).requiredClasses := (List.Perm.swap _ _ []).cons _
  rw [Build.firstMissing?_eq_none_iff, Build.firstMissing?_eq_none_iff, List.all_eq_true,
    List.all_eq_true]
  exact forall_congr' fun c => by rw [hperm.mem_iff]

end Model.Associative

namespace Build

variable {b : Build Catalog} {x : Relationship} {k : Constraint}

lemma addRelationship_of_check_ok (hk : x.constraint? = some k)
    (h : b.firstMissing? x.requiredClasses = none)
    (hcheck : b.store.view.check (.constraint k) = .ok ()) : b.addRelationship x =
      .ok ({ b with store := b.store.add (.constraint k) }, .created k.kind) := by
  have hcreate : Store.create b.store (.constraint k) = .ok (b.store.add (.constraint k)) :=
    Catalog.create_eq_ok_iff.2 ⟨hcheck, rfl⟩
  rw [addRelationship_of_known hk h, Plan.carryOut_eq_ok_iff.2 ⟨_, rfl, hcreate⟩, map_ok]

lemma addRelationship_of_check_error {e : SchemaError} (hk : x.constraint? = some k)
    (h : b.firstMissing? x.requiredClasses = none)
    (hcheck : b.store.view.check (.constraint k) = .error e) :
    b.addRelationship x = .error (.rejected e) := by
  have hcreate : Store.create b.store (.constraint k) = .error e :=
    Store.create_of_check_error hcheck
  rw [addRelationship_of_known hk h, Plan.carryOut, ok_bind, hcreate]
  rfl

end Build

/-- **The paths of an associative relationship are alike.**  Let the paths lead to two classes of
which each side names one.  Then, whatever is known and stored, the relationship comes to the same
with its paths exchanged: both are deferred, or both are rejected, or both become correlations, and
these differ in that the ends are exchanged. -/
theorem paths_exchange (b : Build Catalog) (r : Associative) (h : r.SidesNameTargets) :
    (∃ n n', b.addRelationship (.associative r) = .ok (b, .deferred n) ∧
      b.addRelationship (.associative r.exchangePaths) = .ok (b, .deferred n')) ∨
    (∃ e e', b.addRelationship (.associative r) = .error (.rejected e) ∧
      b.addRelationship (.associative r.exchangePaths) = .error (.rejected e')) ∨
    ∃ c : Correlation,
      b.addRelationship (.associative r) =
        .ok ({ b with store := b.store.add (.constraint (.correlation c)) },
          .created .correlation) ∧
      b.addRelationship (.associative r.exchangePaths) =
        .ok ({ b with store := b.store.add (.constraint (.correlation c.exchangeEnds)) },
          .created .correlation) := by
  have hk : (Relationship.associative r).constraint? = some (.correlation r.constraint) := rfl
  have hk' : (Relationship.associative r.exchangePaths).constraint? =
      some (.correlation r.constraint.exchangeEnds) := by
    rw [← h.constraint_exchangePaths]
    rfl
  have hmissing := Associative.firstMissing?_exchangePaths b r
  have hcheck : b.store.view.check (.constraint (.correlation r.constraint.exchangeEnds)) =
      .ok () ↔ b.store.view.check (.constraint (.correlation r.constraint)) = .ok () :=
    Correlation.check_exchangeEnds_eq_ok_iff
  cases hn : b.firstMissing? (Relationship.associative r).requiredClasses with
  | some n =>
    have hne : b.firstMissing? (Relationship.associative r.exchangePaths).requiredClasses ≠
        none := by
      rw [Ne, hmissing, hn]
      exact Option.some_ne_none n
    obtain ⟨n', hn'⟩ := Option.ne_none_iff_exists'.1 hne
    exact .inl ⟨n, n', Build.addRelationship_of_missing hk hn,
      Build.addRelationship_of_missing hk' hn'⟩
  | none =>
    have hn' := hmissing.2 hn
    cases hok : b.store.view.check (.constraint (.correlation r.constraint)) with
    | ok _ =>
      exact .inr <| .inr ⟨r.constraint, Build.addRelationship_of_check_ok hk hn hok,
        Build.addRelationship_of_check_ok hk' hn' (hcheck.2 hok)⟩
    | error e =>
      cases hok' : b.store.view.check (.constraint (.correlation r.constraint.exchangeEnds)) with
      | ok _ =>
        rw [hcheck.1 hok'] at hok
        cases hok
      | error e' =>
        exact .inr <| .inl ⟨e, e', Build.addRelationship_of_check_error hk hn hok,
          Build.addRelationship_of_check_error hk' hn' hok'⟩

/-- Owners and dogs, and who owns which. -/
def dogs : Build Catalog where
  store := Store.afterAll Catalog.empty
    [.relation ⟨"Owner", [⟨"Name", .string⟩], .ofList [(1, ["Name"])]⟩,
      .relation ⟨"Dog", [⟨"Name", .string⟩], .ofList [(1, ["Name"])]⟩,
      .relation ⟨"Ownership", [⟨"Owner_name", .string⟩, ⟨"Dog_name", .string⟩],
        .ofList [(1, ["Owner_name", "Dog_name"])]⟩]
  known := .ofList [("Owner", ()), ("Dog", ()), ("Ownership", ())]

/-- Who owns which dog; the path to the owner starts at the class `source`. -/
def ownedFrom (source : String) : Associative where
  number := "R1"
  associationClass := "Ownership"
  sides := ⟨⟨"Dog", .zeroOneOrMany, none⟩, ⟨"Owner", .exactlyOne, none⟩⟩
  ref1 := ⟨⟨source, ["Owner name"]⟩, ⟨"Owner", ["Name"]⟩⟩
  ref2 := ⟨⟨"Ownership", ["Dog name"]⟩, ⟨"Dog", ["Name"]⟩⟩

/-- Whether owners come first or second, each end keeps its multiplicity. -/
theorem paths_exchange_dogs :
    (ownedFrom "Ownership").SidesNameTargets ∧ ∃ b b' : Build Catalog,
      dogs.addRelationship (.associative (ownedFrom "Ownership")) =
        .ok (b, .created .correlation) ∧
      b.store.constraintsInOrder = [.correlation ⟨"R1", "Ownership",
        ⟨["Owner_name"], .exactlyOne, "Owner", ["Name"]⟩,
        ⟨["Dog_name"], .zeroOneOrMany, "Dog", ["Name"]⟩⟩] ∧
      dogs.addRelationship (.associative (ownedFrom "Ownership").exchangePaths) =
        .ok (b', .created .correlation) ∧
      b'.store.constraintsInOrder = [.correlation ⟨"R1", "Ownership",
        ⟨["Dog_name"], .zeroOneOrMany, "Dog", ["Name"]⟩,
        ⟨["Owner_name"], .exactlyOne, "Owner", ["Name"]⟩⟩] := by
  have hsides : (ownedFrom "Ownership").SidesNameTargets := ⟨by decide, by decide⟩
  have hcreated : (dogs.addRelationship (.associative (ownedFrom "Ownership"))).map
      (·.1.store.constraintsInOrder) = .ok [.correlation (ownedFrom "Ownership").constraint] := by
    decide +kernel
  obtain ⟨n, n', hn, -⟩ | ⟨e, e', he, -⟩ | ⟨c, hc, hc'⟩ := paths_exchange dogs _ hsides
  · rw [hn] at hcreated
    cases hcreated
  · rw [he] at hcreated
    cases hcreated
  · have hnone : dogs.store.constraintsInOrder = [] := by decide +kernel
    rw [hc, map_ok, Except.ok.injEq, Catalog.constraintsInOrder_add_constraint, hnone,
      List.nil_append] at hcreated
    obtain rfl : c = (ownedFrom "Ownership").constraint := by simpa using hcreated
    refine ⟨hsides, _, _, hc, ?_, hc', ?_⟩
    · rw [Catalog.constraintsInOrder_add_constraint, hnone]
      decide +kernel
    · rw [Catalog.constraintsInOrder_add_constraint, hnone]
      decide +kernel

/-! ### The relation of the association class -/

/-- The class at an end of a path has a relation, and the attributes that are listed there are
attributes of this relation. -/
def Catalog.Holds (c : Catalog) (e : PathEnd) : Prop :=
  ∃ columns, c.view.columns? (unspaced e.className) = some columns ∧
    ∀ n ∈ Plan.listed e, n ∈ columns

/-- A correlation comes from an associative relationship. -/
lemma exists_associative_of_constraint? {x : Relationship} {c : Correlation}
    (h : x.constraint? = some (.correlation c)) :
    ∃ r, x = .associative r ∧ Plan.States (.associative r) (.correlation c) := by
  have hstates := Plan.constraint?_eq_some_iff.1 h
  cases x with
  | associative r => exact ⟨r, rfl, hstates⟩
  | association r => exact hstates.elim
  | generalization r => exact hstates.elim
  | ordinal r => exact hstates.elim

/-- What the paths list is there, at the association class and at the classes where they lead. -/
lemma holds_of_creates {types : TypeDictionary} {start : Catalog} {ss : List Subsystem}
    {r : Associative} {c : Correlation}
    (h : Creates types start ss (.associative r) (.correlation c)) :
    ∀ path ∈ [r.ref1, r.ref2],
      (storeAfter types start ss).Holds ⟨r.associationClass, path.source.attributes⟩ ∧
        (storeAfter types start ss).Holds path.target := by
  obtain ⟨-, hrelation, ha, hb⟩ := Plan.constraint?_eq_some_iff.1 h.constraint?_eq
  have hsupported := Constraint.supportedBy_correlation.1 h.supportedBy_storeAfter
  rw [hrelation, ha, hb] at hsupported
  obtain ⟨hsource1, htarget1, hsource2, htarget2⟩ := hsupported
  simp only [List.forall_mem_cons]
  exact ⟨⟨hsource1, htarget1⟩, ⟨hsource2, htarget2⟩, by simp⟩

/-- **A correlation is stated on the association class.**  When a compilation makes a correlation
of what a record writes down, it is stated on the relation of the class that the record calls the
association class, with the attributes that the two paths start with.  In the end these are
attributes of this relation, and what the paths lead to is there, too.  So if a path starts at the
association class, what it starts with is there as well; if it names another class that is
declared, the correlation is not stated on the relation of this class. -/
theorem correlation_on_association_class (types : TypeDictionary) (start : Catalog)
    (ss : List Subsystem) (record : RelationshipRecord) (x : Relationship) (c : Correlation)
    (hx : record.classify = .ok x) (hk : Creates types start ss x (.correlation c)) :
    ∃ cls path₁ path₂, record.associationClass = some cls ∧ record.ref1 = some path₁ ∧
      record.ref2 = some path₂ ∧ c.relation = unspaced cls ∧
      c.a.attributes = Plan.listed path₁.source ∧ c.b.attributes = Plan.listed path₂.source ∧
      ∀ path ∈ [path₁, path₂],
        (storeAfter types start ss).Holds ⟨cls, path.source.attributes⟩ ∧
        (storeAfter types start ss).Holds path.target ∧
        (path.source.className = cls → (storeAfter types start ss).Holds path.source) ∧
        (Plan.declares ss path.source.className = true →
          (c.relation = unspaced path.source.className ↔ path.source.className = cls)) := by
  obtain ⟨r, rfl, -, hrelation, ha, hb⟩ := exists_associative_of_constraint? hk.constraint?_eq
  obtain ⟨-, hcls, -, -, href1, href2⟩ :=
    (RelationshipRecord.hasShape_and_carries_of_classify hx).2
  refine ⟨r.associationClass, r.ref1, r.ref2, hcls, href1, href2, hrelation, by rw [ha],
    by rw [hb], fun path hpath => ?_⟩
  obtain ⟨hsource, htarget⟩ := holds_of_creates hk path hpath
  refine ⟨hsource, htarget, fun hname => ?_, fun hdeclared => ?_⟩
  · rwa [← hname] at hsource
  · -- two classes that are declared have different relations
    have hrequired : Plan.declares ss r.associationClass = true :=
      hk.declares _ List.mem_cons_self
    rw [hrelation]
    constructor
    · intro hunspaced
      exact hk.eq_of_unspaced_eq hdeclared hrequired hunspaced.symm
    · intro hname
      rw [hname]

/-- The record of the relationship. -/
def ownedRecord (source : String) : RelationshipRecord where
  number := "R1"
  tSide := some (ownedFrom source).sides.t
  pSide := some (ownedFrom source).sides.p
  ref1 := some (ownedFrom source).ref1
  ref2 := some (ownedFrom source).ref2
  associationClass := some "Ownership"
  superclass := none
  subclasses := []
  genrefs := []
  ascend := none

/-- A subsystem with the relationship and its classes, and a class that does not say who owns the
dog. -/
def register (source : String) : Subsystem where
  name := "Register"
  domain := "Kennel"
  classes :=
    [⟨"Owner", none, [⟨"Name", some "name", [⟨1, false⟩]⟩]⟩,
      ⟨"Dog", none, [⟨"Name", some "name", [⟨1, false⟩]⟩]⟩,
      ⟨"Ownership", none,
        [⟨"Owner name", some "name", [⟨1, false⟩]⟩, ⟨"Dog name", some "name", [⟨1, false⟩]⟩]⟩,
      ⟨"Lease", none, [⟨"Number", some "name", [⟨1, false⟩]⟩, ⟨"Dog name", some "name", []⟩]⟩]
  relationships := [.associative (ownedFrom source)]

lemma creates_owned (source : String)
    (hok : (compile ⟨.ofList [("name", .string)]⟩ Catalog.empty [register source]).toBool = true)
    (hdue : Plan.isDue [register source] (.associative (ownedFrom source)) = true) :
    Creates ⟨.ofList [("name", .string)]⟩ Catalog.empty [register source]
      (.associative (ownedFrom source)) (.correlation (ownedFrom source).constraint) := by
  obtain ⟨done, h⟩ := exists_ok_of_toBool hok
  exact creates_of_compile h (List.mem_singleton.2 rfl) (List.mem_singleton.2 rfl) rfl hdue

/-- Both paths start at the class that says who owns which dog. -/
theorem correlation_on_association_class_register :
    ∃ c path₁ path₂, (ownedRecord "Ownership").classify =
        .ok (.associative (ownedFrom "Ownership")) ∧
      Creates ⟨.ofList [("name", .string)]⟩ Catalog.empty [register "Ownership"]
        (.associative (ownedFrom "Ownership")) (.correlation c) ∧
      (ownedRecord "Ownership").ref1 = some path₁ ∧ (ownedRecord "Ownership").ref2 = some path₂ ∧
      ∀ path ∈ [path₁, path₂], c.relation = unspaced path.source.className ∧
        (storeAfter ⟨.ofList [("name", .string)]⟩ Catalog.empty [register "Ownership"]).Holds
          path.source := by
  have hk := creates_owned "Ownership" (by decide +kernel) (by decide +kernel)
  obtain ⟨cls, path₁, path₂, hcls, href1, href2, hrelation, -, -, hpaths⟩ :=
    correlation_on_association_class _ _ _ (ownedRecord "Ownership") _ _ rfl hk
  obtain rfl : "Ownership" = cls := Option.some.inj hcls
  refine ⟨_, path₁, path₂, rfl, hk, href1, href2, ?_⟩
  intro path hpath
  have hsource : path.source.className = "Ownership" := by
    obtain rfl := Option.some.inj href1
    obtain rfl := Option.some.inj href2
    rcases List.mem_pair.1 hpath with rfl | rfl
    · rfl
    · rfl
  rw [hsource]
  exact ⟨hrelation, (hpaths path hpath).2.2.1 hsource⟩

/-- A correlation need not be stated on the class where a path starts: the path to the owner starts
at the lease, which does not say who owns the dog. -/
theorem exists_correlation_of_other_source :
    ∃ c path, (ownedRecord "Lease").classify = .ok (.associative (ownedFrom "Lease")) ∧
      Creates ⟨.ofList [("name", .string)]⟩ Catalog.empty [register "Lease"]
        (.associative (ownedFrom "Lease")) (.correlation c) ∧
      (ownedRecord "Lease").ref1 = some path ∧ path.source.className = "Lease" ∧
      (ownedRecord "Lease").associationClass = some "Ownership" ∧ c.relation = "Ownership" ∧
      c.a.attributes = ["Owner_name"] ∧
      ¬ (storeAfter ⟨.ofList [("name", .string)]⟩ Catalog.empty [register "Lease"]).Holds
        path.source := by
  refine ⟨(ownedFrom "Lease").constraint, (ownedFrom "Lease").ref1, rfl,
    creates_owned "Lease" (by decide +kernel) (by decide +kernel), rfl, rfl, rfl, by decide +kernel,
    by decide +kernel, ?_⟩
  rintro ⟨columns, hcolumns, hmem⟩
  have hlease : (storeAfter ⟨.ofList [("name", .string)]⟩ Catalog.empty
      [register "Lease"]).view.columns? "Lease" = some ["Number", "Dog_name"] := by
    decide +kernel
  have howner : "Owner_name" ∈ columns := hmem _ (by decide +kernel)
  have hname : unspaced (ownedFrom "Lease").ref1.source.className = "Lease" := by decide +kernel
  rw [hname, hlease, Option.some.injEq] at hcolumns
  subst hcolumns
  revert howner
  decide

end ClassSchema
