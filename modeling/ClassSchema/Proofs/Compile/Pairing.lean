import ClassSchema.Proofs.Compile.Partition

/-
# Which attributes a partition matches

A partition has one list of attributes of the superclass, to which the lists of all subclasses are
matched position by position.  It is taken from the first path of the generalization.  So what a
subclass refers to is what the first path leads to (`partition_pairs_with_first`).  If its own path
leads to the same attributes in the same order, they are also what this path says; a path that lists
them in another order is accepted and matched in the order of the first
(`exists_partition_other_pairs`).
-/

namespace ClassSchema

open Model Schema OrderedMap Outcome

/-! ### Pairs -/

/-- Which attribute refers to which, as a path says it. -/
def Model.ReferencePath.pairs (path : ReferencePath) : List (String × String) :=
  (Plan.listed path.source).zip (Plan.listed path.target)

/-- Which attribute of a subclass refers to which of the superclass in a partition. -/
def Schema.Partition.pairs? (p : Partition) (subclass : String) :
    Option (List (String × String)) :=
  (p.subclasses.get? (unspaced subclass)).map fun names => names.zip p.superAttributes

/-- A list makes the same pairs with another list as with one of its own length, if the other one
begins with this. -/
lemma zip_eq_zip_iff_prefix {α β : Type} {xs : List α} {ys zs : List β}
    (hlen : xs.length = ys.length) : xs.zip ys = xs.zip zs ↔ ys <+: zs := by
  induction xs generalizing ys zs with
  | nil =>
    obtain rfl : ys = [] := List.length_eq_zero_iff.1 hlen.symm
    simp
  | cons x rest ih =>
    cases ys with
    | nil => cases hlen
    | cons y ys =>
      have hlen' : rest.length = ys.length := Nat.succ.inj hlen
      cases zs with
      | nil => simp
      | cons z zs =>
        rw [List.zip_cons_cons, List.zip_cons_cons, List.cons_prefix_cons, ← ih hlen']
        simp

/-! ### Created partitions -/

/-- **A partition pairs with the first path.**  When a compilation makes a partition of a
generalization that a record writes down with several paths, the attributes of a subclass are those
that its own path starts with, and each is paired with the attribute in its place among those that
the first path leads to; there are as many of them.  These are the pairs of the subclass's own path
if and only if what this path leads to begins with what the first path leads to. -/
theorem partition_pairs_with_first (types : TypeDictionary) (start : Catalog)
    (ss : List Subsystem) (record : RelationshipRecord) (r : Generalization) (k : Constraint)
    (hr : record.classify = .ok (.generalization r)) (hseveral : 1 < r.genrefs.length)
    (hk : Creates types start ss (.generalization r) k) :
    ∃ p first, k = .partition p ∧ r.genrefs.head? = some first ∧
      p.superAttributes = Plan.listed first.target ∧
      ∀ path ∈ r.genrefs,
        (Plan.listed path.source).length = (Plan.listed first.target).length ∧
        p.pairs? path.source.className =
          some ((Plan.listed path.source).zip (Plan.listed first.target)) ∧
        (p.pairs? path.source.className = some path.pairs ↔
          Plan.listed first.target <+: Plan.listed path.target) := by
  have hwell := RelationshipRecord.wellFormed_of_classify hr
  have hinj : Set.InjOn unspaced {c | c ∈ r.subclasses} :=
    hk.injOn_unspaced.mono fun c hc => List.mem_cons_of_mem _ hc
  have hbalanced := hk.balanced
  obtain rfl : .partition r.constraint = k := Option.some.inj hk.constraint?_eq
  obtain ⟨first, rest, hgenrefs⟩ := List.exists_cons_of_ne_nil hwell.genrefs_ne_nil
  have hhead : r.genrefs.head? = some first := by rw [hgenrefs, List.head?_cons]
  have hsuper : r.constraint.superAttributes = Plan.listed first.target := by
    rw [Plan.superAttributes_constraint, hhead, Option.map_some, Option.getD_some]
  refine ⟨r.constraint, first, rfl, hhead, hsuper, fun path hpath => ?_⟩
  have hget : r.constraint.subclasses.get? (unspaced path.source.className) =
      some (Plan.listed path.source) := hwell.get?_subclassAttributes_of_path hseveral hinj hpath
  have hlen : (Plan.listed path.source).length = (Plan.listed first.target).length := by
    have hentry : (unspaced path.source.className, Plan.listed path.source) ∈
        r.constraint.subclasses.entries := mem_entries_iff.2 hget
    have hcounts := ((Constraint.balanced_partition.1 hbalanced).2 _ hentry).2
    rwa [hsuper] at hcounts
  have hpairs : r.constraint.pairs? path.source.className =
      some ((Plan.listed path.source).zip (Plan.listed first.target)) := by
    rw [Partition.pairs?, hget, Option.map_some, hsuper]
  refine ⟨hlen, hpairs, ?_⟩
  rw [hpairs, Option.some.injEq, ReferencePath.pairs]
  exact zip_eq_zip_iff_prefix hlen

/-- The record of a generalization whose paths list the attributes of the superclass in different
orders. -/
def accountsRecord : RelationshipRecord where
  number := "R1"
  tSide := none
  pSide := none
  ref1 := none
  ref2 := none
  associationClass := none
  superclass := some "Account"
  subclasses := ["Current Account", "Savings Account"]
  genrefs :=
    [⟨⟨"Current Account", ["Bank", "Number"]⟩, ⟨"Account", ["Bank", "Number"]⟩⟩,
      ⟨⟨"Savings Account", ["Book number", "Issued by"]⟩, ⟨"Account", ["Number", "Bank"]⟩⟩]
  ascend := none

/-- What the record writes down. -/
def accounts : Generalization :=
  ⟨accountsRecord.number, "Account", accountsRecord.subclasses, accountsRecord.genrefs⟩

/-- A subsystem with the generalization and its classes. -/
def deposits : Subsystem where
  name := "Deposits"
  domain := "Bank"
  classes :=
    [⟨"Account", none,
        [⟨"Bank", some "name", [⟨1, false⟩]⟩, ⟨"Number", some "count", [⟨1, false⟩]⟩]⟩,
      ⟨"Current Account", none,
        [⟨"Bank", some "name", [⟨1, false⟩]⟩, ⟨"Number", some "count", [⟨1, false⟩]⟩]⟩,
      ⟨"Savings Account", none,
        [⟨"Book number", some "count", [⟨1, false⟩]⟩, ⟨"Issued by", some "name", [⟨1, false⟩]⟩]⟩]
  relationships := [.generalization accounts]

lemma creates_accounts :
    Creates ⟨.ofList [("name", .string), ("count", .int)]⟩ Catalog.empty [deposits]
      (.generalization accounts) (.partition accounts.constraint) := by
  have hok : (compile ⟨.ofList [("name", .string), ("count", .int)]⟩ Catalog.empty
      [deposits]).toBool = true := by decide +kernel
  obtain ⟨done, h⟩ := exists_ok_of_toBool hok
  exact creates_of_compile h (List.mem_singleton.2 rfl) (List.mem_singleton.2 rfl) rfl
    (by decide +kernel)

/-- The attributes of both subclasses are paired with banks and then numbers, as the first path has
them. -/
theorem partition_pairs_with_first_deposits :
    ∃ p, Creates ⟨.ofList [("name", .string), ("count", .int)]⟩ Catalog.empty [deposits]
        (.generalization accounts) (.partition p) ∧
      p.superAttributes = ["Bank", "Number"] ∧
      ∀ path ∈ accounts.genrefs, p.pairs? path.source.className =
        some ((Plan.listed path.source).zip ["Bank", "Number"]) := by
  obtain ⟨p, first, hp, hfirst, hsuper, hpaths⟩ := partition_pairs_with_first _ _ _ accountsRecord
    accounts _ rfl (by decide) creates_accounts
  obtain rfl := Constraint.partition.inj hp
  have hlisted : Plan.listed first.target = ["Bank", "Number"] := by
    rw [← hsuper]
    decide +kernel
  rw [hlisted] at hpaths
  exact ⟨_, creates_accounts, hsuper.trans hlisted, fun path hpath => (hpaths path hpath).2.1⟩

/-- A partition need not pair as a path says: the number of a savings account is paired with the
bank of an account, its bank with the number. -/
theorem exists_partition_other_pairs :
    ∃ p path, accountsRecord.classify = .ok (.generalization accounts) ∧
      1 < accounts.genrefs.length ∧
      Creates ⟨.ofList [("name", .string), ("count", .int)]⟩ Catalog.empty [deposits]
        (.generalization accounts) (.partition p) ∧
      path ∈ accounts.genrefs ∧
      path.pairs = [("Book_number", "Number"), ("Issued_by", "Bank")] ∧
      p.pairs? path.source.className = some [("Book_number", "Bank"), ("Issued_by", "Number")] ∧
      p.pairs? path.source.className ≠ some path.pairs := by
  refine ⟨accounts.constraint,
    ⟨⟨"Savings Account", ["Book number", "Issued by"]⟩, ⟨"Account", ["Number", "Bank"]⟩⟩, rfl,
    by decide, creates_accounts, by decide, ?_, ?_, ?_⟩
  · decide +kernel
  · decide +kernel
  · decide +kernel

end ClassSchema
