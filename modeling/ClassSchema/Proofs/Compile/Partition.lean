import ClassSchema.Proofs.Compile.Creation
import ClassSchema.Proofs.Model.Relationship
import Mathlib.Data.Set.Function

/-
# What a partition keeps of a generalization

A partition files the attributes of each subclass under the name of its relation.  Two subclasses
whose names differ by spaces and underscores only would have one key, and one of them would be
lost.  That never happens (`partition_keeps_subclasses`), and the reason lies outside the partition:
where the constraint is created all subclasses have got relations, and two relations never have the
same name (`Creates.injOn_unspaced`).  That each key holds the attributes of the right path depends
on the record, which several paths are checked against (`Generalization.WellFormed`).
-/

namespace ClassSchema

open Model Schema OrderedMap

/-- A partition represents a generalization: its keys correspond to the subclasses one to one, and
each holds the attributes of the path that serves its subclass.  Either this is the only path, or
it is the only one that starts at the subclass. -/
structure Schema.Partition.Represents (p : Partition) (r : Generalization) : Prop where
  bijOn : Set.BijOn unspaced {c | c ∈ r.subclasses} {n | n ∈ p.subclasses.keys}
  attributes :
    (∃ path, r.genrefs = [path] ∧ ∀ e ∈ p.subclasses.entries, e.2 = Plan.listed path.source) ∨
    (1 < r.genrefs.length ∧ ∀ c ∈ r.subclasses, ∃ path,
      r.genrefs.filter (fun q => q.source.className = c) = [path] ∧
      p.subclasses.get? (unspaced c) = some (Plan.listed path.source))

/-! ### Keys -/

/-- The classes that a constraint has required differ in their names, also without spaces. -/
lemma Creates.injOn_unspaced {types : TypeDictionary} {start : Catalog} {ss : List Subsystem}
    {x : Relationship} {k : Constraint} (h : Creates types start ss x k) :
    Set.InjOn unspaced {c | c ∈ x.requiredClasses} := by
  intro c hc d hd hcd
  exact h.eq_of_unspaced_eq (h.declares c hc) (h.declares d hd) hcd

namespace Model.Generalization

variable {r : Generalization}

lemma subclassList?_of_single {path : ReferencePath} (h : r.genrefs = [path]) (n : String) :
    Plan.subclassList? r n =
      if n ∈ r.subclasses.map unspaced then some (Plan.listed path.source) else none := by
  rw [Plan.subclassList?, h]

lemma subclassList?_of_several (h : 1 < r.genrefs.length) (n : String) :
    Plan.subclassList? r n =
      (r.genrefs.reverse.find? fun p => unspaced p.source.className == n).map
        (Plan.listed ·.source) := by
  rw [Plan.subclassList?]
  split
  next path hpath => simp [hpath] at h
  next => rfl

namespace WellFormed

/-- Either there is a single path or there are several. -/
lemma single_or_several (h : r.WellFormed) :
    (∃ path, r.genrefs = [path]) ∨ 1 < r.genrefs.length := by
  rcases hr : r.genrefs with _ | ⟨first, _ | ⟨second, rest⟩⟩
  · exact absurd hr h.genrefs_ne_nil
  · exact .inl ⟨first, rfl⟩
  · exact .inr (by simp)

/-- The keys are the names of the subclasses, without spaces. -/
lemma mem_keys_iff (h : r.WellFormed) {n : String} :
    n ∈ r.subclassAttributes.keys ↔ n ∈ r.subclasses.map unspaced := by
  rw [OrderedMap.mem_keys_iff, contains, Plan.get?_subclassAttributes]
  rcases h.single_or_several with ⟨path, hpath⟩ | hlen
  · rw [subclassList?_of_single hpath]
    split
    next hn => simpa using hn
    next hn => simpa using hn
  · rw [subclassList?_of_several hlen, Option.isSome_map, List.find?_isSome]
    simp only [List.mem_reverse, beq_iff_eq, List.mem_map, ← h.mem_sources_iff hlen]
    constructor
    · rintro ⟨path, hpath, hn⟩
      exact ⟨_, ⟨path, hpath, rfl⟩, hn⟩
    · rintro ⟨c, ⟨path, hpath, rfl⟩, hn⟩
      exact ⟨path, hpath, hn⟩

/-! ### Attributes -/

/-- Of several paths one starts at each subclass. -/
lemma exists_path (h : r.WellFormed) (hlen : 1 < r.genrefs.length) {c : String}
    (hc : c ∈ r.subclasses) : ∃ path ∈ r.genrefs, path.source.className = c ∧
      r.genrefs.filter (fun q => q.source.className = c) = [path] := by
  obtain ⟨path, hpath, rfl⟩ := List.mem_map.1 ((h.mem_sources_iff hlen c).2 hc)
  refine ⟨path, hpath, rfl, ?_⟩
  have hfilter : (r.genrefs.flatMap fun q => [q]).filter
      (fun q => q.source.className = path.source.className) = [path] :=
    filter_flatMap_of_nodup (fun q q' hq' => by rw [List.mem_singleton.1 hq'])
      (h.sources_nodup hlen) hpath
  rwa [List.flatMap_singleton'] at hfilter

/-- Under the name of a subclass stands what the path that starts there says, if no other subclass
has this name without spaces. -/
lemma get?_subclassAttributes_of_path (h : r.WellFormed) (hlen : 1 < r.genrefs.length)
    (hinj : Set.InjOn unspaced {c | c ∈ r.subclasses}) {path : ReferencePath}
    (hpath : path ∈ r.genrefs) : r.subclassAttributes.get? (unspaced path.source.className) =
      some (Plan.listed path.source) := by
  rw [Plan.get?_subclassAttributes, subclassList?_of_several hlen]
  cases hfind : r.genrefs.reverse.find? fun p =>
      unspaced p.source.className == unspaced path.source.className with
  | none =>
    rw [List.find?_eq_none] at hfind
    exact absurd (beq_self_eq_true _) (hfind path (List.mem_reverse.2 hpath))
  | some q =>
    -- the path that is found starts at a subclass of the same name, so at the same subclass
    have hq : q ∈ r.genrefs := List.mem_reverse.1 (List.mem_of_find?_eq_some hfind)
    have hsource {p : ReferencePath} (hp : p ∈ r.genrefs) : p.source.className ∈ r.subclasses :=
      (h.mem_sources_iff hlen _).1 (List.mem_map_of_mem hp)
    have hfound : unspaced q.source.className = unspaced path.source.className := by
      simpa using List.find?_some hfind
    have hname : q.source.className = path.source.className :=
      hinj (hsource hq) (hsource hpath) hfound
    have hqp : q = path := List.inj_on_of_nodup_map (h.sources_nodup hlen) hq hpath hname
    rw [hqp]
    rfl

/-- The partition of a generalization represents it, if no two subclasses have the same name
without spaces. -/
theorem represents (h : r.WellFormed) (hinj : Set.InjOn unspaced {c | c ∈ r.subclasses}) :
    r.constraint.Represents r where
  bijOn := by
    refine ⟨fun c hc => h.mem_keys_iff.2 (List.mem_map_of_mem hc), hinj, fun n hn => ?_⟩
    exact List.mem_map.1 (h.mem_keys_iff.1 hn)
  attributes := by
    refine h.single_or_several.imp ?_ fun hlen => ⟨hlen, fun c hc => ?_⟩
    · rintro ⟨path, hpath⟩
      refine ⟨path, hpath, fun e he => ?_⟩
      have hentry : r.subclassAttributes.get? e.1 = some e.2 := mem_entries_iff.1 he
      rw [Plan.get?_subclassAttributes, subclassList?_of_single hpath] at hentry
      split at hentry
      · exact (Option.some.inj hentry).symm
      · cases hentry
    · obtain ⟨path, hpath, rfl, hfilter⟩ := h.exists_path hlen hc
      exact ⟨path, hfilter, h.get?_subclassAttributes_of_path hlen hinj hpath⟩

end WellFormed

end Model.Generalization

/-! ### Created partitions -/

/-- **No subclass is lost.**  When a compilation, whatever else it does, makes a constraint of a
generalization that a record writes down, the constraint is a partition that represents it. -/
theorem partition_keeps_subclasses (types : TypeDictionary) (start : Catalog)
    (ss : List Subsystem) (record : RelationshipRecord) (r : Generalization) (k : Constraint)
    (hr : record.classify = .ok (.generalization r))
    (hk : Creates types start ss (.generalization r) k) :
    ∃ p, k = .partition p ∧ p.Represents r := by
  have hinj : Set.InjOn unspaced {c | c ∈ r.subclasses} :=
    hk.injOn_unspaced.mono fun c hc => List.mem_cons_of_mem _ hc
  refine ⟨r.constraint, (Option.some.inj hk.constraint?_eq).symm, ?_⟩
  exact (RelationshipRecord.wellFormed_of_classify hr).represents hinj

/-- The record of a generalization with a path for each subclass. -/
def wingsRecord : RelationshipRecord where
  number := "R4"
  tSide := none
  pSide := none
  ref1 := none
  ref2 := none
  associationClass := none
  superclass := some "Aircraft"
  subclasses := ["Glider", "Powered Aircraft"]
  genrefs :=
    [⟨⟨"Powered Aircraft", ["Tail number"]⟩, ⟨"Aircraft", ["Tail number"]⟩⟩,
      ⟨⟨"Glider", ["Glider number"]⟩, ⟨"Aircraft", ["Tail number"]⟩⟩]
  ascend := none

/-- What the record writes down. -/
def wings : Generalization :=
  ⟨wingsRecord.number, "Aircraft", wingsRecord.subclasses, wingsRecord.genrefs⟩

/-- A subsystem with the generalization and its classes. -/
def fleet : Subsystem where
  name := "Fleet"
  domain := "Airport"
  classes :=
    [⟨"Aircraft", none, [⟨"Tail number", some "name", [⟨1, false⟩]⟩]⟩,
      ⟨"Glider", none, [⟨"Glider number", some "name", [⟨1, false⟩]⟩]⟩,
      ⟨"Powered Aircraft", none, [⟨"Tail number", some "name", [⟨1, false⟩]⟩]⟩]
  relationships := [.generalization wings]

/-- The fleet is compiled, and both subclasses keep the attributes of their own paths. -/
theorem partition_keeps_subclasses_fleet :
    ∃ p, wingsRecord.classify = .ok (.generalization wings) ∧
      Creates ⟨.ofList [("name", .string)]⟩ Catalog.empty [fleet] (.generalization wings)
        (.partition p) ∧
      p.Represents wings ∧ p.subclasses.get? "Powered_Aircraft" = some ["Tail_number"] := by
  have hok : (compile ⟨.ofList [("name", .string)]⟩ Catalog.empty [fleet]).toBool = true := by
    decide +kernel
  cases h : compile ⟨.ofList [("name", .string)]⟩ Catalog.empty [fleet] with
  | error stop => rw [h] at hok; cases hok
  | ok done =>
    have hk : Creates ⟨.ofList [("name", .string)]⟩ Catalog.empty [fleet] (.generalization wings)
        (.partition wings.constraint) :=
      creates_of_compile h (List.mem_singleton.2 rfl) (List.mem_singleton.2 rfl) rfl
        (by decide +kernel)
    obtain ⟨p, hp, hrepresents⟩ := partition_keeps_subclasses _ _ _ wingsRecord wings _ rfl hk
    obtain rfl := Constraint.partition.inj hp
    exact ⟨_, rfl, hk, hrepresents, by decide +kernel⟩

end ClassSchema
