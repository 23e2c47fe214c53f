import ClassSchema.Proofs.Compile.Plan

/-
# The population mirrors the schema

A compilation makes the relation of a class in one pass over its attributes and the rows of the
class in another, and the two leave out repetitions by different rules: an identifier lists a name
once, while a row is written for each group that an attribute has.  They tell the same all the same
(`population_mirrors_schema`), as the names of a relation's attributes differ: two attributes of
one name would have been rejected.  In the same way no two classes that get relations can have one
name, so the rows of a class are found again by its name and domain.
-/

namespace ClassSchema

open Model Schema OrderedMap Outcome

/-! ### What is recorded and what is stored -/

/-- A compilation records the classes that get relations and no others. -/
lemma population_of_compile {σ : Type} [Store σ] {types : TypeDictionary} {store : σ}
    {ss : List Subsystem} {done : Compilation σ} (h : compile types store ss = .ok done) :
    done.population = Population.addAll {} (materialized ss) ∧
      done.report.population = done.population.counts := by
  rw [compile] at h
  obtain ⟨run, hfirst, h⟩ := bind_eq_ok_iff.1 h
  obtain ⟨run', hsecond, h⟩ := bind_eq_ok_iff.1 h
  obtain rfl := Except.ok.inj h
  refine ⟨?_, rfl⟩
  exact (Run.constrainAll_keeps hsecond).2.trans (Run.known_of_materializeAll hfirst).2

namespace Plan

variable {c c' : Catalog} {xs : List Step}

/-- A relation stays, and no other is made under its name. -/
lemma relations_of_execute (h : execute xs c = .ok c') {n : String} {r : Relation}
    (hr : c.relations.get? n = some r) :
    c'.relations.get? n = some r ∧ ∀ r', .ok (.relation r') ∈ xs → r'.name ≠ n := by
  induction xs generalizing c with
  | nil =>
    obtain rfl := Except.ok.inj h
    exact ⟨hr, by simp⟩
  | cons x rest ih =>
    obtain ⟨q, mid, rfl, hq, hrest⟩ := execute_cons_eq_ok_iff.1 h
    obtain ⟨hcheck, rfl⟩ := Catalog.create_eq_ok_iff.1 hq
    cases q with
    | constraint k =>
      obtain ⟨hstay, hfresh⟩ := ih hrest hr
      exact ⟨hstay, by simpa using hfresh⟩
    | relation r₀ =>
      -- the next relation was accepted, so its name was free
      have hne : n ≠ r₀.name := by
        rintro rfl
        have hnew := contains_eq_false_iff.1 (View.checkRelation_eq_ok_iff.1 hcheck).1
        simp [hr] at hnew
      have hmid : (c.add (.relation r₀)).relations.get? n = some r := by
        rw [Catalog.relations_add_relation, get?_insert_of_ne _ _ hne, hr]
      obtain ⟨hstay, hfresh⟩ := ih hrest hmid
      refine ⟨hstay, fun r' hr' => ?_⟩
      rcases List.mem_cons.1 hr' with heq | hr'
      · obtain rfl : r' = r₀ := by simpa using heq
        exact hne.symm
      · exact hfresh r' hr'

/-- When all steps succeed, the relations that they ask for are well formed and stored in the end,
and no two of them have one name. -/
lemma stored_of_execute (h : execute xs c = .ok c') :
    (∀ r, .ok (.relation r) ∈ xs → r.WellFormed ∧ c'.relations.get? r.name = some r) ∧
      xs.Pairwise fun x y => ∀ r s, x = .ok (.relation r) → y = .ok (.relation s) →
        r.name ≠ s.name := by
  induction xs generalizing c with
  | nil => exact ⟨by simp, .nil⟩
  | cons x rest ih =>
    obtain ⟨q, mid, rfl, hq, hrest⟩ := execute_cons_eq_ok_iff.1 h
    obtain ⟨hstored, hpairwise⟩ := ih hrest
    obtain ⟨hcheck, rfl⟩ := Catalog.create_eq_ok_iff.1 hq
    cases q with
    | constraint k =>
      refine ⟨by simpa using hstored, List.pairwise_cons.2 ⟨?_, hpairwise⟩⟩
      intro y _ r s hr
      simp at hr
    | relation r₀ =>
      have hwell : r₀.WellFormed := (View.checkRelation_eq_ok_iff.1 hcheck).2
      obtain ⟨hstay, hfresh⟩ :=
        relations_of_execute hrest (get?_insert_self c.relations r₀.name r₀)
      refine ⟨fun r hr => ?_, List.pairwise_cons.2 ⟨?_, hpairwise⟩⟩
      · rcases List.mem_cons.1 hr with heq | hr
        · obtain rfl : r = r₀ := by simpa using heq
          exact ⟨hwell, hstay⟩
        · exact hstored r hr
      · rintro y hy r s hr rfl
        obtain rfl : r₀ = r := by simpa using hr
        exact (hfresh s hy).symm

end Plan

/-- After a compilation each class has its relation, which is well formed, and the classes have
different names, even without spaces. -/
lemma stored_of_compile {types : TypeDictionary} {start : Catalog} {ss : List Subsystem}
    {done : Compilation Catalog} (h : compile types start ss = .ok done) :
    (∀ m ∈ materialized ss, relationOf types m.2 = .ok (Plan.relation types m.2) ∧
      .ok (.relation (Plan.relation types m.2)) ∈ plan types ss ∧
      (Plan.relation types m.2).WellFormed ∧
      done.store.relations.get? (unspaced m.2.name) = some (Plan.relation types m.2)) ∧
    ((materialized ss).map fun m => (m.2.name, m.1)).Nodup := by
  have hplan : .ok done.store = Plan.execute (plan types ss) start := by
    rw [← compile_store, h, map_ok]
  obtain ⟨hstored, hpairwise⟩ := Plan.stored_of_execute hplan.symm
  obtain ⟨qs, hqs, -⟩ := Plan.history_of_execute_ok hplan.symm
  have hstep : ∀ m ∈ materialized ss, Plan.classStep types m.2 ∈ plan types ss := by
    intro m hm
    rw [plan, Plan.classSteps]
    exact List.mem_append_left _ (List.mem_map_of_mem hm)
  -- no step of the plan is an error, so every class has known types
  have htyped : ∀ m ∈ materialized ss, untyped? types m.2.attributes = none ∧
      Plan.classStep types m.2 = .ok (.relation (Plan.relation types m.2)) := by
    intro m hm
    have hmem := hstep m hm
    rw [hqs] at hmem
    obtain ⟨q, -, hq⟩ := List.mem_map.1 hmem
    rw [Plan.classStep] at hq ⊢
    cases hu : untyped? types m.2.attributes with
    | some a => simp [hu] at hq
    | none => exact ⟨rfl, rfl⟩
  constructor
  · intro m hm
    obtain ⟨hu, hrelation⟩ := htyped m hm
    have hmem := hstep m hm
    rw [hrelation] at hmem
    obtain ⟨hwell, hget⟩ := hstored _ hmem
    exact ⟨Plan.relationOf_eq_of_typed hu, hmem, hwell, hget⟩
  · rw [plan, Plan.classSteps, List.pairwise_append, List.pairwise_map] at hpairwise
    rw [List.Nodup, List.pairwise_map]
    refine hpairwise.1.imp_of_mem ?_
    -- classes of one name would ask for relations of one name
    intro m m' hm hm' hne hkey
    refine hne _ _ (htyped m hm).2 (htyped m' hm').2 ?_
    exact congrArg (fun k => unspaced k.1) hkey

/-! ### What is recorded is what is stored -/

namespace Population

/-- The rows of the attributes of a class. -/
def attributesOf (p : Population) (className domain : String) : List AttributeRow :=
  p.attributes.filter fun row => (row.className, row.domain) = (className, domain)

/-- The rows of the identifiers of a class. -/
def identifiersOf (p : Population) (className domain : String) : List IdentifierRow :=
  p.identifiers.filter fun row => (row.className, row.domain) = (className, domain)

/-- The rows of the parts that attributes take in the identifiers of a class. -/
def partsOf (p : Population) (className domain : String) : List IdentifierAttributeRow :=
  p.identifierAttributes.filter fun row => (row.className, row.domain) = (className, domain)

/-- The classes that rows belong to, each with its domain. -/
def owners (p : Population) : List (String × String) :=
  p.attributes.map (fun row => (row.className, row.domain)) ++
    p.identifiers.map (fun row => (row.className, row.domain)) ++
    p.identifierAttributes.map (fun row => (row.className, row.domain))

/-- The rows of a class tell the same as its relation. -/
structure Mirrors (p : Population) (className domain : String) (r : Relation) : Prop where
  attributes_eq : (p.attributesOf className domain).map (fun row => unspaced row.name) = r.columns
  identifiers_perm : ((p.identifiersOf className domain).map (·.group)).Perm r.identifiers.keys
  parts_eq : ∀ g, ((p.partsOf className domain).filter (·.group = g)).map
    (fun row => unspaced row.attributeName) = (r.identifiers.get? g).getD []

/-! Out of the tables of several classes the rows of one class are its own. -/

section

variable {ms : List (String × Model.Class)} {m : String × Model.Class}
  (hms : (ms.map fun m => (m.2.name, m.1)).Nodup) (hm : m ∈ ms)

include hms hm

lemma attributesOf_addAll : (addAll {} ms).attributesOf m.2.name m.1 =
    m.2.attributes.map (attributeRow m.2.name m.1) := by
  rw [attributesOf, addAll_eq]
  refine filter_flatMap_of_nodup ?_ hms hm
  intro m' row hrow
  obtain ⟨a, -, rfl⟩ := List.mem_map.1 hrow
  rfl

lemma identifiersOf_addAll : (addAll {} ms).identifiersOf m.2.name m.1 =
    (identifierGroups m.2.attributes).map (⟨·, m.2.name, m.1⟩) := by
  rw [identifiersOf, addAll_eq]
  refine filter_flatMap_of_nodup ?_ hms hm
  intro m' row hrow
  obtain ⟨g, -, rfl⟩ := List.mem_map.1 hrow
  rfl

lemma partsOf_addAll : (addAll {} ms).partsOf m.2.name m.1 =
    m.2.attributes.flatMap (partRows m.2.name m.1) := by
  rw [partsOf, addAll_eq]
  refine filter_flatMap_of_nodup ?_ hms hm
  intro m' row hrow
  obtain ⟨a, -, hrow⟩ := List.mem_flatMap.1 hrow
  obtain ⟨g, -, rfl⟩ := List.mem_map.1 hrow
  rfl

end

lemma columns_relation {types : TypeDictionary} {c : Model.Class}
    (hc : untyped? types c.attributes = none) :
    (Plan.relation types c).columns = c.attributes.map fun a => unspaced a.name :=
  map_name_filterMap_column? hc

lemma get?_identifiers_relation (types : TypeDictionary) (c : Model.Class) (g : UInt32) :
    (Plan.relation types c).identifiers.get? g =
      if g ∈ c.attributes.flatMap (·.groups) then some (groupMembers c.attributes g) else none := by
  rw [Plan.relation, ← Plan.identifiersOf_eq, get?_identifiersOf]

/-- The keys of a relation's identifiers are the groups that its class has. -/
lemma identifierGroups_perm (types : TypeDictionary) (c : Model.Class) :
    (identifierGroups c.attributes).Perm (Plan.relation types c).identifiers.keys := by
  refine (List.perm_ext_iff_of_nodup (nodup_eraseDups _) (nodup_keys _)).2 fun g => ?_
  rw [List.mem_eraseDups, mem_keys_iff, OrderedMap.contains, get?_identifiers_relation]
  by_cases hg : g ∈ c.attributes.flatMap (·.groups)
  · simp [hg]
  · simp [hg]

/-- The rows of a class mirror its relation, if the names of its attributes differ. -/
lemma mirrors_addAll {types : TypeDictionary} {ms : List (String × Model.Class)}
    {m : String × Model.Class} (hms : (ms.map fun m => (m.2.name, m.1)).Nodup) (hm : m ∈ ms)
    (hu : untyped? types m.2.attributes = none)
    (hcolumns : (Plan.relation types m.2).columns.Nodup) :
    (addAll {} ms).Mirrors m.2.name m.1 (Plan.relation types m.2) where
  attributes_eq := by
    rw [attributesOf_addAll hms hm, columns_relation hu, List.map_map]
    rfl
  identifiers_perm := by
    rw [identifiersOf_addAll hms hm, List.map_map]
    exact (List.map_id _).symm ▸ identifierGroups_perm types m.2
  parts_eq g := by
    have hmap : ((m.2.attributes.flatMap (partRows m.2.name m.1)).filter (·.group = g)).map
        (fun row => unspaced row.attributeName) =
        (m.2.attributes.filter fun a => g ∈ a.groups).map fun a => unspaced a.name := by
      rw [← Function.comp_def unspaced, ← List.map_map, filter_group_partRows, List.map_map]
      rfl
    -- the names of the members differ, so leaving out repetitions leaves out nothing
    have hmembers : groupMembers m.2.attributes g =
        (m.2.attributes.filter fun a => g ∈ a.groups).map fun a => unspaced a.name := by
      rw [columns_relation hu] at hcolumns
      exact eraseDups_eq_self (hcolumns.sublist (List.filter_sublist.map _))
    rw [partsOf_addAll hms hm, hmap, ← hmembers, get?_identifiers_relation]
    by_cases hg : g ∈ m.2.attributes.flatMap (·.groups)
    · rw [if_pos hg, Option.getD_some]
    · rw [if_neg hg, groupMembers_of_not_mem hg, Option.getD_none]

lemma mem_owners_addAll {ms : List (String × Model.Class)} {k : String × String}
    (hk : k ∈ (addAll {} ms).owners) : ∃ m ∈ ms, k = (m.2.name, m.1) := by
  rw [owners, addAll_eq, List.mem_append, List.mem_append] at hk
  rcases hk with (hk | hk) | hk
  · obtain ⟨row, hrow, rfl⟩ := List.mem_map.1 hk
    obtain ⟨m, hm, hrow⟩ := List.mem_flatMap.1 hrow
    obtain ⟨a, -, rfl⟩ := List.mem_map.1 hrow
    exact ⟨m, hm, rfl⟩
  · obtain ⟨row, hrow, rfl⟩ := List.mem_map.1 hk
    obtain ⟨m, hm, hrow⟩ := List.mem_flatMap.1 hrow
    obtain ⟨g, -, rfl⟩ := List.mem_map.1 hrow
    exact ⟨m, hm, rfl⟩
  · obtain ⟨row, hrow, rfl⟩ := List.mem_map.1 hk
    obtain ⟨m, hm, hrow⟩ := List.mem_flatMap.1 hrow
    obtain ⟨a, -, hrow⟩ := List.mem_flatMap.1 hrow
    obtain ⟨g, -, rfl⟩ := List.mem_map.1 hrow
    exact ⟨m, hm, rfl⟩

end Population

/-- **The population mirrors the schema.**  After a compilation that has ended well, the rows of
each class that is not imported tell the same as the relation that the compilation has made of it;
there are no rows of other classes, and the report counts all rows. -/
theorem population_mirrors_schema (types : TypeDictionary) (start : Catalog) (ss : List Subsystem)
    (done : Compilation Catalog) (h : compile types start ss = .ok done) :
    (∃ made, done.store.history = start.history ++ made ∧
      ∀ s ∈ ss, ∀ c ∈ s.classes, c.isImported = false →
        ∃ r, relationOf types c = .ok r ∧ .relation r ∈ made ∧
          done.store.relations.get? (unspaced c.name) = some r ∧
          done.population.Mirrors c.name s.domain r) ∧
    (∀ k ∈ done.population.owners,
      ∃ s ∈ ss, ∃ c ∈ s.classes, c.isImported = false ∧ k = (c.name, s.domain)) ∧
    done.report.population =
      ⟨done.population.attributes.length, done.population.identifiers.length,
        done.population.identifierAttributes.length⟩ := by
  obtain ⟨hpopulation, hcounts⟩ := population_of_compile h
  obtain ⟨hstored, hnodup⟩ := stored_of_compile h
  have hplan : .ok done.store = Plan.execute (plan types ss) start := by
    rw [← compile_store, h, map_ok]
  obtain ⟨made, hmade, hhistory⟩ := Plan.history_of_execute_ok hplan.symm
  refine ⟨⟨made, hhistory, ?_⟩, ?_, hcounts⟩
  · intro s hs c hc hown
    have hm : (s.domain, c) ∈ materialized ss := mem_materialized.2 ⟨s, hs, c, hc, hown, rfl⟩
    obtain ⟨hrelation, hmem, hwell, hget⟩ := hstored _ hm
    refine ⟨_, hrelation, ?_, hget, ?_⟩
    · rw [hmade] at hmem
      obtain ⟨q, hq, heq⟩ := List.mem_map.1 hmem
      exact Except.ok.inj heq ▸ hq
    · rw [hpopulation]
      exact Population.mirrors_addAll hnodup hm (relationOf_eq_ok_iff.1 hrelation).1
        hwell.columns_nodup
  · intro k hk
    rw [hpopulation] at hk
    obtain ⟨m, hm, rfl⟩ := Population.mem_owners_addAll hk
    obtain ⟨s, hs, c, hc, hown, rfl⟩ := mem_materialized.1 hm
    exact ⟨s, hs, c, hc, hown, rfl⟩

theorem population_mirrors_schema_hangar :
    ∃ done, compile ⟨.ofList [("name", .string)]⟩ Catalog.empty [hangar] = .ok done ∧
      ∃ r, done.store.relations.get? "Aircraft_Type" = some r ∧
        done.population.Mirrors "Aircraft Type" "Airport" r := by
  cases h : compile ⟨.ofList [("name", .string)]⟩ Catalog.empty [hangar] with
  | error stop =>
    have hok : (compile ⟨.ofList [("name", .string)]⟩ Catalog.empty [hangar]).toBool = true := by
      decide +kernel
    rw [h] at hok
    cases hok
  | ok done =>
    obtain ⟨⟨made, -, hmirrors⟩, -, -⟩ := population_mirrors_schema _ _ _ done h
    obtain ⟨r, -, -, hget, hr⟩ :=
      hmirrors hangar List.mem_cons_self _ List.mem_cons_self rfl
    have hname : unspaced "Aircraft Type" = "Aircraft_Type" := by decide +kernel
    exact ⟨done, rfl, r, hname ▸ hget, hr⟩

end ClassSchema
