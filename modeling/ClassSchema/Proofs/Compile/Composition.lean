import ClassSchema.Proofs.Compile.Failure
import ClassSchema.Proofs.Compile.Report
import Mathlib.Data.List.Find

/-
# Compilations one after the other

A model can be compiled in two parts, the second into the catalog that the first has left.  If
neither part needs a class that only the other declares (`Independent`), this comes to the same as
compiling both at once (`compile_append`): both ways succeed or both fail, the catalog holds the
same in the end, and what is reported and recorded of the whole is what is reported and recorded of
the one part followed by what is of the other.

The two ways do not make their requests in the same order.  At once, all relations come before all
constraints; in parts, the constraints of the first part come before the relations of the second
and must do without them.  They can (`Plan.admitsConstraints_beside_iff`), since a constraint names
only relations of classes that its own part declares, and later relations do not change those.
-/

namespace ClassSchema

open Model Schema OrderedMap Outcome

/-- No relationship of `as` requires a class that only `bs` declares. -/
def Independent (as bs : List Subsystem) : Prop :=
  ∀ s ∈ as, ∀ x ∈ s.relationships, ∀ c ∈ x.requiredClasses, Declared bs c → Declared as c

instance (as bs : List Subsystem) : Decidable (Independent as bs) :=
  decidable_of_iff (∀ s ∈ as, ∀ x ∈ s.relationships, ∀ c ∈ x.requiredClasses,
    Plan.declares bs c = true → Plan.declares as c = true) <| by
      simp only [declares_eq_true_iff, Independent]

/-! ### What is declared and due -/

section

variable {ss ts : List Subsystem} {x : Relationship}

/-- Whether a relationship is due depends on the declarations of the classes that it requires. -/
lemma Plan.isDue_congr_of_required
    (h : ∀ c ∈ x.requiredClasses, declares ss c = declares ts c) : isDue ss x = isDue ts x := by
  cases hk : x.constraint? with
  | none =>
    cases x with
    | ordinal r => rfl
    | association r | associative r | generalization r => cases hk
  | some k =>
    rw [isDue_eq_all hk, isDue_eq_all hk, Bool.eq_iff_iff, List.all_eq_true, List.all_eq_true]
    exact forall₂_congr fun c hc => by rw [h c hc]

/-- And so does its entry. -/
lemma relationshipEntry_congr_of_required
    (h : ∀ c ∈ x.requiredClasses, Plan.declares ss c = Plan.declares ts c) (subsystem : String) :
    relationshipEntry ss subsystem x = relationshipEntry ts subsystem x := by
  have hfind : x.requiredClasses.find? (fun c => !Plan.declares ss c) =
      x.requiredClasses.find? fun c => !Plan.declares ts c :=
    List.find?_congr fun c hc => by rw [h c hc]
  rw [relationshipEntry, relationshipEntry, hfind]

end

namespace Plan

variable {as bs : List Subsystem}

lemma materialized_append (as bs : List Subsystem) :
    materialized (as ++ bs) = materialized as ++ materialized bs := List.flatMap_append

lemma relations_append (types : TypeDictionary) (as bs : List Subsystem) :
    relations types (as ++ bs) = relations types as ++ relations types bs := by
  rw [relations, materialized_append, List.map_append, relations, relations]

lemma declares_append (as bs : List Subsystem) (c : String) :
    declares (as ++ bs) c = (declares as c || declares bs c) := by
  rw [declares, materialized_append, List.any_append, declares, declares]

lemma declares_append_comm (as bs : List Subsystem) : declares (as ++ bs) = declares (bs ++ as) := by
  funext c
  rw [declares_append, declares_append, Bool.or_comm]

/-- What an independent part requires is declared in the whole if it is in the part. -/
lemma declares_whole (h : Independent as bs) {s : Subsystem} (hs : s ∈ as) {x : Relationship}
    (hx : x ∈ s.relationships) {c : String} (hc : c ∈ x.requiredClasses) :
    declares (as ++ bs) c = declares as c := by
  have hown : declares bs c = true → declares as c = true := by
    rw [declares_eq_true_iff, declares_eq_true_iff]
    exact h s hs x hx c hc
  rw [declares_append]
  cases hbs : declares bs c with
  | false => exact Bool.or_false _
  | true => rw [hown hbs, Bool.or_true]

/-- Of an independent part the same relationships are due in the whole. -/
lemma filter_isDue_whole (h : Independent as bs) :
    (as.flatMap (·.relationships)).filter (isDue (as ++ bs)) =
      (as.flatMap (·.relationships)).filter (isDue as) := by
  refine List.filter_congr fun x hx => isDue_congr_of_required fun c hc => ?_
  obtain ⟨s, hs, hx⟩ := List.mem_flatMap.1 hx
  exact declares_whole h hs hx hc

/-- The whole makes the constraints of the one part and then those of the other. -/
lemma constraints_append (hab : Independent as bs) (hba : Independent bs as) :
    constraints (as ++ bs) = constraints as ++ constraints bs := by
  rw [constraints, List.flatMap_append, List.filter_append, filter_isDue_whole hab,
    isDue_congr (declares_append_comm as bs), filter_isDue_whole hba, List.filterMap_append,
    constraints, constraints]

/-- The requests for the whole are those for the parts, the relations before the constraints. -/
lemma requests_append_perm (types : TypeDictionary) (hab : Independent as bs)
    (hba : Independent bs as) :
    (requests types (as ++ bs)).Perm (requests types as ++ requests types bs) := by
  rw [requests, requests, requests, relations_append, constraints_append hab hba, List.map_append,
    List.map_append, List.append_assoc, List.append_assoc]
  refine List.Perm.append_left _ ?_
  rw [← List.append_assoc, ← List.append_assoc]
  exact List.perm_append_comm.append_right _

/-! ### What is accepted -/

variable {types : TypeDictionary} {c : Catalog}

lemma exists_of_mem_constraints {ss : List Subsystem} {k : Constraint} (h : k ∈ constraints ss) :
    ∃ s ∈ ss, ∃ x ∈ s.relationships, isDue ss x = true ∧ x.constraint? = some k := by
  obtain ⟨x, hx, hk⟩ := List.mem_filterMap.1 h
  obtain ⟨hx, hdue⟩ := List.mem_filter.1 hx
  obtain ⟨s, hs, hx⟩ := List.mem_flatMap.1 hx
  exact ⟨s, hs, x, hx, hdue, hk⟩

/-- The relations that the constraints of a model name have been made for it. -/
lemma columns?_of_mentions {ss : List Subsystem}
    (hwell : ∀ s ∈ ss, ∀ x ∈ s.relationships, ∀ g, x = .generalization g → g.WellFormed)
    (htyped : ∀ m ∈ materialized ss, untyped? types m.2.attributes = none)
    (hrelations : c.AdmitsRelations (relations types ss)) {k : Constraint}
    (hk : k ∈ constraints ss) {m : String × List String} (hm : m ∈ k.mentions) :
    ∃ columns, (c.addAll ((relations types ss).map .relation)).view.columns? m.1 =
      some columns := by
  have hrelated : Related ss (c.addAll ((relations types ss).map .relation)) :=
    related_of_execute_classSteps (execute_classSteps_eq_ok_iff.2 ⟨htyped, hrelations, rfl⟩)
  obtain ⟨s, hs, x, hx, hdue, hkx⟩ := exists_of_mem_constraints hk
  obtain ⟨n, hn, hmn⟩ := exists_required_of_mentions hkx (hwell s hs x hx) hm
  rw [isDue_eq_all hkx, List.all_eq_true] at hdue
  exact Option.isSome_iff_exists.1 (hmn ▸ hrelated n (hdue n hn))

/-- The constraints of a part are accepted with or without the relations of another part. -/
lemma admitsConstraints_beside_iff
    (hwell : ∀ s ∈ as, ∀ x ∈ s.relationships, ∀ g, x = .generalization g → g.WellFormed)
    (htyped : ∀ m ∈ materialized as, untyped? types m.2.attributes = none)
    (has : c.AdmitsRelations (relations types as)) {rs : List Relation}
    (hrs : (c.addAll ((relations types as).map .relation)).AdmitsRelations rs) :
    ((c.addAll ((relations types as).map .relation)).addAll (rs.map .relation)).AdmitsConstraints
        (constraints as) ↔
      (c.addAll ((relations types as).map .relation)).AdmitsConstraints (constraints as) := by
  have hcolumns : ∀ k ∈ constraints as, ∀ m ∈ k.mentions,
      ((c.addAll ((relations types as).map .relation)).addAll (rs.map .relation)).view.columns?
        m.1 = (c.addAll ((relations types as).map .relation)).view.columns? m.1 := by
    intro k hk m hm
    obtain ⟨columns, hm⟩ := columns?_of_mentions hwell htyped has hk hm
    rw [hm, Catalog.columns?_addAll_relations hrs hm]
  have hconstraints := Catalog.constraints_addAll_relations
    (c.addAll ((relations types as).map .relation)) rs
  exact ⟨fun h => h.congr_mentions (fun k hk m hm => (hcolumns k hk m hm).symm) hconstraints,
    fun h => h.congr_mentions hcolumns hconstraints.symm⟩

/-- Both parts together can be compiled if the one can be and then the other. -/
lemma compilable_append_iff
    (hwell : ∀ s ∈ as, ∀ x ∈ s.relationships, ∀ g, x = .generalization g → g.WellFormed)
    (hab : Independent as bs) (hba : Independent bs as) :
    Compilable types c (as ++ bs) ↔
      Compilable types c as ∧ Compilable types (c.addAll (requests types as)) bs := by
  -- the catalogs that the constraints of `bs` come to hold the same
  have hrelations := Catalog.relations_addAll_comm (c.addAll ((relations types as).map .relation))
    (relations types bs) (constraints as)
  have hconstraints := Catalog.constraints_addAll_comm
    (c.addAll ((relations types as).map .relation)) (relations types bs) (constraints as)
  have hstored := relations_addAll_requests types c as
  constructor
  · rintro ⟨htyped, hadmits, hks⟩
    rw [materialized_append, List.forall_mem_append] at htyped
    rw [relations_append, Catalog.admitsRelations_append_iff] at hadmits
    rw [relations_append, constraints_append hab hba, List.map_append, Catalog.addAll_append,
      Catalog.admitsConstraints_append_iff] at hks
    refine ⟨⟨htyped.1, hadmits.1, ?_⟩, htyped.2, hadmits.2.congr hstored.symm, ?_⟩
    · exact (admitsConstraints_beside_iff hwell htyped.1 hadmits.1 hadmits.2).1 hks.1
    · rw [requests, Catalog.addAll_append]
      exact hks.2.congr hrelations.symm hconstraints.symm
  · rintro ⟨has, hbs⟩
    have hadmits := hbs.relations.congr hstored
    have hks := hbs.constraints
    rw [requests, Catalog.addAll_append] at hks
    refine ⟨?_, ?_, ?_⟩
    · rw [materialized_append, List.forall_mem_append]
      exact ⟨has.typed, hbs.typed⟩
    · rw [relations_append, Catalog.admitsRelations_append_iff]
      exact ⟨has.relations, hadmits⟩
    · rw [relations_append, constraints_append hab hba, List.map_append, Catalog.addAll_append,
        Catalog.admitsConstraints_append_iff]
      exact ⟨(admitsConstraints_beside_iff hwell has.typed has.relations hadmits).2
        has.constraints, hks.congr hrelations hconstraints⟩

end Plan

/-! ### What is reported and recorded -/

/-- The relationships of an independent part have the same entries in the whole. -/
lemma map_relationshipEntry_whole {as bs : List Subsystem} (h : Independent as bs) :
    (relationshipsOf as).map (fun p => relationshipEntry (as ++ bs) p.1 p.2) =
      relationshipEntries as := by
  refine List.map_congr_left fun p hp => relationshipEntry_congr_of_required (fun c hc => ?_) _
  obtain ⟨s, hs, hp⟩ := List.mem_flatMap.1 hp
  obtain ⟨x, hx, rfl⟩ := List.mem_map.1 hp
  exact Plan.declares_whole h hs hx hc

/-- The whole has the entries of the one part and then those of the other. -/
lemma relationshipEntries_append {as bs : List Subsystem} (hab : Independent as bs)
    (hba : Independent bs as) :
    relationshipEntries (as ++ bs) = relationshipEntries as ++ relationshipEntries bs := by
  have hcomm : relationshipEntry (as ++ bs) = relationshipEntry (bs ++ as) := by
    funext subsystem x
    rw [relationshipEntry, relationshipEntry, Plan.declares_append_comm]
  rw [relationshipEntries, relationshipsOf, List.flatMap_append, List.map_append, ← relationshipsOf,
    ← relationshipsOf, map_relationshipEntry_whole hab, hcomm, map_relationshipEntry_whole hba]

/-- What one compilation has done is what two have done one after the other: the same relations and
constraints are stored, by the same requests in another order, and everything that is reported and
recorded of the whole is reported and recorded of the first part or of the second, in this order. -/
structure Compilation.Joins (first second done : Compilation Catalog) : Prop where
  relations_eq : done.store.relations = second.store.relations
  constraints_eq : done.store.constraints = second.store.constraints
  history_perm : done.store.history.Perm second.store.history
  subsystems : done.report.subsystems = first.report.subsystems ++ second.report.subsystems
  reported_relations : done.report.relations = first.report.relations ++ second.report.relations
  reported_constraints :
    done.report.constraints = first.report.constraints ++ second.report.constraints
  deferred : done.report.deferred = first.report.deferred ++ second.report.deferred
  ordinal : done.report.ordinal = first.report.ordinal ++ second.report.ordinal
  skippedImports :
    done.report.skippedImports = first.report.skippedImports ++ second.report.skippedImports
  attributes :
    done.population.attributes = first.population.attributes ++ second.population.attributes
  identifiers :
    done.population.identifiers = first.population.identifiers ++ second.population.identifiers
  identifierAttributes : done.population.identifierAttributes =
    first.population.identifierAttributes ++ second.population.identifierAttributes

section

variable {types : TypeDictionary} {start : Catalog} {as bs : List Subsystem}
  {first second done : Compilation Catalog} (hfirst : compile types start as = .ok first)
  (hsecond : compile types first.store bs = .ok second)
  (hdone : compile types start (as ++ bs) = .ok done)

include hfirst hsecond hdone

lemma population_of_compile_append : done.population =
    { attributes := first.population.attributes ++ second.population.attributes
      identifiers := first.population.identifiers ++ second.population.identifiers
      identifierAttributes :=
        first.population.identifierAttributes ++ second.population.identifierAttributes } := by
  rw [(population_of_compile hdone).1, (population_of_compile hfirst).1,
    (population_of_compile hsecond).1, Plan.materialized_append]
  simp only [Population.addAll_eq, List.flatMap_append, List.nil_append]

lemma report_of_compile_append (hab : Independent as bs) (hba : Independent bs as) : done.report =
    { store := first.report.store
      subsystems := first.report.subsystems ++ second.report.subsystems
      relations := first.report.relations ++ second.report.relations
      constraints := first.report.constraints ++ second.report.constraints
      deferred := first.report.deferred ++ second.report.deferred
      ordinal := first.report.ordinal ++ second.report.ordinal
      skippedImports := first.report.skippedImports ++ second.report.skippedImports
      population := done.population.counts } := by
  rw [report_of_compile hdone, report_of_compile hfirst, report_of_compile hsecond,
    relationshipEntries_append hab hba]
  simp only [List.flatMap_append, List.map_append, List.filterMap_append]

/-- What stands in the catalog in the end. -/
lemma store_of_compile_append (hab : Independent as bs) (hba : Independent bs as) :
    done.store.relations = second.store.relations ∧
      done.store.constraints = second.store.constraints ∧
      done.store.history.Perm second.store.history := by
  rw [store_of_compile hdone, store_of_compile hsecond, store_of_compile hfirst]
  refine ⟨?_, ?_, ?_⟩
  · rw [Plan.relations_addAll_requests, Plan.relations_addAll_requests,
      Catalog.relations_addAll_relations, Catalog.relations_addAll_relations,
      Plan.relations_addAll_requests, Catalog.relations_addAll_relations, Plan.relations_append,
      List.foldl_append]
  · rw [Plan.constraints_addAll_requests, Plan.constraints_addAll_requests,
      Plan.constraints_addAll_requests, Plan.constraints_append hab hba, List.foldl_append]
  · rw [Catalog.history_addAll, Catalog.history_addAll, Catalog.history_addAll, List.append_assoc]
    exact (Plan.requests_append_perm types hab hba).append_left _

lemma joins_of_compile (hab : Independent as bs) (hba : Independent bs as) :
    first.Joins second done := by
  have hreport := report_of_compile_append hfirst hsecond hdone hab hba
  have hpopulation := population_of_compile_append hfirst hsecond hdone
  obtain ⟨hrelations, hconstraints, hhistory⟩ :=
    store_of_compile_append hfirst hsecond hdone hab hba
  exact
    { relations_eq := hrelations
      constraints_eq := hconstraints
      history_perm := hhistory
      subsystems := by rw [hreport]
      reported_relations := by rw [hreport]
      reported_constraints := by rw [hreport]
      deferred := by rw [hreport]
      ordinal := by rw [hreport]
      skippedImports := by rw [hreport]
      attributes := by rw [hpopulation]
      identifiers := by rw [hpopulation]
      identifierAttributes := by rw [hpopulation] }

end

/-- **Compilation in parts.**  Let neither part need a class that only the other declares, and let
the relationships of the first part be written down by records; those of the second may be any.
Then the second part can be compiled after the first if and only if both can be compiled at once,
and if they are, the one compilation has done what the two have done. -/
theorem compile_append (types : TypeDictionary) (start : Catalog) (as bs : List Subsystem)
    (hrecords : ∀ s ∈ as, ∀ x ∈ s.relationships,
      ∃ record : RelationshipRecord, record.classify = .ok x)
    (hab : Independent as bs) (hba : Independent bs as) :
    ((∃ first second, compile types start as = .ok first ∧
        compile types first.store bs = .ok second) ↔
      ∃ done, compile types start (as ++ bs) = .ok done) ∧
    ∀ first second done, compile types start as = .ok first →
      compile types first.store bs = .ok second → compile types start (as ++ bs) = .ok done →
      first.Joins second done := by
  have hwell : ∀ s ∈ as, ∀ x ∈ s.relationships, ∀ g, x = .generalization g → g.WellFormed := by
    rintro s hs x hx g rfl
    obtain ⟨record, hrecord⟩ := hrecords s hs _ hx
    exact RelationshipRecord.wellFormed_of_classify hrecord
  refine ⟨?_, fun first second done hfirst hsecond hdone =>
    joins_of_compile hfirst hsecond hdone hab hba⟩
  rw [exists_compile_iff, Plan.compilable_append_iff hwell hab hba]
  constructor
  · rintro ⟨first, second, hfirst, hsecond⟩
    refine ⟨compilable_of_compile hfirst, ?_⟩
    rw [← store_of_compile hfirst]
    exact compilable_of_compile hsecond
  · rintro ⟨has, hbs⟩
    obtain ⟨first, hfirst⟩ := exists_compile_iff.2 has
    rw [← store_of_compile hfirst] at hbs
    obtain ⟨second, hsecond⟩ := exists_compile_iff.2 hbs
    exact ⟨first, second, hfirst, hsecond⟩

/-- The airport and then its fleet, or all three subsystems at once.  The relationship R2 of `crew`
is left out both ways. -/
theorem compile_append_airport :
    ∃ first second done,
      compile ⟨.ofList [("name", .string)]⟩ Catalog.empty [crew, hangar] = .ok first ∧
      compile ⟨.ofList [("name", .string)]⟩ first.store [fleet] = .ok second ∧
      compile ⟨.ofList [("name", .string)]⟩ Catalog.empty [crew, hangar, fleet] = .ok done ∧
      first.Joins second done := by
  have hrecords : ∀ s ∈ [crew, hangar], ∀ x ∈ s.relationships,
      ∃ record : RelationshipRecord, record.classify = .ok x := by
    simp only [List.forall_mem_cons, crew, hangar, List.not_mem_nil, IsEmpty.forall_iff,
      implies_true, and_true]
    refine ⟨?_, ?_, ?_⟩
    · exact ⟨⟨"R1", some ⟨"Pilot", .zeroOneOrMany, none⟩, some ⟨"Aircraft Type", .exactlyOne, none⟩,
        some ⟨⟨"Pilot", ["Rated on"]⟩, ⟨"Aircraft Type", ["Type name"]⟩⟩, none, none, none, [], [],
        none⟩, rfl⟩
    · exact ⟨⟨"R2", some ⟨"Pilot", .zeroOrOne, none⟩, some ⟨"Gate", .exactlyOne, none⟩,
        some ⟨⟨"Pilot", ["Licence"]⟩, ⟨"Gate", ["Number"]⟩⟩, none, none, none, [], [], none⟩, rfl⟩
    · exact ⟨⟨"R3", none, none, none, none, none, none, [], [],
        some (.object [("cname", .string "Pilot")])⟩, rfl⟩
  obtain ⟨hiff, hjoins⟩ := compile_append ⟨.ofList [("name", .string)]⟩ Catalog.empty
    [crew, hangar] [fleet] hrecords (by decide +kernel) (by decide +kernel)
  have hok : (compile ⟨.ofList [("name", .string)]⟩ Catalog.empty
      [crew, hangar, fleet]).toBool = true := by decide +kernel
  cases hdone : compile ⟨.ofList [("name", .string)]⟩ Catalog.empty [crew, hangar, fleet] with
  | error stop => rw [hdone] at hok; cases hok
  | ok done =>
    obtain ⟨first, second, hfirst, hsecond⟩ := hiff.2 ⟨done, hdone⟩
    exact ⟨first, second, done, hfirst, hsecond, rfl,
      hjoins first second done hfirst hsecond hdone⟩

end ClassSchema
