import ClassSchema.Proofs.Compile.Acceptance

/-
# What a report says

A report has five lists, which a compilation fills while it goes through the classes and the
relationships.  Here each class and each relationship has its one entry (`ClassEntry`,
`RelationshipEntry`), and each list of the report is made of the entries of one sort, in the order
of the model (`report_of_compile`).  The entries are true (`ClassEntry.Of`,
`RelationshipEntry.Of`): what they say is said of the model there, not of the compilation.  They
also agree with what the store has got (`report_accounts`).
-/

namespace ClassSchema

open Model Schema Outcome

/-! ### Entries -/

/-- What a report says of a class. -/
inductive ClassEntry where
  /-- It has the relation of this name. -/
  | relation (name : String)
  | skipped (name : String)

/-- What a report says of a relationship. -/
inductive RelationshipEntry where
  | constraint (e : CreatedConstraint)
  | deferred (e : DeferredRelationship)
  | ordinal (number : String)

@[simp]
def ClassEntry.relation? : ClassEntry → Option String
  | .relation name => some name
  | .skipped _ => none

@[simp]
def ClassEntry.skipped? : ClassEntry → Option String
  | .relation _ => none
  | .skipped name => some name

namespace RelationshipEntry

@[simp]
def constraint? : RelationshipEntry → Option CreatedConstraint
  | .constraint e => some e
  | .deferred _ => none
  | .ordinal _ => none

@[simp]
def deferred? : RelationshipEntry → Option DeferredRelationship
  | .constraint _ => none
  | .deferred e => some e
  | .ordinal _ => none

@[simp]
def ordinal? : RelationshipEntry → Option String
  | .constraint _ => none
  | .deferred _ => none
  | .ordinal number => some number

end RelationshipEntry

/-! ### True entries -/

/-- Some subsystem has a class of this name that is its own. -/
def Declared (ss : List Subsystem) (className : String) : Prop :=
  ∃ s ∈ ss, ∃ c ∈ s.classes, c.isImported = false ∧ c.name = className

/-- The kind of constraint that a relationship becomes, if it becomes one. -/
def Model.Relationship.constraintKind? : Relationship → Option ConstraintKind
  | .association _ => some .association
  | .associative _ => some .correlation
  | .generalization _ => some .partition
  | .ordinal _ => none

/-- The relationships of some subsystems, in order, each with the name of its subsystem. -/
def relationshipsOf (ss : List Subsystem) : List (String × Relationship) :=
  ss.flatMap fun s => s.relationships.map (s.name, ·)

/-- The true entry for a class. -/
inductive ClassEntry.Of : Model.Class → ClassEntry → Prop
  | relation {c : Model.Class} (own : c.isImported = false) : Of c (.relation (unspaced c.name))
  | skipped {c : Model.Class} (imported : c.isImported = true) : Of c (.skipped c.name)

/-- The true entry for a relationship of a subsystem, if `ss` are all subsystems. -/
inductive RelationshipEntry.Of (ss : List Subsystem) :
    String × Relationship → RelationshipEntry → Prop
  | constraint {subsystem : String} {x : Relationship} {kind : ConstraintKind}
      (hkind : x.constraintKind? = some kind)
      (declared : ∀ c ∈ x.requiredClasses, Declared ss c) :
      Of ss (subsystem, x) (.constraint ⟨x.number, kind⟩)
  | deferred {subsystem : String} {x : Relationship} {kind : ConstraintKind}
      {before after : List String} {missing : String}
      (hkind : x.constraintKind? = some kind)
      (required : x.requiredClasses = before ++ missing :: after)
      (declared : ∀ c ∈ before, Declared ss c) (undeclared : ¬ Declared ss missing) :
      Of ss (subsystem, x) (.deferred ⟨x.number, subsystem, missing⟩)
  | ordinal {subsystem : String} {x : Relationship} (hkind : x.constraintKind? = none) :
      Of ss (subsystem, x) (.ordinal x.number)

lemma relationshipsOf_cons (s : Subsystem) (ss : List Subsystem) :
    relationshipsOf (s :: ss) = s.relationships.map (s.name, ·) ++ relationshipsOf ss :=
  List.flatMap_cons

/-! ### The entries that a compilation makes -/

def classEntry (c : Model.Class) : ClassEntry :=
  if c.isImported then .skipped c.name else .relation (unspaced c.name)

def relationshipEntry (ss : List Subsystem) (subsystem : String) (x : Relationship) :
    RelationshipEntry :=
  match x.constraintKind?, x.requiredClasses.find? fun c => !Plan.declares ss c with
  | none, _ => .ordinal x.number
  | some _, some missing => .deferred ⟨x.number, subsystem, missing⟩
  | some kind, none => .constraint ⟨x.number, kind⟩

/-- The entries for the relationships of all subsystems. -/
def relationshipEntries (ss : List Subsystem) : List RelationshipEntry :=
  (relationshipsOf ss).map fun p => relationshipEntry ss p.1 p.2

lemma declares_eq_true_iff {ss : List Subsystem} {n : String} :
    Plan.declares ss n = true ↔ Declared ss n := by
  simp only [Plan.declares, List.any_eq_true, beq_iff_eq, Declared]
  constructor
  · rintro ⟨m, hm, rfl⟩
    obtain ⟨s, hs, c, hc, hown, rfl⟩ := mem_materialized.1 hm
    exact ⟨s, hs, c, hc, hown, rfl⟩
  · rintro ⟨s, hs, c, hc, hown, rfl⟩
    exact ⟨_, mem_materialized.2 ⟨s, hs, c, hc, hown, rfl⟩, rfl⟩

lemma constraintKind?_eq (x : Relationship) :
    x.constraintKind? = x.constraint?.map Constraint.kind := by
  cases x <;> rfl

lemma name_of_constraint? {x : Relationship} {k : Constraint} (h : x.constraint? = some k) :
    k.name = x.number := by
  cases x with
  | ordinal r => cases h
  | association r | associative r | generalization r =>
    obtain rfl := Option.some.inj h
    rfl

lemma of_classEntry (c : Model.Class) : ClassEntry.Of c (classEntry c) := by
  unfold classEntry
  split
  next h => exact .skipped h
  next h => exact .relation (by simpa using h)

lemma of_relationshipEntry (ss : List Subsystem) (subsystem : String) (x : Relationship) :
    RelationshipEntry.Of ss (subsystem, x) (relationshipEntry ss subsystem x) := by
  unfold relationshipEntry
  split
  next hkind => exact .ordinal hkind
  next kind missing hkind hfind =>
    -- the class that is found is the first one that is not declared
    obtain ⟨hmissing, before, after, hsplit, hbefore⟩ := List.find?_eq_some_iff_append.1 hfind
    refine .deferred hkind hsplit (fun c hc => ?_) fun hdeclared => ?_
    · exact declares_eq_true_iff.1 (by simpa using hbefore c hc)
    · simp [declares_eq_true_iff.2 hdeclared] at hmissing
  next kind hkind hfind =>
    refine .constraint hkind fun c hc => declares_eq_true_iff.1 ?_
    simpa using List.find?_eq_none.1 hfind c hc

/-! ### Reports with more entries -/

namespace Report

def withClasses (r : Report) (es : List ClassEntry) : Report :=
  { r with
    relations := r.relations ++ es.filterMap (·.relation?)
    skippedImports := r.skippedImports ++ es.filterMap (·.skipped?) }

def withRelationships (r : Report) (es : List RelationshipEntry) : Report :=
  { r with
    constraints := r.constraints ++ es.filterMap (·.constraint?)
    deferred := r.deferred ++ es.filterMap (·.deferred?)
    ordinal := r.ordinal ++ es.filterMap (·.ordinal?) }

lemma withClasses_nil (r : Report) : r.withClasses [] = r := by simp [withClasses]

lemma withClasses_append (r : Report) (es fs : List ClassEntry) :
    r.withClasses (es ++ fs) = (r.withClasses es).withClasses fs := by
  simp [withClasses]

lemma withRelationships_nil (r : Report) : r.withRelationships [] = r := by
  simp [withRelationships]

lemma withRelationships_append (r : Report) (es fs : List RelationshipEntry) :
    r.withRelationships (es ++ fs) = (r.withRelationships es).withRelationships fs := by
  simp [withRelationships]

end Report

namespace Run

variable {σ : Type} [Store σ] {types : TypeDictionary} {ss : List Subsystem} {run run' : Run σ}

/-! ### Classes -/

lemma noteClass_eq {b b' : Build σ} {domain : String} {c : Model.Class} {outcome : ClassOutcome}
    (h : b.addClass types domain c = .ok (b', outcome)) (r : Report) :
    noteClass c outcome r = r.withClasses [classEntry c] := by
  cases hc : c.isImported with
  | true =>
    rw [Build.addClass_of_imported hc] at h
    obtain ⟨-, rfl⟩ := Prod.mk.inj (Except.ok.inj h)
    simp [noteClass, Report.withClasses, classEntry, hc]
  | false =>
    rw [Build.addClass_eq hc] at h
    cases hstep : Plan.carryOut (Plan.classStep types c) b.store with
    | error e => simp [hstep] at h
    | ok store =>
      rw [hstep] at h
      obtain ⟨-, rfl⟩ := Prod.mk.inj (Except.ok.inj h)
      simp [noteClass, Report.withClasses, classEntry, hc]

lemma report_of_addClasses {domain : String} {cs : List Model.Class}
    (h : addClasses types domain cs run = .ok run') :
    run'.report = run.report.withClasses (cs.map classEntry) := by
  induction cs generalizing run with
  | nil =>
    obtain rfl := Except.ok.inj h
    exact (Report.withClasses_nil _).symm
  | cons c rest ih =>
    rw [addClasses] at h
    cases hc : run.build.addClass types domain c with
    | error e => simp [hc] at h
    | ok result =>
      rw [hc] at h
      rw [ih h, noteClass_eq hc, List.map_cons, ← Report.withClasses_append, List.singleton_append]

lemma report_of_materializeAll (h : materializeAll types ss run = .ok run') :
    run'.report =
      { run.report.withClasses ((ss.flatMap (·.classes)).map classEntry) with
        subsystems := run.report.subsystems ++ ss.map (·.name) } := by
  induction ss generalizing run with
  | nil =>
    obtain rfl := Except.ok.inj h
    simp [Report.withClasses]
  | cons s rest ih =>
    rw [materializeAll, materialize] at h
    obtain ⟨mid', hmid, hrest⟩ := bind_eq_ok_iff.1 h
    obtain ⟨mid, hs, hmid⟩ := bind_eq_ok_iff.1 hmid
    obtain rfl := Except.ok.inj hmid
    rw [ih hrest, report_of_addClasses hs]
    simp [Report.withClasses]

/-! ### Relationships -/

lemma noteRelationship_eq {b b' : Build σ} {x : Relationship} {outcome : RelationshipOutcome}
    (hb : b.isKnown = Plan.declares ss) (h : b.addRelationship x = .ok (b', outcome))
    (subsystem : String) (r : Report) :
    noteRelationship subsystem x outcome r =
      r.withRelationships [relationshipEntry ss subsystem x] := by
  rw [Build.addRelationship, Build.firstMissing?, hb] at h
  rw [relationshipEntry, constraintKind?_eq]
  cases hk : x.constraint? with
  | none =>
    simp only [hk] at h
    obtain ⟨-, rfl⟩ := Prod.mk.inj (Except.ok.inj h)
    simp [noteRelationship, Report.withRelationships]
  | some k =>
    cases hmissing : x.requiredClasses.find? fun c => !Plan.declares ss c with
    | some missing =>
      simp only [hk, hmissing] at h
      obtain ⟨-, rfl⟩ := Prod.mk.inj (Except.ok.inj h)
      simp [noteRelationship, Report.withRelationships]
    | none =>
      simp only [hk, hmissing] at h
      cases hstore : Store.create b.store (.constraint k) with
      | error e => simp [hstore] at h
      | ok store =>
        simp only [hstore] at h
        obtain ⟨-, rfl⟩ := Prod.mk.inj (Except.ok.inj h)
        simp [noteRelationship, Report.withRelationships]

lemma report_of_addRelationships {subsystem : String} {xs : List Relationship}
    (hrun : run.build.isKnown = Plan.declares ss)
    (h : addRelationships subsystem xs run = .ok run') :
    run'.report = run.report.withRelationships (xs.map (relationshipEntry ss subsystem)) := by
  induction xs generalizing run with
  | nil =>
    obtain rfl := Except.ok.inj h
    exact (Report.withRelationships_nil _).symm
  | cons x rest ih =>
    rw [addRelationships] at h
    cases hx : run.build.addRelationship x with
    | error e => simp [hx] at h
    | ok result =>
      rw [hx] at h
      have hresult : result.1.isKnown = Plan.declares ss :=
        (Build.isKnown_congr (Build.addRelationship_keeps hx).1).trans hrun
      rw [ih hresult h, noteRelationship_eq hrun hx, List.map_cons,
        ← Report.withRelationships_append, List.singleton_append]

lemma report_of_constrainAll {ts : List Subsystem} (hrun : run.build.isKnown = Plan.declares ss)
    (h : constrainAll ts run = .ok run') :
    run'.report = run.report.withRelationships
      ((relationshipsOf ts).map fun p => relationshipEntry ss p.1 p.2) := by
  induction ts generalizing run with
  | nil =>
    obtain rfl := Except.ok.inj h
    exact (Report.withRelationships_nil _).symm
  | cons t rest ih =>
    rw [constrainAll] at h
    obtain ⟨mid, ht, hrest⟩ := bind_eq_ok_iff.1 h
    have hmid : mid.build.isKnown = Plan.declares ss :=
      (Build.isKnown_congr (addRelationships_keeps ht).1).trans hrun
    rw [ih hmid hrest, report_of_addRelationships hrun ht, relationshipsOf_cons, List.map_append,
      Report.withRelationships_append, List.map_map]
    rfl

end Run

/-- The lists of a report are those of the entries for the classes and the relationships. -/
theorem report_of_compile {σ : Type} [Store σ] {types : TypeDictionary} {store : σ}
    {ss : List Subsystem} {done : Compilation σ} (h : compile types store ss = .ok done) :
    done.report =
      { store := Store.title store
        subsystems := ss.map (·.name)
        relations := ((ss.flatMap (·.classes)).map classEntry).filterMap (·.relation?)
        constraints := (relationshipEntries ss).filterMap (·.constraint?)
        deferred := (relationshipEntries ss).filterMap (·.deferred?)
        ordinal := (relationshipEntries ss).filterMap (·.ordinal?)
        skippedImports := ((ss.flatMap (·.classes)).map classEntry).filterMap (·.skipped?)
        population := done.population.counts } := by
  rw [compile] at h
  obtain ⟨run, hfirst, h⟩ := bind_eq_ok_iff.1 h
  obtain ⟨run', hsecond, h⟩ := bind_eq_ok_iff.1 h
  obtain rfl := Except.ok.inj h
  have hknown : run.build.isKnown = Plan.declares ss :=
    funext (Run.isKnown_of_materializeAll hfirst)
  have hreport : run'.report = _ := Run.report_of_constrainAll hknown hsecond
  rw [Run.report_of_materializeAll hfirst] at hreport
  simp [Run.finish, hreport, Run.start, Report.withClasses, Report.withRelationships,
    relationshipEntries]

/-! ### What has been reported is what the store has got -/

lemma filterMap_relation?_classEntry (ss : List Subsystem) :
    ((ss.flatMap (·.classes)).map classEntry).filterMap (·.relation?) =
      (materialized ss).map fun m => unspaced m.2.name := by
  induction ss with
  | nil => rfl
  | cons s rest ih =>
    rw [List.flatMap_cons, List.map_append, List.filterMap_append, ih, materialized_cons,
      List.map_append]
    congr 1
    induction s.classes with
    | nil => rfl
    | cons c cs ihc =>
      cases hc : c.isImported with
      | true => simpa [ownClasses_cons_of_imported hc, classEntry, hc] using ihc
      | false => simpa [ownClasses_cons_of_own hc, classEntry, hc] using ihc

lemma constraint?_relationshipEntry (ss : List Subsystem) (subsystem : String) (x : Relationship) :
    (relationshipEntry ss subsystem x).constraint? =
      (if Plan.isDue ss x then x.constraint? else none).map fun k => ⟨k.name, k.kind⟩ := by
  rw [relationshipEntry, constraintKind?_eq]
  cases hk : x.constraint? with
  | none => simp
  | some k =>
    rw [Plan.isDue_eq_all hk]
    cases hmissing : x.requiredClasses.find? fun c => !Plan.declares ss c with
    | some missing =>
      have hall : x.requiredClasses.all (Plan.declares ss) = false := by
        rw [List.all_eq_false]
        exact ⟨missing, List.mem_of_find?_eq_some hmissing, by
          simpa using List.find?_some hmissing⟩
      simp [hall]
    | none =>
      have hall : x.requiredClasses.all (Plan.declares ss) = true := by
        rw [List.all_eq_true]
        exact fun c hc => by simpa using List.find?_eq_none.1 hmissing c hc
      simp [hall, name_of_constraint? hk]

lemma filterMap_constraint?_relationshipEntries (ss : List Subsystem) :
    (relationshipEntries ss).filterMap (·.constraint?) =
      (Plan.constraints ss).map fun k => ⟨k.name, k.kind⟩ := by
  have hsnd : (relationshipsOf ss).map (·.2) = ss.flatMap (·.relationships) := by
    simp [relationshipsOf, List.map_flatMap, Function.comp_def]
  rw [relationshipEntries, List.filterMap_map, Plan.constraints, ← hsnd, List.filter_map,
    List.filterMap_map, List.filterMap_filter, List.map_filterMap]
  refine List.filterMap_congr fun p _ => ?_
  exact (constraint?_relationshipEntry ss p.1 p.2).trans (by simp)

/-- A compilation that has ended well is accounted for: each class and each relationship has one
entry, which is true, and the lists of the report are made of these entries, in the order of the
model; what is reported to have been created is what the history has grown by. -/
structure Compilation.Accounted (start : Catalog) (ss : List Subsystem)
    (done : Compilation Catalog) : Prop where
  classes : ∃ entries, List.Forall₂ ClassEntry.Of (ss.flatMap (·.classes)) entries ∧
    done.report.relations = entries.filterMap (·.relation?) ∧
    done.report.skippedImports = entries.filterMap (·.skipped?)
  relationships : ∃ entries,
    List.Forall₂ (RelationshipEntry.Of ss) (relationshipsOf ss) entries ∧
    done.report.constraints = entries.filterMap (·.constraint?) ∧
    done.report.deferred = entries.filterMap (·.deferred?) ∧
    done.report.ordinal = entries.filterMap (·.ordinal?)
  history : ∃ (rs : List Relation) (ks : List Constraint),
    done.store.history = start.history ++ (rs.map .relation ++ ks.map .constraint) ∧
    done.report.relations = rs.map (·.name) ∧
    done.report.constraints = ks.map fun k => ⟨k.name, k.kind⟩

/-- **The report accounts for everything.**  Whatever a compilation that ends well has been given,
its report has one true entry for each class and each relationship and names just what has been
created. -/
theorem report_accounts (types : TypeDictionary) (start : Catalog) (ss : List Subsystem)
    (done : Compilation Catalog) (h : compile types start ss = .ok done) :
    done.Accounted start ss := by
  have hreport := report_of_compile h
  refine ⟨⟨(ss.flatMap (·.classes)).map classEntry, ?_, ?_, ?_⟩,
    ⟨relationshipEntries ss, ?_, ?_, ?_, ?_⟩,
    ⟨Plan.relations types ss, Plan.constraints ss, ?_, ?_, ?_⟩⟩
  · exact List.forall₂_map_right_iff.2 (List.forall₂_same.2 fun c _ => of_classEntry c)
  · rw [hreport]
  · rw [hreport]
  · exact List.forall₂_map_right_iff.2
      (List.forall₂_same.2 fun p _ => of_relationshipEntry ss p.1 p.2)
  · rw [hreport]
  · rw [hreport]
  · rw [hreport]
  · rw [store_of_compile h, Catalog.history_addAll, Plan.requests]
  · rw [hreport, Plan.relations, List.map_map]
    exact filterMap_relation?_classEntry ss
  · rw [hreport]
    exact filterMap_constraint?_relationshipEntries ss

/-- The subsystems of the airport: `crew` has a relationship of each sort, `hangar` a class that is
imported. -/
theorem report_accounts_airport :
    ∃ done, compile ⟨.ofList [("name", .string)]⟩ Catalog.empty [crew, hangar] = .ok done ∧
      done.Accounted Catalog.empty [crew, hangar] ∧
      done.report.relations = ["Pilot", "Aircraft_Type"] ∧
      done.report.skippedImports = ["Pilot"] ∧
      done.report.constraints = [⟨"R1", .association⟩] ∧
      done.report.deferred = [⟨"R2", "Crew", "Gate"⟩] ∧ done.report.ordinal = ["R3"] := by
  have hreport : ((compile ⟨.ofList [("name", .string)]⟩ Catalog.empty [crew, hangar]).toOption.map
      fun done => (done.report.relations, done.report.skippedImports, done.report.constraints,
        done.report.deferred, done.report.ordinal)) =
      some (["Pilot", "Aircraft_Type"], ["Pilot"], [⟨"R1", .association⟩],
        [⟨"R2", "Crew", "Gate"⟩], ["R3"]) := by decide +kernel
  cases h : compile ⟨.ofList [("name", .string)]⟩ Catalog.empty [crew, hangar] with
  | error stop => rw [h] at hreport; cases hreport
  | ok done =>
    rw [h] at hreport
    simp only [Except.toOption, Option.map_some, Option.some.injEq, Prod.mk.injEq] at hreport
    exact ⟨done, rfl, report_accounts _ _ _ done h, hreport⟩

end ClassSchema
