import ClassSchema.Proofs.Compile.Partition
import ClassSchema.Proofs.Compile.Population
import ClassSchema.Proofs.Schema.Rejection

/-
# How a compilation can fail

A compilation fails for what the model says, never for how its requests are put together.  While
relations are created it is a class that fails: a type is not known, the class has no attributes,
or a name is taken (`BuildError.OfClass`).  While constraints are created it is a relationship: its
number is taken, a path lists an attribute that there is not, or too few or too many of them
(`BuildError.OfRelationship`).

That the other reasons never come up has three causes.  An identifier is made of the attributes of
its own class, each once (`Plan.checkIdentifiers_relation`).  A relationship is looked at when all
classes have relations, and its constraint names no relations but those of the classes it requires
(`Plan.exists_required_of_mentions`).  And a generalization that a record writes down has
subclasses.
-/

namespace ClassSchema

open Model Schema OrderedMap Outcome

/-- Why a class gets no relation: the type of an attribute is not known, or there is a fault in the
relation that it would get. -/
inductive BuildError.OfClass (types : TypeDictionary) (c : Model.Class) : BuildError → Prop
  | unknownType {a : Model.Attribute} (mem : a ∈ c.attributes)
      (unknown : types.resolve? a.typeName = none) :
      OfClass types c (.unknownType ⟨c.name, a.name, a.typeName⟩)
  | rejected {r : Relation} {e : SchemaError} (of : relationOf types c = .ok r)
      (fault : r.Faults e) : OfClass types c (.rejected e)

/-- Why a relationship gets no constraint: there is a fault in the constraint that it would get. -/
inductive BuildError.OfRelationship (x : Relationship) : BuildError → Prop
  | rejected {k : Constraint} {e : SchemaError} (of : x.constraint? = some k) (fault : k.Faults e) :
      OfRelationship x (.rejected e)

/-- The request itself is badly put together: it names a relation that there is not, it is for a
partition without subclasses, or an identifier lists an attribute twice. -/
def Schema.SchemaError.IsStructural : SchemaError → Prop
  | .unknownRelation _ | .emptyPartition _ | .duplicateIdentifierAttribute _ _ _ => True
  | _ => False

namespace Stopped

variable {σ : Type}

/-- A compilation has ended at a class that should get a relation. -/
def AtClass (types : TypeDictionary) (ss : List Subsystem) (stop : Stopped σ) : Prop :=
  ∃ s ∈ ss, ∃ c ∈ s.classes, c.isImported = false ∧
    ∃ e, stop.error = .build e ∧ e.OfClass types c

/-- A compilation has ended at a relationship. -/
def AtRelationship (ss : List Subsystem) (stop : Stopped σ) : Prop :=
  ∃ s ∈ ss, ∃ x ∈ s.relationships, ∃ e, stop.error = .build e ∧ e.OfRelationship x

end Stopped

namespace Catalog

/-- A catalog refuses nothing that is valid. -/
lemma create_failsOnly {P : SchemaError → Prop} {c : Catalog} {q : Request}
    (h : FailsOnly P (c.view.check q)) : FailsOnly P (Store.create c q) :=
  h.bind fun _ _ => FailsOnly.of_ok (rfl : Store.accept c q = .ok (c.add q))

end Catalog

namespace Plan

/-- Steps fail only for reasons that single steps fail for, at stores with a property that the
steps preserve. -/
lemma execute_failsOnly {σ : Type} [Store σ] {P : σ → Prop} {E : BuildError → Prop}
    {xs : List Step} {s : σ} (hs : P s)
    (hkeeps : ∀ x ∈ xs, ∀ s s', P s → carryOut x s = .ok s' → P s')
    (hfails : ∀ x ∈ xs, ∀ s, P s → FailsOnly E (carryOut x s)) :
    FailsOnly (fun stop => ∃ e, stop.error = .build e ∧ E e) (execute xs s) := by
  intro stop hstop
  obtain ⟨hP, x, hx, e, he, herror⟩ := (execute_keeps hs hkeeps).2 stop hstop
  exact ⟨e, herror, hfails x hx stop.store hP e he⟩

/-! ### Classes -/

section

variable {types : TypeDictionary} {c : Model.Class}

/-- The identifiers of a class list its own attributes, each once. -/
lemma checkIdentifiers_relation (h : untyped? types c.attributes = none) :
    checkIdentifiers (relation types c).name (relation types c).columns
      (relation types c).identifiers.entries = .ok () := by
  rw [checkIdentifiers_eq_ok_iff]
  rintro ⟨g, names⟩ he
  have hget : (relation types c).identifiers.get? g = some names := mem_entries_iff.1 he
  rw [Population.get?_identifiers_relation] at hget
  split at hget
  next =>
    obtain rfl := Option.some.inj hget
    refine ⟨fun n hn => ?_, nodup_eraseDups _⟩
    obtain ⟨a, ha, rfl⟩ := List.mem_map.1 (List.mem_eraseDups.1 hn)
    rw [Population.columns_relation h]
    exact List.mem_map_of_mem (List.mem_of_mem_filter ha)
  next => cases hget

lemma carryOut_classStep_failsOnly (types : TypeDictionary) (c : Model.Class) (s : Catalog) :
    FailsOnly (BuildError.OfClass types c) (carryOut (classStep types c) s) := by
  rw [carryOut, classStep]
  cases hu : untyped? types c.attributes with
  | some a =>
    refine .of_error rfl (.unknownType (List.mem_of_find?_eq_some hu) ?_)
    simpa using List.find?_some hu
  | none =>
    have hcheck : FailsOnly (relation types c).Faults
        (s.view.check (.relation (relation types c))) :=
      View.checkRelation_failsOnly (checkIdentifiers_relation hu)
    refine FailsOnly.mapError_iff.2 ((Catalog.create_failsOnly hcheck).mono fun e he => ?_)
    exact .rejected (relationOf_eq_of_typed hu) he

end

/-! ### Relationships -/

/-- A constraint names the relations of classes that the relationship requires. -/
lemma exists_required_of_mentions {x : Relationship} {k : Constraint}
    (hk : x.constraint? = some k) (hx : ∀ g, x = .generalization g → g.WellFormed)
    {m : String × List String} (hm : m ∈ k.mentions) :
    ∃ c ∈ x.requiredClasses, m.1 = unspaced c := by
  cases x with
  | association r =>
    obtain rfl := Option.some.inj hk
    simp only [Constraint.mentions, List.mem_cons, List.not_mem_nil, or_false] at hm
    rcases hm with rfl | rfl
    · exact ⟨r.ref1.source.className, by simp [Relationship.requiredClasses], rfl⟩
    · exact ⟨r.ref1.target.className, by simp [Relationship.requiredClasses], rfl⟩
  | associative r =>
    obtain rfl := Option.some.inj hk
    simp only [Constraint.mentions, List.mem_cons, List.not_mem_nil, or_false] at hm
    rcases hm with rfl | rfl | rfl | rfl
    · exact ⟨r.associationClass, by simp [Relationship.requiredClasses], rfl⟩
    · exact ⟨r.ref1.target.className, by simp [Relationship.requiredClasses], rfl⟩
    · exact ⟨r.associationClass, by simp [Relationship.requiredClasses], rfl⟩
    · exact ⟨r.ref2.target.className, by simp [Relationship.requiredClasses], rfl⟩
  | generalization r =>
    obtain rfl := Option.some.inj hk
    rcases List.mem_cons.1 hm with rfl | hm
    · exact ⟨r.superclass, List.mem_cons_self, rfl⟩
    · have hkey : m.1 ∈ r.subclassAttributes.keys := List.mem_map_of_mem hm
      obtain ⟨c, hc, hcm⟩ := List.mem_map.1 ((hx r rfl).mem_keys_iff.1 hkey)
      exact ⟨c, List.mem_cons_of_mem _ hc, hcm.symm⟩
  | ordinal r => cases hk

/-- The partition of a generalization has an entry for a subclass. -/
lemma subclasses_ne_nil {x : Relationship} {p : Partition} (hk : x.constraint? = some (.partition p))
    (hx : ∀ g, x = .generalization g → g.WellFormed) : p.subclasses.entries ≠ [] := by
  cases x with
  | generalization r =>
    obtain rfl := Constraint.partition.inj (Option.some.inj hk)
    obtain ⟨c, hc⟩ := List.exists_mem_of_ne_nil _ (hx r rfl).subclasses_ne_nil
    have hkey := (hx r rfl).mem_keys_iff.2 (List.mem_map_of_mem hc)
    obtain ⟨e, he, -⟩ := List.mem_map.1 hkey
    exact List.ne_nil_of_mem he
  | association r | associative r | ordinal r => simp [Relationship.constraint?] at hk

lemma exists_of_mem_constraintSteps {ss : List Subsystem} {xs : List Relationship} {step : Step}
    (h : step ∈ constraintSteps ss xs) : ∃ x ∈ xs, ∃ k, isDue ss x = true ∧
      x.constraint? = some k ∧ step = .ok (.constraint k) := by
  obtain ⟨x, hx, hstep⟩ := List.mem_filterMap.1 h
  obtain ⟨hx, hdue⟩ := List.mem_filter.1 hx
  obtain ⟨k, hk, rfl⟩ := Option.map_eq_some_iff.1 hstep
  exact ⟨x, hx, k, hdue, hk, rfl⟩

/-- All classes have their relations. -/
def Related (ss : List Subsystem) (s : Catalog) : Prop :=
  ∀ c, declares ss c = true → (s.view.columns? (unspaced c)).isSome

lemma related_of_execute_classSteps {types : TypeDictionary} {ss : List Subsystem} {s s' : Catalog}
    (h : execute (classSteps types (materialized ss)) s = .ok s') : Related ss s' := by
  intro n hn
  obtain ⟨m, hm, hmn⟩ := List.any_eq_true.1 hn
  obtain rfl := beq_iff_eq.1 hmn
  have htyped := (execute_classSteps_eq_ok_iff.1 h).1 m hm
  have hstep : .ok (.relation (relation types m.2)) ∈ classSteps types (materialized ss) :=
    List.mem_map.2 ⟨m, hm, classStep_eq_ok_iff.2 ⟨htyped, rfl⟩⟩
  have hget : s'.relations.get? (unspaced m.2.name) = some (relation types m.2) :=
    ((stored_of_execute h).1 _ hstep).2
  exact Option.isSome_iff_exists.2 ⟨_, Catalog.view_columns?_eq_some_iff.2 ⟨_, hget, rfl⟩⟩

lemma related_of_carryOut_constraint {ss : List Subsystem} {s s' : Catalog} {k : Constraint}
    (hs : Related ss s) (h : carryOut (.ok (.constraint k)) s = .ok s') : Related ss s' := by
  obtain ⟨q, hq, hcreate⟩ := carryOut_eq_ok_iff.1 h
  obtain rfl := Except.ok.inj hq
  obtain ⟨-, rfl⟩ := Catalog.create_eq_ok_iff.1 hcreate
  exact hs

lemma carryOut_constraint_failsOnly {ss : List Subsystem} {s : Catalog} {x : Relationship}
    {k : Constraint} (hs : Related ss s) (hk : x.constraint? = some k)
    (hdue : isDue ss x = true) (hx : ∀ g, x = .generalization g → g.WellFormed) :
    FailsOnly (BuildError.OfRelationship x) (carryOut (.ok (.constraint k)) s) := by
  have hstored : ∀ m ∈ k.mentions, (s.view.columns? m.1).isSome := by
    intro m hm
    obtain ⟨c, hc, hmc⟩ := exists_required_of_mentions hk hx hm
    rw [isDue_eq_all hk, List.all_eq_true] at hdue
    exact hmc ▸ hs c (hdue c hc)
  have hcheck : FailsOnly k.Faults (s.view.check (.constraint k)) :=
    View.check_constraint_failsOnly hstored fun p hp => subclasses_ne_nil (hp ▸ hk) hx
  exact FailsOnly.mapError_iff.2 ((Catalog.create_failsOnly hcheck).mono fun e he => .rejected hk he)

end Plan

/-! ### The two halves of a compilation -/

variable {types : TypeDictionary} {start : Catalog} {ss : List Subsystem}

lemma Build.addClass_failsOnly (b : Build Catalog) (types : TypeDictionary) (domain : String)
    (c : Model.Class) : FailsOnly (BuildError.OfClass types c) (b.addClass types domain c) := by
  cases hc : c.isImported with
  | true => exact .of_ok (Build.addClass_of_imported hc)
  | false =>
    rw [Build.addClass_eq hc, FailsOnly.map_iff]
    exact Plan.carryOut_classStep_failsOnly types c b.store

namespace Run

lemma materializeAll_failsOnly (types : TypeDictionary) (start : Catalog) (ss : List Subsystem) :
    FailsOnly (Stopped.AtClass types ss) (materializeAll types ss (.start start)) := by
  have hfails : FailsOnly (fun stop : Stopped Catalog => ∃ e, stop.error = .build e ∧
      ∃ m ∈ materialized ss, e.OfClass types m.2)
      (Plan.execute (Plan.classSteps types (materialized ss)) start) := by
    refine Plan.execute_failsOnly (P := fun _ => True) trivial (fun _ _ _ _ _ _ => trivial) ?_
    rintro x hx s -
    obtain ⟨m, hm, rfl⟩ := List.mem_map.1 hx
    exact (Plan.carryOut_classStep_failsOnly types m.2 s).mono fun e he => ⟨m, hm, he⟩
  rw [← FailsOnly.map_iff, materializeAll_store]
  refine hfails.mono fun stop hstop => ?_
  obtain ⟨e, he, m, hm, hclass⟩ := hstop
  obtain ⟨s, hs, c, hc, hown, rfl⟩ := mem_materialized.1 hm
  exact ⟨s, hs, c, hc, hown, e, he, hclass⟩

lemma constrainAll_failsOnly {run : Run Catalog}
    (hrun : materializeAll types ss (.start start) = .ok run)
    (hss : ∀ s ∈ ss, ∀ x ∈ s.relationships, ∀ g, x = .generalization g → g.WellFormed) :
    FailsOnly (Stopped.AtRelationship ss) (constrainAll ss run) := by
  have hrelated : Plan.Related ss run.build.store := by
    have hfirst := materializeAll_store types ss (.start start)
    rw [hrun, map_ok] at hfirst
    exact Plan.related_of_execute_classSteps hfirst.symm
  have hfails : FailsOnly (fun stop : Stopped Catalog => ∃ e, stop.error = .build e ∧
      ∃ x ∈ ss.flatMap (·.relationships), e.OfRelationship x)
      (Plan.execute (Plan.constraintSteps ss (ss.flatMap (·.relationships))) run.build.store) := by
    refine Plan.execute_failsOnly hrelated ?_ ?_
    · intro step hstep s s' hs hok
      obtain ⟨x, -, k, -, -, rfl⟩ := Plan.exists_of_mem_constraintSteps hstep
      exact Plan.related_of_carryOut_constraint hs hok
    · intro step hstep s hs
      obtain ⟨x, hx, k, hdue, hk, rfl⟩ := Plan.exists_of_mem_constraintSteps hstep
      obtain ⟨t, ht, hxt⟩ := List.mem_flatMap.1 hx
      exact (Plan.carryOut_constraint_failsOnly hs hk hdue (hss t ht x hxt)).mono
        fun e he => ⟨x, hx, he⟩
  rw [← FailsOnly.map_iff, constrainAll_store ss (funext (isKnown_of_materializeAll hrun))]
  refine hfails.mono fun stop hstop => ?_
  obtain ⟨e, he, x, hx, hrelationship⟩ := hstop
  obtain ⟨s, hs, hxs⟩ := List.mem_flatMap.1 hx
  exact ⟨s, hs, x, hxs, e, he, hrelationship⟩

end Run

/-! ### The whole compilation -/

lemma BuildError.OfClass.not_isStructural {c : Model.Class} {e : SchemaError}
    (h : OfClass types c (.rejected e)) : ¬ e.IsStructural := by
  cases h with
  | rejected of fault => cases fault <;> exact id

lemma BuildError.OfRelationship.not_isStructural {x : Relationship} {e : SchemaError}
    (h : OfRelationship x (.rejected e)) : ¬ e.IsStructural := by
  cases h with
  | rejected of fault => cases fault <;> exact id

/-- **Failures come from the model.**  Let the relationships be written down by records; what the
catalog holds and which types there are does not matter.  Then the relation of a class, in whatever
build, fails only for what the class says, and so does the first half of a compilation; the second
half fails only for what a relationship says; and no compilation fails because a request is badly
put together. -/
theorem compile_failsOnly (types : TypeDictionary) (start : Catalog) (ss : List Subsystem)
    (hrecords : ∀ s ∈ ss, ∀ x ∈ s.relationships,
      ∃ record : RelationshipRecord, record.classify = .ok x) :
    (∀ (b : Build Catalog) (domain : String) (c : Model.Class),
      FailsOnly (BuildError.OfClass types c) (b.addClass types domain c)) ∧
    FailsOnly (Stopped.AtClass types ss) (Run.materializeAll types ss (.start start)) ∧
    (∀ run, Run.materializeAll types ss (.start start) = .ok run →
      FailsOnly (Stopped.AtRelationship ss) (Run.constrainAll ss run)) ∧
    FailsOnly (fun stop => (stop.AtClass types ss ∨ stop.AtRelationship ss) ∧
      ∀ e, stop.error = .build (.rejected e) → ¬ e.IsStructural) (compile types start ss) := by
  have hwell : ∀ s ∈ ss, ∀ x ∈ s.relationships, ∀ g, x = .generalization g → g.WellFormed := by
    rintro s hs x hx g rfl
    obtain ⟨record, hrecord⟩ := hrecords s hs _ hx
    exact RelationshipRecord.wellFormed_of_classify hrecord
  have hfirst := Run.materializeAll_failsOnly types start ss
  have hsecond : ∀ run, Run.materializeAll types ss (.start start) = .ok run →
      FailsOnly (Stopped.AtRelationship ss) (Run.constrainAll ss run) :=
    fun run hrun => Run.constrainAll_failsOnly hrun hwell
  refine ⟨fun b domain c => b.addClass_failsOnly types domain c, hfirst, hsecond, ?_⟩
  have hhalves : FailsOnly (fun stop => stop.AtClass types ss ∨ stop.AtRelationship ss)
      (compile types start ss) :=
    (hfirst.mono fun stop h => .inl h).bind fun run hrun =>
      ((hsecond run hrun).mono fun stop h => .inr h).bind fun run' _ => .of_ok rfl
  refine hhalves.mono fun stop hstop => ⟨hstop, fun e he => ?_⟩
  rcases hstop with ⟨-, -, c, -, -, e', he', hclass⟩ | ⟨-, -, x, -, e', he', hrelationship⟩
  · obtain rfl := CompileError.build.inj (he.symm.trans he')
    exact hclass.not_isStructural
  · obtain rfl := CompileError.build.inj (he.symm.trans he')
    exact hrelationship.not_isStructural

/-- The fleet, but gliders have no number. -/
def unnumbered : Subsystem :=
  { fleet with
    classes :=
      [⟨"Aircraft", none, [⟨"Tail number", some "name", [⟨1, false⟩]⟩]⟩,
        ⟨"Glider", none, [⟨"Pilot", some "name", [⟨1, false⟩]⟩]⟩,
        ⟨"Powered Aircraft", none, [⟨"Tail number", some "name", [⟨1, false⟩]⟩]⟩] }

/-- Without the number the relationship of the fleet fails; without types its first class does. -/
theorem compile_failsOnly_unnumbered :
    (∃ stop, compile ⟨.ofList [("name", .string)]⟩ Catalog.empty [unnumbered] = .error stop ∧
      stop.error = .build (.rejected (.unknownAttribute "Glider" "Glider_number")) ∧
      stop.AtRelationship [unnumbered]) ∧
    ∃ stop, Run.materializeAll ⟨.ofList []⟩ [unnumbered] (.start Catalog.empty) = .error stop ∧
      stop.error = .build (.unknownType ⟨"Aircraft", "Tail number", "name"⟩) ∧
      stop.AtClass ⟨.ofList []⟩ [unnumbered] := by
  have hrecords : ∀ s ∈ [unnumbered], ∀ x ∈ s.relationships,
      ∃ record : RelationshipRecord, record.classify = .ok x := by
    intro s hs x hx
    obtain rfl := List.mem_singleton.1 hs
    obtain rfl := List.mem_singleton.1 hx
    exact ⟨wingsRecord, rfl⟩
  constructor
  · obtain ⟨-, -, hsecond, -⟩ :=
      compile_failsOnly ⟨.ofList [("name", .string)]⟩ Catalog.empty [unnumbered] hrecords
    have hok : (Run.materializeAll ⟨.ofList [("name", .string)]⟩ [unnumbered]
        (.start Catalog.empty)).toBool = true := by decide +kernel
    have herror : ((compile ⟨.ofList [("name", .string)]⟩ Catalog.empty [unnumbered]).map
        fun _ => ()).mapError (·.error) =
          .error (.build (.rejected (.unknownAttribute "Glider" "Glider_number"))) := by
      decide +kernel
    cases hrun : Run.materializeAll ⟨.ofList [("name", .string)]⟩ [unnumbered]
        (.start Catalog.empty) with
    | error stop => rw [hrun] at hok; cases hok
    | ok run =>
      rw [compile, hrun, ok_bind] at herror ⊢
      cases hstop : Run.constrainAll [unnumbered] run with
      | ok run' => rw [hstop] at herror; cases herror
      | error stop =>
        rw [hstop] at herror
        exact ⟨stop, rfl, Except.error.inj herror, hsecond run hrun stop hstop⟩
  · obtain ⟨-, hfirst, -⟩ := compile_failsOnly ⟨.ofList []⟩ Catalog.empty [unnumbered] hrecords
    have herror : ((Run.materializeAll ⟨.ofList []⟩ [unnumbered] (.start Catalog.empty)).map
        fun _ => ()).mapError (·.error) =
          .error (.build (.unknownType ⟨"Aircraft", "Tail number", "name"⟩)) := by decide +kernel
    cases hstop : Run.materializeAll ⟨.ofList []⟩ [unnumbered] (.start Catalog.empty) with
    | ok run => rw [hstop] at herror; cases herror
    | error stop =>
      rw [hstop] at herror
      exact ⟨stop, rfl, Except.error.inj herror, hfirst stop hstop⟩

end ClassSchema
