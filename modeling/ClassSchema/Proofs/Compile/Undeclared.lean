import ClassSchema.Proofs.Compile.Failure

/-
# Types that are not declared

An attribute without a declared type is looked up under a name that stands for all such types.  As
long as the dictionary does not have this name, a class with such an attribute gets no relation, and
the compilation ends there at the latest (`undeclared_type_aborts`).  But the name is looked up like
any other, and a dictionary may have it: then the attribute gets the type that stands there, and the
compilation goes on (`exists_compile_of_undeclared`).
-/

namespace ClassSchema

open Model Schema Outcome

/-- The type of some attribute is not declared. -/
def Model.Class.HasUndeclared (c : Model.Class) : Prop := ∃ a ∈ c.attributes, a.type = none

instance (c : Model.Class) : Decidable c.HasUndeclared :=
  inferInstanceAs (Decidable (∃ a ∈ c.attributes, a.type = none))

variable {types : TypeDictionary} {ss : List Subsystem}

/-- The first class of a plan that has such an attribute. -/
lemma exists_first_undeclared (h : ∃ m ∈ materialized ss, m.2.HasUndeclared) :
    ∃ before m after, materialized ss = before ++ m :: after ∧ m.2.HasUndeclared ∧
      ∀ m' ∈ before, ¬ m'.2.HasUndeclared := by
  have hfound : ((materialized ss).find? fun m => m.2.HasUndeclared).isSome := by
    simpa [List.find?_isSome] using h
  obtain ⟨m, hm⟩ := Option.isSome_iff_exists.1 hfound
  obtain ⟨hundeclared, before, after, hsplit, hbefore⟩ := List.find?_eq_some_iff_append.1 hm
  exact ⟨before, m, after, hsplit, by simpa using hundeclared,
    fun m' hm' => by simpa using hbefore m' hm'⟩

/-- A type that is not declared is not known, unless the dictionary knows the name for it. -/
lemma exists_untyped?_of_undeclared {c : Model.Class} (h : types.resolve? undeclaredType = none)
    (hc : c.HasUndeclared) : ∃ a, untyped? types c.attributes = some a := by
  obtain ⟨a, ha, htype⟩ := hc
  have hname : a.typeName = undeclaredType := by rw [Attribute.typeName, htype, Option.getD_none]
  refine Option.isSome_iff_exists.1 (List.find?_isSome.2 ⟨a, ha, ?_⟩)
  rw [hname, h, Option.isNone_none]

namespace Plan

variable {σ : Type} [Store σ]

/-- Steps stop at the latest where there is no request to make. -/
lemma execute_around_error (xs ys : List Step) (e : BuildError) (s : σ) :
    ∃ done stop, execute (xs ++ .error e :: ys) s = .error stop ∧ done <+: xs ∧
      execute done s = .ok stop.store ∧
      ∀ s', execute xs s = .ok s' → stop = ⟨.build e, s'⟩ := by
  rw [execute_append]
  cases h : execute xs s with
  | ok s' =>
    refine ⟨xs, ⟨.build e, s'⟩, rfl, List.prefix_rfl, h, fun s'' hs'' => ?_⟩
    rw [Except.ok.inj hs'']
  | error stop =>
    obtain ⟨done, x, rest, e', rfl, hdone, -, -⟩ := exists_of_execute_error h
    refine ⟨done, stop, rfl, List.prefix_append _ _, hdone, fun s' hs' => ?_⟩
    cases hs'

/-- A type that a step reports is not known. -/
lemma carryOut_unknownType {x : Step} (hx : x ∈ plan types ss) (s : σ) :
    FailsOnly (fun e => ∀ u, e = .unknownType u → types.resolve? u.type = none)
      (carryOut x s) := by
  have hstep : FailsOnly (fun e => ∀ u, e = .unknownType u → types.resolve? u.type = none) x := by
    rcases List.mem_append.1 hx with hclass | hconstraint
    · obtain ⟨m, -, rfl⟩ := List.mem_map.1 hclass
      rw [classStep]
      cases hu : untyped? types m.2.attributes with
      | some a =>
        refine .of_error rfl fun u hu' => ?_
        obtain rfl := BuildError.unknownType.inj hu'
        simpa using List.find?_some hu
      | none => exact .of_ok rfl
    · obtain ⟨-, -, k, -, -, rfl⟩ := exists_of_mem_constraintSteps hconstraint
      exact .of_ok rfl
  -- the store does not look at types
  refine hstep.bind fun q _ => FailsOnly.mapError_iff.2 ?_
  intro e _ u hu
  cases hu

end Plan

/-- **An undeclared type ends the compilation.**  Let a class that is not imported have an attribute
without a declared type.  If the dictionary does not know the name that stands for such types, then
whatever store the compilation starts with, it fails.  Of the first such class no relation is
created: only relations of classes before it are.  If the relations of all classes before it can be
created, the failure is the first attribute of the class whose type is not known.  But if the
dictionary knows the name, no compilation fails for a type that is not declared. -/
theorem undeclared_type_aborts {σ : Type} [Store σ] (types : TypeDictionary) (start : σ)
    (ss : List Subsystem)
    (hundeclared : ∃ s ∈ ss, ∃ c ∈ s.classes, c.isImported = false ∧
      ∃ a ∈ c.attributes, a.type = none) :
    (types.resolve? undeclaredType = none →
      ∃ before m after a stop, materialized ss = before ++ m :: after ∧ m.2.HasUndeclared ∧
        (∀ m' ∈ before, ¬ m'.2.HasUndeclared) ∧ untyped? types m.2.attributes = some a ∧
        compile types start ss = .error stop ∧
        (∃ done, done <+: before ∧
          Plan.execute (Plan.classSteps types done) start = .ok stop.store) ∧
        ∀ store, Plan.execute (Plan.classSteps types before) start = .ok store →
          stop = ⟨.build (.unknownType ⟨m.2.name, a.name, a.typeName⟩), store⟩) ∧
    ((types.resolve? undeclaredType).isSome → ∀ stop e, compile types start ss = .error stop →
      stop.error = .build (.unknownType e) → e.type ≠ undeclaredType) := by
  constructor
  · intro hunknown
    obtain ⟨s, hs, c, hc, hown, hc'⟩ := hundeclared
    obtain ⟨before, m, after, hsplit, hm, hbefore⟩ :=
      exists_first_undeclared ⟨_, mem_materialized.2 ⟨s, hs, c, hc, hown, rfl⟩, hc'⟩
    obtain ⟨a, ha⟩ := exists_untyped?_of_undeclared hunknown hm
    have hstep : Plan.classStep types m.2 =
        .error (.unknownType ⟨m.2.name, a.name, a.typeName⟩) := by rw [Plan.classStep, ha]
    have hplan : plan types ss = Plan.classSteps types before ++ Plan.classStep types m.2 ::
        (Plan.classSteps types after ++
          Plan.constraintSteps ss (ss.flatMap (·.relationships))) := by
      rw [plan, hsplit, Plan.classSteps, List.map_append, List.map_cons, List.append_assoc]
      rfl
    obtain ⟨steps, stop, hstop, hsteps, hdone, hlast⟩ :=
      Plan.execute_around_error (Plan.classSteps types before) _ _ start
    obtain ⟨done, hprefix, rfl⟩ := List.prefix_map_iff.1 hsteps
    refine ⟨before, m, after, a, stop, hsplit, hm, hbefore, ha, ?_, ⟨done, hprefix, hdone⟩, hlast⟩
    refine compile_of_execute_error ?_
    rw [hplan, hstep]
    exact hstop
  · intro hknown stop e hstop he hundeclaredType
    have hfails : FailsOnly (fun stop : Stopped σ => ∃ e, stop.error = .build e ∧
        ∀ u, e = .unknownType u → types.resolve? u.type = none)
        (Plan.execute (plan types ss) start) :=
      Plan.execute_failsOnly (P := fun _ => True) trivial (fun _ _ _ _ _ _ => trivial)
        fun x hx s _ => Plan.carryOut_unknownType hx s
    have hexecute := compile_store types start ss
    rw [hstop, map_error] at hexecute
    obtain ⟨e', he', hunknown⟩ := hfails stop hexecute.symm
    obtain rfl := CompileError.build.inj (he.symm.trans he')
    rw [← hundeclaredType, hunknown e rfl] at hknown
    cases hknown

/-- A class in which all types are declared. -/
def box : Model.Class := ⟨"Box", none, [⟨"Number", some "name", [⟨1, false⟩]⟩]⟩

/-- A class with an attribute whose type is not. -/
def horse : Model.Class :=
  ⟨"Horse", none, [⟨"Name", some "name", [⟨1, false⟩]⟩, ⟨"Colour", none, []⟩]⟩

/-- A subsystem with the two classes. -/
def stud : Subsystem := ⟨"Stud", "Horses", [box, horse], []⟩

/-- The boxes get their relation, and then the colour of a horse has no type. -/
theorem undeclared_type_aborts_stud :
    ∃ stop, compile ⟨.ofList [("name", .string)]⟩ Catalog.empty [stud] = .error stop ∧
      stop.error = .build (.unknownType ⟨"Horse", "Colour", "<unresolved>"⟩) ∧
      stop.store.relations.keys = ["Box"] := by
  obtain ⟨before, m, after, a, stop, hsplit, hm, hbefore, ha, hstop, -, hlast⟩ :=
    (undeclared_type_aborts ⟨.ofList [("name", .string)]⟩ Catalog.empty [stud]
      ⟨stud, by decide, horse, by decide, rfl, by decide⟩).1 (by decide +kernel)
  have hbox : ¬ box.HasUndeclared := by decide
  -- the class is the horse, since the box has no such attribute
  obtain ⟨rfl, rfl⟩ : before = [("Horses", box)] ∧ m = ("Horses", horse) := by
    have hclasses : [("Horses", box), ("Horses", horse)] = before ++ m :: after := hsplit
    rcases before with _ | ⟨first, _ | ⟨second, rest⟩⟩
    · obtain ⟨rfl, -⟩ := List.cons.inj hclasses
      exact absurd hm hbox
    · simp_all
    · simp at hclasses
  have hfirst : (Plan.execute (Plan.classSteps ⟨.ofList [("name", .string)]⟩ [("Horses", box)])
      Catalog.empty).toOption.map (·.relations.keys) = some ["Box"] := by decide +kernel
  obtain ⟨store, hstore, hkeys⟩ := exists_ok_of_toOption hfirst
  have hcolour : untyped? ⟨.ofList [("name", .string)]⟩ horse.attributes =
      some ⟨"Colour", none, []⟩ := by decide +kernel
  obtain rfl := Option.some.inj (ha.symm.trans hcolour)
  obtain rfl := hlast store hstore
  exact ⟨_, hstop, rfl, hkeys⟩

/-- A dictionary may know the name that stands for types that are not declared, and then the
relation is created. -/
theorem exists_compile_of_undeclared :
    ∃ types done, TypeDictionary.ofText "name: string\n<unresolved>: string\n" = .ok types ∧
      horse.HasUndeclared ∧ compile types Catalog.empty [stud] = .ok done ∧
      done.store.relations.keys = ["Box", "Horse"] := by
  have hkeys : (compile ⟨.ofList [("name", .string), ("<unresolved>", .string)]⟩ Catalog.empty
      [stud]).toOption.map (·.store.relations.keys) = some ["Box", "Horse"] := by decide +kernel
  obtain ⟨done, h, hdone⟩ := exists_ok_of_toOption hkeys
  exact ⟨_, done, by decide +kernel, by decide, h, hdone⟩

end ClassSchema
