import ClassSchema.Proofs.Compile.Acceptance

/-
# Where a constraint is created

A compilation creates a constraint at the moment when it comes to the relationship (`ComesTo`), and
also one that stops later has created those before (`Creates`).  What they name stays stored
(`Creates.supportedBy_storeAfter`).  At the moment when a constraint is created all classes have
their relations, so what is known of the model does not depend on the place: the classes that the
relationship requires are declared by some subsystem (`Creates.declares`), and no two classes have
names that differ by spaces and underscores only (`Creates.names_nodup`).
-/

namespace ClassSchema

open Model Schema OrderedMap Outcome

/-- A compilation comes to the relationship `x`, with this build. -/
def ComesTo {σ : Type} [Store σ] (types : TypeDictionary) (store : σ) (ss : List Subsystem)
    (x : Relationship) (b : Build σ) : Prop :=
  ∃ before s after xs ys run run' run'',
    ss = before ++ s :: after ∧ s.relationships = xs ++ x :: ys ∧
    Run.materializeAll types ss (.start store) = .ok run ∧
    Run.constrainAll before run = .ok run' ∧
    Run.addRelationships s.name xs run' = .ok run'' ∧ run''.build = b

/-- A compilation makes the constraint `k` of the relationship `x`: it comes to `x`, and there the
history grows by `k`. -/
def Creates (types : TypeDictionary) (start : Catalog) (ss : List Subsystem) (x : Relationship)
    (k : Constraint) : Prop :=
  ∃ b b' kind, ComesTo types start ss x b ∧ b.addRelationship x = .ok (b', .created kind) ∧
    b'.store.history = b.store.history ++ [.constraint k]

section

variable {σ : Type} [Store σ] {types : TypeDictionary} {store : σ} {ss : List Subsystem}
  {x : Relationship} {b b' : Build σ}

/-- What is known wherever the compilation has come to is what is declared. -/
lemma ComesTo.isKnown_eq (h : ComesTo types store ss x b) : b.isKnown = Plan.declares ss := by
  obtain ⟨before, s, after, xs, ys, run, run', run'', -, -, hrun, hrun', hrun'', rfl⟩ := h
  have hknown : run.build.isKnown = Plan.declares ss := funext (Run.isKnown_of_materializeAll hrun)
  -- all that is known has come from the classes; relationships add nothing to it
  rw [Build.isKnown_congr (Run.addRelationships_keeps hrun'').1,
    Build.isKnown_congr (Run.constrainAll_keeps hrun').1, hknown]

/-- A constraint is created when the relationship has one, all classes are known, and the store
accepts the constraint. -/
lemma Build.addRelationship_created {kind : ConstraintKind}
    (h : b.addRelationship x = .ok (b', .created kind)) :
    ∃ k, x.constraint? = some k ∧ (∀ c ∈ x.requiredClasses, b.isKnown c = true) ∧
      Store.create b.store (.constraint k) = .ok b'.store := by
  rw [addRelationship] at h
  split at h
  · cases h
  · cases h
  next k hmissing hk =>
    refine ⟨k, hk, List.all_eq_true.1 (firstMissing?_eq_none_iff.1 hmissing), ?_⟩
    cases hcreate : Store.create b.store (.constraint k) with
    | error e => simp [hcreate] at h
    | ok store' =>
      rw [hcreate] at h
      obtain ⟨rfl, -⟩ := Prod.mk.inj (Except.ok.inj h)
      rfl

end

namespace Creates

variable {types : TypeDictionary} {start : Catalog} {ss : List Subsystem} {x : Relationship}
  {k : Constraint}

lemma constraint?_eq (h : Creates types start ss x k) : x.constraint? = some k := by
  obtain ⟨b, b', kind, -, hx, hhistory⟩ := h
  obtain ⟨k', hk', -, hcreate⟩ := Build.addRelationship_created hx
  rw [Plan.history_of_create hcreate, List.append_cancel_left_eq] at hhistory
  obtain rfl : k' = k := by simpa using hhistory
  exact hk'

lemma declares (h : Creates types start ss x k) :
    ∀ c ∈ x.requiredClasses, Plan.declares ss c = true := by
  obtain ⟨b, b', kind, hcomes, hx, -⟩ := h
  obtain ⟨-, -, hknown, -⟩ := Build.addRelationship_created hx
  rwa [hcomes.isKnown_eq] at hknown

/-- The classes that have got relations differ in their names, also without spaces. -/
lemma names_nodup (h : Creates types start ss x k) :
    ((materialized ss).map fun m => unspaced m.2.name).Nodup := by
  obtain ⟨b, b', kind, ⟨before, s, after, xs, ys, run, run', run'', -, -, hrun, -⟩, -, -⟩ := h
  have hfirst := Run.materializeAll_store types ss (Run.start start)
  rw [hrun, map_ok] at hfirst
  obtain ⟨-, hadmits, -⟩ := Plan.execute_classSteps_eq_ok_iff.1 hfirst.symm
  have hnames := hadmits.fileable.names_nodup
  rwa [List.map_map] at hnames

/-- Classes that are declared and have one name without spaces have one name. -/
lemma eq_of_unspaced_eq (h : Creates types start ss x k) {c d : String}
    (hc : Plan.declares ss c = true) (hd : Plan.declares ss d = true)
    (hcd : unspaced c = unspaced d) : c = d := by
  obtain ⟨m, hm, hmc⟩ := List.any_eq_true.1 hc
  obtain ⟨m', hm', hmd⟩ := List.any_eq_true.1 hd
  rw [beq_iff_eq] at hmc hmd
  subst hmc hmd
  have hmm : m = m' := List.inj_on_of_nodup_map h.names_nodup hm hm' hcd
  rw [hmm]

end Creates

/-! ### Compilations that end well -/

namespace Run

variable {σ : Type} [Store σ]

lemma addRelationships_append (subsystem : String) (xs ys : List Relationship) (run : Run σ) :
    addRelationships subsystem (xs ++ ys) run =
      addRelationships subsystem xs run >>= addRelationships subsystem ys := by
  induction xs generalizing run with
  | nil => rfl
  | cons x rest ih =>
    rw [List.cons_append, addRelationships, addRelationships]
    cases run.build.addRelationship x with
    | error e => rfl
    | ok result => exact ih _

lemma constrainAll_append (ss ts : List Subsystem) (run : Run σ) :
    constrainAll (ss ++ ts) run = constrainAll ss run >>= constrainAll ts := by
  induction ss generalizing run with
  | nil => rfl
  | cons s rest ih =>
    rw [List.cons_append, constrainAll, constrainAll]
    cases addRelationships s.name s.relationships run with
    | error stop => rfl
    | ok mid => exact ih mid

/-- What is left to do after a relationship is again to go through subsystems, the first of them
shortened. -/
lemma constrainAll_around {before after : List Subsystem} {s : Subsystem} {x : Relationship}
    {xs ys : List Relationship} {run run' run'' : Run σ} {b : Build σ}
    {outcome : RelationshipOutcome} (hxs : s.relationships = xs ++ x :: ys)
    (hrun' : constrainAll before run = .ok run')
    (hrun'' : addRelationships s.name xs run' = .ok run'')
    (hx : run''.build.addRelationship x = .ok (b, outcome)) :
    constrainAll (before ++ s :: after) run =
      constrainAll ({ s with relationships := ys } :: after)
        ⟨b, noteRelationship s.name x outcome run''.report⟩ := by
  rw [constrainAll_append, hrun', ok_bind, constrainAll, hxs, addRelationships_append, hrun'',
    ok_bind, addRelationships, hx]
  rfl

end Run

/-- The store at the end, be it a good end or not. -/
def lastStore {σ : Type} : Except (Stopped σ) σ → σ
  | .ok store => store
  | .error stop => stop.store

/-- The store that a compilation leaves, whether it ends well or stops. -/
def storeAfter {σ : Type} [Store σ] (types : TypeDictionary) (store : σ) (ss : List Subsystem) :
    σ :=
  lastStore ((compile types store ss).map (·.store))

/-- A catalog keeps its relations with their columns, whatever is asked of it. -/
lemma Plan.columns?_of_execute (steps : List Plan.Step) {c : Catalog} {n : String}
    {columns : List String} (h : c.view.columns? n = some columns) :
    (lastStore (execute steps c)).view.columns? n = some columns := by
  have hkeeps : ∀ x ∈ steps, ∀ s s' : Catalog, s.view.columns? n = some columns →
      carryOut x s = .ok s' → s'.view.columns? n = some columns := by
    intro x _ s s' hs hx
    obtain ⟨q, -, hcreate⟩ := carryOut_eq_ok_iff.1 hx
    obtain ⟨hcheck, rfl⟩ := Catalog.create_eq_ok_iff.1 hcreate
    cases q with
    | constraint k => exact hs
    | relation r =>
      obtain ⟨hnew, -⟩ := View.checkRelation_eq_ok_iff.1 hcheck
      exact Catalog.columns?_add_relation (contains_eq_false_iff.1 hnew) hs
  obtain ⟨hok, herror⟩ :=
    execute_keeps (P := fun s : Catalog => s.view.columns? n = some columns) h hkeeps
  cases hsteps : execute steps c with
  | ok c' => exact hok c' hsteps
  | error stop => exact (herror stop hsteps).1

namespace Creates

variable {types : TypeDictionary} {start : Catalog} {ss : List Subsystem} {x : Relationship}
  {k : Constraint}

/-- Some catalog along the way accepts the constraint, and from there on the compilation carries
out other steps. -/
lemma exists_create (h : Creates types start ss x k) : ∃ c c' steps,
    Store.create c (.constraint k) = .ok c' ∧
    storeAfter types start ss = lastStore (Plan.execute steps c') := by
  have hk := h.constraint?_eq
  obtain ⟨b, b', kind, hcomes, hx, -⟩ := h
  obtain ⟨k', hk', -, hcreate⟩ := Build.addRelationship_created hx
  obtain rfl : k' = k := Option.some.inj (hk'.symm.trans hk)
  have hknown : b'.isKnown = Plan.declares ss :=
    (Build.isKnown_congr (Build.addRelationship_keeps hx).1).trans hcomes.isKnown_eq
  obtain ⟨before, s, after, xs, ys, run, run', run'', rfl, hxs, hrun, hrun', hrun'', rfl⟩ := hcomes
  have hlast : (compile types start (before ++ s :: after)).map (·.store) =
      (Run.constrainAll (before ++ s :: after) run).map (·.build.store) := by
    rw [compile, hrun, ok_bind]
    cases Run.constrainAll (before ++ s :: after) run <;> rfl
  refine ⟨_, b'.store, Plan.constraintSteps (before ++ s :: after)
    (({ s with relationships := ys } :: after).flatMap (·.relationships)), hcreate, ?_⟩
  rw [storeAfter, hlast, Run.constrainAll_around hxs hrun' hrun'' hx,
    Run.constrainAll_store _ hknown]

/-- The attributes of a constraint that has been created are matched one to one. -/
lemma balanced (h : Creates types start ss x k) : k.Balanced := by
  obtain ⟨c, c', steps, hcreate, -⟩ := h.exists_create
  exact (View.check_constraint_eq_ok_iff.1 (Catalog.create_eq_ok_iff.1 hcreate).1).2.2

/-- What a constraint names that has been created is there, also if the compilation stops later. -/
lemma supportedBy_storeAfter (h : Creates types start ss x k) :
    k.SupportedBy (storeAfter types start ss).view.columns? := by
  obtain ⟨c, c', steps, hcreate, hlast⟩ := h.exists_create
  obtain ⟨hcheck, rfl⟩ := Catalog.create_eq_ok_iff.1 hcreate
  intro m hm
  obtain ⟨columns, hcolumns, hmem⟩ := (View.check_constraint_eq_ok_iff.1 hcheck).2.1 m hm
  rw [hlast]
  exact ⟨columns, Plan.columns?_of_execute steps hcolumns, hmem⟩

end Creates

/-- A compilation that ends well creates the constraints of all relationships that are due. -/
theorem creates_of_compile {types : TypeDictionary} {start : Catalog} {ss : List Subsystem}
    {done : Compilation Catalog} (h : compile types start ss = .ok done) {s : Subsystem}
    (hs : s ∈ ss) {x : Relationship} (hx : x ∈ s.relationships) {k : Constraint}
    (hk : x.constraint? = some k) (hdue : Plan.isDue ss x = true) : Creates types start ss x k := by
  obtain ⟨before, after, rfl⟩ := List.append_of_mem hs
  obtain ⟨xs, ys, hxs⟩ := List.append_of_mem hx
  rw [compile] at h
  obtain ⟨run, hrun, h⟩ := bind_eq_ok_iff.1 h
  obtain ⟨last, hlast, -⟩ := bind_eq_ok_iff.1 h
  -- the run is followed to the place of `x`
  rw [Run.constrainAll_append] at hlast
  obtain ⟨run', hrun', hlast⟩ := bind_eq_ok_iff.1 hlast
  rw [Run.constrainAll, hxs, Run.addRelationships_append] at hlast
  obtain ⟨mid, hmid, -⟩ := bind_eq_ok_iff.1 hlast
  obtain ⟨run'', hrun'', hmid⟩ := bind_eq_ok_iff.1 hmid
  have hcomes : ComesTo types start (before ++ s :: after) x run''.build :=
    ⟨before, s, after, xs, ys, run, run', run'', rfl, hxs, hrun, hrun', hrun'', rfl⟩
  rw [Run.addRelationships, Build.addRelationship_of_due hcomes.isKnown_eq hk hdue] at hmid
  cases hstep : Plan.carryOut (.ok (.constraint k)) run''.build.store with
  | error e => simp [hstep] at hmid
  | ok store =>
    obtain ⟨q, hq, hcreate⟩ := Plan.carryOut_eq_ok_iff.1 hstep
    obtain rfl := Except.ok.inj hq
    refine ⟨run''.build, { run''.build with store }, k.kind, hcomes, ?_,
      Plan.history_of_create hcreate⟩
    rw [Build.addRelationship_of_due hcomes.isKnown_eq hk hdue, hstep]
    rfl

end ClassSchema
