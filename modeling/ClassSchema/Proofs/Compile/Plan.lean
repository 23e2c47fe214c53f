import ClassSchema.Compile.Run
import ClassSchema.Proofs.Compile.Class
import ClassSchema.Proofs.Compile.Relationship
import ClassSchema.Proofs.Population
import ClassSchema.Proofs.Store.Integrity

/-
# The plan of a compilation

What a compilation asks of its store can be listed without running it.  First comes, for each
class that is not imported, the request for its relation; then, for each relationship all of whose
classes are declared somewhere, the request for its constraint.  `plan` is this list, and
`Plan.execute` carries it out up to the first step that fails.

A compilation does just that (`compile_follows_plan`).  The point of the proof is that the classes
known when the relationships are looked at are those that the subsystems declare, wherever they
stand (`Run.isKnown_of_materializeAll`): while relations are created the build learns one class
after the other, but nothing asks for a constraint before all are there.
-/

namespace ClassSchema

open Model Schema OrderedMap Outcome

/-- The classes of a domain that get relations: those that are not imported. -/
def ownClasses (domain : String) (cs : List Model.Class) : List (String × Model.Class) :=
  (cs.filter fun c => !c.isImported).map (domain, ·)

/-- The classes that get relations, in order, each with the domain of its subsystem. -/
def materialized (ss : List Subsystem) : List (String × Model.Class) :=
  ss.flatMap fun s => ownClasses s.domain s.classes

lemma ownClasses_cons_of_imported {c : Model.Class} (h : c.isImported = true) (domain : String)
    (cs : List Model.Class) : ownClasses domain (c :: cs) = ownClasses domain cs := by
  rw [ownClasses, List.filter_cons_of_neg (by simp [h]), ← ownClasses]

lemma ownClasses_cons_of_own {c : Model.Class} (h : c.isImported = false) (domain : String)
    (cs : List Model.Class) :
    ownClasses domain (c :: cs) = (domain, c) :: ownClasses domain cs := by
  rw [ownClasses, List.filter_cons_of_pos (by simp [h]), List.map_cons, ← ownClasses]

lemma materialized_cons (s : Subsystem) (ss : List Subsystem) :
    materialized (s :: ss) = ownClasses s.domain s.classes ++ materialized ss :=
  List.flatMap_cons

lemma mem_materialized {ss : List Subsystem} {m : String × Model.Class} :
    m ∈ materialized ss ↔
      ∃ s ∈ ss, ∃ c ∈ s.classes, c.isImported = false ∧ m = (s.domain, c) := by
  simp only [materialized, ownClasses, List.mem_flatMap, List.mem_map, List.mem_filter,
    Bool.not_eq_true']
  constructor
  · rintro ⟨s, hs, c, ⟨hc, hown⟩, rfl⟩
    exact ⟨s, hs, c, hc, hown, rfl⟩
  · rintro ⟨s, hs, c, hc, hown, rfl⟩
    exact ⟨s, hs, c, ⟨hc, hown⟩, rfl⟩

namespace Plan

/-- A step of a plan: a request, or the reason why there is none to make. -/
abbrev Step := Except BuildError Request

/-! ### Relations -/

/-- The relation of a class: a column for each attribute, and for each group that some attribute
takes part in the names of the attributes that do. -/
def relation (types : TypeDictionary) (c : Model.Class) : Relation where
  name := unspaced c.name
  attributes := c.attributes.filterMap (column? types)
  identifiers := .ofList <|
    (c.attributes.flatMap (·.groups)).map fun g => (g, groupMembers c.attributes g)

/-- The step for a class: the first attribute without a known type keeps it from being made. -/
def classStep (types : TypeDictionary) (c : Model.Class) : Step :=
  match untyped? types c.attributes with
  | some a => .error (.unknownType ⟨c.name, a.name, a.typeName⟩)
  | none => .ok (.relation (relation types c))

/-- The steps for some classes. -/
def classSteps (types : TypeDictionary) (ms : List (String × Model.Class)) : List Step :=
  ms.map fun m => classStep types m.2

/-! ### Constraints -/

/-- Whether one of the subsystems has a class of this name that is its own. -/
def declares (ss : List Subsystem) (className : String) : Bool :=
  (materialized ss).any fun m => m.2.name == className

/-- Whether a relationship becomes a constraint: all classes that it involves are declared. -/
def isDue (ss : List Subsystem) : Relationship → Bool
  | .association r => declares ss r.ref1.source.className && declares ss r.ref1.target.className
  | .associative r =>
    declares ss r.associationClass && declares ss r.ref1.target.className &&
      declares ss r.ref2.target.className
  | .generalization r => declares ss r.superclass && r.subclasses.all (declares ss)
  | .ordinal _ => false

/-- The steps for some relationships, if `ss` are all subsystems. -/
def constraintSteps (ss : List Subsystem) (xs : List Relationship) : List Step :=
  (xs.filter (isDue ss)).filterMap fun x => x.constraint?.map fun k => .ok (.constraint k)

section

variable {ss : List Subsystem} {x : Relationship} {k : Constraint}

lemma constraintSteps_append (ss : List Subsystem) (xs ys : List Relationship) :
    constraintSteps ss (xs ++ ys) = constraintSteps ss xs ++ constraintSteps ss ys := by
  simp only [constraintSteps, List.filter_append, List.filterMap_append]

lemma constraintSteps_cons_of_due (hk : x.constraint? = some k) (hdue : isDue ss x = true)
    (rest : List Relationship) :
    constraintSteps ss (x :: rest) = .ok (.constraint k) :: constraintSteps ss rest := by
  simp [constraintSteps, hk, hdue]

lemma constraintSteps_cons_of_not_due (h : x.constraint? = none ∨ isDue ss x = false)
    (rest : List Relationship) :
    constraintSteps ss (x :: rest) = constraintSteps ss rest := by
  rcases h with hk | hdue
  · cases hdue : isDue ss x <;> simp [constraintSteps, hk, hdue]
  · simp [constraintSteps, hdue]

/-- What is declared depends on the classes only, and so does what is due. -/
lemma declares_congr {ts : List Subsystem} (h : materialized ts = materialized ss) :
    declares ts = declares ss := by
  funext n
  rw [declares, h, declares]

lemma isDue_congr {ts : List Subsystem} (h : declares ts = declares ss) : isDue ts = isDue ss := by
  funext x
  cases x <;> simp only [isDue, h]

lemma constraintSteps_congr {ts : List Subsystem} (h : declares ts = declares ss) :
    constraintSteps ts = constraintSteps ss := by
  funext xs
  rw [constraintSteps, isDue_congr h, constraintSteps]

end

end Plan

/-- All steps of a compilation: those for the classes of all subsystems, then those for their
relationships. -/
def plan (types : TypeDictionary) (ss : List Subsystem) : List Plan.Step :=
  Plan.classSteps types (materialized ss) ++
    Plan.constraintSteps ss (ss.flatMap (·.relationships))

namespace Plan

/-! ### Carrying out -/

section

variable {σ : Type} [Store σ]

/-- Carries out one step. -/
def carryOut (x : Step) (s : σ) : Except BuildError σ := do
  let q ← x
  (Store.create s q).mapError .rejected

/-- Carries out steps up to the first that fails. -/
def execute : List Step → σ → Except (Stopped σ) σ
  | [], s => .ok s
  | x :: rest, s =>
    match carryOut x s with
    | .error e => .error ⟨.build e, s⟩
    | .ok s' => execute rest s'

lemma execute_append (xs ys : List Step) (s : σ) :
    execute (xs ++ ys) s = execute xs s >>= execute ys := by
  induction xs generalizing s with
  | nil => rfl
  | cons x rest ih =>
    rw [List.cons_append, execute, execute]
    cases carryOut x s with
    | error e => rfl
    | ok s' => exact ih s'

lemma carryOut_eq_ok_iff {x : Step} {s s' : σ} :
    carryOut x s = .ok s' ↔ ∃ q, x = .ok q ∧ Store.create s q = .ok s' := by
  rw [carryOut, bind_eq_ok_iff]
  refine exists_congr fun q => and_congr_right fun _ => ?_
  cases Store.create s q <;> simp

/-- Steps succeed when the first is a request that the store accepts and the others succeed
after it. -/
lemma execute_cons_eq_ok_iff {x : Step} {rest : List Step} {s s' : σ} :
    execute (x :: rest) s = .ok s' ↔
      ∃ q mid, x = .ok q ∧ Store.create s q = .ok mid ∧ execute rest mid = .ok s' := by
  rw [execute]
  constructor
  · intro h
    cases hx : carryOut x s with
    | error e => simp [hx] at h
    | ok mid =>
      obtain ⟨q, hq, hcreate⟩ := carryOut_eq_ok_iff.1 hx
      exact ⟨q, mid, hq, hcreate, by simpa [hx] using h⟩
  · rintro ⟨q, mid, hq, hcreate, hrest⟩
    simpa [carryOut_eq_ok_iff.2 ⟨q, hq, hcreate⟩] using hrest

/-- When carrying out steps stops, the steps before the one that fails have been carried out. -/
lemma exists_of_execute_error {xs : List Step} {s : σ} {stop : Stopped σ}
    (h : execute xs s = .error stop) : ∃ before x rest e, xs = before ++ x :: rest ∧
      execute before s = .ok stop.store ∧ carryOut x stop.store = .error e ∧
      stop.error = .build e := by
  induction xs generalizing s with
  | nil => cases h
  | cons x rest ih =>
    rw [execute] at h
    cases hx : carryOut x s with
    | error e =>
      rw [hx] at h
      obtain rfl := Except.error.inj h
      exact ⟨[], x, rest, e, rfl, rfl, hx, rfl⟩
    | ok mid =>
      rw [hx] at h
      obtain ⟨before, y, later, e, rfl, hbefore, hy, he⟩ := ih h
      refine ⟨x :: before, y, later, e, rfl, ?_, hy, he⟩
      rw [execute, hx]
      exact hbefore

/-- What every step preserves holds when all have succeeded, and it holds where one fails. -/
lemma execute_keeps {P : σ → Prop} {xs : List Step} {s : σ} (hs : P s)
    (hstep : ∀ x ∈ xs, ∀ s s', P s → carryOut x s = .ok s' → P s') :
    (∀ s', execute xs s = .ok s' → P s') ∧
      ∀ stop, execute xs s = .error stop →
        P stop.store ∧ ∃ x ∈ xs, ∃ e, carryOut x stop.store = .error e ∧ stop.error = .build e := by
  induction xs generalizing s with
  | nil =>
    refine ⟨fun s' h => ?_, fun stop h => ?_⟩
    · obtain rfl := Except.ok.inj h
      exact hs
    · cases h
  | cons x rest ih =>
    rw [List.forall_mem_cons] at hstep
    rw [execute]
    cases hx : carryOut x s with
    | error e =>
      refine ⟨fun s' h => ?_, fun stop h => ?_⟩
      · cases h
      · obtain rfl := Except.error.inj h
        exact ⟨hs, x, List.mem_cons_self, e, hx, rfl⟩
    | ok mid =>
      obtain ⟨hok, herror⟩ := ih (hstep.1 s mid hs hx) hstep.2
      refine ⟨hok, fun stop h => ?_⟩
      obtain ⟨hstop, y, hy, hfails⟩ := herror stop h
      exact ⟨hstop, y, List.mem_cons_of_mem _ hy, hfails⟩

end

/-! ### The steps for classes are those of the compilation -/

lemma identifiersOf_eq (as : List Model.Attribute) :
    identifiersOf as = .ofList ((as.flatMap (·.groups)).map fun g => (g, groupMembers as g)) :=
  ext_get? fun g => by rw [get?_identifiersOf, get?_ofList_map_pair]

lemma relationOf_eq_of_typed {types : TypeDictionary} {c : Model.Class}
    (h : untyped? types c.attributes = none) : relationOf types c = .ok (relation types c) := by
  rw [relationOf_eq_ok_iff, relation, identifiersOf_eq]
  exact ⟨h, rfl⟩

end Plan

namespace Build

open Plan

variable {σ : Type} [Store σ] {types : TypeDictionary}

lemma addClass_of_imported {b : Build σ} {domain : String} {c : Model.Class}
    (h : c.isImported = true) : b.addClass types domain c = .ok (b, .imported) := by
  rw [addClass, if_pos h]

/-- A class that is not imported is one step of the plan. -/
lemma addClass_eq {b : Build σ} {domain : String} {c : Model.Class} (h : c.isImported = false) :
    b.addClass types domain c = (carryOut (classStep types c) b.store).map fun store =>
      ({ store
         known := b.known.insert c.name ()
         population := b.population.addClass c domain },
        .materialized (unspaced c.name)) := by
  rw [addClass, if_neg (by simp [h]), carryOut, classStep]
  cases hu : untyped? types c.attributes with
  | some a => rw [relationOf_eq_error_iff.2 ⟨a, hu, rfl⟩]; rfl
  | none =>
    rw [relationOf_eq_of_typed hu]
    dsimp only
    rw [ok_bind]
    cases Store.create b.store (.relation (relation types c)) with
    | error e => rfl
    | ok store => rfl

end Build

namespace Run

open Plan

variable {σ : Type} [Store σ] {types : TypeDictionary}

lemma addClasses_store (domain : String) (cs : List Model.Class) (run : Run σ) :
    (addClasses types domain cs run).map (·.build.store) =
      execute (classSteps types (ownClasses domain cs)) run.build.store := by
  induction cs generalizing run with
  | nil => rfl
  | cons c rest ih =>
    rw [addClasses]
    cases hc : c.isImported with
    | true =>
      rw [Build.addClass_of_imported hc, ownClasses_cons_of_imported hc]
      exact ih ⟨run.build, noteClass c .imported run.report⟩
    | false =>
      rw [Build.addClass_eq hc, ownClasses_cons_of_own hc, classSteps, List.map_cons, execute]
      cases carryOut (classStep types c) run.build.store with
      | error e => rfl
      | ok store => exact ih _

lemma materializeAll_store (types : TypeDictionary) (ss : List Subsystem) (run : Run σ) :
    (materializeAll types ss run).map (·.build.store) =
      execute (classSteps types (materialized ss)) run.build.store := by
  induction ss generalizing run with
  | nil => rfl
  | cons s rest ih =>
    rw [materializeAll, materialize, materialized_cons, classSteps, List.map_append,
      execute_append, ← classSteps, ← classSteps, ← addClasses_store]
    cases addClasses types s.domain s.classes run with
    | error stop => rfl
    | ok run' => exact ih _

end Run

/-! ### What is known and recorded after the classes -/

namespace Run

open Plan

variable {σ : Type} [Store σ] {types : TypeDictionary} {run run' : Run σ}

/-- Classes that get relations become known and are recorded. -/
lemma known_of_addClasses {domain : String} {cs : List Model.Class}
    (h : addClasses types domain cs run = .ok run') :
    (∀ n, run'.build.isKnown n =
      (run.build.isKnown n || (ownClasses domain cs).any fun m => m.2.name == n)) ∧
      run'.build.population = run.build.population.addAll (ownClasses domain cs) := by
  induction cs generalizing run with
  | nil =>
    obtain rfl := Except.ok.inj h
    exact ⟨fun n => (Bool.or_false _).symm, rfl⟩
  | cons c rest ih =>
    rw [addClasses] at h
    cases hc : c.isImported with
    | true =>
      rw [Build.addClass_of_imported hc] at h
      have hrest := ih h
      rw [ownClasses_cons_of_imported hc]
      exact hrest
    | false =>
      rw [Build.addClass_eq hc] at h
      cases hstep : carryOut (classStep types c) run.build.store with
      | error e => simp [hstep] at h
      | ok store =>
        rw [hstep] at h
        obtain ⟨hknown, hpopulation⟩ := ih h
        rw [ownClasses_cons_of_own hc]
        refine ⟨fun n => ?_, hpopulation⟩
        rw [hknown, List.any_cons, Bool.eq_iff_iff]
        simp only [Build.isKnown, Bool.or_eq_true, contains_insert_iff, beq_iff_eq]
        rw [or_comm (a := n = c.name), or_assoc, eq_comm (a := n)]

lemma known_of_materializeAll {ss : List Subsystem} (h : materializeAll types ss run = .ok run') :
    (∀ n, run'.build.isKnown n = (run.build.isKnown n || declares ss n)) ∧
      run'.build.population = run.build.population.addAll (materialized ss) := by
  induction ss generalizing run with
  | nil =>
    obtain rfl := Except.ok.inj h
    exact ⟨fun n => (Bool.or_false _).symm, rfl⟩
  | cons s rest ih =>
    rw [materializeAll, materialize] at h
    obtain ⟨mid', hmid, hrest⟩ := bind_eq_ok_iff.1 h
    obtain ⟨mid, hs, hmid⟩ := bind_eq_ok_iff.1 hmid
    obtain rfl := Except.ok.inj hmid
    obtain ⟨hknown, hpopulation⟩ := ih hrest
    obtain ⟨hknown', hpopulation'⟩ := known_of_addClasses hs
    rw [materialized_cons, Population.addAll_append, ← hpopulation']
    refine ⟨fun n => ?_, hpopulation⟩
    rw [hknown, declares, declares, materialized_cons, List.any_append, ← Bool.or_assoc,
      ← hknown']

/-- Once all classes have been gone through, those are known that the subsystems declare. -/
theorem isKnown_of_materializeAll {ss : List Subsystem} {store : σ}
    (h : materializeAll types ss (.start store) = .ok run') (n : String) :
    run'.build.isKnown n = declares ss n :=
  (known_of_materializeAll h).1 n

end Run

/-! ### The steps for relationships are those of the compilation -/

namespace Plan

/-- Whether a relationship is due is whether the classes that it requires are declared. -/
lemma isDue_eq_all {x : Relationship} {k : Constraint} (hk : x.constraint? = some k)
    (ss : List Subsystem) : isDue ss x = x.requiredClasses.all (declares ss) := by
  cases x with
  | association r => simp [isDue, Relationship.requiredClasses]
  | associative r => simp [isDue, Relationship.requiredClasses, Bool.and_assoc]
  | generalization r => simp [isDue, Relationship.requiredClasses]
  | ordinal r => simp [Relationship.constraint?] at hk

end Plan

namespace Build

open Plan

variable {σ : Type} {b : Build σ} {ss : List Subsystem}

lemma firstMissing?_eq_none_iff {classes : List String} :
    b.firstMissing? classes = none ↔ classes.all b.isKnown = true := by
  simp [firstMissing?]

lemma isKnown_congr {b' : Build σ} (h : b'.known = b.known) : b'.isKnown = b.isKnown := by
  funext n
  rw [isKnown, h, isKnown]

variable [Store σ] {x : Relationship} {k : Constraint}

/-- A relationship for which a class is missing is deferred. -/
lemma addRelationship_of_missing {n : String} (hk : x.constraint? = some k)
    (h : b.firstMissing? x.requiredClasses = some n) :
    b.addRelationship x = .ok (b, .deferred n) := by
  rw [addRelationship, h, hk]

/-- A relationship for which no class is missing asks for its constraint. -/
lemma addRelationship_of_known (hk : x.constraint? = some k)
    (h : b.firstMissing? x.requiredClasses = none) :
    b.addRelationship x = (carryOut (.ok (.constraint k)) b.store).map fun store =>
      ({ b with store }, .created k.kind) := by
  rw [addRelationship, h, hk, carryOut]
  dsimp only
  rw [ok_bind]
  cases Store.create b.store (.constraint k) with
  | error e => rfl
  | ok store => rfl

/-- A relationship that is due is one step of the plan. -/
lemma addRelationship_of_due (hb : b.isKnown = declares ss) (hk : x.constraint? = some k)
    (hdue : isDue ss x = true) :
    b.addRelationship x = (carryOut (.ok (.constraint k)) b.store).map fun store =>
      ({ b with store }, .created k.kind) := by
  refine addRelationship_of_known hk ?_
  rw [firstMissing?_eq_none_iff, hb, ← isDue_eq_all hk, hdue]

/-- A relationship that is not due leaves the build as it is. -/
lemma addRelationship_of_not_due (hb : b.isKnown = declares ss)
    (h : x.constraint? = none ∨ isDue ss x = false) :
    ∃ outcome, b.addRelationship x = .ok (b, outcome) := by
  cases hk : x.constraint? with
  | none =>
    rw [addRelationship, hk]
    exact ⟨_, rfl⟩
  | some k =>
    have hdue : isDue ss x = false := by simpa [hk] using h
    cases hmissing : b.firstMissing? x.requiredClasses with
    | some missing => exact ⟨_, addRelationship_of_missing hk hmissing⟩
    | none =>
      -- no class is missing, so the relationship would be due
      rw [firstMissing?_eq_none_iff, hb, ← isDue_eq_all hk, hdue] at hmissing
      cases hmissing

/-- A relationship adds to the store and to nothing else. -/
lemma addRelationship_keeps {b' : Build σ} {outcome : RelationshipOutcome}
    (h : b.addRelationship x = .ok (b', outcome)) :
    b'.known = b.known ∧ b'.population = b.population := by
  rw [addRelationship] at h
  split at h
  · cases h
    exact ⟨rfl, rfl⟩
  · cases h
    exact ⟨rfl, rfl⟩
  · split at h
    · cases h
    · cases h
      exact ⟨rfl, rfl⟩

end Build

namespace Run

open Plan

variable {σ : Type} [Store σ] {ss : List Subsystem} {run run' : Run σ}

lemma addRelationships_keeps {subsystem : String} {xs : List Relationship}
    (h : addRelationships subsystem xs run = .ok run') :
    run'.build.known = run.build.known ∧ run'.build.population = run.build.population := by
  induction xs generalizing run with
  | nil =>
    obtain rfl := Except.ok.inj h
    exact ⟨rfl, rfl⟩
  | cons x rest ih =>
    rw [addRelationships] at h
    cases hx : run.build.addRelationship x with
    | error e => simp [hx] at h
    | ok result =>
      rw [hx] at h
      obtain ⟨hknown, hpopulation⟩ := ih h
      obtain ⟨hknown', hpopulation'⟩ := Build.addRelationship_keeps hx
      exact ⟨hknown.trans hknown', hpopulation.trans hpopulation'⟩

lemma constrainAll_keeps {xs : List Subsystem} (h : constrainAll xs run = .ok run') :
    run'.build.known = run.build.known ∧ run'.build.population = run.build.population := by
  induction xs generalizing run with
  | nil =>
    obtain rfl := Except.ok.inj h
    exact ⟨rfl, rfl⟩
  | cons s rest ih =>
    rw [constrainAll] at h
    obtain ⟨mid, hs, hrest⟩ := bind_eq_ok_iff.1 h
    obtain ⟨hknown, hpopulation⟩ := ih hrest
    obtain ⟨hknown', hpopulation'⟩ := addRelationships_keeps hs
    exact ⟨hknown.trans hknown', hpopulation.trans hpopulation'⟩

lemma addRelationships_store (subsystem : String) (xs : List Relationship)
    (hrun : run.build.isKnown = declares ss) :
    (addRelationships subsystem xs run).map (·.build.store) =
      execute (constraintSteps ss xs) run.build.store := by
  induction xs generalizing run with
  | nil => rfl
  | cons x rest ih =>
    rw [addRelationships]
    -- an ordering and a relationship that is not due are no steps
    by_cases h : x.constraint? = none ∨ isDue ss x = false
    · obtain ⟨outcome, hx⟩ := Build.addRelationship_of_not_due hrun h
      rw [hx, constraintSteps_cons_of_not_due h]
      exact ih hrun
    · obtain ⟨hne, hdue⟩ := not_or.1 h
      obtain ⟨k, hk⟩ := Option.ne_none_iff_exists'.1 hne
      rw [Bool.not_eq_false] at hdue
      rw [Build.addRelationship_of_due hrun hk hdue, constraintSteps_cons_of_due hk hdue, execute]
      cases carryOut (.ok (.constraint k)) run.build.store with
      | error e => rfl
      | ok store => exact ih hrun

lemma constrainAll_store (xs : List Subsystem) (hrun : run.build.isKnown = declares ss) :
    (constrainAll xs run).map (·.build.store) =
      execute (constraintSteps ss (xs.flatMap (·.relationships))) run.build.store := by
  induction xs generalizing run with
  | nil => rfl
  | cons s rest ih =>
    rw [constrainAll, List.flatMap_cons, constraintSteps_append, execute_append,
      ← addRelationships_store s.name _ hrun]
    cases hs : addRelationships s.name s.relationships run with
    | error stop => rfl
    | ok mid =>
      exact ih ((Build.isKnown_congr (addRelationships_keeps hs).1).trans hrun)

end Run

/-! ### The whole compilation -/

section

open Plan

variable {σ : Type} [Store σ]

/-- A compilation into any store leaves what carrying out the plan leaves, and stops where and
why that stops. -/
lemma compile_store (types : TypeDictionary) (store : σ) (ss : List Subsystem) :
    (compile types store ss).map (·.store) = execute (plan types ss) store := by
  have hfirst : (Run.materializeAll types ss (.start store)).map (·.build.store) =
      execute (classSteps types (materialized ss)) store :=
    Run.materializeAll_store types ss (.start store)
  rw [compile, plan, execute_append, ← hfirst]
  cases h : Run.materializeAll types ss (.start store) with
  | error stop => rfl
  | ok run =>
    -- from here on the build knows what is declared, and the constraints add nothing to that
    have hrun : run.build.isKnown = declares ss := funext (Run.isKnown_of_materializeAll h)
    rw [ok_bind, map_ok, ok_bind, ← Run.constrainAll_store ss hrun]
    cases Run.constrainAll ss run with
    | error stop => rfl
    | ok run' => rfl

lemma execute_of_compile {types : TypeDictionary} {store : σ} {ss : List Subsystem}
    {done : Compilation σ} (h : compile types store ss = .ok done) :
    execute (plan types ss) store = .ok done.store := by
  rw [← compile_store, h, map_ok]

/-- A compilation stops where and why carrying out its plan does. -/
lemma compile_of_execute_error {types : TypeDictionary} {store : σ} {ss : List Subsystem}
    {stop : Stopped σ} (h : execute (plan types ss) store = .error stop) :
    compile types store ss = .error stop := by
  have hplan := (compile_store types store ss).trans h
  cases hcompile : compile types store ss with
  | ok done =>
    rw [hcompile] at hplan
    cases hplan
  | error stop' =>
    rw [hcompile, map_error, Except.error.injEq] at hplan
    rw [hplan]

end

/-! ### The history of a compilation -/

namespace Plan

variable {c c' : Catalog} {xs : List Step}

lemma history_of_create {q : Request} (h : Store.create c q = .ok c') :
    c'.history = c.history ++ [q] := by
  obtain ⟨-, rfl⟩ := Catalog.create_eq_ok_iff.1 h
  exact Catalog.history_add q

/-- When all steps succeed they are requests, and these are what the history has grown by. -/
lemma history_of_execute_ok (h : execute xs c = .ok c') :
    ∃ qs, xs = qs.map .ok ∧ c'.history = c.history ++ qs := by
  induction xs generalizing c with
  | nil =>
    obtain rfl := Except.ok.inj h
    exact ⟨[], rfl, (List.append_nil _).symm⟩
  | cons x rest ih =>
    obtain ⟨q, mid, rfl, hq, hrest⟩ := execute_cons_eq_ok_iff.1 h
    obtain ⟨qs, rfl, hhistory⟩ := ih hrest
    refine ⟨q :: qs, rfl, ?_⟩
    rw [hhistory, history_of_create hq, List.append_assoc, List.singleton_append]

/-- When a step fails the history has grown by the steps before it, and the step fails for the
reason that is given. -/
lemma history_of_execute_error {stop : Stopped Catalog} (h : execute xs c = .error stop) :
    ∃ qs x rest e, xs = qs.map .ok ++ x :: rest ∧ stop.store.history = c.history ++ qs ∧
      carryOut x stop.store = .error e ∧ stop.error = .build e := by
  obtain ⟨before, x, rest, e, rfl, hbefore, hx, he⟩ := exists_of_execute_error h
  obtain ⟨qs, rfl, hhistory⟩ := history_of_execute_ok hbefore
  exact ⟨qs, x, rest, e, rfl, hhistory, hx, he⟩

end Plan

/-- **The plan of a compilation.**  Whatever a catalog holds and whatever the subsystems are, a
compilation carries out the plan.  If it ends well, the plan consists of requests, and the history
has grown by just these; else it has grown by the requests before the first step that fails.  The
constraints that the plan asks for are those that the relationships state. -/
theorem compile_follows_plan (types : TypeDictionary) (start : Catalog) (ss : List Subsystem) :
    (compile types start ss).map (·.store) = Plan.execute (plan types ss) start ∧
    (∀ done, compile types start ss = .ok done →
      ∃ qs, plan types ss = qs.map .ok ∧ done.store.history = start.history ++ qs) ∧
    (∀ stop, compile types start ss = .error stop →
      ∃ qs x rest e, plan types ss = qs.map .ok ++ x :: rest ∧
        stop.store.history = start.history ++ qs ∧
        Plan.carryOut x stop.store = .error e ∧ stop.error = .build e) ∧
    ∀ x k, x.constraint? = some k ↔ Plan.States x k := by
  have hplan := compile_store types start ss
  refine ⟨hplan, fun done h => ?_, fun stop h => ?_, fun x k => Plan.constraint?_eq_some_iff⟩
  · rw [h] at hplan
    exact Plan.history_of_execute_ok hplan.symm
  · rw [h] at hplan
    exact Plan.history_of_execute_error hplan.symm

/-- A subsystem with a class of its own and one that is imported. -/
def hangar : Subsystem where
  name := "Hangar"
  domain := "Airport"
  classes :=
    [⟨"Aircraft Type", none,
      [⟨"Type name", some "name", [⟨1, false⟩, ⟨1, true⟩]⟩,
        ⟨"Maker", some "name", [⟨2, false⟩]⟩,
        ⟨"Model number", some "name", [⟨2, false⟩]⟩]⟩,
      ⟨"Pilot", some "Crew", []⟩]
  relationships := []

/-- A subsystem with an association to a class of another one, an association to a class that
there is not, and an ordering. -/
def crew : Subsystem where
  name := "Crew"
  domain := "Crew"
  classes :=
    [⟨"Pilot", none, [⟨"Licence", some "name", [⟨1, false⟩]⟩, ⟨"Rated on", some "name", []⟩]⟩]
  relationships :=
    [.association ⟨"R1", ⟨⟨"Pilot", .zeroOneOrMany, none⟩, ⟨"Aircraft Type", .exactlyOne, none⟩⟩,
        ⟨⟨"Pilot", ["Rated on"]⟩, ⟨"Aircraft Type", ["Type name"]⟩⟩⟩,
      .association ⟨"R2", ⟨⟨"Pilot", .zeroOrOne, none⟩, ⟨"Gate", .exactlyOne, none⟩⟩,
        ⟨⟨"Pilot", ["Licence"]⟩, ⟨"Gate", ["Number"]⟩⟩⟩,
      .ordinal ⟨"R3", some "Pilot"⟩]

/-- The plan for the two: the association of the first leads to a class of the second. -/
theorem compile_follows_plan_airport :
    ∃ done, compile ⟨.ofList [("name", .string)]⟩ Catalog.empty [crew, hangar] = .ok done ∧
      done.store.history =
        [.relation ⟨"Pilot", [⟨"Licence", .string⟩, ⟨"Rated_on", .string⟩],
            .ofList [(1, ["Licence"])]⟩,
          .relation ⟨"Aircraft_Type",
            [⟨"Type_name", .string⟩, ⟨"Maker", .string⟩, ⟨"Model_number", .string⟩],
            .ofList [(1, ["Type_name"]), (2, ["Maker", "Model_number"])]⟩,
          .constraint (.association ⟨"R1", ⟨"Pilot", ["Rated_on"], .zeroOneOrMany⟩,
            ⟨"Aircraft_Type", ["Type_name"], .exactlyOne⟩⟩)] := by
  obtain ⟨hplan, hok, -, -⟩ :=
    compile_follows_plan ⟨.ofList [("name", .string)]⟩ Catalog.empty [crew, hangar]
  cases h : compile ⟨.ofList [("name", .string)]⟩ Catalog.empty [crew, hangar] with
  | error stop =>
    have hexecute : (Plan.execute (plan ⟨.ofList [("name", .string)]⟩ [crew, hangar])
        Catalog.empty).toBool = true := by decide +kernel
    rw [← hplan, h] at hexecute
    cases hexecute
  | ok done =>
    obtain ⟨qs, hqs, hhistory⟩ := hok done h
    refine ⟨done, rfl, ?_⟩
    rw [hhistory]
    refine List.map_injective_iff.2 (fun _ _ => Except.ok.inj) (hqs.symm.trans ?_)
    decide +kernel

end ClassSchema
