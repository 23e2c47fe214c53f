import ClassSchema.Compile.Build
import ClassSchema.Compile.Report
import ClassSchema.Model.Subsystem

/-
# Compilations

A compilation goes through the subsystems twice.  First every class that is not imported gets its
relation; then every relationship becomes a constraint, if all classes that it involves have got a
relation, wherever they are declared.  The first step that fails ends the compilation, and the
store keeps what was created before it.
-/

namespace ClassSchema

open Model

/-- A compilation under way. -/
structure Run (σ : Type) where
  build : Build σ
  report : Report

/-- Why a compilation ends early: a subsystem cannot be read, or a step fails. -/
inductive CompileError where
  | model (e : ModelError)
  | build (e : BuildError)
deriving DecidableEq, Repr

/-- A compilation that has ended early: why, and what the store holds. -/
structure Stopped (σ : Type) where
  error : CompileError
  store : σ

/-- A compilation that has ended well. -/
structure Compilation (σ : Type) where
  report : Report
  population : Population
  store : σ

namespace Run

variable {σ : Type} [Store σ]

/-- A compilation into `store` that has not done anything yet. -/
def start (store : σ) : Run σ := ⟨{ store }, { store := Store.title store }⟩

/-- Notes what became of a class. -/
def noteClass (c : Model.Class) (outcome : ClassOutcome) (r : Report) : Report :=
  match outcome with
  | .materialized relation => { r with relations := r.relations ++ [relation] }
  | .imported => { r with skippedImports := r.skippedImports ++ [c.name] }

/-- Notes what became of a relationship. -/
def noteRelationship (subsystem : String) (x : Relationship) (outcome : RelationshipOutcome)
    (r : Report) : Report :=
  match outcome with
  | .created kind => { r with constraints := r.constraints ++ [⟨x.number, kind⟩] }
  | .deferred missing => { r with deferred := r.deferred ++ [⟨x.number, subsystem, missing⟩] }
  | .ordinal => { r with ordinal := r.ordinal ++ [x.number] }

/-- Creates the relations of some classes of a domain. -/
def addClasses (types : TypeDictionary) (domain : String) :
    List Model.Class → Run σ → Except (Stopped σ) (Run σ)
  | [], run => .ok run
  | c :: rest, run =>
    match run.build.addClass types domain c with
    | .error e => .error ⟨.build e, run.build.store⟩
    | .ok (build, outcome) =>
      addClasses types domain rest ⟨build, noteClass c outcome run.report⟩

/-- Creates the relations of a subsystem. -/
def materialize (types : TypeDictionary) (s : Subsystem) (run : Run σ) :
    Except (Stopped σ) (Run σ) := do
  let run ← addClasses types s.domain s.classes run
  .ok { run with report := { run.report with subsystems := run.report.subsystems ++ [s.name] } }

/-- Creates the relations of some subsystems, one after the other. -/
def materializeAll (types : TypeDictionary) :
    List Subsystem → Run σ → Except (Stopped σ) (Run σ)
  | [], run => .ok run
  | s :: rest, run => do
    let run ← materialize types s run
    materializeAll types rest run

/-- Creates the constraints of some relationships of a subsystem. -/
def addRelationships (subsystem : String) :
    List Relationship → Run σ → Except (Stopped σ) (Run σ)
  | [], run => .ok run
  | x :: rest, run =>
    match run.build.addRelationship x with
    | .error e => .error ⟨.build e, run.build.store⟩
    | .ok (build, outcome) =>
      addRelationships subsystem rest ⟨build, noteRelationship subsystem x outcome run.report⟩

/-- Creates the constraints of some subsystems, one after the other. -/
def constrainAll : List Subsystem → Run σ → Except (Stopped σ) (Run σ)
  | [], run => .ok run
  | s :: rest, run => do
    let run ← addRelationships s.name s.relationships run
    constrainAll rest run

/-- The result of a compilation that has gone through all its steps. -/
def finish (run : Run σ) : Compilation σ :=
  ⟨{ run.report with population := run.build.population.counts }, run.build.population,
    run.build.store⟩

end Run

/-- Compiles subsystems into a store, in the order given. -/
def compile {σ : Type} [Store σ] (types : TypeDictionary) (store : σ)
    (subsystems : List Subsystem) : Except (Stopped σ) (Compilation σ) := do
  let run ← Run.materializeAll types subsystems (.start store)
  let run ← Run.constrainAll subsystems run
  .ok run.finish

end ClassSchema
