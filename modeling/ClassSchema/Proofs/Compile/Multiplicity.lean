import ClassSchema.Proofs.Compile.Creation

/-
# Multiplicities go with the names of classes

A binary relationship has two sides, and its constraint has two ends.  The first end belongs to the
role class, and it gets the multiplicity of the side that names this class, on whichever side that
is.  So if one side names the role class and the other does not (`Decided`), the sides can be
exchanged in any such relationships, and no compilation tells the difference.  If both name it or
none does, there is no name to go by, and the exchange shows: the two multiplicities of the
requested constraint are exchanged too, and nothing else is (`multiplicity_follows_class`).

Two models that differ in such exchanges differ in no request (`Interchangeable`), and a
compilation sees no more of a relationship than its number, the classes it requires and its
constraint; this is an induction over each loop of the compilation (`compile_congr`).
-/

namespace ClassSchema

open Model Schema Outcome

/-! ### Sides -/

namespace Model.Sides

/-- The two sides in each other's place. -/
def exchange (s : Sides) : Sides := ⟨s.p, s.t⟩

/-- One side names the class and the other does not. -/
def NamesOnce (s : Sides) (className : String) : Prop :=
  Xor (s.t.className = className) (s.p.className = className)

variable {s : Sides} {role : String}

lemma project_of_eq (h : s.t.className = role) :
    s.project role = (s.t.multiplicity, s.p.multiplicity) := if_pos h

lemma project_of_ne (h : s.t.className ≠ role) :
    s.project role = (s.p.multiplicity, s.t.multiplicity) := if_neg h

/-- The multiplicity of the side that names the class comes first. -/
lemma project_of_namesOnce (h : s.NamesOnce role) : ∃ own other,
    (s = ⟨own, other⟩ ∨ s = ⟨other, own⟩) ∧ own.className = role ∧ other.className ≠ role ∧
    s.project role = (own.multiplicity, other.multiplicity) := by
  rcases h with ⟨ht, hp⟩ | ⟨hp, ht⟩
  · exact ⟨s.t, s.p, .inl rfl, ht, hp, project_of_eq ht⟩
  · exact ⟨s.p, s.t, .inr rfl, hp, ht, project_of_ne ht⟩

lemma project_exchange_of_namesOnce (h : s.NamesOnce role) :
    s.exchange.project role = s.project role := by
  rcases h with ⟨ht, hp⟩ | ⟨hp, ht⟩
  · rw [project_of_eq ht]
    exact project_of_ne hp
  · rw [project_of_ne ht]
    exact project_of_eq hp

lemma project_exchange_of_not_namesOnce (h : ¬ s.NamesOnce role) :
    s.exchange.project role = (s.project role).swap := by
  by_cases ht : s.t.className = role
  · have hp : s.p.className = role := by_contra fun hp => h (.inl ⟨ht, hp⟩)
    rw [project_of_eq ht]
    exact project_of_eq hp
  · have hp : s.p.className ≠ role := fun hp => h (.inr ⟨hp, ht⟩)
    rw [project_of_ne ht]
    exact project_of_ne hp

end Model.Sides

/-! ### Constraints -/

namespace Schema.Constraint

/-- The multiplicities of the two ends. -/
def multiplicities? : Constraint → Option (Multiplicity × Multiplicity)
  | .association k => some (k.referring.multiplicity, k.referenced.multiplicity)
  | .correlation k => some (k.a.multiplicity, k.b.multiplicity)
  | .partition _ => none

/-- The same constraint with the multiplicities of the two ends exchanged. -/
def exchange : Constraint → Constraint
  | .association k => .association { k with
      referring := { k.referring with multiplicity := k.referenced.multiplicity }
      referenced := { k.referenced with multiplicity := k.referring.multiplicity } }
  | .correlation k => .correlation { k with
      a := { k.a with multiplicity := k.b.multiplicity }
      b := { k.b with multiplicity := k.a.multiplicity } }
  | .partition k => .partition k

end Schema.Constraint

/-! ### Relationships -/

namespace Model.Relationship

/-- The two sides of a relationship that has them, and its role class: the class at the first end
of the constraint. -/
def binary? : Relationship → Option (Sides × String)
  | .association r => some (r.sides, r.ref1.source.className)
  | .associative r => some (r.sides, r.ref1.target.className)
  | .generalization _ => none
  | .ordinal _ => none

/-- The same relationship with the sides, if it has them, in each other's place. -/
def exchange : Relationship → Relationship
  | .association r => .association { r with sides := r.sides.exchange }
  | .associative r => .associative { r with sides := r.sides.exchange }
  | .generalization r => .generalization r
  | .ordinal r => .ordinal r

/-- The role class is named by one side and not by the other. -/
def Decided (x : Relationship) : Prop :=
  ∃ s role, x.binary? = some (s, role) ∧ s.NamesOnce role

variable {x : Relationship} {k : Constraint}

lemma number_exchange (x : Relationship) : x.exchange.number = x.number := by
  cases x <;> rfl

lemma requiredClasses_exchange (x : Relationship) :
    x.exchange.requiredClasses = x.requiredClasses := by
  cases x <;> rfl

lemma isDue_exchange (ss : List Subsystem) (x : Relationship) :
    Plan.isDue ss x.exchange = Plan.isDue ss x := by
  cases x <;> rfl

/-- The ends of the constraint have the multiplicities of the sides, that of the role class
first. -/
lemma multiplicities?_of_constraint? (hk : x.constraint? = some k) {s : Sides} {role : String}
    (hs : x.binary? = some (s, role)) : k.multiplicities? = some (s.project role) := by
  cases x with
  | association r =>
    obtain ⟨rfl, rfl⟩ := Prod.mk.inj (Option.some.inj hs)
    obtain rfl := Option.some.inj hk
    rfl
  | associative r =>
    obtain ⟨rfl, rfl⟩ := Prod.mk.inj (Option.some.inj hs)
    obtain rfl := Option.some.inj hk
    rfl
  | generalization r => cases hs
  | ordinal r => cases hs

/-- If the sides tell the role class, the exchange does not show. -/
lemma constraint?_exchange_of_decided (h : x.Decided) :
    x.exchange.constraint? = x.constraint? := by
  obtain ⟨s, role, hs, honce⟩ := h
  cases x with
  | association r =>
    obtain ⟨rfl, rfl⟩ := Prod.mk.inj (Option.some.inj hs)
    simp only [exchange, constraint?, Association.constraint,
      Sides.project_exchange_of_namesOnce honce]
  | associative r =>
    obtain ⟨rfl, rfl⟩ := Prod.mk.inj (Option.some.inj hs)
    simp only [exchange, constraint?, Associative.constraint,
      Sides.project_exchange_of_namesOnce honce]
  | generalization r => cases hs
  | ordinal r => cases hs

/-- If the sides do not tell the role class, the exchange shows in the multiplicities. -/
lemma constraint?_exchange_of_not_decided (h : ¬ x.Decided) (hk : x.constraint? = some k) :
    x.exchange.constraint? = some k.exchange := by
  cases x with
  | association r =>
    have hnot : ¬ r.sides.NamesOnce r.ref1.source.className := fun hs => h ⟨_, _, rfl, hs⟩
    obtain rfl := Option.some.inj hk
    simp only [exchange, constraint?, Association.constraint,
      Sides.project_exchange_of_not_namesOnce hnot]
    rfl
  | associative r =>
    have hnot : ¬ r.sides.NamesOnce r.ref1.target.className := fun hs => h ⟨_, _, rfl, hs⟩
    obtain rfl := Option.some.inj hk
    simp only [exchange, constraint?, Associative.constraint,
      Sides.project_exchange_of_not_namesOnce hnot]
    rfl
  | generalization r =>
    obtain rfl := Option.some.inj hk
    rfl
  | ordinal r => cases hk

/-- A relationship with two sides has a constraint. -/
lemma exists_constraint?_of_binary? (h : x.binary?.isSome = true) :
    ∃ k, x.constraint? = some k := by
  cases x with
  | association r => exact ⟨_, rfl⟩
  | associative r => exact ⟨_, rfl⟩
  | generalization r => cases h
  | ordinal r => cases h

end Model.Relationship

/-! ### Models that ask for the same -/

/-- All that a compilation sees of the two relationships is the same. -/
structure Model.Relationship.Interchangeable (x y : Relationship) : Prop where
  number_eq : y.number = x.number
  requiredClasses_eq : y.requiredClasses = x.requiredClasses
  constraint?_eq : y.constraint? = x.constraint?

/-- The two subsystems have the same classes and interchangeable relationships. -/
structure Model.Subsystem.Interchangeable (s t : Subsystem) : Prop where
  name_eq : t.name = s.name
  domain_eq : t.domain = s.domain
  classes_eq : t.classes = s.classes
  relationships :
    List.Forall₂ Relationship.Interchangeable s.relationships t.relationships

lemma Build.addRelationship_congr {σ : Type} [Store σ] {x y : Relationship}
    (h : x.Interchangeable y) (b : Build σ) : b.addRelationship y = b.addRelationship x := by
  rw [addRelationship, addRelationship, h.requiredClasses_eq, h.constraint?_eq]

namespace Run

variable {σ : Type} [Store σ]

lemma addRelationships_congr {xs ys : List Relationship}
    (h : List.Forall₂ Relationship.Interchangeable xs ys) (subsystem : String) (run : Run σ) :
    addRelationships subsystem ys run = addRelationships subsystem xs run := by
  induction h generalizing run with
  | nil => rfl
  | @cons x y xs ys hxy _ ih =>
    -- of the relationship itself a report notes the number only
    have hnote : noteRelationship subsystem y = noteRelationship subsystem x := by
      funext outcome r
      cases outcome <;> simp only [noteRelationship, hxy.number_eq]
    rw [addRelationships, addRelationships, Build.addRelationship_congr hxy, hnote]
    cases run.build.addRelationship x with
    | error e => rfl
    | ok result => exact ih _

variable {ss ts : List Subsystem}

lemma materializeAll_congr (h : List.Forall₂ Subsystem.Interchangeable ss ts)
    (types : TypeDictionary) (run : Run σ) :
    materializeAll types ts run = materializeAll types ss run := by
  induction h generalizing run with
  | nil => rfl
  | @cons s t ss ts hst _ ih =>
    rw [materializeAll, materializeAll, materialize, materialize, hst.name_eq, hst.domain_eq,
      hst.classes_eq]
    exact bind_congr fun run' => ih run'

lemma constrainAll_congr (h : List.Forall₂ Subsystem.Interchangeable ss ts) (run : Run σ) :
    constrainAll ts run = constrainAll ss run := by
  induction h generalizing run with
  | nil => rfl
  | @cons s t ss ts hst _ ih =>
    rw [constrainAll, constrainAll, hst.name_eq, addRelationships_congr hst.relationships]
    exact bind_congr fun run' => ih run'

end Run

/-- Interchangeable models have the same compilation, whether it ends well or not. -/
theorem compile_congr {σ : Type} [Store σ] {ss ts : List Subsystem}
    (h : List.Forall₂ Subsystem.Interchangeable ss ts) (types : TypeDictionary) (store : σ) :
    compile types store ts = compile types store ss := by
  rw [compile, compile, Run.materializeAll_congr h]
  refine bind_congr fun run => ?_
  rw [Run.constrainAll_congr h]

/-! ### Exchanges -/

/-- In the second model some relationships of which the sides tell the role class have their sides
exchanged; all else is the same. -/
def Exchanged (ss ts : List Subsystem) : Prop :=
  List.Forall₂ (fun s t : Subsystem => ∃ ys,
    t = { s with relationships := ys } ∧
    List.Forall₂ (fun x y => y = x ∨ x.Decided ∧ y = x.exchange) s.relationships ys) ss ts

/-- In one place the relationship `x` stands in the first model and its exchange in the second;
all else is the same. -/
def ExchangedAt (x : Relationship) (ss ts : List Subsystem) : Prop :=
  ∃ (before : List Subsystem) (s : Subsystem) (after : List Subsystem) (xs ys : List Relationship),
    ss = before ++ { s with relationships := xs ++ x :: ys } :: after ∧
    ts = before ++ { s with relationships := xs ++ x.exchange :: ys } :: after

lemma Exchanged.interchangeable {ss ts : List Subsystem} (h : Exchanged ss ts) :
    List.Forall₂ Subsystem.Interchangeable ss ts := by
  refine List.Forall₂.imp (fun s t hst => ?_) h
  obtain ⟨ys, rfl, hys⟩ := hst
  refine ⟨rfl, rfl, rfl, hys.imp fun x y hxy => ?_⟩
  rcases hxy with rfl | ⟨hx, rfl⟩
  · exact ⟨rfl, rfl, rfl⟩
  · exact ⟨x.number_exchange, x.requiredClasses_exchange,
      Relationship.constraint?_exchange_of_decided hx⟩

section

variable (before : List Subsystem) (s : Subsystem) (after : List Subsystem)

/-- Other relationships do not change the classes. -/
lemma materialized_around (xs : List Relationship) :
    materialized (before ++ { s with relationships := xs } :: after) =
      materialized (before ++ s :: after) := by
  simp [materialized]

lemma declares_around (xs : List Relationship) :
    Plan.declares (before ++ { s with relationships := xs } :: after) =
      Plan.declares (before ++ s :: after) :=
  Plan.declares_congr (materialized_around before s after xs)

/-- The plan of a model in which one place is open: what stands there adds its own steps. -/
lemma plan_around (types : TypeDictionary) (xs ys : List Relationship) : ∃ early late, ∀ x,
    plan types (before ++ { s with relationships := xs ++ x :: ys } :: after) =
      early ++ (Plan.constraintSteps (before ++ s :: after) [x] ++ late) := by
  have hlist (x : Relationship) :
      (before ++ { s with relationships := xs ++ x :: ys } :: after).flatMap (·.relationships) =
        (before.flatMap (·.relationships) ++ xs) ++
          ([x] ++ (ys ++ after.flatMap (·.relationships))) := by
    simp
  refine ⟨Plan.classSteps types (materialized (before ++ s :: after)) ++
    Plan.constraintSteps (before ++ s :: after) (before.flatMap (·.relationships) ++ xs),
    Plan.constraintSteps (before ++ s :: after) (ys ++ after.flatMap (·.relationships)),
    fun x => ?_⟩
  rw [plan, materialized_around, hlist,
    Plan.constraintSteps_congr (declares_around before s after (xs ++ x :: ys)),
    Plan.constraintSteps_append, Plan.constraintSteps_append _ [x], List.append_assoc]

end

/-- The plans of two models that differ in one exchange differ in one request, in the order of its
two multiplicities; or there is no request. -/
lemma plan_exchangedAt {types : TypeDictionary} {x : Relationship} {ss ts : List Subsystem}
    (h : ExchangedAt x ss ts) (hx : ¬ x.Decided) {k : Constraint} (hk : x.constraint? = some k) :
    (Plan.isDue ss x = false ∧ plan types ts = plan types ss) ∨
    ∃ early late, plan types ss = early ++ .ok (.constraint k) :: late ∧
      plan types ts = early ++ .ok (.constraint k.exchange) :: late := by
  obtain ⟨before, s, after, xs, ys, rfl, rfl⟩ := h
  obtain ⟨early, late, hplan⟩ := plan_around before s after types xs ys
  have hk' := Relationship.constraint?_exchange_of_not_decided hx hk
  have hexchange := Relationship.isDue_exchange (before ++ s :: after) x
  rw [hplan, hplan, Plan.isDue_congr (declares_around before s after _)]
  cases hdue : Plan.isDue (before ++ s :: after) x with
  | false =>
    refine .inl ⟨rfl, ?_⟩
    rw [Plan.constraintSteps_cons_of_not_due (.inr hdue),
      Plan.constraintSteps_cons_of_not_due (.inr (hexchange.trans hdue))]
  | true =>
    refine .inr ⟨early, late, ?_, ?_⟩
    · rw [Plan.constraintSteps_cons_of_due hk hdue]
      rfl
    · rw [Plan.constraintSteps_cons_of_due hk' (hexchange.trans hdue)]
      rfl

/-- **Multiplicities go with the names of classes.**  Exchanging the sides of relationships of which
the sides tell the role class changes nothing in a compilation; a constraint that is created of such
a relationship has the multiplicity of the side that names the role class at its first end, and that
of the other side at its second.  Where the sides do not tell the role class, the exchange changes
the requested constraint, and just in the order of its two multiplicities. -/
theorem multiplicity_follows_class (types : TypeDictionary) (start : Catalog)
    (ss : List Subsystem) :
    (∀ ts, Exchanged ss ts → compile types start ts = compile types start ss) ∧
    (∀ x k s role, Creates types start ss x k → x.binary? = some (s, role) → s.NamesOnce role →
      ∃ own other, (s = ⟨own, other⟩ ∨ s = ⟨other, own⟩) ∧
        own.className = role ∧ other.className ≠ role ∧
        k.multiplicities? = some (own.multiplicity, other.multiplicity)) ∧
    ∀ ts x, ExchangedAt x ss ts → x.binary?.isSome = true → ¬ x.Decided →
      ∃ k, x.constraint? = some k ∧ x.exchange.constraint? = some k.exchange ∧
        ((Plan.isDue ss x = false ∧ plan types ts = plan types ss) ∨
        ∃ early late, plan types ss = early ++ .ok (.constraint k) :: late ∧
          plan types ts = early ++ .ok (.constraint k.exchange) :: late) := by
  refine ⟨fun ts h => compile_congr h.interchangeable types start,
    fun x k s role hcreates hs honce => ?_, fun ts x hat hbinary hx => ?_⟩
  · obtain ⟨own, other, hsides, hown, hother, hproject⟩ := Sides.project_of_namesOnce honce
    refine ⟨own, other, hsides, hown, hother, ?_⟩
    rw [Relationship.multiplicities?_of_constraint? hcreates.constraint?_eq hs, hproject]
  · obtain ⟨k, hk⟩ := Relationship.exists_constraint?_of_binary? hbinary
    exact ⟨k, hk, Relationship.constraint?_exchange_of_not_decided hx hk,
      plan_exchangedAt hat hx hk⟩

/-- A flight school trains pilots, and the first side names the school. -/
def enrolmentSides : Sides :=
  ⟨⟨"Flight School", .exactlyOne, some "trains"⟩, ⟨"Pilot", .zeroOneOrMany, some "attends"⟩⟩

/-- A pilot refers to a flight school. -/
def enrolment : Relationship :=
  .association ⟨"R5", enrolmentSides,
    ⟨⟨"Pilot", ["School name"]⟩, ⟨"Flight School", ["Name"]⟩⟩⟩

/-- A pilot has a mentor, who is a pilot as well. -/
def mentoring : Relationship :=
  .association ⟨"R6",
    ⟨⟨"Pilot", .zeroOrOne, some "mentors"⟩, ⟨"Pilot", .zeroOneOrMany, some "learns from"⟩⟩,
    ⟨⟨"Pilot", ["Mentor licence"]⟩, ⟨"Pilot", ["Licence"]⟩⟩⟩

/-- A subsystem with the classes of the two. -/
def school (relationships : List Relationship) : Subsystem where
  name := "School"
  domain := "Crew"
  classes :=
    [⟨"Pilot", none,
      [⟨"Licence", some "name", [⟨1, false⟩]⟩, ⟨"School name", some "name", []⟩,
        ⟨"Mentor licence", some "name", []⟩]⟩,
      ⟨"Flight School", none, [⟨"Name", some "name", [⟨1, false⟩]⟩]⟩]
  relationships := relationships

/-- The names tell the sides of the enrolment, but not those of the mentoring. -/
theorem multiplicity_follows_class_school :
    compile ⟨.ofList [("name", .string)]⟩ Catalog.empty
        [school [enrolment.exchange, mentoring]] =
      compile ⟨.ofList [("name", .string)]⟩ Catalog.empty [school [enrolment, mentoring]] ∧
    (∃ k, Creates ⟨.ofList [("name", .string)]⟩ Catalog.empty [school [enrolment, mentoring]]
      enrolment k ∧ k.multiplicities? = some (.zeroOneOrMany, .exactlyOne)) ∧
    ∃ k early late, mentoring.constraint? = some k ∧ k.exchange ≠ k ∧
      plan ⟨.ofList [("name", .string)]⟩ [school [enrolment, mentoring]] =
        early ++ .ok (.constraint k) :: late ∧
      plan ⟨.ofList [("name", .string)]⟩ [school [enrolment, mentoring.exchange]] =
        early ++ .ok (.constraint k.exchange) :: late := by
  obtain ⟨hsame, hcreated, hother⟩ := multiplicity_follows_class ⟨.ofList [("name", .string)]⟩
    Catalog.empty [school [enrolment, mentoring]]
  have honce : enrolmentSides.NamesOnce "Pilot" := .inr ⟨rfl, by decide⟩
  refine ⟨?_, ?_, ?_⟩
  · have hdecided : enrolment.Decided := ⟨_, _, rfl, honce⟩
    exact hsame _ (.cons ⟨_, rfl, .cons (.inr ⟨hdecided, rfl⟩) (.cons (.inl rfl) .nil)⟩ .nil)
  · have hok : (compile ⟨.ofList [("name", .string)]⟩ Catalog.empty
        [school [enrolment, mentoring]]).toBool = true := by decide +kernel
    cases h : compile ⟨.ofList [("name", .string)]⟩ Catalog.empty
        [school [enrolment, mentoring]] with
    | error stop => rw [h] at hok; cases hok
    | ok done =>
      obtain ⟨k, hk⟩ := Relationship.exists_constraint?_of_binary? (x := enrolment) rfl
      have hcreates := creates_of_compile h (List.mem_singleton.2 rfl) List.mem_cons_self hk
        (by decide +kernel)
      refine ⟨k, hcreates, ?_⟩
      obtain ⟨own, other, hsides, hown, -, hk⟩ := hcreated _ _ _ _ hcreates rfl honce
      -- the side that names the pilot is the second one
      rcases hsides with hsides | hsides
      · obtain ⟨rfl, rfl⟩ := Sides.mk.inj hsides
        exact absurd hown (by decide)
      · obtain ⟨rfl, rfl⟩ := Sides.mk.inj hsides
        exact hk
  · have hnot : ¬ mentoring.Decided := by
      rintro ⟨s, role, hs, honce⟩
      obtain ⟨rfl, rfl⟩ := Prod.mk.inj (Option.some.inj hs)
      exact honce.elim (fun h => h.2 rfl) fun h => h.2 rfl
    obtain ⟨k, hk, -, ⟨hdue, -⟩ | ⟨early, late, hplans⟩⟩ :=
      hother [school [enrolment, mentoring.exchange]] mentoring
        ⟨[], school [], [], [enrolment], [], rfl, rfl⟩ rfl hnot
    · exact absurd hdue (by decide +kernel)
    · refine ⟨k, early, late, hk, ?_, hplans⟩
      obtain rfl := Option.some.inj hk
      decide +kernel

end ClassSchema
