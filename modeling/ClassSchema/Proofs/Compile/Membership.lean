import ClassSchema.Model.Document
import ClassSchema.Proofs.Compile.Plan

/-
# Memberships are groups

An attribute says of each membership in which group it is, and may say so twice and may mark it as
one of a superkey.  Relations and rows are made of the groups alone: a model in which each
membership is listed once and none is marked (`Subsystem.canonical`) has the same compilation
(`compile_map_canonical`).  So the groups of an attribute can be written again in any of the forms
that a membership has, each once and in the order of first mention, and no compilation tells the
difference (`compile_of_restates`).

The two loops that go through memberships, that of the identifiers and that of the rows, leave out
repetitions on their own; for each there is a lemma that it sees groups only.
-/

namespace ClassSchema

open Model Outcome

/-! ### Canonical models -/

namespace Model

/-- The same attribute with each of its groups listed once and no mark. -/
def Attribute.canonical (a : Attribute) : Attribute :=
  { a with memberships := a.groups.map (⟨·, false⟩) }

def Class.canonical (c : Class) : Class := { c with attributes := c.attributes.map (·.canonical) }

def Subsystem.canonical (s : Subsystem) : Subsystem :=
  { s with classes := s.classes.map (·.canonical) }

lemma Attribute.groups_eq_of_map_group {a b : Attribute}
    (h : b.memberships.map (·.group) = a.groups) : b.groups = a.groups := by
  rw [Attribute.groups, h, eraseDups_eq_self (Population.nodup_groups a)]

@[simp] lemma Attribute.groups_canonical (a : Attribute) : a.canonical.groups = a.groups :=
  groups_eq_of_map_group (by simp [canonical, Function.comp_def])

@[simp] lemma Attribute.name_canonical (a : Attribute) : a.canonical.name = a.name := rfl

@[simp] lemma Attribute.typeName_canonical (a : Attribute) :
    a.canonical.typeName = a.typeName := rfl

end Model

/-! ### What a compilation sees of a membership -/

section

variable {types : TypeDictionary}

lemma columnsOf_map_canonical (className : String) (as : List Model.Attribute) :
    columnsOf types className (as.map (·.canonical)) = columnsOf types className as := by
  induction as with
  | nil => rfl
  | cons a rest ih =>
    rw [List.map_cons, columnsOf, columnsOf, ih, Attribute.typeName_canonical,
      Attribute.name_canonical]

/-- Identifiers are made of groups: which there are, and which attributes have them. -/
lemma identifiersOf_map_canonical (as : List Model.Attribute) :
    identifiersOf (as.map (·.canonical)) = identifiersOf as := by
  have hgroups : (as.map (·.canonical)).flatMap (·.groups) = as.flatMap (·.groups) := by
    simp [List.flatMap_map]
  have hmembers : groupMembers (as.map (·.canonical)) = groupMembers as := by
    funext g
    simp [groupMembers, List.filter_map, Function.comp_def]
  rw [Plan.identifiersOf_eq, Plan.identifiersOf_eq, hgroups, hmembers]

lemma relationOf_canonical (c : Model.Class) :
    relationOf types c.canonical = relationOf types c := by
  simp only [relationOf, Class.canonical, columnsOf_map_canonical, identifiersOf_map_canonical]

/-- Rows are written for groups, too. -/
lemma Population.addAttribute_canonical (p : Population) (c : PopulatedClass)
    (a : Model.Attribute) : p.addAttribute c a.canonical = p.addAttribute c a := by
  simp [addAttribute]

lemma Population.addClass_canonical (p : Population) (c : Model.Class) (domain : String) :
    p.addClass c.canonical domain = p.addClass c domain := by
  simp only [addClass, addAttributes, Class.canonical, List.foldl_map, addAttribute_canonical]

variable {σ : Type} [Store σ]

lemma Build.addClass_canonical (b : Build σ) (domain : String) (c : Model.Class) :
    b.addClass types domain c.canonical = b.addClass types domain c := by
  simp only [addClass, relationOf_canonical, Population.addClass_canonical]
  rfl

end

/-! ### Compilations -/

namespace Run

variable {σ : Type} [Store σ] {types : TypeDictionary}

lemma addClasses_map_canonical (domain : String) (cs : List Model.Class) (run : Run σ) :
    addClasses types domain (cs.map (·.canonical)) run = addClasses types domain cs run := by
  induction cs generalizing run with
  | nil => rfl
  | cons c rest ih =>
    -- of the class itself a report notes the name only
    have hnote : noteClass c.canonical = noteClass c := rfl
    rw [List.map_cons, addClasses, addClasses, Build.addClass_canonical, hnote]
    cases run.build.addClass types domain c with
    | error e => rfl
    | ok result => exact ih _

lemma materializeAll_map_canonical (ss : List Subsystem) (run : Run σ) :
    materializeAll types (ss.map (·.canonical)) run = materializeAll types ss run := by
  induction ss generalizing run with
  | nil => rfl
  | cons s rest ih =>
    have hmaterialize : materialize types s.canonical run = materialize types s run := by
      simp only [materialize, Subsystem.canonical, addClasses_map_canonical]
    rw [List.map_cons, materializeAll, materializeAll, hmaterialize]
    exact bind_congr fun run' => ih run'

lemma constrainAll_map_canonical (ss : List Subsystem) (run : Run σ) :
    constrainAll (ss.map (·.canonical)) run = constrainAll ss run := by
  induction ss generalizing run with
  | nil => rfl
  | cons s rest ih =>
    rw [List.map_cons, constrainAll, constrainAll]
    exact bind_congr fun run' => ih run'

end Run

/-- A model and its canonical form have the same compilation, whether it ends well or not. -/
theorem compile_map_canonical {σ : Type} [Store σ] (types : TypeDictionary) (store : σ)
    (ss : List Subsystem) :
    compile types store (ss.map (·.canonical)) = compile types store ss := by
  rw [compile, compile, Run.materializeAll_map_canonical]
  refine bind_congr fun run => ?_
  rw [Run.constrainAll_map_canonical]

/-! ### Memberships written again -/

namespace Model

/-- The second attribute lists the groups of the first, each once and in the order of first
mention, with any marks. -/
structure Attribute.Restates (a b : Attribute) : Prop where
  name_eq : b.name = a.name
  type_eq : b.type = a.type
  groups_eq : b.memberships.map (·.group) = a.groups

structure Class.Restates (c d : Class) : Prop where
  name_eq : d.name = c.name
  importedFrom_eq : d.importedFrom = c.importedFrom
  attributes : List.Forall₂ Attribute.Restates c.attributes d.attributes

/-- The second subsystem is the first with the memberships of all attributes written again. -/
structure Subsystem.Restates (s t : Subsystem) : Prop where
  name_eq : t.name = s.name
  domain_eq : t.domain = s.domain
  relationships_eq : t.relationships = s.relationships
  classes : List.Forall₂ Class.Restates s.classes t.classes

/-- A value writes a group down, with a mark or without. -/
inductive Membership.Writes (g : UInt32) : Json.Value → Prop
  | number : Writes g (.integer g.toNat)
  | flagged (superkey : Bool) : Writes g (.array [.integer g.toNat, .bool superkey])

lemma Membership.Writes.exists_ofValue? {g : UInt32} {v : Json.Value} (h : Writes g v) :
    ∃ m, ofValue? v = some m ∧ m.group = g := by
  have hrange : (0 : Int) ≤ g.toNat ∧ (g.toNat : Int) < UInt32.size :=
    ⟨Int.natCast_nonneg _, Int.ofNat_lt.2 g.toNat_lt⟩
  have hgroup : UInt32.ofNat (g.toNat : Int).toNat = g := by simp
  cases h with
  | number => exact ⟨⟨g, false⟩, by rw [ofValue?, if_pos hrange, hgroup], rfl⟩
  | flagged superkey => exact ⟨⟨g, superkey⟩, by rw [ofValue?, if_pos hrange, hgroup], rfl⟩

/-- Values that write down the groups of an attribute are read as memberships in these groups. -/
lemma Attribute.exists_restates_of_writes {a : Attribute} {vs : List Json.Value}
    (h : List.Forall₂ Membership.Writes a.groups vs) :
    ∃ ms, vs.map Membership.ofValue? = ms.map some ∧ a.Restates { a with memberships := ms } := by
  have hread : ∃ ms : List Membership,
      vs.map Membership.ofValue? = ms.map some ∧ ms.map (·.group) = a.groups := by
    generalize a.groups = gs at h
    induction h with
    | nil => exact ⟨[], rfl, rfl⟩
    | cons hv _ ih =>
      obtain ⟨m, hm, hgroup⟩ := hv.exists_ofValue?
      obtain ⟨ms, hms, hgroups⟩ := ih
      exact ⟨m :: ms, by simp [hm, hms], by simp [hgroup, hgroups]⟩
  obtain ⟨ms, hms, hgroups⟩ := hread
  exact ⟨ms, hms, rfl, rfl, hgroups⟩

lemma map_eq_map_of_forall₂ {α β : Type} {r : α → α → Prop} (f : α → β)
    (hf : ∀ a b, r a b → f b = f a) {as bs : List α} (h : List.Forall₂ r as bs) :
    bs.map f = as.map f := by
  induction h with
  | nil => rfl
  | cons hab _ ih => rw [List.map_cons, List.map_cons, hf _ _ hab, ih]

lemma Attribute.Restates.canonical_eq {a b : Attribute} (h : a.Restates b) :
    b.canonical = a.canonical := by
  simp only [Attribute.canonical, groups_eq_of_map_group h.groups_eq, h.name_eq, h.type_eq]

lemma Class.Restates.canonical_eq {c d : Class} (h : c.Restates d) :
    d.canonical = c.canonical := by
  simp only [Class.canonical, h.name_eq, h.importedFrom_eq,
    map_eq_map_of_forall₂ Attribute.canonical (fun _ _ => Attribute.Restates.canonical_eq)
      h.attributes]

lemma Subsystem.Restates.canonical_eq {s t : Subsystem} (h : s.Restates t) :
    t.canonical = s.canonical := by
  simp only [Subsystem.canonical, h.name_eq, h.domain_eq, h.relationships_eq,
    map_eq_map_of_forall₂ Class.canonical (fun _ _ => Class.Restates.canonical_eq) h.classes]

end Model

/-- **Membership is by group only.**  When the memberships of all attributes are written again, each
group once, in the order of first mention and with any marks, the compilation stays the same: what
the store holds, the report and the population, or the error.  The values that may stand for the
memberships are group numbers and pairs of a group number and a flag, as one likes. -/
theorem compile_of_restates {σ : Type} [Store σ] (types : TypeDictionary) (start : σ)
    (ss : List Subsystem) :
    (∀ ts, List.Forall₂ Subsystem.Restates ss ts →
      compile types start ts = compile types start ss) ∧
    ∀ (a : Model.Attribute) (vs : List Json.Value), List.Forall₂ Membership.Writes a.groups vs →
      ∃ ms, vs.map Membership.ofValue? = ms.map some ∧
        a.Restates { a with memberships := ms } := by
  refine ⟨fun ts h => ?_, fun a vs => Attribute.exists_restates_of_writes⟩
  have hcanonical : ts.map (·.canonical) = ss.map (·.canonical) :=
    map_eq_map_of_forall₂ Subsystem.canonical (fun _ _ => Subsystem.Restates.canonical_eq) h
  rw [← compile_map_canonical types start ts, hcanonical, compile_map_canonical]

/-- A subsystem with a gate, whose number has these memberships. -/
def concourse (memberships : List Membership) : Subsystem where
  name := "Concourse"
  domain := "Airport"
  classes :=
    [⟨"Gate", none,
      [⟨"Gate number", some "name", memberships⟩, ⟨"Pier", some "name", [⟨2, true⟩]⟩]⟩]
  relationships := []

/-- The second group is listed twice at first, with a mark and without. -/
theorem compile_of_restates_concourse :
    List.Forall₂ Subsystem.Restates [concourse [⟨2, true⟩, ⟨1, false⟩, ⟨2, false⟩]]
        [concourse [⟨2, false⟩, ⟨1, true⟩]] ∧
      compile ⟨.ofList [("name", .string)]⟩ Catalog.empty [concourse [⟨2, false⟩, ⟨1, true⟩]] =
        compile ⟨.ofList [("name", .string)]⟩ Catalog.empty
          [concourse [⟨2, true⟩, ⟨1, false⟩, ⟨2, false⟩]] ∧
      (compile ⟨.ofList [("name", .string)]⟩ Catalog.empty
        [concourse [⟨2, true⟩, ⟨1, false⟩, ⟨2, false⟩]]).toBool = true ∧
      ∃ ms, [.integer 2, .array [.integer 1, .bool true]].map Membership.ofValue? = ms.map some ∧
        Attribute.Restates ⟨"Gate number", some "name", [⟨2, true⟩, ⟨1, false⟩, ⟨2, false⟩]⟩
          ⟨"Gate number", some "name", ms⟩ := by
  obtain ⟨hsame, hread⟩ := compile_of_restates ⟨.ofList [("name", .string)]⟩ Catalog.empty
    [concourse [⟨2, true⟩, ⟨1, false⟩, ⟨2, false⟩]]
  have hnumber : Attribute.Restates
      ⟨"Gate number", some "name", [⟨2, true⟩, ⟨1, false⟩, ⟨2, false⟩]⟩
      ⟨"Gate number", some "name", [⟨2, false⟩, ⟨1, true⟩]⟩ := ⟨rfl, rfl, by decide⟩
  have hpier : Attribute.Restates ⟨"Pier", some "name", [⟨2, true⟩]⟩
      ⟨"Pier", some "name", [⟨2, true⟩]⟩ := ⟨rfl, rfl, by decide⟩
  have hconcourse : List.Forall₂ Subsystem.Restates
      [concourse [⟨2, true⟩, ⟨1, false⟩, ⟨2, false⟩]] [concourse [⟨2, false⟩, ⟨1, true⟩]] :=
    .cons ⟨rfl, rfl, rfl, .cons ⟨rfl, rfl, .cons hnumber (.cons hpier .nil)⟩ .nil⟩ .nil
  refine ⟨hconcourse, hsame _ hconcourse, by decide +kernel, hread _ _ ?_⟩
  have hgroups : (⟨"Gate number", some "name",
      [⟨2, true⟩, ⟨1, false⟩, ⟨2, false⟩]⟩ : Model.Attribute).groups = [2, 1] := by decide
  rw [hgroups]
  exact .cons .number (.cons (.flagged true) .nil)

end ClassSchema
