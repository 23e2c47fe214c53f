import ClassSchema.Proofs.Json.Decoder
import ClassSchema.Schema.Document

/-
# Constraints survive their definitions

A constraint is stored as the text of its definition.  Whatever strings it is made of, reading
that text gives the constraint again (`document_definition_eq`).
-/

namespace ClassSchema.Schema

open Json Json.Decoder OrderedMap

lemma conveys_multiplicityName (m : Multiplicity) :
    Conveys multiplicityName 1 (.string m.name) m := by
  refine conveys_variant ?_
  cases m <;> rfl

lemma conveys_readAssociationEnd (e : AssociationEnd) :
    Conveys readAssociationEnd 3 e.toValue e := by
  have hrelation : Conveys text 2 (.string e.relation) e.relation :=
    (conveys_text e.relation).mono (by decide)
  have hmultiplicity : Conveys multiplicityName 2 (.string e.multiplicity.name) e.multiplicity :=
    (conveys_multiplicityName e.multiplicity).mono (by decide)
  exact (conveysMembers_record (by decide) (.cons hrelation (.cons (conveys_strings e.attributes)
    (.cons hmultiplicity .nil))) _ _).conveys (by decide)

lemma conveys_readCorrelationEnd (e : CorrelationEnd) :
    Conveys readCorrelationEnd 3 e.toValue e := by
  have hmultiplicity : Conveys multiplicityName 2 (.string e.multiplicity.name) e.multiplicity :=
    (conveys_multiplicityName e.multiplicity).mono (by decide)
  have hrelation : Conveys text 2 (.string e.relation) e.relation :=
    (conveys_text e.relation).mono (by decide)
  exact (conveysMembers_record (by decide) (.cons (conveys_strings e.attributes)
    (.cons hmultiplicity (.cons hrelation (.cons (conveys_strings e.referenced) .nil)))) _ _).conveys
    (by decide)

lemma conveys_subclasses (m : OrderedMap String (List String)) :
    Conveys (mapOf Key.value (list text)) 3
      (.object (m.entries.map fun e => (e.1, Value.strings e.2))) m := by
  have hentries : List.Forall₂ (fun (member : String × Value) (e : String × List String) =>
      member.1 = e.1 ∧ Conveys (list text) 2 member.2 e.2)
      (m.entries.map fun e => (e.1, Value.strings e.2)) m.entries := by
    rw [List.forall₂_map_left_iff]
    exact List.forall₂_same.2 fun e _ => ⟨rfl, conveys_strings e.2⟩
  have h := conveys_mapOf (by decide) hentries
  rwa [ofList_entries] at h

lemma conveysMembers_readAssociation (c : Association) :
    ConveysMembers readAssociation 3 (Constraint.association c).members c := by
  have hname : Conveys text 3 (.string c.name) c.name := (conveys_text c.name).mono (by decide)
  exact conveysMembers_record (by decide) (.cons hname (.cons
    (conveys_readAssociationEnd c.referring) (.cons (conveys_readAssociationEnd c.referenced)
    .nil))) _ _

lemma conveysMembers_readCorrelation (c : Correlation) :
    ConveysMembers readCorrelation 3 (Constraint.correlation c).members c := by
  have hname : Conveys text 3 (.string c.name) c.name := (conveys_text c.name).mono (by decide)
  have hrelation : Conveys text 3 (.string c.relation) c.relation :=
    (conveys_text c.relation).mono (by decide)
  exact conveysMembers_record (by decide) (.cons hname (.cons hrelation (.cons
    (conveys_readCorrelationEnd c.a) (.cons (conveys_readCorrelationEnd c.b) .nil)))) _ _

lemma conveysMembers_readPartition (c : Partition) :
    ConveysMembers readPartition 3 (Constraint.partition c).members c := by
  have hname : Conveys text 3 (.string c.name) c.name := (conveys_text c.name).mono (by decide)
  have hsuperclass : Conveys text 3 (.string c.superclass) c.superclass :=
    (conveys_text c.superclass).mono (by decide)
  have hsuper : Conveys (list text) 3 (Value.strings c.superAttributes) c.superAttributes :=
    (conveys_strings c.superAttributes).mono (by decide)
  exact conveysMembers_record (by decide) (.cons hname (.cons hsuperclass (.cons hsuper
    (.cons (conveys_subclasses c.subclasses) .nil)))) _ _

/-- A constraint is read back from its definition. -/
theorem document_definition_eq (k : Constraint) :
    document readConstraint k.definition = .ok k := by
  cases k with
  | association c =>
    have htag : "kind" ∉ (Constraint.association c).members.map (·.1) := by
      simp [Constraint.members]
    exact document_union_eq (conveysMembers_readAssociation c) (by decide) htag rfl _
  | correlation c =>
    have htag : "kind" ∉ (Constraint.correlation c).members.map (·.1) := by
      simp [Constraint.members]
    exact document_union_eq (conveysMembers_readCorrelation c) (by decide) htag rfl _
  | partition c =>
    have htag : "kind" ∉ (Constraint.partition c).members.map (·.1) := by
      simp [Constraint.members]
    exact document_union_eq (conveysMembers_readPartition c) (by decide) htag rfl _

end ClassSchema.Schema
