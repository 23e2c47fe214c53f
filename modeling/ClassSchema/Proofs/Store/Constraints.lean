import ClassSchema.Proofs.Store.Tables
import Mathlib.Data.List.Induction

/-
# What a database reads back of constraints

A new database is asked whatever there is to ask.  It rejects some requests, scripts for others are
refused, and the rest is accepted.  The definition that stands under a name in its catalog is always
the text of the one constraint that was accepted under that name (`IsNew.defines`), and
that text can be read, so the constraint comes back as it was (`constraints_read_back`).  Names of
relations play no part in this, however strange they are, since the statement for a relation leaves
the rows of the catalogs alone.
-/

namespace ClassSchema.Database

open Schema OrderedMap Outcome Json.Decoder

/-! ### What has been accepted -/

section

variable {trace : List (Request × Except SchemaError Unit)}

lemma mem_concat_ok {q q' : Request} :
    (q', .ok ()) ∈ trace ++ [(q, .ok ())] ↔ (q', .ok ()) ∈ trace ∨ q' = q := by
  simp

/-- What the last request is not has come before it. -/
lemma mem_concat_of_ne {x y : Request × Except SchemaError Unit} (h : y ≠ x) :
    x ∈ trace ++ [y] ↔ x ∈ trace := by
  rw [List.mem_append, List.mem_singleton, or_iff_left h.symm]

end

/-! ### Rows -/

variable {δ : Type} [Engine δ] [LawfulEngine δ] {d d' : Database δ}

/-- The catalog of constraints has the rows of the constraints of a trace, each under its name, and
no others. -/
def Defines (trace : List (Request × Except SchemaError Unit)) (d : Database δ) : Prop :=
  ∀ n row, d.contents.constraintRows.get? n = some row ↔
    ∃ k, (.constraint k, .ok ()) ∈ trace ∧ k.name = n ∧ row = rowOf k

lemma Defines.constraint {trace : List (Request × Except SchemaError Unit)} {k₀ : Constraint}
    (h : Defines trace d) (hnew : d.contents.constraintRows.get? k₀.name = none)
    (recorded : d'.contents = d.contents.putConstraint k₀.name (rowOf k₀)) :
    Defines (trace ++ [(.constraint k₀, .ok ())]) d' := by
  intro n row
  simp only [mem_concat_ok, recorded]
  change (d.contents.constraintRows.insert k₀.name (rowOf k₀)).get? n = some row ↔ _
  by_cases hn : n = k₀.name
  · -- none of the constraints before has this name
    subst hn
    have hnone : ∀ k, (.constraint k, .ok ()) ∈ trace → k.name ≠ k₀.name := by
      intro k hk hname
      cases hnew.symm.trans ((h k₀.name (rowOf k)).2 ⟨k, hk, hname, rfl⟩)
    rw [get?_insert_self, Option.some.injEq]
    constructor
    · rintro rfl
      exact ⟨k₀, .inr rfl, rfl, rfl⟩
    · rintro ⟨k, hk | hk, hname, rfl⟩
      · exact absurd hname (hnone k hk)
      · cases hk
        rfl
  · rw [get?_insert_of_ne _ _ hn, h]
    refine exists_congr fun k => ?_
    constructor
    · rintro ⟨hk, hrest⟩
      exact ⟨.inl hk, hrest⟩
    · rintro ⟨hk | hk, hname, hrow⟩
      · exact ⟨hk, hname, hrow⟩
      · cases hk
        exact absurd hname.symm hn

/-- A request that is not an accepted constraint leaves the catalog of constraints as it is. -/
lemma Defines.of_same {trace : List (Request × Except SchemaError Unit)} {q : Request}
    {a : Except SchemaError Unit} (h : Defines trace d)
    (hq : ∀ k, (q, a) ≠ (.constraint k, .ok ()))
    (same : d'.contents.constraintRows = d.contents.constraintRows) :
    Defines (trace ++ [(q, a)]) d' := by
  intro n row
  rw [same, h n row]
  refine exists_congr fun k => and_congr_left fun _ => ?_
  rw [mem_concat_of_ne (hq k)]

end ClassSchema.Database
