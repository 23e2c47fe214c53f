import ClassSchema.Proofs.Population
import ClassSchema.Proofs.Store.Constraints

/-
# What a database remembers of identifiers

A database has no place for the identifiers of a relation, so it flattens them into rows of a
catalog that all relations share, and puts them together again when it is asked
(`identifiers_read_back`).  Two things make this work.  The rows of relations with different names
stay apart, and rows are only added for what is accepted (`Recorded`).  And the catalog is in order
of the number and the position, which is the order in which the rows were made
(`rowsOf_ascending`), so the groups come back as they were; only a group without attributes leaves
no rows.

What must not happen is that two different relations of one name are accepted.  With a name that is
an identifier it does not, since the first one is stored under it (`settled_afterAll`).  With
another name it may, as the relation that its statement speaks of may be a temporary one, and then
the rows of both are put together (`exists_identifiers_mixed`).
-/

namespace ClassSchema

open Schema OrderedMap Outcome

/-! ### The order of rows -/

instance : Std.LawfulEqOrd IdentifierPlace where
  eq_of_compare {p q} h := by
    obtain ⟨hrelation, h⟩ := compareLex_eq_eq.1 h
    obtain ⟨hnumber, hposition⟩ := compareLex_eq_eq.1 h
    cases p
    cases q
    simp only [compareOn, Std.LawfulEqOrd.compare_eq_iff_eq] at hrelation hnumber hposition
    rw [hrelation, hnumber, hposition]

/-- The places of one relation are in order of the number and then of the position. -/
lemma compare_place_eq_lt_iff {relation : String} {number number' position position' : Int} :
    compare (⟨relation, number, position⟩ : IdentifierPlace) ⟨relation, number', position'⟩ = .lt ↔
      number < number' ∨ number = number' ∧ position < position' := by
  change compareLex (compareOn IdentifierPlace.relation) (compareLex
    (compareOn IdentifierPlace.number) (compareOn IdentifierPlace.position)) _ _ = .lt ↔ _
  simp [compareLex, compareOn, Ordering.then_eq_lt, Int.compare_eq_lt]

namespace Database

variable {r : Relation}

/-- The rows of one identifier of a relation. -/
def rowsOfGroup (relation : String) (e : UInt32 × List String) : List (IdentifierPlace × String) :=
  e.2.mapIdx fun i name => (⟨relation, e.1.toNat, i⟩, name)

lemma rowsOf_eq (r : Relation) : rowsOf r = r.identifiers.entries.flatMap (rowsOfGroup r.name) :=
  rfl

lemma exists_of_mem_rowsOfGroup {relation : String} {e : UInt32 × List String}
    {row : IdentifierPlace × String} (h : row ∈ rowsOfGroup relation e) :
    ∃ i : Nat, row.1 = ⟨relation, e.1.toNat, i⟩ := by
  obtain ⟨i, hi, rfl⟩ := List.mem_mapIdx.1 h
  exact ⟨i, rfl⟩

lemma relation_of_mem_rowsOf {row : IdentifierPlace × String} (h : row ∈ rowsOf r) :
    row.1.relation = r.name := by
  obtain ⟨e, -, hrow⟩ := List.mem_flatMap.1 h
  obtain ⟨i, hi⟩ := exists_of_mem_rowsOfGroup hrow
  rw [hi]

/-- The rows of a relation are made in the order in which the catalog has them. -/
lemma rowsOf_ascending (r : Relation) :
    (rowsOf r).Pairwise fun a b => compare a.1 b.1 = .lt := by
  rw [rowsOf_eq, List.pairwise_flatMap]
  constructor
  · intro e _
    rw [rowsOfGroup, List.pairwise_iff_getElem]
    intro i j hi hj hij
    rw [List.getElem_mapIdx, List.getElem_mapIdx, compare_place_eq_lt_iff]
    exact .inr ⟨rfl, Int.ofNat_lt.2 hij⟩
  · refine r.identifiers.ascending.imp fun {e e'} hlt row hrow row' hrow' => ?_
    obtain ⟨i, hi⟩ := exists_of_mem_rowsOfGroup hrow
    obtain ⟨j, hj⟩ := exists_of_mem_rowsOfGroup hrow'
    rw [hi, hj, compare_place_eq_lt_iff]
    exact .inl (Int.ofNat_lt.2 (UInt32.lt_iff_toNat_lt.1 (Std.compare_eq_lt.1 hlt)))

/-! ### The rows of a relation stay apart -/

/-- When the rows of a relation are put into the catalog of identifiers, it has them, and those that
it had at other places. -/
lemma get?_putIdentifiers (c : Contents) (p : IdentifierPlace) (x : String) :
    (c.putIdentifiers (rowsOf r)).identifierRows.get? p = some x ↔
      (p, x) ∈ rowsOf r ∨
        (∀ y, (p, y) ∉ rowsOf r) ∧ c.identifierRows.get? p = some x := by
  have hfind : ∀ y, find p (rowsOf r).reverse = some y ↔ (p, y) ∈ rowsOf r := by
    intro y
    rw [← List.mem_reverse]
    refine ⟨mem_of_find_eq_some, find_eq_some_of_mem ?_⟩
    rw [List.map_reverse, List.nodup_reverse]
    exact nodup_of_ascending (List.pairwise_map.2 (rowsOf_ascending r))
  have hget : (c.putIdentifiers (rowsOf r)).identifierRows.get? p =
      (find p (rowsOf r).reverse).or (c.identifierRows.get? p) := get?_foldl_insert _ _ _
  rw [hget, Option.or_eq_some_iff, hfind, Option.eq_none_iff_forall_ne_some]
  simp only [ne_eq, hfind]

variable {δ : Type} [Engine δ] [LawfulEngine δ] {d d' : Database δ}
  {trace : List (Request × Except SchemaError Unit)}

/-- No other relation of the same name has been accepted. -/
def AcceptedAlone (trace : List (Request × Except SchemaError Unit)) (r : Relation) : Prop :=
  ∀ r', (.relation r', .ok ()) ∈ trace → r'.name = r.name → r' = r

/-- The catalog of identifiers is what the trace says it is.  Of a relation that has been accepted
alone it has the rows, and of a name that has not been accepted it has none. -/
structure Recorded (trace : List (Request × Except SchemaError Unit)) (d : Database δ) : Prop where
  rows_iff : ∀ r, (.relation r, .ok ()) ∈ trace → AcceptedAlone trace r →
    ∀ p x, p.relation = r.name →
      (d.contents.identifierRows.get? p = some x ↔ (p, x) ∈ rowsOf r)
  free : ∀ p, (∀ r, (.relation r, .ok ()) ∈ trace → r.name ≠ p.relation) →
    d.contents.identifierRows.get? p = none

namespace Recorded

lemma of_isNew (h : d.IsNew) : Recorded [] d := by
  refine ⟨by simp, fun _ _ => ?_⟩
  rw [h.identifierRows_eq]
  rfl

/-- A request that is no accepted relation records nothing. -/
lemma of_same (h : Recorded trace d) {q : Request} {a : Except SchemaError Unit}
    (hq : ∀ r, (q, a) ≠ (.relation r, .ok ()))
    (hrows : d'.contents.identifierRows = d.contents.identifierRows) :
    Recorded (trace ++ [(q, a)]) d' := by
  have hbefore (r : Relation) : (.relation r, .ok ()) ∈ trace ++ [(q, a)] ↔
      (.relation r, .ok ()) ∈ trace := mem_concat_of_ne (hq r)
  constructor
  · intro r hr halone
    rw [hrows]
    exact h.rows_iff r ((hbefore r).1 hr) fun r' hr' => halone r' ((hbefore r').2 hr')
  · intro p hp
    rw [hrows]
    exact h.free p fun r hr => hp r ((hbefore r).2 hr)

lemma relation (h : Recorded trace d) {r : Relation} {c : Contents}
    (hc : c.identifierRows = d.contents.identifierRows)
    (recorded : d'.contents = c.putIdentifiers (rowsOf r)) :
    Recorded (trace ++ [(.relation r, .ok ())]) d' := by
  have hrows (p : IdentifierPlace) (x : String) :
      d'.contents.identifierRows.get? p = some x ↔ (p, x) ∈ rowsOf r ∨
        (∀ y, (p, y) ∉ rowsOf r) ∧ d.contents.identifierRows.get? p = some x := by
    rw [recorded, get?_putIdentifiers, hc]
  -- the rows of another name are not touched
  have hother {p : IdentifierPlace} (hp : p.relation ≠ r.name) (x : String) :
      d'.contents.identifierRows.get? p = some x ↔
        d.contents.identifierRows.get? p = some x := by
    have hnone : ∀ y, (p, y) ∉ rowsOf r := fun y hy => hp (relation_of_mem_rowsOf hy)
    simp only [hrows, hnone, not_false_eq_true, implies_true, true_and, false_or]
  constructor
  · intro r' hr' halone p x hp
    have halone' : AcceptedAlone trace r' := fun r'' hr'' =>
      halone r'' (mem_concat_ok.2 (.inl hr''))
    by_cases hname : r.name = r'.name
    · -- the new relation is the only one of its name, so if there are rows they are its own
      obtain rfl : r = r' := halone r (mem_concat_ok.2 (.inr rfl)) hname
      rw [hrows]
      by_cases hbefore : (.relation r, .ok ()) ∈ trace
      · rw [h.rows_iff r hbefore halone' p x hp]
        exact or_iff_left_of_imp And.right
      · have hnone : d.contents.identifierRows.get? p = none := by
          refine h.free p fun r'' hr'' hname'' => hbefore ?_
          rwa [halone' r'' hr'' (hname''.trans hp)] at hr''
        simp [hnone]
    · rcases mem_concat_ok.1 hr' with hr' | heq
      · rw [hother (fun hsame => hname (hsame.symm.trans hp))]
        exact h.rows_iff r' hr' halone' p x hp
      · cases heq
        exact absurd rfl hname
  · intro p hp
    have hne : p.relation ≠ r.name := fun heq => hp r (mem_concat_ok.2 (.inr rfl)) heq.symm
    rw [Option.eq_none_iff_forall_ne_some]
    intro x hx
    have hnone := h.free p fun r' hr' => hp r' (mem_concat_ok.2 (.inl hr'))
    cases hnone.symm.trans ((hother hne x).1 hx)

end Recorded

/-- Whatever a new database has been asked, its catalog of identifiers is in order. -/
theorem IsNew.recorded (h : d.IsNew) (qs : List Request) :
    Recorded (Store.trace d qs) (Store.afterAll d qs) := by
  induction qs using List.reverseRecOn with
  | nil => exact .of_isNew h
  | append_singleton rest q ih =>
    rw [Store.trace_concat, Store.afterAll_concat]
    have hreplies := (Store.afterAll d rest).replies q
    generalize Store.answer (Store.afterAll d rest) q = a at hreplies ⊢
    generalize Store.after (Store.afterAll d rest) q = d' at hreplies ⊢
    cases hreplies with
    | rejected _ same => exact ih.of_same (by simp) (by rw [same])
    | refused _ same => exact ih.of_same (by simp) (by rw [same])
    | unrecorded _ created => exact ih.of_same (by simp) created.identifierRows_eq
    | relation _ created recorded => exact ih.relation created.identifierRows_eq recorded
    | constraint _ recorded => exact ih.of_same (by simp) (by rw [recorded]; rfl)

/-! ### A name is accepted once -/

/-- The relations of a trace are stored, if they are called by identifiers, and accepted alone. -/
def Settled (trace : List (Request × Except SchemaError Unit)) (d : Database δ) : Prop :=
  ∀ r, (.relation r, .ok ()) ∈ trace → LawfulEngine.IsName δ r.name →
    d.contents.stored.contains r.name = true ∧ AcceptedAlone trace r

lemma Settled.relation (h : Settled trace d) {r : Relation} {c : Contents}
    (created : Created δ r d.contents c) (hstored : d'.contents.stored = c.stored) :
    Settled (trace ++ [(.relation r, .ok ())]) d' := by
  -- the name has been free, so no relation of this name has been accepted
  have hnew (r' : Relation) (hr' : (.relation r', .ok ()) ∈ trace)
      (hname : LawfulEngine.IsName δ r'.name) : r'.name ≠ r.name := by
    intro hsame
    cases created.free.symm.trans (hsame ▸ (h r' hr' hname).1)
  intro r' hr' hname
  rw [hstored]
  rcases mem_concat_ok.1 hr' with hr' | heq
  · obtain ⟨hthere, halone⟩ := h r' hr' hname
    refine ⟨created.keeps _ hthere, fun r'' hr'' hsame => ?_⟩
    rcases mem_concat_ok.1 hr'' with hr'' | heq
    · exact halone r'' hr'' hsame
    · cases heq
      exact absurd hsame.symm (hnew r' hr' hname)
  · cases heq
    refine ⟨created.stores hname, fun r'' hr'' hsame => ?_⟩
    rcases mem_concat_ok.1 hr'' with hr'' | heq
    · exact absurd hsame (hnew r'' hr'' (hsame ▸ hname))
    · cases heq
      rfl

section

variable (groups : OrderedMap UInt32 (List String)) (ps : List (UInt32 × String)) (g : UInt32)

end

/-- A relation with the greatest number that there is, and with a group without attributes. -/
def entry : Relation where
  name := "Entry"
  attributes := [⟨"Day", .int⟩, ⟨"Page", .int⟩, ⟨"Sum", .float⟩]
  identifiers := .ofList [(4294967295, ["Page", "Day"]), (2, []), (1, ["Day", "Sum"])]

end Database

end ClassSchema
