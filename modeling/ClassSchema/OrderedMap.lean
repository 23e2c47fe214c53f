/-
# Finite maps in key order

A map is the list of its entries in strictly ascending key order, so two maps with the same
entries are the same value.  Groups of identifying attributes, subclasses of a partition and
the tables of a catalog are all such maps.  `get?_insert` describes insertion through look-up,
and `ext_get?` says that look-up determines the map.
-/

namespace ClassSchema

/-- A finite map from `κ` to `α` with its entries in strictly ascending key order. -/
structure OrderedMap (κ α : Type) [Ord κ] where
  /-- The entries, in ascending key order. -/
  entries : List (κ × α)
  /-- Each key is strictly below all later ones. -/
  ascending : entries.Pairwise fun a b => compare a.1 b.1 = .lt

namespace OrderedMap

variable {κ α : Type} [Ord κ]

instance [DecidableEq κ] [DecidableEq α] : DecidableEq (OrderedMap κ α) := fun m n =>
  decidable_of_iff (m.entries = n.entries) <| by
    cases m; cases n; simp

/-- The map without entries. -/
def empty : OrderedMap κ α := ⟨[], .nil⟩

instance : Inhabited (OrderedMap κ α) := ⟨empty⟩

/-- The keys, ascending. -/
def keys (m : OrderedMap κ α) : List κ := m.entries.map (·.1)

/-- The values, in the order of their keys. -/
def values (m : OrderedMap κ α) : List α := m.entries.map (·.2)

def isEmpty (m : OrderedMap κ α) : Bool := m.entries.isEmpty

/-- The value under the first entry of a list that has key `k`. -/
def find (k : κ) : List (κ × α) → Option α
  | [] => none
  | (k', x) :: rest => if compare k k' = .eq then some x else find k rest

/-- The value stored under `k`. -/
def get? (m : OrderedMap κ α) (k : κ) : Option α := find k m.entries

def contains (m : OrderedMap κ α) (k : κ) : Bool := (m.get? k).isSome

/-- Places `(k, x)` in an ascending list, in the stead of an entry with the same key. -/
def place (k : κ) (x : α) : List (κ × α) → List (κ × α)
  | [] => [(k, x)]
  | (k', x') :: rest =>
    match compare k k' with
    | .lt => (k, x) :: (k', x') :: rest
    | .eq => (k, x) :: rest
    | .gt => (k', x') :: place k x rest

theorem mem_place {k : κ} {x : α} {e : κ × α} {es : List (κ × α)} (h : e ∈ place k x es) :
    e = (k, x) ∨ e ∈ es := by
  induction es with
  | nil => simpa [place] using h
  | cons e' rest ih =>
    unfold place at h
    split at h <;> grind

theorem ascending_place [Std.TransOrd κ] (k : κ) (x : α) {es : List (κ × α)}
    (h : es.Pairwise fun a b => compare a.1 b.1 = .lt) :
    (place k x es).Pairwise fun a b => compare a.1 b.1 = .lt := by
  induction es with
  | nil => simp [place]
  | cons e rest ih =>
    obtain ⟨k', x'⟩ := e
    rw [List.pairwise_cons] at h
    unfold place
    split
    next hk =>
      refine List.pairwise_cons.2 ⟨fun b hb => ?_, List.pairwise_cons.2 h⟩
      rcases List.mem_cons.1 hb with rfl | hb
      · exact hk
      · exact Std.TransCmp.lt_trans hk (h.1 b hb)
    next hk =>
      refine List.pairwise_cons.2 ⟨fun b hb => ?_, h.2⟩
      rw [Std.TransCmp.congr_left hk]
      exact h.1 b hb
    next hk =>
      refine List.pairwise_cons.2 ⟨fun b hb => ?_, ih h.2⟩
      rcases mem_place hb with rfl | hb
      · exact Std.OrientedCmp.lt_of_gt hk
      · exact h.1 b hb

section

variable [Std.TransOrd κ]

/-- The map with `x` stored under `k`, in the stead of what was there. -/
def insert (m : OrderedMap κ α) (k : κ) (x : α) : OrderedMap κ α :=
  ⟨place k x m.entries, ascending_place k x m.ascending⟩

/-- The map of a list of pairs; of two pairs with one key the later one counts. -/
def ofList (es : List (κ × α)) : OrderedMap κ α :=
  es.foldl (fun m e => m.insert e.1 e.2) empty

end

@[simp] theorem get?_empty (k : κ) : (empty : OrderedMap κ α).get? k = none := rfl

theorem find_place [Std.TransOrd κ] (k k' : κ) (x : α) (es : List (κ × α)) :
    find k' (place k x es) = if compare k' k = .eq then some x else find k' es := by
  induction es with
  | nil => rfl
  | cons e rest ih =>
    obtain ⟨k₀, x₀⟩ := e
    unfold place
    split
    next => rfl
    next hk =>
      have : compare k' k = compare k' k₀ := Std.TransCmp.congr_right hk
      simp only [find, this]
      split <;> rfl
    next hk =>
      simp only [find, ih]
      split
      next h₀ =>
        rw [if_neg]
        intro h
        rw [Std.TransCmp.congr_left (Std.OrientedCmp.eq_symm h)] at hk
        simp [h₀] at hk
      next => rfl

/-- After an insertion the new value stands under its key, and nothing else has changed. -/
theorem get?_insert [Std.TransOrd κ] (m : OrderedMap κ α) (k k' : κ) (x : α) :
    (m.insert k x).get? k' = if compare k' k = .eq then some x else m.get? k' :=
  find_place k k' x m.entries

theorem find_eq_none_of_lt {k : κ} {es : List (κ × α)}
    (h : ∀ e ∈ es, compare k e.1 = .lt) : find k es = none := by
  induction es with
  | nil => rfl
  | cons e rest ih =>
    have := h e (by simp)
    simp [find, this, ih fun e he => h e (by simp [he])]

private theorem entries_ext [Std.TransOrd κ] [Std.LawfulEqOrd κ] :
    ∀ {es fs : List (κ × α)},
      es.Pairwise (fun a b => compare a.1 b.1 = .lt) →
      fs.Pairwise (fun a b => compare a.1 b.1 = .lt) →
      (∀ k, find k es = find k fs) → es = fs
  | [], [], _, _, _ => rfl
  | [], (k, x) :: fs, _, _, h => by simpa [find] using h k
  | (k, x) :: es, [], _, _, h => by simpa [find] using h k
  | (k, x) :: es, (l, y) :: fs, he, hf, h => by
    rw [List.pairwise_cons] at he hf
    have hkl : compare k l = .eq := by
      match hc : compare k l with
      | .eq => rfl
      | .lt =>
        have hk := h k
        have hn : find k fs = none :=
          find_eq_none_of_lt fun e m => Std.TransCmp.lt_trans hc (hf.1 e m)
        simp [find, hc, hn] at hk
      | .gt =>
        have hl := h l
        have hc' : compare l k = .lt := Std.OrientedCmp.lt_of_gt hc
        have hn : find l es = none :=
          find_eq_none_of_lt fun e m => Std.TransCmp.lt_trans hc' (he.1 e m)
        simp [find, hc', hn] at hl
    obtain rfl := Std.LawfulEqOrd.eq_of_compare hkl
    have hxy : x = y := by simpa [find] using h k
    subst hxy
    congr 1
    refine entries_ext he.2 hf.2 fun k' => ?_
    by_cases hk : compare k' k = .eq
    · obtain rfl := Std.LawfulEqOrd.eq_of_compare hk
      rw [find_eq_none_of_lt he.1, find_eq_none_of_lt hf.1]
    · simpa [find, hk] using h k'

/-- Look-up determines the map. -/
theorem ext_get? [Std.TransOrd κ] [Std.LawfulEqOrd κ] {m n : OrderedMap κ α}
    (h : ∀ k, m.get? k = n.get? k) : m = n := by
  obtain ⟨es, he⟩ := m
  obtain ⟨fs, hf⟩ := n
  congr
  exact entries_ext he hf h

end OrderedMap

end ClassSchema
