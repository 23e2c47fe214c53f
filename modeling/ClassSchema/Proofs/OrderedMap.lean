import ClassSchema.OrderedMap
import Mathlib.Data.List.Nodup
import Mathlib.Tactic.Common

/-
# Look-up in ordered maps

An ordered map is used through three views: what stands under a key (`get?`), whether something
does (`contains`), and the lists of its keys and entries.  Here the three are tied together, and
each operation is described by what it does to the views, so that no later proof looks at the
order of the entries.  `eq_of_ascending_by` is the one place where that order counts: two ascending
lists with the same members are the same list.
-/

namespace ClassSchema.OrderedMap

variable {κ α β : Type} [Ord κ]

lemma contains_iff {m : OrderedMap κ α} {k : κ} :
    m.contains k = true ↔ ∃ x, m.get? k = some x := by
  rw [contains, Option.isSome_iff_exists]

lemma contains_eq_false_iff {m : OrderedMap κ α} {k : κ} :
    m.contains k = false ↔ m.get? k = none := by
  rw [contains, Option.isSome_eq_false_iff, Option.isNone_iff_eq_none]

lemma isEmpty_eq_true_iff {m : OrderedMap κ α} : m.isEmpty = true ↔ m.entries = [] :=
  List.isEmpty_iff

lemma keys_ascending (m : OrderedMap κ α) : m.keys.Pairwise fun a b => compare a b = .lt :=
  List.pairwise_map.2 m.ascending

lemma find_append (k : κ) (es fs : List (κ × α)) :
    find k (es ++ fs) = (find k es).or (find k fs) := by
  induction es with
  | nil => rfl
  | cons e rest ih =>
    simp only [List.cons_append, find]
    split
    · rfl
    · exact ih

variable [Std.LawfulEqOrd κ]

/-! ### Entries and keys -/

lemma mem_of_find_eq_some {k : κ} {x : α} {es : List (κ × α)} (h : find k es = some x) :
    (k, x) ∈ es := by
  induction es with
  | nil => simp [find] at h
  | cons e rest ih =>
    obtain ⟨k', x'⟩ := e
    simp only [find] at h
    split at h
    next hk =>
      obtain rfl := Std.LawfulEqOrd.compare_eq_iff_eq.1 hk
      obtain rfl := Option.some.inj h
      exact List.mem_cons_self
    next => exact List.mem_cons_of_mem _ (ih h)

lemma nodup_of_ascending {ks : List κ} (h : ks.Pairwise fun a b => compare a b = .lt) :
    ks.Nodup := by
  refine h.imp fun {a b} hlt heq => ?_
  subst heq
  simp at hlt

lemma nodup_keys (m : OrderedMap κ α) : m.keys.Nodup := nodup_of_ascending m.keys_ascending

lemma find_eq_some_of_mem {k : κ} {x : α} {es : List (κ × α)} (hes : (es.map (·.1)).Nodup)
    (h : (k, x) ∈ es) : find k es = some x := by
  induction es with
  | nil => simp at h
  | cons e rest ih =>
    rw [List.map_cons, List.nodup_cons] at hes
    rcases List.mem_cons.1 h with rfl | h
    · simp [find]
    · -- an earlier entry has another key, so it is not the one that is found
      have hne : compare k e.1 ≠ .eq := by
        intro hc
        obtain rfl := Std.LawfulEqOrd.compare_eq_iff_eq.1 hc
        exact hes.1 (List.mem_map.2 ⟨_, h, rfl⟩)
      rw [find, if_neg hne]
      exact ih hes.2 h

lemma mem_entries_iff {m : OrderedMap κ α} {e : κ × α} :
    e ∈ m.entries ↔ m.get? e.1 = some e.2 :=
  ⟨fun h => find_eq_some_of_mem m.nodup_keys h, fun h => mem_of_find_eq_some h⟩

lemma mem_keys_iff {m : OrderedMap κ α} {k : κ} : k ∈ m.keys ↔ m.contains k = true := by
  rw [contains_iff, keys, List.mem_map]
  constructor
  · rintro ⟨e, he, rfl⟩
    exact ⟨e.2, mem_entries_iff.1 he⟩
  · rintro ⟨x, hx⟩
    exact ⟨(k, x), mem_entries_iff.2 hx, rfl⟩

/-- The entry with the least key comes first. -/
lemma head?_entries_of_least {m : OrderedMap κ α} {k : κ} {x : α} (hk : m.get? k = some x)
    (hleast : ∀ k', m.contains k' = true → compare k' k ≠ .lt) :
    m.entries.head? = some (k, x) := by
  have hmem : (k, x) ∈ m.entries := mem_entries_iff.2 hk
  have hascending := m.ascending
  cases hentries : m.entries with
  | nil =>
    rw [hentries] at hmem
    cases hmem
  | cons e rest =>
    rw [hentries] at hmem hascending
    rcases List.mem_cons.1 hmem with rfl | hrest
    · rfl
    · -- else the first key would be less
      have hlt : compare e.1 k = .lt := (List.pairwise_cons.1 hascending).1 _ hrest
      have he : m.get? e.1 = some e.2 := mem_entries_iff.1 (hentries ▸ List.mem_cons_self)
      exact absurd hlt (hleast _ (contains_iff.2 ⟨_, he⟩))

lemma find_map_pair [DecidableEq κ] (f : κ → α) (ks : List κ) (k : κ) :
    find k (ks.map fun l => (l, f l)) = if k ∈ ks then some (f k) else none := by
  induction ks with
  | nil => rfl
  | cons l rest ih =>
    by_cases h : k = l
    · subst h
      simp [find]
    · simp [find, h, ih]

variable [Std.TransOrd κ]

@[simp] lemma get?_insert_self (m : OrderedMap κ α) (k : κ) (x : α) :
    (m.insert k x).get? k = some x := by
  rw [get?_insert, if_pos (Std.LawfulEqOrd.compare_eq_iff_eq.2 rfl)]

lemma get?_insert_of_ne (m : OrderedMap κ α) {k k' : κ} (x : α) (h : k' ≠ k) :
    (m.insert k x).get? k' = m.get? k' := by
  rw [get?_insert, if_neg fun hc => h (Std.LawfulEqOrd.compare_eq_iff_eq.1 hc)]

lemma get?_insert_eq_ite [DecidableEq κ] (m : OrderedMap κ α) (k k' : κ) (x : α) :
    (m.insert k x).get? k' = if k' = k then some x else m.get? k' := by
  by_cases h : k' = k
  · simp [h]
  · simp [h, get?_insert_of_ne]

lemma contains_insert_iff {m : OrderedMap κ α} {k k' : κ} {x : α} :
    (m.insert k x).contains k' = true ↔ k' = k ∨ m.contains k' = true := by
  by_cases h : k' = k
  · subst h
    simp [contains]
  · simp [contains, get?_insert_of_ne m x h, h]

lemma get?_insert_eq_none_iff {m : OrderedMap κ α} {k k' : κ} {x : α} :
    (m.insert k x).get? k' = none ↔ k' ≠ k ∧ m.get? k' = none := by
  by_cases h : k' = k
  · simp [h]
  · simp [h, get?_insert_of_ne]

/-- Insertions under different keys can be made in either order. -/
lemma insert_comm (m : OrderedMap κ α) {k l : κ} (h : k ≠ l) (x y : α) :
    (m.insert k x).insert l y = (m.insert l y).insert k x := by
  refine ext_get? fun n => ?_
  by_cases hk : n = k
  · subst hk
    rw [get?_insert_of_ne _ _ h, get?_insert_self, get?_insert_self]
  · by_cases hl : n = l
    · subst hl
      rw [get?_insert_self, get?_insert_of_ne _ _ hk, get?_insert_self]
    · rw [get?_insert_of_ne _ _ hl, get?_insert_of_ne _ _ hk, get?_insert_of_ne _ _ hk,
        get?_insert_of_ne _ _ hl]

/-- Values that have names of their own can be filed under them in any order. -/
lemma foldl_insert_perm {name : α → κ} {xs ys : List α} (h : xs.Perm ys)
    (hnodup : (xs.map name).Nodup) (m : OrderedMap κ α) :
    xs.foldl (fun m x => m.insert (name x) x) m = ys.foldl (fun m x => m.insert (name x) x) m := by
  refine h.foldl_eq' (fun x hx y hy m => ?_) m
  by_cases hname : name x = name y
  · obtain rfl := List.inj_on_of_nodup_map hnodup hx hy hname
    rfl
  · exact insert_comm m hname x y

/-! ### Maps of lists -/

omit [Std.LawfulEqOrd κ] in
lemma get?_foldl_insert (m : OrderedMap κ α) (es : List (κ × α)) (k : κ) :
    (es.foldl (fun m e => m.insert e.1 e.2) m).get? k = (find k es.reverse).or (m.get? k) := by
  induction es generalizing m with
  | nil => simp [find]
  | cons e rest ih =>
    rw [List.foldl_cons, ih, List.reverse_cons, find_append, Option.or_assoc]
    congr 1
    simp only [find, get?_insert]
    split <;> simp

lemma contains_foldl_insert_iff {m : OrderedMap κ α} {es : List (κ × α)} {k : κ} :
    (es.foldl (fun m e => m.insert e.1 e.2) m).contains k = true ↔
      m.contains k = true ∨ k ∈ es.map (·.1) := by
  induction es generalizing m with
  | nil => simp
  | cons e rest ih =>
    rw [List.foldl_cons, ih, contains_insert_iff, List.map_cons, List.mem_cons, eq_comm (a := k)]
    tauto

omit [Std.LawfulEqOrd κ] in
/-- Of the pairs with one key the last one counts. -/
lemma get?_ofList (es : List (κ × α)) (k : κ) : (ofList es).get? k = find k es.reverse := by
  rw [ofList, get?_foldl_insert, get?_empty, Option.or_none]

/-- A map is the map of its entries. -/
lemma ofList_entries (m : OrderedMap κ α) : ofList m.entries = m := by
  refine ext_get? fun k => ?_
  rw [get?_ofList]
  cases h : m.get? k with
  | none =>
    rw [Option.eq_none_iff_forall_ne_some]
    intro x hx
    have hmem := List.mem_reverse.1 (mem_of_find_eq_some hx)
    simp [mem_entries_iff.1 hmem] at h
  | some x =>
    refine find_eq_some_of_mem ?_ (List.mem_reverse.2 (mem_entries_iff.2 h))
    rw [List.map_reverse, List.Nodup, List.pairwise_reverse]
    exact m.nodup_keys.imp Ne.symm

/-- The map that gives `f k` for the keys in a list. -/
lemma get?_ofList_map_pair [DecidableEq κ] (f : κ → α) (ks : List κ) (k : κ) :
    (ofList (ks.map fun l => (l, f l))).get? k = if k ∈ ks then some (f k) else none := by
  rw [get?_ofList, ← List.map_reverse, find_map_pair]
  simp

end ClassSchema.OrderedMap
