import ClassSchema.Proofs.OrderedMap
import ClassSchema.Proofs.Store.Session
import ClassSchema.Proofs.Text.Glob
import ClassSchema.Store.Catalog
import Mathlib.Data.List.Sort

/-
# Lists of names

A store lists the names of its relations and of its constraints, all of them or those that match a
pattern.  It may have them in any order (`Store.narrow_eq_of_perm`); the list is sorted in the end,
and no name is on it twice, so it is determined by the names that are on it (`Enumerates`).  Which
names these are is up to a library of expressions, and if this is documented they are the names
that the pattern selects.  So a catalog lists just the names that are stored in it and selected
(`Catalog.listing_exact`).
-/

namespace ClassSchema

open Schema OrderedMap Text

namespace Store

variable {regex : Regex.Library} {names names' listed : List String} {n : String}

/-! ### Sorting -/

lemma sorted_perm (names : List String) : (sorted names).Perm names := List.mergeSort_perm _ _

lemma pairwise_sorted (names : List String) : (sorted names).Pairwise (· ≤ ·) :=
  List.pairwise_mergeSort' (· ≤ ·) names

lemma sorted_eq_of_perm (h : names.Perm names') : sorted names = sorted names' :=
  ((sorted_perm names).trans (h.trans (sorted_perm names').symm)).eq_of_pairwise'
    (pairwise_sorted names) (pairwise_sorted names')

/-- In which order a store has its names does not matter. -/
lemma narrow_eq_of_perm (h : names.Perm names') (pattern : Option String) :
    narrow regex names pattern = narrow regex names' pattern := by
  have hall : Except.map (ε := SchemaError) sorted (.ok names) = .ok (sorted names') :=
    congrArg Except.ok (sorted_eq_of_perm h)
  cases pattern with
  | none => exact hall
  | some p =>
    rw [narrow, narrow, select, select]
    split
    · exact hall
    · cases regex.compile (Glob.expression regex p) with
      | none => rfl
      | some accepts => exact congrArg Except.ok (sorted_eq_of_perm (h.filter accepts))

/-- A pattern selects names, it adds none. -/
lemma mem_of_select {pattern : Option String} (h : select regex names pattern = .ok listed)
    (hn : n ∈ listed) : n ∈ names := by
  unfold select at h
  split at h
  · exact Except.ok.inj h ▸ hn
  · split at h
    · exact Except.ok.inj h ▸ hn
    · split at h
      · obtain rfl := Except.ok.inj h
        exact List.mem_of_mem_filter hn
      · cases h

lemma mem_of_narrow {pattern : Option String} (h : narrow regex names pattern = .ok listed)
    (hn : n ∈ listed) : n ∈ names := by
  rw [narrow] at h
  cases hselect : select regex names pattern with
  | error e => rw [hselect] at h; cases h
  | ok kept =>
    rw [hselect] at h
    obtain rfl := Except.ok.inj h
    exact mem_of_select hselect ((sorted_perm kept).subset hn)

/-- Without a pattern everything is listed. -/
lemma exists_narrow_none_iff :
    (∃ listed, narrow regex names none = .ok listed ∧ n ∈ listed) ↔ n ∈ names := by
  constructor
  · rintro ⟨listed, hlisted, hn⟩
    exact mem_of_narrow hlisted hn
  · exact fun hn => ⟨sorted names, rfl, (sorted_perm names).symm.subset hn⟩

end Store

/-! ### What is listed -/

/-- The list has the names with a property and no others, each once, in ascending order of their
characters' code points. -/
structure Enumerates (P : String → Prop) (names : List String) : Prop where
  ascending : names.Pairwise (· < ·)
  mem_iff : ∀ n, n ∈ names ↔ P n

/-- A name is selected if there is no pattern, if the pattern is empty, or if the whole name
matches it. -/
def Selects (pattern : Option String) (name : String) : Prop :=
  ∀ p, pattern = some p → p = "" ∨ Glob.Matches p.toList name.toList

/-- The pattern has an expression that the library takes; none is needed where nothing has to be
matched. -/
def Compiles (regex : Regex.Library) (pattern : Option String) : Prop :=
  ∀ p, pattern = some p → p ≠ "" →
    ∃ accepts, regex.compile (Glob.expression regex p) = some accepts

lemma enumerates_sorted {names : List String} (h : names.Nodup) :
    Enumerates (· ∈ names) (Store.sorted names) where
  ascending := by
    have hnodup : (Store.sorted names).Nodup := (Store.sorted_perm names).nodup_iff.2 h
    refine ((Store.pairwise_sorted names).and hnodup).imp fun {a b} hab => ?_
    exact String.not_le.1 fun hba => hab.2 (String.le_antisymm hab.1 hba)
  mem_iff _ := (Store.sorted_perm names).mem_iff

/-- If the library is documented, a pattern that compiles selects what it says. -/
lemma exists_select {regex : Regex.Library} (hregex : regex.Documented) {pattern : Option String}
    (hpattern : Compiles regex pattern) {names : List String} (hnames : names.Nodup) :
    ∃ kept, Store.select regex names pattern = .ok kept ∧ kept.Nodup ∧
      ∀ n, n ∈ kept ↔ n ∈ names ∧ Selects pattern n := by
  cases pattern with
  | none => exact ⟨names, rfl, hnames, fun n => by simp [Selects]⟩
  | some p =>
    by_cases hp : p = ""
    · exact ⟨names, if_pos hp, hnames, fun n => by simp [Selects, hp]⟩
    · obtain ⟨accepts, haccepts⟩ := hpattern p rfl hp
      refine ⟨names.filter accepts, ?_, hnames.filter _, fun n => ?_⟩
      · rw [Store.select, if_neg hp, haccepts]
      · rw [List.mem_filter, Glob.accepts_iff_matches hregex haccepts]
        simp [Selects, hp]

lemma exists_narrow {regex : Regex.Library} (hregex : regex.Documented) {pattern : Option String}
    (hpattern : Compiles regex pattern) {names : List String} (hnames : names.Nodup) :
    ∃ listed, Store.narrow regex names pattern = .ok listed ∧
      Enumerates (fun n => n ∈ names ∧ Selects pattern n) listed := by
  obtain ⟨kept, hselect, hnodup, hmem⟩ := exists_select hregex hpattern hnames
  obtain ⟨hascending, hsorted⟩ := enumerates_sorted hnodup
  exact ⟨_, by rw [Store.narrow, hselect]; rfl, hascending, fun n => (hsorted n).trans (hmem n)⟩

/-- **Lists of names are exact.**  With every library of expressions that is documented and whatever
a catalog holds, without a pattern or with one whose expression compiles it lists, in ascending
order and each once, the names of its relations that are selected, and in the same way those of its
constraints. -/
theorem Catalog.listing_exact (regex : Regex.Library) (hregex : regex.Documented) (c : Catalog)
    (pattern : Option String) (hpattern : Compiles regex pattern) :
    (∃ listed, Store.relationNames regex c pattern = .ok listed ∧
      Enumerates (fun n => c.relations.contains n = true ∧ Selects pattern n) listed) ∧
    ∃ listed, Store.constraintNames regex c pattern = .ok listed ∧
      Enumerates (fun n => c.constraints.contains n = true ∧ Selects pattern n) listed := by
  simp only [← mem_keys_iff]
  exact ⟨exists_narrow hregex hpattern c.relations.nodup_keys,
    exists_narrow hregex hpattern c.constraints.nodup_keys⟩

/-- A catalog of berths, one of them with a line break in its name. -/
def harbour : Catalog :=
  Store.afterAll .empty <| ["Berth_7", "Berth.7", "Berth.12", "Berth.\n7"].map fun name =>
    .relation ⟨name, [⟨"Ship", .string⟩], .empty⟩

/-- A full stop in a pattern is a full stop, and no piece goes over a line break. -/
theorem Catalog.listing_exact_harbour :
    Compiles Regex.standard (some "B*.?") ∧
    ∃ listed, Store.relationNames Regex.standard harbour (some "B*.?") = .ok listed ∧
      "Berth.7" ∈ listed ∧ "Berth_7" ∉ listed ∧ "Berth.12" ∉ listed ∧ "Berth.\n7" ∉ listed := by
  have hcompiles : Compiles Regex.standard (some "B*.?") := by
    rintro p hp -
    obtain rfl := Option.some.inj hp
    refine Option.isSome_iff_exists.1 ?_
    decide +kernel
  obtain ⟨⟨listed, hlisted, henum⟩, -⟩ := Catalog.listing_exact Regex.standard
    (Regex.upTo_documented _) harbour (some "B*.?") hcompiles
  have hmem (n : String) : n ∈ listed ↔ harbour.relations.contains n = true ∧
      Glob.Matches "B*.?".toList n.toList := by
    rw [henum.mem_iff]
    simp [Selects]
  refine ⟨hcompiles, listed, hlisted, ?_⟩
  simp only [hmem]
  decide +kernel

end ClassSchema
