import ClassSchema.Proofs.Compile.Plan
import ClassSchema.Proofs.Store.Backend
import ClassSchema.Proofs.Store.Tables

/-
# The key of a relation

A class may have any number of identifiers, under any numbers, and its relation is stored under one
of them.  Nothing looks for the identifier with the number 1: the key is the identifier that comes
first in order of the numbers.  So it is the first identifier unless there is one with the number 0
(`key_is_least_identifier`), which an attribute may well take part in
(`exists_key_other_identifier`).
-/

namespace ClassSchema

open Model Schema OrderedMap Outcome

/-! ### The identifier that comes first -/

namespace Schema.Relation

variable {r : Relation} {g : UInt32} {names : List String}

lemma keyAttributes_of_least (hg : r.identifiers.get? g = some names)
    (hleast : ∀ g', r.identifiers.contains g' = true → g ≤ g') :
    r.keyAttributes = names.filterMap r.attribute? := by
  have hhead : r.identifiers.entries.head? = some (g, names) := by
    refine head?_entries_of_least hg fun g' hg' hlt => ?_
    exact absurd (Std.compare_eq_lt.1 hlt) (UInt32.not_lt.2 (hleast g' hg'))
  obtain ⟨rest, hentries⟩ : ∃ rest, r.identifiers.entries = (g, names) :: rest :=
    ⟨_, List.eq_cons_of_mem_head? hhead⟩
  rw [keyAttributes, values, hentries]
  rfl

/-- The key of a well-formed relation is its identifier with the least number. -/
lemma WellFormed.map_name_keyAttributes (h : r.WellFormed)
    (hg : r.identifiers.get? g = some names)
    (hleast : ∀ g', r.identifiers.contains g' = true → g ≤ g') :
    r.keyAttributes.map (·.name) = names := by
  rw [keyAttributes_of_least hg hleast]
  exact map_name_filterMap_attribute? (h.identifier_mem g names hg)

/-- The columns of the key come before the arrow; where there are no others, there is no arrow. -/
lemma exists_ddl_eq (r : Relation) : ∃ rest,
    r.ddl = ":create " ++ r.name ++ " \x7b\n" ++ columnLines r.keyAttributes ++ rest ∧
      (rest = "\n\x7d" ∨
        rest = "\n    =>\n" ++ columnLines r.valueAttributes ++ "\n\x7d") := by
  rw [ddl, createStatement]
  by_cases h : r.valueAttributes.isEmpty = true
  · exact ⟨_, if_pos h, .inl rfl⟩
  · refine ⟨_, ?_, .inr rfl⟩
    rw [if_neg h]
    simp only [String.append_assoc]

end Schema.Relation

namespace Model.Class

/-- The numbers of the identifiers that the attributes of a class take part in. -/
def groups (c : Class) : List UInt32 := c.attributes.flatMap (·.groups)

/-- The attributes that take part in an identifier, in order, by their names without spaces. -/
def members (c : Class) (g : UInt32) : List String :=
  (c.attributes.filter fun a => g ∈ a.groups).map fun a => unspaced a.name

variable {types : TypeDictionary} {c : Class} {r : Relation} {g : UInt32}

/-- The identifiers of a class list their members, if no two attributes become one column. -/
lemma get?_identifiersOf_eq_members (h : (c.attributes.map fun a => unspaced a.name).Nodup)
    (g : UInt32) :
    (identifiersOf c.attributes).get? g = if g ∈ c.groups then some (c.members g) else none := by
  have hmembers : groupMembers c.attributes g = c.members g :=
    eraseDups_eq_self (h.sublist (List.Sublist.map _ List.filter_sublist))
  rw [get?_identifiersOf, hmembers]
  rfl

/-- The relation of a class has its identifier with the least number for its key. -/
lemma key_of_relationOf (hr : relationOf types c = .ok r) (hwell : r.WellFormed)
    (hg : g ∈ c.groups) (hleast : ∀ g' ∈ c.groups, g ≤ g') :
    r.keyAttributes.map (·.name) = c.members g := by
  obtain ⟨htyped, rfl⟩ := relationOf_eq_ok_iff.1 hr
  have hcolumns := hwell.columns_nodup
  rw [Relation.columns, map_name_filterMap_column? htyped] at hcolumns
  have hget := get?_identifiersOf_eq_members hcolumns
  refine hwell.map_name_keyAttributes ((hget g).trans (if_pos hg)) fun g' hg' => hleast g' ?_
  obtain ⟨names, hnames⟩ := contains_iff.1 hg'
  by_contra hnot
  cases (hnames.symm.trans (hget g')).trans (if_neg hnot)

/-- Of the numbers from 1 on none is less than 1. -/
lemma one_le_of_mem (hzero : 0 ∉ c.groups) : ∀ g ∈ c.groups, 1 ≤ g := by
  intro g hg
  have hne : g ≠ 0 := by
    rintro rfl
    exact hzero hg
  rw [UInt32.le_iff_toNat_le]
  exact Nat.one_le_iff_ne_zero.2 fun h => hne (UInt32.toNat_inj.1 h)

end Model.Class

/-! ### The key that is stored -/

namespace Backend

variable {δ : Type} [Engine δ] [LawfulEngine δ]

/-- The names of the columns that a relation is stored under. -/
def key? : Backend δ → String → Option (List String)
  | .catalog c, n => (c.relations.get? n).map fun r => r.keyAttributes.map (·.name)
  | .database d, n => (d.contents.stored.get? n).map fun r => r.key.map (·.name)

/-- A relation that is stored as it is, is stored under its key. -/
lemma key?_of_create {b b' : Backend δ} {r : Relation}
    (h : Store.create b (.relation r) = .ok b') (hr : b.Understands r) :
    b'.key? r.name = some (r.keyAttributes.map (·.name)) := by
  obtain ⟨c, rfl, -, rfl⟩ | ⟨d, d', rfl, rfl, hreplies⟩ := create_cases h
  · simp [key?]
  · cases hreplies with
    | relation _ created recorded =>
      have hstored : d'.contents.stored =
          d.contents.stored.insert r.name ⟨r.keyAttributes, r.valueAttributes⟩ := by
        rw [recorded]
        exact (Database.Plain.stored_eq hr created :)
      simp [key?, hstored]

end Backend

lemma Build.relationOf_of_addClass {σ : Type} [Store σ] {types : TypeDictionary} {domain n : String}
    {b b' : Build σ} {c : Model.Class} (h : b.addClass types domain c = .ok (b', .materialized n)) :
    ∃ r, relationOf types c = .ok r ∧ r.name = n ∧
      Store.create b.store (.relation r) = .ok b'.store := by
  rw [addClass] at h
  split at h
  · cases h
  · cases hr : relationOf types c with
    | error e => simp [hr] at h
    | ok r =>
      rw [hr] at h
      dsimp only at h
      cases hcreate : Store.create b.store (.relation r) with
      | error e => simp [hcreate] at h
      | ok store =>
        rw [hcreate] at h
        obtain ⟨rfl, hn⟩ := Prod.mk.inj (Except.ok.inj h)
        exact ⟨r, rfl, ClassOutcome.materialized.inj hn, hcreate⟩

/-- **The key is the identifier with the least number.**  When the relation of a class is created,
and some attribute takes part in the first identifier, the key consists of the attributes that take
part in the identifier 0, or if there are none of those that take part in the identifier 1.  The
statement that creates the relation has the columns of the key before the arrow, and the relation is
stored under this key, in a catalog and, if its names are identifiers, in a database of any engine.
So the key is the first identifier if and only if no attribute takes part in the identifier 0, or
the same ones do. -/
theorem key_is_least_identifier {δ : Type} [Engine δ] [LawfulEngine δ] (types : TypeDictionary)
    (domain n : String) (b b' : Build (Backend δ)) (c : Model.Class) (hfirst : 1 ∈ c.groups)
    (h : b.addClass types domain c = .ok (b', .materialized n)) :
    ∃ r, relationOf types c = .ok r ∧ r.name = n ∧
      r.keyAttributes.map (·.name) = c.members (if 0 ∈ c.groups then 0 else 1) ∧
      (r.keyAttributes.map (·.name) = c.members 1 ↔
        0 ∉ c.groups ∨ c.members 0 = c.members 1) ∧
      (b.store.Understands r → b'.store.key? n = some (r.keyAttributes.map (·.name))) ∧
      ∃ rest, r.ddl = ":create " ++ n ++ " \x7b\n" ++ columnLines r.keyAttributes ++ rest ∧
        (rest = "\n\x7d" ∨
          rest = "\n    =>\n" ++ columnLines r.valueAttributes ++ "\n\x7d") := by
  obtain ⟨r, hr, rfl, hcreate⟩ := Build.relationOf_of_addClass h
  have hwell : r.WellFormed :=
    (View.checkRelation_eq_ok_iff.1 (Store.create_eq_ok_iff.1 hcreate).1).2
  have hkey : r.keyAttributes.map (·.name) = c.members (if 0 ∈ c.groups then 0 else 1) := by
    split
    next hzero =>
      exact Class.key_of_relationOf hr hwell hzero fun g' _ => UInt32.zero_le
    next hzero =>
      exact Class.key_of_relationOf hr hwell hfirst (Class.one_le_of_mem hzero)
  refine ⟨r, hr, rfl, hkey, ?_, Backend.key?_of_create hcreate, r.exists_ddl_eq⟩
  rw [hkey]
  by_cases hzero : 0 ∈ c.groups
  · simp [hzero]
  · simp [hzero]

/-- A copy of a book has its signature and volume, and a bar code in an identifier of its own. -/
def copy (barCode : UInt32) : Model.Class where
  name := "Copy"
  importedFrom := none
  attributes :=
    [⟨"Shelf", some "name", []⟩, ⟨"Signature", some "name", [⟨1, false⟩]⟩,
      ⟨"Volume", some "number", [⟨1, false⟩]⟩, ⟨"Bar code", some "number", [⟨barCode, false⟩]⟩]

/-- A database in which nothing has been made. -/
def library : Build (Backend Tables) := { store := .database ⟨.memory, Tables.fresh⟩ }

/-- With a bar code in the second identifier, copies are stored under signature and volume. -/
theorem key_is_least_identifier_copy :
    ∃ b, 1 ∈ (copy 2).groups ∧
      library.addClass ⟨.ofList [("name", .string), ("number", .int)]⟩ "Library" (copy 2) =
        .ok (b, .materialized "Copy") ∧
      b.store.key? "Copy" = some ["Signature", "Volume"] := by
  have hfirst : 1 ∈ (copy 2).groups := by decide +kernel
  have hmade : (library.addClass ⟨.ofList [("name", .string), ("number", .int)]⟩ "Library"
      (copy 2)).toOption.map (·.2) = some (.materialized "Copy") := by decide +kernel
  obtain ⟨⟨b, outcome⟩, hb, rfl⟩ := exists_ok_of_toOption hmade
  obtain ⟨r, hr, -, -, hkey, hstored, -⟩ :=
    key_is_least_identifier _ _ _ library b (copy 2) hfirst hb
  have hwords : (relationOf ⟨.ofList [("name", .string), ("number", .int)]⟩ (copy 2)).toOption.map
      (fun r => isWord r.name && r.attributes.all fun a => isWord a.name) = some true := by
    decide +kernel
  rw [hr] at hwords
  have hplain : Database.Plain Tables r := Database.plain_of_isWord (by
    simpa [Except.toOption] using hwords)
  refine ⟨b, hfirst, hb, ?_⟩
  rw [hstored hplain, hkey.2 (.inl (by decide +kernel))]
  decide +kernel

/-- The first identifier need not be the key: a bar code in the identifier 0 comes before it. -/
theorem exists_key_other_identifier :
    ∃ b, 1 ∈ (copy 0).groups ∧ (copy 0).members 1 = ["Signature", "Volume"] ∧
      library.addClass ⟨.ofList [("name", .string), ("number", .int)]⟩ "Library" (copy 0) =
        .ok (b, .materialized "Copy") ∧
      b.store.key? "Copy" = some ["Bar_code"] := by
  have hmade : (library.addClass ⟨.ofList [("name", .string), ("number", .int)]⟩ "Library"
      (copy 0)).toOption.map (fun made => (made.2, made.1.store.key? "Copy")) =
        some (.materialized "Copy", some ["Bar_code"]) := by decide +kernel
  obtain ⟨⟨b, outcome⟩, hb, hcopy⟩ := exists_ok_of_toOption hmade
  obtain ⟨rfl, hkey⟩ := Prod.mk.inj hcopy
  exact ⟨b, by decide +kernel, by decide +kernel, hb, hkey⟩

end ClassSchema
