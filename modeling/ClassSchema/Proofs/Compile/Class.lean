import ClassSchema.Compile.Class
import ClassSchema.Proofs.OrderedMap
import ClassSchema.Proofs.Outcome
import Mathlib.Data.List.Induction

/-
# The relation of a class, column by column and group by group

`relationOf` goes through the attributes of a class twice: for the columns up to the first
attribute whose type is not known, and for the identifiers by adding each name to each of its
groups.  Here both are said without a loop.  A class has a relation when all its types are known
(`relationOf_eq_ok_iff`), and else the first attribute without a known type is to blame
(`relationOf_eq_error_iff`); the identifier with number `g` lists the attributes that take part in
group `g`, in order and each name once (`get?_identifiersOf`).
-/

namespace ClassSchema

open Model OrderedMap Outcome

/-! ### Columns -/

/-- The column that an attribute becomes, if its type is known. -/
def column? (types : TypeDictionary) (a : Model.Attribute) : Option Schema.Attribute :=
  (types.resolve? a.typeName).map fun type => ⟨unspaced a.name, type⟩

/-- The first attribute whose type is not known. -/
def untyped? (types : TypeDictionary) (as : List Model.Attribute) : Option Model.Attribute :=
  as.find? fun a => (types.resolve? a.typeName).isNone

variable {types : TypeDictionary} {className : String} {as : List Model.Attribute}

lemma untyped?_cons_of_none {a : Model.Attribute} (h : types.resolve? a.typeName = none) :
    untyped? types (a :: as) = some a := by
  rw [untyped?, List.find?_cons, h]
  rfl

lemma untyped?_cons_of_some {a : Model.Attribute} {type : DataType}
    (h : types.resolve? a.typeName = some type) : untyped? types (a :: as) = untyped? types as := by
  rw [untyped?, List.find?_cons, h]
  rfl

lemma columnsOf_of_untyped {a : Model.Attribute} (h : untyped? types as = some a) :
    columnsOf types className as = .error ⟨className, a.name, a.typeName⟩ := by
  induction as with
  | nil => simp [untyped?] at h
  | cons b rest ih =>
    rw [columnsOf]
    cases hb : types.resolve? b.typeName with
    | none =>
      obtain rfl : b = a := by simpa [untyped?_cons_of_none hb] using h
      rfl
    | some type =>
      rw [untyped?_cons_of_some hb] at h
      rw [ih h]
      rfl

lemma columnsOf_of_typed (h : untyped? types as = none) :
    columnsOf types className as = .ok (as.filterMap (column? types)) := by
  induction as with
  | nil => rfl
  | cons b rest ih =>
    rw [columnsOf, List.filterMap_cons, column?]
    cases hb : types.resolve? b.typeName with
    | none => simp [untyped?_cons_of_none hb] at h
    | some type =>
      rw [untyped?_cons_of_some hb] at h
      rw [ih h]
      rfl

/-- Columns have the names of the attributes, without spaces. -/
lemma map_name_filterMap_column? (h : untyped? types as = none) :
    (as.filterMap (column? types)).map (·.name) = as.map fun a => unspaced a.name := by
  induction as with
  | nil => rfl
  | cons b rest ih =>
    cases hb : types.resolve? b.typeName with
    | none => simp [untyped?_cons_of_none hb] at h
    | some type =>
      rw [untyped?_cons_of_some hb] at h
      have hcolumn : column? types b = some ⟨unspaced b.name, type⟩ := by simp [column?, hb]
      rw [List.filterMap_cons, hcolumn, List.map_cons, List.map_cons, ih h]

/-! ### Identifiers -/

/-- The names of the attributes that take part in a group, in order and each once. -/
def groupMembers (as : List Model.Attribute) (g : UInt32) : List String :=
  ((as.filter fun a => g ∈ a.groups).map fun a => unspaced a.name).eraseDups

lemma mem_groups_iff {a : Model.Attribute} {g : UInt32} :
    g ∈ a.groups ↔ ∃ m ∈ a.memberships, m.group = g := by
  rw [Attribute.groups, List.mem_eraseDups, List.mem_map]

/-- Adds a name at the end of a list that does not have it. -/
def appendNew (name : String) (names : List String) : List String :=
  if name ∈ names then names else names ++ [name]

lemma mem_appendNew (name : String) (names : List String) : name ∈ appendNew name names := by
  unfold appendNew
  split
  next h => exact h
  next => simp

lemma appendNew_of_mem {name : String} {names : List String} (h : name ∈ names) :
    appendNew name names = names := if_pos h

lemma eraseDups_concat (names : List String) (name : String) :
    (names ++ [name]).eraseDups = appendNew name names.eraseDups := by
  simp only [List.eraseDups_append, appendNew, List.mem_eraseDups]
  split
  next h => simp [List.removeAll, h]
  next h => simp [List.removeAll, h, List.eraseDups_cons]

lemma get?_enroll (name : String) (m : OrderedMap UInt32 (List String)) (g g' : UInt32) :
    (enroll name m g).get? g' =
      if g' = g then some (appendNew name ((m.get? g).getD [])) else m.get? g' := by
  unfold enroll appendNew
  by_cases hg : g' = g
  · subst hg
    by_cases hname : name ∈ (m.get? g').getD []
    · -- a group that has a name is there
      cases hm : m.get? g' with
      | none => simp [hm] at hname
      | some names => simp_all
    · simp [hname]
  · rw [if_neg hg]
    by_cases hname : name ∈ (m.get? g).getD []
    · simp [hname]
    · simp [hname, get?_insert_of_ne _ _ hg]

lemma get?_foldl_enroll (name : String) (groups : List UInt32)
    (m : OrderedMap UInt32 (List String)) (g : UInt32) :
    (groups.foldl (enroll name) m).get? g =
      if g ∈ groups then some (appendNew name ((m.get? g).getD [])) else m.get? g := by
  induction groups generalizing m with
  | nil => simp
  | cons g' rest ih =>
    rw [List.foldl_cons, ih, get?_enroll]
    by_cases hg : g = g'
    · -- the second time the name is in the group
      subst hg
      simp [appendNew_of_mem (mem_appendNew _ _)]
    · simp [hg]

lemma groupMembers_of_not_mem {g : UInt32} (h : g ∉ as.flatMap (·.groups)) :
    groupMembers as g = [] := by
  have hnone : as.filter (fun a => g ∈ a.groups) = [] := by
    rw [List.filter_eq_nil_iff]
    intro a ha hg
    exact h (List.mem_flatMap.2 ⟨a, ha, by simpa using hg⟩)
  rw [groupMembers, hnone]
  rfl

lemma groupMembers_concat (as : List Model.Attribute) (a : Model.Attribute) (g : UInt32) :
    groupMembers (as ++ [a]) g =
      if g ∈ a.groups then appendNew (unspaced a.name) (groupMembers as g)
      else groupMembers as g := by
  by_cases h : g ∈ a.groups
  · simp [groupMembers, h, eraseDups_concat]
  · simp [groupMembers, h]

lemma get?_identifiersOf_concat (as : List Model.Attribute) (a : Model.Attribute) (g : UInt32) :
    (identifiersOf (as ++ [a])).get? g =
      if g ∈ a.groups then some (appendNew (unspaced a.name) (((identifiersOf as).get? g).getD []))
      else (identifiersOf as).get? g := by
  have hmem : g ∈ a.memberships.map (·.group) ↔ g ∈ a.groups := by
    rw [mem_groups_iff, List.mem_map]
  rw [identifiersOf, List.foldl_append, List.foldl_cons, List.foldl_nil, get?_foldl_enroll,
    ← identifiersOf]
  by_cases h : g ∈ a.groups
  · rw [if_pos h, if_pos (hmem.2 h)]
  · rw [if_neg h, if_neg fun h' => h (hmem.1 h')]

/-- The identifier of a group lists the members of the group. -/
theorem get?_identifiersOf (as : List Model.Attribute) (g : UInt32) :
    (identifiersOf as).get? g =
      if g ∈ as.flatMap (·.groups) then some (groupMembers as g) else none := by
  induction as using List.reverseRecOn with
  | nil => rfl
  | append_singleton rest a ih =>
    rw [get?_identifiersOf_concat, groupMembers_concat, ih, List.flatMap_append]
    by_cases ha : g ∈ a.groups
    · by_cases hrest : g ∈ rest.flatMap (·.groups)
      · simp [ha, hrest]
      · simp [ha, hrest, groupMembers_of_not_mem hrest]
    · by_cases hrest : g ∈ rest.flatMap (·.groups) <;> simp [ha, hrest]

/-! ### Relations -/

theorem relationOf_eq_ok_iff {c : Model.Class} {r : Schema.Relation} :
    relationOf types c = .ok r ↔ untyped? types c.attributes = none ∧
      r = ⟨unspaced c.name, c.attributes.filterMap (column? types), identifiersOf c.attributes⟩ := by
  rw [relationOf]
  cases h : untyped? types c.attributes with
  | some a => simp [columnsOf_of_untyped h]
  | none => simp [columnsOf_of_typed h, eq_comm]

theorem relationOf_eq_error_iff {c : Model.Class} {e : UnknownType} :
    relationOf types c = .error e ↔
      ∃ a, untyped? types c.attributes = some a ∧ e = ⟨c.name, a.name, a.typeName⟩ := by
  rw [relationOf]
  cases h : untyped? types c.attributes with
  | some a => simp [columnsOf_of_untyped h, eq_comm]
  | none => simp [columnsOf_of_typed h]

end ClassSchema
