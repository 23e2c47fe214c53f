import ClassSchema.Proofs.Compile.Population
import Mathlib.Logic.Function.Basic

/-
# Several classes in one population

Attributes can be recorded of several classes by turns.  The tables are common to all classes, and
what has been recorded of a class is kept with the class, outside of the tables (`Recording`).  Both
stay in step, in whatever order the classes take their turns, as long as no two of them have name
and domain in common: to each class its part of the tables looks as if there were no other
(`Recording.ofClass_recordAll`).  So what holds of the rows of one class carries over to all of them
(`Recording.recordAll_consistent`).
-/

namespace ClassSchema

open Model

namespace Population

/-! ### One call -/

/-- The rows of one class as a population of their own. -/
def ofClass (p : Population) (className domain : String) : Population :=
  ⟨p.attributesOf className domain, p.identifiersOf className domain, p.partsOf className domain⟩

variable {p : Population} {c : PopulatedClass} {a : Attribute} {className domain : String}

/-- An attribute of the class is added to its part. -/
lemma ofClass_addAttribute_self (p : Population) (c : PopulatedClass) (a : Attribute) :
    (p.addAttribute c a).1.ofClass c.name c.domain =
      ((p.ofClass c.name c.domain).addAttribute c a).1 := by
  simp [ofClass, addAttribute, attributesOf, identifiersOf, partsOf, List.filter_map,
    Function.comp_def]

/-- An attribute of another class does not show in it. -/
lemma ofClass_addAttribute_of_ne (h : (c.name, c.domain) ≠ (className, domain)) :
    (p.addAttribute c a).1.ofClass className domain = p.ofClass className domain := by
  have hne : ¬ (c.name = className ∧ c.domain = domain) := by simpa using h
  simp [ofClass, addAttribute, attributesOf, identifiersOf, partsOf, List.filter_map,
    Function.comp_def, hne]

/-- An attribute adds the identifiers that it has and its class had not. -/
lemma mem_identifiers_addAttribute_iff {row : IdentifierRow} :
    row ∈ (p.addAttribute c a).1.identifiers ↔ row ∈ p.identifiers ∨
      (c.name, c.domain) = (row.className, row.domain) ∧ row.group ∉ c.groups ∧
        ∃ m ∈ a.memberships, m.group = row.group := by
  rw [addAttribute, List.mem_append, List.mem_map, ← mem_groups_iff]
  refine or_congr_right ⟨?_, ?_⟩
  · rintro ⟨g, hg, rfl⟩
    obtain ⟨hgroup, hfresh⟩ := List.mem_filter.1 hg
    exact ⟨rfl, of_decide_eq_true hfresh, hgroup⟩
  · obtain ⟨g, rowClass, rowDomain⟩ := row
    rintro ⟨hclass, hfresh, hgroup⟩
    obtain ⟨rfl, rfl⟩ := Prod.mk.inj hclass
    exact ⟨g, List.mem_filter.2 ⟨hgroup, decide_eq_true hfresh⟩, rfl⟩

lemma mem_partRows_iff {row : IdentifierAttributeRow} : row ∈ partRows className domain a ↔
    (className, domain) = (row.className, row.domain) ∧ a.name = row.attributeName ∧
      ∃ m ∈ a.memberships, m.group = row.group := by
  rw [partRows, List.mem_map, ← mem_groups_iff]
  constructor
  · rintro ⟨g, hg, rfl⟩
    exact ⟨rfl, rfl, hg⟩
  · obtain ⟨g, attributeName, rowClass, rowDomain⟩ := row
    rintro ⟨hclass, rfl, hg⟩
    obtain ⟨rfl, rfl⟩ := Prod.mk.inj hclass
    exact ⟨g, hg, rfl⟩

lemma nodup_partRows (className domain : String) (a : Attribute) :
    (partRows className domain a).Nodup :=
  (nodup_groups a).map fun _ _ h => congrArg IdentifierAttributeRow.group h

/-- An attribute adds one part for each group that it has, however often it lists the group. -/
lemma count_parts_addAttribute (row : IdentifierAttributeRow) :
    (p.addAttribute c a).1.identifierAttributes.count row = p.identifierAttributes.count row +
      if (c.name, c.domain) = (row.className, row.domain) ∧ a.name = row.attributeName ∧
        ∃ m ∈ a.memberships, m.group = row.group then 1 else 0 := by
  have hparts := (nodup_partRows c.name c.domain a).count (a := row)
  simp only [mem_partRows_iff] at hparts
  rw [← hparts]
  exact List.count_append

end Population

/-! ### Calls for several classes -/

/-- Several classes are recorded in one population. -/
structure Recording (ι : Type) where
  population : Population
  classes : ι → PopulatedClass

namespace Recording

variable {ι : Type} [DecidableEq ι]

/-- Nothing has been recorded yet of the classes, which have names and domains. -/
def start (key : ι → String × String) : Recording ι where
  population := {}
  classes i := ⟨(key i).1, (key i).2, []⟩

/-- Records an attribute of a class. -/
def record (w : Recording ι) (i : ι) (a : Attribute) : Recording ι where
  population := (w.population.addAttribute (w.classes i) a).1
  classes := Function.update w.classes i (w.population.addAttribute (w.classes i) a).2

/-- Records attributes in order, each of its own class. -/
def recordAll (w : Recording ι) (calls : List (ι × Attribute)) : Recording ι :=
  calls.foldl (fun w call => w.record call.1 call.2) w

/-- The attributes that are recorded of a class. -/
def own (i : ι) (calls : List (ι × Attribute)) : List Attribute :=
  (calls.filter fun call => call.1 = i).map (·.2)

variable {key : ι → String × String}

lemma recordAll_concat (w : Recording ι) (calls : List (ι × Attribute)) (i : ι) (a : Attribute) :
    w.recordAll (calls ++ [(i, a)]) = (w.recordAll calls).record i a := List.foldl_append

lemma own_concat_self (i : ι) (calls : List (ι × Attribute)) (a : Attribute) :
    own i (calls ++ [(i, a)]) = own i calls ++ [a] := by
  simp [own]

lemma own_concat_of_ne {i j : ι} (h : j ≠ i) (calls : List (ι × Attribute)) (a : Attribute) :
    own i (calls ++ [(j, a)]) = own i calls := by
  simp [own, h]

lemma mem_own_iff {i : ι} {calls : List (ι × Attribute)} {a : Attribute} :
    a ∈ own i calls ↔ (i, a) ∈ calls := by
  simp [own]

/-- What is kept of a class are the groups that its own attributes have. -/
lemma classes_recordAll (key : ι → String × String) (calls : List (ι × Attribute)) (i : ι) :
    ((start key).recordAll calls).classes i =
      ⟨(key i).1, (key i).2, Population.identifierGroups (own i calls)⟩ := by
  induction calls using List.reverseRecOn with
  | nil => rfl
  | append_singleton calls call ih =>
    obtain ⟨j, a⟩ := call
    rw [recordAll_concat]
    by_cases hji : j = i
    · subst hji
      refine (Function.update_self ..).trans ?_
      rw [ih, own_concat_self, Population.identifierGroups_concat]
      rfl
    · refine (Function.update_of_ne (Ne.symm hji) ..).trans ?_
      rw [ih, own_concat_of_ne hji]

/-- To each class its part of the tables looks as if there were no other class. -/
theorem ofClass_recordAll (hkey : Function.Injective key) (calls : List (ι × Attribute)) (i : ι) :
    ((start key).recordAll calls).population.ofClass (key i).1 (key i).2 =
      (Population.addAttributes {} ⟨(key i).1, (key i).2, []⟩ (own i calls)).1 := by
  induction calls using List.reverseRecOn with
  | nil => rfl
  | append_singleton calls call ih =>
    obtain ⟨j, a⟩ := call
    rw [recordAll_concat, record, classes_recordAll]
    by_cases hji : j = i
    · subst hji
      -- what is kept of the class is the same as when it is recorded alone
      have halone : (Population.addAttributes {} ⟨(key j).1, (key j).2, []⟩ (own j calls)).2 =
          ⟨(key j).1, (key j).2, Population.identifierGroups (own j calls)⟩ := by
        rw [Population.addAttributes_eq]
      rw [own_concat_self, Population.addAttributes_concat, ← ih, halone]
      exact Population.ofClass_addAttribute_self _
        ⟨(key j).1, (key j).2, Population.identifierGroups (own j calls)⟩ a
    · rw [own_concat_of_ne hji, ← ih]
      exact Population.ofClass_addAttribute_of_ne (hkey.ne hji)

/-! ### The rows of a class among the others -/

section

variable (hkey : Function.Injective key) (calls : List (ι × Attribute)) (i : ι)

include hkey

lemma attributesOf_recordAll :
    ((start key).recordAll calls).population.attributesOf (key i).1 (key i).2 =
      (own i calls).map (Population.attributeRow (key i).1 (key i).2) := by
  have h := congrArg Population.attributes (ofClass_recordAll hkey calls i)
  rw [Population.addAttributes_eq] at h
  exact h

lemma identifiersOf_recordAll :
    ((start key).recordAll calls).population.identifiersOf (key i).1 (key i).2 =
      (Population.identifierGroups (own i calls)).map (⟨·, (key i).1, (key i).2⟩) := by
  have h := congrArg Population.identifiers (ofClass_recordAll hkey calls i)
  rw [Population.addAttributes_eq] at h
  exact h

end

/-! ### The tables as a whole -/

/-- The tables and what is kept of the classes agree with the calls that have been made. -/
structure Consistent (key : ι → String × String) (calls : List (ι × Attribute))
    (w : Recording ι) : Prop where
  identifiers_nodup : w.population.identifiers.Nodup
  mem_identifiers_iff : ∀ row, row ∈ w.population.identifiers ↔
    ∃ call ∈ calls, key call.1 = (row.className, row.domain) ∧
      ∃ m ∈ call.2.memberships, m.group = row.group
  groups_eq : ∀ i, (w.classes i).groups =
    (w.population.identifiersOf (key i).1 (key i).2).map (·.group)
  identifier_of_part : ∀ part ∈ w.population.identifierAttributes,
    ⟨part.group, part.className, part.domain⟩ ∈ w.population.identifiers
  attribute_of_part : ∀ part ∈ w.population.identifierAttributes,
    ∃ row ∈ w.population.attributes, row.name = part.attributeName ∧
      (row.className, row.domain) = (part.className, part.domain)
  count_parts : ∀ part, w.population.identifierAttributes.count part =
    calls.countP fun call => key call.1 = (part.className, part.domain) ∧
      call.2.name = part.attributeName ∧ ∃ m ∈ call.2.memberships, m.group = part.group
  ofClass_eq : ∀ i, w.population.ofClass (key i).1 (key i).2 =
    (Population.addAttributes {} ⟨(key i).1, (key i).2, []⟩ (own i calls)).1

variable {calls : List (ι × Attribute)}

lemma mem_identifiers_recordAll_iff (row : IdentifierRow) :
    row ∈ ((start key).recordAll calls).population.identifiers ↔
      ∃ call ∈ calls, key call.1 = (row.className, row.domain) ∧
        ∃ m ∈ call.2.memberships, m.group = row.group := by
  induction calls using List.reverseRecOn with
  | nil => simp [recordAll, start]
  | append_singleton calls call ih =>
    obtain ⟨j, a⟩ := call
    rw [recordAll_concat, record, classes_recordAll, Population.mem_identifiers_addAttribute_iff,
      ih]
    constructor
    · rintro (⟨call, hcall, h⟩ | ⟨hk, -, hm⟩)
      · exact ⟨call, List.mem_append_left _ hcall, h⟩
      · exact ⟨(j, a), by simp, hk, hm⟩
    · rintro ⟨call, hcall, hk, hm⟩
      rcases List.mem_append.1 hcall with hcall | hcall
      · exact .inl ⟨call, hcall, hk, hm⟩
      · obtain rfl := List.mem_singleton.1 hcall
        -- a group that the class had already comes from an earlier call
        by_cases hg : row.group ∈ Population.identifierGroups (own j calls)
        · obtain ⟨b, hb, hgb⟩ := List.mem_flatMap.1 (List.mem_eraseDups.1 hg)
          exact .inl ⟨(j, b), mem_own_iff.1 hb, hk, mem_groups_iff.1 hgb⟩
        · exact .inr ⟨hk, hg, hm⟩

lemma count_parts_recordAll (part : IdentifierAttributeRow) :
    ((start key).recordAll calls).population.identifierAttributes.count part =
      calls.countP fun call => key call.1 = (part.className, part.domain) ∧
        call.2.name = part.attributeName ∧ ∃ m ∈ call.2.memberships, m.group = part.group := by
  induction calls using List.reverseRecOn with
  | nil => rfl
  | append_singleton calls call ih =>
    obtain ⟨j, a⟩ := call
    rw [recordAll_concat, record, classes_recordAll, Population.count_parts_addAttribute, ih,
      List.countP_append, List.countP_singleton]
    simp only [decide_eq_true_eq]

lemma nodup_identifiers_recordAll (hkey : Function.Injective key) :
    ((start key).recordAll calls).population.identifiers.Nodup := by
  rw [List.nodup_iff_count_le_one]
  intro row
  by_cases hrow : row ∈ ((start key).recordAll calls).population.identifiers
  · -- the row stands among those of its class, which come from different groups
    obtain ⟨⟨i, a⟩, -, hk, -⟩ := (mem_identifiers_recordAll_iff row).1 hrow
    have hnodup :
        (((start key).recordAll calls).population.identifiersOf (key i).1 (key i).2).Nodup := by
      rw [identifiersOf_recordAll hkey]
      exact (nodup_eraseDups _).map fun _ _ h => congrArg IdentifierRow.group h
    have hfilter : (((start key).recordAll calls).population.identifiersOf
        (key i).1 (key i).2).count row =
          ((start key).recordAll calls).population.identifiers.count row :=
      List.count_filter (by simp [hk])
    exact hfilter ▸ List.nodup_iff_count_le_one.1 hnodup row
  · rw [List.count_eq_zero_of_not_mem hrow]
    exact Nat.zero_le 1

/-- **Rows under interleaving.**  In whatever order attributes of several classes are recorded, if
no two of the classes have both name and domain in common, the tables and what is kept of each
class agree with the calls, and each class has the rows that it would have alone. -/
theorem recordAll_consistent (key : ι → String × String) (hkey : Function.Injective key)
    (calls : List (ι × Attribute)) : Consistent key calls ((start key).recordAll calls) where
  identifiers_nodup := nodup_identifiers_recordAll hkey
  mem_identifiers_iff := mem_identifiers_recordAll_iff
  groups_eq i := by
    rw [identifiersOf_recordAll hkey, classes_recordAll, List.map_map]
    exact (List.map_id _).symm
  identifier_of_part part hpart := by
    rw [← List.count_pos_iff, count_parts_recordAll, List.countP_pos_iff] at hpart
    obtain ⟨call, hcall, h⟩ := hpart
    obtain ⟨hk, -, hm⟩ := of_decide_eq_true h
    exact (mem_identifiers_recordAll_iff _).2 ⟨call, hcall, hk, hm⟩
  attribute_of_part part hpart := by
    rw [← List.count_pos_iff, count_parts_recordAll, List.countP_pos_iff] at hpart
    obtain ⟨⟨i, a⟩, hcall, h⟩ := hpart
    obtain ⟨hk, hname, -⟩ := of_decide_eq_true h
    have hrow : Population.attributeRow (key i).1 (key i).2 a ∈
        ((start key).recordAll calls).population.attributesOf (key i).1 (key i).2 := by
      rw [attributesOf_recordAll hkey]
      exact List.mem_map_of_mem (mem_own_iff.2 hcall)
    exact ⟨_, List.mem_of_mem_filter hrow, hname, hk⟩
  count_parts := count_parts_recordAll
  ofClass_eq := ofClass_recordAll hkey calls

/-- Berths of a harbour and of an airport, told apart by their domains. -/
def berthKey (airport : Bool) : String × String :=
  ("Berth", if airport then "Airport" else "Harbour")

/-- The classes take turns, and the number of a berth is listed twice in its identifier. -/
def berthCalls : List (Bool × Attribute) :=
  [(true, ⟨"Number", some "Count", [⟨1, false⟩, ⟨1, true⟩]⟩),
    (false, ⟨"Number", some "Count", [⟨1, false⟩]⟩),
    (true, ⟨"Hangar", some "Name", [⟨1, false⟩, ⟨2, false⟩]⟩),
    (false, ⟨"Pier", none, []⟩),
    (true, ⟨"Number", some "Count", [⟨1, false⟩]⟩)]

theorem recordAll_consistent_berths :
    Function.Injective berthKey ∧
      Consistent berthKey berthCalls ((start berthKey).recordAll berthCalls) ∧
      ((start berthKey).recordAll berthCalls).population.identifiers =
        [⟨1, "Berth", "Airport"⟩, ⟨1, "Berth", "Harbour"⟩, ⟨2, "Berth", "Airport"⟩] ∧
      ((start berthKey).recordAll berthCalls).population.identifierAttributes.count
        ⟨1, "Number", "Berth", "Airport"⟩ = 2 := by
  have hkey : Function.Injective berthKey := by
    intro airport airport' h
    cases airport <;> cases airport' <;> simp [berthKey] at h ⊢
  have h := recordAll_consistent berthKey hkey berthCalls
  exact ⟨hkey, h, by decide, (h.count_parts _).trans (by decide)⟩

end Recording

end ClassSchema
