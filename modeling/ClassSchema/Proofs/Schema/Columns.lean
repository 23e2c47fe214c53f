import ClassSchema.Proofs.Schema.Validity
import ClassSchema.Store.Engine

/-
# The columns of a relation

A relation is stored under its key, and its other attributes follow.  If the relation is well-formed
the two lists together are a rearrangement of its attributes (`WellFormed.columns_perm`), so no
check that only asks which columns there are can tell how they are stored.
-/

namespace ClassSchema.Schema.Relation

open OrderedMap

variable {r : Relation}

lemma name_of_attribute? {n : String} {a : Attribute} (h : r.attribute? n = some a) :
    a.name = n := by
  simpa using List.find?_some h

lemma exists_attribute? {n : String} (h : n ∈ r.columns) : ∃ a, r.attribute? n = some a := by
  obtain ⟨a, ha, rfl⟩ := List.mem_map.1 h
  refine Option.isSome_iff_exists.1 (List.find?_isSome.2 ⟨a, ha, ?_⟩)
  simp

/-- The attributes that a list of names stands for have these names. -/
lemma map_name_filterMap_attribute? {names : List String} (h : ∀ n ∈ names, n ∈ r.columns) :
    (names.filterMap r.attribute?).map (·.name) = names := by
  induction names with
  | nil => rfl
  | cons n rest ih =>
    rw [List.forall_mem_cons] at h
    obtain ⟨a, ha⟩ := exists_attribute? h.1
    rw [List.filterMap_cons, ha, List.map_cons, name_of_attribute? ha, ih h.2]

/-- The key of a well-formed relation has columns of the relation, none of them twice. -/
lemma WellFormed.key_nodup (h : r.WellFormed) : (r.keyAttributes.map (·.name)).Nodup ∧
    ∀ n ∈ r.keyAttributes.map (·.name), n ∈ r.columns := by
  rw [keyAttributes]
  cases hvalues : r.identifiers.values with
  | nil => exact ⟨h.columns_nodup, fun n hn => hn⟩
  | cons group rest =>
    have hmem : group ∈ r.identifiers.values := by simp [hvalues]
    obtain ⟨e, he, rfl⟩ := List.mem_map.1 hmem
    have hget := mem_entries_iff.1 he
    dsimp only
    rw [map_name_filterMap_attribute? (h.identifier_mem _ _ hget)]
    exact ⟨h.identifier_nodup _ _ hget, h.identifier_mem _ _ hget⟩

/-- The key and the other attributes together are all attributes. -/
lemma WellFormed.columns_perm (h : r.WellFormed) :
    r.columns.Perm (StoredRelation.columns ⟨r.keyAttributes, r.valueAttributes⟩) := by
  obtain ⟨hkey, hsubset⟩ := h.key_nodup
  have hrest : r.valueAttributes.map (·.name) =
      r.columns.filter fun n => n ∉ r.keyAttributes.map (·.name) := by
    rw [valueAttributes, columns, List.filter_map]
    rfl
  rw [StoredRelation.columns, hrest]
  -- neither side has a name twice, so only membership is left
  refine (List.perm_ext_iff_of_nodup h.columns_nodup ?_).2 fun n => ?_
  · rw [List.nodup_append]
    refine ⟨hkey, h.columns_nodup.sublist List.filter_sublist, ?_⟩
    rintro n hn m hm rfl
    simpa [hn] using (List.mem_filter.1 hm).2
  · rw [List.mem_append, List.mem_filter, decide_eq_true_eq]
    constructor
    · intro hn
      by_cases hmem : n ∈ r.keyAttributes.map (·.name)
      · exact .inl hmem
      · exact .inr ⟨hn, hmem⟩
    · rintro (hn | ⟨hn, -⟩)
      · exact hsubset n hn
      · exact hn

lemma mem_attributes_of_mem_key {a : Attribute} (h : a ∈ r.keyAttributes) :
    a ∈ r.attributes := by
  rw [keyAttributes] at h
  split at h
  · obtain ⟨n, -, hn⟩ := List.mem_filterMap.1 h
    exact List.mem_of_find?_eq_some hn
  · exact h

lemma mem_attributes_of_mem_value {a : Attribute} (h : a ∈ r.valueAttributes) :
    a ∈ r.attributes := List.mem_of_mem_filter h

end ClassSchema.Schema.Relation
