import ClassSchema.Population
import Mathlib.Data.List.Basic
import Mathlib.Data.List.Induction

/-
# The rows of a class

A population is written class by class and within a class attribute by attribute, with what has
been recorded of the class so far at hand.  Here the tables are given at once: those of a class
(`addAttributes_eq`), those of several classes (`addAll_eq`), and, out of the latter, the rows of
one class again (`filter_flatMap_of_nodup`), which works when no two classes have both name and
domain in common.
-/

namespace ClassSchema

open Model

/-! ### Lists -/

lemma nodup_eraseDups {α : Type} [DecidableEq α] (xs : List α) : xs.eraseDups.Nodup := by
  induction xs using List.reverseRecOn with
  | nil => exact List.nodup_nil
  | append_singleton rest x ih =>
    rw [List.eraseDups_append, List.nodup_append]
    by_cases hx : x ∈ rest
    · simp [List.removeAll, hx, ih]
    · refine ⟨ih, by simp [List.removeAll, hx, List.eraseDups_cons], ?_⟩
      intro a ha b hb
      have hba : b = x := by simpa [List.removeAll, hx, List.eraseDups_cons] using hb
      rintro rfl
      exact hx (hba ▸ List.mem_eraseDups.1 ha)

lemma eraseDups_eq_self {α : Type} [DecidableEq α] {xs : List α} (h : xs.Nodup) :
    xs.eraseDups = xs := by
  induction xs with
  | nil => rfl
  | cons x rest ih =>
    obtain ⟨hx, hrest⟩ := List.nodup_cons.1 h
    have hfilter : rest.filter (fun y => !y == x) = rest := by
      rw [List.filter_eq_self]
      intro y hy
      simpa using fun hyx : y = x => hx (hyx ▸ hy)
    rw [List.eraseDups_cons, hfilter, ih hrest]

/-- Out of the rows of several owners those of one are found again by their key, if the keys of
the owners differ. -/
lemma filter_flatMap_of_nodup {α β κ : Type} [DecidableEq κ] {key : α → κ} {owner : β → κ}
    {rows : α → List β} (hrows : ∀ a, ∀ b ∈ rows a, owner b = key a) {as : List α}
    (has : (as.map key).Nodup) {a : α} (ha : a ∈ as) :
    (as.flatMap rows).filter (fun b => owner b = key a) = rows a := by
  have hown : (rows a).filter (fun b => owner b = key a) = rows a := by
    rw [List.filter_eq_self]
    intro b hb
    simpa using hrows a b hb
  have hother : ∀ a', key a' ≠ key a → (rows a').filter (fun b => owner b = key a) = [] := by
    intro a' hne
    rw [List.filter_eq_nil_iff]
    intro b hb
    simpa [hrows a' b hb] using hne
  induction as with
  | nil => cases ha
  | cons x rest ih =>
    rw [List.map_cons, List.nodup_cons] at has
    rw [List.flatMap_cons, List.filter_append]
    rcases List.mem_cons.1 ha with rfl | hmem
    · -- none of the others has the key
      have hnil : (rest.flatMap rows).filter (fun b => owner b = key a) = [] := by
        rw [List.filter_flatMap, List.flatMap_eq_nil_iff]
        intro y hy
        exact hother y fun hkey => has.1 (hkey ▸ List.mem_map_of_mem hy)
      rw [hown, hnil, List.append_nil]
    · have hne : key x ≠ key a := fun hkey => has.1 (hkey ▸ List.mem_map_of_mem hmem)
      rw [hother x hne, List.nil_append, ih has.2 hmem]

namespace Population

/-! ### One class -/

/-- The row of an attribute of a class. -/
def attributeRow (className domain : String) (a : Attribute) : AttributeRow :=
  ⟨a.name, className, domain, a.typeName⟩

/-- The rows for the parts that an attribute takes in the identifiers of its class. -/
def partRows (className domain : String) (a : Attribute) : List IdentifierAttributeRow :=
  a.groups.map fun g => ⟨g, a.name, className, domain⟩

/-- The identifiers of a class, each where an attribute first names it. -/
def identifierGroups (as : List Attribute) : List UInt32 := (as.flatMap (·.groups)).eraseDups

lemma nodup_groups (a : Attribute) : a.groups.Nodup := nodup_eraseDups _

lemma identifierGroups_concat (as : List Attribute) (a : Attribute) :
    identifierGroups (as ++ [a]) =
      identifierGroups as ++ a.groups.filter fun g => g ∉ identifierGroups as := by
  have hfilter : (a.groups.removeAll (as.flatMap (·.groups))) =
      a.groups.filter fun g => g ∉ identifierGroups as := by
    rw [List.removeAll]
    refine List.filter_congr fun g _ => ?_
    rw [List.elem_eq_mem, decide_not, identifierGroups]
    congr 1
    exact decide_eq_decide.2 List.mem_eraseDups.symm
  rw [identifierGroups, List.flatMap_append, List.flatMap_singleton, List.eraseDups_append,
    hfilter, eraseDups_eq_self ((nodup_groups a).filter _), ← identifierGroups]

lemma addAttributes_concat (p : Population) (c : PopulatedClass) (as : List Attribute)
    (a : Attribute) : p.addAttributes c (as ++ [a]) =
      (p.addAttributes c as).1.addAttribute (p.addAttributes c as).2 a :=
  List.foldl_append

/-- The tables after a class has been recorded, and what is then known of it. -/
lemma addAttributes_eq (p : Population) (className domain : String) (as : List Attribute) :
    p.addAttributes ⟨className, domain, []⟩ as =
      ({ attributes := p.attributes ++ as.map (attributeRow className domain)
         identifiers := p.identifiers ++ (identifierGroups as).map (⟨·, className, domain⟩)
         identifierAttributes :=
          p.identifierAttributes ++ as.flatMap (partRows className domain) },
        ⟨className, domain, identifierGroups as⟩) := by
  -- what is known of the class depends on the attributes before, so the last one is split off
  induction as using List.reverseRecOn with
  | nil => simp [addAttributes, identifierGroups]
  | append_singleton rest a ih =>
    rw [addAttributes_concat, ih]
    simp [addAttribute, identifierGroups_concat, attributeRow, partRows]

/-! ### Several classes -/

/-- Records classes, each with its domain. -/
def addAll (p : Population) (ms : List (String × Model.Class)) : Population :=
  ms.foldl (fun p m => p.addClass m.2 m.1) p

lemma addAll_append (p : Population) (ms ns : List (String × Model.Class)) :
    p.addAll (ms ++ ns) = (p.addAll ms).addAll ns := List.foldl_append

/-- The tables of several classes. -/
lemma addAll_eq (p : Population) (ms : List (String × Model.Class)) :
    p.addAll ms =
      { attributes := p.attributes ++ ms.flatMap fun m =>
          m.2.attributes.map (attributeRow m.2.name m.1)
        identifiers := p.identifiers ++ ms.flatMap fun m =>
          (identifierGroups m.2.attributes).map (⟨·, m.2.name, m.1⟩)
        identifierAttributes := p.identifierAttributes ++ ms.flatMap fun m =>
          m.2.attributes.flatMap (partRows m.2.name m.1) } := by
  induction ms generalizing p with
  | nil => simp [addAll]
  | cons m rest ih =>
    rw [addAll, List.foldl_cons, ← addAll, ih, addClass, addAttributes_eq]
    simp

/-! ### Parts of one group -/

/-- The parts in one group are taken by the attributes that have the group, each once. -/
lemma filter_group_partRows (className domain : String) (as : List Attribute) (g : UInt32) :
    ((as.flatMap (partRows className domain)).filter (·.group = g)).map (·.attributeName) =
      (as.filter fun a => g ∈ a.groups).map (·.name) := by
  have hone : ∀ a : Attribute, ((partRows className domain a).filter (·.group = g)).map
      (·.attributeName) = if g ∈ a.groups then [a.name] else [] := by
    intro a
    have hgroup : a.groups.filter (· = g) = if g ∈ a.groups then [g] else [] := by
      rw [List.filter_eq, (nodup_groups a).count]
      split <;> rfl
    rw [partRows, List.filter_map, Function.comp_def, hgroup]
    split <;> rfl
  induction as with
  | nil => rfl
  | cons a rest ih =>
    rw [List.flatMap_cons, List.filter_append, List.map_append, ih, hone, List.filter_cons]
    by_cases hg : g ∈ a.groups
    · simp [hg]
    · simp [hg]

end Population

end ClassSchema
