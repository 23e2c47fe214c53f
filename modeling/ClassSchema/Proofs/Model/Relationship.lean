import ClassSchema.Model.Relationship
import ClassSchema.Proofs.Outcome

/-
# What the classification of records says

A record becomes a generalization after a row of checks that stop at the first defect.  Together
they say (`asGeneralization_eq_ok_iff`): there is no path of another kind, there are subclasses and
paths, and several paths serve one subclass each (`genrefDefect?_eq_none_iff`).
-/

namespace ClassSchema.Model

open Outcome

/-! ### Sources of paths -/

lemma badSource?_eq_none_iff {subclasses before sources : List String} :
    badSource? subclasses before sources = none ↔
      sources.Nodup ∧ (∀ c ∈ sources, c ∈ subclasses) ∧ ∀ c ∈ sources, c ∉ before := by
  induction sources generalizing before with
  | nil => simp [badSource?]
  | cons c rest ih =>
    rw [badSource?]
    split
    next h => simp [h]
    next hsub =>
      split
      next h => simp [h]
      next hbefore =>
        rw [not_not] at hsub
        rw [ih, List.nodup_cons]
        simp only [List.mem_cons, not_or, forall_eq_or_imp, hsub, hbefore, true_and,
          not_false_eq_true]
        constructor
        · rintro ⟨hrest, hsubs, hnot⟩
          exact ⟨⟨fun hc => (hnot c hc).1 rfl, hrest⟩, hsubs, fun d hd => (hnot d hd).2⟩
        · rintro ⟨⟨hc, hrest⟩, hsubs, hnot⟩
          exact ⟨hrest, hsubs, fun d hd => ⟨fun hdc => hc (hdc ▸ hd), hnot d hd⟩⟩

/-- Several paths are in order when they start at different classes and these are the subclasses. -/
lemma genrefDefect?_eq_none_iff {subclasses : List String} {genrefs : List ReferencePath} :
    genrefDefect? subclasses genrefs = none ↔
      (genrefs.map (·.source.className)).Nodup ∧
      ∀ c, c ∈ genrefs.map (·.source.className) ↔ c ∈ subclasses := by
  have hfind : subclasses.find? (fun c => c ∉ genrefs.map (·.source.className)) = none ↔
      ∀ c ∈ subclasses, c ∈ genrefs.map (·.source.className) := by
    simp only [List.find?_eq_none, decide_eq_true_eq, not_not]
  rw [genrefDefect?, Option.or_eq_none_iff, badSource?_eq_none_iff, Option.map_eq_none_iff, hfind]
  constructor
  · rintro ⟨⟨hnodup, hsub, -⟩, hall⟩
    exact ⟨hnodup, fun c => ⟨hsub c, hall c⟩⟩
  · rintro ⟨hnodup, hiff⟩
    exact ⟨⟨hnodup, fun c => (hiff c).1, fun _ _ => List.not_mem_nil⟩, fun c => (hiff c).2⟩

/-! ### Generalizations -/

/-- A generalization has subclasses and paths, and of several paths just one starts at each
subclass. -/
structure Generalization.WellFormed (r : Generalization) : Prop where
  subclasses_ne_nil : r.subclasses ≠ []
  genrefs_ne_nil : r.genrefs ≠ []
  sources_nodup : 1 < r.genrefs.length → (r.genrefs.map (·.source.className)).Nodup
  mem_sources_iff : 1 < r.genrefs.length →
    ∀ c, c ∈ r.genrefs.map (·.source.className) ↔ c ∈ r.subclasses

namespace RelationshipRecord

variable {r : RelationshipRecord}

lemma asGeneralization_eq_ok_iff {superclass : String} {g : Generalization} :
    r.asGeneralization superclass = .ok g ↔
      r.ref1 = none ∧ g = ⟨r.number, superclass, r.subclasses, r.genrefs⟩ ∧ g.WellFormed := by
  have hwell : Generalization.WellFormed ⟨r.number, superclass, r.subclasses, r.genrefs⟩ ↔
      r.subclasses ≠ [] ∧ r.genrefs ≠ [] ∧
      (1 < r.genrefs.length → genrefDefect? r.subclasses r.genrefs = none) := by
    rw [genrefDefect?_eq_none_iff]
    exact ⟨fun h => ⟨h.1, h.2, fun hlen => ⟨h.3 hlen, h.4 hlen⟩⟩,
      fun ⟨h, h', h''⟩ => ⟨h, h', fun hlen => (h'' hlen).1, fun hlen => (h'' hlen).2⟩⟩
  rw [asGeneralization]
  constructor
  · intro h
    split at h
    · cases h
    next href =>
      split at h
      · cases h
      next hsub =>
        split at h
        · cases h
        next hgen =>
          split at h
          · cases h
          next hdefect =>
            obtain rfl := Except.ok.inj h
            refine ⟨by simpa using href, rfl, hwell.2 ⟨by simpa using hsub, by simpa using hgen,
              fun hlen => ?_⟩⟩
            rwa [if_pos hlen] at hdefect
  · rintro ⟨href, rfl, h⟩
    obtain ⟨hsub, hgen, hdefect⟩ := hwell.1 h
    have hnone : (if 1 < r.genrefs.length then genrefDefect? r.subclasses r.genrefs else none) =
        none := by
      split
      next hlen => exact hdefect hlen
      next => rfl
    simp [href, hsub, hgen, hnone]

lemma classify_eq_ok_iff {x : Relationship} : r.classify = .ok x ↔ r.kind = .ok x := by
  rw [classify]
  cases r.kind <;> simp

/-- A generalization that a record writes down is well formed. -/
lemma wellFormed_of_classify {g : Generalization} (h : r.classify = .ok (.generalization g)) :
    g.WellFormed := by
  rw [classify_eq_ok_iff, kind] at h
  split at h
  · cases h
  · split at h
    next superclass _ =>
      cases hg : r.asGeneralization superclass with
      | error d => simp [hg] at h
      | ok g' =>
        rw [hg, map_ok] at h
        obtain rfl := Relationship.generalization.inj (Except.ok.inj h)
        exact (asGeneralization_eq_ok_iff.1 hg).2.2
    next => cases h
    next =>
      -- a record of two sides is no generalization
      rw [asBinary] at h
      repeat' split at h
      all_goals cases h

end RelationshipRecord

end ClassSchema.Model
