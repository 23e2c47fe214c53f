import ClassSchema.Model.Subsystem
import ClassSchema.Proofs.Model.Relationship
import Mathlib.Data.List.Forall2

/-
# The four shapes of records

A record is a relationship in one of four shapes, and which one it has is seen from the members
that are present.  `HasShape` says for each shape which members these are, without an order in
which they are looked at; `Carries` says which of them the relationship takes over, as they stand.
The classification looks at the members one after the other and stops at the first defect.  It
accepts exactly the records that have a shape (`classification_exact`), and of the records of a
subsystem it blames the first that has none.
-/

namespace ClassSchema.Model

open Outcome

/-! ### Shapes -/

inductive Shape where
  | association
  | associative
  | generalization
  | ordinal
deriving DecidableEq, Repr

def Relationship.shape : Relationship → Shape
  | .association _ => .association
  | .associative _ => .associative
  | .generalization _ => .generalization
  | .ordinal _ => .ordinal

namespace RelationshipRecord

/-- The classes at which the paths of a generalization start. -/
def sources (r : RelationshipRecord) : List String := r.genrefs.map (·.source.className)

structure IsAssociation (r : RelationshipRecord) : Prop where
  superclass : r.superclass = none
  ascend : r.ascend = none
  ref2 : r.ref2 = none
  ref1 : r.ref1.isSome
  tSide : r.tSide.isSome
  pSide : r.pSide.isSome

structure IsAssociative (r : RelationshipRecord) : Prop where
  superclass : r.superclass = none
  ascend : r.ascend = none
  ref1 : r.ref1.isSome
  ref2 : r.ref2.isSome
  associationClass : r.associationClass.isSome
  tSide : r.tSide.isSome
  pSide : r.pSide.isSome

structure IsGeneralization (r : RelationshipRecord) : Prop where
  superclass : r.superclass.isSome
  ref1 : r.ref1 = none
  ref2 : r.ref2 = none
  ascend : r.ascend = none
  subclasses : r.subclasses ≠ []
  genrefs : r.genrefs ≠ []
  /-- There is one path, or one for each subclass. -/
  paths : r.genrefs.length = 1 ∨ r.sources.Nodup ∧ ∀ c, c ∈ r.sources ↔ c ∈ r.subclasses

structure IsOrdinal (r : RelationshipRecord) : Prop where
  ascend : r.ascend.isSome
  superclass : r.superclass = none
  ref2 : r.ref2 = none

/-- The members that make up a shape are present, and those that stand in its way are absent. -/
def HasShape (r : RelationshipRecord) : Shape → Prop
  | .association => r.IsAssociation
  | .associative => r.IsAssociative
  | .generalization => r.IsGeneralization
  | .ordinal => r.IsOrdinal

/-- A relationship has the members of its shape from the record. -/
def Carries (r : RelationshipRecord) : Relationship → Prop
  | .association x =>
    x.number = r.number ∧ r.tSide = some x.sides.t ∧ r.pSide = some x.sides.p ∧
      r.ref1 = some x.ref1
  | .associative x =>
    x.number = r.number ∧ r.associationClass = some x.associationClass ∧
      r.tSide = some x.sides.t ∧ r.pSide = some x.sides.p ∧ r.ref1 = some x.ref1 ∧
      r.ref2 = some x.ref2
  | .generalization x =>
    x.number = r.number ∧ r.superclass = some x.superclass ∧ x.subclasses = r.subclasses ∧
      x.genrefs = r.genrefs
  | .ordinal x =>
    x.number = r.number ∧ ∃ ascend, r.ascend = some ascend ∧
      x.orderedClass = (ascend.member? "cname").bind Json.Value.string?

variable {r : RelationshipRecord}

/-! ### Which way a record goes -/

/-- A record has too many markers, or that of a generalization only, or that of an ordering only,
or none of the two. -/
lemma marker_cases (r : RelationshipRecord) :
    1 < r.markerCount ∨
    (∃ superclass, r.superclass = some superclass ∧ r.ref2 = none ∧ r.ascend = none) ∨
    (∃ ascend, r.ascend = some ascend ∧ r.superclass = none ∧ r.ref2 = none) ∨
    (r.superclass = none ∧ r.ascend = none) := by
  rw [markerCount]
  cases r.superclass <;> cases r.ref2 <;> cases r.ascend <;> simp

lemma kind_of_several (h : 1 < r.markerCount) : r.kind = .error .severalKinds := if_pos h

lemma kind_of_superclass {superclass : String} (hsuper : r.superclass = some superclass)
    (href2 : r.ref2 = none) (hascend : r.ascend = none) :
    r.kind = (r.asGeneralization superclass).map .generalization := by
  simp [kind, markerCount, hsuper, href2, hascend]

lemma kind_of_ascend {ascend : Json.Value} (hascend : r.ascend = some ascend)
    (hsuper : r.superclass = none) (href2 : r.ref2 = none) :
    r.kind = .ok (.ordinal (r.asOrdinal ascend)) := by
  simp [kind, markerCount, hsuper, href2, hascend]

lemma kind_of_neither (hsuper : r.superclass = none) (hascend : r.ascend = none) :
    r.kind = r.asBinary := by
  -- a second path alone is no second marker
  have hcount : ¬ 1 < r.markerCount := by
    rw [markerCount, hsuper, hascend]
    cases r.ref2 <;> simp
  rw [kind, if_neg hcount, hsuper, hascend]

/-! ### Each way ends in its shape -/

lemma asGeneralization_eq_ok_iff_paths {superclass : String} {g : Generalization} :
    r.asGeneralization superclass = .ok g ↔
      g = ⟨r.number, superclass, r.subclasses, r.genrefs⟩ ∧ r.ref1 = none ∧ r.subclasses ≠ [] ∧
      r.genrefs ≠ [] ∧
      (r.genrefs.length = 1 ∨ r.sources.Nodup ∧ ∀ c, c ∈ r.sources ↔ c ∈ r.subclasses) := by
  rw [asGeneralization_eq_ok_iff, and_left_comm]
  refine and_congr_right fun hg => and_congr_right fun _ => ?_
  subst hg
  constructor
  · intro h
    refine ⟨h.subclasses_ne_nil, h.genrefs_ne_nil, ?_⟩
    have hpos : 0 < r.genrefs.length := List.length_pos_iff.2 h.genrefs_ne_nil
    by_cases hlen : 1 < r.genrefs.length
    · exact .inr ⟨h.sources_nodup hlen, h.mem_sources_iff hlen⟩
    · exact .inl (by omega)
  · rintro ⟨hsub, hgen, hone | ⟨hnodup, hiff⟩⟩
    · exact ⟨hsub, hgen, fun hlen => by simp [hone] at hlen, fun hlen => by simp [hone] at hlen⟩
    · exact ⟨hsub, hgen, fun _ => hnodup, fun _ => hiff⟩

lemma asBinary_eq_ok_iff {x : Relationship} :
    r.asBinary = .ok x ↔ ∃ t p ref1, r.tSide = some t ∧ r.pSide = some p ∧ r.ref1 = some ref1 ∧
      ((∃ ref2 c, r.ref2 = some ref2 ∧ r.associationClass = some c ∧
          x = .associative ⟨r.number, c, ⟨t, p⟩, ref1, ref2⟩) ∨
        (r.ref2 = none ∧ x = .association ⟨r.number, ⟨t, p⟩, ref1⟩)) := by
  rw [asBinary]
  cases r.tSide with
  | none => simp
  | some t =>
    cases r.pSide with
    | none => simp
    | some p =>
      cases r.ref1 with
      | none => simp
      | some ref1 =>
        cases r.ref2 with
        | none => simp [eq_comm]
        | some ref2 => cases r.associationClass <;> simp [eq_comm]

lemma hasShape_and_carries_of_classify {x : Relationship} (h : r.classify = .ok x) :
    r.HasShape x.shape ∧ r.Carries x := by
  rw [classify_eq_ok_iff] at h
  rcases r.marker_cases with hmany | ⟨superclass, hsuper, href2, hascend⟩ |
    ⟨ascend, hascend, hsuper, href2⟩ | ⟨hsuper, hascend⟩
  · rw [kind_of_several hmany] at h
    cases h
  · rw [kind_of_superclass hsuper href2 hascend] at h
    cases hg : r.asGeneralization superclass with
    | error d => simp [hg] at h
    | ok g =>
      rw [hg, map_ok] at h
      obtain rfl := Except.ok.inj h
      obtain ⟨rfl, href1, hsub, hgen, hpaths⟩ := asGeneralization_eq_ok_iff_paths.1 hg
      exact ⟨⟨by simp [hsuper], href1, href2, hascend, hsub, hgen, hpaths⟩, rfl, hsuper, rfl, rfl⟩
  · rw [kind_of_ascend hascend hsuper href2] at h
    obtain rfl := Except.ok.inj h
    exact ⟨⟨by simp [hascend], hsuper, href2⟩, rfl, ascend, hascend, rfl⟩
  · rw [kind_of_neither hsuper hascend, asBinary_eq_ok_iff] at h
    obtain ⟨t, p, ref1, ht, hp, href1, ⟨ref2, c, href2, hc, rfl⟩ | ⟨href2, rfl⟩⟩ := h
    · exact ⟨⟨hsuper, hascend, by simp [href1], by simp [href2], by simp [hc], by simp [ht],
        by simp [hp]⟩, rfl, hc, ht, hp, href1, href2⟩
    · exact ⟨⟨hsuper, hascend, href2, by simp [href1], by simp [ht], by simp [hp]⟩, rfl, ht, hp,
        href1⟩

lemma exists_classify_of_hasShape {shape : Shape} (h : r.HasShape shape) :
    ∃ x, r.classify = .ok x ∧ x.shape = shape := by
  cases shape with
  | association =>
    obtain ⟨ref1, href1⟩ := Option.isSome_iff_exists.1 h.ref1
    obtain ⟨t, ht⟩ := Option.isSome_iff_exists.1 h.tSide
    obtain ⟨p, hp⟩ := Option.isSome_iff_exists.1 h.pSide
    refine ⟨.association ⟨r.number, ⟨t, p⟩, ref1⟩, classify_eq_ok_iff.2 ?_, rfl⟩
    rw [kind_of_neither h.superclass h.ascend, asBinary_eq_ok_iff]
    exact ⟨t, p, ref1, ht, hp, href1, .inr ⟨h.ref2, rfl⟩⟩
  | associative =>
    obtain ⟨ref1, href1⟩ := Option.isSome_iff_exists.1 h.ref1
    obtain ⟨ref2, href2⟩ := Option.isSome_iff_exists.1 h.ref2
    obtain ⟨c, hc⟩ := Option.isSome_iff_exists.1 h.associationClass
    obtain ⟨t, ht⟩ := Option.isSome_iff_exists.1 h.tSide
    obtain ⟨p, hp⟩ := Option.isSome_iff_exists.1 h.pSide
    refine ⟨.associative ⟨r.number, c, ⟨t, p⟩, ref1, ref2⟩, classify_eq_ok_iff.2 ?_, rfl⟩
    rw [kind_of_neither h.superclass h.ascend, asBinary_eq_ok_iff]
    exact ⟨t, p, ref1, ht, hp, href1, .inl ⟨ref2, c, href2, hc, rfl⟩⟩
  | generalization =>
    obtain ⟨superclass, hsuper⟩ := Option.isSome_iff_exists.1 h.superclass
    have hg : r.asGeneralization superclass =
        .ok ⟨r.number, superclass, r.subclasses, r.genrefs⟩ :=
      asGeneralization_eq_ok_iff_paths.2 ⟨rfl, h.ref1, h.subclasses, h.genrefs, h.paths⟩
    refine ⟨.generalization ⟨r.number, superclass, r.subclasses, r.genrefs⟩,
      classify_eq_ok_iff.2 ?_, rfl⟩
    rw [kind_of_superclass hsuper h.ref2 h.ascend, hg, map_ok]
  | ordinal =>
    obtain ⟨ascend, hascend⟩ := Option.isSome_iff_exists.1 h.ascend
    refine ⟨.ordinal (r.asOrdinal ascend), classify_eq_ok_iff.2 ?_, rfl⟩
    exact kind_of_ascend hascend h.superclass h.ref2

/-- A record is classified if it has a shape. -/
lemma exists_classify_iff : (∃ x, r.classify = .ok x) ↔ ∃ shape, r.HasShape shape := by
  constructor
  · rintro ⟨x, hx⟩
    exact ⟨x.shape, (hasShape_and_carries_of_classify hx).1⟩
  · rintro ⟨shape, h⟩
    obtain ⟨x, hx, -⟩ := exists_classify_of_hasShape h
    exact ⟨x, hx⟩

/-- A defect is reported with the number of the record. -/
lemma number_of_classify {m : Malformed} (h : r.classify = .error m) : m.number = r.number := by
  rw [classify] at h
  cases hkind : r.kind with
  | ok x => simp [hkind] at h
  | error d =>
    rw [hkind, mapError_error] at h
    obtain rfl := Except.error.inj h
    rfl

/-- A record that has no shape is malformed. -/
lemma exists_defect_iff :
    (∃ d, r.classify = .error ⟨r.number, d⟩) ↔ ∀ shape, ¬ r.HasShape shape := by
  rw [← not_exists, ← exists_classify_iff]
  cases h : r.classify with
  | ok x => simp
  | error m =>
    have hnumber : m.number = r.number := number_of_classify h
    simp only [reduceCtorEq, exists_false, not_false_eq_true, iff_true]
    exact ⟨m.defect, by rw [← hnumber]⟩

end RelationshipRecord

/-! ### The records of a subsystem -/

lemma classifyAll_eq_ok_iff {rs : List RelationshipRecord} {xs : List Relationship} :
    classifyAll rs = .ok xs ↔ List.Forall₂ (fun r x => r.classify = .ok x) rs xs := by
  induction rs generalizing xs with
  | nil =>
    rw [List.forall₂_nil_left_iff, classifyAll, Except.ok.injEq]
    exact eq_comm
  | cons r rest ih =>
    rw [classifyAll, bind_eq_ok_iff, List.forall₂_cons_left_iff]
    constructor
    · rintro ⟨x, hx, hrest⟩
      obtain ⟨ys, hys, hxs⟩ := bind_eq_ok_iff.1 hrest
      exact ⟨x, ys, hx, ih.1 hys, (Except.ok.inj hxs).symm⟩
    · rintro ⟨x, ys, hx, hys, rfl⟩
      exact ⟨x, hx, bind_eq_ok_iff.2 ⟨ys, ih.2 hys, rfl⟩⟩

lemma exists_classify_of_classifyAll {rs : List RelationshipRecord} {xs : List Relationship}
    (h : classifyAll rs = .ok xs) : ∀ r ∈ rs, ∃ x, r.classify = .ok x := by
  rw [classifyAll_eq_ok_iff] at h
  induction h with
  | nil => simp
  | cons hx _ ih => exact List.forall_mem_cons.2 ⟨⟨_, hx⟩, ih⟩

/-- The first record that is no relationship is to blame. -/
lemma classifyAll_eq_error_iff {rs : List RelationshipRecord} {m : Malformed} :
    classifyAll rs = .error m ↔ ∃ before r after, rs = before ++ r :: after ∧
      (∀ b ∈ before, ∃ x, b.classify = .ok x) ∧ r.classify = .error m := by
  induction rs with
  | nil => simp [classifyAll]
  | cons r rest ih =>
    rw [classifyAll]
    cases hr : r.classify with
    | error m' =>
      rw [error_bind, Except.error.injEq]
      constructor
      · rintro rfl
        exact ⟨[], r, rest, rfl, by simp, hr⟩
      · rintro ⟨_ | ⟨b, before⟩, r', after, hsplit, hbefore, hr'⟩
        · obtain ⟨rfl, -⟩ := List.cons.inj hsplit
          exact Except.error.inj (hr.symm.trans hr')
        · obtain ⟨rfl, -⟩ := List.cons.inj hsplit
          obtain ⟨x, hx⟩ := hbefore r List.mem_cons_self
          cases hr.symm.trans hx
    | ok x =>
      have hrest : (classifyAll rest >>= fun xs => Except.ok (x :: xs)) = .error m ↔
          classifyAll rest = .error m := by
        cases classifyAll rest <;> simp
      rw [ok_bind, hrest, ih]
      constructor
      · rintro ⟨before, r', after, rfl, hbefore, hr'⟩
        exact ⟨r :: before, r', after, rfl, List.forall_mem_cons.2 ⟨⟨x, hr⟩, hbefore⟩, hr'⟩
      · rintro ⟨_ | ⟨b, before⟩, r', after, hsplit, hbefore, hr'⟩
        · obtain ⟨rfl, -⟩ := List.cons.inj hsplit
          cases hr.symm.trans hr'
        · obtain ⟨rfl, rfl⟩ := List.cons.inj hsplit
          exact ⟨before, r', after, rfl, (List.forall_mem_cons.1 hbefore).2, hr'⟩

namespace SubsystemRecord

variable {s : SubsystemRecord} {fallback : String}

lemma subsystem_eq_ok_iff {t : Subsystem} : s.subsystem fallback = .ok t ↔
    t.name = s.name.getD fallback ∧ t.domain = s.domain ∧ t.classes = s.classes ∧
      List.Forall₂ (fun r x => r.classify = .ok x) s.relationships t.relationships := by
  rw [subsystem, ← classifyAll_eq_ok_iff]
  obtain ⟨name, domain, classes, relationships⟩ := t
  cases classifyAll s.relationships with
  | error m => simp
  | ok xs =>
    simp only [Except.ok.injEq, Subsystem.mk.injEq]
    constructor
    · rintro ⟨rfl, rfl, rfl, rfl⟩
      exact ⟨rfl, rfl, rfl, rfl⟩
    · rintro ⟨rfl, rfl, rfl, rfl⟩
      exact ⟨rfl, rfl, rfl, rfl⟩

lemma subsystem_eq_error_iff {e : ModelError} : s.subsystem fallback = .error e ↔
    ∃ m, classifyAll s.relationships = .error m ∧ e = .malformed (s.name.getD fallback) m := by
  rw [subsystem]
  cases classifyAll s.relationships <;> simp [eq_comm]

/-- A subsystem can be read if all its records are relationships. -/
lemma exists_subsystem_iff : (∃ t, s.subsystem fallback = .ok t) ↔
    ∀ r ∈ s.relationships, ∃ x, r.classify = .ok x := by
  rw [subsystem]
  cases h : classifyAll s.relationships with
  | ok xs => exact iff_of_true ⟨_, rfl⟩ (exists_classify_of_classifyAll h)
  | error m =>
    obtain ⟨before, r, after, hsplit, -, hr⟩ := classifyAll_eq_error_iff.1 h
    refine iff_of_false (by simp) fun hall => ?_
    obtain ⟨x, hx⟩ := hall r (by simp [hsplit])
    cases hr.symm.trans hx

end SubsystemRecord

/-- **The classification is exact.**  A record becomes a relationship of a shape if and only if it
has the shape, and takes its members over as they stand; a record without a shape is malformed
under its number.  A subsystem is read if and only if all its records have shapes, with its
relationships in the order of the records; else the first record without a shape is reported. -/
theorem classification_exact (r : RelationshipRecord) (s : SubsystemRecord) (fallback : String) :
    ((∀ shape, (∃ x, r.classify = .ok x ∧ x.shape = shape) ↔ r.HasShape shape) ∧
      (∀ x, r.classify = .ok x → r.Carries x) ∧
      ((∃ d, r.classify = .error ⟨r.number, d⟩) ↔ ∀ shape, ¬ r.HasShape shape)) ∧
    ((∃ t, s.subsystem fallback = .ok t) ↔ ∀ q ∈ s.relationships, ∃ shape, q.HasShape shape) ∧
    (∀ t, s.subsystem fallback = .ok t → t.name = s.name.getD fallback ∧ t.domain = s.domain ∧
      t.classes = s.classes ∧
      List.Forall₂ (fun q x => q.classify = .ok x) s.relationships t.relationships) ∧
    ∀ e, s.subsystem fallback = .error e → ∃ before bad after d,
      s.relationships = before ++ bad :: after ∧ (∀ q ∈ before, ∃ shape, q.HasShape shape) ∧
      (∀ shape, ¬ bad.HasShape shape) ∧ bad.classify = .error ⟨bad.number, d⟩ ∧
      e = .malformed (s.name.getD fallback) ⟨bad.number, d⟩ := by
  refine ⟨⟨fun shape => ⟨?_, RelationshipRecord.exists_classify_of_hasShape⟩,
    fun x hx => (RelationshipRecord.hasShape_and_carries_of_classify hx).2,
    RelationshipRecord.exists_defect_iff⟩, ?_,
    fun t ht => SubsystemRecord.subsystem_eq_ok_iff.1 ht, fun e he => ?_⟩
  · rintro ⟨x, hx, rfl⟩
    exact (RelationshipRecord.hasShape_and_carries_of_classify hx).1
  · rw [SubsystemRecord.exists_subsystem_iff]
    exact forall₂_congr fun q _ => RelationshipRecord.exists_classify_iff
  · obtain ⟨m, hm, rfl⟩ := SubsystemRecord.subsystem_eq_error_iff.1 he
    obtain ⟨before, bad, after, hsplit, hbefore, hbad⟩ := classifyAll_eq_error_iff.1 hm
    have hnumber : m = ⟨bad.number, m.defect⟩ := by
      rw [← RelationshipRecord.number_of_classify hbad]
    refine ⟨before, bad, after, m.defect, hsplit, fun q hq => ?_, ?_, hnumber ▸ hbad,
      congrArg _ hnumber⟩
    · exact RelationshipRecord.exists_classify_iff.1 (hbefore q hq)
    · exact RelationshipRecord.exists_defect_iff.1 ⟨m.defect, hnumber ▸ hbad⟩

/-- Records of vessels: a generalization with a path for each subclass, one of which is named
twice, and a record with a second path that does not say which class holds the two. -/
def vessels : SubsystemRecord where
  name := none
  domain := "Harbour"
  classes := []
  relationships :=
    [{ (default : RelationshipRecord) with
        number := "R1"
        superclass := some "Vessel"
        subclasses := ["Tug", "Ferry", "Tug"]
        genrefs :=
          [⟨⟨"Ferry", ["Hull"]⟩, ⟨"Vessel", ["Hull"]⟩⟩, ⟨⟨"Tug", ["Hull"]⟩, ⟨"Vessel", ["Hull"]⟩⟩] },
      { (default : RelationshipRecord) with
        number := "R2"
        tSide := some ⟨"Vessel", .zeroOneOrMany, none⟩
        pSide := some ⟨"Berth", .zeroOrOne, none⟩
        ref1 := some ⟨⟨"Mooring", ["Hull"]⟩, ⟨"Vessel", ["Hull"]⟩⟩
        ref2 := some ⟨⟨"Mooring", ["Berth"]⟩, ⟨"Berth", ["Number"]⟩⟩ }]

/-- The first record is a generalization, and the second is the one that is reported. -/
theorem classification_exact_vessels :
    (∃ x, vessels.relationships[0].classify = .ok x ∧ x.shape = .generalization) ∧
      ∃ d, vessels.subsystem "Port" = .error (.malformed "Port" ⟨"R2", d⟩) := by
  obtain ⟨⟨hshape, -, -⟩, -, -, herror⟩ :=
    classification_exact vessels.relationships[0] vessels "Port"
  have hgeneralization : vessels.relationships[0].IsGeneralization :=
    ⟨rfl, rfl, rfl, rfl, by decide, by decide, .inr ⟨by decide, fun c => by
      simp only [vessels, RelationshipRecord.sources, List.getElem_cons_zero, List.map_cons,
        List.map_nil, List.mem_cons, List.not_mem_nil, or_false]
      tauto⟩⟩
  refine ⟨(hshape .generalization).2 hgeneralization, ?_⟩
  cases h : vessels.subsystem "Port" with
  | ok t =>
    have hfails : (vessels.subsystem "Port").toBool = false := by decide +kernel
    rw [h] at hfails
    cases hfails
  | error e =>
    -- the record that is reported has no shape, so it is not the first one
    obtain ⟨before, bad, after, d, hsplit, -, hbad, -, rfl⟩ := herror e h
    rcases before with _ | ⟨first, _ | ⟨second, rest⟩⟩
    · obtain ⟨rfl, -⟩ := List.cons.inj hsplit
      exact absurd hgeneralization (hbad .generalization)
    · obtain ⟨rfl, -⟩ := List.cons.inj (List.cons.inj hsplit).2
      exact ⟨d, rfl⟩
    · simp [vessels] at hsplit

end ClassSchema.Model
