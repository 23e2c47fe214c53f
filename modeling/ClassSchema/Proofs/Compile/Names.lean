import ClassSchema.Proofs.Compile.Acceptance
import ClassSchema.Proofs.Compile.Population
import Mathlib.Data.List.Pairwise
import Mathlib.Data.Set.Function
import Mathlib.Order.Fin.Basic

/-
# Names that stay apart

In a schema a space of a model name becomes an underscore, so two names of the model can fall
together.  A compilation that ends well has had no such names: its classes and their attributes
correspond one to one to the relations that it has made and to their columns
(`names_never_collapse`).  Nothing in the model says so.  The classes that are known are known by
their own names, and columns are made without regard to each other; it is the catalog that rejects
a relation under a name that it has, and a relation with two columns of one name.

Classes and attributes are told apart by their places here, as two of them can be alike.
-/

namespace ClassSchema

open Model Schema Outcome

/-! ### Places -/

/-- A class that is not imported, by its place in the model. -/
structure OwnClass (ss : List Subsystem) where
  subsystem : Fin ss.length
  position : Fin (ss.get subsystem).classes.length
  own : ((ss.get subsystem).classes.get position).isImported = false

/-- The class at the place. -/
def OwnClass.record {ss : List Subsystem} (p : OwnClass ss) : Model.Class :=
  (ss.get p.subsystem).classes.get p.position

/-- The name of the relation of the class. -/
def OwnClass.relationName {ss : List Subsystem} (p : OwnClass ss) : String := unspaced p.record.name

/-- An attribute of a class that is not imported, by its place in the model. -/
structure OwnAttribute (ss : List Subsystem) where
  owner : OwnClass ss
  position : Fin owner.record.attributes.length

/-- The name of the column of the attribute. -/
def OwnAttribute.columnName {ss : List Subsystem} (a : OwnAttribute ss) : String :=
  unspaced (a.owner.record.attributes.get a.position).name

/-- The relation and the column of the attribute. -/
def OwnAttribute.column {ss : List Subsystem} (a : OwnAttribute ss) : String × String :=
  (a.owner.relationName, a.columnName)

/-- The relations are those of the classes that are not imported, one for each, and their columns
are those of the attributes, one for each. -/
structure NamesKept (ss : List Subsystem) (rs : List Relation) : Prop where
  relations : Set.BijOn (OwnClass.relationName : OwnClass ss → String) Set.univ
    {n | ∃ r ∈ rs, r.name = n}
  columns : Set.BijOn (OwnAttribute.column : OwnAttribute ss → String × String) Set.univ
    {e | ∃ r ∈ rs, r.name = e.1 ∧ e.2 ∈ r.columns}
  /-- No name stands for two of the relations. -/
  relations_nodup : (rs.map (·.name)).Nodup
  /-- No name stands for two columns of a relation. -/
  columns_nodup : ∀ r ∈ rs, r.columns.Nodup

/-! ### Different places have different names -/

/-- Two places of a list are the same if neither way they are related as pairs of the list are. -/
lemma eq_of_pairwise_of_not {α : Type} {R : α → α → Prop} {xs : List α} (h : xs.Pairwise R)
    {i j : Fin xs.length} (hij : ¬ R (xs.get i) (xs.get j)) (hji : ¬ R (xs.get j) (xs.get i)) :
    i = j := by
  rcases lt_trichotomy i j with hlt | heq | hgt
  · exact absurd (h.rel_get_of_lt hlt) hij
  · exact heq
  · exact absurd (h.rel_get_of_lt hgt) hji

namespace OwnClass

variable {ss : List Subsystem}

lemma mem_ownClasses (p : OwnClass ss) : ((ss.get p.subsystem).domain, p.record) ∈
    ownClasses (ss.get p.subsystem).domain (ss.get p.subsystem).classes :=
  List.mem_map_of_mem (List.mem_filter.2 ⟨List.get_mem _ _, by simpa [record] using p.own⟩)

lemma mem_materialized (p : OwnClass ss) :
    ((ss.get p.subsystem).domain, p.record) ∈ materialized ss :=
  List.mem_flatMap.2 ⟨_, List.get_mem _ _, p.mem_ownClasses⟩

lemma exists_of_mem_materialized {m : String × Model.Class} (hm : m ∈ materialized ss) :
    ∃ p : OwnClass ss, p.record = m.2 := by
  obtain ⟨s, hs, c, hc, hown, rfl⟩ := ClassSchema.mem_materialized.1 hm
  obtain ⟨i, rfl⟩ := List.get_of_mem hs
  obtain ⟨j, rfl⟩ := List.get_of_mem hc
  exact ⟨⟨i, j, hown⟩, rfl⟩

/-- If no name occurs twice among the classes that get relations, classes at different places have
different names, be it in one subsystem or in two. -/
lemma relationName_injective (h : ((materialized ss).map fun m => unspaced m.2.name).Nodup) :
    Function.Injective (relationName : OwnClass ss → String) := by
  rw [List.Nodup, List.pairwise_map, materialized, List.pairwise_flatMap] at h
  obtain ⟨hinside, hacross⟩ := h
  intro p q hname
  have hsubsystem : p.subsystem = q.subsystem := by
    refine eq_of_pairwise_of_not hacross (fun hpq => ?_) fun hqp => ?_
    · exact hpq _ p.mem_ownClasses _ q.mem_ownClasses hname
    · exact hqp _ q.mem_ownClasses _ p.mem_ownClasses hname.symm
  obtain ⟨i, j, hj⟩ := p
  obtain ⟨i', j', hj'⟩ := q
  obtain rfl : i = i' := hsubsystem
  have hclasses := hinside _ (List.get_mem ss i)
  rw [ownClasses, List.pairwise_map, List.pairwise_filter] at hclasses
  obtain rfl : j = j' := by
    refine eq_of_pairwise_of_not hclasses (fun hjj' => ?_) fun hj'j => ?_
    · exact hjj' (by simpa using hj) (by simpa using hj') hname
    · exact hj'j (by simpa using hj') (by simpa using hj) hname.symm
  rfl

end OwnClass

namespace OwnAttribute

variable {ss : List Subsystem}

/-- If no name occurs twice among the attributes of a class, attributes at different places have
different columns. -/
lemma column_injective (hclass : Function.Injective (OwnClass.relationName : OwnClass ss → String))
    (h : ∀ p : OwnClass ss, (p.record.attributes.map fun a => unspaced a.name).Nodup) :
    Function.Injective (column : OwnAttribute ss → String × String) := by
  rintro ⟨p, i⟩ ⟨q, j⟩ hcolumn
  obtain ⟨hrelation, hname⟩ := Prod.mk.inj hcolumn
  obtain rfl : p = q := hclass hrelation
  obtain rfl : i = j :=
    eq_of_pairwise_of_not (List.pairwise_map.1 (h p)) (fun hij => hij hname)
      fun hji => hji hname.symm
  rfl

end OwnAttribute

/-! ### The relations of a compilation -/

namespace Plan

variable {types : TypeDictionary} {start : Catalog} {ss : List Subsystem}

lemma relation_mem_relations (types : TypeDictionary) (p : OwnClass ss) :
    relation types p.record ∈ relations types ss :=
  List.mem_map.2 ⟨_, p.mem_materialized, rfl⟩

/-- A relation that is asked for is that of a class, and its columns are those of the attributes. -/
lemma exists_place_of_mem_relations (h : Compilable types start ss) {r : Relation}
    (hr : r ∈ relations types ss) : ∃ p : OwnClass ss, p.relationName = r.name ∧
      r.columns = p.record.attributes.map fun a => unspaced a.name := by
  obtain ⟨m, hm, rfl⟩ := List.mem_map.1 hr
  obtain ⟨p, hp⟩ := OwnClass.exists_of_mem_materialized hm
  refine ⟨p, ?_, ?_⟩
  · rw [OwnClass.relationName, hp]
    rfl
  · rw [Population.columns_relation (h.typed m hm), hp]

/-- What a compilable model asks for keeps its names apart. -/
lemma Compilable.namesKept (h : Compilable types start ss) :
    NamesKept ss (Plan.relations types ss) := by
  have hcolumns : ∀ p : OwnClass ss,
      (relation types p.record).columns = p.record.attributes.map fun a => unspaced a.name :=
    fun p => Population.columns_relation (h.typed _ p.mem_materialized)
  have hnodup : ∀ r ∈ Plan.relations types ss, r.columns.Nodup :=
    fun r hr => (h.relations.wellFormed r hr).columns_nodup
  have hnames : ((Plan.relations types ss).map (·.name)).Nodup := h.relations.fileable.names_nodup
  have hclass : Function.Injective (OwnClass.relationName : OwnClass ss → String) := by
    rw [Plan.relations, List.map_map] at hnames
    exact OwnClass.relationName_injective hnames
  have hcolumn : Function.Injective (OwnAttribute.column : OwnAttribute ss → String × String) :=
    OwnAttribute.column_injective hclass fun p =>
      hcolumns p ▸ hnodup _ (relation_mem_relations types p)
  refine ⟨⟨fun p _ => ?_, hclass.injOn, ?_⟩, ⟨fun a _ => ?_, hcolumn.injOn, ?_⟩, hnames, hnodup⟩
  · exact ⟨_, relation_mem_relations types p, rfl⟩
  · rintro n ⟨r, hr, rfl⟩
    obtain ⟨p, hp, -⟩ := exists_place_of_mem_relations h hr
    exact ⟨p, Set.mem_univ p, hp⟩
  · refine ⟨_, relation_mem_relations types a.owner, rfl, ?_⟩
    rw [hcolumns]
    exact List.mem_map_of_mem (List.get_mem _ _)
  · rintro ⟨n, column⟩ ⟨r, hr, rfl, hcol⟩
    obtain ⟨p, hp, hpcolumns⟩ := exists_place_of_mem_relations h hr
    rw [hpcolumns] at hcol
    obtain ⟨a, ha, rfl⟩ := List.mem_map.1 hcol
    obtain ⟨i, rfl⟩ := List.get_of_mem ha
    exact ⟨⟨p, i⟩, Set.mem_univ _, Prod.ext hp rfl⟩

end Plan

/-- **Names never collapse.**  A compilation that ends well has made a relation for each class that
is not imported, and in it a column for each attribute; no two classes share a relation, no two
attributes share a column, and nothing else has been made.  The relations are new, and each is
stored under its name.  If two such classes, or two attributes of one of them, would have one name
without spaces, then the compilation fails. -/
theorem names_never_collapse (types : TypeDictionary) (start : Catalog) (ss : List Subsystem) :
    (∀ done, compile types start ss = .ok done → ∃ (rs : List Relation) (ks : List Constraint),
      done.store.history = start.history ++ (rs.map .relation ++ ks.map .constraint) ∧
      (∀ r ∈ rs, start.relations.get? r.name = none ∧
        done.store.relations.get? r.name = some r) ∧
      NamesKept ss rs) ∧
    ((∃ p q : OwnClass ss, p ≠ q ∧ p.relationName = q.relationName) ∨
      (∃ a b : OwnAttribute ss, a ≠ b ∧ a.owner = b.owner ∧ a.columnName = b.columnName) →
      ∃ stop, compile types start ss = .error stop) := by
  constructor
  · intro done h
    have hcompilable : Plan.Compilable types start ss := compilable_of_compile h
    refine ⟨Plan.relations types ss, Plan.constraints ss, ?_, fun r hr => ⟨?_, ?_⟩,
      hcompilable.namesKept⟩
    · rw [store_of_compile h, Catalog.history_addAll, Plan.requests]
    · exact hcompilable.relations.fileable.free r hr
    · obtain ⟨m, hm, rfl⟩ := List.mem_map.1 hr
      exact ((stored_of_compile h).1 m hm).2.2.2
  · intro hshared
    cases h : compile types start ss with
    | error stop => exact ⟨stop, rfl⟩
    | ok done =>
      have hkept := (compilable_of_compile h).namesKept
      exfalso
      rcases hshared with ⟨p, q, hne, hname⟩ | ⟨a, b, hne, howner, hname⟩
      · exact hne (hkept.relations.injOn (Set.mem_univ p) (Set.mem_univ q) hname)
      · have hcolumn : a.column = b.column :=
          Prod.ext (congrArg OwnClass.relationName howner) hname
        exact hne (hkept.columns.injOn (Set.mem_univ a) (Set.mem_univ b) hcolumn)

/-- Two subsystems, each with a class of its own for the same gate. -/
def terminals : List Subsystem :=
  [{ name := "East", domain := "Airport", relationships := []
     classes := [⟨"Gate A", none, [⟨"Number", some "name", [⟨1, false⟩]⟩]⟩] },
    { name := "West", domain := "Airport", relationships := []
      classes := [⟨"Gate_A", none, [⟨"Number", some "name", [⟨1, false⟩]⟩]⟩] }]

/-- The airport keeps its names, also that of the class that one subsystem imports; the two gates
would share a relation. -/
theorem names_never_collapse_airport :
    (∃ rs, NamesKept [crew, hangar] rs ∧
      ∃ r ∈ rs, r.name = "Aircraft_Type" ∧ "Type_name" ∈ r.columns) ∧
    ∃ stop, compile ⟨.ofList [("name", .string)]⟩ Catalog.empty terminals = .error stop := by
  obtain ⟨hkept, -⟩ :=
    names_never_collapse ⟨.ofList [("name", .string)]⟩ Catalog.empty [crew, hangar]
  obtain ⟨-, hfails⟩ := names_never_collapse ⟨.ofList [("name", .string)]⟩ Catalog.empty terminals
  constructor
  · have hok : (compile ⟨.ofList [("name", .string)]⟩ Catalog.empty
        [crew, hangar]).toBool = true := by decide +kernel
    cases h : compile ⟨.ofList [("name", .string)]⟩ Catalog.empty [crew, hangar] with
    | error stop => rw [h] at hok; cases hok
    | ok done =>
      obtain ⟨rs, ks, -, -, hrs⟩ := hkept done h
      let typeName : OwnAttribute [crew, hangar] :=
        ⟨⟨⟨1, by decide⟩, ⟨0, by decide⟩, rfl⟩, ⟨0, by decide⟩⟩
      have hcolumn : typeName.column = ("Aircraft_Type", "Type_name") := by decide +kernel
      have hmem := hrs.columns.mapsTo (Set.mem_univ typeName)
      rw [hcolumn] at hmem
      exact ⟨rs, hrs, hmem⟩
  · let east : OwnClass terminals := ⟨⟨0, by decide⟩, ⟨0, by decide⟩, rfl⟩
    let west : OwnClass terminals := ⟨⟨1, by decide⟩, ⟨0, by decide⟩, rfl⟩
    have heast : east.relationName = "Gate_A" := by decide +kernel
    have hwest : west.relationName = "Gate_A" := by decide +kernel
    refine hfails (.inl ⟨east, west, fun heq => ?_, heast.trans hwest.symm⟩)
    exact absurd (congrArg (·.subsystem.val) heq) Nat.zero_ne_one

end ClassSchema
