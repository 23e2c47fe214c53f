import ClassSchema.Proofs.Store.Database
import ClassSchema.Proofs.Store.Integrity
import ClassSchema.Proofs.Store.Listing
import ClassSchema.Store.Backend

/-
# What a request adds to a store of either kind

An accepted request takes nothing away and adds what it is for (`Backend.hasRelation_of_create`,
`Backend.hasConstraint_of_create`).  There is one exception: a database takes the script for a
relation whose name is no identifier of its engine, if it takes it at all, as one for some other
relation or for a temporary one, and no relation of that name is there afterwards.  `Keeps` says
which names are kept.
-/

namespace ClassSchema

open Schema OrderedMap Outcome

namespace Backend

variable {δ : Type} [Engine δ] [LawfulEngine δ]

/-- The two relations that a database keeps for itself are there, as they are in every database that
has been taken into use (`Database.opened_of_connect`, `Database.Opened.afterAll`). -/
def Opened : Backend δ → Prop
  | .catalog _ => True
  | .database d => d.Opened

/-- A relation of this name is kept under it. -/
def Keeps : Backend δ → String → Prop
  | .catalog _, _ => True
  | .database _, n => LawfulEngine.IsName δ n

/-- A relation is stored as it is. -/
def Understands : Backend δ → Relation → Prop
  | .catalog _, _ => True
  | .database _, r => Database.Plain δ r

variable {b b' : Backend δ} {q : Request} {n : String}

/-! ### Either kind -/

omit [LawfulEngine δ] in
lemma respond_catalog (c : Catalog) (q : Request) :
    Store.respond (Backend.catalog c : Backend δ) q = (Store.respond c q).map id .catalog :=
  Store.respond_of_view_eq rfl rfl

omit [LawfulEngine δ] in
lemma respond_database (d : Database δ) (q : Request) :
    Store.respond (Backend.database d) q = (Store.respond d q).map id .database :=
  Store.respond_of_view_eq rfl rfl

/-- A request leaves a catalog a catalog and a database a database. -/
lemma create_cases (h : Store.create b q = .ok b') :
    (∃ c, b = .catalog c ∧ c.view.check q = .ok () ∧ b' = .catalog (c.add q)) ∨
    ∃ d d', b = .database d ∧ b' = .database d' ∧ Database.Replies d d' q (.ok ()) := by
  rw [Store.create_eq_ok_iff_respond] at h
  cases b with
  | catalog c =>
    rw [respond_catalog] at h
    obtain ⟨hanswer, rfl⟩ := Prod.mk.inj h
    obtain ⟨hcheck, hadd⟩ := Catalog.create_eq_ok_iff.1 (Store.create_of_answer_ok hanswer)
    exact .inl ⟨c, rfl, hcheck, congrArg Backend.catalog hadd⟩
  | database d =>
    rw [respond_database] at h
    obtain ⟨hanswer, rfl⟩ := Prod.mk.inj h
    have hreplies := d.replies q
    rw [Store.answer, show (Store.respond d q).1 = .ok () from hanswer] at hreplies
    exact .inr ⟨d, _, rfl, rfl, hreplies⟩

lemma keeps_of_create (h : Store.create b q = .ok b') : b'.Keeps = b.Keeps := by
  obtain ⟨c, rfl, -, rfl⟩ | ⟨d, d', rfl, rfl, -⟩ := create_cases h <;> rfl

lemma opened_of_create (hb : b.Opened) (h : Store.create b q = .ok b') : b'.Opened := by
  obtain ⟨c, rfl, -, rfl⟩ | ⟨d, d', rfl, rfl, hreplies⟩ := create_cases h
  · trivial
  · exact fun n hn => hreplies.contains_stored (hb n hn)

/-! ### What is there -/

/-- Only relations that are kept are there. -/
lemma keeps_of_hasRelation (h : (Store.view b).hasRelation n = true) : b.Keeps n := by
  cases b with
  | catalog c => trivial
  | database d => exact LawfulEngine.isName_of_stored (Database.hasRelation_eq_true_iff.1 h).1

/-- A request takes no relation away, and one for a relation adds it if it is kept. -/
theorem hasRelation_of_create (hb : b.Opened) (h : Store.create b q = .ok b')
    (hn : (Store.view b).hasRelation n = true ∨ ∃ r, q = .relation r ∧ r.name = n ∧ b.Keeps n) :
    (Store.view b').hasRelation n = true := by
  obtain ⟨c, rfl, -, rfl⟩ | ⟨d, d', rfl, rfl, hreplies⟩ := create_cases h
  · change (c.add q).relations.contains n = true
    rcases hn with hn | ⟨r, rfl, rfl, -⟩
    · have hc : c.relations.contains n = true := hn
      cases q with
      | constraint k => simpa using hc
      | relation r => simpa using contains_insert_iff.2 (.inr hc)
    · simpa using contains_insert_iff.2 (.inl rfl)
  · refine Database.hasRelation_eq_true_iff.2 ?_
    rcases hn with hn | ⟨r, rfl, rfl, hkeeps⟩
    · obtain ⟨hstored, hshown⟩ := Database.hasRelation_eq_true_iff.1 hn
      exact ⟨hreplies.contains_stored hstored, hshown⟩
    · cases hreplies with
      | relation _ created recorded =>
        refine ⟨by rw [recorded]; exact created.stores hkeeps, ?_⟩
        -- a catalog is stored, so its name has not been free
        rw [Bool.eq_false_iff]
        exact fun hcatalog => Bool.false_ne_true (created.free.symm.trans (hb _ hcatalog))

/-- A request takes no constraint away, and one for a constraint adds it. -/
theorem hasConstraint_of_create (hb : b.Opened) (h : Store.create b q = .ok b')
    (hn : (Store.view b).hasConstraint n = true ∨ ∃ k, q = .constraint k ∧ k.name = n) :
    (Store.view b').hasConstraint n = true := by
  have hb' := opened_of_create hb h
  obtain ⟨c, rfl, -, rfl⟩ | ⟨d, d', rfl, rfl, hreplies⟩ := create_cases h
  · change (c.add q).constraints.contains n = true
    rcases hn with hn | ⟨k, rfl, rfl⟩
    · have hc : c.constraints.contains n = true := hn
      cases q with
      | relation r => simpa using hc
      | constraint k => simpa using contains_insert_iff.2 (.inr hc)
    · simpa using contains_insert_iff.2 (.inl rfl)
  · change d'.hasConstraint n = true
    change d.hasConstraint n = true ∨ _ at hn
    rw [Database.Opened.hasConstraint_eq hb] at hn
    rw [Database.Opened.hasConstraint_eq hb']
    cases hreplies with
    | @relation r stored _ created recorded =>
      have hrows : d'.contents.constraintRows = d.contents.constraintRows := by
        rw [recorded]
        exact created.constraintRows_eq
      rw [hrows]
      rcases hn with hn | ⟨k, hk, -⟩
      · exact hn
      · cases hk
    | @constraint k _ recorded =>
      rw [recorded]
      refine contains_insert_iff.2 ?_
      rcases hn with hn | ⟨k', hk, rfl⟩
      · exact .inr hn
      · cases hk
        exact .inl rfl

/-! ### Listings -/

section

variable (regex : Text.Regex.Library)

/-- A relation of this name is listed. -/
def ListsRelation (b : Backend δ) (n : String) : Prop :=
  ∃ names, Store.relationNames regex b none = .ok names ∧ n ∈ names

/-- A constraint of this name is listed. -/
def ListsConstraint (b : Backend δ) (n : String) : Prop :=
  ∃ names, Store.constraintNames regex b none = .ok names ∧ n ∈ names

variable {regex}

omit [LawfulEngine δ] in
lemma listsRelation_iff : b.ListsRelation regex n ↔ (Store.view b).hasRelation n = true := by
  refine Store.exists_narrow_none_iff.trans ?_
  cases b with
  | catalog c => exact mem_keys_iff
  | database d => exact decide_eq_true_iff.symm

lemma listsConstraint_iff (hb : b.Opened) :
    b.ListsConstraint regex n ↔ (Store.view b).hasConstraint n = true := by
  refine Store.exists_narrow_none_iff.trans ?_
  cases b with
  | catalog c => exact mem_keys_iff
  | database d =>
    change n ∈ d.constraintNames ↔ d.hasConstraint n = true
    rw [Database.Opened.hasConstraint_eq hb, ← mem_keys_iff]
    exact (Database.Opened.constraintNames_perm hb).mem_iff

end

end Backend

end ClassSchema
