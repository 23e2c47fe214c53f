import ClassSchema.Proofs.Json.Grammar
import ClassSchema.Proofs.Json.Record

/-
# Spellings

One value can be written in many ways.  A `Spelling α` says which trees stand for which values of
`α`, without reading them: `text`, `optional` and `list` are spellings, and `record` puts one
together from those of the members.  There the members may come in any order and among others of
unknown names, and one that may be absent may be left out where it has its default.

A decoder reads a spelling if it gives the value for every tree that stands for one
(`Spelling.ReadBy`).  Decoders for containers read what the spellings for containers allow as soon
as this is so of what they hold.
-/

namespace ClassSchema.Json

open Decoder Outcome

/-- Which trees stand for which values. -/
abbrev Spelling (α : Type) := Tree → α → Prop

/-- The members of a record, in their order of declaration: how each is called and spelled, and what
stands for it when it is absent, if it may be. -/
inductive Layout : List Type → Type 1 where
  | nil : Layout []
  | cons {τ : Type} {τs : List Type} (name : String) (spelling : Spelling τ) (absent : Option τ)
      (rest : Layout τs) : Layout (τ :: τs)

namespace Layout

/-- The names of the members. -/
def names : {τs : List Type} → Layout τs → List String
  | _, nil => []
  | _, cons name _ _ rest => name :: rest.names

/-- The members stand in their order of declaration and spell the row.  One that may be absent may
be omitted where the row has its default. -/
inductive Lists : {τs : List Type} → Layout τs → List (Key × Tree) → Row τs → Prop
  | nil : Lists .nil [] ()
  | given {τ : Type} {τs : List Type} {name : String} {spelling : Spelling τ} {absent : Option τ}
      {rest : Layout τs} {key : Key} {t : Tree} {members : List (Key × Tree)} {x : τ} {row : Row τs}
      (hkey : key.text = some name) (hx : spelling t x) (h : Lists rest members row) :
      Lists (.cons name spelling absent rest) ((key, t) :: members) (x, row)
  | omitted {τ : Type} {τs : List Type} {name : String} {spelling : Spelling τ}
      {rest : Layout τs} {members : List (Key × Tree)} {x : τ} {row : Row τs}
      (h : Lists rest members row) : Lists (.cons name spelling (some x) rest) members (x, row)

end Layout

/-! ### Values -/

mutual

/-- How many containers stand one in another, at most. -/
def Value.depth : Value → Nat
  | .array items => Value.itemsDepth items + 1
  | .object members => Value.membersDepth members + 1
  | .null | .bool _ | .integer _ | .float _ _ | .string _ => 0

def Value.itemsDepth : List Value → Nat
  | [] => 0
  | v :: rest => max v.depth (Value.itemsDepth rest)

def Value.membersDepth : List (String × Value) → Nat
  | [] => 0
  | (_, v) :: rest => max v.depth (Value.membersDepth rest)

end

/-- The tree stands for the value, member by member. -/
inductive Tree.Denotes : Tree → Value → Prop
  | null : Denotes .null .null
  | bool (b : Bool) : Denotes (.bool b) (.bool b)
  | number {n : Numeral} {v : Value} (h : n.value = .ok v) : Denotes (.number n) v
  | string (written : List Char) (s : String) : Denotes (.string ⟨written, some s⟩) (.string s)
  | array {items : List (Tree × Value)} (h : ∀ i ∈ items, Denotes i.1 i.2) :
      Denotes (.array (items.map (·.1)) .closed) (.array (items.map (·.2)))
  | object {members : List (Key × Tree × String × Value)}
      (hkeys : ∀ m ∈ members, m.1.text = some m.2.2.1)
      (h : ∀ m ∈ members, Denotes m.2.1 m.2.2.2) :
      Denotes (.object (members.map fun m => (m.1, m.2.1)) .closed)
        (.object (members.map fun m => m.2.2))

lemma Value.depth_le_itemsDepth {items : List Value} {v : Value} (h : v ∈ items) :
    v.depth ≤ itemsDepth items := by
  induction items with
  | nil => cases h
  | cons w rest ih =>
    rw [itemsDepth]
    rcases List.mem_cons.1 h with rfl | h
    · exact Nat.le_max_left _ _
    · exact Nat.le_trans (ih h) (Nat.le_max_right _ _)

lemma Value.depth_le_membersDepth {members : List (String × Value)} {m : String × Value}
    (h : m ∈ members) : m.2.depth ≤ membersDepth members := by
  induction members with
  | nil => cases h
  | cons w rest ih =>
    obtain ⟨name, w⟩ := w
    rw [membersDepth]
    rcases List.mem_cons.1 h with rfl | h
    · exact Nat.le_max_left _ _
    · exact Nat.le_trans (ih h) (Nat.le_max_right _ _)

lemma values_eq {room : Nat} {items : List (Tree × Value)}
    (h : ∀ i ∈ items, i.1.value room = .ok i.2) :
    Tree.values room (items.map (·.1)) = .ok (items.map (·.2)) := by
  induction items with
  | nil => rfl
  | cons i rest ih =>
    rw [List.map_cons, Tree.values, h i List.mem_cons_self, ok_bind,
      ih fun i hi => h i (List.mem_cons_of_mem _ hi)]
    rfl

lemma memberValues_eq {room : Nat} {members : List (Key × Tree × String × Value)}
    (hkeys : ∀ m ∈ members, m.1.text = some m.2.2.1)
    (h : ∀ m ∈ members, m.2.1.value room = .ok m.2.2.2) :
    Tree.memberValues room (members.map fun m => (m.1, m.2.1)) =
      .ok (members.map fun m => m.2.2) := by
  induction members with
  | nil => rfl
  | cons m rest ih =>
    have hname : m.1.value = .ok m.2.2.1 := by rw [Key.value, hkeys m List.mem_cons_self]
    rw [List.map_cons, Tree.memberValues, hname, ok_bind, h m List.mem_cons_self, ok_bind,
      ih (fun m hm => hkeys m (List.mem_cons_of_mem _ hm))
        fun m hm => h m (List.mem_cons_of_mem _ hm)]
    rfl

/-- A tree is read as the value that it denotes, if there is room for its levels. -/
theorem Tree.Denotes.value_eq {t : Tree} {v : Value} (h : t.Denotes v) {room : Nat}
    (hroom : v.depth < room) : t.value room = .ok v := by
  induction h generalizing room with
  | null => rfl
  | bool b => rfl
  | number h => rw [Tree.value, h]
  | string written s => rfl
  | @array items _ ih =>
    rw [Value.depth] at hroom
    have hitems : ∀ i ∈ items, i.1.value (room - 1) = .ok i.2 := by
      intro i hi
      have hdepth := Value.depth_le_itemsDepth
        (List.mem_map_of_mem (f := fun i : Tree × Value => i.2) hi)
      exact ih i hi (by omega)
    rw [Tree.value, if_neg (by omega), values_eq hitems]
    rfl
  | @object members hkeys _ ih =>
    rw [Value.depth] at hroom
    have hmembers : ∀ m ∈ members, m.2.1.value (room - 1) = .ok m.2.2.2 := by
      intro m hm
      have hdepth := Value.depth_le_membersDepth
        (List.mem_map_of_mem (f := fun m : Key × Tree × String × Value => m.2.2) hm)
      exact ih m hm (by omega)
    rw [Tree.value, if_neg (by omega), memberValues_eq hkeys hmembers]
    rfl

namespace Spelling

variable {α : Type}

/-! ### Spellings of containers -/

/-- A string literal that means the text. -/
def text : Spelling String := fun t s => ∃ written, t = .string ⟨written, some s⟩

/-- A whole number without a sign. -/
def group : Spelling UInt32 := fun t g => t = .number ⟨false, g.toNat, 0, 0, true⟩

/-- `null` for none. -/
def optional (F : Spelling α) : Spelling (Option α)
  | t, none => t = .null
  | t, some x => F t x

/-- An array of spellings. -/
def list (F : Spelling α) : Spelling (List α) := fun t xs =>
  ∃ ts, t = .array ts .closed ∧ List.Forall₂ F ts xs

/-- Any value but `null`, of at most `levels` levels. -/
def kept (levels : Nat) : Spelling Value := fun t v =>
  t.Denotes v ∧ v ≠ .null ∧ v.depth ≤ levels

/-- An object with the members of a record and possibly others, in any order. -/
def record {τs : List Type} (layout : Layout τs) (row : α → Row τs) : Spelling α := fun t x =>
  ∃ members given extra, t = .object members .closed ∧ members.Perm (given ++ extra) ∧
    layout.Lists given (row x) ∧ ∀ m ∈ extra, ∃ name ∉ layout.names, m.1.text = some name

/-! ### Reading -/

/-- The decoder reads every tree that stands for a value as this value, if there is room for `room`
levels and the text is intact. -/
def ReadBy (F : Spelling α) (d : Decoder α) (room : Nat) : Prop :=
  ∀ t x, F t x → t.intact = true → ∀ src : Source, room ≤ src.room → d src t = .ok x

variable {F : Spelling α} {d : Decoder α} {room : Nat}

lemma readBy_text : text.ReadBy Decoder.text room := by
  rintro t s ⟨written, rfl⟩ - src -
  rfl

lemma readBy_optional (h : F.ReadBy d room) (hnull : ∀ x, ¬ F .null x) :
    (optional F).ReadBy (Decoder.optional d) room := by
  intro t x hx ht src hroom
  cases x with
  | none =>
    obtain rfl : t = .null := hx
    rfl
  | some x =>
    have hread : d src t = .ok x := h t x hx ht src hroom
    have hne : t ≠ .null := by
      rintro rfl
      exact hnull x hx
    rw [Decoder.optional, hread]
    · rfl
    · exact hne

lemma readBy_list (h : F.ReadBy d (room - 1)) : (list F).ReadBy (Decoder.list d) room := by
  rintro t xs ⟨ts, rfl, hts⟩ ht src hroom
  rw [Tree.intact, Bool.and_eq_true, Tree.allIntact_iff] at ht
  have hinner : room - 1 ≤ src.inner.room := Nat.sub_le_sub_right hroom 1
  have hitems : items d src.inner ts = .ok xs := by
    obtain ⟨ht, -⟩ := ht
    induction hts with
    | nil => rfl
    | @cons t x ts xs hfirst _ ih =>
      rw [List.forall_mem_cons] at ht
      rw [items, h t x hfirst ht.1 _ hinner, ok_bind, ih ht.2, ok_bind]
  rw [Decoder.list, hitems]
  rfl

lemma readBy_kept {levels : Nat} (h : levels < room) : (kept levels).ReadBy anything room := by
  rintro t v ⟨hv, -, hdepth⟩ - src hroom
  exact hv.value_eq (by omega)

lemma not_kept_null {levels : Nat} (v : Value) : ¬ kept levels .null v := by
  rintro ⟨hv, hne, -⟩
  cases hv
  exact hne rfl

end Spelling

/-- The decoders of the fields read the spellings of the members. -/
inductive Layout.ReadBy (room : Nat) : {τs : List Type} → Layout τs → Fields τs → Prop
  | nil : ReadBy room .nil .nil
  | cons {τ : Type} {τs : List Type} {name : String} {spelling : Spelling τ} {d : Decoder τ}
      {absent : Option τ} {layout : Layout τs} {fs : Fields τs} (h : spelling.ReadBy d room)
      (rest : ReadBy room layout fs) :
      ReadBy room (.cons name spelling absent layout) (.cons name d absent fs)

namespace Layout.ReadBy

variable {room : Nat} {τs : List Type} {layout : Layout τs} {fs : Fields τs}

lemma names_eq (h : layout.ReadBy room fs) : layout.names = fs.names := by
  induction h with
  | nil => rfl
  | cons _ _ ih => rw [Layout.names, Fields.names, ih]

lemma given (h : layout.ReadBy room fs) {src : Source} (hroom : room ≤ src.room)
    {members : List (Key × Tree)} {row : Row τs} (hlists : layout.Lists members row)
    (hintact : ∀ m ∈ members, m.2.intact = true) : fs.Given src members row := by
  induction hlists with
  | nil =>
    cases h
    rfl
  | @given _ _ _ _ _ _ key t _ x _ hkey hx _ ih =>
    rw [List.forall_mem_cons] at hintact
    cases h with
    | cons hread hrest =>
      exact .inl ⟨key, t, _, rfl, hkey, hread t x hx hintact.1 src hroom, ih hrest hintact.2⟩
  | omitted _ ih =>
    cases h with
    | cons _ hrest => exact .inr ⟨rfl, ih hrest hintact⟩

end Layout.ReadBy

/-- A record is read in every spelling if its members are. -/
theorem Spelling.readBy_record {α : Type} {τs : List Type} {layout : Layout τs} {fs : Fields τs}
    {room : Nat} {row : α → Row τs} {make : Row τs → α} {what : String}
    (h : layout.ReadBy (room - 1) fs) (hnames : fs.names.Nodup) (hmake : ∀ x, make (row x) = x) :
    (record layout row).ReadBy (Decoder.record what fs make) room := by
  rintro t x ⟨members, given, extra, rfl, hperm, hlists, hextra⟩ ht src hroom
  rw [Tree.intact, Bool.and_eq_true, Tree.membersIntact_iff] at ht
  have hintact : ∀ m ∈ given ++ extra, m.2.intact = true :=
    fun m hm => (ht.1 m (hperm.mem_iff.2 hm)).2
  rw [List.forall_mem_append] at hintact
  have hinner : room - 1 ≤ src.inner.room := Nat.sub_le_sub_right hroom 1
  have hgiven := h.given hinner hlists hintact.1
  rw [h.names_eq] at hextra
  rw [hgiven.record_eq hnames (fun m hm => ⟨hintact.2 m hm, hextra m hm⟩) hperm, hmake]

end ClassSchema.Json
