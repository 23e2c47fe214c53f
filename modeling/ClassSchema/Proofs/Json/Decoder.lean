import ClassSchema.Proofs.Json.Record
import ClassSchema.Proofs.Json.Tree
import ClassSchema.Proofs.OrderedMap

/-
# Printed values are read again

`Conveys d room v x` says that the decoder `d` reads what the printer writes for the value `v` as
`x`.  Decoders for containers convey as soon as the decoders for what they hold do: lists
(`conveys_list`), maps (`conveys_mapOf`), records whose members come in their order of declaration
(`conveysMembers_record`), and unions whose tag comes first (`document_union_eq`).

A union looks at all members before it knows which form they are of, and for this there must be
room for their levels; so `Conveys` also counts the levels.
-/

namespace ClassSchema.Json

open Decoder Outcome

variable {α β : Type}

/-- The decoder reads the value as `x` when the printer has written it; the value has at most
`room` levels, one for a string. -/
def Conveys (d : Decoder α) (room : Nat) (v : Value) (x : α) : Prop :=
  ∃ t, Writes v.compact.toList t ∧ (∀ src, d src t = .ok x) ∧
    ∀ n, room ≤ n → ∃ w, t.value n = .ok w

lemma Conveys.mono {d : Decoder α} {room room' : Nat} {v : Value} {x : α}
    (h : Conveys d room v x) (hle : room ≤ room') : Conveys d room' v x := by
  obtain ⟨t, hwrites, hread, hvalue⟩ := h
  exact ⟨t, hwrites, hread, fun n hn => hvalue n (Nat.le_trans hle hn)⟩

/-- The decoder reads an object with these members as `x`; each of them has at most `room` levels. -/
def ConveysMembers (d : Decoder α) (room : Nat) (ms : List (String × Value)) (x : α) : Prop :=
  ∃ mts, List.Forall₂ WritesMember
      (ms.map fun m => (writtenString m.1).toList ++ ':' :: m.2.compact.toList) mts ∧
    mts.map (·.1.text) = ms.map (fun m => some m.1) ∧
    (∀ src, d src (.object mts .closed) = .ok x) ∧
    ∀ n, room ≤ n → ∃ ws, Tree.memberValues n mts = .ok ws

/-! ### What the printer writes -/

lemma compactItems_eq (vs : List Value) : Value.compactItems vs = vs.map Value.compact := by
  induction vs with
  | nil => rfl
  | cons v rest ih => rw [Value.compactItems, ih, List.map_cons]

lemma compactMembers_eq (ms : List (String × Value)) : Value.compactMembers ms =
    ms.map fun m => writtenString m.1 ++ ":" ++ m.2.compact := by
  induction ms with
  | nil => rfl
  | cons m rest ih => rw [Value.compactMembers, ih, List.map_cons]

lemma toList_compact_array (vs : List Value) : (Value.array vs).compact.toList =
    '[' :: [','].intercalate (vs.map fun v => v.compact.toList) ++ [']'] := by
  rw [Value.compact, compactItems_eq, String.toList_append, String.toList_append,
    String.toList_intercalate, List.map_map]
  rfl

lemma toList_compact_object (ms : List (String × Value)) : (Value.object ms).compact.toList =
    '\x7b' :: [','].intercalate
      (ms.map fun m => (writtenString m.1).toList ++ ':' :: m.2.compact.toList) ++ ['\x7d'] := by
  have hmember : String.toList ∘ (fun m : String × Value =>
      writtenString m.1 ++ ":" ++ m.2.compact) =
      fun m => (writtenString m.1).toList ++ ':' :: m.2.compact.toList := by
    funext m
    rw [Function.comp_apply, String.toList_append, String.toList_append, List.append_assoc]
    rfl
  rw [Value.compact, compactMembers_eq, String.toList_append, String.toList_append,
    String.toList_intercalate, List.map_map, hmember]
  rfl

/-- The key that the printer writes for a name. -/
def Key.of (name : String) : Key := ⟨(Literal.of name).written, some name, true⟩

/-- A member is written if its value is. -/
lemma writesMember_of (name : String) {v : Value} {t : Tree} (h : Writes v.compact.toList t) :
    WritesMember ((writtenString name).toList ++ ':' :: v.compact.toList) (.of name, t) :=
  ⟨_, _, rfl, yields_writtenString name, rfl, h⟩

/-! ### Strings and lists -/

lemma writes_string (s : String) :
    Writes (Value.string s).compact.toList (.string (.of s)) := by
  rw [Value.compact]
  exact .string (yields_writtenString s)

lemma conveys_text (s : String) : Conveys text 1 (.string s) s :=
  ⟨_, writes_string s, fun _ => rfl, fun _ _ => ⟨.string s, rfl⟩⟩

/-- One of a number of names, written as a string. -/
lemma conveys_variant {variants : List (String × α)} {name : String} {x : α}
    (h : variants.lookup name = some x) : Conveys (variant variants) 1 (.string name) x := by
  refine ⟨_, writes_string name, fun src => ?_, fun _ _ => ⟨.string name, rfl⟩⟩
  have hnamed : named variants name = .ok x := by rw [named, h]
  exact hnamed

lemma conveys_list {d : Decoder α} {room : Nat} {vs : List Value} {xs : List α}
    (hroom : 1 ≤ room) (h : List.Forall₂ (Conveys d room) vs xs) :
    Conveys (list d) (room + 1) (.array vs) xs := by
  have hitems : ∃ ts, List.Forall₂ Writes (vs.map fun v => v.compact.toList) ts ∧
      (∀ src, items d src ts = .ok xs) ∧
      ∀ n, room ≤ n → ∃ ws, Tree.values n ts = .ok ws := by
    induction h with
    | nil => exact ⟨[], .nil, fun src => rfl, fun n _ => ⟨[], rfl⟩⟩
    | @cons v x vs xs hfirst hrest ih =>
      obtain ⟨t, hwrites, hread, hvalue⟩ := hfirst
      obtain ⟨ts, hwrites', hread', hvalue'⟩ := ih
      refine ⟨t :: ts, .cons hwrites hwrites', fun src => ?_, fun n hn => ?_⟩
      · rw [items, hread, ok_bind, hread', ok_bind]
      · obtain ⟨w, hw⟩ := hvalue n hn
        obtain ⟨ws, hws⟩ := hvalue' n hn
        exact ⟨w :: ws, by rw [Tree.values, hw, ok_bind, hws, ok_bind]⟩
  obtain ⟨ts, hwrites, hread, hvalue⟩ := hitems
  refine ⟨.array ts .closed, ?_, fun src => ?_, fun n hn => ?_⟩
  · rw [toList_compact_array]
    exact .array hwrites
  · rw [list, hread, ok_bind]
    rfl
  · obtain ⟨ws, hws⟩ := hvalue (n - 1) (by omega)
    refine ⟨.array ws, ?_⟩
    rw [Tree.value, if_neg (by omega), hws]
    rfl

lemma conveys_strings (ss : List String) : Conveys (list text) 2 (Value.strings ss) ss := by
  refine conveys_list (Nat.le_refl 1) ?_
  rw [List.forall₂_map_left_iff]
  exact List.forall₂_same.2 fun s _ => conveys_text s

/-! ### Maps -/

lemma conveys_mapOf {d : Decoder α} {room : Nat} {es : List (String × α)}
    {ms : List (String × Value)} (hroom : 1 ≤ room)
    (h : List.Forall₂ (fun m e => m.1 = e.1 ∧ Conveys d room m.2 e.2) ms es) :
    Conveys (mapOf Key.value d) (room + 1) (.object ms) (.ofList es) := by
  have hentries : ∃ mts, List.Forall₂ WritesMember
      (ms.map fun m => (writtenString m.1).toList ++ ':' :: m.2.compact.toList) mts ∧
      (∀ src m, entries Key.value d src mts m =
        .ok (es.foldl (fun m e => m.insert e.1 e.2) m)) ∧
      ∀ n, room ≤ n → ∃ ws, Tree.memberValues n mts = .ok ws := by
    induction h with
    | nil => exact ⟨[], .nil, fun src m => rfl, fun n _ => ⟨[], rfl⟩⟩
    | @cons m e ms es hfirst hrest ih =>
      obtain ⟨hkey, t, hwrites, hread, hvalue⟩ := hfirst
      obtain ⟨mts, hwrites', hread', hvalue'⟩ := ih
      refine ⟨(.of m.1, t) :: mts, .cons (writesMember_of m.1 hwrites) hwrites',
        fun src map => ?_, fun n hn => ?_⟩
      · have hname : Key.value (.of m.1) = .ok e.1 := by rw [← hkey]; rfl
        rw [entries, hname, ok_bind, hread, ok_bind, hread', List.foldl_cons]
      · obtain ⟨w, hw⟩ := hvalue n hn
        obtain ⟨ws, hws⟩ := hvalue' n hn
        refine ⟨(m.1, w) :: ws, ?_⟩
        rw [Tree.memberValues, hw, hws]
        rfl
  obtain ⟨mts, hwrites, hread, hvalue⟩ := hentries
  refine ⟨.object mts .closed, ?_, fun src => ?_, fun n hn => ?_⟩
  · rw [toList_compact_object]
    exact .object hwrites
  · rw [mapOf, hread, ok_bind]
    rfl
  · obtain ⟨ws, hws⟩ := hvalue (n - 1) (by omega)
    refine ⟨.object ws, ?_⟩
    rw [Tree.value, if_neg (by omega), hws]
    rfl

/-! ### Records -/

namespace Fields

/-- The values, by name, stand in the order of declaration and are conveyed as the row. -/
def Convey : {τs : List Type} → Fields τs → Nat → List (String × Value) → Row τs → Prop
  | _, nil, _, ms, () => ms = []
  | _, cons name read _ rest, room, ms, (x, row) => ∃ v ms', ms = (name, v) :: ms' ∧
      Conveys read room v x ∧ rest.Convey room ms' row

lemma Convey.nil {room : Nat} : Fields.nil.Convey room [] () := rfl

lemma Convey.cons {τ : Type} {τs : List Type} {name : String} {read : Decoder τ}
    {absent : Option τ} {rest : Fields τs} {room : Nat} {v : Value} {ms : List (String × Value)}
    {x : τ} {row : Row τs} (hread : Conveys read room v x) (h : rest.Convey room ms row) :
    (Fields.cons name read absent rest).Convey room ((name, v) :: ms) (x, row) :=
  ⟨v, ms, rfl, hread, h⟩

/-- The trees of members that are conveyed. -/
lemma Convey.exists_given {τs : List Type} {fs : Fields τs} {room : Nat}
    {ms : List (String × Value)} {row : Row τs} (h : fs.Convey room ms row) :
    ∃ mts, List.Forall₂ WritesMember
      (ms.map fun m => (writtenString m.1).toList ++ ':' :: m.2.compact.toList) mts ∧
      mts.map (·.1.text) = ms.map (fun m => some m.1) ∧ (∀ src, fs.Given src mts row) ∧
      ∀ n, room ≤ n → ∃ ws, Tree.memberValues n mts = .ok ws := by
  induction fs generalizing ms with
  | nil =>
    obtain rfl : ms = [] := h
    exact ⟨[], .nil, rfl, fun _ => rfl, fun n _ => ⟨[], rfl⟩⟩
  | cons name read absent rest ih =>
    obtain ⟨x, row⟩ := row
    obtain ⟨v, ms', rfl, ⟨t, hwrites, hread, hvalue⟩, hrest⟩ := h
    obtain ⟨mts, hwrites', htexts, hgiven, hvalue'⟩ := ih hrest
    refine ⟨(.of name, t) :: mts, .cons (writesMember_of name hwrites) hwrites',
      by rw [List.map_cons, htexts]; rfl,
      fun src => .inl ⟨_, _, _, rfl, rfl, hread src, hgiven src⟩, fun n hn => ?_⟩
    obtain ⟨w, hw⟩ := hvalue n hn
    obtain ⟨ws, hws⟩ := hvalue' n hn
    refine ⟨(name, w) :: ws, ?_⟩
    rw [Tree.memberValues, hw, hws]
    rfl

end Fields

lemma conveysMembers_record {τs : List Type} {fs : Fields τs} {room : Nat}
    {ms : List (String × Value)} {row : Row τs} (hnames : fs.names.Nodup)
    (h : fs.Convey room ms row) (what : String) (make : Row τs → α) :
    ConveysMembers (record what fs make) room ms (make row) := by
  obtain ⟨mts, hwrites, htexts, hgiven, hvalue⟩ := h.exists_given
  refine ⟨mts, hwrites, htexts, fun src => ?_, hvalue⟩
  exact (hgiven src.inner).record_eq hnames (by simp) (.of_eq (List.append_nil mts).symm) what make

/-- An object is conveyed if its members are. -/
lemma ConveysMembers.conveys {d : Decoder α} {room : Nat} {ms : List (String × Value)} {x : α}
    (h : ConveysMembers d room ms x) (hroom : 1 ≤ room) :
    Conveys d (room + 1) (.object ms) x := by
  obtain ⟨mts, hwrites, -, hread, hvalue⟩ := h
  refine ⟨.object mts .closed, ?_, hread, fun n hn => ?_⟩
  · rw [toList_compact_object]
    exact .object hwrites
  · obtain ⟨ws, hws⟩ := hvalue (n - 1) (by omega)
    refine ⟨.object ws, ?_⟩
    rw [Tree.value, if_neg (by omega), hws]
    rfl

/-! ### Unions -/

/-- Members that are not the tag are kept, if there is room for their values. -/
lemma tagged_eq {src : Source} {tag : String} {forms : Forms α} {mts : List (Key × Tree)}
    (hkeys : ∀ m ∈ mts, ∃ name, m.1.text = some name ∧ name ≠ tag)
    (hvalue : ∃ ws, Tree.memberValues src.room mts = .ok ws) (form : Option (Decoder α)) :
    tagged src tag forms mts form = .ok (form, mts) := by
  induction mts with
  | nil => rfl
  | cons m rest ih =>
    obtain ⟨key, t⟩ := m
    obtain ⟨name, htext, hne⟩ := hkeys _ List.mem_cons_self
    have hname : key.value = .ok name := by rw [Key.value, htext]
    obtain ⟨ws, hws⟩ := hvalue
    rw [Tree.memberValues, hname, ok_bind] at hws
    obtain ⟨w, hw, hws⟩ := bind_eq_ok_iff.1 hws
    obtain ⟨ws', hws', -⟩ := bind_eq_ok_iff.1 hws
    rw [tagged, hname, ok_bind, if_neg hne, hw, ok_bind,
      ih (fun m hm => hkeys m (List.mem_cons_of_mem _ hm)) ⟨ws', hws'⟩]
    rfl

/-- A document that is a union is read as the form that its tag, the first member, names, if the
other members convey this form. -/
theorem document_union_eq {d : Decoder α} {room : Nat} {ms : List (String × Value)} {x : α}
    {tag name : String} {forms : Forms β} {wrap : α → β} (h : ConveysMembers d room ms x)
    (hroom : room ≤ 127) (htag : tag ∉ ms.map (·.1))
    (hform : forms.lookup name = some fun src t => (d src t).map wrap) (whole : String) :
    document (union whole tag forms) (Value.object ((tag, .string name) :: ms)).compact =
      .ok (wrap x) := by
  obtain ⟨mts, hwrites, htexts, hread, hvalue⟩ := h
  have hdoc : Writes (Value.object ((tag, .string name) :: ms)).compact.toList
      (.object ((.of tag, .string (.of name)) :: mts) .closed) := by
    rw [toList_compact_object]
    exact .object (.cons (writesMember_of tag (writes_string name)) hwrites)
  have hkeys : ∀ m ∈ mts, ∃ name, m.1.text = some name ∧ name ≠ tag := by
    intro m hm
    have hmem : m.1.text ∈ mts.map (·.1.text) := List.mem_map.2 ⟨m, hm, rfl⟩
    rw [htexts] at hmem
    obtain ⟨m', hm', htext⟩ := List.mem_map.1 hmem
    exact ⟨m'.1, htext.symm, fun heq => htag (heq ▸ List.mem_map.2 ⟨m', hm', rfl⟩)⟩
  -- the tag comes first, so the form is known before the other members are kept
  have htagged : tagged ⟨127, false⟩ tag forms ((.of tag, .string (.of name)) :: mts) none =
      .ok (some fun src t => (d src t).map wrap, mts) := by
    have hnamed : tagOf forms (.string (.of name)) = .ok fun src t => (d src t).map wrap := by
      change named forms name = _
      rw [named, hform]
    have hkey : (Key.of tag).value = .ok tag := rfl
    rw [tagged, hkey, ok_bind, if_pos rfl, if_neg (by simp), hnamed, ok_bind]
    exact tagged_eq hkeys (hvalue 127 hroom) _
  have hunion : union whole tag forms ⟨128, false⟩
      (.object ((.of tag, .string (.of name)) :: mts) .closed) = .ok (wrap x) := by
    rw [union]
    change (tagged ⟨127, false⟩ tag forms ((.of tag, .string (.of name)) :: mts) none >>= _) = _
    rw [htagged]
    change (d ⟨128, true⟩ (.object mts .closed)).map wrap = _
    rw [hread, map_ok]
  simp [document, hdoc.ofText_eq, hunion]

end ClassSchema.Json
