import ClassSchema.Proofs.Json.Decoder
import ClassSchema.Proofs.Json.Literal
import ClassSchema.Proofs.Json.Numeral

/-
# The grammar of JSON text

`Tree.IsText t cs` says that the characters `cs` are a JSON text for the tree `t`.  It is the
grammar, written down without a scan and without a stack: blanks around values and names, literals
in any of their forms, and containers with commas between their parts.  What the grammar derives is
read as this tree (`Tree.IsText.ofText_eq`).

A string literal with a surrogate that lacks its partner belongs to the grammar although it means no
text, and so does a number of any size.  Such a value may stand where nobody looks at it.
-/

namespace ClassSchema.Json

/-- Blanks and nothing else. -/
def AreBlanks (cs : List Char) : Prop := ∀ c ∈ cs, isSpace c = true

instance (cs : List Char) : Decidable (AreBlanks cs) :=
  decidable_of_iff (cs.all isSpace = true) List.all_eq_true

/-- The characters are a string literal, and the text of the literal is what they mean. -/
inductive Literal.IsText : Literal → List Char → Prop
  | meaning {cs ds : List Char} (h : Means cs ds) :
      IsText ⟨cs, some (String.ofList ds)⟩ ('"' :: cs ++ ['"'])
  | unpaired {cs : List Char} {us : List Nat} (h : Spells cs us) (hnone : ∀ ds, ¬ Means cs ds) :
      IsText ⟨cs, none⟩ ('"' :: cs ++ ['"'])

/-- The characters are a member name with blanks around it. -/
inductive Key.IsText : Key → List Char → Prop
  | mk {s : Literal} {before cs after : List Char} (hbefore : AreBlanks before)
      (h : s.IsText cs) (hafter : AreBlanks after) :
      IsText ⟨s.written, s.text, true⟩ (before ++ cs ++ after)

/-- A member of an object with the characters in which its name and its value are written. -/
structure WrittenMember where
  key : Key
  value : Tree
  keyText : List Char
  valueText : List Char

/-- The characters are a JSON text for the tree. -/
inductive Tree.IsText : Tree → List Char → Prop
  | nullWord : IsText .null ['n', 'u', 'l', 'l']
  | trueWord : IsText (.bool true) ['t', 'r', 'u', 'e']
  | falseWord : IsText (.bool false) ['f', 'a', 'l', 's', 'e']
  | number {n : Numeral} {cs : List Char} (h : n.IsText cs) : IsText (.number n) cs
  | string {s : Literal} {cs : List Char} (h : s.IsText cs) : IsText (.string s) cs
  | emptyArray {blanks : List Char} (h : AreBlanks blanks) :
      IsText (.array [] .closed) ('[' :: blanks ++ [']'])
  | array {items : List (Tree × List Char)} (h : ∀ i ∈ items, IsText i.1 i.2) :
      IsText (.array (items.map (·.1)) .closed)
        ('[' :: [','].intercalate (items.map (·.2)) ++ [']'])
  | emptyObject {blanks : List Char} (h : AreBlanks blanks) :
      IsText (.object [] .closed) ('\x7b' :: blanks ++ ['\x7d'])
  | object {members : List WrittenMember} (hkeys : ∀ m ∈ members, m.key.IsText m.keyText)
      (h : ∀ m ∈ members, IsText m.value m.valueText) :
      IsText (.object (members.map fun m => (m.key, m.value)) .closed)
        ('\x7b' :: [','].intercalate (members.map fun m => m.keyText ++ ':' :: m.valueText) ++
          ['\x7d'])
  | spaced {t : Tree} {before cs after : List Char} (hbefore : AreBlanks before)
      (h : IsText t cs) (hafter : AreBlanks after) : IsText t (before ++ cs ++ after)

/-! ### What is read of a text -/

lemma Literal.IsText.yields {s : Literal} {cs : List Char} (h : s.IsText cs) :
    Yields cs [.string s] := by
  cases h with
  | meaning h =>
    obtain ⟨us, hus, hjoin⟩ := h.exists_spells
    have hyields := hus.yields
    rwa [hjoin] at hyields
  | @unpaired cs us h hnone =>
    have hjoin : joinSurrogates us = none := by
      rw [Option.eq_none_iff_forall_ne_some]
      exact fun ds hds => hnone ds (h.means hds)
    have hyields := h.yields
    rwa [hjoin] at hyields

lemma Key.IsText.yields {k : Key} {cs : List Char} (h : k.IsText cs) :
    Yields cs [.string ⟨k.written, k.text⟩] := by
  obtain ⟨hbefore, h, hafter⟩ := h
  exact ((Yields.blanks hbefore).append h.yields).append (Yields.blanks hafter)

lemma Key.IsText.complete {k : Key} {cs : List Char} (h : k.IsText cs) : k.complete = true := by
  obtain ⟨-, -, -⟩ := h
  rfl

lemma Writes.spaced {t : Tree} {before cs after : List Char} (hbefore : AreBlanks before)
    (h : Writes cs t) (hafter : AreBlanks after) : Writes (before ++ cs ++ after) t := by
  obtain ⟨ls, hls, hbuilds⟩ := h
  exact ⟨ls, ((Yields.blanks hbefore).append_settles hls).append_blanks hafter, hbuilds⟩

lemma Tree.allIntact_iff {ts : List Tree} :
    Tree.allIntact ts = true ↔ ∀ t ∈ ts, t.intact = true := by
  induction ts with
  | nil => simp [Tree.allIntact]
  | cons t rest ih => rw [Tree.allIntact, Bool.and_eq_true, ih, List.forall_mem_cons]

lemma Tree.membersIntact_iff {ms : List (Key × Tree)} : Tree.membersIntact ms = true ↔
    ∀ m ∈ ms, m.1.complete = true ∧ m.2.intact = true := by
  induction ms with
  | nil => simp [Tree.membersIntact]
  | cons m rest ih =>
    obtain ⟨k, t⟩ := m
    rw [Tree.membersIntact, Bool.and_eq_true, Bool.and_eq_true, ih, List.forall_mem_cons]

namespace Tree.IsText

variable {t : Tree} {cs : List Char}

/-- A text is read as its tree. -/
theorem writes (h : t.IsText cs) : Writes cs t := by
  induction h with
  | nullWord => exact ⟨[.null], Yields.settles fun _ => rfl, by rintro _ _ (rfl | rfl) <;> rfl⟩
  | trueWord =>
    exact ⟨[.bool true], Yields.settles fun _ => rfl, by rintro _ _ (rfl | rfl) <;> rfl⟩
  | falseWord =>
    exact ⟨[.bool false], Yields.settles fun _ => rfl, by rintro _ _ (rfl | rfl) <;> rfl⟩
  | number h => exact ⟨_, h.settles, by rintro _ _ (rfl | rfl) <;> rfl⟩
  | string h => exact .string h.yields
  | emptyArray h =>
    exact ⟨[.openBracket, .closeBracket], ((Yields.openBracket.append (Yields.blanks h)).append
      Yields.closeBracket).settles, by rintro _ _ (rfl | rfl) <;> rfl⟩
  | @array items _ ih =>
    refine .array ?_
    rw [List.forall₂_map_left_iff, List.forall₂_map_right_iff]
    exact List.forall₂_same.2 ih
  | emptyObject h =>
    exact ⟨[.openBrace, .closeBrace], ((Yields.openBrace.append (Yields.blanks h)).append
      Yields.closeBrace).settles, by rintro _ _ (rfl | rfl) <;> rfl⟩
  | @object members hkeys _ ih =>
    refine .object ?_
    rw [List.forall₂_map_left_iff, List.forall₂_map_right_iff]
    exact List.forall₂_same.2 fun m hm =>
      ⟨_, _, rfl, (hkeys m hm).yields, (hkeys m hm).complete, ih m hm⟩
  | spaced hbefore _ hafter ih => exact ih.spaced hbefore hafter

/-- The tree of a text is intact. -/
theorem intact (h : t.IsText cs) : t.intact = true := by
  induction h with
  | nullWord | trueWord | falseWord | number _ | string _ | emptyArray _ | emptyObject _ => rfl
  | @array items _ ih =>
    have hitems : Tree.allIntact (items.map (·.1)) = true := by
      rw [allIntact_iff, List.forall_mem_map]
      exact ih
    rw [Tree.intact, hitems]
    rfl
  | @object members hkeys _ ih =>
    have hmembers : Tree.membersIntact (members.map fun m => (m.key, m.value)) = true := by
      rw [membersIntact_iff, List.forall_mem_map]
      exact fun m hm => ⟨(hkeys m hm).complete, ih m hm⟩
    rw [Tree.intact, hmembers]
    rfl
  | spaced _ _ _ ih => exact ih

/-- A whole text is read as a document that is its tree and nothing else. -/
theorem ofText_eq {text : String} (h : t.IsText text.toList) : Document.ofText text = ⟨t, true⟩ :=
  h.writes.ofText_eq

end Tree.IsText

/-! ### Texts made of texts -/

/-- What the printer writes for a string is a literal. -/
lemma Literal.isText_of (s : String) : (Literal.of s).IsText (writtenString s).toList := by
  have h := Literal.IsText.meaning (means_writtenChars s.toList)
  rw [String.ofList_toList] at h
  rw [writtenString, String.toList_ofList]
  exact h

lemma Key.isText_of (name : String) : (Key.of name).IsText (writtenString name).toList := by
  have hnone : AreBlanks [] := by decide
  have h := Key.IsText.mk hnone (Literal.isText_of name) hnone
  rwa [List.append_nil, List.nil_append] at h

/-- A tree with a text for it. -/
structure Written where
  tree : Tree
  text : List Char
  isText : tree.IsText text

namespace Written

def string (s : String) : Written := ⟨.string (.of s), _, .string (Literal.isText_of s)⟩

/-- A literal in which more is escaped than the printer would escape. -/
def escaped {cs ds : List Char} (h : Means cs ds) : Written := ⟨_, _, .string (.meaning h)⟩

def number {n : Numeral} {cs : List Char} (h : n.IsText cs) : Written := ⟨_, _, .number h⟩

def array (items : List Written) : Written where
  tree := .array (items.map tree) .closed
  text := '[' :: [','].intercalate (items.map text) ++ [']']
  isText := by
    have hitems : ∀ i ∈ items.map fun w => (w.tree, w.text), i.1.IsText i.2 := by
      simp only [List.forall_mem_map, isText, implies_true]
    simpa only [List.map_map, Function.comp_def] using Tree.IsText.array hitems

def object (members : List (String × Written)) : Written where
  tree := .object (members.map fun m => (.of m.1, m.2.tree)) .closed
  text := '\x7b' :: [','].intercalate
    (members.map fun m => (writtenString m.1).toList ++ ':' :: m.2.text) ++ ['\x7d']
  isText := by
    have hmembers : ∀ m ∈ members.map fun m =>
        (⟨.of m.1, m.2.tree, (writtenString m.1).toList, m.2.text⟩ : WrittenMember),
        m.key.IsText m.keyText ∧ m.value.IsText m.valueText := by
      simp only [List.forall_mem_map, Key.isText_of, isText, and_self, implies_true]
    simpa only [List.map_map, Function.comp_def] using
      Tree.IsText.object (fun m hm => (hmembers m hm).1) fun m hm => (hmembers m hm).2

def spaced (before : List Char) (w : Written) (after : List Char) (hbefore : AreBlanks before)
    (hafter : AreBlanks after) : Written :=
  ⟨w.tree, _, .spaced hbefore w.isText hafter⟩

end Written

end ClassSchema.Json
