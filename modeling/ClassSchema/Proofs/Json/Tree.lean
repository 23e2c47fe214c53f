import ClassSchema.Proofs.Json.Lexeme
import Mathlib.Data.List.Forall2

/-
# Texts and the trees that they write

`Writes cs t` says that the characters `cs`, where a value may stand, are read as the tree `t`: the
scan finds some lexemes, and these make the builder add `t` to the innermost open container.  For
arrays and objects this follows from what their items and members write (`Writes.array`,
`Writes.object`), and a whole text that writes a tree is the document of it
(`Writes.ofText_eq`).
-/

namespace ClassSchema.Json

open Builder

/-- The lexemes make up one tree wherever a value may stand. -/
def Builds (ls : List Lexeme) (t : Tree) : Prop :=
  ∀ stack expected, expected = .value ∨ expected = .firstItem →
    ls.foldl Builder.next (.reading stack expected) = put stack t

/-- The characters are read as the tree wherever a value may stand. -/
def Writes (cs : List Char) (t : Tree) : Prop := ∃ ls, Settles cs ls ∧ Builds ls t

/-- The characters are read as a key, a colon and a value. -/
def WritesMember (cs : List Char) (m : Key × Tree) : Prop :=
  ∃ name value, cs = name ++ ':' :: value ∧ Yields name [.string ⟨m.1.written, m.1.text⟩] ∧
    m.1.complete = true ∧ Writes value m.2

/-! ### Containers -/

section

variable {β : Type} {reads : List Char → β → Prop} (frame : List β → Frame)
  {first again : Expected} {css : List (List Char)} {xs : List β}

/-- Parts with commas between them.  Each adds one value to the innermost container, and after a
comma another part is expected. -/
lemma separated
    (hone : ∀ cs x, reads cs x → ∃ ls, Settles cs ls ∧
      ∀ stack done expected, expected = again ∨ expected = first →
        ls.foldl Builder.next (.reading (frame done :: stack) expected) =
          .reading (frame (x :: done) :: stack) .separator)
    (hcomma : ∀ stack done, Builder.next (.reading (frame done :: stack) .separator) .comma =
      .reading (frame done :: stack) again)
    (h : List.Forall₂ reads css xs) (hne : xs ≠ []) :
    ∃ ls, Settles ([','].intercalate css) ls ∧
      ∀ stack done expected, expected = again ∨ expected = first →
        ls.foldl Builder.next (.reading (frame done :: stack) expected) =
          .reading (frame (xs.reverse ++ done) :: stack) .separator := by
  induction h with
  | nil => exact absurd rfl hne
  | @cons cs x css xs hfirst hrest ih =>
    obtain ⟨ls, hls, hfold⟩ := hone cs x hfirst
    cases hrest with
    | nil =>
      refine ⟨ls, by rwa [List.intercalate_singleton], fun stack done expected he => ?_⟩
      rw [hfold _ _ _ he]
      rfl
    | @cons ds y dss ys hsecond hothers =>
      obtain ⟨ms, hms, hfold'⟩ := ih (by simp)
      refine ⟨ls ++ .comma :: ms, ?_, fun stack done expected he => ?_⟩
      · have hpart : Yields (cs ++ [',']) (ls ++ [.comma]) := hls.append_yields Yields.comma rfl
        rw [List.intercalate_cons_cons]
        simpa using hpart.append_settles hms
      · rw [List.foldl_append, hfold _ _ _ he, List.foldl_cons, hcomma, hfold' _ _ _ (.inl rfl)]
        simp

/-- Brackets around parts with commas between them.  The opening one begins a container, and the
closing one ends it, be it empty or not. -/
lemma enclosed {opening closing : Char} {l m : Lexeme} (tree : List β → Tree)
    (hopening : Yields [opening] [l]) (hclosing : Yields [closing] [m])
    (hdelimiter : isDelimiter closing = true)
    (hopen : ∀ stack expected, expected = .value ∨ expected = .firstItem →
      Builder.next (.reading stack expected) l = .reading (frame [] :: stack) first)
    (hclose : ∀ stack done expected, expected = first ∨ expected = .separator →
      Builder.next (.reading (frame done :: stack) expected) m = put stack (tree done.reverse))
    (hone : ∀ cs x, reads cs x → ∃ ls, Settles cs ls ∧
      ∀ stack done expected, expected = again ∨ expected = first →
        ls.foldl Builder.next (.reading (frame done :: stack) expected) =
          .reading (frame (x :: done) :: stack) .separator)
    (hcomma : ∀ stack done, Builder.next (.reading (frame done :: stack) .separator) .comma =
      .reading (frame done :: stack) again)
    (h : List.Forall₂ reads css xs) :
    Writes (opening :: [','].intercalate css ++ [closing]) (tree xs) := by
  by_cases hxs : xs = []
  · subst hxs
    obtain rfl := List.forall₂_nil_right_iff.1 h
    refine ⟨[l, m], (hopening.append hclosing).settles, fun stack expected he => ?_⟩
    rw [List.foldl_cons, hopen _ _ he]
    exact hclose stack [] first (.inl rfl)
  · obtain ⟨ls, hls, hfold⟩ := separated frame hone hcomma h hxs
    have hyields : Yields (opening :: [','].intercalate css ++ [closing]) (l :: ls ++ [m]) :=
      (hopening.append_settles hls).append_yields hclosing hdelimiter
    refine ⟨_, hyields.settles, fun stack expected he => ?_⟩
    rw [List.cons_append, List.foldl_cons, hopen _ _ he, List.foldl_append, hfold _ _ _ (.inr rfl),
      List.append_nil, List.foldl_cons, hclose _ _ _ (.inr rfl), List.reverse_reverse]
    rfl

end

lemma Writes.builds_item {cs : List Char} {t : Tree} (h : Writes cs t) :
    ∃ ls, Settles cs ls ∧ ∀ stack done expected, expected = .value ∨ expected = .firstItem →
      ls.foldl Builder.next (.reading (.array done :: stack) expected) =
        .reading (.array (t :: done) :: stack) .separator := by
  obtain ⟨ls, hls, hbuilds⟩ := h
  exact ⟨ls, hls, fun stack done expected he => hbuilds _ _ he⟩

lemma WritesMember.builds_member {cs : List Char} {m : Key × Tree} (h : WritesMember cs m) :
    ∃ ls, Settles cs ls ∧ ∀ stack done expected, expected = .key ∨ expected = .firstKey →
      ls.foldl Builder.next (.reading (.object done :: stack) expected) =
        .reading (.object (m :: done) :: stack) .separator := by
  obtain ⟨⟨written, text, complete⟩, t⟩ := m
  obtain ⟨name, value, rfl, hname, rfl, ls, hls, hbuilds⟩ := h
  refine ⟨.string ⟨written, text⟩ :: .colon :: ls,
    hname.append_settles (Yields.colon.append_settles hls), fun stack done expected he => ?_⟩
  have hkey : Builder.next (.reading (.object done :: stack) expected) (.string ⟨written, text⟩) =
      .reading (.member done ⟨written, text, true⟩ :: stack) .colon := by
    rcases he with rfl | rfl <;> rfl
  rw [List.foldl_cons, hkey, List.foldl_cons]
  -- the colon asks for the value, and the value ends the member
  change List.foldl Builder.next (.reading (.member done ⟨written, text, true⟩ :: stack) .value)
    ls = _
  rw [hbuilds _ _ (.inl rfl)]
  rfl

namespace Writes

/-! ### Values -/

lemma string {cs : List Char} {s : Literal} (h : Yields cs [.string s]) :
    Writes cs (.string s) := by
  refine ⟨_, h.settles, ?_⟩
  rintro stack expected (rfl | rfl) <;> rfl

lemma array {css : List (List Char)} {ts : List Tree} (h : List.Forall₂ Writes css ts) :
    Writes ('[' :: [','].intercalate css ++ [']']) (.array ts .closed) := by
  refine enclosed .array (.array · .closed) Yields.openBracket Yields.closeBracket rfl ?_ ?_
    (fun _ _ => builds_item) (fun _ _ => rfl) h
  · rintro stack expected (rfl | rfl) <;> rfl
  · rintro stack done expected (rfl | rfl) <;> rfl

lemma object {css : List (List Char)} {ms : List (Key × Tree)}
    (h : List.Forall₂ WritesMember css ms) :
    Writes ('\x7b' :: [','].intercalate css ++ ['\x7d']) (.object ms .closed) := by
  refine enclosed .object (.object · .closed) Yields.openBrace Yields.closeBrace rfl ?_ ?_
    (fun _ _ => WritesMember.builds_member) (fun _ _ => rfl) h
  · rintro stack expected (rfl | rfl) <;> rfl
  · rintro stack done expected (rfl | rfl) <;> rfl

/-! ### Documents -/

/-- A text that writes a tree is the document of it. -/
theorem ofText_eq {text : String} {t : Tree} (h : Writes text.toList t) :
    Document.ofText text = ⟨t, true⟩ := by
  obtain ⟨ls, hls, hbuilds⟩ := h
  rw [Document.ofText, hls.lexemes_eq, Builder.start, hbuilds [] .value (.inl rfl)]
  rfl

end Writes

end ClassSchema.Json
