import Mathlib.Tactic.Common

/-
# Outcomes

A computation in the `Except` monad ends in a value or at its first error.  The lemmas say when a
sequence of two ends which way; the proofs about checks, requests and compilations take such
computations apart with them, one step at a time, and open no `bind`.  Which errors a computation
can end in is said with `FailsOnly`, which a sequence has if its parts have it.
-/

namespace ClassSchema.Outcome

variable {ε ε' α β : Type}

@[simp] lemma ok_bind (a : α) (f : α → Except ε β) : (Except.ok a >>= f) = f a := rfl

@[simp] lemma error_bind (e : ε) (f : α → Except ε β) : (Except.error e >>= f) = .error e := rfl

lemma bind_eq_ok_iff {x : Except ε α} {f : α → Except ε β} {b : β} :
    x >>= f = .ok b ↔ ∃ a, x = .ok a ∧ f a = .ok b := by
  cases x <;> simp

/-- A check that returns nothing, followed by another. -/
lemma seq_eq_ok_iff {x : Except ε Unit} {y : Except ε β} {b : β} :
    (x >>= fun _ => y) = .ok b ↔ x = .ok () ∧ y = .ok b := by
  cases x <;> simp

/-- What is known to end in a value, ends in one. -/
lemma exists_ok_of_toBool {x : Except ε α} (h : x.toBool = true) : ∃ a, x = .ok a := by
  cases x with
  | error e => cases h
  | ok a => exact ⟨a, rfl⟩

/-- What is known to end in a value of which something is known, ends in one. -/
lemma exists_ok_of_toOption {x : Except ε α} {f : α → β} {b : β}
    (h : x.toOption.map f = some b) : ∃ a, x = .ok a ∧ f a = b := by
  cases x with
  | error e => cases h
  | ok a => exact ⟨a, rfl, Option.some.inj h⟩

@[simp] lemma map_ok (f : α → β) (a : α) : (Except.ok a : Except ε α).map f = .ok (f a) := rfl

@[simp] lemma map_error (f : α → β) (e : ε) :
    (Except.error e : Except ε α).map f = .error e := rfl

@[simp] lemma mapError_ok (f : ε → ε') (a : α) :
    (Except.ok a : Except ε α).mapError f = .ok a := rfl

@[simp] lemma mapError_error (f : ε → ε') (e : ε) :
    (Except.error e : Except ε α).mapError f = .error (f e) := rfl

/-! ### Errors -/

/-- If the computation ends in an error, then in one of these. -/
def FailsOnly (P : ε → Prop) (x : Except ε α) : Prop := ∀ e, x = .error e → P e

namespace FailsOnly

variable {P Q : ε → Prop} {x : Except ε α}

lemma of_ok {a : α} (h : x = .ok a) : FailsOnly P x := by
  intro e he
  cases h.symm.trans he

lemma of_error {e : ε} (h : x = .error e) (he : P e) : FailsOnly P x := by
  intro e' he'
  obtain rfl := Except.error.inj (h.symm.trans he')
  exact he

lemma mono (h : FailsOnly P x) (hPQ : ∀ e, P e → Q e) : FailsOnly Q x := fun e he => hPQ e (h e he)

lemma bind {f : α → Except ε β} (hx : FailsOnly P x) (hf : ∀ a, x = .ok a → FailsOnly P (f a)) :
    FailsOnly P (x >>= f) := by
  intro e he
  cases x with
  | error e' =>
    obtain rfl := Except.error.inj (error_bind e' f ▸ he)
    exact hx e' rfl
  | ok a => exact hf a rfl e he

lemma map_iff {f : α → β} : FailsOnly P (x.map f) ↔ FailsOnly P x := by
  cases x <;> simp [FailsOnly]

lemma mapError_iff {P : ε' → Prop} {f : ε → ε'} :
    FailsOnly P (x.mapError f) ↔ FailsOnly (fun e => P (f e)) x := by
  cases x <;> simp [FailsOnly]

end FailsOnly

end ClassSchema.Outcome
