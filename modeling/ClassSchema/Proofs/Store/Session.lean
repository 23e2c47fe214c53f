import ClassSchema.Proofs.Outcome
import ClassSchema.Store.Basic

/-
# Sessions

A session is a store that gets one request after the other.  Each is answered, and the next one goes
to the store as it is then: a request that validation rejects has left it as it was, but one that
the store has refused may have changed it.  What every request preserves holds after any session
(`afterAll_induction`).
-/

namespace ClassSchema.Store

open Schema Outcome

variable {σ : Type} [Store σ]

/-- What a store answers to a request. -/
def answer (s : σ) (q : Request) : Except SchemaError Unit := (respond s q).1

/-- The store after a request. -/
def after (s : σ) (q : Request) : σ := (respond s q).2

/-- The store after a session. -/
def afterAll (s : σ) (qs : List Request) : σ := qs.foldl after s

/-- What a store answers in a session. -/
def answers (s : σ) : List Request → List (Except SchemaError Unit)
  | [] => []
  | q :: qs => answer s q :: answers (after s q) qs

/-- The requests of a session, each with the answer to it. -/
def trace (s : σ) (qs : List Request) : List (Request × Except SchemaError Unit) :=
  qs.zip (answers s qs)

@[simp] lemma afterAll_nil (s : σ) : afterAll s [] = s := rfl

@[simp] lemma afterAll_cons (s : σ) (q : Request) (qs : List Request) :
    afterAll s (q :: qs) = afterAll (after s q) qs := rfl

@[simp] lemma trace_nil (s : σ) : trace s [] = [] := rfl

@[simp] lemma trace_cons (s : σ) (q : Request) (qs : List Request) :
    trace s (q :: qs) = (q, answer s q) :: trace (after s q) qs := rfl

/-! ### One request -/

lemma create_eq_ok_iff {s s' : σ} {q : Request} :
    create s q = .ok s' ↔ (view s).check q = .ok () ∧ accept s q = .ok s' := by
  rw [create, seq_eq_ok_iff]

lemma create_of_check_ok {s : σ} {q : Request} (h : (view s).check q = .ok ()) :
    create s q = accept s q := by
  rw [create, h, ok_bind]

lemma create_of_check_error {s : σ} {q : Request} {e : SchemaError}
    (h : (view s).check q = .error e) : create s q = .error e := by
  rw [create, h, error_bind]

lemma respond_of_check_ok {s : σ} {q : Request} (h : (view s).check q = .ok ()) :
    respond s q = serve s q := by
  rw [respond, h]

lemma respond_of_check_error {s : σ} {q : Request} {e : SchemaError}
    (h : (view s).check q = .error e) : respond s q = (.error e, s) := by
  rw [respond, h]

lemma accept_eq_ok_iff {s s' : σ} {q : Request} :
    accept s q = .ok s' ↔ serve s q = (.ok (), s') := by
  rw [accept]
  split
  next s'' h => simp [h]
  next e s'' h => simp [h]

/-- A store that contains another one, and does with requests what that does, responds as it
does. -/
lemma respond_of_view_eq {τ : Type} [Store τ] {f : σ → τ} {s : σ} {q : Request}
    (hview : view (f s) = view s) (hserve : serve (f s) q = (serve s q).map id f) :
    respond (f s) q = (respond s q).map id f := by
  cases h : (view s).check q with
  | error e =>
    rw [respond_of_check_error h, respond_of_check_error (hview ▸ h), Prod.map_apply, id]
  | ok _ => rw [respond_of_check_ok h, respond_of_check_ok (hview ▸ h), hserve]

/-- To create is to respond with success. -/
lemma create_eq_ok_iff_respond {s s' : σ} {q : Request} :
    create s q = .ok s' ↔ respond s q = (.ok (), s') := by
  cases h : (view s).check q with
  | ok _ => rw [create_of_check_ok h, respond_of_check_ok h, accept_eq_ok_iff]
  | error e => simp [create_of_check_error h, respond_of_check_error h]

lemma answer_of_create_ok {s s' : σ} {q : Request} (h : create s q = .ok s') :
    answer s q = .ok () := by
  rw [answer, create_eq_ok_iff_respond.1 h]

lemma after_of_create_ok {s s' : σ} {q : Request} (h : create s q = .ok s') :
    after s q = s' := by
  rw [after, create_eq_ok_iff_respond.1 h]

lemma create_of_answer_ok {s : σ} {q : Request} (h : answer s q = .ok ()) :
    create s q = .ok (after s q) :=
  create_eq_ok_iff_respond.2 (Prod.ext h rfl)

lemma answer_of_check_error {s : σ} {q : Request} {e : SchemaError}
    (h : (view s).check q = .error e) : answer s q = .error e := by
  rw [answer, respond_of_check_error h]

lemma after_of_check_error {s : σ} {q : Request} {e : SchemaError}
    (h : (view s).check q = .error e) : after s q = s := by
  rw [after, respond_of_check_error h]

/-- What is accepted has been found valid. -/
lemma check_of_answer_ok {s : σ} {q : Request} (h : answer s q = .ok ()) :
    (view s).check q = .ok () :=
  (create_eq_ok_iff.1 (create_of_answer_ok h)).1

/-! ### Sessions -/

lemma length_answers (s : σ) (qs : List Request) : (answers s qs).length = qs.length := by
  induction qs generalizing s with
  | nil => rfl
  | cons q rest ih => rw [answers, List.length_cons, ih, List.length_cons]

lemma answers_concat (s : σ) (qs : List Request) (q : Request) :
    answers s (qs ++ [q]) = answers s qs ++ [answer (afterAll s qs) q] := by
  induction qs generalizing s with
  | nil => rfl
  | cons q' rest ih =>
    rw [List.cons_append, answers, ih, answers, List.cons_append, afterAll_cons]

lemma trace_concat (s : σ) (qs : List Request) (q : Request) :
    trace s (qs ++ [q]) = trace s qs ++ [(q, answer (afterAll s qs) q)] := by
  rw [trace, answers_concat, List.zip_append (length_answers s qs).symm, ← trace]
  rfl

lemma afterAll_concat (s : σ) (qs : List Request) (q : Request) :
    afterAll s (qs ++ [q]) = after (afterAll s qs) q := List.foldl_append

/-- What holds of a store and is preserved by every request holds after any session. -/
theorem afterAll_induction {P : σ → Prop} (hstep : ∀ s q, P s → P (after s q)) {s : σ} (hs : P s)
    (qs : List Request) : P (afterAll s qs) := by
  induction qs generalizing s with
  | nil => exact hs
  | cons q rest ih => exact ih (hstep s q hs)

end ClassSchema.Store
