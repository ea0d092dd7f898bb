import StunForAndroid.Lib.Fallible

/-!
# Logging the steps of a computation

To speak of what a computation touches on its way, and not only of its result, the steps in question
are made to log an entry. `Forgets m' m` says that `m'` is `m` but for the log, so that what is
shown of the log of `m'` is about `m`. `Keeps I m` is the rule for what is true of a log: an
invariant that every step keeps, whether it succeeds or not, is kept by the sequence.
-/

namespace Fallible

variable {ε σ ι α β : Type}

/-! ## Invariants of sequences -/

/-- The value or the error of a computation. -/
def answer (m : EStateM ε σ α) (s : σ) : Except ε α :=
  match m s with
  | .ok a _ => .ok a
  | .error e _ => .error e

/-- The computation keeps an invariant, whether it succeeds or not. -/
def Keeps (I : σ → Prop) (m : EStateM ε σ α) : Prop := ∀ s, I s → I (finalState m s)

/-- Returning a value keeps every invariant. -/
theorem Keeps.pure {I : σ → Prop} (a : α) : Keeps I (Pure.pure a : EStateM ε σ α) := fun _ hs => hs

/-- Stopping with an error keeps every invariant. -/
theorem Keeps.throw {I : σ → Prop} (e : ε) : Keeps I (throw e : EStateM ε σ α) := fun _ hs => hs

/-- A sequence keeps what its first step keeps, and the rest after each of its values. -/
theorem Keeps.bind_ok {I : σ → Prop} {m : EStateM ε σ α} {f : α → EStateM ε σ β} (hm : Keeps I m)
    (hf : ∀ s a s', m s = .ok a s' → Keeps I (f a)) : Keeps I (m >>= f) := by
  intro s hs
  have hkept := hm s hs
  cases hms : m s with
  | ok a s' =>
    rw [finalState_of_ok hms] at hkept
    have hrest := hf s a s' hms s' hkept
    unfold finalState at hrest ⊢
    rwa [bind_of_ok hms]
  | error e s' =>
    rw [finalState_of_error hms] at hkept
    rwa [finalState_of_error (bind_of_error hms)]

/-- A sequence keeps what its steps keep. -/
theorem Keeps.bind {I : σ → Prop} {m : EStateM ε σ α} {f : α → EStateM ε σ β} (hm : Keeps I m)
    (hf : ∀ a, Keeps I (f a)) : Keeps I (m >>= f) :=
  hm.bind_ok fun _ a _ _ => hf a

/-- What both branches keep is kept. -/
theorem Keeps.ite {I : σ → Prop} {c : Prop} [Decidable c] {m m' : EStateM ε σ α} (h : Keeps I m)
    (h' : Keeps I m') : Keeps I (if c then m else m') := by
  split
  · exact h
  · exact h'

/-! ## The log -/

/-- A state with a log. -/
structure Logged (σ ι : Type) where
  /-- The state. -/
  state : σ
  /-- The entries, the oldest first. -/
  log : List ι

/-- A step that logs nothing. -/
def silent (m : EStateM ε σ α) : EStateM ε (Logged σ ι) α := fun t =>
  match m t.state with
  | .ok a s => .ok a ⟨s, t.log⟩
  | .error e s => .error e ⟨s, t.log⟩

/-- A step that logs an entry about the state that it starts from, when it succeeds. -/
def logging (entry : σ → ι) (m : EStateM ε σ α) : EStateM ε (Logged σ ι) α := fun t =>
  match m t.state with
  | .ok a s => .ok a ⟨s, t.log ++ [entry t.state]⟩
  | .error e s => .error e ⟨s, t.log⟩

/-- A result without the log. -/
def forget : EStateM.Result ε (Logged σ ι) α → EStateM.Result ε σ α
  | .ok a t => .ok a t.state
  | .error e t => .error e t.state

/-- Without its log, `m'` is `m`. -/
def Forgets (m' : EStateM ε (Logged σ ι) α) (m : EStateM ε σ α) : Prop :=
  ∀ t, forget (m' t) = m t.state

/-- A value is the same with a log and without one. -/
theorem Forgets.pure (a : α) :
    Forgets (Pure.pure a : EStateM ε (Logged σ ι) α) (Pure.pure a : EStateM ε σ α) := fun _ => rfl

/-- A silent step does what the step does, without a log. -/
theorem forgets_silent (m : EStateM ε σ α) : Forgets (silent m : EStateM ε (Logged σ ι) α) m := by
  intro t
  unfold silent
  cases m t.state <;> rfl

/-- A step that logs does what the step does, but for its log. -/
theorem forgets_logging (entry : σ → ι) (m : EStateM ε σ α) : Forgets (logging entry m) m := by
  intro t
  unfold logging
  cases m t.state <;> rfl

/-- A sequence of steps with a log is the sequence of the steps. -/
theorem Forgets.bind {m' : EStateM ε (Logged σ ι) α} {m : EStateM ε σ α}
    {f' : α → EStateM ε (Logged σ ι) β} {f : α → EStateM ε σ β} (hm : Forgets m' m)
    (hf : ∀ a, Forgets (f' a) (f a)) : Forgets (m' >>= f') (m >>= f) := by
  intro t
  have hstep := hm t
  cases hm' : m' t with
  | ok a t' =>
    rw [hm'] at hstep
    rw [bind_of_ok hm', bind_of_ok hstep.symm]
    exact hf a t'
  | error e t' =>
    rw [hm'] at hstep
    rw [bind_of_error hm', bind_of_error hstep.symm]
    rfl

/-- Branches with a log are the branches. -/
theorem Forgets.ite {c : Prop} [Decidable c] {m₁' m₂' : EStateM ε (Logged σ ι) α}
    {m₁ m₂ : EStateM ε σ α} (h₁ : Forgets m₁' m₁) (h₂ : Forgets m₂' m₂) :
    Forgets (if c then m₁' else m₂') (if c then m₁ else m₂) := by
  split
  · exact h₁
  · exact h₂

/-- The answer does not depend on the log. -/
theorem Forgets.answer_eq {m' : EStateM ε (Logged σ ι) α} {m : EStateM ε σ α} (h : Forgets m' m)
    (t : Logged σ ι) : answer m' t = answer m t.state := by
  have hstep := h t
  unfold answer
  rw [← hstep]
  cases m' t <;> rfl

end Fallible
