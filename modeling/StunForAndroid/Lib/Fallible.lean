import Mathlib.Init

/-!
# Computations that change a state and may fail

`EStateM ε σ α` is a computation on a state `σ` that either returns a value or stops with an error,
and keeps the state that it had reached in both cases. This is what a function computes that returns
an error code, stops at the first step that fails, and leaves the object that it works on as that
step left it.

`Succeeds P m Q` is total correctness: from every state that satisfies `P`, `m` succeeds, and its
value and final state satisfy `Q`. `Ensures P m Q` is partial: they do when it succeeds.
`FailsWith m s e` says with which error `m` stops. `zoom` runs a computation on a part of a larger
state, and `finalState` is what a caller keeps that does not look at the error code (`ignore`).
-/

namespace Fallible

variable {ε σ τ α β : Type}

/-! ## Running a sequence -/

/-- A step that succeeds hands its value and state to the rest. -/
theorem bind_of_ok {m : EStateM ε σ α} {f : α → EStateM ε σ β} {s s' : σ} {a : α}
    (h : m s = .ok a s') : (m >>= f) s = f a s' := by
  simp only [bind, EStateM.bind, h]

/-- A step that fails ends the sequence. -/
theorem bind_of_error {m : EStateM ε σ α} {f : α → EStateM ε σ β} {s s' : σ} {e : ε}
    (h : m s = .error e s') : (m >>= f) s = .error e s' := by
  simp only [bind, EStateM.bind, h]

/-- Reading the state hands it to the rest. -/
theorem bind_get {f : σ → EStateM ε σ β} {s : σ} : (get >>= f : EStateM ε σ β) s = f s s := rfl

/-- Changing the state hands the new one to the rest. -/
theorem bind_modify {f : σ → σ} {g : PUnit → EStateM ε σ β} {s : σ} :
    (modify f >>= g : EStateM ε σ β) s = g ⟨⟩ (f s) := rfl

/-- A sequence that succeeds is made of steps that succeed. -/
theorem bind_eq_ok_iff {m : EStateM ε σ α} {f : α → EStateM ε σ β} {s s'' : σ} {b : β} :
    (m >>= f) s = .ok b s'' ↔ ∃ a s', m s = .ok a s' ∧ f a s' = .ok b s'' := by
  constructor
  · intro h
    cases hm : m s with
    | ok a s' => exact ⟨a, s', rfl, by rwa [bind_of_ok hm] at h⟩
    | error e s' => rw [bind_of_error hm] at h; cases h
  · rintro ⟨a, s', hm, hf⟩
    rwa [bind_of_ok hm]

/-- A sequence without a state that succeeds is made of steps that succeed. -/
theorem except_bind_eq_ok_iff {m : Except ε α} {f : α → Except ε β} {b : β} :
    m >>= f = .ok b ↔ ∃ a, m = .ok a ∧ f a = .ok b := by
  cases m with
  | ok a => simp [bind, Except.bind]
  | error e => simp [bind, Except.bind]

/-- What follows a check is done when it does not throw. -/
theorem except_throw_eq_ok_iff {c : Prop} [Decidable c] {e : ε} {f : β → Except ε α}
    {m : Except ε α} {a : α} : (if c then throw e >>= f else m) = .ok a ↔ ¬c ∧ m = .ok a := by
  by_cases h : c
  · rw [if_pos h]
    exact iff_of_false nofun fun hm => hm.1 h
  · rw [if_neg h]
    exact (and_iff_right h).symm

/-- Sequences without a state are the same when the second steps do the same after the first. -/
theorem except_bind_congr {m : Except ε α} {f f' : α → Except ε β}
    (h : ∀ a, m = .ok a → f a = f' a) :
    m >>= f = m >>= f' := by
  cases m with
  | ok a => exact h a rfl
  | error e => rfl

/-- What a computation without a state throws. -/
def raised : Except ε α → Option ε
  | .ok _ => none
  | .error e => some e

/-- A computation raises an error exactly when it ends with it. -/
theorem raised_eq_some_iff {m : Except ε α} {e : ε} : raised m = some e ↔ m = .error e := by
  cases m with
  | ok a => exact iff_of_false nofun nofun
  | error e' => simp [raised]

/-- A sequence raises what its first step raises, and otherwise what the second does. -/
theorem raised_bind {m : Except ε α} {f : α → Except ε β} {rest : Option ε}
    (hrest : ∀ a, m = .ok a → raised (f a) = rest) : raised (m >>= f) = (raised m).or rest := by
  cases m with
  | ok a => exact hrest a rfl
  | error e => rfl

/-- A second step that does not throw adds nothing to what the first raises. -/
theorem raised_bind_ok {m : Except ε α} {f : α → β} :
    raised (m >>= fun a => .ok (f a)) = raised m := by
  cases m <;> rfl

/-- The state that a computation ends in, whether it succeeds or not. -/
def finalState (m : EStateM ε σ α) (s : σ) : σ :=
  match m s with
  | .ok _ s' => s'
  | .error _ s' => s'

/-- The final state of a computation that succeeds is the one it succeeds in. -/
theorem finalState_of_ok {m : EStateM ε σ α} {s s' : σ} {a : α} (h : m s = .ok a s') :
    finalState m s = s' := by
  simp only [finalState, h]

/-- The final state of a computation that fails is the one it fails in. -/
theorem finalState_of_error {m : EStateM ε σ α} {s s' : σ} {e : ε} (h : m s = .error e s') :
    finalState m s = s' := by
  simp only [finalState, h]

/-- A step whose error code is not looked at. -/
def ignore (m : EStateM ε σ α) : EStateM ε σ Unit := fun s => .ok () (finalState m s)

/-! ## A part of the state -/

/-- A computation on the part `get s` of the state `s`, which `set` puts back. -/
def zoom (get : τ → σ) (set : σ → τ → τ) (m : EStateM ε σ α) : EStateM ε τ α := fun t =>
  match m (get t) with
  | .ok a s => .ok a (set s t)
  | .error e s => .error e (set s t)

/-- A computation that succeeds on the part succeeds on the whole. -/
theorem zoom_of_ok {get : τ → σ} {set : σ → τ → τ} {m : EStateM ε σ α} {t : τ} {s : σ} {a : α}
    (h : m (get t) = .ok a s) : zoom get set m t = .ok a (set s t) := by
  simp only [zoom, h]

/-- A computation that fails on the part fails on the whole. -/
theorem zoom_of_error {get : τ → σ} {set : σ → τ → τ} {m : EStateM ε σ α} {t : τ} {s : σ} {e : ε}
    (h : m (get t) = .error e s) : zoom get set m t = .error e (set s t) := by
  simp only [zoom, h]

/-- A computation that succeeds on the whole succeeds on the part. -/
theorem zoom_eq_ok_iff {get : τ → σ} {set : σ → τ → τ} {m : EStateM ε σ α} {t t' : τ} {a : α} :
    zoom get set m t = .ok a t' ↔ ∃ s, m (get t) = .ok a s ∧ t' = set s t := by
  constructor
  · intro h
    cases hm : m (get t) with
    | ok a' s =>
      rw [zoom_of_ok hm] at h
      cases h
      exact ⟨s, rfl, rfl⟩
    | error e s =>
      rw [zoom_of_error hm] at h
      cases h
  · rintro ⟨s, hm, rfl⟩
    exact zoom_of_ok hm

/-! ## Cleaning up -/

/-- A computation whose state is changed once more when it has failed. -/
def onError (f : σ → σ) (m : EStateM ε σ α) : EStateM ε σ α := fun s =>
  match m s with
  | .ok a s' => .ok a s'
  | .error e s' => .error e (f s')

/-- Cleaning up changes nothing of a computation that succeeds. -/
theorem onError_eq_ok_iff {f : σ → σ} {m : EStateM ε σ α} {s s' : σ} {a : α} :
    onError f m s = .ok a s' ↔ m s = .ok a s' := by
  unfold onError
  cases m s with
  | ok a' s'' => rfl
  | error e s'' => exact iff_of_false nofun nofun

/-! ## Failing -/

/-- From the state `s`, `m` stops with the error `e`. -/
def FailsWith (m : EStateM ε σ α) (s : σ) (e : ε) : Prop := ∃ s', m s = .error e s'

/-- A sequence whose first step succeeds fails in the second. -/
theorem failsWith_bind_of_ok {m : EStateM ε σ α} {f : α → EStateM ε σ β} {s s' : σ} {a : α}
    (h : m s = .ok a s') (e : ε) : FailsWith (m >>= f) s e ↔ FailsWith (f a) s' e := by
  unfold FailsWith
  rw [bind_of_ok h]

/-- Reading the state does not fail. -/
theorem failsWith_get_bind {f : σ → EStateM ε σ β} {s : σ} {e : ε} :
    FailsWith (get >>= f) s e ↔ FailsWith (f s) s e := Iff.rfl

/-- Changing the state does not fail. -/
theorem failsWith_modify_bind {f : σ → σ} {g : PUnit → EStateM ε σ β} {s : σ} {e : ε} :
    FailsWith (modify f >>= g) s e ↔ FailsWith (g ⟨⟩) (f s) e := Iff.rfl

/-- A sequence whose first step fails has its error. -/
theorem failsWith_bind_of_error {m : EStateM ε σ α} {f : α → EStateM ε σ β} {s s' : σ} {e : ε}
    (h : m s = .error e s') (e' : ε) : FailsWith (m >>= f) s e' ↔ e' = e := by
  unfold FailsWith
  rw [bind_of_error h]
  constructor
  · rintro ⟨s'', ⟨⟩⟩
    rfl
  · rintro rfl
    exact ⟨s', rfl⟩

/-- Cleaning up keeps the error. -/
theorem failsWith_onError_iff {f : σ → σ} {m : EStateM ε σ α} {s : σ} {e : ε} :
    FailsWith (onError f m) s e ↔ FailsWith m s e := by
  unfold FailsWith onError
  cases m s with
  | ok a s' => exact iff_of_false nofun nofun
  | error e' s' =>
    constructor
    · rintro ⟨s'', h⟩
      cases h
      exact ⟨s', rfl⟩
    · rintro ⟨s'', h⟩
      cases h
      exact ⟨f s', rfl⟩

/-- A computation on a part fails with its error on the whole. -/
theorem failsWith_zoom_iff {get : τ → σ} {set : σ → τ → τ} {m : EStateM ε σ α} {t : τ} {e : ε} :
    FailsWith (zoom get set m) t e ↔ FailsWith m (get t) e := by
  unfold FailsWith
  cases hm : m (get t) with
  | ok a s =>
    rw [zoom_of_ok hm]
    exact iff_of_false nofun nofun
  | error e' s =>
    rw [zoom_of_error hm]
    constructor
    · rintro ⟨s', h⟩
      cases h
      exact ⟨s, rfl⟩
    · rintro ⟨s', h⟩
      cases h
      exact ⟨set s t, rfl⟩

/-! ## Total correctness -/

/-- From every state that satisfies `P`, `m` succeeds, and its value and final state satisfy
`Q`. -/
def Succeeds (P : σ → Prop) (m : EStateM ε σ α) (Q : α → σ → Prop) : Prop :=
  ∀ s, P s → ∃ a s', m s = .ok a s' ∧ Q a s'

/-- Returning a value succeeds and leaves the state alone. -/
theorem Succeeds.pure {P : σ → Prop} {a : α} {Q : α → σ → Prop} (h : ∀ s, P s → Q a s) :
    Succeeds P (Pure.pure a : EStateM ε σ α) Q :=
  fun s hs => ⟨a, s, rfl, h s hs⟩

/-- A sequence succeeds when its second step succeeds from every outcome of its first. -/
theorem Succeeds.bind {P : σ → Prop} {R : α → σ → Prop} {Q : β → σ → Prop} {m : EStateM ε σ α}
    {f : α → EStateM ε σ β} (hm : Succeeds P m R) (hf : ∀ a, Succeeds (R a) (f a) Q) :
    Succeeds P (m >>= f) Q := by
  intro s hs
  obtain ⟨a, s', hms, hR⟩ := hm s hs
  obtain ⟨b, s'', hfs, hQ⟩ := hf a s' hR
  exact ⟨b, s'', by rw [bind_of_ok hms, hfs], hQ⟩

/-- The precondition can be strengthened and the postcondition weakened. -/
theorem Succeeds.mono {P P' : σ → Prop} {Q Q' : α → σ → Prop} {m : EStateM ε σ α}
    (h : Succeeds P m Q) (hP : ∀ s, P' s → P s) (hQ : ∀ a s, Q a s → Q' a s) :
    Succeeds P' m Q' := by
  intro s hs
  obtain ⟨a, s', hm, hq⟩ := h s (hP s hs)
  exact ⟨a, s', hm, hQ a s' hq⟩

/-- The outcome of a computation that succeeds satisfies its postcondition. -/
theorem Succeeds.of_ok {P : σ → Prop} {m : EStateM ε σ α} {Q : α → σ → Prop} (h : Succeeds P m Q)
    {s s' : σ} {a : α} (hs : P s) (hm : m s = .ok a s') : Q a s' := by
  obtain ⟨b, t, hb, hQ⟩ := h s hs
  rw [hm] at hb
  cases hb
  exact hQ

/-- The state that a successful computation ends in satisfies its postcondition. -/
theorem Succeeds.finalState {P : σ → Prop} {m : EStateM ε σ α} {Q : α → σ → Prop}
    (h : Succeeds P m Q) {s : σ} (hs : P s) : ∃ a, Q a (finalState m s) := by
  obtain ⟨a, s', hm, hq⟩ := h s hs
  exact ⟨a, by rwa [finalState_of_ok hm]⟩

/-- A step that succeeds also does so when its error code is not looked at. -/
theorem Succeeds.ignore {P R : σ → Prop} {m : EStateM ε σ α} (h : Succeeds P m fun _ => R) :
    Succeeds P (ignore m) fun _ => R := by
  intro s hs
  obtain ⟨-, hR⟩ := h.finalState hs
  exact ⟨(), _, rfl, hR⟩

/-! ## Partial correctness -/

/-- When `m` succeeds from a state that satisfies `P`, its value and final state satisfy `Q`. -/
def Ensures (P : σ → Prop) (m : EStateM ε σ α) (Q : α → σ → Prop) : Prop :=
  ∀ s, P s → ∀ a s', m s = .ok a s' → Q a s'

/-- Returning a value leaves the state alone. -/
theorem Ensures.pure {P : σ → Prop} {a : α} {Q : α → σ → Prop} (h : ∀ s, P s → Q a s) :
    Ensures P (Pure.pure a : EStateM ε σ α) Q := by
  rintro s hs _ _ ⟨⟩
  exact h s hs

/-- A sequence ensures what its second step ensures after its first. -/
theorem Ensures.bind {P : σ → Prop} {R : α → σ → Prop} {Q : β → σ → Prop} {m : EStateM ε σ α}
    {f : α → EStateM ε σ β} (hm : Ensures P m R) (hf : ∀ a, Ensures (R a) (f a) Q) :
    Ensures P (m >>= f) Q := by
  intro s hs b s'' h
  obtain ⟨a, s', hms, hfs⟩ := bind_eq_ok_iff.mp h
  exact hf a s' (hm s hs a s' hms) b s'' hfs

end Fallible
