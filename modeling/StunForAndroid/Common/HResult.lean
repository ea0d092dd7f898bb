import Mathlib.Algebra.Group.Int.Defs
import Mathlib.Data.Int.Notation
import StunForAndroid.Lib.Fallible

/-!
# `HRESULT`

The error codes of `src/common/hresult.h` as 32-bit signed values, and the macros of
`src/common/chkmacros.h`. A member function that returns an `HRESULT` and changes its object is a
computation on the object's state (`Fallible.lean`): `Chk` is a step of a sequence, `ChkIf` a step
that fails when its condition holds, and the label `Cleanup` is the end of the sequence. Only the
sign of a code is ever looked at, so a computation that succeeds does not return one.

`ASSERT` is empty in a release build, and `ChkIfA` and `ChkA` are then `ChkIf` and `Chk`.
-/

namespace Stun

/-- An error code: negative for a failure. -/
abbrev HRESULT : Type := ℤ

/-- The failing code with the 32-bit pattern `code`. -/
def failure (code : ℤ) : HRESULT := code - 2^32

/-- `S_OK`. -/
def S_OK : HRESULT := 0

/-- `S_FALSE`, a success. -/
def S_FALSE : HRESULT := 1

/-- `E_UNEXPECTED`. -/
def E_UNEXPECTED : HRESULT := failure 0x8000FFFF

/-- `E_INVALIDARG`. -/
def E_INVALIDARG : HRESULT := failure 0x80070057

/-- `E_FAIL`. -/
def E_FAIL : HRESULT := failure 0x80004005

/-- `ERRNOHR`, which puts the error number in the low bits. -/
def ERRNOHR (errno : ℤ) : HRESULT := failure (0x88000000 + errno)

/-- `SUCCEEDED`. -/
abbrev succeeded (hr : HRESULT) : Prop := 0 ≤ hr

/-- `FAILED`. -/
abbrev failed (hr : HRESULT) : Prop := hr < 0

/-- A member function of an object with state `σ` that can fail. -/
abbrev Fallible (σ α : Type) := EStateM HRESULT σ α

/-- `ChkIf`: fail with `hr` when the condition holds. -/
def chkIf {σ : Type} (cond : Bool) (hr : HRESULT) : Fallible σ Unit :=
  if cond then throw hr else pure ()

/-- `ChkIf` goes on when its condition does not hold. -/
@[simp]
theorem chkIf_false {σ : Type} (hr : HRESULT) (s : σ) : chkIf false hr s = .ok () s := rfl

/-- `ChkIf` fails when its condition holds. -/
@[simp]
theorem chkIf_true {σ : Type} (hr : HRESULT) (s : σ) : chkIf true hr s = .error hr s := rfl

/-- `ChkIf` goes on exactly when its condition does not hold, and leaves the object alone. -/
theorem chkIf_eq_ok_iff {σ : Type} {cond : Bool} {hr : HRESULT} {s s' : σ} {u : Unit} :
    chkIf cond hr s = .ok u s' ↔ cond = false ∧ s' = s := by
  cases cond with
  | false =>
    rw [chkIf_false]
    constructor
    · rintro ⟨⟩
      exact ⟨rfl, rfl⟩
    · rintro ⟨-, rfl⟩
      rfl
  | true =>
    rw [chkIf_true]
    exact iff_of_false nofun (fun h => Bool.noConfusion h.1)

/-- A sequence that begins with `ChkIf` succeeds when its condition does not hold and the rest
does. -/
theorem chkIf_bind_eq_ok_iff {σ β : Type} {cond : Bool} {hr : HRESULT} {f : Unit → Fallible σ β}
    {s s' : σ} {b : β} :
    (chkIf cond hr >>= f) s = .ok b s' ↔ cond = false ∧ f () s = .ok b s' := by
  cases cond with
  | false => exact (and_iff_right rfl).symm
  | true => exact iff_of_false nofun nofun

/-- A sequence that begins with `ChkIf` has its code when the condition holds. -/
theorem failsWith_chkIf_bind_iff {σ β : Type} {cond : Bool} {hr hr' : HRESULT}
    {f : Unit → Fallible σ β} {s : σ} :
    Fallible.FailsWith (chkIf cond hr >>= f) s hr' ↔
      if cond then hr' = hr else Fallible.FailsWith (f ()) s hr' := by
  cases cond with
  | false => exact Fallible.failsWith_bind_of_ok (chkIf_false hr s) hr'
  | true => exact Fallible.failsWith_bind_of_error (chkIf_true hr s) hr'

/-- `ChkIf` fails with the code that it is given. -/
theorem failsWith_chkIf_iff {σ : Type} {cond : Bool} {hr hr' : HRESULT} {s : σ} :
    Fallible.FailsWith (chkIf cond hr) s hr' ↔ cond = true ∧ hr' = hr := by
  unfold Fallible.FailsWith
  cases cond with
  | false => exact iff_of_false nofun nofun
  | true =>
    constructor
    · rintro ⟨s', ⟨⟩⟩
      exact ⟨rfl, rfl⟩
    · rintro ⟨-, rfl⟩
      exact ⟨s, rfl⟩

end Stun
