import Mathlib.Data.List.Chain
import Mathlib.Data.List.Induction
import Mathlib.Data.List.Infix
import Mathlib.Data.UInt

/-!
# Traces

A trace lists what has happened, the oldest entry first, and grows at its end. `Each P trace` says
of every entry how it stands to what has happened before it, and is shown one entry at a time
(`each_concat`).

`Standing renews settles trace e` says that `e` is the last entry that renews what there is to
settle, and that nothing after it settles it.

Some of what happens has a time of a 32-bit clock, which wraps. `Paced gap times` says that the time
that has passed from each one to the next, modulo `2^32`, is at least `gap`. On a clock that does
not wrap, any two of them are then as far apart (`Paced.of_clock`).
-/

namespace Trace

variable {α : Type}

/-! ## Entries and what is before them -/

/-- Every entry stands in the relation `P` to the entries before it. -/
def Each (P : List α → α → Prop) (trace : List α) : Prop :=
  ∀ before e after, trace = before ++ e :: after → P before e

/-- Every property holds of each entry of an empty trace. -/
theorem each_nil (P : List α → α → Prop) : Each P [] := by
  intro before e after h
  exact absurd h.symm (List.append_ne_nil_of_right_ne_nil _ (List.cons_ne_nil _ _))

/-- A property holds of each entry of a longer trace when it did so far and does of the new entry.
-/
theorem each_concat {P : List α → α → Prop} {trace : List α} {e : α} :
    Each P (trace ++ [e]) ↔ Each P trace ∧ P trace e := by
  constructor
  · intro h
    constructor
    · rintro before e' after rfl
      exact h before e' (after ++ [e]) (by simp)
    · exact h trace e [] rfl
  · rintro ⟨h, he⟩ before e' after htrace
    -- The entry is the new one, or else the new one is the last of those behind it.
    rcases List.eq_nil_or_concat after with rfl | ⟨after', last, rfl⟩
    · obtain ⟨rfl, hlast⟩ := List.append_inj' htrace rfl
      obtain rfl := List.singleton_inj.mp hlast
      exact he
    · rw [List.concat_eq_append, ← List.cons_append, ← List.append_assoc] at htrace
      obtain ⟨htrace', -⟩ := List.append_inj' htrace rfl
      exact h before e' after' htrace'

/-! ## What stands since the last entry of a kind -/

/-- The entry is in the trace, and after it there is none that renews or settles it. -/
def Standing (renews settles : α → Prop) (trace : List α) (e : α) : Prop :=
  ∃ before since, trace = before ++ e :: since ∧ ∀ e' ∈ since, ¬renews e' ∧ ¬settles e'

/-- An entry stands in a longer trace when it is the new one, or stood and the new one neither
renews nor settles it. -/
theorem standing_concat {renews settles : α → Prop} {trace : List α} {last e : α} :
    Standing renews settles (trace ++ [last]) e ↔
      last = e ∨ Standing renews settles trace e ∧ ¬renews last ∧ ¬settles last := by
  constructor
  · rintro ⟨before, since, htrace, hsince⟩
    rcases List.eq_nil_or_concat since with rfl | ⟨since', last', rfl⟩
    · exact .inl (List.singleton_inj.mp (List.append_inj' htrace rfl).2)
    · rw [List.concat_eq_append, ← List.cons_append, ← List.append_assoc] at htrace
      obtain ⟨htrace', hlast⟩ := List.append_inj' htrace rfl
      obtain rfl := List.singleton_inj.mp hlast
      rw [List.concat_eq_append] at hsince
      exact .inr ⟨⟨before, since', htrace', fun e' he' => hsince e' (List.mem_append_left _ he')⟩,
        hsince last (List.mem_append_right _ List.mem_cons_self)⟩
  · rintro (rfl | ⟨⟨before, since, rfl, hsince⟩, hlast⟩)
    · exact ⟨trace, [], rfl, fun e' he' => absurd he' List.not_mem_nil⟩
    · refine ⟨before, since ++ [last], by simp, fun e' he' => ?_⟩
      rcases List.mem_append.mp he' with he' | he'
      · exact hsince e' he'
      · rwa [List.mem_singleton.mp he']

/-- After an entry that renews, and with none that does so since, that entry stands unless one since
settles it. -/
theorem standing_since {renews settles : α → Prop} {before since : List α} {x e : α}
    (hx : renews x) (he : renews e) (hsince : ∀ e' ∈ since, ¬renews e') :
    Standing renews settles (before ++ x :: since) e ↔ e = x ∧ ∀ e' ∈ since, ¬settles e' := by
  induction since using List.reverseRecOn with
  | nil =>
    rw [standing_concat]
    simp [hx, eq_comm]
  | append_singleton since last ih =>
    have hlast := hsince last (List.mem_append_right _ List.mem_cons_self)
    have hne : last ≠ e := fun heq => hlast (heq ▸ he)
    rw [← List.cons_append, ← List.append_assoc, standing_concat,
      ih fun e' he' => hsince e' (List.mem_append_left _ he')]
    simp only [hne, false_or, hlast, not_false_eq_true, true_and, List.mem_append,
      List.mem_singleton]
    constructor
    · rintro ⟨⟨rfl, h⟩, hsettles⟩
      exact ⟨rfl, fun e' he' => he'.elim (h e') fun heq => heq ▸ hsettles⟩
    · rintro ⟨rfl, h⟩
      exact ⟨⟨rfl, fun e' he' => h e' (.inl he')⟩, h last (.inr rfl)⟩

/-! ## Times -/

/-- At least `gap` of a 32-bit clock passes from each time to the next. -/
def Paced (gap : ℕ) (times : List UInt32) : Prop := times.IsChain fun t t' => gap ≤ (t' - t).toNat

/-- Times stay paced when one more comes no sooner than the gap after the last. -/
theorem paced_concat {gap : ℕ} {times : List UInt32} {t : UInt32} :
    Paced gap (times ++ [t]) ↔
      Paced gap times ∧ ∀ last ∈ times.getLast?, gap ≤ (t - last).toNat := by
  unfold Paced
  rw [List.isChain_append]
  simp

/-- A 32-bit clock shows no more time than has passed. -/
theorem toNat_sub_le {t t' : ℕ} (h : t ≤ t') :
    (UInt32.ofNat t' - UInt32.ofNat t).toNat ≤ t' - t := by
  rw [← UInt32.ofNat_sub h, UInt32.toNat_ofNat']
  exact Nat.mod_le _ _

/-- On a clock that does not wrap and does not run backwards, any two times are the gap apart. -/
theorem Paced.of_clock {gap : ℕ} {clock : List ℕ} (h : Paced gap (clock.map UInt32.ofNat))
    (hclock : clock.Pairwise (· ≤ ·)) : clock.Pairwise fun t t' => t + gap ≤ t' := by
  have htrans : Trans (fun t t' : ℕ => t + gap ≤ t') (fun t t' => t + gap ≤ t')
      (fun t t' => t + gap ≤ t') := ⟨fun h h' => by omega⟩
  rw [← List.isChain_iff_pairwise]
  unfold Paced at h
  rw [List.isChain_map] at h
  rw [List.isChain_iff_getElem] at h ⊢
  intro i hi
  have hle : clock[i] ≤ clock[i + 1] :=
    List.pairwise_iff_getElem.mp hclock i (i + 1) (by omega) hi (Nat.lt_succ_self i)
  have hgap : gap ≤ clock[i + 1] - clock[i] := (h i hi).trans (toNat_sub_le hle)
  omega

end Trace
