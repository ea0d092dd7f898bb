import StunForAndroid.Common.FastHashRefinement
import StunForAndroid.Common.FindPrime

/-!
# `FastHashDynamic`

The table of `src/common/fasthash.h` that allocates its arrays. `size_t` has 64 bits, and
`InitTable` passes the capacity on as an `unsigned int` when it is to choose the width itself. A
call that takes the hash of its key modulo a width of zero gives nothing. What the arrays take up in
memory, and the `int` that an `ItemNode` has for its index, are left out.

A successful `InitTable` never leaves a width of zero (`initTable_performs`), so every sequence of
calls is performed, as it is on a `FastHash` (`performAll_eq_run`). But only for a capacity up to
the greatest prime that is an `unsigned int` is the width a prime that is not below the capacity
(`guarantees_of_le`, `le_of_guarantees`).
-/

namespace Stun

/-- `FastHashBase` with the arrays that `InitTable` makes. -/
structure DynamicTable (K V : Type) where
  /-- `_fsize`. -/
  fsize : ℕ
  /-- `_tsize`. -/
  tsize : ℕ
  /-- `InitTable` makes no arrays of no items. -/
  fsize_ne_zero : fsize ≠ 0
  /-- What is in the arrays. -/
  base : FastHash K V fsize tsize

/-- `FastHashDynamic`. The table is `none` while the arrays are `NULL` and both sizes are 0. -/
structure FastHashDynamic (K V : Type) where
  table : Option (DynamicTable K V)

/-- What `new` answers in `InitTable`: whether each of the arrays is not `NULL`. -/
structure NewAnswers where
  nodesarray : Bool
  itemnodesarray : Bool
  lookuptablearray : Bool
  indexarray : Bool

/-- All four arrays are there. -/
def NewAnswers.all (memory : NewAnswers) : Bool :=
  memory.nodesarray && memory.itemnodesarray && memory.lookuptablearray && memory.indexarray

variable {K V : Type}

instance (d : DynamicTable K V) : NeZero d.fsize := ⟨d.fsize_ne_zero⟩

/-- `Init` with the arrays, which calls `Reset`. -/
def DynamicTable.init (fsize tsize : ℕ) (hfsize : fsize ≠ 0) : DynamicTable K V :=
  haveI : NeZero fsize := ⟨hfsize⟩
  ⟨fsize, tsize, hfsize, FastHash.new⟩

/-- A call of the base class. Those with a key take its hash modulo the width first. -/
def DynamicTable.perform [FastHashKey K] [DecidableEq K] (op : FastHash.Op K V)
    (d : DynamicTable K V) : Option (FastHash.Answer K V × DynamicTable K V) :=
  match op with
  | .lookupByIndex index =>
    let r := d.base.lookupByIndex index
    some (.item r.1, { d with base := r.2 })
  | .reset => some (.none, { d with base := d.base.reset })
  | op =>
    if htsize : d.tsize = 0 then none
    else
      haveI : NeZero d.tsize := ⟨htsize⟩
      let r := op.step d.base
      some (r.1, { d with base := r.2 })

namespace FastHashDynamic

/-- `GetMaxCapacity`. -/
def getMaxCapacity (t : FastHashDynamic K V) : ℕ := t.table.elim 0 DynamicTable.fsize

/-- `GetTableWidth`. -/
def getTableWidth (t : FastHashDynamic K V) : ℕ := t.table.elim 0 DynamicTable.tsize

/-- `ResetTable`, and the constructor without arguments. -/
def resetTable : FastHashDynamic K V := ⟨none⟩

/-- `InitTable`, with the rounds that the search for the width has. -/
def initTable (memory : NewAnswers) (rounds : ℕ) (fsize tsize : UInt64) (t : FastHashDynamic K V) :
    Option (ℤ × FastHashDynamic K V) :=
  if hfsize : fsize.toNat = 0 then some (-1, t)
  else do
    let tsize ← if tsize = 0 then fastHash_GetHashTableWidth rounds fsize.toUInt32 else some tsize
    if memory.all then some (1, ⟨some (.init fsize.toNat tsize.toNat hfsize)⟩)
    else some (-1, resetTable)

/-- What `InitTable` returns. -/
def initTableRet (memory : NewAnswers) (fsize : UInt64) : ℤ :=
  if fsize.toNat = 0 then -1 else if memory.all then 1 else -1

/-- A call of the base class. Without arrays there is nothing to find by an index or to reset. -/
def perform [FastHashKey K] [DecidableEq K] (op : FastHash.Op K V) (t : FastHashDynamic K V) :
    Option (FastHash.Answer K V × FastHashDynamic K V) :=
  match t.table, op with
  | some d, op => (d.perform op).map fun r => (r.1, ⟨some r.2⟩)
  | none, .lookupByIndex _ => some (.item none, t)
  | none, .reset => some (.none, t)
  | none, _ => none

/-- The table after a sequence of calls, none of which takes a modulo by zero. -/
def performAll [FastHashKey K] [DecidableEq K] (ops : List (FastHash.Op K V))
    (t : FastHashDynamic K V) : Option (FastHashDynamic K V) :=
  ops.foldlM (fun t op => (t.perform op).map Prod.snd) t

/-! ## The calls -/

section Calls

variable [FastHashKey K] [DecidableEq K]

/-- A call on a table that has a width is the one on a `FastHash`. -/
theorem perform_eq_step (d : DynamicTable K V) [NeZero d.tsize] (op : FastHash.Op K V) :
    perform op ⟨some d⟩ =
      some ((op.step d.base).1, ⟨some { d with base := (op.step d.base).2 }⟩) := by
  have htsize : d.tsize ≠ 0 := NeZero.ne _
  cases op with
  | lookupByIndex | reset => rfl
  | insert | remove | lookup | existsKey =>
    simp only [perform, DynamicTable.perform, dif_neg htsize, Option.map_some]

/-- A sequence of calls on a table that has a width is the one on a `FastHash`. -/
theorem performAll_eq_run (ops : List (FastHash.Op K V)) (d : DynamicTable K V) [NeZero d.tsize] :
    performAll ops ⟨some d⟩ = some ⟨some { d with base := d.base.run ops }⟩ := by
  induction ops generalizing d with
  | nil => rfl
  | cons op ops ih =>
    have hstep := perform_eq_step d op
    have hrest := @ih { d with base := (op.step d.base).2 } ‹_›
    unfold performAll at hrest ⊢
    rw [List.foldlM_cons, hstep]
    exact hrest

/-- After any sequence of calls a new table tracks the items that the calls leave in a list. -/
theorem performAll_init_tracks {fsize tsize : ℕ} (hfsize : fsize ≠ 0) (htsize : tsize ≠ 0)
    (ops : List (FastHash.Op K V)) :
    ∃ h : FastHash K V fsize tsize, ∃ order,
      performAll ops ⟨some (.init fsize tsize hfsize)⟩ = some ⟨some ⟨fsize, tsize, hfsize, h⟩⟩ ∧
        @FastHash.Tracks K V fsize tsize _ ⟨hfsize⟩ ⟨htsize⟩ h order
          (ops.foldl (FastHash.Op.onItems fsize) []) := by
  have : NeZero fsize := ⟨hfsize⟩
  have : NeZero tsize := ⟨htsize⟩
  have hnew : FastHash.Tracks (FastHash.new : FastHash K V fsize tsize) [] [] :=
    FastHash.tracks_reset _
  obtain ⟨order, htracks, -⟩ := hnew.run ops
  have hrun := @performAll_eq_run K V _ _ ops (.init fsize tsize hfsize) ‹_›
  exact ⟨_, order, hrun, htracks⟩

/-- A call gives nothing if and only if it takes a modulo by zero. -/
theorem perform_eq_none_iff (op : FastHash.Op K V) (t : FastHashDynamic K V) :
    t.perform op = none ↔
      t.getTableWidth = 0 ∧ (∀ index, op ≠ .lookupByIndex index) ∧ op ≠ .reset := by
  obtain ⟨_ | d⟩ := t
  · cases op <;> simp [perform, getTableWidth]
  · by_cases htsize : d.tsize = 0
    · cases op <;> simp [perform, DynamicTable.perform, getTableWidth, htsize]
    · have : NeZero d.tsize := ⟨htsize⟩
      simp [perform_eq_step, getTableWidth, htsize]

end Calls

/-! ## `InitTable` -/

/-- The code that `InitTable` returns does not depend on the width. -/
theorem fst_of_initTable {memory : NewAnswers} {rounds : ℕ} {fsize tsize : UInt64}
    {t : FastHashDynamic K V} {r : ℤ × FastHashDynamic K V}
    (h : initTable memory rounds fsize tsize t = some r) : r.1 = initTableRet memory fsize := by
  unfold initTable at h
  unfold initTableRet
  by_cases hfsize : fsize.toNat = 0
  · rw [dif_pos hfsize, Option.some.injEq] at h
    rw [if_pos hfsize, ← h]
  · rw [dif_neg hfsize] at h
    rw [if_neg hfsize]
    -- With a width, which is found or given, it is the memory that counts.
    by_cases htsize : tsize = 0
    · rw [if_pos htsize] at h
      obtain ⟨width, -, hr⟩ := Option.bind_eq_some_iff.mp h
      split_ifs at hr ⊢ <;> rw [← Option.some.inj hr]
    · rw [if_neg htsize] at h
      change (if memory.all then some _ else some _) = some r at h
      split_ifs at h ⊢ <;> rw [← Option.some.inj h]

/-- With a capacity `InitTable` fails only when there is no memory. -/
theorem initTableRet_eq_neg_one_iff {memory : NewAnswers} {fsize : UInt64}
    (hfsize : fsize.toNat ≠ 0) :
    initTableRet memory fsize = -1 ↔ memory.all = false := by
  unfold initTableRet
  rw [if_neg hfsize]
  cases memory.all <;> decide

/-- `InitTable` with a capacity of at least 1 succeeds when there is memory, with the width that
`FindPrime` finds for the low 32 bits of the capacity. -/
theorem initTable_eq {fsize : UInt64} (hfsize : fsize.toNat ≠ 0) {rounds : ℕ} {p : UInt32}
    (hfind : findPrime rounds fsize.toUInt32 = some p) (memory : NewAnswers)
    (t : FastHashDynamic K V) :
    initTable memory rounds fsize 0 t =
      some (if memory.all then (1, ⟨some (.init fsize.toNat p.toNat hfsize)⟩)
        else (-1, resetTable)) := by
  have hwidth : fastHash_GetHashTableWidth rounds fsize.toUInt32 = some p.toUInt64 := by
    rw [fastHash_GetHashTableWidth, hfind]
    rfl
  unfold initTable
  rw [dif_neg hfsize, if_pos rfl, hwidth]
  split_ifs <;> simp

section Guarantees

variable [FastHashKey K] [DecidableEq K]

/-- `InitTable` returns when `FindPrime` does. When it succeeds the table has the capacity and the
width that was found, and performs every sequence of calls. -/
theorem initTable_of_findPrime {fsize : UInt64} {p : UInt32} (hp : p ≠ 0)
    (hfind : ∀ rounds, 2 ^ 31 ≤ rounds → findPrime rounds fsize.toUInt32 = some p)
    (memory : NewAnswers) (t : FastHashDynamic K V) :
    ∃ r : ℤ × FastHashDynamic K V,
      (∀ rounds, 2 ^ 31 ≤ rounds → initTable memory rounds fsize 0 t = some r) ∧
      (r.1 = 1 → r.2.getMaxCapacity = fsize.toNat ∧ r.2.getTableWidth = p.toNat ∧
        ∀ ops, ∃ t', r.2.performAll ops = some t') := by
  by_cases hfsize : fsize.toNat = 0
  · exact ⟨(-1, t), fun rounds _ => dif_pos hfsize, fun h1 => by cases h1⟩
  · refine ⟨_, fun rounds hrounds => initTable_eq hfsize (hfind rounds hrounds) memory t,
      fun h1 => ?_⟩
    cases hall : memory.all with
    | false =>
      rw [hall] at h1
      cases h1
    | true =>
      have hwidth : p.toNat ≠ 0 := fun h0 => hp (UInt32.toNat_inj.mp h0)
      refine ⟨rfl, rfl, fun ops => ?_⟩
      obtain ⟨h, -, hrun, -⟩ := performAll_init_tracks hfsize hwidth ops
      exact ⟨_, hrun⟩

/-- Whatever the capacity, `InitTable` returns, and when it succeeds the width is not zero and no
sequence of calls takes a modulo by zero. -/
theorem initTable_performs (memory : NewAnswers) (fsize : UInt64) (t : FastHashDynamic K V) :
    ∃ r : ℤ × FastHashDynamic K V,
      (∀ rounds, 2 ^ 31 ≤ rounds → initTable memory rounds fsize 0 t = some r) ∧
      (r.1 = 1 → r.2.getTableWidth ≠ 0 ∧ ∀ ops, ∃ t', r.2.performAll ops = some t') := by
  obtain ⟨p, hp, hfind⟩ := findPrime_ne_zero fsize.toUInt32
  obtain ⟨r, hinit, hok⟩ := initTable_of_findPrime hp hfind memory t
  refine ⟨r, hinit, fun h1 => ?_⟩
  obtain ⟨-, hwidth, hperforms⟩ := hok h1
  exact ⟨fun h0 => hp (UInt32.toNat_inj.mp (hwidth.symm.trans h0)), hperforms⟩

/-- What a caller counts on when `InitTable` is to choose the width: it returns, and when it
succeeds the table has the capacity, its width is a prime that is not below it, and every sequence
of calls is performed. -/
def InitTableGuarantees (K V : Type) [FastHashKey K] [DecidableEq K] (fsize : UInt64) : Prop :=
  ∀ (memory : NewAnswers) (t : FastHashDynamic K V), ∃ r : ℤ × FastHashDynamic K V,
    (∀ rounds, 2 ^ 31 ≤ rounds → initTable memory rounds fsize 0 t = some r) ∧
    (r.1 = 1 → r.2.getMaxCapacity = fsize.toNat ∧ r.2.getTableWidth.Prime ∧
      r.2.getMaxCapacity ≤ r.2.getTableWidth ∧ ∀ ops, ∃ t', r.2.performAll ops = some t')

/-- The guarantees hold for a capacity up to the greatest prime that is an `unsigned int`. -/
theorem guarantees_of_le {fsize : UInt64} (hle : fsize.toNat ≤ greatestPrime) :
    InitTableGuarantees K V fsize := by
  intro memory t
  have hlow : fsize.toUInt32.toNat = fsize.toNat := by
    rw [UInt64.toNat_toUInt32]
    exact Nat.mod_eq_of_lt (by unfold greatestPrime at hle; omega)
  have hprime := (exists_prime_iff fsize.toUInt32.toNat).mpr (hlow.trans_le hle)
  obtain ⟨p, hfind, hp, -⟩ := findPrime_isLeast hprime
  have hne : p ≠ 0 := fun h0 => hp.1.ne_zero (congrArg UInt32.toNat h0)
  obtain ⟨r, hinit, hok⟩ := initTable_of_findPrime hne hfind memory t
  refine ⟨r, hinit, fun h1 => ?_⟩
  obtain ⟨hcapacity, hwidth, hperforms⟩ := hok h1
  rw [hcapacity, hwidth]
  exact ⟨rfl, hp.1, hlow.symm.trans_le hp.2, hperforms⟩

/-- A capacity that the guarantees hold for is not above the greatest prime, since the width is an
`unsigned int`. -/
theorem le_of_guarantees {fsize : UInt64} (h : InitTableGuarantees K V fsize) :
    fsize.toNat ≤ greatestPrime := by
  by_cases hfsize : fsize.toNat = 0
  · rw [hfsize]
    exact Nat.zero_le _
  · obtain ⟨p, -, hfind⟩ := findPrime_ne_zero fsize.toUInt32
    obtain ⟨r, hinit, hok⟩ := h ⟨true, true, true, true⟩ resetTable
    have heq := initTable_eq hfsize (hfind _ le_rfl) ⟨true, true, true, true⟩
      (resetTable : FastHashDynamic K V)
    obtain rfl := Option.some.inj ((hinit _ le_rfl).symm.trans heq)
    obtain ⟨-, hprime, hle, -⟩ := hok rfl
    exact (exists_prime_iff _).mp ⟨p.toNat, hprime, hle, p.toNat_lt⟩

/-- `FindPrime` finds the least prime from a number on whenever there is one that is an
`unsigned int`; and the guarantees of `InitTable` hold for a capacity if and only if it is not above
the greatest of these primes. -/
theorem initTable_guarantees_iff (val : UInt32) (fsize : UInt64) :
    ((∃ q : ℕ, q.Prime ∧ val.toNat ≤ q ∧ q < 2 ^ 32) →
      ∃ p, (∀ rounds, 2 ^ 31 ≤ rounds → findPrime rounds val = some p) ∧
        IsLeast {q : ℕ | q.Prime ∧ val.toNat ≤ q} p.toNat) ∧
    (InitTableGuarantees K V fsize ↔ fsize.toNat ≤ greatestPrime) :=
  ⟨fun hprime => findPrime_isLeast hprime, le_of_guarantees, guarantees_of_le⟩

/-- The low 32 bits of 4294967297 are 1, and the table of so many items has two columns. -/
theorem initTable_truncates :
    (∀ rounds, ∃ t : FastHashDynamic UInt16 ℕ,
      initTable ⟨true, true, true, true⟩ rounds 4294967297 0 resetTable = some (1, t) ∧
        t.getMaxCapacity = 4294967297 ∧ t.getTableWidth = 2) ∧
    ¬InitTableGuarantees UInt16 ℕ 4294967297 := by
  refine ⟨fun rounds => ⟨_, initTable_eq (by decide) rfl _ _, rfl, rfl⟩, fun h => ?_⟩
  exact absurd (le_of_guarantees h) (by decide)

end Guarantees

end FastHashDynamic

end Stun
