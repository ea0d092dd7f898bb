import StunForAndroid.Lib.Trace
import StunForAndroid.StunCore.DataStream

/-!
# What `CBuffer` says about its size

`src/stuncore/buffer.cpp` with its members as the object has them: the pointer, which may be null,
the size and the allocated size. `DataStream.lean` has the same functions for a buffer that is never
null and whose allocated size is that of its array (`CBufferMembers.Views`).

`SetSize` compares the size with the allocation and puts the result of the comparison, which is 1 or
0, into an `HRESULT`. Neither is a failure, so that the size is set in both cases.
-/

namespace Stun

/-! ## The code -/

/-- The members of `CBuffer`. -/
structure CBufferMembers where
  /-- `_data`, the array that it points to. -/
  data : Option (List UInt8) := none
  /-- `_size`. -/
  size : ℕ := 0
  /-- `_allocatedSize`. -/
  allocatedSize : ℕ := 0
deriving DecidableEq

namespace CBufferMembers

/-- `Reset`, which is all that the constructor `CBuffer()` does. -/
def reset (_ : CBufferMembers) : CBufferMembers := {}

/-- `InitWithAllocation`, when the allocation gives memory or not. -/
def initWithAllocation (allocated : Bool) (size : ℕ) (b : CBufferMembers) :
    HRESULT × CBufferMembers :=
  let b := b.reset
  let data := if allocated then some (List.replicate size 0) else none
  let size := if data.isSome then size else 0
  (if data.isSome then S_OK else E_FAIL,
    { b with data := data, size := size, allocatedSize := size })

/-- `InitNoAlloc`. -/
def initNoAlloc (pByteArray : Option (List UInt8)) (size : ℕ) (b : CBufferMembers) :
    HRESULT × CBufferMembers :=
  let b := b.reset
  let size := if pByteArray.isNone then 0 else size
  (S_OK, { b with data := pByteArray, size := size, allocatedSize := size })

/-- `InitWithAllocAndCopy`. -/
def initWithAllocAndCopy (allocated : Bool) (pByteArray : Option (List UInt8)) (size : ℕ)
    (b : CBufferMembers) : HRESULT × CBufferMembers :=
  let b := b.reset
  let size := if pByteArray.isNone then 0 else size
  let (hr, b) := b.initWithAllocation allocated size
  if succeeded hr then
    (hr, { b with data := b.data.map fun data =>
      Octets.overwrite data 0 ((pByteArray.getD []).take b.size) })
  else (hr, b)

/-- `SetSize`. -/
def setSize (size : ℕ) (b : CBufferMembers) : HRESULT × CBufferMembers :=
  let hr : HRESULT := if size ≤ b.allocatedSize then 1 else 0
  if succeeded hr then (hr, { b with size := size }) else (hr, b)

/-- `IsValid`. -/
def isValid (b : CBufferMembers) : Bool := b.data.isSome

end CBufferMembers

/-- A constructor or a member function of `CBuffer`. A constructor finds arbitrary members in the
memory of the new object. -/
inductive BufferCall where
  /-- `CBuffer()`. -/
  | new (memory : CBufferMembers)
  /-- `CBuffer(nSize)`. -/
  | newWithSize (memory : CBufferMembers) (allocated : Bool) (nSize : ℕ)
  /-- `CBuffer(pByteArray, nByteArraySize, fCopy)`. -/
  | newWithArray (memory : CBufferMembers) (allocated : Bool) (pByteArray : Option (List UInt8))
      (nByteArraySize : ℕ) (fCopy : Bool)
  | reset
  | initWithAllocation (allocated : Bool) (size : ℕ)
  | initNoAlloc (pByteArray : Option (List UInt8)) (size : ℕ)
  | initWithAllocAndCopy (allocated : Bool) (pByteArray : Option (List UInt8)) (size : ℕ)
  | setSize (size : ℕ)

namespace BufferCall

/-- What a call makes of the members. -/
def after (b : CBufferMembers) : BufferCall → CBufferMembers
  | new memory => memory.reset
  | newWithSize memory allocated nSize => (memory.initWithAllocation allocated nSize).2
  | newWithArray memory allocated pByteArray nByteArraySize fCopy =>
    if fCopy = false then (memory.initNoAlloc pByteArray nByteArraySize).2
    else (memory.initWithAllocAndCopy allocated pByteArray nByteArraySize).2
  | reset => b.reset
  | initWithAllocation allocated size => (b.initWithAllocation allocated size).2
  | initNoAlloc pByteArray size => (b.initNoAlloc pByteArray size).2
  | initWithAllocAndCopy allocated pByteArray size =>
    (b.initWithAllocAndCopy allocated pByteArray size).2
  | setSize size => (b.setSize size).2

/-- The members after a sequence of calls. -/
def afterAll (calls : List BufferCall) : CBufferMembers := calls.foldl after {}

/-- After one call more the buffer is as that call leaves it. -/
@[simp]
theorem afterAll_concat (calls : List BufferCall) (call : BufferCall) :
    afterAll (calls ++ [call]) = call.after (afterAll calls) := by
  simp [afterAll]

end BufferCall

namespace CBufferMembers

/-! ## The size and the allocation -/

/-- The buffer does not claim more octets than it has. -/
def Bounded (b : CBufferMembers) : Prop := b.size ≤ b.allocatedSize

/-- `SetSize` refuses a size beyond the allocation, and then leaves the buffer alone. -/
def Guarded (size : ℕ) (b : CBufferMembers) : Prop :=
  b.allocatedSize < size → failed (b.setSize size).1 ∧ (b.setSize size).2 = b

/-- A buffer that was reset has nothing and claims nothing. -/
theorem bounded_reset (b : CBufferMembers) : b.reset.Bounded := le_rfl

/-- An allocation is claimed as a whole. -/
theorem bounded_initWithAllocation (allocated : Bool) (size : ℕ) (b : CBufferMembers) :
    (b.initWithAllocation allocated size).2.Bounded := le_rfl

/-- An array of the caller is claimed as a whole. -/
theorem bounded_initNoAlloc (pByteArray : Option (List UInt8)) (size : ℕ) (b : CBufferMembers) :
    (b.initNoAlloc pByteArray size).2.Bounded := le_rfl

/-- A copy of an array claims no more octets than it has. -/
theorem bounded_initWithAllocAndCopy (allocated : Bool) (pByteArray : Option (List UInt8))
    (size : ℕ) (b : CBufferMembers) :
    (b.initWithAllocAndCopy allocated pByteArray size).2.Bounded := by
  unfold initWithAllocAndCopy
  dsimp only
  split_ifs <;> exact le_rfl

/-- The result of the comparison is no failure, and so `SetSize` always sets the size. -/
theorem setSize_eq (size : ℕ) (b : CBufferMembers) :
    b.setSize size = (if size ≤ b.allocatedSize then 1 else 0, { b with size := size }) := by
  unfold setSize
  split_ifs <;> rfl

/-- The members of a buffer that is not null and has the size of its array as its allocated size. -/
structure Views (b : CBufferMembers) (buf : CBuffer) : Prop where
  data : b.data = some buf.data
  size : b.size = buf.size
  allocated : b.allocatedSize = buf.getAllocatedSize

/-- After an allocation that gives memory the members are those of a new buffer. -/
theorem views_initWithAllocation (size : ℕ) (b : CBufferMembers) :
    (b.initWithAllocation true size).2.Views (CBuffer.initWithAllocation size) :=
  ⟨rfl, rfl, List.length_replicate.symm⟩

/-- A buffer over an array of the caller shows the whole array. -/
theorem views_initNoAlloc (pByteArray : List UInt8) (b : CBufferMembers) :
    (b.initNoAlloc (some pByteArray) pByteArray.length).2.Views (CBuffer.initNoAlloc pByteArray) :=
  ⟨rfl, rfl, rfl⟩

/-- `SetSize` does the same to both. -/
theorem Views.setSize {b : CBufferMembers} {buf : CBuffer} (h : b.Views buf) (size : ℕ) :
    (b.setSize size).1 = (buf.setSize size).1 ∧ (b.setSize size).2.Views (buf.setSize size).2 := by
  rw [CBuffer.setSize_snd, setSize_eq]
  refine ⟨?_, h.data, rfl, h.allocated⟩
  unfold CBuffer.setSize
  rw [h.allocated]
  split_ifs <;> rfl

/-- `SetSize` keeps the buffer within its allocation when the size is. -/
theorem bounded_setSize_iff (size : ℕ) (b : CBufferMembers) :
    (b.setSize size).2.Bounded ↔ size ≤ b.allocatedSize := by
  rw [setSize_eq]
  exact Iff.rfl

/-- `SetSize` never refuses a size. -/
theorem guarded_iff (size : ℕ) (b : CBufferMembers) : b.Guarded size ↔ size ≤ b.allocatedSize := by
  constructor
  · intro h
    by_contra hlt
    obtain ⟨hfailed, -⟩ := h (Nat.lt_of_not_le hlt)
    -- The comparison is false, which is `S_OK`.
    rw [setSize_eq, if_neg hlt] at hfailed
    have hzero : ¬failed 0 := by decide
    exact absurd hfailed hzero
  · intro hle hlt
    exact absurd hle (Nat.not_le_of_lt hlt)

end CBufferMembers

open CBufferMembers BufferCall

/-- What there is to say of a call: the buffer is within its allocation afterwards, and `SetSize`
refuses what it should. -/
def BufferCall.Keeps (before : List BufferCall) (call : BufferCall) : Prop :=
  (afterAll (before ++ [call])).Bounded ∧ ∀ size, call = setSize size →
  (afterAll before).Guarded size

/-- A call of `SetSize` stays within what is allocated at the time. -/
def BufferCall.Fits (before : List BufferCall) (call : BufferCall) : Prop :=
  ∀ size, call = setSize size → size ≤ (afterAll before).allocatedSize

/-- Every other call than `SetSize` initializes the buffer. -/
theorem BufferCall.keeps_iff (before : List BufferCall) (call : BufferCall) :
    Keeps before call ↔ Fits before call := by
  unfold Keeps Fits
  rw [afterAll_concat]
  cases call with
  | setSize size =>
    rw [show (setSize size).after (afterAll before) = ((afterAll before).setSize size).2 from rfl,
      bounded_setSize_iff]
    simp only [setSize.injEq, forall_eq', guarded_iff, and_self]
  | new memory => exact iff_of_true ⟨bounded_reset memory, nofun⟩ nofun
  | newWithSize memory allocated nSize =>
    exact iff_of_true ⟨bounded_initWithAllocation allocated nSize memory, nofun⟩ nofun
  | newWithArray memory allocated pByteArray nByteArraySize fCopy =>
    refine iff_of_true ⟨?_, nofun⟩ nofun
    cases fCopy with
    | false => exact bounded_initNoAlloc pByteArray nByteArraySize memory
    | true => exact bounded_initWithAllocAndCopy allocated pByteArray nByteArraySize memory
  | reset => exact iff_of_true ⟨bounded_reset (afterAll before), nofun⟩ nofun
  | initWithAllocation allocated size =>
    exact iff_of_true ⟨bounded_initWithAllocation allocated size _, nofun⟩ nofun
  | initNoAlloc pByteArray size =>
    exact iff_of_true ⟨bounded_initNoAlloc pByteArray size _, nofun⟩ nofun
  | initWithAllocAndCopy allocated pByteArray size =>
    exact iff_of_true ⟨bounded_initWithAllocAndCopy allocated pByteArray size _, nofun⟩ nofun

/-- In a sequence of calls the buffer is always within its allocation, and `SetSize` refuses what it
should, when and only when `SetSize` is never called with more than is allocated. -/
theorem BufferCall.each_keeps_iff (calls : List BufferCall) :
    Trace.Each Keeps calls ↔ Trace.Each Fits calls := by
  unfold Trace.Each
  simp only [keeps_iff]

/-- A buffer of four octets can claim five. -/
theorem BufferCall.not_each_keeps : ¬∀ calls : List BufferCall, Trace.Each Keeps calls := by
  intro h
  obtain ⟨hbounded, -⟩ :=
    h [newWithSize {} true 4, setSize 5] [newWithSize {} true 4] (setSize 5) [] rfl
  have hsizes : ¬5 ≤ 4 := by decide
  exact absurd hbounded hsizes

end Stun
