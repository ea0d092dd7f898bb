import StunForAndroid.Lib.ArrayCursor
import StunForAndroid.StunCore.DataStream

/-!
# `CDataStream` is an array with a cursor

The functions of `src/stuncore/datastream.cpp` once more, on positions and sizes of `w` bits, as a
`size_t` has them: sums and products wrap around, and `SeekRelative` makes its signed offset one.
What `DataStream.lean` says of these functions without a limit holds of them as well while arrays
are below half of the address space, as they are on every machine, and the position and the length
of a write or a read do not wrap. A stream then does what an array with a cursor does
(`Represents`), however large the buffers are that it works on.
-/

namespace Stun

open Octets Fallible

open ArrayCursor (Command Reply)

/-- The number of values of a `size_t`. -/
def sizeRange (w : ℕ) : ℕ := 2 ^ w

/-- What the size of every array is below, `PTRDIFF_MAX + 1`. -/
def arrayLimit (w : ℕ) : ℕ := 2 ^ (w - 1)

/-- The largest array takes half of the address space. -/
theorem sizeRange_eq {w : ℕ} (hw : 32 ≤ w) : sizeRange w = 2 * arrayLimit w := by
  obtain ⟨k, rfl⟩ := Nat.exists_eq_add_of_le hw
  unfold sizeRange arrayLimit
  rw [show 32 + k - 1 = 31 + k by omega, show 32 + k = 31 + k + 1 by omega, pow_succ, Nat.mul_comm]

/-- The limit of the arrays is out of the reach of an `int`. -/
theorem le_arrayLimit {w : ℕ} (hw : 32 ≤ w) : 2 ^ 31 ≤ arrayLimit w :=
  Nat.pow_le_pow_right (by decide) (by omega)

namespace CDataStream

/-! ## The code -/

/-- `newallocationsize` of `Grow`. -/
def newAllocationSize (w size : ℕ) (s : CDataStream) : ℕ :=
  let doubled := s.getAllocatedSize * 2 % sizeRange w
  if size > doubled then size else doubled

/-- `Grow`. -/
def growWord (w size : ℕ) : Fallible CDataStream Unit := fun s =>
  let currentAllocated := s.getAllocatedSize
  let currentSize := s.getSize
  if size ≤ currentAllocated then .ok () s
  else if s.fNoGrow then .error E_FAIL s
  else
    let newallocationsize := s.newAllocationSize w size
    let spNewBuffer := ((CBuffer.initWithAllocation newallocationsize).setSize currentSize).2
    .ok () { s with
      spBuffer := some { spNewBuffer with data := overwrite spNewBuffer.data 0 s.contents }
      spAttached := s.attachedBuffer }

/-- `Write` of an array, which may be null. -/
def writeWord (w : ℕ) (data : Option (List UInt8)) : Fallible CDataStream Unit := fun s =>
  match data with
  | none => .error E_FAIL s
  | some data =>
    let newposition := (data.length + s.pos) % sizeRange w
    let currentSize := s.getSize
    if data.length = 0 then .error E_FAIL s
    else
      match growWord w newposition s with
      | .error hr s => .error hr s
      | .ok _ s => .ok () { s with
          spBuffer := s.spBuffer.map fun b =>
            let b := { b with data := overwrite b.data s.pos data }
            if newposition > currentSize then (b.setSize newposition).2 else b
          pos := newposition }

/-- `Read`. -/
def readWord (w size : ℕ) : Fallible CDataStream (List UInt8) := fun s =>
  let newpos := (size + s.pos) % sizeRange w
  if newpos > s.getSize then .error E_INVALIDARG s
  else .ok (((s.getDataPointerUnsafe.getD []).drop s.pos).take size) { s with pos := newpos }

/-- `SeekRelative`. -/
def seekRelativeWord (w : ℕ) (offset : ℤ) : Fallible CDataStream Unit := fun s =>
  seekDirect ((offset + s.pos) % sizeRange w).toNat s

end CDataStream

open CDataStream

/-- A call of a member function of the stream. -/
inductive StreamCall where
  | write (data : Option (List UInt8))
  | read (size : ℕ)
  | seekDirect (pos : ℕ)
  | seekRelative (offset : ℤ)
  | setSizeHint (size : ℕ)
  | getSize
  | getPos

namespace StreamCall

/-- The result of a member function, and the stream behind it. -/
def result {α : Type} (reply : α → Reply UInt8) :
    EStateM.Result HRESULT CDataStream α → Reply UInt8 × CDataStream
  | .ok a s => (reply a, s)
  | .error _ s => (.failed, s)

/-- The result of a call, and the stream behind it. -/
def perform (w : ℕ) (s : CDataStream) : StreamCall → Reply UInt8 × CDataStream
  | write data => result (fun _ => .done) (writeWord w data s)
  | read size => result .items (readWord w size s)
  | seekDirect pos => result (fun _ => .done) (CDataStream.seekDirect pos s)
  | seekRelative offset => result (fun _ => .done) (seekRelativeWord w offset s)
  | setSizeHint size => result (fun _ => .done) (growWord w size s)
  | getSize => (.number s.getSize, s)
  | getPos => (.number s.getPos, s)

/-- The results of a sequence of calls, and the stream behind it. -/
def run (w : ℕ) (s : CDataStream) : List StreamCall → List (Reply UInt8) × CDataStream
  | [] => ([], s)
  | call :: calls =>
    let (reply, s) := call.perform w s
    let (replies, s) := run w s calls
    (reply :: replies, s)

/-- What a call asks of the array. -/
def command : StreamCall → Command UInt8
  | write data => .write (data.getD [])
  | read size => .read size
  | seekDirect pos => .seek pos
  | seekRelative offset => .move offset
  | setSizeHint size => .reserve size
  | getSize => .length
  | getPos => .position

/-- The allocation that a stream needs to have room for a size, with two octets behind it,
succeeds. -/
def Allocates (w size : ℕ) (s : CDataStream) : Prop :=
  s.getAllocatedSize < size → s.newAllocationSize w size + 2 < arrayLimit w

/-- The call can be made: the allocation succeeds, the position and the length do not wrap,
something is read, and the offset is an `int`. -/
def Fits (w : ℕ) (s : CDataStream) : StreamCall → Prop
  | write data => s.pos + (data.getD []).length < sizeRange w ∧
      Allocates w (s.pos + (data.getD []).length) s
  | read size => 0 < size ∧ s.pos + size < sizeRange w
  | seekRelative offset => -2 ^ 31 ≤ offset ∧ offset < 2 ^ 31
  | setSizeHint size => Allocates w size s
  | _ => True

instance (w size : ℕ) (s : CDataStream) : Decidable (Allocates w size s) :=
  inferInstanceAs (Decidable (_ → _))

instance (w : ℕ) (s : CDataStream) (call : StreamCall) : Decidable (call.Fits w s) :=
  match call with
  | write _ => inferInstanceAs (Decidable (_ ∧ _))
  | read _ => inferInstanceAs (Decidable (_ ∧ _))
  | seekDirect _ => .isTrue trivial
  | seekRelative _ => inferInstanceAs (Decidable (_ ∧ _))
  | setSizeHint size => inferInstanceAs (Decidable (Allocates w size s))
  | getSize => .isTrue trivial
  | getPos => .isTrue trivial

/-- All the calls of a sequence can be made. -/
def AllFit (w : ℕ) (s : CDataStream) : List StreamCall → Prop
  | [] => True
  | call :: calls => call.Fits w s ∧ AllFit w (call.perform w s).2 calls

/-- Whether they can is decided call by call. -/
def decideAllFit (w : ℕ) : (s : CDataStream) → (calls : List StreamCall) →
    Decidable (AllFit w s calls)
  | _, [] => .isTrue trivial
  | s, call :: calls =>
    have := decideAllFit w (call.perform w s).2 calls
    inferInstanceAs (Decidable (_ ∧ _))

instance (w : ℕ) (s : CDataStream) (calls : List StreamCall) : Decidable (AllFit w s calls) :=
  decideAllFit w s calls

end StreamCall

/-! ## What the stream holds -/

/-- The stream is the array with its cursor, in an allocation that is an array of the machine. -/
structure Represents (w : ℕ) (c : ArrayCursor UInt8) (s : CDataStream) : Prop where
  holds : Holds 0 c.items c.pos s
  allocated : s.getAllocatedSize < arrayLimit w

variable {w : ℕ} {c : ArrayCursor UInt8} {s : CDataStream}

/-- What is asked for is allocated, and the doubled size does not matter when it has wrapped. -/
theorem le_newAllocationSize (w size : ℕ) (s : CDataStream) :
    size ≤ s.newAllocationSize w size := by
  unfold newAllocationSize
  dsimp only
  split_ifs <;> omega

/-- The doubled size does not wrap. -/
theorem Represents.growWord_eq (hw : 32 ≤ w) (h : Represents w c s) (size : ℕ) :
    growWord w size s = grow size s := by
  have hrange := sizeRange_eq hw
  have hallocated := h.allocated
  have hdouble : s.getAllocatedSize * 2 % sizeRange w = s.getAllocatedSize * 2 :=
    Nat.mod_eq_of_lt (by omega)
  unfold growWord grow newAllocationSize
  dsimp only
  rw [hdouble]

/-- A stream that grows allocates the new size, if the old one is too small. -/
theorem getAllocatedSize_of_growWord {size : ℕ} {s' : CDataStream}
    (hfit : s.contents.length ≤ s.getAllocatedSize) (hgrow : growWord w size s = .ok () s') :
    s'.getAllocatedSize =
      if size ≤ s.getAllocatedSize then s.getAllocatedSize else s.newAllocationSize w size := by
  unfold growWord at hgrow
  dsimp only at hgrow
  split_ifs at hgrow ⊢ with hle hno
  · cases hgrow
    rfl
  · have hnew := le_newAllocationSize w size s
    cases hgrow
    simp only [getAllocatedSize, CBuffer.getAllocatedSize, Option.map_some, Option.getD_some,
      CBuffer.setSize_snd, CBuffer.initWithAllocation]
    rw [length_overwrite _ _ _ (Nat.zero_le _), List.length_replicate]
    unfold getAllocatedSize CBuffer.getAllocatedSize at *
    omega

/-- A stream that grows is still the array. -/
theorem Represents.growWord_ok (hw : 32 ≤ w) (h : Represents w c s) {size : ℕ}
    (hallocates : StreamCall.Allocates w size s) :
    ∃ s', growWord w size s = .ok () s' ∧ Represents w c s' ∧ size ≤ s'.getAllocatedSize := by
  obtain ⟨s', hgrow, hholds, hroom⟩ := h.holds.grow_ok size fun h0 => absurd h0 (Nat.lt_irrefl 0)
  rw [← h.growWord_eq hw] at hgrow
  have hfit : s.contents.length ≤ s.getAllocatedSize := by
    rw [h.holds.contents_eq]
    exact h.holds.le_allocated
  refine ⟨s', hgrow, ⟨hholds, ?_⟩, hroom⟩
  rw [getAllocatedSize_of_growWord hfit hgrow]
  split_ifs with hle
  · exact h.allocated
  · have hnew := hallocates (by omega)
    omega

/-- Copying the octets to the cursor does not change the allocation that has room for them. -/
theorem getAllocatedSize_copyToPos {data : List UInt8}
    (h : s.pos + data.length ≤ s.getAllocatedSize) :
    (s.copyToPos data).getAllocatedSize = s.getAllocatedSize := by
  unfold getAllocatedSize CDataStream.copyToPos at *
  cases hb : s.spBuffer with
  | none => rfl
  | some b =>
    simp only [hb, Option.map_some, Option.getD_some, CBuffer.getAllocatedSize] at h
    have hlen : (overwrite b.data s.pos data).length = b.data.length := by
      rw [length_overwrite _ _ _ (by omega)]
      omega
    simp only [Option.map_some, Option.getD_some, CBuffer.getAllocatedSize, CBuffer.setSize_snd]
    split_ifs <;> exact hlen

/-- The array that octets were written to. -/
def written (c : ArrayCursor UInt8) (data : List UInt8) : ArrayCursor UInt8 :=
  ⟨overwrite c.items c.pos data, c.pos + data.length, c.pos_le_write data⟩

/-- Octets are written to the stream as to the array. -/
theorem Represents.writeWord_ok (hw : 32 ≤ w) (h : Represents w c s) {data : List UInt8}
    (hd : data ≠ []) (hpos : s.pos + data.length < sizeRange w)
    (hallocates : StreamCall.Allocates w (s.pos + data.length) s) :
    ∃ s', writeWord w (some data) s = .ok () s' ∧ Represents w (written c data) s' := by
  obtain ⟨s₁, hgrow, h₁, hroom⟩ := h.growWord_ok hw hallocates
  have hpos₁ : s₁.pos = s.pos := h₁.holds.pos_eq.trans h.holds.pos_eq.symm
  have hsize₁ : s₁.getSize = s.getSize := h₁.holds.size_eq.trans h.holds.size_eq.symm
  have hd0 : ¬data.length = 0 := by simpa using hd
  have hsum : (data.length + s.pos) % sizeRange w = s.pos + data.length := by
    rw [Nat.add_comm, Nat.mod_eq_of_lt hpos]
  have hwrite : writeWord w (some data) s = .ok () (s₁.copyToPos data) := by
    unfold writeWord CDataStream.copyToPos
    dsimp only
    rw [hsum, if_neg hd0, hgrow]
    simp only [hpos₁, hsize₁, Nat.add_comm data.length]
  refine ⟨_, hwrite, h₁.holds.copyToPos hd ?_, ?_⟩
  · rw [Nat.add_comm, ← h.holds.pos_eq]
    exact hroom
  · rw [getAllocatedSize_copyToPos (by rw [hpos₁]; exact hroom)]
    exact h₁.allocated

/-- The position behind a read does not wrap. -/
theorem readWord_eq {size : ℕ} (hpos : s.pos + size < sizeRange w) :
    readWord w size s = CDataStream.read size s := by
  have hsum : (size + s.pos) % sizeRange w = size + s.pos := Nat.mod_eq_of_lt (by omega)
  unfold readWord CDataStream.read
  dsimp only
  rw [hsum]

/-- An offset that leads before the start becomes a position in the upper half of the address space,
which is beyond the end of the stream. -/
theorem Represents.seekRelativeWord_eq (hw : 32 ≤ w) (h : Represents w c s) {offset : ℤ}
    (hlow : -2 ^ 31 ≤ offset) (hhigh : offset < 2 ^ 31) :
    seekRelativeWord w offset s = seekRelative offset s := by
  have hrange := sizeRange_eq hw
  have hlimit := le_arrayLimit hw
  have hpos := h.holds.pos_le
  have hsize := h.holds.le_allocated
  have hallocated := h.allocated
  have hcursor := h.holds.pos_eq
  unfold seekRelativeWord seekRelative
  split_ifs with hsum
  · rw [Int.emod_eq_of_lt hsum (by omega)]
  · have hwrap : (offset + s.pos) % (sizeRange w : ℤ) = offset + s.pos + sizeRange w := by
      rw [← Int.add_emod_right]
      exact Int.emod_eq_of_lt (by omega) (by omega)
    exact h.holds.seekDirect_error (by rw [hwrap]; omega)

/-! ## The refinement -/

/-- What holds behind a call: the result is the reply of the array, and the stream is the array. -/
def Refines (w : ℕ) (stream : Reply UInt8 × CDataStream) (array : Reply UInt8 × ArrayCursor UInt8) :
    Prop :=
  stream.1 = array.1 ∧ Represents w array.2 stream.2

/-- A failed call leaves both alone. -/
theorem Represents.refines_failed (h : Represents w c s) :
    Refines w (.failed, s) (.failed, c) := ⟨rfl, h⟩

/-- A write to the stream is one to the array. -/
theorem Represents.refines_write (hw : 32 ≤ w) (h : Represents w c s) {data : Option (List UInt8)}
    (hfits : (StreamCall.write data).Fits w s) :
    Refines w ((StreamCall.write data).perform w s) (c.perform (.write (data.getD []))) := by
  obtain ⟨hpos, hallocates⟩ := hfits
  cases data with
  | none => exact h.refines_failed
  | some data =>
    cases data with
    | nil => exact h.refines_failed
    | cons octet rest =>
      obtain ⟨s', hwrite, hs'⟩ := h.writeWord_ok hw (List.cons_ne_nil octet rest) hpos hallocates
      show Refines w (StreamCall.result (fun _ => .done) (writeWord w (some (octet :: rest)) s)) _
      rw [hwrite]
      exact ⟨rfl, hs'⟩

/-- A read of the stream is one of the array. -/
theorem Represents.refines_read (h : Represents w c s) {size : ℕ}
    (hpos : s.pos + size < sizeRange w) :
    Refines w ((StreamCall.read size).perform w s) (c.perform (.read size)) := by
  have hread := readWord_eq hpos
  unfold StreamCall.perform ArrayCursor.perform ArrayCursor.read
  dsimp only
  split_ifs with hfit
  · rw [hread, h.holds.read_ok hfit]
    exact ⟨rfl, h.holds.withPos hfit, h.allocated⟩
  · rw [hread, h.holds.read_error (by omega)]
    exact h.refines_failed

/-- Seeking a position in the stream is seeking it in the array. -/
theorem Represents.refines_seekDirect (h : Represents w c s) (pos : ℕ) :
    Refines w (StreamCall.result (fun _ => .done) (seekDirect pos s)) (c.outcome (c.seek pos)) := by
  unfold ArrayCursor.seek
  split_ifs with hpos
  · rw [h.holds.seekDirect_ok hpos]
    exact ⟨rfl, h.holds.withPos hpos, h.allocated⟩
  · rw [h.holds.seekDirect_error (by omega)]
    exact h.refines_failed

/-- A relative seek in the stream is moving the cursor of the array. -/
theorem Represents.refines_seekRelative (hw : 32 ≤ w) (h : Represents w c s) {offset : ℤ}
    (hfits : (StreamCall.seekRelative offset).Fits w s) :
    Refines w ((StreamCall.seekRelative offset).perform w s) (c.perform (.move offset)) := by
  obtain ⟨hlow, hhigh⟩ := hfits
  have hseek := h.seekRelativeWord_eq hw hlow hhigh
  have hcursor := h.holds.pos_eq
  unfold StreamCall.perform ArrayCursor.perform ArrayCursor.move
  dsimp only
  rw [hseek, seekRelative, hcursor, Int.add_comm offset]
  split_ifs
  · exact h.refines_seekDirect _
  · exact h.refines_failed

/-- A size hint to the stream reserves room in the array. -/
theorem Represents.refines_setSizeHint (hw : 32 ≤ w) (h : Represents w c s) {size : ℕ}
    (hfits : (StreamCall.setSizeHint size).Fits w s) :
    Refines w ((StreamCall.setSizeHint size).perform w s) (c.perform (.reserve size)) := by
  obtain ⟨s', hgrow, hs', -⟩ := h.growWord_ok hw hfits
  unfold StreamCall.perform
  dsimp only
  rw [hgrow]
  exact ⟨rfl, hs'⟩

/-- Every call that can be made does to the stream what its command does to the array. -/
theorem Represents.refines_perform (hw : 32 ≤ w) (h : Represents w c s) {call : StreamCall}
    (hfits : call.Fits w s) : Refines w (call.perform w s) (c.perform call.command) := by
  cases call with
  | write data => exact h.refines_write hw hfits
  | read size => exact h.refines_read hfits.2
  | seekDirect pos => exact h.refines_seekDirect pos
  | seekRelative offset => exact h.refines_seekRelative hw hfits
  | setSizeHint size => exact h.refines_setSizeHint hw hfits
  | getSize => exact ⟨congrArg Reply.number h.holds.size_eq, h⟩
  | getPos => exact ⟨congrArg Reply.number h.holds.pos_eq, h⟩

/-- A sequence of calls to the stream gives what the commands give on the array, which it still
represents. -/
theorem Represents.run (hw : 32 ≤ w) {calls : List StreamCall} (h : Represents w c s)
    (hfit : StreamCall.AllFit w s calls) :
    (StreamCall.run w s calls).1 = (c.run (calls.map StreamCall.command)).1 ∧
      Represents w (c.run (calls.map StreamCall.command)).2 (StreamCall.run w s calls).2 := by
  induction calls generalizing c s with
  | nil => exact ⟨rfl, h⟩
  | cons call calls ih =>
    obtain ⟨hcall, hcalls⟩ := hfit
    obtain ⟨hreply, hnext⟩ := h.refines_perform hw hcall
    obtain ⟨hreplies, hlast⟩ := ih hnext hcalls
    exact ⟨congrArg₂ List.cons hreply hreplies, hlast⟩

/-- A stream without a buffer, or one that a buffer was attached to for writing. -/
def Starts (w : ℕ) (s : CDataStream) : Prop :=
  s = {} ∨ ∃ (before : CDataStream) (buf : CBuffer),
    buf.getAllocatedSize < arrayLimit w ∧ s = before.attach buf true

/-- A stream as it starts represents the empty array. -/
theorem Starts.represents (h : Starts w s) : Represents w ArrayCursor.empty s := by
  rcases h with rfl | ⟨before, buf, hbuf, rfl⟩
  · exact ⟨holds_new, Nat.two_pow_pos _⟩
  · exact ⟨(holds_attach buf before).detached, hbuf⟩

/-- Whatever calls are made to a stream that starts without a buffer, or with one that is attached
for writing, their results and the octets and the position of the stream are those of an array with
a cursor that starts without octets. The position is never beyond the size, nor the size beyond the
allocation. -/
theorem streamCalls_refine (hw : 32 ≤ w) (hstart : Starts w s) {calls : List StreamCall}
    (hfit : StreamCall.AllFit w s calls) :
    let array := ArrayCursor.empty.run (calls.map StreamCall.command)
    let stream := StreamCall.run w s calls
    stream.1 = array.1 ∧ stream.2.contents = array.2.items ∧ stream.2.getPos = array.2.pos ∧
      stream.2.getSize = array.2.items.length ∧ stream.2.getPos ≤ stream.2.getSize ∧
      stream.2.getSize ≤ stream.2.getAllocatedSize := by
  obtain ⟨hreplies, hholds, -⟩ := hstart.represents.run hw hfit
  refine ⟨hreplies, hholds.contents_eq, hholds.pos_eq, hholds.size_eq, ?_, ?_⟩
  · rw [getPos, hholds.pos_eq, hholds.size_eq]
    exact hholds.pos_le
  · rw [hholds.size_eq]
    exact hholds.le_allocated

/-- A write into an attached buffer, and one that reaches from its middle past its allocation. -/
theorem streamCalls_refine_overwrite :
    let calls : List StreamCall := [.write (some [1, 2, 3]), .seekRelative (-2),
      .write (some [7, 7, 7, 7, 7]), .seekDirect 1, .read 3, .seekRelative (-5), .getSize]
    let array := ArrayCursor.empty.run (calls.map StreamCall.command)
    let stream := StreamCall.run 32 (attach ⟨[0, 0, 0, 0], 4⟩ true {}) calls
    stream.1 = array.1 ∧ stream.2.contents = array.2.items ∧ stream.2.getPos = array.2.pos ∧
      stream.2.getSize = array.2.items.length ∧ stream.2.getPos ≤ stream.2.getSize ∧
      stream.2.getSize ≤ stream.2.getAllocatedSize :=
  streamCalls_refine (by decide) (.inr ⟨{}, ⟨[0, 0, 0, 0], 4⟩, by decide, rfl⟩) (by decide)

end Stun
