import Mathlib.Tactic.SplitIfs
import StunForAndroid.Common.HResult
import StunForAndroid.Lib.Octets

/-!
# `CBuffer` and `CDataStream`

`src/stuncore/buffer.cpp` and `src/stuncore/datastream.cpp`. A stream is a buffer with a cursor, and
a write that reaches past the buffer's allocation moves the stream to a larger buffer of its own.
Allocation succeeds, and the octets of a fresh allocation are zero here where the program leaves
them uninitialized: no octet is ever read before it is written, since the size of a stream grows by
writes only and a write starts within the stream.

`CDataStream.Holds` is the stream's meaning: an octet string and a position in it. Each operation
has one theorem that gives the outcome in these terms, and the callers use no more than that.
-/

namespace Stun

open Octets Fallible

/-! ## `CBuffer` -/

/-- The buffer: the allocated octets, and how many of them are in use. -/
structure CBuffer where
  /-- `_data`, with all `_allocatedSize` octets. -/
  data : List UInt8 := []
  /-- `_size`. -/
  size : ℕ := 0
deriving DecidableEq

namespace CBuffer

/-- `GetAllocatedSize`. -/
def getAllocatedSize (b : CBuffer) : ℕ := b.data.length

/-- `InitWithAllocation`, which is also the constructor `CBuffer(size_t)`. -/
def initWithAllocation (size : ℕ) : CBuffer := ⟨List.replicate size 0, size⟩

/-- `InitNoAlloc`: the buffer is the caller's array. -/
def initNoAlloc (pByteArray : List UInt8) : CBuffer := ⟨pByteArray, pByteArray.length⟩

/-- `SetSize`. The comparison is assigned to `hr`, so that `hr` is 1 or 0, and neither is a
failure. -/
def setSize (size : ℕ) (b : CBuffer) : HRESULT × CBuffer :=
  let hr : HRESULT := if size ≤ b.getAllocatedSize then 1 else 0
  if succeeded hr then (hr, { b with size := size }) else (hr, b)

/-- `SetSize` always sets the size. -/
@[simp]
theorem setSize_snd (size : ℕ) (b : CBuffer) : (b.setSize size).2 = { b with size := size } := by
  unfold setSize
  split_ifs <;> simp_all

/-- The octets in use. -/
def contents (b : CBuffer) : List UInt8 := b.data.take b.size

end CBuffer

/-! ## `CDataStream` -/

/-- The stream. `spAttached` is not in the source: once `Grow` has moved the stream to a buffer of
its own, it is the buffer that the stream came from, which the caller that attached it still has. -/
structure CDataStream where
  /-- `_spBuffer` and `_pBuffer`. -/
  spBuffer : Option CBuffer := none
  /-- `_pos`. -/
  pos : ℕ := 0
  /-- `_fNoGrow`. -/
  fNoGrow : Bool := false
  /-- The buffer that the stream has grown out of. -/
  spAttached : Option CBuffer := none
deriving DecidableEq

namespace CDataStream

/-- `GetSize`. -/
def getSize (s : CDataStream) : ℕ := (s.spBuffer.map CBuffer.size).getD 0

/-- `GetPos`. -/
def getPos (s : CDataStream) : ℕ := s.pos

/-- The size of the allocation, zero without a buffer. -/
def getAllocatedSize (s : CDataStream) : ℕ := (s.spBuffer.map CBuffer.getAllocatedSize).getD 0

/-- The octets of the stream. -/
def contents (s : CDataStream) : List UInt8 := (s.spBuffer.map CBuffer.contents).getD []

/-- `GetDataPointerUnsafe`: the octets from the start of the buffer to the end of its allocation,
and none without a buffer. -/
def getDataPointerUnsafe (s : CDataStream) : Option (List UInt8) := s.spBuffer.map CBuffer.data

/-- `Reset`. -/
def reset (_ : CDataStream) : CDataStream := {}

/-- `Attach`. -/
def attach (buf : CBuffer) (fForWriting : Bool) (s : CDataStream) : CDataStream :=
  { s.reset with spBuffer := some (if fForWriting then (buf.setSize 0).2 else buf) }

/-- What has become of the attached buffer: the stream's own, unless the stream has grown out of
it. -/
def attachedBuffer (s : CDataStream) : Option CBuffer := s.spAttached.or s.spBuffer

/-- `Grow`. -/
def grow (size : ℕ) : Fallible CDataStream Unit := fun s =>
  let currentAllocated := s.getAllocatedSize
  let currentSize := s.getSize
  if size ≤ currentAllocated then .ok () s
  else if s.fNoGrow then .error E_FAIL s
  else
    let newallocationsize := if size > currentAllocated * 2 then size else currentAllocated * 2
    let spNewBuffer := ((CBuffer.initWithAllocation newallocationsize).setSize currentSize).2
    .ok () { s with
      spBuffer := some { spNewBuffer with data := overwrite spNewBuffer.data 0 s.contents }
      spAttached := s.attachedBuffer }

/-- `SetSizeHint`. -/
def setSizeHint (size : ℕ) : Fallible CDataStream Unit := grow size

/-- The end of `Write`, on a stream that has room: copy the octets to the cursor, move it past them,
and set the size of a stream that has become longer. -/
def copyToPos (data : List UInt8) (s : CDataStream) : CDataStream :=
  let newposition := data.length + s.pos
  let currentSize := s.getSize
  { s with
    spBuffer := s.spBuffer.map fun b =>
      let b := { b with data := overwrite b.data s.pos data }
      if newposition > currentSize then (b.setSize newposition).2 else b
    pos := newposition }

/-- `Write` of an array of octets. -/
def write (data : List UInt8) : Fallible CDataStream Unit := fun s =>
  let newposition := data.length + s.pos
  if data.length = 0 then .error E_FAIL s
  else
    match grow newposition s with
    | .error hr s => .error hr s
    | .ok _ s => .ok () (s.copyToPos data)

/-- `Read` of `size` octets. -/
def read (size : ℕ) : Fallible CDataStream (List UInt8) := fun s =>
  let newpos := size + s.pos
  if newpos > s.getSize then .error E_INVALIDARG s
  else .ok (((s.getDataPointerUnsafe.getD []).drop s.pos).take size) { s with pos := newpos }

/-- `SeekDirect`. -/
def seekDirect (pos : ℕ) : Fallible CDataStream Unit := fun s =>
  if pos ≤ s.getSize then .ok () { s with pos := pos } else .error E_FAIL s

/-- `SeekRelative`. A negative sum wraps around to a position past the end of any stream. -/
def seekRelative (offset : ℤ) : Fallible CDataStream Unit := fun s =>
  if 0 ≤ offset + s.pos then seekDirect (offset + s.pos).toNat s else .error E_FAIL s

/-- `GetBuffer`. -/
def getBuffer (s : CDataStream) : Option CBuffer := s.spBuffer

/-- `WriteUint8`. -/
def writeUint8 (val : UInt8) : Fallible CDataStream Unit := write [val]

/-- `WriteUint16`, which writes the word as it is in memory. -/
def writeUint16 (val : UInt16) : Fallible CDataStream Unit := write (toLE 2 val.toNat)

/-- `WriteUint32`. -/
def writeUint32 (val : UInt32) : Fallible CDataStream Unit := write (toLE 4 val.toNat)

/-- `ReadUint8`. -/
def readUint8 : Fallible CDataStream UInt8 := do
  return UInt8.ofNat (ofLE (← read 1))

/-- `ReadUint16`. -/
def readUint16 : Fallible CDataStream UInt16 := do
  return UInt16.ofNat (ofLE (← read 2))

/-- `ReadUint32`. -/
def readUint32 : Fallible CDataStream UInt32 := do
  return UInt32.ofNat (ofLE (← read 4))

/-! ## The stream as an octet string with a cursor -/

/-- The stream holds the octets `bs` with its cursor at `p`. A positive `cap` is the allocation of a
buffer that the stream was attached to: the stream stays in it while its octets fit. -/
structure Holds (cap : ℕ) (bs : List UInt8) (p : ℕ) (s : CDataStream) : Prop where
  /-- The octets. -/
  contents_eq : s.contents = bs
  /-- The cursor. -/
  pos_eq : s.pos = p
  /-- The cursor is within the stream. -/
  pos_le : p ≤ bs.length
  /-- The size is the number of octets. -/
  size_eq : s.getSize = bs.length
  /-- The octets are within the allocation. -/
  le_allocated : bs.length ≤ s.getAllocatedSize
  /-- The stream may grow. -/
  grows : s.fNoGrow = false
  /-- The stream is still in the attached buffer. -/
  inPlace : 0 < cap → bs.length ≤ cap → s.spAttached = none ∧ s.getAllocatedSize = cap

/-- A new stream holds nothing. -/
theorem holds_new : Holds 0 [] 0 {} := by
  constructor <;> simp [contents, getSize, getAllocatedSize]

/-- A stream attached for writing holds nothing. -/
theorem holds_attach (buf : CBuffer) (s : CDataStream) :
    Holds buf.getAllocatedSize [] 0 (s.attach buf true) := by
  constructor <;>
    simp [attach, reset, contents, CBuffer.contents, getSize, getAllocatedSize,
      CBuffer.getAllocatedSize]

/-- A stream over a buffer whose size is within its allocation holds the buffer's octets. -/
theorem holds_attach_reading (buf : CBuffer) (s : CDataStream)
    (h : buf.size ≤ buf.getAllocatedSize) :
    Holds buf.getAllocatedSize buf.contents 0 (s.attach buf false) := by
  have hlen : buf.contents.length = buf.size := by
    rw [CBuffer.contents, List.length_take]
    exact min_eq_left h
  constructor <;>
    simp [attach, reset, contents, getSize, getAllocatedSize, hlen, h]

section Holds

variable {cap p : ℕ} {bs : List UInt8} {s : CDataStream}

/-- A stream that holds octets has a buffer. -/
theorem Holds.exists_buffer (h : Holds cap bs p s) (hbs : bs ≠ []) :
    ∃ b, s.spBuffer = some b ∧ b.data.take b.size = bs ∧ b.size = bs.length := by
  have hc := h.contents_eq
  have hs := h.size_eq
  cases hb : s.spBuffer with
  | none => simp [contents, hb] at hc; exact absurd hc hbs
  | some b =>
    refine ⟨b, rfl, ?_, ?_⟩
    · simpa [contents, CBuffer.contents, hb] using hc
    · simpa [getSize, hb] using hs

/-- The octets are at the start of the allocation. -/
theorem Holds.take_data (h : Holds cap bs p s) :
    (s.getDataPointerUnsafe.getD []).take bs.length = bs := by
  have hc := h.contents_eq
  have hs := h.size_eq
  cases hb : s.spBuffer with
  | none => simpa [contents, hb, getDataPointerUnsafe] using hc
  | some b =>
    simp only [getSize, hb, Option.map_some, Option.getD_some] at hs
    simpa [contents, CBuffer.contents, hb, getDataPointerUnsafe, hs] using hc

/-- Only the cursor of a stream tells it from the same stream elsewhere. -/
theorem Holds.withPos (h : Holds cap bs p s) {q : ℕ} (hq : q ≤ bs.length) :
    Holds cap bs q { s with pos := q } :=
  ⟨h.contents_eq, rfl, hq, h.size_eq, h.le_allocated, h.grows, h.inPlace⟩

/-- A seek within the stream moves the cursor. -/
theorem Holds.seekDirect_ok (h : Holds cap bs p s) {q : ℕ} (hq : q ≤ bs.length) :
    seekDirect q s = .ok () { s with pos := q } := by
  rw [seekDirect, if_pos (by rw [h.size_eq]; exact hq)]

/-- A seek past the end fails. -/
theorem Holds.seekDirect_error (h : Holds cap bs p s) {q : ℕ} (hq : bs.length < q) :
    seekDirect q s = .error E_FAIL s := by
  rw [seekDirect, if_neg (by rw [h.size_eq]; omega)]

/-- A relative seek forward is a seek. -/
theorem Holds.seekRelative_natCast (h : Holds cap bs p s) (n : ℕ) :
    seekRelative n s = seekDirect (p + n) s := by
  have hsum : ((n : ℤ) + s.pos).toNat = p + n := by
    rw [h.pos_eq]
    omega
  rw [seekRelative, if_pos (by omega), hsum]

/-- A relative seek back is a seek. -/
theorem Holds.seekRelative_neg (h : Holds cap bs p s) {n : ℕ} (hn : n ≤ p) :
    seekRelative (-n) s = seekDirect (p - n) s := by
  have hpos := h.pos_eq
  have hsum : (-(n : ℤ) + s.pos).toNat = p - n := by omega
  rw [seekRelative, if_pos (by omega), hsum]

/-- A read within the stream returns the octets at the cursor and moves past them. -/
theorem Holds.read_ok (h : Holds cap bs p s) {n : ℕ} (hn : p + n ≤ bs.length) :
    read n s = .ok ((bs.drop p).take n) { s with pos := p + n } := by
  have hdata : (((s.getDataPointerUnsafe.getD []).drop p).take n) = (bs.drop p).take n := by
    have htake := h.take_data
    generalize s.getDataPointerUnsafe.getD [] = data at htake
    rw [← htake, List.drop_take, List.take_take, min_eq_left (by omega)]
  simp only [read, h.pos_eq, h.size_eq, hdata]
  rw [if_neg (by omega), Nat.add_comm n p]

/-- A read past the end fails. -/
theorem Holds.read_error (h : Holds cap bs p s) {n : ℕ} (hn : bs.length < p + n) :
    read n s = .error E_INVALIDARG s := by
  simp only [read, h.pos_eq, h.size_eq]
  rw [if_pos (by omega)]

/-- Nothing is promised about the attached buffer of a stream that has become longer than it. -/
theorem Holds.outgrown (h : Holds 0 bs p s) (hcap : cap < bs.length) : Holds cap bs p s :=
  ⟨h.contents_eq, h.pos_eq, h.pos_le, h.size_eq, h.le_allocated, h.grows, by omega⟩

/-- A stream is a stream without an attached buffer. -/
theorem Holds.detached (h : Holds cap bs p s) : Holds 0 bs p s :=
  ⟨h.contents_eq, h.pos_eq, h.pos_le, h.size_eq, h.le_allocated, h.grows, by omega⟩

/-- A step after a read that succeeds is made with the octets at the position. -/
theorem Holds.bind_read_ok (h : Holds cap bs p s) {n : ℕ} (hn : p + n ≤ bs.length) {α : Type}
    (f : List UInt8 → α) :
    (do return f (← read n) : Fallible CDataStream α) s =
      .ok (f ((bs.drop p).take n)) { s with pos := p + n } :=
  bind_of_ok (h.read_ok hn)

/-- `ReadUint8` within the stream reads the octet at the position and moves past it. -/
theorem Holds.readUint8_ok (h : Holds cap bs p s) (hn : p + 1 ≤ bs.length) :
    readUint8 s = .ok (UInt8.ofNat (ofLE ((bs.drop p).take 1))) { s with pos := p + 1 } :=
  h.bind_read_ok hn fun l => UInt8.ofNat (ofLE l)

/-- `ReadUint16` within the stream reads the two octets at the position and moves past them. -/
theorem Holds.readUint16_ok (h : Holds cap bs p s) (hn : p + 2 ≤ bs.length) :
    readUint16 s = .ok (UInt16.ofNat (ofLE ((bs.drop p).take 2))) { s with pos := p + 2 } :=
  h.bind_read_ok hn fun l => UInt16.ofNat (ofLE l)

/-- `ReadUint32` within the stream reads the four octets at the position and moves past them. -/
theorem Holds.readUint32_ok (h : Holds cap bs p s) (hn : p + 4 ≤ bs.length) :
    readUint32 s = .ok (UInt32.ofNat (ofLE ((bs.drop p).take 4))) { s with pos := p + 4 } :=
  h.bind_read_ok hn fun l => UInt32.ofNat (ofLE l)

/-- `ReadUint8` past the end fails. -/
theorem Holds.readUint8_error (h : Holds cap bs p s) (hn : bs.length < p + 1) :
    readUint8 s = .error E_INVALIDARG s :=
  bind_of_error (h.read_error hn)

/-- `ReadUint16` past the end fails. -/
theorem Holds.readUint16_error (h : Holds cap bs p s) (hn : bs.length < p + 2) :
    readUint16 s = .error E_INVALIDARG s :=
  bind_of_error (h.read_error hn)

/-- `ReadUint32` past the end fails. -/
theorem Holds.readUint32_error (h : Holds cap bs p s) (hn : bs.length < p + 4) :
    readUint32 s = .error E_INVALIDARG s :=
  bind_of_error (h.read_error hn)

/-- Growing keeps what the stream holds, and its buffer when that was attached and is large
enough. -/
theorem Holds.grow_ok (h : Holds cap bs p s) (n : ℕ) (hn : 0 < cap → bs.length ≤ cap → n ≤ cap) :
    ∃ s', grow n s = .ok () s' ∧ Holds cap bs p s' ∧ n ≤ s'.getAllocatedSize := by
  by_cases hle : n ≤ s.getAllocatedSize
  · exact ⟨s, by simp only [grow, if_pos hle], h, hle⟩
  -- A stream that has to grow is not in an attached buffer that is large enough.
  have hcap : ¬(0 < cap ∧ bs.length ≤ cap) := by
    rintro ⟨h0, hlen⟩
    have := (h.inPlace h0 hlen).2
    have := hn h0 hlen
    omega
  have hbs := h.le_allocated
  generalize hnew : (if n > s.getAllocatedSize * 2 then n else s.getAllocatedSize * 2) = newsize
  have hbig : n ≤ newsize ∧ bs.length ≤ newsize := by
    rw [← hnew]
    split_ifs <;> omega
  have hlen : (overwrite (List.replicate newsize (0 : UInt8)) 0 bs).length = newsize := by
    rw [length_overwrite _ _ _ (Nat.zero_le _), List.length_replicate]
    omega
  have htake : (overwrite (List.replicate newsize (0 : UInt8)) 0 bs).take bs.length = bs := by
    simp [overwrite]
  have hrun : grow n s = .ok () { s with
      spBuffer := some ⟨overwrite (List.replicate newsize 0) 0 bs, bs.length⟩
      spAttached := s.attachedBuffer } := by
    simp only [grow, if_neg hle, h.grows, h.contents_eq, h.size_eq, CBuffer.setSize_snd,
      CBuffer.initWithAllocation, hnew]
    rfl
  refine ⟨_, hrun, ⟨?_, h.pos_eq, h.pos_le, ?_, ?_, h.grows, fun h0 hl => absurd ⟨h0, hl⟩ hcap⟩, ?_⟩
  · simp [contents, CBuffer.contents, htake]
  · simp [getSize]
  · simpa [getAllocatedSize, CBuffer.getAllocatedSize, hlen] using hbig.2
  · simpa [getAllocatedSize, CBuffer.getAllocatedSize, hlen] using hbig.1

/-- `CopyToPos` with room in the buffer overwrites the octets at the position. -/
theorem Holds.copyToPos (h : Holds cap bs p s) {data : List UInt8} (hd : data ≠ [])
    (hroom : data.length + p ≤ s.getAllocatedSize) :
    Holds cap (overwrite bs p data) (p + data.length) (s.copyToPos data) := by
  have hd0 : 0 < data.length := List.length_pos_iff.mpr hd
  have hp := h.pos_le
  have hlen := length_overwrite bs data p hp
  obtain ⟨b, hb⟩ : ∃ b, s.spBuffer = some b := by
    cases hb : s.spBuffer with
    | none =>
      simp only [getAllocatedSize, hb, Option.map_none, Option.getD_none] at hroom
      omega
    | some b => exact ⟨b, rfl⟩
  have hsize := h.size_eq
  have hbs := h.contents_eq
  have hle := h.le_allocated
  simp only [getSize, getAllocatedSize, CBuffer.getAllocatedSize, contents, CBuffer.contents, hb,
    Option.map_some, Option.getD_some] at hsize hbs hroom hle
  have hdata : (overwrite b.data p data).length = b.data.length := by
    rw [length_overwrite _ _ _ (by omega)]
    omega
  -- The size goes up when the octets that are written end behind those that were there.
  have hcopy : s.copyToPos data = { s with
      spBuffer := some ⟨overwrite b.data p data, max bs.length (p + data.length)⟩
      pos := p + data.length } := by
    simp only [CDataStream.copyToPos, h.pos_eq, h.size_eq, hb, Option.map_some, CBuffer.setSize_snd,
      Nat.add_comm data.length, hsize]
    split_ifs with hgt
    · rw [max_eq_right (by omega)]
    · rw [max_eq_left (by omega)]
  rw [hcopy]
  refine ⟨?_, rfl, ?_, ?_, ?_, h.grows, fun h0 hl => ?_⟩
  · have htake := take_overwrite b.data data p bs.length hp (by omega)
    simp only [contents, CBuffer.contents, Option.map_some, Option.getD_some, htake]
    rw [← hsize, hbs]
  · rw [hlen]
    exact Nat.le_max_right _ _
  · simp only [getSize, Option.map_some, Option.getD_some, hlen]
  · simp only [getAllocatedSize, CBuffer.getAllocatedSize, Option.map_some, Option.getD_some, hlen,
      hdata]
    omega
  · have hin := h.inPlace h0 (by omega)
    simp only [getAllocatedSize, CBuffer.getAllocatedSize, hb, Option.map_some,
      Option.getD_some] at hin
    simpa only [getAllocatedSize, CBuffer.getAllocatedSize, Option.map_some, Option.getD_some,
      hdata] using hin

/-- A write copies its octets over the stream at the cursor and moves past them. -/
theorem Holds.write_ok (h : Holds cap bs p s) (data : List UInt8) (hd : data ≠ []) :
    ∃ s', write data s = .ok () s' ∧ Holds cap (overwrite bs p data) (p + data.length) s' := by
  have hd0 : ¬data.length = 0 := by simpa using hd
  have hlen := length_overwrite bs data p h.pos_le
  -- When the octets after the write fit the attached buffer, those before it do as well.
  rcases le_or_gt (overwrite bs p data).length cap with hfit | hout
  · obtain ⟨s₁, hgrow, h₁, hroom⟩ := h.grow_ok (data.length + p) (fun _ _ => by omega)
    exact ⟨_, by simp only [write, if_neg hd0, h.pos_eq, hgrow], h₁.copyToPos hd hroom⟩
  · obtain ⟨s₁, hgrow, h₁, hroom⟩ := h.detached.grow_ok (data.length + p) (by omega)
    exact ⟨_, by simp only [write, if_neg hd0, h.pos_eq, hgrow],
      (h₁.copyToPos hd hroom).outgrown hout⟩

/-- A write at the end appends. -/
theorem Holds.append_ok (h : Holds cap bs bs.length s) {data : List UInt8} (hd : data ≠ []) :
    ∃ s', write data s = .ok () s' ∧ Holds cap (bs ++ data) (bs ++ data).length s' := by
  obtain ⟨s', hs', hh⟩ := h.write_ok _ hd
  rw [overwrite_length, ← List.length_append] at hh
  exact ⟨s', hs', hh⟩

/-- What is written through the buffer's pointer, within the octets, is written to the stream. -/
theorem Holds.poke (h : Holds cap bs p s) (q : ℕ) (data : List UInt8) (hbs : bs ≠ [])
    (hq : q + data.length ≤ bs.length) :
    Holds cap (overwrite bs q data) p { s with
      spBuffer := s.spBuffer.map fun b => { b with data := overwrite b.data q data } } := by
  obtain ⟨b, hb, htake, hsize⟩ := h.exists_buffer hbs
  have hle := h.le_allocated
  simp only [getAllocatedSize, CBuffer.getAllocatedSize, hb, Option.map_some,
    Option.getD_some] at hle
  -- The octets are written over those that are there, so that no length changes.
  have hlen : (overwrite bs q data).length = bs.length := by
    rw [length_overwrite _ _ _ (by omega)]
    omega
  have hdata : (overwrite b.data q data).length = b.data.length := by
    rw [length_overwrite _ _ _ (by omega)]
    omega
  rw [hb, Option.map_some]
  refine ⟨?_, h.pos_eq, by rw [hlen]; exact h.pos_le, ?_, ?_, h.grows, fun h0 hl => ?_⟩
  · have hover := take_overwrite b.data data q b.size (by omega) (by omega)
    rw [max_eq_left (by omega), htake] at hover
    simpa [contents, CBuffer.contents] using hover
  · simp only [getSize, Option.map_some, Option.getD_some, hsize, hlen]
  · simp only [getAllocatedSize, CBuffer.getAllocatedSize, Option.map_some, Option.getD_some, hlen,
      hdata]
    exact hle
  · have hin := h.inPlace h0 (by omega)
    simp only [getAllocatedSize, CBuffer.getAllocatedSize, hb, Option.map_some,
      Option.getD_some] at hin
    simpa only [getAllocatedSize, CBuffer.getAllocatedSize, Option.map_some, Option.getD_some,
      hdata] using hin

/-- The octets up to a position, read through the buffer's pointer. -/
theorem Holds.take_data_of_le (h : Holds cap bs p s) {n : ℕ} (hn : n ≤ bs.length) :
    (s.getDataPointerUnsafe.getD []).take n = bs.take n := by
  rw [← h.take_data, List.take_take, min_eq_left hn]

end Holds

end CDataStream

end Stun
