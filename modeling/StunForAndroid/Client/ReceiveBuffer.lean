import StunForAndroid.Client.FileTransfer
import Mathlib.Data.List.Basic

/-!
# The receive buffer

The receive thread keeps one buffer for all datagrams and looks at the tags of those of at least 30
octets (`receive`). What else it reads of the buffer depends on the tags and not on the number of
octets that were received, so it may read what an earlier datagram has left there, or behind the
buffer.

`encode` are the datagrams as the client sends them. They are read back as what they say
(`received_encode`), which is what the two clients of a transfer work with.

`handledWithin_iff` says for which datagrams the thread stays within what it has received.
-/

namespace Stun

open Octets

namespace Transfer

/-! ## Tags -/

namespace Tag

/-- `request` -/
def request : CString := ⟨[114, 101, 113, 117, 101, 115, 116], by decide⟩
/-- `respond` -/
def respond : CString := ⟨[114, 101, 115, 112, 111, 110, 100], by decide⟩
/-- `data` -/
def data : CString := ⟨[100, 97, 116, 97], by decide⟩
/-- `status` -/
def status : CString := ⟨[115, 116, 97, 116, 117, 115], by decide⟩
/-- `apk` -/
def apk : CString := ⟨[97, 112, 107], by decide⟩
/-- `doConnect` -/
def doConnect : CString := ⟨[100, 111, 67, 111, 110, 110, 101, 99, 116], by decide⟩
/-- `ready` -/
def ready : CString := ⟨[114, 101, 97, 100, 121], by decide⟩
/-- `fileName` -/
def fileName : CString := ⟨[102, 105, 108, 101, 78, 97, 109, 101], by decide⟩
/-- `fileDesc` -/
def fileDesc : CString := ⟨[102, 105, 108, 101, 68, 101, 115, 99], by decide⟩
/-- `sector` -/
def sector : CString := ⟨[115, 101, 99, 116, 111, 114], by decide⟩

end Tag

/-! ## Reading the buffer -/

/-- `n` octets of the buffer. -/
def field (buff : List UInt8) (offset n : ℕ) : List UInt8 := (buff.drop offset).take n

/-- An `int` from its octets. -/
def ofInt32 (bs : List UInt8) : ℤ := Int.bmod (ofLE bs) (2 ^ 32)

/-- The octets of an `int`. -/
def toInt32 (z : ℤ) : List UInt8 := toLE 4 (z % 2 ^ 32).toNat

/-- The three tags at the beginning of the buffer. -/
def tags (buff : List UInt8) : CString × CString × CString :=
  (.ofArray (field buff 0 10), .ofArray (field buff 10 10), .ofArray (field buff 20 10))

/-- What the buffer says, by the tags in the order in which the thread compares them. -/
def decode (buff : List UInt8) : Datagram :=
  if tags buff = (Tag.request, Tag.data, Tag.doConnect) then
    .requestDoConnect (field buff 30 4) (UInt16.ofNat (ofLE (field buff 34 2)))
  else if tags buff = (Tag.respond, Tag.status, Tag.ready) then .respondStatusReady
  else if tags buff = (Tag.request, Tag.data, Tag.fileName) then .requestFileName (field buff 30 50)
  else if tags buff = (Tag.respond, Tag.data, Tag.fileDesc) then
    .respondFileDesc (ofInt32 (field buff 30 4))
  else if tags buff = (Tag.respond, Tag.apk, Tag.fileDesc) then .respondApkFileDesc
  else if tags buff = (Tag.respond, Tag.data, Tag.sector) then
    .respondSector (ofInt32 (field buff 30 4)) (ofInt32 (field buff 34 4))
      (field buff 38 (ofInt32 (field buff 30 4)).toNat)
  else if tags buff = (Tag.respond, Tag.apk, Tag.sector) then
    .respondApkSector (ofInt32 (field buff 30 4))
  else if tags buff = (Tag.request, Tag.status, Tag.ready) then .requestStatusReady
  else .wrong

/-! ## Datagrams as they are sent -/

/-- A tag in its array of 10 characters, with what was in the array behind its end. -/
def tagField (junk : List UInt8) (t : CString) : List UInt8 := fixedArray 10 (t.chars ++ 0 :: junk)

/-- The three tags of a datagram. -/
def header (junk : List UInt8) (head1 head2 head3 : CString) : List UInt8 :=
  tagField junk head1 ++ tagField junk head2 ++ tagField junk head3

/-- A datagram as it is sent. -/
def encode (junk : List UInt8) : Datagram → List UInt8
  | .requestDoConnect s_addr port =>
    header junk Tag.request Tag.data Tag.doConnect ++ (s_addr ++ toLE 2 port.toNat)
  | .respondStatusReady => header junk Tag.respond Tag.status Tag.ready
  | .requestFileName fileName => header junk Tag.request Tag.data Tag.fileName ++ fileName
  | .respondFileDesc size => header junk Tag.respond Tag.data Tag.fileDesc ++ toInt32 size
  | .respondApkFileDesc => header junk Tag.respond Tag.apk Tag.fileDesc
  | .respondSector len index data =>
    header junk Tag.respond Tag.data Tag.sector ++ (toInt32 len ++ (toInt32 index ++ data))
  | .respondApkSector index => header junk Tag.respond Tag.apk Tag.sector ++ toInt32 index
  | .requestStatusReady => header junk Tag.request Tag.status Tag.ready
  | .wrong => []

/-- An `int`. -/
def IsInt (z : ℤ) : Prop := -2 ^ 31 ≤ z ∧ z < 2 ^ 31

/-- A datagram with the sizes and lengths of one that is sent. -/
def Datagram.Sendable : Datagram → Prop
  | requestDoConnect s_addr _ => s_addr.length = 4
  | requestFileName fileName => fileName.length = 50
  | respondFileDesc size => IsInt size
  | respondSector len index data =>
    len = data.length ∧ data.length ≤ blockMaxLength ∧ IsInt index
  | respondApkSector index => IsInt index
  | respondStatusReady | respondApkFileDesc | requestStatusReady => True
  | wrong => False

/-- An `int` has four octets. -/
@[simp]
theorem length_toInt32 (z : ℤ) : (toInt32 z).length = 4 := by simp [toInt32]

/-- An `int` is read back. -/
theorem ofInt32_toInt32 {z : ℤ} (h : IsInt z) : ofInt32 (toInt32 z) = z := by
  obtain ⟨hle, hlt⟩ := h
  have hcast : ((z % 2 ^ 32).toNat : ℤ) = z % 2 ^ 32 :=
    Int.toNat_of_nonneg (Int.emod_nonneg _ (by decide))
  have hmod : (z % 2 ^ 32).toNat % 256 ^ 4 = (z % 2 ^ 32).toNat := by
    apply Nat.mod_eq_of_lt
    omega
  have hbmod : Int.bmod (z % 2 ^ 32) (2 ^ 32) = Int.bmod z (2 ^ 32) := by
    exact_mod_cast Int.emod_bmod z (2 ^ 32)
  unfold ofInt32 toInt32
  rw [ofLE_toLE, hmod, hcast, hbmod]
  exact Int.bmod_eq_of_le (by omega) (by omega)

/-- The tags fill 30 octets. -/
@[simp]
theorem length_header (junk : List UInt8) (head1 head2 head3 : CString) :
    (header junk head1 head2 head3).length = 30 := by
  simp [header, tagField]

/-- What is within the first part of the buffer does not depend on the rest. -/
theorem field_append {bytes : List UInt8} (rest : List UInt8) {offset n : ℕ}
    (h : offset + n ≤ bytes.length) : field (bytes ++ rest) offset n = field bytes offset n := by
  unfold field
  rw [List.drop_append_of_le_length (by omega), List.take_append_of_le_length]
  rw [List.length_drop]
  omega

/-- A field behind the first part of the buffer is one of the rest. -/
theorem field_append_right {bytes : List UInt8} (rest : List UInt8) {offset k : ℕ} (n : ℕ)
    (h : offset = bytes.length + k) : field (bytes ++ rest) offset n = field rest k n := by
  subst h
  unfold field
  rw [List.drop_append, List.drop_of_length_le (by omega), List.nil_append,
    Nat.add_sub_cancel_left]

/-- A field as long as the buffer is all of it. -/
theorem field_self {bytes : List UInt8} {n : ℕ} (h : bytes.length ≤ n) :
    field bytes 0 n = bytes := by
  unfold field
  rw [List.drop_zero, List.take_of_length_le h]

/-- A tag is read back. -/
theorem ofArray_tagField (junk : List UInt8) {t : CString} (h : t.strlen ≤ 9) :
    CString.ofArray (tagField junk t) = t := by
  have hlen : t.chars.length ≤ 9 := h
  obtain ⟨k, hk⟩ : ∃ k, 10 - t.chars.length = k + 1 := ⟨9 - t.chars.length, by omega⟩
  unfold tagField fixedArray
  rw [List.append_assoc, List.cons_append, List.take_append, List.take_of_length_le (by omega), hk,
    List.take_succ_cons]
  exact CString.ofArray_append_zero t _

/-- The tags of a datagram that begins with three arrays of ten octets are these arrays. -/
theorem tags_arrays {head1 head2 head3 : List UInt8} (body : List UInt8) (h1 : head1.length = 10)
    (h2 : head2.length = 10) (h3 : head3.length = 10) :
    tags (head1 ++ head2 ++ head3 ++ body) = (.ofArray head1, .ofArray head2, .ofArray head3) := by
  unfold tags
  rw [List.append_assoc, List.append_assoc]
  rw [field_append _ (by omega), field_self h1.le]
  rw [field_append_right (k := 0) _ _ (by omega), field_append _ (by omega), field_self h2.le]
  rw [field_append_right (k := 10) _ _ (by omega), field_append_right (k := 0) _ _ (by omega),
    field_append _ (by omega), field_self h3.le]

/-- The tags are read back. -/
theorem tags_header (junk body : List UInt8) {head1 head2 head3 : CString} (h1 : head1.strlen ≤ 9)
    (h2 : head2.strlen ≤ 9) (h3 : head3.strlen ≤ 9) :
    tags (header junk head1 head2 head3 ++ body) = (head1, head2, head3) := by
  have hlen : ∀ t, (tagField junk t).length = 10 := fun t => by simp [tagField]
  unfold header
  rw [tags_arrays body (hlen _) (hlen _) (hlen _), ofArray_tagField junk h1,
    ofArray_tagField junk h2, ofArray_tagField junk h3]

/-! ## A round with its buffer -/

/-- The receive buffer. -/
structure Buffer where
  octets : List UInt8
  size : octets.length = 8192

/-- What is received of a datagram. -/
def cut (data : List UInt8) : List UInt8 := data.take 8192

/-- `recvfrom` leaves what it does not overwrite. -/
def Buffer.recvfrom (b : Buffer) (data : List UInt8) : Buffer where
  octets := overwrite b.octets 0 (cut data)
  size := by
    rw [length_overwrite _ _ _ (Nat.zero_le _), b.size]
    simp [cut]

/-- How a datagram is looked at. -/
inductive Access
  /-- `count` octets of the buffer are copied from an offset. -/
  | read (offset : ℕ) (count : ℤ)
  /-- An array of `len` octets is allocated for a block. -/
  | allocate (len : ℤ)
deriving DecidableEq

/-- What is read of the buffer behind the tags. -/
def Datagram.accesses : Datagram → List Access
  | requestDoConnect _ _ => [.read 30 4, .read 34 2]
  | requestFileName _ => [.read 30 50]
  | respondFileDesc _ => [.read 30 4]
  | respondSector len _ _ => [.read 30 4, .read 34 4, .allocate len, .read 38 len]
  | respondApkSector _ => [.read 30 4]
  | respondStatusReady | respondApkFileDesc | requestStatusReady | wrong => []

/-- The receive thread and its buffer. -/
structure ReceiveThread where
  buff : Buffer
  peer : Peer

/-- A round of `receiveThreadFunction` with the octets of a datagram. -/
def ReceiveThread.receive (open_ : CString → Option (List UInt8)) (typed : CString)
    (t : ReceiveThread) (data : List UInt8) : ReceiveThread × List Access × List Event :=
  let ret := (cut data).length
  let buff := t.buff.recvfrom data
  if ret > 0 then
    if ret ≥ 30 then
      let d := decode buff.octets
      let r := t.peer.receiveThreadFunction open_ typed d
      (⟨buff, r.1⟩, [.read 0 10, .read 10 10, .read 20 10] ++ d.accesses, r.2)
    else (⟨buff, t.peer⟩, [], [])
  else (⟨buff, t.peer⟩, [], [])

/-! ## Staying within a datagram -/

/-- A look within the first `ret` octets of the buffer, at a block of no more octets than there
are. -/
def Access.Within (ret : ℕ) : Access → Prop
  | read offset count => 0 ≤ count ∧ offset + count ≤ ret
  | allocate len => 0 ≤ len ∧ len ≤ ret - 38

/-- Each datagram is handled within what was received of it, and no call goes through a
`fileReadBuff` that is `NULL`. -/
def HandledWithin (open_ : CString → Option (List UInt8)) (typed : CString) :
    ReceiveThread → List (List UInt8) → Prop
  | _, [] => True
  | t, data :: rest =>
    (∀ a ∈ (t.receive open_ typed data).2.1, a.Within (cut data).length) ∧
      .useFileReadBuff true ∉ (t.receive open_ typed data).2.2 ∧
      HandledWithin open_ typed (t.receive open_ typed data).1 rest

/-- What a datagram says on its own. -/
def said (data : List UInt8) : Datagram :=
  if 30 ≤ (cut data).length then decode (cut data) else .wrong

/-- `n` octets are enough for what a datagram says. -/
def Datagram.FitsIn (n : ℕ) : Datagram → Prop
  | requestDoConnect _ _ => 36 ≤ n
  | requestFileName _ => 80 ≤ n
  | respondFileDesc _ => 34 ≤ n
  | respondSector len _ _ => 38 ≤ n ∧ 0 ≤ len ∧ 38 + len ≤ n
  | respondApkSector _ => 34 ≤ n
  | respondStatusReady | respondApkFileDesc | requestStatusReady | wrong => True

/-- A datagram that brings what it says it brings. -/
def Fits (data : List UInt8) : Prop := (said data).FitsIn (cut data).length

/-- What makes the next `apk fileDesc` do without a file or leaves it one: a request for a file,
another `apk fileDesc`, or the acknowledgement of a block before the first. -/
def Datagram.announces : Datagram → Bool
  | requestFileName _ | respondApkFileDesc => true
  | respondApkSector index => decide (index = -1)
  | _ => false

/-- No `apk fileDesc` comes unannounced. -/
def Announced : List Datagram → List Datagram → Prop
  | _, [] => True
  | seen, d :: rest =>
    (d = .respondApkFileDesc → ∃ e ∈ seen, e.announces = true) ∧ Announced (d :: seen) rest

/-! ## One round -/

/-- The tags are within 30 octets. -/
theorem tags_append {bytes : List UInt8} (rest : List UInt8) (h : 30 ≤ bytes.length) :
    tags (bytes ++ rest) = tags bytes := by
  unfold tags
  rw [field_append _ (by omega), field_append _ (by omega), field_append _ (by omega)]

/-- `recvfrom` overwrites the front of the buffer and leaves the rest. -/
theorem octets_recvfrom (b : Buffer) (data : List UInt8) :
    (b.recvfrom data).octets = cut data ++ b.octets.drop (cut data).length := by
  simp [Buffer.recvfrom, overwrite]

/-- What is read is within the datagram if and only if the datagram is long enough. -/
theorem accesses_within_iff {bytes : List UInt8} (rest : List UInt8) (h : 30 ≤ bytes.length) :
    (∀ a ∈ (decode (bytes ++ rest)).accesses, a.Within bytes.length) ↔
      (decode bytes).FitsIn bytes.length := by
  unfold decode
  rw [tags_append rest h]
  split_ifs <;> simp only [Datagram.accesses, Datagram.FitsIn, Access.Within, List.mem_cons,
    List.not_mem_nil, or_false, forall_eq_or_imp, forall_eq, IsEmpty.forall_iff, implies_true]
  case pos => omega
  case pos => omega
  case pos => omega
  case pos =>
    -- The length is read from the datagram if it is long enough to have one.
    by_cases h38 : 38 ≤ bytes.length
    · rw [field_append rest (by omega)]
      omega
    · omega
  case pos => omega

/-- What a datagram says does not depend on the rest of the buffer if it is long enough. -/
theorem decode_append {bytes : List UInt8} (rest : List UInt8) (h : 30 ≤ bytes.length)
    (hfits : (decode bytes).FitsIn bytes.length) : decode (bytes ++ rest) = decode bytes := by
  revert hfits
  unfold decode
  rw [tags_append rest h]
  split_ifs <;> simp only [Datagram.FitsIn] <;> intro hfits
  case pos => rw [field_append rest (by omega), field_append rest (by omega)]
  case pos => trivial
  case pos => rw [field_append rest (by omega)]
  case pos => rw [field_append rest (by omega)]
  case pos => trivial
  case pos =>
    rw [field_append rest (by omega), field_append rest (by omega), field_append rest (by omega)]
  case pos => rw [field_append rest (by omega)]
  case pos => trivial
  case neg => trivial

section Round

variable (open_ : CString → Option (List UInt8)) (typed : CString)

/-- What is read in a round is within the datagram if and only if the datagram is long enough. -/
theorem receive_within_iff (t : ReceiveThread) (data : List UInt8) :
    (∀ a ∈ (t.receive open_ typed data).2.1, a.Within (cut data).length) ↔ Fits data := by
  unfold ReceiveThread.receive Fits said
  by_cases h : 30 ≤ (cut data).length
  · have hpos : (cut data).length > 0 := by omega
    rw [if_pos h]
    simp only [if_pos hpos, ge_iff_le, if_pos h, octets_recvfrom, List.forall_mem_append,
      accesses_within_iff _ h]
    refine and_iff_right ?_
    simp only [Access.Within, List.forall_mem_cons, List.not_mem_nil, IsEmpty.forall_iff,
      implies_true, and_true, Nat.cast_zero, Nat.cast_ofNat]
    omega
  · rw [if_neg h]
    simp only [ge_iff_le, if_neg h, ite_self, List.not_mem_nil, IsEmpty.forall_iff, implies_true,
      Datagram.FitsIn]

/-- A datagram that is long enough is handled as what it says. -/
theorem receive_eq (t : ReceiveThread) {data : List UInt8} (hfits : Fits data) :
    (t.receive open_ typed data).1.peer =
        (t.peer.receiveThreadFunction open_ typed (said data)).1 ∧
      (t.receive open_ typed data).2.2 =
        (t.peer.receiveThreadFunction open_ typed (said data)).2 := by
  unfold Fits said at hfits
  unfold ReceiveThread.receive said
  by_cases h : 30 ≤ (cut data).length
  · have hpos : (cut data).length > 0 := by omega
    rw [if_pos h] at hfits
    simp only [if_pos hpos, ge_iff_le, if_pos h, octets_recvfrom, decode_append _ h hfits, and_self]
  · simp only [ge_iff_le, if_neg h, ite_self]
    exact ⟨rfl, rfl⟩

/-- A file is there from the first request for one. -/
theorem fileReadBuff_eq_none_iff (p : Peer) (d : Datagram) :
    (p.receiveThreadFunction open_ typed d).1.fileReadBuff = none ↔
      p.fileReadBuff = none ∧ ∀ name, d ≠ .requestFileName name := by
  cases d with
  | requestFileName name =>
    simp only [Peer.receiveThreadFunction, Peer.receiveFileName, Peer.loadFile]
    split_ifs with hnone
    · simp
    · simpa using hnone
  | respondApkFileDesc =>
    simp only [Peer.receiveThreadFunction, Peer.receiveApkFileDesc]
    split_ifs <;> simp
  | respondApkSector index =>
    simp only [Peer.receiveThreadFunction]
    split_ifs <;> simp
  | respondStatusReady =>
    simp only [Peer.receiveThreadFunction]
    split_ifs <;> simp
  | _ => simp [Peer.receiveThreadFunction, Peer.receiveSector]

/-- A round starts the position at zero with the description of a file, and moves it by one with the
block that it is at. -/
theorem currentfileBlockPosition_receive (p : Peer) (d : Datagram) :
    (p.receiveThreadFunction open_ typed d).1.currentfileBlockPosition =
      if d = .respondApkFileDesc ∧ p.currentfileBlockPosition = -1 then 0
      else if d = .respondApkSector p.currentfileBlockPosition then p.currentfileBlockPosition + 1
      else p.currentfileBlockPosition := by
  cases d with
  | requestFileName name =>
    simp only [Peer.receiveThreadFunction, Peer.receiveFileName, Peer.loadFile,
      reduceCtorEq, false_and, if_false]
    split_ifs <;> rfl
  | respondApkFileDesc =>
    simp only [Peer.receiveThreadFunction, Peer.receiveApkFileDesc]
    split_ifs <;> simp_all
  | respondApkSector index =>
    simp only [Peer.receiveThreadFunction, Datagram.respondApkSector.injEq]
    split_ifs <;> simp_all
  | respondStatusReady =>
    simp only [Peer.receiveThreadFunction, reduceCtorEq, false_and, if_false]
    split_ifs <;> rfl
  | _ => simp [Peer.receiveThreadFunction, Peer.receiveSector]

/-- A call goes through `NULL` when the number of blocks is acknowledged for the first time and
there is no file. -/
theorem useFileReadBuff_receive (p : Peer) (d : Datagram) :
    .useFileReadBuff true ∈ (p.receiveThreadFunction open_ typed d).2 ↔
      d = .respondApkFileDesc ∧ p.currentfileBlockPosition = -1 ∧ p.fileReadBuff = none := by
  cases d with
  | requestFileName name =>
    simp only [Peer.receiveThreadFunction, Peer.receiveFileName]
    split_ifs <;> simp
  | respondApkFileDesc =>
    simp only [Peer.receiveThreadFunction, Peer.receiveApkFileDesc]
    split_ifs <;> simp_all
  | respondApkSector index =>
    simp only [Peer.receiveThreadFunction]
    split_ifs <;> simp
  | respondStatusReady =>
    simp only [Peer.receiveThreadFunction]
    split_ifs <;> simp [Peer.sendRequestFileInfo]
  | respondSector len index data =>
    simp only [Peer.receiveThreadFunction, Peer.receiveSector]
    split_ifs <;> simp
  | _ => simp [Peer.receiveThreadFunction]

/-- What a client has seen that tells whether it has a file and has started to send it. -/
structure Seen (seen : List Datagram) (p : Peer) : Prop where
  fileReadBuff_iff : p.fileReadBuff = none ↔ ∀ name, .requestFileName name ∉ seen
  position_le : -1 ≤ p.currentfileBlockPosition
  position_iff : p.currentfileBlockPosition = -1 ↔
    .respondApkFileDesc ∉ seen ∧ .respondApkSector (-1) ∉ seen

/-- A client that has seen nothing has no file and has not started. -/
theorem seen_nil : Seen [] .initial where
  fileReadBuff_iff := by simp [Peer.initial]
  position_le := by simp [Peer.initial]
  position_iff := by simp [Peer.initial]

/-- What a client has seen tells the same of it after a round with one more datagram. -/
theorem Seen.cons {seen : List Datagram} {p : Peer} (h : Seen seen p) (d : Datagram) :
    Seen (d :: seen) (p.receiveThreadFunction open_ typed d).1 := by
  obtain ⟨hbuff, hle, hpos⟩ := h
  refine ⟨?_, ?_, ?_⟩
  · rw [fileReadBuff_eq_none_iff, hbuff]
    simp only [List.mem_cons, not_or, forall_and, ne_comm, ne_eq]
    exact and_comm
  · rw [currentfileBlockPosition_receive]
    split_ifs <;> omega
  · rw [currentfileBlockPosition_receive]
    simp only [List.mem_cons, not_or]
    -- A position that is left is not taken again.
    split_ifs with hdesc hsector
    · simp [hdesc.1]
    · constructor
      · intro hpos'
        omega
      · rintro ⟨⟨-, hdesc'⟩, hsector', hmem⟩
        exact (hsector' (by rw [hsector, hpos.mpr ⟨hdesc', hmem⟩])).elim
    · constructor
      · intro hpos'
        rw [hpos'] at hsector
        exact ⟨⟨fun hd => hdesc ⟨hd.symm, hpos'⟩, (hpos.mp hpos').1⟩,
          fun hd => hsector hd.symm, (hpos.mp hpos').2⟩
      · rintro ⟨⟨-, hdesc'⟩, -, hmem⟩
        exact hpos.mpr ⟨hdesc', hmem⟩

/-- A datagram is announced if and only if the client can handle it. -/
theorem Seen.announced_iff {seen : List Datagram} {p : Peer} (h : Seen seen p) :
    (∃ e ∈ seen, e.announces = true) ↔
      ¬ (p.currentfileBlockPosition = -1 ∧ p.fileReadBuff = none) := by
  rw [h.position_iff, h.fileReadBuff_iff]
  constructor
  · rintro ⟨e, he, hannounces⟩ ⟨⟨hdesc, hsector⟩, hname⟩
    cases e with
    | requestFileName name => exact hname name he
    | respondApkFileDesc => exact hdesc he
    | respondApkSector index =>
      obtain rfl : index = -1 := by simpa [Datagram.announces] using hannounces
      exact hsector he
    | _ => cases hannounces
  · intro hnot
    by_contra hnone
    refine hnot ⟨⟨fun he => hnone ⟨_, he, rfl⟩, fun he => hnone ⟨_, he, rfl⟩⟩, fun name he => ?_⟩
    exact hnone ⟨_, he, rfl⟩

end Round

/-! ## Datagrams that are sent and received -/

/-- The number of octets of a datagram as it is sent. -/
theorem length_encode (junk : List UInt8) (d : Datagram) : (encode junk d).length =
    match d with
    | .requestDoConnect s_addr _ => 32 + s_addr.length
    | .requestFileName fileName => 30 + fileName.length
    | .respondFileDesc _ | .respondApkSector _ => 34
    | .respondSector _ _ data => 38 + data.length
    | .respondStatusReady | .respondApkFileDesc | .requestStatusReady => 30
    | .wrong => 0 := by
  cases d <;> simp [encode] <;> omega

/-- A datagram that is sent is received as a whole. -/
theorem cut_encode (junk : List UInt8) {d : Datagram} (h : d.Sendable) :
    cut (encode junk d) = encode junk d ∧ 30 ≤ (encode junk d).length := by
  have hlen := length_encode junk d
  have hbound : 30 ≤ (encode junk d).length ∧ (encode junk d).length ≤ 8192 := by
    rw [hlen]
    cases d with
    | wrong => exact h.elim
    | respondSector len index data =>
      have := h.2.1
      simp only [blockMaxLength] at this
      simp only
      omega
    | requestDoConnect s_addr port =>
      have : s_addr.length = 4 := h
      simp only
      omega
    | requestFileName fileName =>
      have : fileName.length = 50 := h
      simp only
      omega
    | _ => simp
  exact ⟨List.take_of_length_le hbound.2, hbound.1⟩

/-- A field behind the header and some more octets is found there. -/
theorem field_header (junk : List UInt8) (head1 head2 head3 : CString)
    (before bytes after : List UInt8)
    (offset n : ℕ) (hoffset : offset = 30 + before.length) (hn : n = bytes.length) :
    field (header junk head1 head2 head3 ++ (before ++ (bytes ++ after))) offset n = bytes := by
  subst hoffset hn
  rw [field_append_right _ _ (by rw [length_header]), field_append_right (k := 0) _ _ (by omega),
    field_append _ (by omega), field_self (Nat.le_refl _)]

/-- What a datagram says is read back from the datagram as it is sent. -/
theorem said_encode (junk : List UInt8) {d : Datagram} (h : d.Sendable) :
    said (encode junk d) = d := by
  obtain ⟨hcut, hlen⟩ := cut_encode junk h
  unfold said
  rw [hcut, if_pos hlen]
  -- The tags are read back whatever follows them, and with nothing behind them as well.
  have htags : ∀ body {head1 head2 head3 : CString}, head1.strlen ≤ 9 → head2.strlen ≤ 9 →
      head3.strlen ≤ 9 → tags (header junk head1 head2 head3 ++ body) = (head1, head2, head3) :=
    fun body _ _ _ => tags_header junk body
  have hbare : ∀ {head1 head2 head3 : CString}, head1.strlen ≤ 9 → head2.strlen ≤ 9 →
      head3.strlen ≤ 9 → tags (header junk head1 head2 head3) = (head1, head2, head3) := by
    intro head1 head2 head3 h1 h2 h3
    have := htags [] h1 h2 h3
    rwa [List.append_nil] at this
  cases d with
  | wrong => exact h.elim
  | respondStatusReady =>
    unfold decode encode
    rw [hbare (by decide) (by decide) (by decide)]
    rfl
  | respondApkFileDesc =>
    unfold decode encode
    rw [hbare (by decide) (by decide) (by decide)]
    rfl
  | requestStatusReady =>
    unfold decode encode
    rw [hbare (by decide) (by decide) (by decide)]
    rfl
  | requestDoConnect s_addr port =>
    have haddr : s_addr.length = 4 := h
    have hfirst := field_header junk Tag.request Tag.data Tag.doConnect [] s_addr
      (toLE 2 port.toNat) 30 4 rfl haddr.symm
    have hsecond := field_header junk Tag.request Tag.data Tag.doConnect s_addr
      (toLE 2 port.toNat) [] 34 2 (by omega) (by simp)
    rw [List.nil_append] at hfirst
    rw [List.append_nil] at hsecond
    unfold decode encode
    rw [htags _ (by decide) (by decide) (by decide), if_pos rfl, hfirst, hsecond, ofLE_toLE]
    simp
  | requestFileName fileName =>
    have hfield :=
      field_header junk Tag.request Tag.data Tag.fileName [] fileName [] 30 50 rfl h.symm
    rw [List.nil_append, List.append_nil] at hfield
    unfold decode encode
    rw [htags _ (by decide) (by decide) (by decide)]
    exact congrArg Datagram.requestFileName hfield
  | respondFileDesc size =>
    have hfield := field_header junk Tag.respond Tag.data Tag.fileDesc [] (toInt32 size) [] 30 4 rfl
      (by simp)
    rw [List.nil_append, List.append_nil] at hfield
    unfold decode encode
    rw [htags _ (by decide) (by decide) (by decide)]
    exact congrArg Datagram.respondFileDesc ((congrArg ofInt32 hfield).trans (ofInt32_toInt32 h))
  | respondSector len index data =>
    obtain ⟨hlendata, hmax, hindex⟩ := h
    have hint : IsInt len := by
      simp only [blockMaxLength] at hmax
      constructor <;> omega
    have hfirst := field_header junk Tag.respond Tag.data Tag.sector [] (toInt32 len)
      (toInt32 index ++ data) 30 4 rfl (by simp)
    have hsecond := field_header junk Tag.respond Tag.data Tag.sector (toInt32 len) (toInt32 index)
      data 34 4 (by simp) (by simp)
    have hthird := field_header junk Tag.respond Tag.data Tag.sector
      (toInt32 len ++ toInt32 index) data [] 38 len.toNat (by simp) (by omega)
    rw [List.nil_append] at hfirst
    rw [List.append_nil, List.append_assoc] at hthird
    -- The third field is as long as the first one says.
    unfold decode encode
    rw [htags _ (by decide) (by decide) (by decide)]
    show Datagram.respondSector (ofInt32 _) (ofInt32 _) (field _ 38 (ofInt32 _).toNat) = _
    rw [hfirst, hsecond, ofInt32_toInt32 hint, ofInt32_toInt32 hindex, hthird]
  | respondApkSector index =>
    have hfield := field_header junk Tag.respond Tag.apk Tag.sector [] (toInt32 index) [] 30 4 rfl
      (by simp)
    rw [List.nil_append, List.append_nil] at hfield
    unfold decode encode
    rw [htags _ (by decide) (by decide) (by decide)]
    exact congrArg Datagram.respondApkSector ((congrArg ofInt32 hfield).trans (ofInt32_toInt32 h))

/-- A datagram as it is sent is long enough for what it says. -/
theorem fits_encode (junk : List UInt8) {d : Datagram} (h : d.Sendable) : Fits (encode junk d) := by
  have hlen := length_encode junk d
  unfold Fits
  rw [said_encode junk h, (cut_encode junk h).1, hlen]
  cases d with
  | wrong => exact h.elim
  | respondSector len index data =>
    obtain ⟨rfl, -, -⟩ := h
    simp only [Datagram.FitsIn]
    omega
  | requestDoConnect s_addr port =>
    have : s_addr.length = 4 := h
    simp only [Datagram.FitsIn]
    omega
  | requestFileName fileName =>
    have : fileName.length = 50 := h
    simp only [Datagram.FitsIn]
    omega
  | _ => simp [Datagram.FitsIn]

/-- A client that receives a datagram as it is sent does what it does with what the datagram
says. -/
theorem receive_encode (open_ : CString → Option (List UInt8)) (typed : CString) (t : ReceiveThread)
    (junk : List UInt8) {d : Datagram} (h : d.Sendable) :
    (t.receive open_ typed (encode junk d)).1.peer =
      (t.peer.receiveThreadFunction open_ typed d).1 ∧ (t.receive open_ typed (encode junk d)).2.2 =
        (t.peer.receiveThreadFunction open_ typed d).2 := by
  have heq := receive_eq open_ typed t (fits_encode junk h)
  rwa [said_encode junk h] at heq

/-! ## Main result -/

/-- All rounds from a client that has seen something. -/
theorem handledWithin_iff_of_seen (open_ : CString → Option (List UInt8)) (typed : CString)
    {seen : List Datagram} {t : ReceiveThread} (h : Seen seen t.peer)
    (datagrams : List (List UInt8)) :
    HandledWithin open_ typed t datagrams ↔
      (∀ data ∈ datagrams, Fits data) ∧ Announced seen (datagrams.map said) := by
  induction datagrams generalizing t seen with
  | nil => simp [HandledWithin, Announced]
  | cons data rest ih =>
    rw [HandledWithin, receive_within_iff, List.forall_mem_cons, List.map_cons,
      Announced, and_assoc]
    refine and_congr_right fun hfits => ?_
    obtain ⟨hpeer, hevents⟩ := receive_eq open_ typed t hfits
    have hseen : Seen (said data :: seen) (t.receive open_ typed data).1.peer := by
      rw [hpeer]
      exact h.cons open_ typed (said data)
    rw [ih hseen, hevents, useFileReadBuff_receive, h.announced_iff]
    tauto

/-- Over all sequences of datagrams: every datagram is handled within what was received of it, and
no call goes through a `fileReadBuff` that is `NULL`, if and only if every datagram is long enough
for what it says, and no `apk fileDesc` comes unannounced. -/
theorem handledWithin_iff (open_ : CString → Option (List UInt8)) (typed : CString) (buff : Buffer)
    (datagrams : List (List UInt8)) :
    HandledWithin open_ typed ⟨buff, .initial⟩ datagrams ↔
      (∀ data ∈ datagrams, Fits data) ∧ Announced [] (datagrams.map said) :=
  handledWithin_iff_of_seen open_ typed seen_nil datagrams

/-- Thirty octets with the tags of `request data doConnect` bring no address. -/
theorem not_handledWithin_of_short :
    ¬ HandledWithin (fun _ => none) ⟨[], by decide⟩
      ⟨⟨List.replicate 8192 0, List.length_replicate⟩, .initial⟩
      [header [] Tag.request Tag.data Tag.doConnect] := by
  rw [handledWithin_iff_of_seen _ _ seen_nil]
  rintro ⟨hfits, -⟩
  have hsaid : said (header [] Tag.request Tag.data Tag.doConnect) = .requestDoConnect [] 0 := by
    decide +kernel
  have hlen := hfits _ List.mem_cons_self
  unfold Fits at hlen
  rw [hsaid] at hlen
  change 36 ≤ (cut (header [] Tag.request Tag.data Tag.doConnect)).length at hlen
  exact absurd hlen (by decide +kernel)

end Transfer

end Stun
