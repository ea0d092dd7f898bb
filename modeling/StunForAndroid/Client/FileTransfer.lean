import StunForAndroid.Common.CTypes
import Mathlib.Data.List.Basic
import Mathlib.Tactic.Linarith

/-!
# The file transfer between two clients

After the behavior tests a client goes on on the same socket: it asks another client for a file, or
gives it one. `receiveThreadFunction` is one round of the loop that answers datagrams, from what the
three tags of a datagram told. The send thread of a client that gives a file reads the position of
the receive thread (`readPosition`) and sends the block at the position it has read
(`sendSectorData`), until the position is behind the last block; between the two the receive thread
may run.

The `int`s of the threads are integers without a bound here. This is meant for files of fewer than
2^31 blocks of 4096 octets: the numbers of their blocks, and the positions that count these, are
`int`s. A round gives the events that can be seen from outside in the order of the code: what is
sent, what is done with the file objects, and the report that the file is complete. The output file
is taken to open always, and to take all that is written, as the code does not look at the results.
What is printed besides the report is left out.
-/

namespace Stun

namespace Transfer

/-! ## Files in memory -/

/-- The largest size of a block. -/
def blockMaxLength : ℕ := 4096

/-- A block of a file, `FileBlock`: its octets and its number. -/
structure FileBlock where
  mBuffer : List UInt8
  mIndex : ℤ
deriving DecidableEq

/-- `FileBlock::getDataSize`. -/
def FileBlock.getDataSize (b : FileBlock) : ℤ := b.mBuffer.length

/-- The loop of `SharedFileBuffer::loadFileToBuffer` on what is left of the file. A read that gives
something takes octets from the file, so the number of rounds is bounded by its size. -/
def loadBlocks : ℕ → List UInt8 → ℤ → List FileBlock
  | 0, _, _ => []
  | rounds + 1, rest, index =>
    let localBuffer := rest.take blockMaxLength
    if localBuffer.length > 0 then
      ⟨localBuffer, index⟩ :: loadBlocks rounds (rest.drop blockMaxLength) (index + 1)
    else []

/-- The block at place `i` has the number `i` more than the first. -/
theorem mIndex_loadBlocks {rounds : ℕ} {rest : List UInt8} {index : ℤ} {i : ℕ} {b : FileBlock}
    (h : (loadBlocks rounds rest index)[i]? = some b) : b.mIndex = index + i := by
  induction rounds generalizing rest index i with
  | zero => simp [loadBlocks] at h
  | succ rounds ih =>
    rw [loadBlocks] at h
    split_ifs at h with hlen
    · cases i with
      | zero =>
        obtain rfl := Option.some.inj h
        simp
      | succ i =>
        have hi := ih (by simpa using h)
        push_cast
        linarith
    · simp at h

/-- The blocks are the file. -/
theorem flatMap_loadBlocks {rounds : ℕ} {rest : List UInt8} {index : ℤ}
    (h : rest.length ≤ rounds) :
    (loadBlocks rounds rest index).flatMap FileBlock.mBuffer = rest := by
  induction rounds generalizing rest index with
  | zero =>
    obtain rfl := List.eq_nil_of_length_eq_zero (Nat.le_zero.mp h)
    rfl
  | succ rounds ih =>
    rw [loadBlocks]
    split_ifs with hlen
    · have hdrop : (rest.drop blockMaxLength).length ≤ rounds := by
        simp only [List.length_take, blockMaxLength] at hlen
        simp only [List.length_drop, blockMaxLength]
        omega
      rw [List.flatMap_cons, ih hdrop]
      exact List.take_append_drop _ _
    · have hnil : rest = [] := by
        apply List.eq_nil_of_length_eq_zero
        simp only [List.length_take, blockMaxLength] at hlen
        omega
      rw [hnil]
      rfl

/-- A file in blocks, `SharedFileBuffer`: the block at a place has the number of the place. -/
structure SharedFileBuffer where
  mFileBlockList : List FileBlock
  numbered : ∀ (i : ℕ) (b : FileBlock), mFileBlockList[i]? = some b → b.mIndex = i

namespace SharedFileBuffer

/-- An object that is made to write a file has no blocks. -/
def forWriting : SharedFileBuffer where
  mFileBlockList := []
  numbered := by simp

/-- `loadFileToBuffer` on an object that is made to read a file, from what the file is, if it
opens. -/
def loadFileToBuffer : Option (List UInt8) → SharedFileBuffer
  | none => forWriting
  | some content =>
    { mFileBlockList := loadBlocks content.length content 0
      numbered := fun i b h => by simpa using mIndex_loadBlocks h }

/-- `getBlockSize`, the number of blocks. -/
def getBlockSize (f : SharedFileBuffer) : ℤ := f.mFileBlockList.length

/-- `getAt`. -/
def getAt (f : SharedFileBuffer) (i : ℤ) : Option FileBlock :=
  if 0 ≤ i then f.mFileBlockList[i.toNat]? else none

/-- The octets of the blocks. -/
def blocks (f : SharedFileBuffer) : List (List UInt8) := f.mFileBlockList.map FileBlock.mBuffer

/-- A file has as many blocks as `getBlockSize` says. -/
theorem length_blocks (f : SharedFileBuffer) : (f.blocks.length : ℤ) = f.getBlockSize := by
  simp [blocks, getBlockSize]

/-- The block at a position is the one of its number. -/
theorem getAt_eq {f : SharedFileBuffer} {i : ℕ} {b : FileBlock} (h : f.getAt i = some b) :
    b.mIndex = i ∧ f.blocks[i]? = some b.mBuffer := by
  have hget : f.mFileBlockList[i]? = some b := by simpa [getAt] using h
  exact ⟨f.numbered i b hget, by simp [blocks, hget]⟩

/-- The blocks of a file that opens are the file, one after the other. -/
theorem flatten_blocks (content : List UInt8) :
    (loadFileToBuffer (some content)).blocks.flatten = content := by
  show ((loadBlocks content.length content 0).map FileBlock.mBuffer).flatten = content
  rw [← List.flatMap_def]
  exact flatMap_loadBlocks (Nat.le_refl _)

end SharedFileBuffer

/-! ## Datagrams -/

/-- What a datagram of at least 30 octets says, by its three tags. -/
inductive Datagram
  /-- `request data doConnect`, with the address to answer. -/
  | requestDoConnect (s_addr : List UInt8) (port : UInt16)
  /-- `respond status ready`. -/
  | respondStatusReady
  /-- `request data fileName`. -/
  | requestFileName (fileName : List UInt8)
  /-- `respond data fileDesc`, with the number of blocks. -/
  | respondFileDesc (size : ℤ)
  /-- `respond apk fileDesc`. -/
  | respondApkFileDesc
  /-- `respond data sector`, a block. -/
  | respondSector (len index : ℤ) (data : List UInt8)
  /-- `respond apk sector`. -/
  | respondApkSector (index : ℤ)
  /-- `request status ready`. -/
  | requestStatusReady
  /-- Any other tags. -/
  | wrong
deriving DecidableEq

/-- Where a datagram is sent: to where the one that is answered came from, or to the address that it
names. -/
inductive Recipient
  | remoteaddr
  | requestaddr (s_addr : List UInt8) (sin_port : UInt16)
deriving DecidableEq

/-- What is seen of a client. -/
inductive Event
  /-- A datagram is sent. -/
  | sendto (recipient : Recipient) (d : Datagram)
  /-- A call on `fileReadBuff`, and whether it is `NULL`. -/
  | useFileReadBuff (isNull : Bool)
  /-- `fileWriteBuff` is made for the file of a name, if there was a name. -/
  | newFileWriteBuff (localFileName : Option CString)
  /-- `fileWriteBuff->writeData`. -/
  | writeData (data : List UInt8)
  /-- The report `receive complete!`. -/
  | receiveComplete
  /-- `delete fileWriteBuff`. -/
  | deleteFileWriteBuff
deriving DecidableEq

/-! ## The threads of a client -/

/-- Where the send thread is. -/
inductive SendThread
  | notStarted
  /-- At the head of its loop. -/
  | atHead
  /-- The position is read and before the end of the file. -/
  | sending (position : ℤ)
  /-- Out of its loop. -/
  | ended
deriving DecidableEq

/-- What the receive thread keeps from datagram to datagram, and its send thread. The first `apk
fileDesc` starts the send thread and no other does, so there is one. -/
structure Peer where
  fileReadBuff : Option SharedFileBuffer
  /-- The pointer, which is kept when the object is deleted. -/
  fileWriteBuff : Option SharedFileBuffer
  fileBlockSize : ℤ
  currentfileBlockPosition : ℤ
  currentWritefileBlockPosition : ℤ
  /-- The name that was typed in, if one was. -/
  localFileName : Option CString
  mConnection : Bool
  sendThread : SendThread

namespace Peer

/-- Before the first datagram. -/
def initial : Peer where
  fileReadBuff := none
  fileWriteBuff := none
  fileBlockSize := 0
  currentfileBlockPosition := -1
  currentWritefileBlockPosition := 0
  localFileName := none
  mConnection := false
  sendThread := .notStarted

/-- `sendRequestFileInfo` with the name that is typed in, which is sent in an array of 50 octets. -/
def sendRequestFileInfo (fileName : CString) : Event :=
  .sendto .remoteaddr (.requestFileName (fixedArray 50 fileName.chars))

/-- `getBlockSize` of `fileReadBuff`; there is none behind `NULL`. -/
def readBlockSize (p : Peer) : ℤ := (p.fileReadBuff.map SharedFileBuffer.getBlockSize).getD 0

/-- `fileReadBuff` made for a file and loaded, if there is none yet. -/
def loadFile (open_ : CString → Option (List UInt8)) (p : Peer) (fileName : List UInt8) : Peer :=
  if p.fileReadBuff.isNone then
    { p with fileReadBuff := some (.loadFileToBuffer (open_ (.ofArray fileName))) }
  else p

/-- The branch of `request data fileName`. -/
def receiveFileName (open_ : CString → Option (List UInt8)) (p : Peer) (fileName : List UInt8) :
    Peer × List Event :=
  let p' := p.loadFile open_ fileName
  let loaded : List Event := if p.fileReadBuff.isNone then [.useFileReadBuff false] else []
  let desc : List Event :=
    if p'.fileReadBuff.isSome then
      if p'.readBlockSize > 0 then
        [.useFileReadBuff false, .useFileReadBuff false,
          .sendto .remoteaddr (.respondFileDesc p'.readBlockSize)]
      else [.useFileReadBuff false]
    else []
  (p', loaded ++ desc)

/-- The branch of `respond apk fileDesc`. The block size is asked for on the first one only, and
again unless it is zero. -/
def receiveApkFileDesc (p : Peer) : Peer × List Event :=
  if p.currentfileBlockPosition = -1 then
    let p' := { p with currentfileBlockPosition := 0 }
    let use := Event.useFileReadBuff p'.fileReadBuff.isNone
    if p'.readBlockSize > 0 then
      if p'.currentfileBlockPosition < p'.readBlockSize then
        ({ p' with sendThread := .atHead }, [use, use])
      else (p', [use, use])
    else (p', [use])
  else (p, [])

/-- The branch of `respond data sector`. -/
def receiveSector (p : Peer) (len index : ℤ) (data : List UInt8) : Peer × List Event :=
  let created : List Event :=
    if p.fileWriteBuff.isNone then [.newFileWriteBuff p.localFileName] else []
  let written : List Event :=
    if p.currentWritefileBlockPosition = index then [.writeData (data.take len.toNat)] else []
  let complete : List Event :=
    if index = p.fileBlockSize - 1 then [.receiveComplete, .deleteFileWriteBuff] else []
  ({ p with
      fileWriteBuff := some (p.fileWriteBuff.getD .forWriting)
      currentWritefileBlockPosition :=
        if p.currentWritefileBlockPosition = index then p.currentWritefileBlockPosition + 1
        else p.currentWritefileBlockPosition },
    created ++ written ++ [.sendto .remoteaddr (.respondApkSector index)] ++ complete)

/-- A round of `receiveThreadFunction` with a datagram of at least 30 octets. `open_` is what the
files are that can be shared, and `typed` is what the user types in when asked for a file name. -/
def receiveThreadFunction (open_ : CString → Option (List UInt8)) (typed : CString) (p : Peer) :
    Datagram → Peer × List Event
  | .requestDoConnect s_addr port =>
    (p, [.sendto (.requestaddr s_addr (htons port)) .respondStatusReady])
  | .respondStatusReady =>
    if p.mConnection = false then
      ({ p with mConnection := true, localFileName := some typed }, [sendRequestFileInfo typed])
    else (p, [])
  | .requestFileName fileName => p.receiveFileName open_ fileName
  | .respondFileDesc size =>
    ({ p with fileBlockSize := size }, [.sendto .remoteaddr .respondApkFileDesc])
  | .respondApkFileDesc => p.receiveApkFileDesc
  | .respondSector len index data => p.receiveSector len index data
  | .respondApkSector index =>
    if p.currentfileBlockPosition = index then
      ({ p with currentfileBlockPosition := p.currentfileBlockPosition + 1 }, [])
    else (p, [])
  | .requestStatusReady => (p, [.sendto .remoteaddr .respondStatusReady])
  | .wrong => (p, [])

/-- The head of the loop of `sendThreadFunction`. -/
def readPosition (p : Peer) : Peer :=
  match p.sendThread with
  | .atHead =>
    if p.currentfileBlockPosition < p.readBlockSize then
      { p with sendThread := .sending p.currentfileBlockPosition }
    else { p with sendThread := .ended }
  | _ => p

/-- `sendSectorData` at the position that was read, and back to the head of the loop. -/
def sendSectorData (p : Peer) : Peer × List Event :=
  match p.sendThread with
  | .sending position =>
    ({ p with sendThread := .atHead },
      match p.fileReadBuff.bind (·.getAt position) with
      | some b => [.sendto .remoteaddr (.respondSector b.getDataSize b.mIndex b.mBuffer)]
      | none => [])
  | _ => (p, [])

end Peer

end Transfer

end Stun
