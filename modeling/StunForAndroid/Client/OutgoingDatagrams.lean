import StunForAndroid.Lib.Cells
import StunForAndroid.Client.PeerList

/-!
# The datagrams to other clients

The functions of `src/client/clientmain.cpp` that put a datagram for another client together, with
the arrays that they do it in. `strcpy` of a tag writes an array of 10 characters as far as the end
of the tag, and what is sent is all of the array: what has been in memory before is sent with it.
`sendReadyToP2pServerRequest` declares its arrays with the tags, which fills them, and the answers
of `receiveThreadFunction` have theirs filled from the datagram that is answered.
`sendToServerToDoConnectRequest` sends 30 octets of an array of 10. `clean_iff` says so of all the
datagrams of a run.

The functions are the same whatever the octets of memory are, and `octet` gives the octets that they
write. What is behind the end of an array counts as its memory too. The other clients read of each
datagram what it is to say, whatever has been in memory (`Outgoing.said_sent`).
-/

namespace Stun

open Octets Cells

namespace Transfer

/-- `REQUEST_SERVER_TODO_CONNECT_P2P` -/
def REQUEST_SERVER_TODO_CONNECT_P2P : ℤ := 3

/-- The arrays of the functions. -/
inductive Local
  | head1
  | head2
  | head3
  | fileName
  | buff
  | respondBuff
deriving DecidableEq

/-- A datagram that is answered. -/
structure Received where
  data : List UInt8
  long : 30 ≤ (cut data).length

/-! ## The functions -/

section Functions

variable {α : Type} (octet : UInt8 → α)

/-- The octets of a value or of an array that is filled, copied to an array. -/
def putOctets (m : Memory Local α) (x : Local) (offset : ℕ) (block : List UInt8) : Memory Local α :=
  m.store x offset (block.map octet)

/-- `strcpy`. -/
def strcpy (m : Memory Local α) (x : Local) (s : CString) : Memory Local α :=
  putOctets octet m x 0 (s.chars ++ [0])

/-- `strcpy` of three tags. -/
def strcpyHeads (m : Memory Local α) (head1 head2 head3 : CString) : Memory Local α :=
  strcpy octet (strcpy octet (strcpy octet m .head1 head1) .head2 head2) .head3 head3

/-- The declaration of an array of 10 characters with a tag. -/
def declareHead (m : Memory Local α) (x : Local) (s : CString) : Memory Local α :=
  putOctets octet m x 0 (fixedArray 10 s.chars)

/-- The three arrays of the tags, one behind the other. -/
def copyHeads (m : Memory Local α) (x : Local) : Memory Local α :=
  ((m.copy x 0 .head1 0 10).copy x 10 .head2 0 10).copy x 20 .head3 0 10

/-- `sendReadyToP2pServerRequest`. -/
def sendReadyToP2pServerRequest (m : Memory Local α) : List α :=
  let m := declareHead octet m .head1 Tag.request
  let m := declareHead octet m .head2 Tag.status
  let m := declareHead octet m .head3 Tag.ready
  (copyHeads m .buff).load .buff 0 30

/-- `sendToServerToDoConnectRequest`. -/
def sendToServerToDoConnectRequest (m : Memory Local α) (p2pAddr : CSocketAddress) : List α :=
  let m := putOctets octet m .buff 0 (toInt32 REQUEST_SERVER_TODO_CONNECT_P2P)
  let m := putOctets octet m .buff 4 (p2pAddr.ip.octets.take 4)
  let m := putOctets octet m .buff 8 (toLE 2 (ntohs p2pAddr.port_NBO).toNat)
  -- The array has 10 octets.
  m.load .buff 0 30

/-- `sendSectorData`, with the block at the position. -/
def sendSectorData (m : Memory Local α) (b : FileBlock) : List α :=
  let m := strcpyHeads octet m Tag.respond Tag.data Tag.sector
  let m := copyHeads m .respondBuff
  let m := putOctets octet m .respondBuff 30 (toInt32 b.getDataSize)
  let m := putOctets octet m .respondBuff 34 (toInt32 b.mIndex)
  let m := putOctets octet m .respondBuff 38 b.mBuffer
  m.load .respondBuff 0 (38 + b.mBuffer.length)

/-- `sendSectorApk`. -/
def sendSectorApk (m : Memory Local α) (index : ℤ) : List α :=
  let m := strcpyHeads octet m Tag.respond Tag.apk Tag.sector
  let m := copyHeads m .respondBuff
  let m := putOctets octet m .respondBuff 30 (toInt32 index)
  m.load .respondBuff 0 34

/-- `sendRequestFileInfo`, with the name that is typed in. `scanf` writes it like `strcpy`. -/
def sendRequestFileInfo (m : Memory Local α) (typed : CString) : List α :=
  let m := strcpyHeads octet m Tag.request Tag.data Tag.fileName
  let m := copyHeads m .respondBuff
  let m := putOctets octet m .fileName 0 (List.replicate 50 0)
  let m := strcpy octet m .fileName typed
  let m := m.copy .respondBuff 30 .fileName 0 50
  m.load .respondBuff 0 80

/-- `sendRespondFileInfo`. -/
def sendRespondFileInfo (m : Memory Local α) (size : ℤ) : List α :=
  let m := strcpyHeads octet m Tag.respond Tag.data Tag.fileDesc
  let m := copyHeads m .respondBuff
  let m := putOctets octet m .respondBuff 30 (toInt32 size)
  m.load .respondBuff 0 34

/-- An answer of `receiveThreadFunction`: the arrays of the tags hold those of the datagram that is
answered, and other tags are copied over them. -/
def answer (m : Memory Local α) (r : Received) (head1 head2 head3 : CString) : List α :=
  let m := putOctets octet m .buff 0 (cut r.data)
  -- The tags of the datagram, with whatever it has behind them.
  let m := m.copy .head1 0 .buff 0 10
  let m := m.copy .head2 0 .buff 10 10
  let m := m.copy .head3 0 .buff 20 10
  let m := strcpyHeads octet m head1 head2 head3
  (copyHeads m .respondBuff).load .respondBuff 0 30

/-- The answer to `request data doConnect`. -/
def answerDoConnect (m : Memory Local α) (r : Received) : List α :=
  answer octet m r Tag.respond Tag.status Tag.ready

/-- The answer to `respond data fileDesc`. -/
def answerFileDesc (m : Memory Local α) (r : Received) : List α :=
  answer octet m r Tag.respond Tag.apk Tag.fileDesc

/-- The answer to `request status ready`. -/
def answerStatusReady (m : Memory Local α) (r : Received) : List α :=
  answer octet m r Tag.respond Tag.status Tag.ready

end Functions

/-- A datagram that a client sends to another, or to the server for another. -/
inductive Outgoing
  | sendReadyToP2pServerRequest
  | sendToServerToDoConnectRequest (p2pAddr : CSocketAddress)
  | sendSectorData (b : FileBlock)
  | sendSectorApk (index : ℤ)
  | sendRequestFileInfo (typed : CString)
  | sendRespondFileInfo (size : ℤ)
  | answerDoConnect (r : Received)
  | answerFileDesc (r : Received)
  | answerStatusReady (r : Received)

namespace Outgoing

/-- The function that puts a datagram together. -/
def run {α : Type} (octet : UInt8 → α) (m : Memory Local α) : Outgoing → List α
  | sendReadyToP2pServerRequest => Transfer.sendReadyToP2pServerRequest octet m
  | sendToServerToDoConnectRequest p2pAddr =>
    Transfer.sendToServerToDoConnectRequest octet m p2pAddr
  | sendSectorData b => Transfer.sendSectorData octet m b
  | sendSectorApk index => Transfer.sendSectorApk octet m index
  | sendRequestFileInfo typed => Transfer.sendRequestFileInfo octet m typed
  | sendRespondFileInfo size => Transfer.sendRespondFileInfo octet m size
  | answerDoConnect r => Transfer.answerDoConnect octet m r
  | answerFileDesc r => Transfer.answerFileDesc octet m r
  | answerStatusReady r => Transfer.answerStatusReady octet m r

/-- The size of the array that is sent from. -/
def capacity : Outgoing → ℕ
  | sendReadyToP2pServerRequest => 30
  | sendToServerToDoConnectRequest _ => 10
  | sendSectorData _ => 38 + 4096
  | sendSectorApk _ => 34
  | sendRequestFileInfo _ => 80
  | sendRespondFileInfo _ => 34
  | answerDoConnect _ | answerFileDesc _ | answerStatusReady _ => 30

end Outgoing

/-! ## Octets that are copied -/

section Natural

variable {α β : Type} (f : α → β) (octet : UInt8 → α) (m : Memory Local α)

/-- Octets that are written are written as others. -/
theorem map_putOctets (x : Local) (offset : ℕ) (block : List UInt8) :
    (putOctets octet m x offset block).map f = putOctets (f ∘ octet) (m.map f) x offset block := by
  rw [putOctets, Memory.map_store, List.map_map, putOctets]

/-- Arrays that are copied are copied as others. -/
theorem map_copyHeads (x : Local) : (copyHeads m x).map f = copyHeads (m.map f) x := by
  rw [copyHeads, Memory.map_copy, Memory.map_copy, Memory.map_copy, copyHeads]

/-- The functions look at no octet. -/
theorem map_run (c : Outgoing) : (c.run octet m).map f = c.run (f ∘ octet) (m.map f) := by
  cases c <;>
    simp only [Outgoing.run, sendReadyToP2pServerRequest, sendToServerToDoConnectRequest,
      sendSectorData, sendSectorApk, sendRequestFileInfo, sendRespondFileInfo, answerDoConnect,
      answerFileDesc, answerStatusReady, answer, strcpyHeads, strcpy, declareHead, Memory.map_load,
      map_copyHeads, map_putOctets, Memory.map_copy]

end Natural

/-- A datagram as it is put together. -/
def Outgoing.encoder (c : Outgoing) : Encoder Local where
  run := fun octet m => c.run octet m
  natural := fun f octet m => map_run f octet m c

/-! ## What is written -/

section Written

variable {m : Memory Local (Cell Local)}

/-- What a function writes is written. -/
theorem written_octets (block : List UInt8) :
    ∀ c ∈ block.map (Cell.octet : UInt8 → Cell Local), c.Written := by
  intro c hc
  obtain ⟨b, -, rfl⟩ := List.mem_map.mp hc
  trivial

/-- Octets that are written fill their part. -/
theorem written_putOctets (m : Memory Local (Cell Local)) (x : Local) (offset : ℕ) {n : ℕ}
    {block : List UInt8} (h : block.length = n) :
    (putOctets Cell.octet m x offset block).Written x offset (offset + n) := by
  have hwritten := Memory.written_store m x offset (written_octets block)
  rwa [List.length_map, h] at hwritten

/-- Octets that are written leave what is written. -/
theorem written_putOctets_of_written {y : Local} {lo hi : ℕ} (h : m.Written y lo hi) (x : Local)
    (offset : ℕ) (block : List UInt8) : (putOctets Cell.octet m x offset block).Written y lo hi :=
  h.store x offset (written_octets block)

/-- `strcpy` of the tags leaves what is written. -/
theorem written_strcpyHeads {y : Local} {lo hi : ℕ} (h : m.Written y lo hi)
    (head1 head2 head3 : CString) :
    (strcpyHeads Cell.octet m head1 head2 head3).Written y lo hi := by
  apply written_putOctets_of_written
  apply written_putOctets_of_written
  exact written_putOctets_of_written h _ _ _

/-- The tags are written where they are copied to if their arrays are. -/
theorem written_copyHeads (h1 : m.Written .head1 0 10) (h2 : m.Written .head2 0 10)
    (h3 : m.Written .head3 0 10) (x : Local) : (copyHeads m x).Written x 0 30 := by
  have hfirst : (m.copy x 0 .head1 0 10).Written x 0 10 := h1.copy x 0
  have h2' : (m.copy x 0 .head1 0 10).Written .head2 0 10 := h2.store x 0 h1.load
  have h3' : (m.copy x 0 .head1 0 10).Written .head3 0 10 := h3.store x 0 h1.load
  have hsecond : ((m.copy x 0 .head1 0 10).copy x 10 .head2 0 10).Written x 0 20 :=
    (hfirst.store x 10 h2'.load).append (h2'.copy x 10)
  have h3'' : ((m.copy x 0 .head1 0 10).copy x 10 .head2 0 10).Written .head3 0 10 :=
    h3'.store x 10 h2'.load
  exact (hsecond.store x 20 h3''.load).append (h3''.copy x 20)

/-- The arrays of `sendReadyToP2pServerRequest` are filled. -/
theorem written_sendReadyToP2pServerRequest (m : Memory Local (Cell Local)) :
    ∀ c ∈ sendReadyToP2pServerRequest Cell.octet m, c.Written := by
  apply Memory.Written.load
  have hsize : ∀ s : CString, (fixedArray 10 s.chars).length = 10 := fun s => length_fixedArray _ _
  -- Each declaration fills its array and leaves the others.
  apply written_copyHeads
  · apply written_putOctets_of_written
    apply written_putOctets_of_written
    exact written_putOctets _ _ _ (hsize _)
  · apply written_putOctets_of_written
    exact written_putOctets _ _ _ (hsize _)
  · exact written_putOctets _ _ _ (hsize _)

/-- The arrays of an answer are filled from what is answered. -/
theorem written_answer (m : Memory Local (Cell Local)) (r : Received)
    (head1 head2 head3 : CString) :
    ∀ c ∈ answer Cell.octet m r head1 head2 head3, c.Written := by
  apply Memory.Written.load
  have hbuff : (putOctets Cell.octet m .buff 0 (cut r.data)).Written .buff 0 30 :=
    (written_putOctets m .buff 0 rfl).mono (Nat.le_refl 0) (by have := r.long; omega)
  generalize putOctets Cell.octet m .buff 0 (cut r.data) = m0 at hbuff ⊢
  -- The tags of the datagram, copied one after the other.
  have h1 : m0.Written .buff 0 (0 + 10) := hbuff.mono (by omega) (by omega)
  have h2 : (m0.copy .head1 0 .buff 0 10).Written .buff 10 (10 + 10) :=
    (hbuff.mono (by omega) (by omega)).store .head1 0 h1.load
  have h3 : ((m0.copy .head1 0 .buff 0 10).copy .head2 0 .buff 10 10).Written .buff 20 (20 + 10) :=
    ((hbuff.mono (by omega) (by omega)).store .head1 0 h1.load).store .head2 0 h2.load
  apply written_copyHeads
  · exact written_strcpyHeads (((h1.copy .head1 0).store .head2 0 h2.load).store .head3
      0 h3.load) _ _ _
  · exact written_strcpyHeads ((h2.copy .head2 0).store .head3 0 h3.load) _ _ _
  · exact written_strcpyHeads (h3.copy .head3 0) _ _ _

/-- A part of an array with an octet that is not written is not written as a whole. -/
theorem not_written_load {x : Local} {i n : ℕ} (h : ¬(m x i).Written) (hi : i < n) :
    ¬∀ c ∈ m.load x 0 n, c.Written := by
  intro hall
  have hmem : m x i ∈ m.load x 0 n :=
    List.mem_map.mpr ⟨i, List.mem_range.mpr hi, by rw [Nat.zero_add]⟩
  exact h (hall _ hmem)

/-- Behind a tag of seven letters its array is as it has been. -/
theorem strcpyHeads_eight {head1 : CString} (h : head1.strlen = 7) (head2 head3 : CString)
    (m : Memory Local (Cell Local)) :
    strcpyHeads Cell.octet m head1 head2 head3 .head1 8 = m .head1 8 := by
  have hlen : ((head1.chars ++ [0]).map (Cell.octet : UInt8 → Cell Local)).length = 8 := by
    rw [List.length_map, List.length_append]
    exact congrArg (· + 1) h
  unfold strcpyHeads strcpy putOctets
  rw [Memory.store_of_ne _ (by decide), Memory.store_of_ne _ (by decide),
    Memory.store_of_outside _ _ (.inr (by omega))]

/-- The eighth octet of the first array is copied with its tag. -/
theorem copyHeads_eight (m : Memory Local (Cell Local)) (x : Local) :
    copyHeads m x x 8 = m .head1 8 := by
  unfold copyHeads
  rw [Memory.copy, Memory.store_of_outside _ _ (.inl (show 8 < 20 by omega)), Memory.copy,
    Memory.store_of_outside _ _ (.inl (show 8 < 10 by omega))]
  exact Memory.copy_of_within m x 0 .head1 0 (show 8 < 10 by omega)

/-- Behind the tags the memory has been left. -/
theorem putOctets_eight (m : Memory Local (Cell Local)) (x : Local) {offset : ℕ} (h : 8 < offset)
    (block : List UInt8) : putOctets Cell.octet m x offset block x 8 = m x 8 :=
  Memory.store_of_outside m x (.inl h)

/-- A datagram with the tags of `strcpy` sends what has been behind the first of them. -/
theorem heads_eight {head1 : CString} (h : head1.strlen = 7) (head2 head3 : CString) :
    ¬(copyHeads (strcpyHeads Cell.octet (untouched Local) head1 head2 head3) .respondBuff
      .respondBuff 8).Written := by
  rw [copyHeads_eight, strcpyHeads_eight h]
  exact not_false

end Written

namespace Outgoing

/-- The arrays that are sent from are filled: where they are declared, or from the datagram that is
answered. -/
def Filled : Outgoing → Prop
  | sendReadyToP2pServerRequest | answerDoConnect _ | answerFileDesc _ | answerStatusReady _ => True
  | sendToServerToDoConnectRequest _ | sendSectorData _ | sendSectorApk _ | sendRequestFileInfo _
  | sendRespondFileInfo _ => False

/-- All that is sent is written if and only if the arrays are filled. -/
theorem written_iff (c : Outgoing) : (∀ cell ∈ c.encoder.cells, cell.Written) ↔ c.Filled := by
  cases c with
  | sendReadyToP2pServerRequest => exact iff_of_true (written_sendReadyToP2pServerRequest _) trivial
  | answerDoConnect r => exact iff_of_true (written_answer _ r _ _ _) trivial
  | answerFileDesc r => exact iff_of_true (written_answer _ r _ _ _) trivial
  | answerStatusReady r => exact iff_of_true (written_answer _ r _ _ _) trivial
  | sendToServerToDoConnectRequest p2pAddr =>
    -- The eleventh octet is behind the end of the array.
    refine iff_of_false (not_written_load (i := 10) ?_ (by omega)) not_false
    have hip : ((p2pAddr.ip.octets.take 4).map (Cell.octet : UInt8 → Cell Local)).length ≤ 4 := by
      rw [List.length_map]
      exact List.length_take_le _ _
    unfold putOctets
    rw [Memory.store_of_outside _ _ (by right; simp), Memory.store_of_outside _ _ (by right; omega),
      Memory.store_of_outside _ _ (by right; simp)]
    exact not_false
  | sendSectorData b =>
    refine iff_of_false (not_written_load (i := 8) ?_ (by omega)) not_false
    rw [putOctets_eight _ _ (by omega), putOctets_eight _ _ (by omega),
      putOctets_eight _ _ (by omega)]
    exact heads_eight (by decide) _ _
  | sendSectorApk index =>
    refine iff_of_false (not_written_load (i := 8) ?_ (by omega)) not_false
    rw [putOctets_eight _ _ (by omega)]
    exact heads_eight (by decide) _ _
  | sendRequestFileInfo typed =>
    refine iff_of_false (not_written_load (i := 8) ?_ (by omega)) not_false
    rw [Memory.copy, Memory.store_of_outside _ _ (.inl (by omega)), strcpy, putOctets,
      Memory.store_of_ne _ (by decide), putOctets, Memory.store_of_ne _ (by decide)]
    exact heads_eight (by decide) _ _
  | sendRespondFileInfo size =>
    refine iff_of_false (not_written_load (i := 8) ?_ (by omega)) not_false
    rw [putOctets_eight _ _ (by omega)]
    exact heads_eight (by decide) _ _

/-- The number of octets that are sent. -/
def length : Outgoing → ℕ
  | sendReadyToP2pServerRequest | sendToServerToDoConnectRequest _ => 30
  | sendSectorData b => 38 + b.mBuffer.length
  | sendSectorApk _ | sendRespondFileInfo _ => 34
  | sendRequestFileInfo _ => 80
  | answerDoConnect _ | answerFileDesc _ | answerStatusReady _ => 30

/-- A datagram has as many cells as octets. -/
theorem length_cells (c : Outgoing) : c.encoder.cells.length = c.length := by
  cases c <;> exact Memory.length_load _ _ _ _

end Outgoing

/-! ## A run -/

/-- What a client sends in a run, when the memory of each call has had some contents before. -/
def emitted (memories : ℕ → Memory Local UInt8) (calls : List Outgoing) : List (List UInt8) :=
  calls.mapIdx fun i c => c.encoder.sent (memories i)

/-- The datagrams of a run are the same whatever has been in memory before, all that is sent has
been written, and no more is sent than the arrays hold. -/
structure Clean (calls : List Outgoing) : Prop where
  independent : ∀ memories memories', emitted memories calls = emitted memories' calls
  written : ∀ c ∈ calls, ∀ cell ∈ c.encoder.cells, cell.Written
  fits : ∀ c ∈ calls, c.encoder.cells.length ≤ c.capacity

/-- The datagrams of a run are the same whatever has been in memory if and only if all that is sent
has been written. -/
theorem emitted_independent_iff (calls : List Outgoing) :
    (∀ memories memories', emitted memories calls = emitted memories' calls) ↔
      ∀ c ∈ calls, ∀ cell ∈ c.encoder.cells, cell.Written := by
  constructor
  · intro h c hc
    apply c.encoder.independent_iff.mp
    intro m m'
    obtain ⟨i, hi, rfl⟩ := List.mem_iff_getElem.mp hc
    have hget := congrArg (·[i]?) (h (fun _ => m) (fun _ => m'))
    simpa [emitted, hi] using hget
  · intro h memories memories'
    apply List.ext_getElem
    · simp [emitted]
    · intro i hi _
      have hlt : i < calls.length := by simpa [emitted] using hi
      simp only [emitted, List.getElem_mapIdx]
      exact (calls[i].encoder.independent_iff.mpr (h _ (List.getElem_mem hlt))) _ _

/-- In every run: the datagrams contain only what the client has put there if and only if all of
them come from arrays that are filled. -/
theorem clean_iff (calls : List Outgoing) : Clean calls ↔ ∀ c ∈ calls, c.Filled := by
  constructor
  · intro h c hc
    exact c.written_iff.mp (h.written c hc)
  · intro h
    have hwritten : ∀ c ∈ calls, ∀ cell ∈ c.encoder.cells, cell.Written :=
      fun c hc => c.written_iff.mpr (h c hc)
    refine ⟨(emitted_independent_iff calls).mpr hwritten, hwritten, fun c hc => ?_⟩
    have hfilled := h c hc
    rw [c.length_cells]
    cases c <;> first | exact hfilled.elim | exact Nat.le_refl _

/-- Two runs that acknowledge a block send datagrams that are not the same. -/
theorem sendSectorApk_not_clean : ¬Clean [.sendSectorApk 0] := by
  intro h
  have heq := h.independent (fun _ _ _ => 0) (fun _ _ _ => 1)
  exact absurd heq (by decide)

/-! ## What the other client reads -/

/-- What is said behind the tags of two heads is the same if the tags are. -/
theorem decode_heads {heads heads' : List UInt8} (h : heads.length = 30) (h' : heads'.length = 30)
    (htags : tags heads = tags heads') (body : List UInt8) :
    decode (heads ++ body) = decode (heads' ++ body) := by
  have hfield : ∀ offset n, 30 ≤ offset →
      field (heads ++ body) offset n = field (heads' ++ body) offset n := by
    intro offset n hle
    obtain ⟨k, rfl⟩ := Nat.exists_eq_add_of_le hle
    rw [field_append_right body n (by rw [h]), field_append_right body n (by rw [h'])]
  unfold decode
  simp only [tags_append body h.ge, tags_append body h'.ge, htags, hfield 30 _ (by omega),
    hfield 34 _ (by omega), hfield 38 _ (by omega)]

/-- A datagram of three tags in their arrays says what it says with nothing else in the arrays. -/
theorem said_heads {heads : List UInt8} {head1 head2 head3 : CString} (h : heads.length = 30)
    (htags : tags heads = tags (header [] head1 head2 head3)) (body : List UInt8) :
    said (heads ++ body) = said (header [] head1 head2 head3 ++ body) := by
  have hheader := length_header [] head1 head2 head3
  have hcut : ∀ l : List UInt8, l.length = 30 → cut (l ++ body) = l ++ body.take 8162 := by
    intro l hl
    rw [cut, List.take_append, List.take_of_length_le (by omega), hl]
  unfold said
  rw [hcut heads h, hcut _ hheader, decode_heads h hheader htags, List.length_append,
    List.length_append, h, hheader]

section Octets

variable (m : Memory Local UInt8)

/-- Octets put behind those that are read are read after them. -/
theorem load_putOctets (x : Local) (offset : ℕ) {n : ℕ} {block : List UInt8}
    (h : block.length = n) :
    (putOctets id m x offset block).load x 0 (offset + n) = m.load x 0 offset ++ block := by
  rw [putOctets, List.map_id, Memory.load_add, Memory.load_store_of_outside m x (.inl (by omega)),
    Nat.zero_add, Memory.load_store_self m x offset h]

/-- The copies of the tags are read back from another array as the three heads one after the other.
-/
theorem load_copyHeads {x : Local} (h2 : x ≠ .head2) (h3 : x ≠ .head3) :
    (copyHeads m x).load x 0 30 = m.load .head1 0 10 ++ m.load .head2 0 10 ++
      m.load .head3 0 10 := by
  have hread : ∀ (m : Memory Local UInt8) (y : Local) (offset : ℕ),
      (m.copy x offset y 0 10).load x 0 (offset + 10) = m.load x 0 offset ++ m.load y 0 10 := by
    intro m y offset
    rw [Memory.copy, Memory.load_add, Memory.load_store_of_outside m x (.inl (by omega)),
      Nat.zero_add, Memory.load_store_self m x offset (Memory.length_load _ _ _ _)]
  have hkeep : ∀ (m : Memory Local UInt8) (y z : Local) (offset : ℕ), z ≠ x →
      (m.copy x offset y 0 10).load z 0 10 = m.load z 0 10 :=
    fun m y z offset hz => Memory.load_store_of_ne m hz offset _ 0 10
  rw [copyHeads, hread _ .head3 20, hread _ .head2 10, hread _ .head1 0, hkeep _ _ _ _ h3.symm,
    hkeep _ _ _ _ h3.symm, hkeep _ _ _ _ h2.symm]
  rfl

/-- A tag that is copied to its array is there. -/
theorem ofArray_load_strcpy (x : Local) {s : CString} (h : s.strlen ≤ 9) :
    CString.ofArray ((strcpy id m x s).load x 0 10) = s := by
  obtain ⟨n, hn⟩ : ∃ n, 10 = s.chars.length + 1 + n :=
    ⟨9 - s.strlen, by unfold CString.strlen at *; omega⟩
  have hlen : (s.chars ++ [0]).length = s.chars.length + 1 := List.length_append
  rw [hn, Memory.load_add, strcpy, putOctets, List.map_id, Memory.load_store_self m x 0 hlen,
    List.append_assoc]
  exact CString.ofArray_append_zero s _

/-- An array keeps what is in it while a tag is copied to another. -/
theorem load_strcpy_of_ne {x y : Local} (h : y ≠ x) (s : CString) (offset n : ℕ) :
    (strcpy id m x s).load y offset n = m.load y offset n :=
  Memory.load_store_of_ne m h _ _ _ _

/-- Tags that are copied to their arrays are read back from the datagram. -/
theorem tags_strcpyHeads {head1 head2 head3 : CString} (h1 : head1.strlen ≤ 9)
    (h2 : head2.strlen ≤ 9)
    (h3 : head3.strlen ≤ 9) {x : Local} (hx2 : x ≠ .head2) (hx3 : x ≠ .head3) :
    tags ((copyHeads (strcpyHeads id m head1 head2 head3) x).load x 0 30) =
    (head1, head2, head3) := by
  have hlen : ∀ (m : Memory Local UInt8) (y : Local), (m.load y 0 10).length = 10 :=
    fun m y => Memory.length_load _ _ _ _
  rw [load_copyHeads _ hx2 hx3, ← List.append_nil (_ ++ _),
    tags_arrays [] (hlen _ _) (hlen _ _) (hlen _ _)]
  -- Each array is left by the copies to the others.
  unfold strcpyHeads
  rw [load_strcpy_of_ne _ (show Local.head1 ≠ .head3 by decide),
    load_strcpy_of_ne _ (show Local.head1 ≠ .head2 by decide),
    load_strcpy_of_ne _ (show Local.head2 ≠ .head3 by decide), ofArray_load_strcpy _ _ h1,
    ofArray_load_strcpy _ _ h2, ofArray_load_strcpy _ _ h3]

/-- An array declared with a tag is read back as the tag filled up to ten octets. -/
theorem load_declareHead (x : Local) (s : CString) :
    (declareHead id m x s).load x 0 10 = fixedArray 10 s.chars := by
  rw [declareHead, putOctets, List.map_id, Memory.load_store_self m x 0 (length_fixedArray _ _)]

/-- The name that is typed in is read back from its array filled up to fifty octets. -/
theorem load_fileName (typed : CString) :
    (strcpy id (putOctets id m .fileName 0 (List.replicate 50 0)) .fileName typed).load
      .fileName 0 50 = fixedArray 50 typed.chars := by
  have hstore : ∀ (m : Memory Local UInt8) (block : List UInt8) (i : ℕ),
      putOctets id m .fileName 0 block .fileName i = block[i]?.getD (m .fileName i) := by
    intro m block i
    rw [putOctets, List.map_id, Memory.store, Function.update_self, if_pos (Nat.zero_le i),
      Nat.sub_zero]
  apply List.ext_getElem
  · rw [Memory.length_load, length_fixedArray]
  · intro i hi _
    have hlt : i < 50 := by rwa [Memory.length_load] at hi
    simp only [Memory.load, List.getElem_map, List.getElem_range, Nat.zero_add, strcpy, hstore,
      fixedArray, List.getElem_take]
    rcases Nat.lt_or_ge i typed.chars.length with h | h
    · rw [List.getElem?_append_left h, List.getElem_append_left h, List.getElem?_eq_getElem h,
        Option.getD_some]
    · -- Behind the name there are zeros, its own and those from before.
      rw [List.getElem?_append_right h, List.getElem_append_right h, List.getElem_replicate]
      rcases Nat.eq_or_lt_of_le h with rfl | hgt
      · rw [Nat.sub_self]
        rfl
      · rw [List.getElem?_eq_none (by simp; omega), Option.getD_none,
          List.getElem?_eq_getElem (by simpa using hlt), List.getElem_replicate, Option.getD_some]

end Octets

/-- Tags in their arrays with octets behind them say what a datagram with these tags and octets
says. -/
theorem said_of_heads {heads body : List UInt8} {head1 head2 head3 : CString} {d : Datagram}
    (h : heads.length = 30) (htags : tags heads = (head1, head2, head3)) (h1 : head1.strlen ≤ 9)
    (h2 : head2.strlen ≤ 9) (h3 : head3.strlen ≤ 9)
    (hencode : encode [] d = header [] head1 head2 head3 ++ body) (hd : d.Sendable) :
    said (heads ++ body) = d := by
  have hheader := tags_header [] [] h1 h2 h3
  rw [List.append_nil] at hheader
  rw [said_heads h (htags.trans hheader.symm), ← hencode]
  exact said_encode [] hd

/-- Tags that are copied to their arrays, with octets behind them, say what a datagram with these
tags and octets says. -/
theorem said_strcpyHeads (m : Memory Local UInt8) (body : List UInt8) {head1 head2 head3 : CString}
    {d : Datagram} (h1 : head1.strlen ≤ 9) (h2 : head2.strlen ≤ 9) (h3 : head3.strlen ≤ 9)
    (hencode : encode [] d = header [] head1 head2 head3 ++ body) (hd : d.Sendable) :
    said ((copyHeads (strcpyHeads id m head1 head2 head3) .respondBuff).load .respondBuff
      0 30 ++ body) = d :=
  said_of_heads (Memory.length_load _ _ _ _)
    (tags_strcpyHeads m h1 h2 h3 (show Local.respondBuff ≠ .head2 by decide) (by decide))
    h1 h2 h3 hencode hd

/-- `sendReadyToP2pServerRequest` sends a request for the status that is ready. -/
theorem said_sendReadyToP2pServerRequest (m : Memory Local UInt8) :
    said (sendReadyToP2pServerRequest id m) = .requestStatusReady := by
  have hkeep : ∀ (m : Memory Local UInt8) (x y : Local) (s : CString), y ≠ x →
      (declareHead id m x s).load y 0 10 = m.load y 0 10 :=
    fun m x y s h => Memory.load_store_of_ne m h _ _ _ _
  have hsent : sendReadyToP2pServerRequest id m =
      fixedArray 10 Tag.request.chars ++ fixedArray 10 Tag.status.chars ++
        fixedArray 10 Tag.ready.chars := by
    unfold sendReadyToP2pServerRequest
    rw [load_copyHeads _ (by decide) (by decide), load_declareHead,
      hkeep _ _ _ _ (show Local.head2 ≠ .head3 by decide), load_declareHead,
      hkeep _ _ _ _ (show Local.head1 ≠ .head3 by decide),
      hkeep _ _ _ _ (show Local.head1 ≠ .head2 by decide), load_declareHead]
  rw [hsent]
  decide +kernel

/-- An answer with tags of nine characters at most says what these tags say. -/
theorem said_answer (m : Memory Local UInt8) (r : Received) {head1 head2 head3 : CString}
    {d : Datagram} (h1 : head1.strlen ≤ 9) (h2 : head2.strlen ≤ 9) (h3 : head3.strlen ≤ 9)
    (hencode : encode [] d = header [] head1 head2 head3) (hd : d.Sendable) :
    said (answer id m r head1 head2 head3) = d := by
  have hsaid := said_strcpyHeads
    ((((putOctets id m .buff 0 (cut r.data)).copy .head1 0 .buff 0 10).copy .head2
      0 .buff 10 10).copy
      .head3 0 .buff 20 10) [] h1 h2 h3 (by rw [hencode, List.append_nil]) hd
  rwa [List.append_nil] at hsaid

namespace Outgoing

/-- What a datagram is to say to another client. -/
def meaning : Outgoing → Option Datagram
  | sendReadyToP2pServerRequest => some .requestStatusReady
  | sendToServerToDoConnectRequest _ => none
  | sendSectorData b => some (.respondSector b.getDataSize b.mIndex b.mBuffer)
  | sendSectorApk index => some (.respondApkSector index)
  | sendRequestFileInfo typed => some (.requestFileName (fixedArray 50 typed.chars))
  | sendRespondFileInfo size => some (.respondFileDesc size)
  | answerDoConnect _ | answerStatusReady _ => some .respondStatusReady
  | answerFileDesc _ => some .respondApkFileDesc

/-- Another client reads of a datagram what it is to say, whatever has been in memory. -/
theorem said_sent {c : Outgoing} {d : Datagram} (h : c.meaning = some d) (hd : d.Sendable)
    (m : Memory Local UInt8) : said (c.encoder.sent m) = d := by
  cases c with
  | sendToServerToDoConnectRequest p2pAddr => cases h
  | sendReadyToP2pServerRequest =>
    obtain rfl := Option.some.inj h
    exact said_sendReadyToP2pServerRequest m
  | sendSectorData b =>
    obtain rfl := Option.some.inj h
    show said ((putOctets id _ .respondBuff 38 b.mBuffer).load .respondBuff 0
      (38 + b.mBuffer.length)) = _
    rw [load_putOctets _ _ 38 rfl, load_putOctets _ _ 34 (length_toInt32 b.mIndex),
      load_putOctets _ _ 30 (length_toInt32 b.getDataSize), List.append_assoc, List.append_assoc]
    exact said_strcpyHeads m _ (by decide) (by decide) (by decide) rfl hd
  | sendSectorApk index =>
    obtain rfl := Option.some.inj h
    show said ((putOctets id _ .respondBuff 30 (toInt32 index)).load .respondBuff 0 (30 + 4)) = _
    rw [load_putOctets _ _ 30 (length_toInt32 index)]
    exact said_strcpyHeads m _ (by decide) (by decide) (by decide) rfl hd
  | sendRequestFileInfo typed =>
    obtain rfl := Option.some.inj h
    show said ((Memory.copy (_ : Memory Local UInt8) .respondBuff 30 .fileName 0 50).load
      .respondBuff 0 (30 + 50)) = _
    rw [Memory.load_add, Nat.zero_add, Memory.copy,
      Memory.load_store_of_outside _ _ (.inl (by omega)),
      Memory.load_store_self _ _ _ (Memory.length_load _ _ _ _), load_fileName,
      load_strcpy_of_ne _ (by decide), putOctets, Memory.load_store_of_ne _ (by decide)]
    exact said_strcpyHeads m _ (by decide) (by decide) (by decide) rfl hd
  | sendRespondFileInfo size =>
    obtain rfl := Option.some.inj h
    show said ((putOctets id _ .respondBuff 30 (toInt32 size)).load .respondBuff 0 (30 + 4)) = _
    rw [load_putOctets _ _ 30 (length_toInt32 size)]
    exact said_strcpyHeads m _ (by decide) (by decide) (by decide) rfl hd
  | answerDoConnect r =>
    obtain rfl := Option.some.inj h
    exact said_answer m r (by decide) (by decide) (by decide) rfl hd
  | answerStatusReady r =>
    obtain rfl := Option.some.inj h
    exact said_answer m r (by decide) (by decide) (by decide) rfl hd
  | answerFileDesc r =>
    obtain rfl := Option.some.inj h
    exact said_answer m r (by decide) (by decide) (by decide) rfl hd

end Outgoing

/-! ## What the threads send -/

/-- The datagram that is put together for an event. -/
def Event.outgoing (typed : CString) (r : Received) : Event → Option Outgoing
  | .sendto recipient d =>
    match d with
    | .respondStatusReady =>
      match recipient with
      | .requestaddr _ _ => some (.answerDoConnect r)
      | .remoteaddr => some (.answerStatusReady r)
    | .respondApkFileDesc => some (.answerFileDesc r)
    | .requestFileName _ => some (.sendRequestFileInfo typed)
    | .respondFileDesc size => some (.sendRespondFileInfo size)
    | .respondApkSector index => some (.sendSectorApk index)
    | .respondSector _ index data => some (.sendSectorData ⟨data, index⟩)
    | _ => none
  | _ => none

/-- The receive thread sends that it is ready, a request for the name that is typed in, a number of
blocks, or an acknowledgement. -/
theorem sendto_receiveThreadFunction {open_ : CString → Option (List UInt8)}
    {typed : CString} {p : Peer} {d d' : Datagram} {recipient : Recipient}
    (h : .sendto recipient d' ∈ (p.receiveThreadFunction open_ typed d).2) :
    d' = .respondStatusReady ∨ d' = .requestFileName (fixedArray 50 typed.chars) ∨
      (∃ size, d' = .respondFileDesc size) ∨ d' = .respondApkFileDesc ∨
        ∃ index, d' = .respondApkSector index := by
  revert h
  cases d with
  | requestFileName name =>
    simp only [Peer.receiveThreadFunction, Peer.receiveFileName]
    split_ifs <;> simp +contextual
  | respondApkFileDesc =>
    simp only [Peer.receiveThreadFunction, Peer.receiveApkFileDesc]
    split_ifs <;> simp
  | respondApkSector index =>
    simp only [Peer.receiveThreadFunction]
    split_ifs <;> simp
  | respondStatusReady =>
    simp only [Peer.receiveThreadFunction, Peer.sendRequestFileInfo]
    split_ifs <;> simp +contextual
  | respondSector len index data =>
    simp only [Peer.receiveThreadFunction, Peer.receiveSector]
    split_ifs <;> simp +contextual
  | _ => simp +contextual [Peer.receiveThreadFunction]

/-- What the send thread sends is put together to a datagram that says it, whatever has been in
memory. -/
theorem said_sendSectorData {p : Peer} {d : Datagram} {recipient : Recipient}
    (h : .sendto recipient d ∈ p.sendSectorData.2) (hd : d.Sendable) (typed : CString)
    (r : Received) (m : Memory Local UInt8) :
    ∃ c, (Event.sendto recipient d).outgoing typed r = some c ∧ said (c.encoder.sent m) = d := by
  obtain ⟨b, rfl⟩ : ∃ b : FileBlock, d = .respondSector b.getDataSize b.mIndex b.mBuffer := by
    unfold Peer.sendSectorData at h
    split at h
    · split at h
      · rename_i b _
        obtain ⟨-, rfl⟩ := Event.sendto.inj (List.mem_singleton.mp h)
        exact ⟨b, rfl⟩
      · exact absurd h List.not_mem_nil
    · exact absurd h List.not_mem_nil
  exact ⟨.sendSectorData b, rfl, Outgoing.said_sent rfl hd m⟩

/-- What the receive thread sends is put together to a datagram that says it, whatever has been in
memory. -/
theorem said_outgoing {open_ : CString → Option (List UInt8)} {typed : CString} {p : Peer}
    {d d' : Datagram} {recipient : Recipient}
    (h : .sendto recipient d' ∈ (p.receiveThreadFunction open_ typed d).2) (hd : d'.Sendable)
    (r : Received) (m : Memory Local UInt8) :
    ∃ c, (Event.sendto recipient d').outgoing typed r = some c ∧ said (c.encoder.sent m) = d' := by
  obtain ⟨c, hc, hmeaning⟩ : ∃ c, (Event.sendto recipient d').outgoing typed r = some c ∧
      c.meaning = some d' := by
    rcases sendto_receiveThreadFunction h with rfl | rfl | ⟨size, rfl⟩ | rfl | ⟨index, rfl⟩
    · cases recipient with
      | remoteaddr => exact ⟨_, rfl, rfl⟩
      | requestaddr s_addr sin_port => exact ⟨_, rfl, rfl⟩
    · exact ⟨_, rfl, rfl⟩
    · exact ⟨_, rfl, rfl⟩
    · exact ⟨_, rfl, rfl⟩
    · exact ⟨_, rfl, rfl⟩
  exact ⟨c, hc, Outgoing.said_sent hmeaning hd m⟩

end Transfer

end Stun
