import StunForAndroid.Client.ReceiveBuffer
import StunForAndroid.StunCore.SocketAddress

/-!
# The list of clients

`doFetchP2pServer` of `src/client/clientmain.cpp` asks the server for the clients that share
something, up to ten times as long as there are none. The loop over the records of an answer ends at
the number that the answer announces and does not look at how many octets were received, so it may
read behind them, and behind the array. `decodedWithin_iff` says for which datagrams it does not,
and `doFetchP2pServer_eq` what the list is then.

The entries are `simple_sockaddr`s, which is what a `CSocketAddress` holds. What is printed is left
out, and so are the sleeps between the tries.
-/

namespace Stun

open Octets

namespace Transfer

/-- `p2pList` -/
def Tag.p2pList : CString := ⟨[112, 50, 112, 76, 105, 115, 116], by decide⟩

/-- The memory from the start of an array on: the octets of the array, and what is behind its
end. -/
abbrev Heap := ℕ → UInt8

namespace Heap

/-- `n` octets from an offset on. -/
def load (buff : Heap) (offset n : ℕ) : List UInt8 := (List.range n).map fun i => buff (offset + i)

/-- `recvfrom` into an array of 8192 octets. -/
def recvfrom (heap : Heap) (data : List UInt8) : Heap := fun i => (cut data)[i]?.getD (heap i)

/-- What is received is read back from the buffer. -/
theorem load_recvfrom (heap : Heap) {data : List UInt8} {offset n : ℕ}
    (h : offset + n ≤ (cut data).length) :
    (heap.recvfrom data).load offset n = field (cut data) offset n := by
  apply List.ext_getElem
  · simp only [load, field, List.length_map, List.length_range, List.length_take, List.length_drop]
    omega
  · intro i hi _
    have hin : i < n := by simpa [load] using hi
    have hlen : offset + i < (cut data).length := by omega
    simp [load, recvfrom, field, hlen]

end Heap

/-! ## The function -/

/-- The entry that is read at an offset. The port is in the byte order of the machine. -/
def recordAt (buff : Heap) (offset : ℕ) : CSocketAddress where
  ip := .ofOctets .inet (buff.load offset 4)
  port_NBO := htons (UInt16.ofNat (ofLE (buff.load (offset + 4) 2)))

/-- The loop over the records, from the one of number `i` on, when there are still `left` to come:
what is read of the array, and `p2pServer`. -/
def readRecords (buff : Heap) : ℕ → ℕ → List CSocketAddress → List Access × List CSocketAddress
  | 0, _, p2pServer => ([], p2pServer)
  | left + 1, i, p2pServer =>
    -- `i < len` is all that is looked at.
    let r := readRecords buff left (i + 1) (p2pServer ++ [recordAt buff (34 + i * 6)])
    (.read (34 + i * 6) 4 :: .read (34 + i * 6 + 4) 2 :: r.1, r.2)

/-- What `doFetchP2pServer` does with a datagram, when the new array has been in some state
before. -/
def readP2pList (heap : Heap) (data : List UInt8) (p2pServer : List CSocketAddress) :
    List Access × List CSocketAddress :=
  let ret := (cut data).length
  let buff := heap.recvfrom data
  if ret > 0 then
    if ret ≥ 30 then
      let heads : List Access := [.read 0 10, .read 10 10, .read 20 10]
      if tags (buff.load 0 30) = (Tag.respond, Tag.data, Tag.p2pList) then
        let lastlen := ret - 30
        -- There is a number of records.
        if lastlen ≥ 4 then
          let len := ofInt32 (buff.load 30 4)
          if len > 0 then
            let r := readRecords buff len.toNat 0 p2pServer
            (heads ++ .read 30 4 :: r.1, r.2)
          else (heads ++ [.read 30 4], p2pServer)
        else (heads, p2pServer)
      else (heads, p2pServer)
    else ([], p2pServer)
  else ([], p2pServer)

/-- One try: what the memory of its array has been, and the datagram that is received if `select`
and `recvfrom` give one. -/
structure Try where
  heap : Heap
  received : Option (List UInt8)

/-- What a try has read, and `p2pServer` after it. -/
def Try.read (t : Try) (p2pServer : List CSocketAddress) : List Access × List CSocketAddress :=
  match t.received with
  | some data => readP2pList t.heap data p2pServer
  | none => ([], p2pServer)

/-- `doFetchP2pServer` from the try of number `tryCount` on: the tries that are made, and
`p2pServer`. -/
def doFetchP2pServer (tries : ℕ → Try) (tryCount : ℕ) (p2pServer : List CSocketAddress) :
    List Try × List CSocketAddress :=
  let p2pServer := ((tries tryCount).read p2pServer).2
  if p2pServer.length = 0 then
    if tryCount + 1 < 10 then
      let r := doFetchP2pServer tries (tryCount + 1) p2pServer
      (tries tryCount :: r.1, r.2)
    else ([tries tryCount], p2pServer)
  else ([tries tryCount], p2pServer)
termination_by 10 - tryCount

/-! ## What a list is -/

/-- The tags are those of a list. -/
def IsP2pList (data : List UInt8) : Prop :=
  30 ≤ (cut data).length ∧ tags (cut data) = (Tag.respond, Tag.data, Tag.p2pList)

instance (data : List UInt8) : Decidable (IsP2pList data) := inferInstanceAs (Decidable (_ ∧ _))

/-- The number of records that a list announces, if it is long enough to announce one. -/
def announced (data : List UInt8) : ℤ := ofInt32 (field (cut data) 30 4)

/-- The number of complete records that a list contains. -/
def contained (data : List UInt8) : ℕ := ((cut data).length - 34) / 6

/-- The entry of a record: four octets of an IP address and two of a port. -/
def entryOf (record : List UInt8) : CSocketAddress where
  ip := .ofOctets .inet (record.take 4)
  port_NBO := htons (UInt16.ofNat (ofLE (record.drop 4)))

/-- The entries of the complete records that a datagram both announces and contains. -/
def entries (data : List UInt8) : List CSocketAddress :=
  if IsP2pList data then
    (List.range (min (announced data).toNat (contained data))).map fun i =>
      entryOf (field (cut data) (34 + i * 6) 6)
  else []

/-- A datagram is decoded as it should be: what is read is within it, and the entries of its
complete records are appended. -/
structure DecodedWithin (data : List UInt8) (p2pServer : List CSocketAddress)
    (r : List Access × List CSocketAddress) : Prop where
  within : ∀ a ∈ r.1, a.Within (cut data).length
  appended : r.2 = p2pServer ++ entries data

/-- A list that has a number of records contains as many. -/
def Honest (data : List UInt8) : Prop :=
  IsP2pList data → 34 ≤ (cut data).length →
    announced data ≤ 0 ∨ 34 + announced data * 6 ≤ (cut data).length

instance (data : List UInt8) : Decidable (Honest data) :=
  inferInstanceAs (Decidable (_ → _ → _ ∨ _))

/-! ## What is read -/

/-- The loop appends an entry for each record. -/
theorem readRecords_snd (buff : Heap) (left i : ℕ) (p2pServer : List CSocketAddress) :
    (readRecords buff left i p2pServer).2 =
      p2pServer ++ (List.range left).map fun k => recordAt buff (34 + (i + k) * 6) := by
  induction left generalizing i p2pServer with
  | zero => simp [readRecords]
  | succ left ih =>
    rw [readRecords]
    dsimp only
    rw [ih, List.range_succ_eq_map, List.map_cons, List.map_map, List.append_assoc,
      List.singleton_append]
    have hshift : ∀ k, i + 1 + k = i + (k + 1) := fun k => by omega
    simp only [hshift, Function.comp_def, Nat.succ_eq_add_one, Nat.add_zero]

/-- The loop stays within a datagram if and only if its last record does. -/
theorem readRecords_within_iff (buff : Heap) (left i ret : ℕ) (p2pServer : List CSocketAddress) :
    (∀ a ∈ (readRecords buff left i p2pServer).1, a.Within ret) ↔
      left = 0 ∨ 34 + (i + left) * 6 ≤ ret := by
  induction left generalizing i p2pServer with
  | zero => simp [readRecords]
  | succ left ih =>
    rw [readRecords, List.forall_mem_cons, List.forall_mem_cons, ih]
    simp only [Access.Within]
    push_cast
    rw [true_and, true_and, false_or]
    omega

/-- The tags are within the first 30 octets. -/
theorem heads_within {ret : ℕ} (h : 30 ≤ ret) :
    ∀ a ∈ [Access.read 0 10, .read 10 10, .read 20 10], a.Within ret := by
  simp only [Access.Within, List.forall_mem_cons, List.not_mem_nil, IsEmpty.forall_iff,
    implies_true, and_true, Nat.cast_zero, Nat.cast_ofNat]
  omega

/-- A record that lies within the datagram is read as the entry of its six octets. -/
theorem recordAt_recvfrom (heap : Heap) {data : List UInt8} {offset : ℕ}
    (h : offset + 6 ≤ (cut data).length) :
    recordAt (heap.recvfrom data) offset = entryOf (field (cut data) offset 6) := by
  have hip : (field (cut data) offset 6).take 4 = field (cut data) offset 4 := by
    rw [field, List.take_take]
    rfl
  have hport : (field (cut data) offset 6).drop 4 = field (cut data) (offset + 4) 2 := by
    rw [field, List.drop_take, List.drop_drop]
    rfl
  rw [recordAt, entryOf, hip, hport, Heap.load_recvfrom heap (by omega),
    Heap.load_recvfrom heap (by omega)]

/-- The tags are those of the datagram. -/
theorem tags_load_recvfrom (heap : Heap) {data : List UInt8} (h : 30 ≤ (cut data).length) :
    tags ((heap.recvfrom data).load 0 30) = tags (cut data) := by
  have hlen : ((cut data).take 30).length = 30 := by
    rw [List.length_take]
    omega
  rw [Heap.load_recvfrom heap (by omega), field, List.drop_zero]
  conv_rhs => rw [← List.take_append_drop 30 (cut data), tags_append _ hlen.ge]

/-- The two parts of what is decoded. -/
theorem decodedWithin_mk_iff {data : List UInt8} {p2pServer : List CSocketAddress}
    {reads : List Access}
    {after : List CSocketAddress} : DecodedWithin data p2pServer (reads, after) ↔
      (∀ a ∈ reads, a.Within (cut data).length) ∧ after = p2pServer ++ entries data :=
  ⟨fun h => ⟨h.within, h.appended⟩, fun h => ⟨h.1, h.2⟩⟩

/-- A datagram that is no list is read as far as its tags. -/
theorem readP2pList_of_not {heap : Heap} {data : List UInt8} (p2pServer : List CSocketAddress)
    (h : ¬IsP2pList data) : DecodedWithin data p2pServer (readP2pList heap data p2pServer) := by
  have hentries : entries data = [] := if_neg h
  unfold readP2pList
  dsimp only
  by_cases hlong : 30 ≤ (cut data).length
  · have htags : ¬tags (cut data) = (Tag.respond, Tag.data, Tag.p2pList) := fun ht => h ⟨hlong, ht⟩
    rw [if_pos (by omega), if_pos hlong, tags_load_recvfrom heap hlong, if_neg htags]
    exact ⟨heads_within hlong, by rw [hentries, List.append_nil]⟩
  · rw [if_neg hlong, ite_self]
    exact ⟨by simp, by rw [hentries, List.append_nil]⟩

/-- A list is read by its tags, its number of records and then its records. -/
theorem readP2pList_of_list (heap : Heap) {data : List UInt8} (p2pServer : List CSocketAddress)
    (h : IsP2pList data) (hcount : 34 ≤ (cut data).length) :
    readP2pList heap data p2pServer =
      ([.read 0 10, .read 10 10, .read 20 10] ++ .read 30 4 ::
          (readRecords (heap.recvfrom data) (announced data).toNat 0 p2pServer).1,
        (readRecords (heap.recvfrom data) (announced data).toNat 0 p2pServer).2) := by
  obtain ⟨hlong, htags⟩ := h
  unfold readP2pList
  dsimp only
  rw [if_pos (by omega), if_pos hlong, tags_load_recvfrom heap hlong, if_pos htags,
    if_pos (by omega), Heap.load_recvfrom heap hcount, ← announced]
  by_cases hpos : announced data > 0
  · rw [if_pos hpos]
  · -- The loop over no records would do nothing either.
    have hzero : (announced data).toNat = 0 := by omega
    rw [if_neg hpos, hzero]
    rfl

/-- A list without one is read as far as its tags. -/
theorem readP2pList_of_short (heap : Heap) {data : List UInt8} (p2pServer : List CSocketAddress)
    (h : IsP2pList data) (hcount : ¬34 ≤ (cut data).length) :
    readP2pList heap data p2pServer = ([.read 0 10, .read 10 10, .read 20 10], p2pServer) := by
  obtain ⟨hlong, htags⟩ := h
  unfold readP2pList
  dsimp only
  rw [if_pos (by omega), if_pos hlong, tags_load_recvfrom heap hlong, if_pos htags,
    if_neg (by omega)]

/-- A list without a number of records has no entries. -/
theorem entries_of_short {data : List UInt8} (hcount : ¬34 ≤ (cut data).length) :
    entries data = [] := by
  have hnone : contained data = 0 := by
    unfold contained
    omega
  rw [entries, hnone, Nat.min_zero, List.range_zero, List.map_nil, ite_self]

/-- The entries of a list with as many records as it announces are those of the loop. -/
theorem readRecords_eq_entries (heap : Heap) {data : List UInt8} (p2pServer : List CSocketAddress)
    (h : IsP2pList data)
    (hfits : (announced data).toNat = 0 ∨ 34 + (announced data).toNat * 6 ≤ (cut data).length) :
    (readRecords (heap.recvfrom data) (announced data).toNat 0 p2pServer).2 =
      p2pServer ++ entries data := by
  have hmin : min (announced data).toNat (contained data) = (announced data).toNat := by
    unfold contained
    omega
  rw [readRecords_snd, entries, if_pos h, hmin]
  refine congrArg (p2pServer ++ ·) (List.map_congr_left fun k hk => ?_)
  rw [List.mem_range] at hk
  rw [Nat.zero_add]
  exact recordAt_recvfrom heap (by omega)

/-- A datagram is decoded within what was received of it, and to the entries that it both announces
and contains, if and only if it contains as many records as it announces. -/
theorem decodedWithin_iff (heap : Heap) (data : List UInt8) (p2pServer : List CSocketAddress) :
    DecodedWithin data p2pServer (readP2pList heap data p2pServer) ↔ Honest data := by
  by_cases hlist : IsP2pList data
  swap
  · exact iff_of_true (readP2pList_of_not p2pServer hlist) fun h => absurd h hlist
  by_cases hcount : 34 ≤ (cut data).length
  swap
  · refine iff_of_true ?_ fun _ h => absurd h hcount
    rw [readP2pList_of_short heap p2pServer hlist hcount]
    exact ⟨heads_within hlist.1, by rw [entries_of_short hcount, List.append_nil]⟩
  have hwithin := readRecords_within_iff (heap.recvfrom data) (announced data).toNat 0
    (cut data).length p2pServer
  rw [readP2pList_of_list heap p2pServer hlist hcount, decodedWithin_mk_iff, List.forall_mem_append]
  have hlen : (Access.read 30 4).Within (cut data).length := by
    simp only [Access.Within, Nat.cast_ofNat]
    omega
  constructor
  · rintro ⟨⟨-, hreads⟩, -⟩ - -
    have hfits := hwithin.mp (List.forall_mem_cons.mp hreads).2
    omega
  · intro h
    have hhonest := h hlist hcount
    have hfits : (announced data).toNat = 0 ∨ 34 + (announced data).toNat * 6 ≤
        (cut data).length := by
      omega
    have hreads := List.forall_mem_cons.mpr ⟨hlen, hwithin.mpr (by rwa [Nat.zero_add])⟩
    exact ⟨⟨heads_within hlist.1, hreads⟩, readRecords_eq_entries heap p2pServer hlist hfits⟩

/-- A list that announces a record and ends. -/
def emptyList : List UInt8 := header [] Tag.respond Tag.data Tag.p2pList ++ toInt32 1

/-- The record of the empty list is read from behind it. -/
theorem emptyList_not_decodedWithin :
    ¬DecodedWithin emptyList [] (readP2pList (fun _ => 0) emptyList []) := by
  have hlist : IsP2pList emptyList := by decide +kernel
  have hlen : (cut emptyList).length = 34 := by decide +kernel
  have hone : (announced emptyList).toNat = 1 := by decide +kernel
  rw [readP2pList_of_list _ _ hlist hlen.ge, decodedWithin_mk_iff, hlen, hone]
  rintro ⟨hall, -⟩
  have hread := hall (.read 34 4) (by simp [readRecords])
  exact absurd hread.2 (by decide)

/-! ## The tries -/

/-- The entries that a try brings. -/
def Try.entries (t : Try) : List CSocketAddress := (t.received.map Transfer.entries).getD []

/-- A try that receives honest datagrams only adds their entries. -/
theorem Try.read_snd {t : Try} (h : ∀ data ∈ t.received, Honest data)
    (p2pServer : List CSocketAddress) :
    (t.read p2pServer).2 = p2pServer ++ t.entries := by
  obtain ⟨heap, received⟩ := t
  cases received with
  | none => exact (List.append_nil _).symm
  | some data => exact ((decodedWithin_iff heap data p2pServer).mpr (h data rfl)).appended

/-- `doFetchP2pServer` tries ten times at most. -/
theorem length_doFetchP2pServer_le (tries : ℕ → Try) {tryCount : ℕ} (h : tryCount < 10)
    (p2pServer : List CSocketAddress) :
    (doFetchP2pServer tries tryCount p2pServer).1.length ≤ 10 - tryCount := by
  fun_induction doFetchP2pServer tries tryCount p2pServer with
  | case1 tryCount p2pServer after _ hlt r ih =>
    have hrest : r.1.length ≤ 10 - (tryCount + 1) := ih hlt
    rw [List.length_cons]
    omega
  | case2 => exact Nat.sub_pos_of_lt h
  | case3 => exact Nat.sub_pos_of_lt h

/-- If no try receives a list that announces more than it contains, the clients are those of the
first try that brings any. -/
theorem doFetchP2pServer_eq (tries : ℕ → Try) (h : ∀ n, ∀ data ∈ (tries n).received, Honest data)
    {tryCount left : ℕ} (hleft : tryCount + (left + 1) = 10) :
    (doFetchP2pServer tries tryCount []).2 =
      (((List.range' tryCount (left + 1)).map fun n => (tries n).entries).find?
        (· ≠ [])).getD [] := by
  induction left generalizing tryCount with
  | zero =>
    rw [doFetchP2pServer]
    dsimp only
    rw [Try.read_snd (h tryCount), List.nil_append, if_neg (show ¬tryCount + 1 < 10 by omega),
      ite_self]
    by_cases hnone : (tries tryCount).entries = []
    · simp [hnone]
    · simp [hnone]
  | succ left ih =>
    rw [doFetchP2pServer]
    dsimp only
    rw [Try.read_snd (h tryCount), List.nil_append, if_pos (show tryCount + 1 < 10 by omega),
      List.range'_succ, List.map_cons]
    by_cases hnone : (tries tryCount).entries = []
    · rw [hnone, if_pos List.length_nil, ih (by omega), List.find?_cons_of_neg (by simp)]
    · rw [if_neg (by rwa [List.length_eq_zero_iff]), List.find?_cons_of_pos (by simpa using hnone)]
      rfl

end Transfer

end Stun
