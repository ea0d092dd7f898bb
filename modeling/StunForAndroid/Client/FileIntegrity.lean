import StunForAndroid.Client.TransferNetwork
import StunForAndroid.Lib.StopAndWait

/-!
# What is written is the file

For either direction of transfer, the client that shares a file and the client that asks for it do
what the sender and the receiver of `StopAndWait` do (`Simulates`), with the blocks of the file as
the items. Each thing that a client does is a step of theirs or no step (`InStep.receive_sharing`,
`InStep.receive_asking`), so in every run what was written is the first blocks of the file
(`written_eq_take`).
-/

namespace Stun

namespace Transfer

/-! ## The transfer as stop and wait -/

/-- A client `S` that shares a file and a client `R` that asks for it, with the datagrams that were
sent to each and what is seen of `R`, do as the sender and the receiver in a state. -/
structure Simulates (S R : Peer) (toR toS : List Datagram) (log : List Event)
    (a : StopAndWait.State (List UInt8)) : Prop where
  /-- Before the first `apk fileDesc` nothing has happened, then the positions are the same. -/
  position_eq : (S.currentfileBlockPosition = -1 ∧ S.sendThread = .notStarted ∧
    a = StopAndWait.initial) ∨ S.currentfileBlockPosition = a.position
  read_eq : ∀ z : ℤ, S.sendThread = .sending z → ∃ j : ℕ, z = j ∧ a.read = some j
  /-- The number of blocks is what `R` is told, and what it has from when it acknowledges it. -/
  fileDesc_eq : ∀ v : ℤ, .respondFileDesc v ∈ toR → v = S.readBlockSize ∧ 0 < v
  apk_fileDesc : .respondApkFileDesc ∈ toS →
    R.fileBlockSize = S.readBlockSize ∧ 0 < R.fileBlockSize
  started : S.currentfileBlockPosition ≠ -1 →
    R.fileBlockSize = S.readBlockSize ∧ 0 < R.fileBlockSize
  accepted_length : R.currentWritefileBlockPosition = a.accepted.length
  accepted_eq : writes log = a.accepted
  sector : ∀ (len i : ℤ) (data : List UInt8), .respondSector len i data ∈ toR →
    ∃ j : ℕ, i = j ∧ (j, data.take len.toNat) ∈ a.items
  apk_sector : ∀ i : ℤ, .respondApkSector i ∈ toS → ∃ j : ℕ, i = j ∧ j ∈ a.acks
  /-- Whenever the file was reported to be complete, it was. -/
  complete : Before .receiveComplete (fun pre => writes pre = S.file ∧ 0 < S.readBlockSize) log

/-- The two clients do as the sender and the receiver in some state that can be reached. -/
def InStep (S R : Peer) (toR toS : List Datagram) (log : List Event) : Prop :=
  ∃ a, StopAndWait.Reachable S.file a ∧ Simulates S R toR toS log a

namespace Simulates

variable {S R S' R' : Peer} {toR toS toR' toS' : List Datagram} {log es : List Event}
  {a : StopAndWait.State (List UInt8)}

/-- What is no part of the transfer keeps the two in step. -/
theorem frame (h : Simulates S R toR toS log a) (hS : S'.sharing = S.sharing)
    (hR : R'.asking = R.asking) (htoR : ∀ d ∈ toR', d.isOfFile = true → d ∈ toR)
    (htoS : ∀ d ∈ toS', d.isApk = true → d ∈ toS) (hes : ∀ e ∈ es, e.isOfAsking = false) :
    S'.file = S.file ∧ Simulates S' R' toR' toS' (log ++ es) a := by
  obtain ⟨hbuff, hpos, hthread⟩ : S'.fileReadBuff = S.fileReadBuff ∧
      S'.currentfileBlockPosition = S.currentfileBlockPosition ∧ S'.sendThread = S.sendThread := by
    simpa [Peer.sharing] using hS
  obtain ⟨hsize, hwrite⟩ : R'.fileBlockSize = R.fileBlockSize ∧
      R'.currentWritefileBlockPosition = R.currentWritefileBlockPosition := by
    simpa [Peer.asking] using hR
  have hn : S'.readBlockSize = S.readBlockSize := by simp only [Peer.readBlockSize, hbuff]
  have hfile : S'.file = S.file := by simp only [Peer.file, hbuff]
  -- No event of these is a write or a report.
  have hkeeps : KeepsAsking S (S, es) := ⟨rfl, hes⟩
  refine ⟨hfile, ?_, ?_, ?_, ?_, ?_, ?_, ?_, ?_, ?_, ?_⟩
  · rw [hpos, hthread]
    exact h.position_eq
  · rw [hthread]
    exact h.read_eq
  · rw [hn]
    exact fun v hv => h.fileDesc_eq v (htoR _ hv rfl)
  · rw [hsize, hn]
    exact fun hd => h.apk_fileDesc (htoS _ hd rfl)
  · rw [hpos, hsize, hn]
    exact h.started
  · rw [hwrite]
    exact h.accepted_length
  · rw [writes_append, hkeeps.writes_eq, List.append_nil]
    exact h.accepted_eq
  · exact fun len i data hd => h.sector len i data (htoR _ hd rfl)
  · exact fun i hd => h.apk_sector i (htoS _ hd rfl)
  · have hno : Event.receiveComplete ∉ es := fun he => by simpa [Event.isOfAsking] using hes _ he
    rw [before_append hno, hfile, hn]
    exact h.complete

/-- While the client that shares has no file, nothing has happened in the transfer. -/
theorem idle (h : Simulates S R toR toS log a) (hnone : S.fileReadBuff = none) :
    S.currentfileBlockPosition = -1 ∧ S.sendThread = .notStarted ∧ a = StopAndWait.initial := by
  have hn : S.readBlockSize = 0 := by
    unfold Peer.readBlockSize
    rw [hnone]
    rfl
  obtain hidle | hpos := h.position_eq
  · exact hidle
  · have hne : S.currentfileBlockPosition ≠ -1 := by omega
    obtain ⟨hsize, hlt⟩ := h.started hne
    omega

/-- A client that is asked for a file sends its number of blocks, if it has any. -/
theorem sends_receiveFileName {open_ : CString → Option (List UInt8)} {p : Peer}
    {fileName : List UInt8} {d : Datagram} (hd : d ∈ sends (p.receiveFileName open_ fileName).2) :
    d = .respondFileDesc (p.loadFile open_ fileName).readBlockSize ∧
      0 < (p.loadFile open_ fileName).readBlockSize := by
  obtain ⟨r, hr⟩ := mem_sends.mp hd
  simp only [Peer.receiveFileName, List.mem_append] at hr
  grind

/-- A request for a file: the file is loaded unless there is one, and its number of blocks is
sent. -/
theorem receive_fileName (ha : StopAndWait.Reachable S.file a) (h : Simulates S R toR toS log a)
    (open_ : CString → Option (List UInt8)) (fileName : List UInt8) :
    InStep (S.loadFile open_ fileName) R
      (toR ++ sends (S.receiveFileName open_ fileName).2) toS log := by
  -- What is sent is the number of blocks, and nothing is sent before there is a file.
  have hsends : ∀ d ∈ toR ++ sends (S.receiveFileName open_ fileName).2, d ∈ toR ∨
      d = .respondFileDesc (S.loadFile open_ fileName).readBlockSize ∧
        0 < (S.loadFile open_ fileName).readBlockSize := by
    intro d hd
    exact (List.mem_append.mp hd).imp_right sends_receiveFileName
  cases hbuff : S.fileReadBuff with
  | some f =>
    have hsame : S.loadFile open_ fileName = S := by simp [Peer.loadFile, hbuff]
    rw [hsame] at hsends ⊢
    refine ⟨a, ha, { h with fileDesc_eq := fun v hv => ?_, sector := fun len i data hd => ?_ }⟩
    · obtain hv | ⟨heq, hlt⟩ := hsends _ hv
      · exact h.fileDesc_eq v hv
      · obtain rfl := Datagram.respondFileDesc.inj heq
        exact ⟨rfl, hlt⟩
    · obtain hd | ⟨heq, -⟩ := hsends _ hd
      · exact h.sector len i data hd
      · cases heq
  | none =>
    obtain ⟨hpos, hthread, rfl⟩ := h.idle hbuff
    have hn : S.readBlockSize = 0 := by simp [Peer.readBlockSize, hbuff]
    have hposition : (S.loadFile open_ fileName).currentfileBlockPosition = -1 := by
      simp [Peer.loadFile, hbuff, hpos]
    have hthread' : (S.loadFile open_ fileName).sendThread = .notStarted := by
      simp [Peer.loadFile, hbuff, hthread]
    refine ⟨StopAndWait.initial, Relation.ReflTransGen.refl, ?_⟩
    refine { h with
      position_eq := .inl ⟨hposition, hthread', rfl⟩
      read_eq := fun z hz => by simp [hthread'] at hz
      fileDesc_eq := fun v hv => ?_
      apk_fileDesc := fun hd => ?_
      started := fun hne => (hne hposition).elim
      sector := fun len i data hd => ?_
      complete := fun pre post hlog => ?_ }
    · obtain hv | ⟨heq, hlt⟩ := hsends _ hv
      · have := h.fileDesc_eq v hv
        omega
      · obtain rfl := Datagram.respondFileDesc.inj heq
        exact ⟨rfl, hlt⟩
    · have := h.apk_fileDesc hd
      omega
    · obtain hd | ⟨heq, -⟩ := hsends _ hd
      · exact h.sector len i data hd
      · cases heq
    · have := (h.complete pre post hlog).2
      omega

/-- The number of blocks is acknowledged: the first time the sender starts. -/
theorem receive_apkFileDesc (ha : StopAndWait.Reachable S.file a) (h : Simulates S R toR toS log a)
    (hd : .respondApkFileDesc ∈ toS) :
    InStep S.receiveApkFileDesc.1 R (toR ++ sends S.receiveApkFileDesc.2) toS log := by
  have hsize := h.apk_fileDesc hd
  have hsends : sends S.receiveApkFileDesc.2 = [] := by
    simp only [Peer.receiveApkFileDesc]
    split_ifs <;> rfl
  rw [hsends, List.append_nil]
  by_cases hpos : S.currentfileBlockPosition = -1
  · -- The number of blocks is not zero, so the thread is started at the first block.
    have hn : S.readBlockSize > 0 := by omega
    have hfst : S.receiveApkFileDesc.1 =
        { S with currentfileBlockPosition := 0, sendThread := .atHead } := by
      unfold Peer.receiveApkFileDesc
      rw [if_pos hpos]
      show Prod.fst (if S.readBlockSize > 0 then _ else _) = _
      rw [if_pos hn]
      show Prod.fst (if 0 < S.readBlockSize then _ else _) = _
      rw [if_pos hn]
    obtain ⟨-, -, rfl⟩ | hne := h.position_eq
    · rw [hfst]
      refine ⟨StopAndWait.initial, ha, { h with
        position_eq := .inr rfl
        read_eq := fun z hz => by cases hz
        started := fun _ => hsize }⟩
    · omega
  · have hfst : S.receiveApkFileDesc.1 = S := by
      unfold Peer.receiveApkFileDesc
      rw [if_neg hpos]
    rw [hfst]
    exact ⟨a, ha, h⟩

/-- A block is acknowledged: the sender advances if it is the one at its position. -/
theorem receive_apkSector (ha : StopAndWait.Reachable S.file a) (h : Simulates S R toR toS log a)
    {i : ℤ} (hd : .respondApkSector i ∈ toS) (hi : S.currentfileBlockPosition = i) :
    InStep { S with currentfileBlockPosition := S.currentfileBlockPosition + 1 } R toR toS log := by
  obtain ⟨j, rfl, hj⟩ := h.apk_sector i hd
  obtain ⟨hpos, -, -⟩ | hpos := h.position_eq
  · omega
  · have hji : a.position = j := by omega
    refine ⟨_, ha.tail (.advance a j hj), { h with
      position_eq := .inr ?_
      started := fun _ => h.started (by omega) }⟩
    rw [if_pos hji]
    push_cast
    omega

/-- The two stay in step when the send thread reads the position. -/
theorem readPosition (ha : StopAndWait.Reachable S.file a) (h : Simulates S R toR toS log a) :
    InStep S.readPosition R toR toS log := by
  unfold Peer.readPosition
  split
  case h_2 => exact ⟨a, ha, h⟩
  case h_1 hhead =>
    have hpos : S.currentfileBlockPosition = a.position := by
      obtain ⟨-, hthread, -⟩ | hpos := h.position_eq
      · rw [hhead] at hthread
        cases hthread
      · exact hpos
    split_ifs with hlt
    · have hlt' : a.position < S.file.length := by
        have := S.length_file
        omega
      refine ⟨_, ha.tail (.read a hlt'), { h with
        position_eq := .inr hpos
        read_eq := fun z hz => ⟨a.position, ?_, rfl⟩ }⟩
      exact (SendThread.sending.inj hz).symm.trans hpos
    · exact ⟨a, ha, { h with
        position_eq := .inr hpos
        read_eq := fun z hz => by cases hz }⟩

/-- The send thread sends the block at the position that it has read, which the receive thread may
have left. -/
theorem sendSectorData (ha : StopAndWait.Reachable S.file a) (h : Simulates S R toR toS log a) :
    InStep S.sendSectorData.1 R (toR ++ sends S.sendSectorData.2) toS log := by
  unfold Peer.sendSectorData
  split
  case h_2 => exact ⟨a, ha, by simpa [sends] using h⟩
  case h_1 position hsending =>
    obtain ⟨j, rfl, hread⟩ := h.read_eq position hsending
    have hpos : S.currentfileBlockPosition = a.position := by
      obtain ⟨-, hthread, -⟩ | hpos := h.position_eq
      · rw [hsending] at hthread
        cases hthread
      · exact hpos
    cases hget : S.fileReadBuff.bind (·.getAt j) with
    | none =>
      exact ⟨a, ha, by simpa [sends] using
        { h with position_eq := .inr hpos, read_eq := fun z hz => by cases hz }⟩
    | some b =>
      obtain ⟨f, hf, hfget⟩ := Option.bind_eq_some_iff.mp hget
      obtain ⟨hindex, hblock⟩ := SharedFileBuffer.getAt_eq hfget
      have hfile : S.file[j]? = some b.mBuffer := by simpa [Peer.file, hf] using hblock
      refine ⟨_, ha.tail (.send a j b.mBuffer hread hfile), { h with
        position_eq := .inr hpos
        read_eq := fun z hz => by cases hz
        fileDesc_eq := fun v hv => ?_
        sector := fun len i data hd => ?_ }⟩
      · obtain hv | hv := List.mem_append.mp hv
        · exact h.fileDesc_eq v hv
        · simp [sends, Event.datagram?] at hv
      · obtain hd | hd := List.mem_append.mp hd
        · obtain ⟨k, hk, hmem⟩ := h.sector len i data hd
          exact ⟨k, hk, List.mem_cons_of_mem _ hmem⟩
        · obtain ⟨rfl, rfl, rfl⟩ : len = b.getDataSize ∧ i = b.mIndex ∧ data = b.mBuffer := by
            simpa [sends, Event.datagram?] using hd
          refine ⟨j, hindex, ?_⟩
          -- The length that is sent is that of the block.
          have htake : b.mBuffer.take b.getDataSize.toNat = b.mBuffer := by
            simp [FileBlock.getDataSize]
          rw [htake]
          exact List.mem_cons_self

/-- The two stay in step when the number of blocks arrives. -/
theorem receive_fileDesc (ha : StopAndWait.Reachable S.file a) (h : Simulates S R toR toS log a)
    {size : ℤ} (hd : .respondFileDesc size ∈ toR) :
    InStep S { R with fileBlockSize := size } toR (toS ++ [.respondApkFileDesc]) log := by
  obtain ⟨rfl, hlt⟩ := h.fileDesc_eq size hd
  refine ⟨a, ha, { h with
    apk_fileDesc := fun _ => ⟨rfl, hlt⟩
    started := fun _ => ⟨rfl, hlt⟩
    apk_sector := fun i hi => ?_ }⟩
  obtain hi | hi := List.mem_append.mp hi
  · exact h.apk_sector i hi
  · simp at hi

/-- When a block has arrived, what holds of all that was seen before a report holds of what was seen
before each. -/
theorem complete_receiveSector {R : Peer} {len i : ℤ} {data : List UInt8} {P : List Event → Prop}
    (h : Before .receiveComplete P log) (hP : i = R.fileBlockSize - 1 →
      ∀ pre, writes pre = writes (log ++ (R.receiveSector len i data).2) → P pre) :
    Before .receiveComplete P (log ++ (R.receiveSector len i data).2) := by
  have hwrites := writes_receiveSector R len i data
  obtain ⟨created, hcreated, heq⟩ := snd_receiveSector R len i data
  rw [writes_append, hwrites] at hP
  rw [heq, ← List.append_assoc]
  -- The report comes last, and nothing before it is one.
  generalize hfirst : created ++ (if R.currentWritefileBlockPosition = i then
    [Event.writeData (data.take len.toNat)] else []) ++
    [Event.sendto .remoteaddr (.respondApkSector i)] = first
  have hmem : Event.receiveComplete ∉ first := by
    intro hmem
    rw [← hfirst, List.mem_append, List.mem_append] at hmem
    obtain (hmem | hmem) | hmem := hmem
    · exact nomatch hcreated _ hmem
    · split_ifs at hmem <;> simp at hmem
    · simp at hmem
  have hbefore : Before .receiveComplete P (log ++ first) := (before_append hmem).mpr h
  split_ifs with hlast
  · rw [List.append_cons, before_concat, before_concat]
    refine ⟨⟨hbefore, fun _ => hP hlast _ ?_⟩, fun hne => nomatch hne⟩
    have hlater : writes [Event.receiveComplete, Event.deleteFileWriteBuff] = [] := rfl
    rw [heq, hfirst, if_pos hlast, writes_append, hlater, List.append_nil] at hwrites
    rw [writes_append, hwrites]
  · rw [List.append_nil]
    exact hbefore

/-- When a block is on its way the sender has started. -/
theorem position_of_item (h : Simulates S R toR toS log a) {j : ℕ} {x : List UInt8}
    (hmem : (j, x) ∈ a.items) : S.currentfileBlockPosition = a.position := by
  obtain ⟨-, -, rfl⟩ | hpos := h.position_eq
  · exact nomatch hmem
  · exact hpos

/-- A block that arrives is accepted if it comes next. -/
theorem writes_sector (h : Simulates S R toR toS log a) (len : ℤ) (j : ℕ) (data : List UInt8) :
    writes (log ++ (R.receiveSector len j data).2) =
      StopAndWait.accept a.accepted j (data.take len.toNat) := by
  have hlen := h.accepted_length
  rw [writes_append, writes_receiveSector, h.accepted_eq]
  unfold StopAndWait.accept
  split_ifs <;> first | rfl | omega | exact List.append_nil _

/-- With the last block all are written. -/
theorem writes_last (ha : StopAndWait.Reachable S.file a) (h : Simulates S R toR toS log a)
    {len i : ℤ} {data : List UInt8} (hd : .respondSector len i data ∈ toR)
    (hlast : i = R.fileBlockSize - 1) :
    writes (log ++ (R.receiveSector len i data).2) = S.file := by
  obtain ⟨j, rfl, hmem⟩ := h.sector len i data hd
  have hpos := h.position_of_item hmem
  have hsize := (h.started (by omega)).1
  have hlen := S.length_file
  rw [h.writes_sector]
  exact (StopAndWait.Invariant.of_reachable ha).receive_last hmem (by omega)

/-- A block arrives: it is written if it comes next, and it is acknowledged. -/
theorem receive_sector (ha : StopAndWait.Reachable S.file a) (h : Simulates S R toR toS log a)
    {len i : ℤ} {data : List UInt8} (hd : .respondSector len i data ∈ toR) :
    InStep S (R.receiveSector len i data).1 toR (toS ++ sends (R.receiveSector len i data).2)
      (log ++ (R.receiveSector len i data).2) := by
  have hlast := h.writes_last ha hd
  obtain ⟨j, rfl, hmem⟩ := h.sector len i data hd
  -- A block is on its way, so the sender has started and the number of blocks is known.
  have hpos := h.position_of_item hmem
  obtain ⟨hsize, hlt⟩ := h.started (by omega)
  have hlen := h.accepted_length
  refine ⟨_, ha.tail (.receive a j _ hmem), { h with
    position_eq := .inr hpos
    apk_fileDesc := fun hapk => ?_
    accepted_length := ?_
    accepted_eq := h.writes_sector len j data
    apk_sector := fun k hk => ?_
    complete := complete_receiveSector h.complete fun hj pre hpre => ⟨hpre.trans (hlast hj), ?_⟩ }⟩
  · rw [sends_receiveSector] at hapk
    exact h.apk_fileDesc (by simpa using hapk)
  · simp only [Peer.receiveSector, StopAndWait.accept]
    split_ifs <;> first | omega | (simp only [List.length_append, List.length_singleton]; omega)
  · rw [sends_receiveSector] at hk
    obtain hk | hk := List.mem_append.mp hk
    · obtain ⟨l, hl, hack⟩ := h.apk_sector k hk
      exact ⟨l, hl, List.mem_cons_of_mem _ hack⟩
    · exact ⟨j, by simpa using hk, List.mem_cons_self⟩
  · omega

/-- The receiver is at the position of the sender or one block ahead. -/
theorem position_bounds (hinv : StopAndWait.Invariant S.file a) (h : Simulates S R toR toS log a) :
    S.currentfileBlockPosition ≤ a.accepted.length ∧
      a.accepted.length ≤ S.currentfileBlockPosition + 1 := by
  have hle := hinv.position_le
  have hlt := hinv.le_position
  obtain ⟨hpos, -, rfl⟩ | hpos := h.position_eq
  · have hzero : (StopAndWait.initial : StopAndWait.State (List UInt8)).accepted.length = 0 := rfl
    omega
  · omega

end Simulates

namespace InStep

variable {S R S' R' : Peer} {toR toS toR' toS' : List Datagram} {log es : List Event}

/-- What is no part of the transfer keeps the two in step. -/
theorem frame (h : InStep S R toR toS log) (hS : S'.sharing = S.sharing)
    (hR : R'.asking = R.asking) (htoR : ∀ d ∈ toR', d.isOfFile = true → d ∈ toR)
    (htoS : ∀ d ∈ toS', d.isApk = true → d ∈ toS) (hes : ∀ e ∈ es, e.isOfAsking = false) :
    InStep S' R' toR' toS' (log ++ es) := by
  obtain ⟨a, ha, hsim⟩ := h
  obtain ⟨hfile, hsim'⟩ := hsim.frame hS hR htoR htoS hes
  exact ⟨a, by rwa [hfile], hsim'⟩

/-- The client that shares a file keeps the two in step when it receives a datagram. -/
theorem receive_sharing (h : InStep S R toR toS log) (open_ : CString → Option (List UInt8))
    (typed : CString) {d : Datagram} (hd : d ∈ toS) :
    InStep (S.receiveThreadFunction open_ typed d).1 R
      (toR ++ sends (S.receiveThreadFunction open_ typed d).2) toS log := by
  obtain ⟨a, ha, hsim⟩ := h
  -- Three kinds of datagrams change what a peer shares or has to do with the APK; the others do
  -- not.
  have hkeeps : d.isApk = false → (∀ fileName, d ≠ .requestFileName fileName) →
      InStep (S.receiveThreadFunction open_ typed d).1 R
        (toR ++ sends (S.receiveThreadFunction open_ typed d).2) toS log := by
    intro hapk hname
    have hk := receive_keepsSharing open_ typed S hapk hname
    rw [← List.append_nil log]
    refine InStep.frame ⟨a, ha, hsim⟩ hk.sharing_eq rfl (fun d' hd' hof => ?_)
      (fun _ h _ => h) (by simp)
    obtain hd' | hd' := List.mem_append.mp hd'
    · exact hd'
    · rw [hk.sends_isOfFile hd'] at hof
      cases hof
  cases d with
  | requestFileName fileName => exact hsim.receive_fileName ha open_ fileName
  | respondApkFileDesc => exact hsim.receive_apkFileDesc ha hd
  | respondApkSector i =>
    simp only [Peer.receiveThreadFunction]
    split_ifs with hi
    · simpa [sends] using hsim.receive_apkSector ha hd hi
    · exact ⟨a, ha, by simpa [sends] using hsim⟩
  | _ => exact hkeeps rfl (fun _ h => by cases h)

/-- The client that asks for a file keeps the two in step when it receives a datagram. -/
theorem receive_asking (h : InStep S R toR toS log) (open_ : CString → Option (List UInt8))
    (typed : CString) {d : Datagram} (hd : d ∈ toR) :
    InStep S (R.receiveThreadFunction open_ typed d).1 toR
      (toS ++ sends (R.receiveThreadFunction open_ typed d).2)
      (log ++ (R.receiveThreadFunction open_ typed d).2) := by
  obtain ⟨a, ha, hsim⟩ := h
  cases hof : d.isOfFile with
  | false =>
    have hk := receive_keepsAsking open_ typed R hof
    refine InStep.frame ⟨a, ha, hsim⟩ rfl hk.asking_eq (fun _ h _ => h) (fun d' hd' hapk => ?_)
      hk.events
    obtain hd' | hd' := List.mem_append.mp hd'
    · exact hd'
    · rw [hk.sends_isApk hd'] at hapk
      cases hapk
  | true =>
    cases d with
    | respondFileDesc size =>
      -- Nothing that is seen of the answer is part of the file.
      obtain ⟨a', ha', hsim'⟩ := hsim.receive_fileDesc ha hd
      have hno : Event.receiveComplete ∉ [Event.sendto .remoteaddr .respondApkFileDesc] := by simp
      have hwrites : writes (log ++ [.sendto .remoteaddr .respondApkFileDesc]) = writes log := by
        rw [writes_append]
        exact List.append_nil _
      refine ⟨a', ha', { hsim' with
        accepted_eq := hwrites.trans hsim'.accepted_eq, complete := ?_ }⟩
      exact (before_append hno).mpr hsim'.complete
    | respondSector len i data => exact hsim.receive_sector ha hd
    | _ => cases hof

/-- The send thread of the client that asks for the file keeps the two in step. -/
theorem keepsAsking (h : InStep S R toR toS log) {r : Peer × List Event} (hr : KeepsAsking R r) :
    InStep S r.1 toR (toS ++ sends r.2) (log ++ r.2) := by
  refine h.frame rfl hr.asking_eq (fun _ h _ => h) (fun d hd hapk => ?_) hr.events
  obtain hd | hd := List.mem_append.mp hd
  · exact hd
  · rw [hr.sends_isApk hd] at hapk
    cases hapk

end InStep

/-! ## Runs -/

/-- The transfer from a client to the other one is in step. -/
def State.InStep (st : State) (s : Side) : Prop :=
  Transfer.InStep (st.peer s) (st.peer s.other) (st.sent s.other) (st.sent s) (st.log s.other)

/-- At first the transfer is in step. -/
theorem State.initial_inStep (s : Side) : State.initial.InStep s :=
  ⟨StopAndWait.initial, Relation.ReflTransGen.refl, {
    position_eq := .inl ⟨rfl, rfl, rfl⟩
    read_eq := fun _ h => nomatch h
    fileDesc_eq := fun _ h => nomatch h
    apk_fileDesc := fun h => nomatch h
    started := fun h => (h rfl).elim
    accepted_length := rfl
    accepted_eq := rfl
    sector := fun _ _ _ h => nomatch h
    apk_sector := fun _ h => nomatch h
    complete := before_nil _ _ }⟩

namespace State

variable {st : State} {s : Side} {r : Peer × List Event}

/-- What the client that shares the file does keeps the transfer in step. -/
theorem inStep_after_self (h : Transfer.InStep r.1 (st.peer s.other) (st.sent s.other ++ sends r.2)
    (st.sent s) (st.log s.other)) : (st.after s r).InStep s := by
  unfold State.InStep State.after
  simpa [Function.update_of_ne, Side.other_ne, (Side.other_ne s).symm] using h

/-- What the client that asks for the file does keeps the transfer in step. -/
theorem inStep_after_other (h : Transfer.InStep (st.peer s) r.1 (st.sent s.other)
    (st.sent s ++ sends r.2) (st.log s.other ++ r.2)) : (st.after s.other r).InStep s := by
  unfold State.InStep State.after
  simpa [Function.update_of_ne, Side.other_ne, (Side.other_ne s).symm] using h

/-- An action keeps the transfer in step. -/
theorem InStep.act (h : st.InStep s) (open_ : Side → CString → Option (List UInt8))
    (action : Action) : (act open_ st action).InStep s := by
  cases action with
  | announce q d =>
    simp only [Transfer.act]
    split_ifs with hd
    case neg => exact h
    -- A datagram of anyone else is not of a transfer.
    have hof : d.isOfFile = false := by cases d <;> first | rfl | cases hd
    have hapk : d.isApk = false := by cases d <;> first | rfl | cases hd
    have hsent : ∀ q' d', d' ∈ Function.update st.sent q (st.sent q ++ [d]) q' →
        d' ∈ st.sent q' ∨ d' = d := by
      intro q' d' hd'
      by_cases hq : q' = q
      · subst hq
        simpa using hd'
      · rw [Function.update_of_ne hq] at hd'
        exact .inl hd'
    have hframe : Transfer.InStep (st.peer s) (st.peer s.other)
        (Function.update st.sent q (st.sent q ++ [d]) s.other)
        (Function.update st.sent q (st.sent q ++ [d]) s) (st.log s.other ++ []) := by
      refine Transfer.InStep.frame h rfl rfl (fun d' hd' hof' => ?_)
        (fun d' hd' hapk' => ?_) (by simp)
      · obtain hd' | rfl := hsent _ d' hd'
        · exact hd'
        · rw [hof] at hof'
          cases hof'
      · obtain hd' | rfl := hsent _ d' hd'
        · exact hd'
        · rw [hapk] at hapk'
          cases hapk'
    rwa [List.append_nil] at hframe
  | deliver q i typed =>
    simp only [Transfer.act]
    split
    · exact h
    · next d hd =>
      have hmem := List.mem_of_getElem? hd
      obtain rfl | rfl := q.eq_or_eq_other s
      · exact inStep_after_self (h.receive_sharing (open_ q) typed hmem)
      · exact inStep_after_other (h.receive_asking (open_ s.other) typed hmem)
  | readPosition q =>
    obtain rfl | rfl := q.eq_or_eq_other s
    · obtain ⟨a, ha, hsim⟩ := h
      exact inStep_after_self (by simpa [sends] using hsim.readPosition ha)
    · exact inStep_after_other (h.keepsAsking (readPosition_keepsAsking _))
  | sendSectorData q =>
    obtain rfl | rfl := q.eq_or_eq_other s
    · obtain ⟨a, ha, hsim⟩ := h
      exact inStep_after_self (hsim.sendSectorData ha)
    · exact inStep_after_other (h.keepsAsking (sendSectorData_keepsAsking _))

end State

/-- The transfer in either direction is in step in every run. -/
theorem run_inStep (open_ : Side → CString → Option (List UInt8)) (actions : List Action)
    (s : Side) :
    (run open_ actions).InStep s := by
  unfold run
  induction actions using List.reverseRecOn with
  | nil => exact State.initial_inStep s
  | append_singleton actions action ih =>
    rw [List.foldl_append]
    exact ih.act open_ action

/-! ## The file that is shared -/

/-- A client shares a file that it has opened. -/
def Peer.Shares (open_ : CString → Option (List UInt8)) (p : Peer) : Prop :=
  ∀ f, p.fileReadBuff = some f → ∃ name, f = .loadFileToBuffer (open_ name)

/-- The blocks of a client are the file of some name that it could open, or it has none. -/
theorem Peer.Shares.flatten_file {open_ : CString → Option (List UInt8)} {p : Peer}
    (h : p.Shares open_) : p.file = [] ∨ ∃ name, open_ name = some p.file.flatten := by
  unfold Peer.file
  cases hbuff : p.fileReadBuff with
  | none => exact .inl rfl
  | some f =>
    obtain ⟨name, rfl⟩ := h f hbuff
    cases hopen : open_ name with
    | none => exact .inl rfl
    | some content => exact .inr ⟨name, hopen.trans (congrArg some
        (SharedFileBuffer.flatten_blocks content).symm)⟩

/-- A round makes the object that a file is read from only when there is none, for a file that
opens. -/
theorem fileReadBuff_receive (open_ : CString → Option (List UInt8)) (typed : CString) (p : Peer)
    (d : Datagram) : (p.receiveThreadFunction open_ typed d).1.fileReadBuff = p.fileReadBuff ∨
      p.fileReadBuff = none ∧ ∃ name, (p.receiveThreadFunction open_ typed d).1.fileReadBuff =
        some (.loadFileToBuffer (open_ name)) := by
  cases d with
  | requestFileName fileName =>
    simp only [Peer.receiveThreadFunction, Peer.receiveFileName, Peer.loadFile]
    split_ifs with hnone
    · exact .inr ⟨Option.isNone_iff_eq_none.mp hnone, _, rfl⟩
    · exact .inl rfl
  | respondApkFileDesc =>
    simp only [Peer.receiveThreadFunction, Peer.receiveApkFileDesc]
    split_ifs <;> exact .inl rfl
  | respondStatusReady =>
    simp only [Peer.receiveThreadFunction]
    split_ifs <;> exact .inl rfl
  | respondApkSector i =>
    simp only [Peer.receiveThreadFunction]
    split_ifs <;> exact .inl rfl
  | _ => exact .inl rfl

/-- The send thread does not change the object. -/
theorem fileReadBuff_readPosition (p : Peer) : p.readPosition.fileReadBuff = p.fileReadBuff := by
  unfold Peer.readPosition
  split
  · split_ifs <;> rfl
  · rfl

/-- Sending a block leaves the file that a peer shares as it is. -/
theorem fileReadBuff_sendSectorData (p : Peer) :
    p.sendSectorData.1.fileReadBuff = p.fileReadBuff := by
  unfold Peer.sendSectorData
  split <;> rfl

/-- An action makes the object that a file is read from only when there is none, for a file that
opens. -/
theorem fileReadBuff_act (open_ : Side → CString → Option (List UInt8)) (st : State)
    (action : Action) (s : Side) : ((act open_ st action).peer s).fileReadBuff =
      (st.peer s).fileReadBuff ∨ (st.peer s).fileReadBuff = none ∧
      ∃ name, ((act open_ st action).peer s).fileReadBuff =
        some (.loadFileToBuffer (open_ s name)) := by
  -- Only the peer that acts can change.
  have hafter : ∀ (q : Side) (r : Peer × List Event), ((st.after q r).peer s).fileReadBuff =
      if s = q then r.1.fileReadBuff else (st.peer s).fileReadBuff := by
    intro q r
    show (Function.update st.peer q r.1 s).fileReadBuff = _
    rw [Function.update_apply]
    split_ifs <;> rfl
  cases action with
  | announce q d =>
    simp only [act]
    split_ifs <;> exact .inl rfl
  | deliver q i typed =>
    simp only [act]
    split
    · exact .inl rfl
    · next d hd =>
      show ((st.after q _).peer s).fileReadBuff = _ ∨ _ ∧
        ∃ name, ((st.after q _).peer s).fileReadBuff = _
      rw [hafter]
      split_ifs with hq
      · subst hq
        exact fileReadBuff_receive (open_ s) typed (st.peer s) d
      · exact .inl rfl
  | readPosition q =>
    simp only [act, hafter, fileReadBuff_readPosition]
    split_ifs with hq
    · exact .inl (by rw [hq])
    · exact .inl rfl
  | sendSectorData q =>
    simp only [act, hafter, fileReadBuff_sendSectorData]
    split_ifs with hq
    · exact .inl (by rw [hq])
    · exact .inl rfl

/-- In every run a client shares a file that it has opened. -/
theorem run_shares (open_ : Side → CString → Option (List UInt8)) (actions : List Action)
    (s : Side) : ((run open_ actions).peer s).Shares (open_ s) := by
  unfold run
  induction actions using List.reverseRecOn with
  | nil => exact fun f hf => nomatch hf
  | append_singleton actions action ih =>
    rw [List.foldl_append]
    intro f hf
    obtain hsame | ⟨-, name, hname⟩ := fileReadBuff_act open_ (actions.foldl (act open_) .initial)
      action s
    · exact ih f (hsame.symm.trans hf)
    · exact ⟨name, Option.some.inj (hf.symm.trans hname)⟩

/-! ## Main result -/

/-- In every run, in either direction: what was written is the first `k` blocks of the file, each
once and in order, and the file is one that the client which shares it has opened. The position of
the sender is `k` or the one before, so it never is behind a block that was not written. Wherever
the file was reported to be complete, all of its blocks were written. -/
theorem written_eq_take (open_ : Side → CString → Option (List UInt8)) (actions : List Action)
    (s : Side) :
    let sharing := (run open_ actions).peer s
    let log := (run open_ actions).log s.other
    (sharing.file = [] ∨ ∃ name, open_ s name = some sharing.file.flatten) ∧
      ∃ k : ℕ, k ≤ sharing.file.length ∧
        writes log = sharing.file.take k ∧ written log = (sharing.file.take k).flatten ∧
        sharing.currentfileBlockPosition ≤ k ∧ k ≤ sharing.currentfileBlockPosition + 1 ∧
        Before .receiveComplete (fun pre => writes pre = sharing.file ∧
          0 < sharing.file.length) log := by
  intro sharing log
  refine ⟨(run_shares open_ actions s).flatten_file, ?_⟩
  obtain ⟨a, ha, hsim⟩ := run_inStep open_ actions s
  have hinv : StopAndWait.Invariant sharing.file a := StopAndWait.Invariant.of_reachable ha
  have hwrites : writes log = sharing.file.take a.accepted.length :=
    hsim.accepted_eq.trans hinv.accepted_eq
  obtain ⟨hle, hlt⟩ := hsim.position_bounds hinv
  refine ⟨a.accepted.length, hinv.accepted_le, hwrites, congrArg List.flatten hwrites, hle, hlt, ?_⟩
  intro pre post hlog
  obtain ⟨hpre, hpos⟩ := hsim.complete pre post hlog
  have hlen : (sharing.file.length : ℤ) = sharing.readBlockSize := sharing.length_file
  have hpos' : 0 < sharing.readBlockSize := hpos
  exact ⟨hpre, by omega⟩

end Transfer

end Stun
