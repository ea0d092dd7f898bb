import StunForAndroid.Client.FileIntegrity

/-!
# One client that shares files with many

Any number of peers send datagrams to the client that shares files. `receiveThreadFunction` answers
the one that a datagram comes from, but it makes `fileReadBuff` for the first file that is asked for
and keeps it, and the send thread keeps the address of the peer whose `respond apk fileDesc` has
started it (`send_thread_struct->remoteaddr`). So what is sent is of the file that was asked for in
those runs only in which the requests name the file that was loaded (`run_right`).

Peers are of any type. A reply that goes to an address which a datagram names is not recorded.
-/

namespace Stun

namespace Transfer

/-- The datagrams that are sent to `remoteaddr`. -/
def replies (events : List Event) : List Datagram :=
  events.filterMap fun
    | .sendto .remoteaddr d => some d
    | _ => none

/-- The file of a name, in blocks. -/
def fileOf (open_ : CString → Option (List UInt8)) (name : CString) : SharedFileBuffer :=
  .loadFileToBuffer (open_ name)

/-- What a peer is sent, with the name of the file that it has asked for last. -/
structure Reply (Addr : Type) where
  remoteaddr : Addr
  datagram : Datagram
  requested : Option CString
deriving DecidableEq

/-- What is sent is of the file that was asked for: the number of its blocks, or one of them. -/
def Reply.Right {Addr : Type} (open_ : CString → Option (List UInt8)) (r : Reply Addr) : Prop :=
  match r.datagram with
  | .respondFileDesc size =>
    ∃ name, r.requested = some name ∧ size = (fileOf open_ name).getBlockSize
  | .respondSector len index data =>
    ∃ name, r.requested = some name ∧ ∃ b ∈ (fileOf open_ name).mFileBlockList,
      len = b.getDataSize ∧ index = b.mIndex ∧ data = b.mBuffer
  | _ => True

/-- The client that shares files, and what it has sent. -/
structure Sharer (Addr : Type) where
  peer : Peer
  /-- The address that the send thread sends to. -/
  remoteaddr : Option Addr
  /-- The file that each peer has asked for last. -/
  requested : Addr → Option CString
  log : List (Reply Addr)

namespace Sharer

variable {Addr : Type} [DecidableEq Addr]

/-- Before the first datagram. -/
def initial : Sharer Addr := ⟨.initial, none, fun _ => none, []⟩

/-- What may happen to the sharing client. -/
inductive Action (Addr : Type)
  /-- A datagram comes from a peer, with what the user types in if asked. -/
  | receive (source : Addr) (typed : CString) (d : Datagram)
  /-- The send thread is at the head of its loop. -/
  | readPosition
  /-- The send thread sends. -/
  | sendSectorData

/-- What was asked for, after a datagram. -/
def asked (requested : Addr → Option CString) (source : Addr) : Datagram → Addr → Option CString
  | .requestFileName fileName => Function.update requested source (some (.ofArray fileName))
  | _ => requested

/-- What an action does. The thread that is started is given the address of the datagram. -/
def act (open_ : CString → Option (List UInt8)) (st : Sharer Addr) : Action Addr → Sharer Addr
  | .receive source typed d =>
    let r := st.peer.receiveThreadFunction open_ typed d
    let requested := asked st.requested source d
    { peer := r.1
      remoteaddr :=
        if st.peer.sendThread = .notStarted ∧ r.1.sendThread ≠ .notStarted then some source
        else st.remoteaddr
      requested := requested
      log := st.log ++ (replies r.2).map fun d => ⟨source, d, requested source⟩ }
  | .readPosition => { st with peer := st.peer.readPosition }
  | .sendSectorData =>
    let r := st.peer.sendSectorData
    { st with
      peer := r.1
      log := st.log ++ match st.remoteaddr with
        | some a => (replies r.2).map fun d => ⟨a, d, st.requested a⟩
        | none => [] }

/-- The state after some actions. -/
def run (open_ : CString → Option (List UInt8)) (actions : List (Action Addr)) : Sharer Addr :=
  actions.foldl (act open_) initial

/-- Everything that was sent is of the file that was asked for. -/
def Right (open_ : CString → Option (List UInt8)) (st : Sharer Addr) : Prop :=
  ∀ r ∈ st.log, r.Right open_

/-- The file that is shared is the one that is asked for: a request that comes when a file with
blocks is loaded names a file with these blocks, and the datagram that starts the send thread comes
from a peer that has asked for a file. -/
def AsksForShared (open_ : CString → Option (List UInt8)) (st : Sharer Addr) : Action Addr → Prop
  | .receive _ _ (.requestFileName fileName) =>
    ∀ f, st.peer.fileReadBuff = some f → 0 < f.getBlockSize → fileOf open_ (.ofArray fileName) = f
  | .receive source _ .respondApkFileDesc =>
    st.peer.currentfileBlockPosition = -1 → 0 < st.peer.readBlockSize →
      ∃ name, st.requested source = some name
  | _ => True

/-- The condition at each action. -/
def EachAsksForShared (open_ : CString → Option (List UInt8)) :
    Sharer Addr → List (Action Addr) → Prop
  | _, [] => True
  | st, action :: rest =>
    st.AsksForShared open_ action ∧ EachAsksForShared open_ (st.act open_ action) rest

end Sharer

/-! ## What an action sends -/

/-- A reply is one of the datagrams that are sent. -/
theorem mem_sends_of_mem_replies {events : List Event} {d : Datagram} (h : d ∈ replies events) :
    d ∈ sends events := by
  obtain ⟨e, he, hd⟩ := List.mem_filterMap.mp h
  refine List.mem_filterMap.mpr ⟨e, he, ?_⟩
  split at hd
  · exact hd
  · cases hd

/-- What is not part of a file is right. -/
theorem Reply.right_of_isOfFile {Addr : Type} {open_ : CString → Option (List UInt8)}
    {r : Reply Addr} (h : r.datagram.isOfFile = false) : r.Right open_ := by
  unfold Reply.Right
  split
  next hd =>
    rw [hd] at h
    cases h
  next hd =>
    rw [hd] at h
    cases h
  next => trivial

/-- A datagram that asks for no file and starts no thread leaves the sharing alone, but for the
position. -/
theorem receive_sharing {open_ : CString → Option (List UInt8)} {typed : CString}
    {p : Peer} {d : Datagram}
    (hname : ∀ fileName, d ≠ .requestFileName fileName) (hapk : d ≠ .respondApkFileDesc) :
    (p.receiveThreadFunction open_ typed d).1.fileReadBuff = p.fileReadBuff ∧
      (p.receiveThreadFunction open_ typed d).1.sendThread = p.sendThread ∧
      ∀ d' ∈ replies (p.receiveThreadFunction open_ typed d).2, d'.isOfFile = false := by
  by_cases h : d.isApk = false
  · have hkeeps := receive_keepsSharing open_ typed p h hname
    obtain ⟨hbuff, hrest⟩ := Prod.mk.inj hkeeps.sharing_eq
    refine ⟨hbuff, (Prod.mk.inj hrest).2, fun d' hd' => ?_⟩
    exact hkeeps.sends_isOfFile (mem_sends_of_mem_replies hd')
  · -- What is left is an acknowledged block.
    cases d with
    | respondApkSector index =>
      simp only [Peer.receiveThreadFunction]
      split_ifs <;> exact ⟨rfl, rfl, by simp [replies]⟩
    | respondApkFileDesc => exact absurd rfl hapk
    | _ => exact absurd rfl h

/-- The first `apk fileDesc` starts the thread if a file with blocks is loaded, and changes no file.
-/
theorem receive_apkFileDesc {p : Peer} :
    p.receiveApkFileDesc.1.fileReadBuff = p.fileReadBuff ∧ replies p.receiveApkFileDesc.2 = [] ∧
      (p.receiveApkFileDesc.1.sendThread = p.sendThread ∨
        p.currentfileBlockPosition = -1 ∧ 0 < p.readBlockSize) := by
  simp only [Peer.receiveApkFileDesc]
  split_ifs with hfirst hblocks
  · exact ⟨rfl, rfl, .inr ⟨hfirst, hblocks⟩⟩
  · exact ⟨rfl, rfl, .inl rfl⟩
  · exact ⟨rfl, rfl, .inl rfl⟩

/-- The block that the send thread sends is one of the file that is loaded. -/
theorem mem_replies_sendSectorData {p : Peer} {d : Datagram} (h : d ∈ replies p.sendSectorData.2) :
    ∃ f, p.fileReadBuff = some f ∧ ∃ b ∈ f.mFileBlockList,
      d = .respondSector b.getDataSize b.mIndex b.mBuffer := by
  unfold Peer.sendSectorData at h
  split at h
  · dsimp only at h
    split at h
    next b hb =>
      obtain ⟨f, hf, hget⟩ := Option.bind_eq_some_iff.mp hb
      refine ⟨f, hf, b, ?_, List.mem_singleton.mp h⟩
      unfold SharedFileBuffer.getAt at hget
      split_ifs at hget
      exact List.mem_of_getElem? hget
    next => cases h
  · cases h

namespace Sharer

/-! ## Runs -/

variable {Addr : Type} {open_ : CString → Option (List UInt8)} {st : Sharer Addr}

/-- What holds in every run in which the file that is shared is asked for. -/
structure Serving (open_ : CString → Option (List UInt8)) (st : Sharer Addr) : Prop where
  loaded : ∀ f, st.peer.fileReadBuff = some f → 0 < f.getBlockSize →
    ∀ a name, st.requested a = some name → fileOf open_ name = f
  unloaded : st.peer.fileReadBuff = none → ∀ a, st.requested a = none
  started : st.peer.sendThread ≠ .notStarted →
    ∃ a name, st.remoteaddr = some a ∧ st.requested a = some name
  right : st.Right open_

/-- What holds in every run holds before the first datagram. -/
theorem serving_initial : Serving open_ (initial : Sharer Addr) :=
  ⟨nofun, fun _ _ => rfl, fun h => absurd rfl h, nofun⟩

/-- What is right goes on with what is right. -/
theorem right_append {log : List (Reply Addr)} {ds : List Datagram} {a : Addr}
    {name : Option CString}
    (h : ∀ r ∈ log, r.Right open_) (hds : ∀ d ∈ ds, Reply.Right open_ ⟨a, d, name⟩) :
    ∀ r ∈ log ++ ds.map fun d => ⟨a, d, name⟩, r.Right open_ := by
  intro r hr
  rcases List.mem_append.mp hr with hr | hr
  · exact h r hr
  · obtain ⟨d, hd, rfl⟩ := List.mem_map.mp hr
    exact hds d hd

variable [DecidableEq Addr]

/-- A request for a file leaves what peers have asked for before. -/
theorem asked_of_some {requested : Addr → Option CString} {a : Addr} {name : CString}
    (h : requested a = some name) (source : Addr) (d : Datagram) :
    ∃ name', asked requested source d a = some name' := by
  unfold asked
  split
  · by_cases ha : a = source
    · subst ha
      exact ⟨_, Function.update_self ..⟩
    · exact ⟨name, (Function.update_of_ne ha _ _).trans h⟩
  · exact ⟨name, h⟩

omit [DecidableEq Addr] in
/-- The file that is loaded after a request is the one that is asked for, when it has blocks. -/
theorem Serving.loadFile (h : Serving open_ st) {source : Addr} {typed : CString}
    {fileName : List UInt8}
    (hasks : st.AsksForShared open_ (.receive source typed (.requestFileName fileName))) :
    ∃ f, (st.peer.loadFile open_ fileName).fileReadBuff = some f ∧ (0 < f.getBlockSize →
      fileOf open_ (.ofArray fileName) = f ∧
      ∀ a name, st.requested a = some name → fileOf open_ name = f) := by
  unfold Peer.loadFile
  cases hbuff : st.peer.fileReadBuff with
  | none =>
    refine ⟨fileOf open_ (.ofArray fileName), rfl, fun _ => ⟨rfl, fun a name ha => ?_⟩⟩
    rw [h.unloaded hbuff a] at ha
    cases ha
  | some f => exact ⟨f, hbuff, fun hsize => ⟨hasks f hbuff hsize, h.loaded f hbuff hsize⟩⟩

/-- What holds in every run still holds after a request for a file. -/
theorem Serving.receive_fileName (h : Serving open_ st) (source : Addr) (typed : CString)
    (fileName : List UInt8)
    (hasks : st.AsksForShared open_ (.receive source typed (.requestFileName fileName))) :
    Serving open_ (st.act open_ (.receive source typed (.requestFileName fileName))) := by
  obtain ⟨f, hf, hsame⟩ := h.loadFile hasks
  have hthread : (st.peer.loadFile open_ fileName).sendThread = st.peer.sendThread := by
    unfold Peer.loadFile
    split_ifs <;> rfl
  refine ⟨fun f' hf' hsize a name ha => ?_, fun hnone => ?_, fun hstarted => ?_, ?_⟩
  · cases hf.symm.trans hf'
    -- Only the peer that the datagram comes from has asked for something else since.
    by_cases hsource : a = source
    · subst hsource
      cases (Function.update_self ..).symm.trans ha
      exact (hsame hsize).1
    · exact (hsame hsize).2 a name ((Function.update_of_ne hsource _ _).symm.trans ha)
  · cases hf.symm.trans hnone
  · -- A request for a file does not start the thread.
    have hstarted : st.peer.sendThread ≠ .notStarted := hthread ▸ hstarted
    obtain ⟨a, name, haddr, hname⟩ := h.started hstarted
    obtain ⟨name', hname'⟩ := asked_of_some hname source (.requestFileName fileName)
    refine ⟨a, name', ?_, hname'⟩
    exact (if_neg fun hnot => hstarted hnot.1).trans haddr
  · apply right_append h.right
    intro d hd
    -- The reply is the number of blocks of the file that is loaded then.
    obtain ⟨rfl, hsize⟩ := Simulates.sends_receiveFileName (mem_sends_of_mem_replies hd)
    have hcount : (st.peer.loadFile open_ fileName).readBlockSize = f.getBlockSize := by
      unfold Peer.readBlockSize
      rw [hf]
      rfl
    refine ⟨.ofArray fileName, Function.update_self .., ?_⟩
    rw [hcount] at hsize ⊢
    rw [(hsame hsize).1]

/-- What holds in every run still holds after the number of blocks is acknowledged. -/
theorem Serving.receive_apkFileDesc (h : Serving open_ st) (source : Addr) (typed : CString)
    (hasks : st.AsksForShared open_ (.receive source typed .respondApkFileDesc)) :
    Serving open_ (st.act open_ (.receive source typed .respondApkFileDesc)) := by
  obtain ⟨hbuff, hreplies, hthread⟩ := @Transfer.receive_apkFileDesc st.peer
  refine ⟨fun f hf => h.loaded f (hbuff ▸ hf), fun hnone => h.unloaded (hbuff ▸ hnone),
    fun hstarted => ?_, right_append h.right fun d hd => ?_⟩
  · by_cases hbefore : st.peer.sendThread = .notStarted
    · -- The thread is started for the peer that the datagram comes from.
      obtain ⟨hfirst, hblocks⟩ := hthread.resolve_left fun hsame => hstarted (hsame.trans hbefore)
      obtain ⟨name, hname⟩ := hasks hfirst hblocks
      exact ⟨source, name, if_pos ⟨hbefore, hstarted⟩, hname⟩
    · obtain ⟨a, name, haddr, hname⟩ := h.started hbefore
      exact ⟨a, name, (if_neg fun hnot => hbefore hnot.1).trans haddr, hname⟩
  · have hd : d ∈ replies st.peer.receiveApkFileDesc.2 := hd
    rw [hreplies] at hd
    cases hd

/-- What holds in every run still holds after a datagram that neither names a file nor describes
one. -/
theorem Serving.receive_other (h : Serving open_ st) (source : Addr) (typed : CString)
    {d : Datagram}
    (hname : ∀ fileName, d ≠ .requestFileName fileName) (hapk : d ≠ .respondApkFileDesc) :
    Serving open_ (st.act open_ (.receive source typed d)) := by
  obtain ⟨hbuff, hthread, hreplies⟩ :=
    @receive_sharing open_ typed st.peer d hname hapk
  have hasked : asked st.requested source d = st.requested := by
    unfold asked
    split
    · exact absurd rfl (hname _)
    · rfl
  refine ⟨fun f hf => ?_, fun hnone => ?_, fun hstarted => ?_,
    right_append h.right fun d' hd' => ?_⟩
  · show 0 < f.getBlockSize → ∀ a name, asked st.requested source d a = some name → _
    rw [hasked]
    exact h.loaded f (hbuff ▸ hf)
  · show ∀ a, asked st.requested source d a = none
    rw [hasked]
    exact h.unloaded (hbuff ▸ hnone)
  · obtain ⟨a, name, haddr, hrequested⟩ := h.started (hthread ▸ hstarted)
    refine ⟨a, name, (if_neg fun hnot => hnot.2 (hthread.trans hnot.1)).trans haddr, ?_⟩
    exact (congrFun hasked a).trans hrequested
  · exact Reply.right_of_isOfFile (hreplies d' hd')

/-- What holds in every run still holds after the send thread has read the position. -/
theorem Serving.readPosition (h : Serving open_ st) :
    Serving open_ (st.act open_ .readPosition) := by
  have hbuff := fileReadBuff_readPosition st.peer
  refine ⟨fun f hf => h.loaded f (hbuff ▸ hf), fun hnone => h.unloaded (hbuff ▸ hnone),
    fun hstarted => h.started fun hnot => hstarted ?_, h.right⟩
  show st.peer.readPosition.sendThread = .notStarted
  unfold Peer.readPosition
  rw [hnot]
  exact hnot

/-- What holds in every run still holds after the send thread has sent. -/
theorem Serving.sendSectorData (h : Serving open_ st) :
    Serving open_ (st.act open_ .sendSectorData) := by
  have hbuff := fileReadBuff_sendSectorData st.peer
  refine ⟨fun f hf => h.loaded f (hbuff ▸ hf), fun hnone => h.unloaded (hbuff ▸ hnone),
    fun hstarted => h.started fun hnot => hstarted ?_, ?_⟩
  · show st.peer.sendSectorData.1.sendThread = .notStarted
    unfold Peer.sendSectorData
    rw [hnot]
    exact hnot
  · show ∀ r ∈ st.log ++ match st.remoteaddr with
      | some a => (replies st.peer.sendSectorData.2).map fun d => ⟨a, d, st.requested a⟩
      | none => [], r.Right open_
    cases hremote : st.remoteaddr with
    | none =>
      rw [List.append_nil]
      exact h.right
    | some a =>
      refine right_append h.right fun d hd => ?_
      obtain ⟨f, hf, b, hb, rfl⟩ := mem_replies_sendSectorData hd
      -- A thread that was not started sends nothing.
      have hstarted : st.peer.sendThread ≠ .notStarted := by
        intro hnot
        unfold Peer.sendSectorData at hd
        rw [hnot] at hd
        cases hd
      obtain ⟨a', name, haddr, hname⟩ := h.started hstarted
      cases hremote.symm.trans haddr
      -- The file with this block has blocks, and so it is the one that was asked for.
      have hsize : 0 < f.getBlockSize := Int.natCast_pos.mpr (List.length_pos_of_mem hb)
      exact ⟨name, hname, b, h.loaded f hf hsize a name hname ▸ hb, rfl, rfl, rfl⟩

/-- What holds in every run still holds after any action. -/
theorem Serving.act (h : Serving open_ st) (action : Action Addr)
    (hasks : st.AsksForShared open_ action) :
    Serving open_ (st.act open_ action) := by
  cases action with
  | receive source typed d =>
    by_cases hname : ∀ fileName, d ≠ .requestFileName fileName
    · by_cases hapk : d = .respondApkFileDesc
      · subst hapk
        exact h.receive_apkFileDesc source typed hasks
      · exact h.receive_other source typed hname hapk
    · obtain ⟨fileName, hd⟩ := not_forall_not.mp hname
      subst hd
      exact h.receive_fileName source typed fileName hasks
  | readPosition => exact h.readPosition
  | sendSectorData => exact h.sendSectorData

/-- In every run in which the file that is shared is asked for, what is sent is of the file that was
asked for. -/
theorem run_right (actions : List (Action Addr)) (hasks : EachAsksForShared open_ initial actions) :
    (run open_ actions).Right open_ := by
  -- `Serving` is kept by each action, from any state.
  suffices hserving : ∀ st : Sharer Addr, Serving open_ st → EachAsksForShared open_ st actions →
      Serving open_ (actions.foldl (Sharer.act open_) st) from
    (hserving initial serving_initial hasks).right
  clear hasks
  induction actions with
  | nil => exact fun _ h _ => h
  | cons action rest ih => exact fun st h hasks => ih _ (h.act action hasks.1) hasks.2

/-- A request for a file of another number of blocks than the one that is loaded is answered
wrongly. -/
theorem not_right_of_other_count {f : SharedFileBuffer} (hf : st.peer.fileReadBuff = some f)
    (hsize : 0 < f.getBlockSize) (source : Addr) (typed : CString) {fileName : List UInt8}
    (hother : (fileOf open_ (.ofArray fileName)).getBlockSize ≠ f.getBlockSize) :
    ¬(st.act open_ (.receive source typed (.requestFileName fileName))).Right open_ := by
  -- The file of the request is not looked at.
  have hload : st.peer.loadFile open_ fileName = st.peer := by
    unfold Peer.loadFile
    rw [hf]
    rfl
  have hblocks : st.peer.readBlockSize = f.getBlockSize := by
    unfold Peer.readBlockSize
    rw [hf]
    rfl
  have hreply : .respondFileDesc f.getBlockSize ∈
      replies (st.peer.receiveFileName open_ fileName).2 := by
    unfold Peer.receiveFileName
    simp [hload, hblocks, hf, hsize, replies]
  intro hright
  obtain ⟨name, hname, hcount⟩ := hright
    ⟨source, .respondFileDesc f.getBlockSize, some (.ofArray fileName)⟩
    (List.mem_append_right _ (List.mem_map.mpr ⟨_, hreply, by simp [asked]⟩))
  cases hname
  exact hother hcount.symm

/-- Files of one octet and of 4097 octets, by their names `a` and `b`. -/
def twoFiles (name : CString) : Option (List UInt8) :=
  if name.chars = [97] then some [1]
  else if name.chars = [98] then some (List.replicate 4097 2)
  else none

/-- A peer that is sent a file, and another one that asks for the same file then. -/
def askTwice : List (Action ℕ) :=
  [.receive 0 (.ofArray []) (.requestFileName [97]), .receive 0 (.ofArray []) .respondApkFileDesc,
    .readPosition, .sendSectorData, .receive 1 (.ofArray []) (.requestFileName [97])]

/-- `run_right` for `askTwice`, in which both are sent the number of blocks and the first one its
block. -/
theorem run_right_askTwice : (run twoFiles askTwice).Right twoFiles ∧
    (run twoFiles askTwice).log.map (fun r => (r.remoteaddr, r.datagram)) =
      [(0, .respondFileDesc 1), (0, .respondSector 1 0 [1]), (1, .respondFileDesc 1)] := by
  constructor
  · apply run_right
    refine ⟨nofun, fun _ _ => ⟨.ofArray [97], rfl⟩, trivial, trivial, fun f hf _ => ?_, trivial⟩
    exact Option.some.inj hf
  · decide +kernel

/-- The second peer asks for another file, and is sent the number of blocks of the first. -/
theorem not_right_of_other_file :
    ¬ ∀ actions : List (Action ℕ), (run twoFiles actions).Right twoFiles := by
  intro hright
  have hsent : (⟨1, .respondFileDesc 1, some (.ofArray [98])⟩ : Reply ℕ) ∈
      (run twoFiles [.receive 0 (.ofArray []) (.requestFileName [97]),
        .receive 1 (.ofArray []) (.requestFileName [98])]).log := by decide +kernel
  obtain ⟨name, hname, hsize⟩ := hright _ _ hsent
  obtain rfl := Option.some.inj hname
  have htwo : (fileOf twoFiles (.ofArray [98])).getBlockSize = 2 := by decide +kernel
  rw [htwo] at hsize
  exact absurd hsize (by decide)

end Sharer

end Transfer

end Stun
