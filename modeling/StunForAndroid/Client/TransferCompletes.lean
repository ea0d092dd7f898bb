import StunForAndroid.Client.FileIntegrity
import StunForAndroid.Lib.Fairness

/-!
# A transfer that has begun is completed

The send thread sends the block at its position again and again until the block is acknowledged, and
every block that arrives is acknowledged. So when the network does not lose everything, and the send
threads get to run, each block is acknowledged some time: the position goes up (`Sharing.goes_up`)
until it is behind the last block, and by then the other client has written the file.

The messages before the first block are sent once each, and a transfer does not begin when one of
them is lost. Nothing is said here of a transfer that has not begun.
-/

namespace Stun

namespace Transfer

open Filter Fairness

/-! ## Fair runs -/

section Schedule

variable (open_ : Side → CString → Option (List UInt8)) (actions : ℕ → Action)

/-- The state when some of the actions have been taken. -/
def stateAt (n : ℕ) : State := states (act open_) .initial actions n

/-- A datagram is sent to a client once more. -/
def SendsAt (q : Side) (d : Datagram) (n : ℕ) : Prop :=
  ((stateAt open_ actions n).sent q).count d < ((stateAt open_ actions (n + 1)).sent q).count d

/-- A datagram arrives at a client. -/
def ArrivesAt (q : Side) (d : Datagram) (n : ℕ) : Prop :=
  ∃ i typed, actions n = .deliver q i typed ∧ ((stateAt open_ actions n).sent q)[i]? = some d

/-- A datagram that is sent again and again arrives again and again, and the send threads go on. -/
structure Fair : Prop where
  arrives : ∀ q d, (∃ᶠ n in atTop, SendsAt open_ actions q d n) →
    ∃ᶠ n in atTop, ArrivesAt open_ actions q d n
  reads : ∀ q, ∃ᶠ n in atTop, actions n = .readPosition q
  sends : ∀ q, ∃ᶠ n in atTop, actions n = .sendSectorData q

end Schedule

/-! ## The client that shares the file -/

/-- The send thread of a client that shares a file has started. -/
structure Sharing (f : SharedFileBuffer) (p : Peer) : Prop where
  buff : p.fileReadBuff = some f
  size_pos : 0 < f.getBlockSize
  position_nonneg : 0 ≤ p.currentfileBlockPosition
  started : p.sendThread ≠ .notStarted
  /-- The thread ends behind the last block. -/
  ended : p.sendThread = .ended → f.getBlockSize ≤ p.currentfileBlockPosition

namespace Sharing

variable {f : SharedFileBuffer} {p : Peer}

/-- The sharer counts as many blocks as the file has. -/
theorem readBlockSize_eq (h : Sharing f p) : p.readBlockSize = f.getBlockSize := by
  unfold Peer.readBlockSize
  rw [h.buff]
  rfl

/-- The receive thread leaves the send thread where it is, and goes on when the block at its
position is acknowledged. -/
theorem receive (h : Sharing f p) (open_ : CString → Option (List UInt8)) (typed : CString)
    (d : Datagram) :
    let p' := (p.receiveThreadFunction open_ typed d).1
    p'.fileReadBuff = p.fileReadBuff ∧ p'.sendThread = p.sendThread ∧
      p'.currentfileBlockPosition =
        if d = .respondApkSector p.currentfileBlockPosition then p.currentfileBlockPosition + 1
        else p.currentfileBlockPosition := by
  -- A client that shares a file is past the answers to the file's description.
  have hpos : p.currentfileBlockPosition ≠ -1 := by
    have := h.position_nonneg
    omega
  cases d with
  | requestFileName fileName =>
    have hload : p.loadFile open_ fileName = p := by
      unfold Peer.loadFile
      rw [h.buff]
      rfl
    simp [Peer.receiveThreadFunction, Peer.receiveFileName, hload]
  | respondApkFileDesc =>
    simp [Peer.receiveThreadFunction, Peer.receiveApkFileDesc, hpos]
  | respondApkSector index =>
    simp only [Peer.receiveThreadFunction, Datagram.respondApkSector.injEq]
    by_cases hi : p.currentfileBlockPosition = index
    · simp [hi]
    · simp [hi, Ne.symm hi]
  | respondStatusReady =>
    simp only [Peer.receiveThreadFunction]
    split_ifs <;> simp_all
  | respondSector len index data => simp [Peer.receiveThreadFunction, Peer.receiveSector]
  | _ => simp [Peer.receiveThreadFunction]

/-- The client goes on sharing when it receives a datagram. -/
theorem of_receive (h : Sharing f p) (open_ : CString → Option (List UInt8)) (typed : CString)
    (d : Datagram) : Sharing f (p.receiveThreadFunction open_ typed d).1 := by
  obtain ⟨hbuff, hthread, hpos⟩ := h.receive open_ typed d
  have hle : p.currentfileBlockPosition ≤
      (p.receiveThreadFunction open_ typed d).1.currentfileBlockPosition := by
    rw [hpos]
    split_ifs <;> omega
  exact {
    buff := hbuff.trans h.buff
    size_pos := h.size_pos
    position_nonneg := h.position_nonneg.trans hle
    started := hthread ▸ h.started
    ended := fun hended => (h.ended (hthread ▸ hended)).trans hle }

/-- The client goes on sharing when the position is read. -/
theorem of_readPosition (h : Sharing f p) : Sharing f p.readPosition := by
  unfold Peer.readPosition
  split
  · split_ifs with hlt
    · exact { h with
        started := fun hno => by cases hno
        ended := fun hno => by cases hno }
    · exact { h with
        started := fun hno => by cases hno
        ended := fun _ => by
          rw [h.readBlockSize_eq] at hlt
          exact not_lt.mp hlt }
  · exact h

/-- The client goes on sharing when a block is sent. -/
theorem of_sendSectorData (h : Sharing f p) : Sharing f p.sendSectorData.1 := by
  unfold Peer.sendSectorData
  split
  · exact { h with
      started := fun hno => by cases hno
      ended := fun hno => by cases hno }
  · exact h

end Sharing

/-- A thread at the head of its loop reads the position and sends the block there, or ends behind
the last one. -/
theorem Peer.sendThread_readPosition {p : Peer} (h : p.sendThread = .atHead) :
    p.readPosition.sendThread =
      if p.currentfileBlockPosition < p.readBlockSize then .sending p.currentfileBlockPosition
      else .ended := by
  unfold Peer.readPosition
  rw [h]
  dsimp only
  split_ifs <;> rfl

/-- A send thread that has started is that of a client that shares a file. -/
def Peer.Begun (p : Peer) : Prop := p.sendThread ≠ .notStarted → ∃ f, Sharing f p

/-- The receive thread starts the send thread when the number of blocks is acknowledged for the
first time, and not otherwise. -/
theorem Peer.sendThread_receive (p : Peer) (open_ : CString → Option (List UInt8)) (typed : CString)
    (d : Datagram) : (p.receiveThreadFunction open_ typed d).1.sendThread = p.sendThread ∨
      d = .respondApkFileDesc ∧ p.currentfileBlockPosition = -1 ∧ 0 < p.readBlockSize ∧
        (p.receiveThreadFunction open_ typed d).1 =
          { p with currentfileBlockPosition := 0, sendThread := .atHead } := by
  cases d with
  | respondApkFileDesc =>
    simp only [Peer.receiveThreadFunction, Peer.receiveApkFileDesc]
    split_ifs with hpos hsize
    · exact .inr ⟨trivial, hpos, hsize, rfl⟩
    all_goals exact .inl rfl
  | requestFileName fileName =>
    simp only [Peer.receiveThreadFunction, Peer.receiveFileName, Peer.loadFile]
    split_ifs <;> exact .inl rfl
  | respondStatusReady =>
    simp only [Peer.receiveThreadFunction]
    split_ifs <;> exact .inl rfl
  | respondApkSector index =>
    simp only [Peer.receiveThreadFunction]
    split_ifs <;> exact .inl rfl
  | _ => exact .inl rfl

/-- A thread that is started is that of a client that shares a file. -/
theorem Peer.begun_receive {p : Peer} (h : p.Begun) (open_ : CString → Option (List UInt8))
    (typed : CString) (d : Datagram) : (p.receiveThreadFunction open_ typed d).1.Begun := by
  intro hstarted
  rcases p.sendThread_receive open_ typed d with hsame | ⟨-, -, hsize, hnew⟩
  · obtain ⟨f, hf⟩ := h (hsame ▸ hstarted)
    exact ⟨f, hf.of_receive open_ typed d⟩
  · rw [hnew]
    unfold Peer.readBlockSize at hsize
    cases hbuff : p.fileReadBuff with
    | none =>
      rw [hbuff] at hsize
      exact absurd hsize (lt_irrefl 0)
    | some f =>
      rw [hbuff] at hsize
      exact ⟨f, rfl, hsize, le_rfl, fun hno => (by cases hno), fun hno => by cases hno⟩

/-! ## Runs -/

/-- An action makes a client read a datagram, read the position or send a block, or does nothing to
it. -/
theorem peer_act (open_ : Side → CString → Option (List UInt8)) (st : State) (action : Action)
    (s : Side) : (act open_ st action).peer s = st.peer s ∨
      (∃ i typed d, action = .deliver s i typed ∧ (st.sent s)[i]? = some d ∧
        (act open_ st action).peer s =
          ((st.peer s).receiveThreadFunction (open_ s) typed d).1) ∨
      (action = .readPosition s ∧ (act open_ st action).peer s = (st.peer s).readPosition) ∨
      (action = .sendSectorData s ∧ (act open_ st action).peer s =
        (st.peer s).sendSectorData.1) := by
  -- An action of the other client does nothing to this one.
  have hafter : ∀ (q : Side) (r : Peer × List Event), q ≠ s →
      (st.after q r).peer s = st.peer s := by
    intro q r hq
    unfold State.after
    exact Function.update_of_ne hq.symm r.1 st.peer
  have hself : ∀ r : Peer × List Event, (st.after s r).peer s = r.1 := by
    intro r
    unfold State.after
    exact Function.update_self s r.1 st.peer
  cases action with
  | announce q d =>
    left
    simp only [act]
    split_ifs <;> rfl
  | deliver q i typed =>
    by_cases hq : q = s
    · subst hq
      cases hd : (st.sent q)[i]? with
      | none => exact .inl (by simp only [act, hd])
      | some d =>
        refine .inr (.inl ⟨i, typed, d, rfl, hd, ?_⟩)
        simp only [act, hd]
        exact hself _
    · left
      cases hd : (st.sent q)[i]? with
      | none => simp only [act, hd]
      | some d =>
        simp only [act, hd]
        exact hafter q _ hq
  | readPosition q =>
    by_cases hq : q = s
    · subst hq
      exact .inr (.inr (.inl ⟨rfl, hself _⟩))
    · exact .inl (hafter q _ hq)
  | sendSectorData q =>
    by_cases hq : q = s
    · subst hq
      exact .inr (.inr (.inr ⟨rfl, hself _⟩))
    · exact .inl (hafter q _ hq)

section Runs

variable {open_ : Side → CString → Option (List UInt8)} {actions : ℕ → Action} {s : Side}

/-- A state of a run is the one after the actions before it. -/
theorem stateAt_eq_run (n : ℕ) :
    stateAt open_ actions n = run open_ ((List.range n).map actions) := states_eq_foldl n

/-- An action that starts a send thread starts that of a client that shares a file. -/
theorem begun_act {st : State} (h : (st.peer s).Begun) (action : Action) :
    ((act open_ st action).peer s).Begun := by
  rcases peer_act open_ st action s with
    hsame | ⟨i, typed, d, -, -, hreceive⟩ | ⟨-, hread⟩ | ⟨-, hsend⟩
  · rw [hsame]
    exact h
  · rw [hreceive]
    exact Peer.begun_receive h (open_ s) typed d
  · rw [hread]
    intro hstarted
    have hbefore : (st.peer s).sendThread ≠ .notStarted := by
      intro hno
      unfold Peer.readPosition at hstarted
      rw [hno] at hstarted
      exact hstarted hno
    obtain ⟨f, hf⟩ := h hbefore
    exact ⟨f, hf.of_readPosition⟩
  · rw [hsend]
    intro hstarted
    have hbefore : (st.peer s).sendThread ≠ .notStarted := by
      intro hno
      unfold Peer.sendSectorData at hstarted
      rw [hno] at hstarted
      exact hstarted hno
    obtain ⟨f, hf⟩ := h hbefore
    exact ⟨f, hf.of_sendSectorData⟩

/-- In every state a send thread that has started is that of a client that shares a file. -/
theorem begun (n : ℕ) : ((stateAt open_ actions n).peer s).Begun := by
  induction n with
  | zero => exact fun hstarted => absurd rfl hstarted
  | succ n ih => exact begun_act ih (actions n)

namespace Sharing

variable {f : SharedFileBuffer} {n m k : ℕ}

/-- A client that shares a file goes on sharing it. -/
theorem act {st : State} (h : Sharing f (st.peer s)) (action : Action) :
    Sharing f ((Transfer.act open_ st action).peer s) := by
  rcases peer_act open_ st action s with
    hsame | ⟨i, typed, d, -, -, hreceive⟩ | ⟨-, hread⟩ | ⟨-, hsend⟩
  · rw [hsame]
    exact h
  · rw [hreceive]
    exact h.of_receive (open_ s) typed d
  · rw [hread]
    exact h.of_readPosition
  · rw [hsend]
    exact h.of_sendSectorData

/-- A peer that shares the file shares it from then on. -/
theorem later (h : Sharing f ((stateAt open_ actions n).peer s)) (hm : n ≤ m) :
    Sharing f ((stateAt open_ actions m).peer s) :=
  holds_from (P := fun st : State => Sharing f (st.peer s)) h (fun _ _ hk => hk.act _) hm

/-- The position goes up by one, or stays: it goes up when the block at the position is
acknowledged. -/
theorem position_succ (h : Sharing f ((stateAt open_ actions n).peer s)) :
    ((stateAt open_ actions (n + 1)).peer s).currentfileBlockPosition =
        ((stateAt open_ actions n).peer s).currentfileBlockPosition ∨
      ((stateAt open_ actions (n + 1)).peer s).currentfileBlockPosition =
        ((stateAt open_ actions n).peer s).currentfileBlockPosition + 1 := by
  show
    ((Transfer.act open_ (stateAt open_ actions n) (actions n)).peer s).currentfileBlockPosition =
      _ ∨
    ((Transfer.act open_ (stateAt open_ actions n) (actions n)).peer s).currentfileBlockPosition =
      _
  rcases peer_act open_ (stateAt open_ actions n) (actions n) s with
    hsame | ⟨i, typed, d, -, -, hreceive⟩ | ⟨-, hread⟩ | ⟨-, hsend⟩
  · rw [hsame]
    exact .inl rfl
  · -- Only a status for the block at the position moves it.
    obtain ⟨-, -, hpos⟩ := h.receive (open_ s) typed d
    rw [hreceive, hpos]
    split_ifs
    · exact .inr rfl
    · exact .inl rfl
  · rw [hread]
    unfold Peer.readPosition
    left
    split
    · split_ifs <;> rfl
    · rfl
  · rw [hsend]
    unfold Peer.sendSectorData
    left
    split <;> rfl

/-- The position never goes down. -/
theorem position_le (h : Sharing f ((stateAt open_ actions n).peer s)) (hm : n ≤ m) :
    ((stateAt open_ actions n).peer s).currentfileBlockPosition ≤
      ((stateAt open_ actions m).peer s).currentfileBlockPosition := by
  induction m, hm using Nat.le_induction with
  | base => exact le_rfl
  | succ m hm ih =>
    rcases (h.later hm).position_succ with hsame | hup
    · exact hsame ▸ ih
    · omega

/-- The thread stays where it is until it takes its next step. -/
theorem sendThread_succ (h : Sharing f ((stateAt open_ actions n).peer s))
    (hread : ((stateAt open_ actions n).peer s).sendThread = .atHead → actions n ≠ .readPosition s)
    (hsend : ∀ z, ((stateAt open_ actions n).peer s).sendThread = .sending z →
      actions n ≠ .sendSectorData s) :
    ((stateAt open_ actions (n + 1)).peer s).sendThread =
      ((stateAt open_ actions n).peer s).sendThread := by
  show ((Transfer.act open_ (stateAt open_ actions n) (actions n)).peer s).sendThread = _
  rcases peer_act open_ (stateAt open_ actions n) (actions n) s with
    hsame | ⟨i, typed, d, -, -, hreceive⟩ | ⟨haction, hread'⟩ | ⟨haction, hsend'⟩
  · rw [hsame]
  · rw [hreceive]
    exact (h.receive (open_ s) typed d).2.1
  · rw [hread']
    unfold Peer.readPosition
    split
    · exact absurd haction (hread ‹_›)
    · rfl
  · rw [hsend']
    unfold Peer.sendSectorData
    split
    · exact absurd haction (hsend _ ‹_›)
    · rfl

/-- A thread at the head of its loop reads the position, or ends. -/
theorem exists_read (h : Sharing f ((stateAt open_ actions n).peer s)) (hfair : Fair open_ actions)
    (hhead : ((stateAt open_ actions n).peer s).sendThread = .atHead) :
    ∃ k ≥ n, ((stateAt open_ actions k).peer s).sendThread = .atHead ∧
      actions k = .readPosition s := by
  refine exists_of_frequently
    (P := fun k => ((stateAt open_ actions k).peer s).sendThread = .atHead) (hfair.reads s) hhead ?_
  intro k hk hthread hno
  exact ((h.later hk).sendThread_succ (fun _ => hno) fun z hz => by
    rw [hthread] at hz
    cases hz).trans hthread

/-- A thread that has read the position sends. -/
theorem exists_send (h : Sharing f ((stateAt open_ actions n).peer s)) (hfair : Fair open_ actions)
    {z : ℤ} (hsending : ((stateAt open_ actions n).peer s).sendThread = .sending z) :
    ∃ k ≥ n, ((stateAt open_ actions k).peer s).sendThread = .sending z ∧
      actions k = .sendSectorData s := by
  refine exists_of_frequently
    (P := fun k => ((stateAt open_ actions k).peer s).sendThread = .sending z) (hfair.sends s)
    hsending ?_
  intro k hk hthread hno
  exact ((h.later hk).sendThread_succ (fun hhead => by
    rw [hthread] at hhead
    cases hhead) fun _ _ => hno).trans hthread

/-- A thread that has not ended comes to the head of its loop. -/
theorem exists_atHead (h : Sharing f ((stateAt open_ actions n).peer s))
    (hfair : Fair open_ actions) (hlt : ((stateAt open_ actions n).peer s).sendThread ≠ .ended) :
    ∃ k ≥ n, ((stateAt open_ actions k).peer s).sendThread = .atHead := by
  cases hthread : ((stateAt open_ actions n).peer s).sendThread with
  | notStarted => exact absurd hthread h.started
  | ended => exact absurd hthread hlt
  | atHead => exact ⟨n, le_rfl, hthread⟩
  | sending z =>
    obtain ⟨k, hk, hsending, haction⟩ := h.exists_send hfair hthread
    refine ⟨k + 1, Nat.le_succ_of_le hk, ?_⟩
    show ((Transfer.act open_ (stateAt open_ actions k) (actions k)).peer s).sendThread = _
    rw [haction]
    simp [Transfer.act, State.after, Peer.sendSectorData, hsending]

/-- Before the last block is acknowledged the thread reads the position again, or the position goes
up. -/
theorem exists_sending (h : Sharing f ((stateAt open_ actions n).peer s))
    (hfair : Fair open_ actions)
    (hlt : ((stateAt open_ actions n).peer s).currentfileBlockPosition < f.getBlockSize)
    (hstuck : ∀ k ≥ n, ((stateAt open_ actions k).peer s).currentfileBlockPosition =
      ((stateAt open_ actions n).peer s).currentfileBlockPosition) :
    ∃ k ≥ n, ((stateAt open_ actions k).peer s).sendThread =
      .sending ((stateAt open_ actions n).peer s).currentfileBlockPosition := by
  have hopen : ((stateAt open_ actions n).peer s).sendThread ≠ .ended :=
    fun hended => absurd (h.ended hended) (not_le.mpr hlt)
  obtain ⟨i, hi, hhead⟩ := h.exists_atHead hfair hopen
  obtain ⟨k, hk, hhead', haction⟩ := (h.later hi).exists_read hfair hhead
  refine ⟨k + 1, Nat.le_succ_of_le (hi.trans hk), ?_⟩
  have hpos := hstuck k (hi.trans hk)
  have hless : ((stateAt open_ actions k).peer s).currentfileBlockPosition <
      ((stateAt open_ actions k).peer s).readBlockSize := by
    rw [(h.later (hi.trans hk)).readBlockSize_eq, hpos]
    exact hlt
  show ((Transfer.act open_ (stateAt open_ actions k) (actions k)).peer s).sendThread = _
  rw [haction, ← hpos]
  simp [Transfer.act, State.after, Peer.sendThread_readPosition hhead', hless]

/-- The block at the position is sent to the other client. -/
theorem sendsAt (h : Sharing f ((stateAt open_ actions k).peer s)) {j : ℕ}
    (hj : (j : ℤ) < f.getBlockSize)
    (hsending : ((stateAt open_ actions k).peer s).sendThread = .sending j)
    (haction : actions k = .sendSectorData s) :
    ∃ b, f.getAt j = some b ∧ b.mIndex = j ∧
      SendsAt open_ actions s.other (.respondSector b.getDataSize b.mIndex b.mBuffer) k := by
  have hlen : j < f.mFileBlockList.length := by
    unfold SharedFileBuffer.getBlockSize at hj
    omega
  have hget : f.getAt j = some f.mFileBlockList[j] := by
    unfold SharedFileBuffer.getAt
    rw [if_pos (Int.natCast_nonneg j), Int.toNat_natCast, List.getElem?_eq_getElem hlen]
  obtain ⟨hindex, -⟩ := SharedFileBuffer.getAt_eq hget
  refine ⟨_, hget, hindex, ?_⟩
  show _ < ((Transfer.act open_ (stateAt open_ actions k) (actions k)).sent s.other).count _
  rw [haction]
  simp [Transfer.act, State.after, Peer.sendSectorData, hsending, h.buff, hget, sends,
    Event.datagram?]

end Sharing

/-- A block that arrives is acknowledged. -/
theorem ArrivesAt.acknowledged {n : ℕ} {len i : ℤ} {data : List UInt8}
    (h : ArrivesAt open_ actions s.other (.respondSector len i data) n) :
    SendsAt open_ actions s (.respondApkSector i) n := by
  obtain ⟨j, typed, haction, hj⟩ := h
  have hsends := sends_receiveSector ((stateAt open_ actions n).peer s.other) len i data
  show _ < ((Transfer.act open_ (stateAt open_ actions n) (actions n)).sent s).count _
  rw [haction]
  simp [Transfer.act, State.after, hj, Peer.receiveThreadFunction, hsends]

namespace Sharing

variable {f : SharedFileBuffer} {n : ℕ}

/-- The acknowledgement of the block at the position makes the position go up. -/
theorem acknowledged (h : Sharing f ((stateAt open_ actions n).peer s))
    (harrives : ArrivesAt open_ actions s
      (.respondApkSector ((stateAt open_ actions n).peer s).currentfileBlockPosition) n) :
    ((stateAt open_ actions (n + 1)).peer s).currentfileBlockPosition =
      ((stateAt open_ actions n).peer s).currentfileBlockPosition + 1 := by
  obtain ⟨j, typed, haction, hj⟩ := harrives
  show
    ((Transfer.act open_ (stateAt open_ actions n) (actions n)).peer s).currentfileBlockPosition =
      _
  rw [haction]
  simp only [Transfer.act, hj]
  have hreceive := (h.receive (open_ s) typed (.respondApkSector
    ((stateAt open_ actions n).peer s).currentfileBlockPosition)).2.2
  rw [if_pos rfl] at hreceive
  rw [← hreceive]
  simp [State.after]

/-- The position goes up some time. -/
theorem goes_up (h : Sharing f ((stateAt open_ actions n).peer s)) (hfair : Fair open_ actions)
    (hlt : ((stateAt open_ actions n).peer s).currentfileBlockPosition < f.getBlockSize) :
    ∃ m ≥ n, ((stateAt open_ actions n).peer s).currentfileBlockPosition <
      ((stateAt open_ actions m).peer s).currentfileBlockPosition := by
  by_contra hnever
  have hstuck : ∀ k ≥ n, ((stateAt open_ actions k).peer s).currentfileBlockPosition =
      ((stateAt open_ actions n).peer s).currentfileBlockPosition := by
    intro k hk
    exact le_antisymm (not_lt.mp fun hup => hnever ⟨k, hk, hup⟩) (h.position_le hk)
  obtain ⟨j, hj⟩ := Int.eq_ofNat_of_zero_le h.position_nonneg
  rw [hj] at hlt hstuck
  have hlen : j < f.mFileBlockList.length := by
    unfold SharedFileBuffer.getBlockSize at hlt
    omega
  -- The block is sent again and again, so it arrives and is acknowledged again and again.
  have hsends : ∃ b, f.getAt j = some b ∧ b.mIndex = j ∧ ∃ᶠ k in atTop,
      SendsAt open_ actions s.other (.respondSector b.getDataSize b.mIndex b.mBuffer) k := by
    have hsend : ∀ a ≥ n, ∃ k ≥ a, ∃ b, f.getAt j = some b ∧ b.mIndex = j ∧
        SendsAt open_ actions s.other (.respondSector b.getDataSize b.mIndex b.mBuffer) k := by
      intro a ha
      have hstuck' : ∀ k ≥ a, ((stateAt open_ actions k).peer s).currentfileBlockPosition =
          ((stateAt open_ actions a).peer s).currentfileBlockPosition := fun k hk => by
        rw [hstuck k (ha.trans hk), hstuck a ha]
      obtain ⟨i, hi, hthread⟩ := (h.later ha).exists_sending hfair (by rw [hstuck a ha]; exact hlt)
        hstuck'
      rw [hstuck a ha] at hthread
      obtain ⟨k, hk, hsending, haction⟩ := (h.later (ha.trans hi)).exists_send hfair hthread
      exact ⟨k, hi.trans hk, (h.later ((ha.trans hi).trans hk)).sendsAt hlt hsending haction⟩
    obtain ⟨k₀, -, b, hget, hindex, -⟩ := hsend n le_rfl
    refine ⟨b, hget, hindex, frequently_atTop.mpr fun a => ?_⟩
    obtain ⟨k, hk, b', hget', -, hsends⟩ := hsend (max a n) (le_max_right a n)
    obtain rfl : b = b' := Option.some.inj (hget.symm.trans hget')
    exact ⟨k, (le_max_left a n).trans hk, hsends⟩
  obtain ⟨b, hget, hindex, hsends⟩ := hsends
  have hacks : ∃ᶠ k in atTop, SendsAt open_ actions s (.respondApkSector j) k := by
    refine (hfair.arrives _ _ hsends).mono fun k harrives => ?_
    rw [← hindex]
    exact harrives.acknowledged
  obtain ⟨k, hk, harrives⟩ := frequently_atTop.mp (hfair.arrives _ _ hacks) n
  rw [← hstuck k hk] at harrives
  have hup := (h.later hk).acknowledged harrives
  rw [hstuck k hk, hstuck (k + 1) (Nat.le_succ_of_le hk)] at hup
  omega

/-- The position comes to be behind the last block. -/
theorem reaches_end (h : Sharing f ((stateAt open_ actions n).peer s))
    (hfair : Fair open_ actions) :
    ∃ m ≥ n, f.getBlockSize ≤ ((stateAt open_ actions m).peer s).currentfileBlockPosition :=
  exists_le_of_lt fun _ hk hlt => (h.later hk).goes_up hfair hlt

/-- Behind the last block the thread ends. -/
theorem exists_ended (h : Sharing f ((stateAt open_ actions n).peer s)) (hfair : Fair open_ actions)
    (hend : f.getBlockSize ≤ ((stateAt open_ actions n).peer s).currentfileBlockPosition) :
    ∃ m ≥ n, ((stateAt open_ actions m).peer s).sendThread = .ended := by
  by_cases hended : ((stateAt open_ actions n).peer s).sendThread = .ended
  · exact ⟨n, le_rfl, hended⟩
  obtain ⟨i, hi, hhead⟩ := h.exists_atHead hfair hended
  obtain ⟨k, hk, hhead', haction⟩ := (h.later hi).exists_read hfair hhead
  have hnot : ¬((stateAt open_ actions k).peer s).currentfileBlockPosition <
      ((stateAt open_ actions k).peer s).readBlockSize := by
    rw [(h.later (hi.trans hk)).readBlockSize_eq]
    exact not_lt.mpr (hend.trans (h.position_le (hi.trans hk)))
  refine ⟨k + 1, Nat.le_succ_of_le (hi.trans hk), ?_⟩
  show ((Transfer.act open_ (stateAt open_ actions k) (actions k)).peer s).sendThread = _
  rw [haction]
  simp [Transfer.act, State.after, Peer.sendThread_readPosition hhead', hnot]

/-- A thread that has ended takes no more steps. -/
theorem ended_later (h : Sharing f ((stateAt open_ actions n).peer s))
    (hended : ((stateAt open_ actions n).peer s).sendThread = .ended) {m : ℕ} (hm : n ≤ m) :
    ((stateAt open_ actions m).peer s).sendThread = .ended := by
  induction m, hm using Nat.le_induction with
  | base => exact hended
  | succ m hm ih =>
    refine ((h.later hm).sendThread_succ (fun hhead => ?_) fun z hz => ?_).trans ih
    · rw [ih] at hhead
      cases hhead
    · rw [ih] at hz
      cases hz

end Sharing

end Runs

/-! ## The client that asks for the file -/

/-- When all blocks are written, the file was reported to be complete. -/
def State.Reports (st : State) (s : Side) : Prop :=
  (st.peer s).sendThread ≠ .notStarted →
    (st.peer s.other).currentWritefileBlockPosition = (st.peer s).readBlockSize →
    .receiveComplete ∈ st.log s.other

namespace State.Reports

variable {st : State} {s : Side}

/-- The reports are kept when the client that shares the file acts. -/
theorem after_self (h : st.Reports s) {r : Peer × List Event}
    (hgoes : (st.peer s).sendThread ≠ .notStarted → r.1.readBlockSize = (st.peer s).readBlockSize)
    (hstarts : (st.peer s).sendThread = .notStarted → r.1.sendThread ≠ .notStarted →
      (st.peer s.other).currentWritefileBlockPosition ≠ r.1.readBlockSize) :
    (st.after s r).Reports s := by
  unfold State.Reports State.after
  simp only [Function.update_self, Function.update_of_ne (Side.other_ne s)]
  intro hstarted hall
  by_cases hbefore : (st.peer s).sendThread = .notStarted
  · exact absurd hall (hstarts hbefore hstarted)
  · exact h hbefore (hall.trans (hgoes hbefore))

/-- The reports are kept when the client that asks for the file acts. -/
theorem after_other (h : st.Reports s) {r : Peer × List Event}
    (hwrites : r.1.currentWritefileBlockPosition =
        (st.peer s.other).currentWritefileBlockPosition ∨
      ((st.peer s).sendThread ≠ .notStarted →
        r.1.currentWritefileBlockPosition = (st.peer s).readBlockSize → .receiveComplete ∈ r.2)) :
    (st.after s.other r).Reports s := by
  unfold State.Reports State.after
  simp only [Function.update_self, Function.update_of_ne (Side.other_ne s).symm]
  intro hstarted hall
  rcases hwrites with hsame | hlast
  · exact List.mem_append_left _ (h hstarted (hsame ▸ hall))
  · exact List.mem_append_right _ (hlast hstarted hall)

/-- The send thread starts before anything is written. -/
theorem receive_sharing (h : st.Reports s) (hinstep : st.InStep s) (hbegun : (st.peer s).Begun)
    (open_ : CString → Option (List UInt8)) (typed : CString) (d : Datagram) :
    (st.after s ((st.peer s).receiveThreadFunction open_ typed d)).Reports s := by
  refine h.after_self (fun hstarted => ?_) fun hno hstarted => ?_
  · obtain ⟨f, hf⟩ := hbegun hstarted
    rw [(hf.of_receive open_ typed d).readBlockSize_eq, hf.readBlockSize_eq]
  · obtain ⟨a, ha, hsim⟩ := hinstep
    rcases (st.peer s).sendThread_receive open_ typed d with hsame | ⟨-, hpos, hsize, hnew⟩
    · exact absurd (hsame.trans hno) hstarted
    · rcases hsim.position_eq with ⟨-, -, rfl⟩ | hpos'
      · rw [hsim.accepted_length, hnew]
        exact ne_of_lt hsize
      · omega

/-- The round that writes the last block reports that the file is complete. -/
theorem receive_asking (h : st.Reports s) (hinstep : st.InStep s) (hbegun : (st.peer s).Begun)
    (open_ : CString → Option (List UInt8)) (typed : CString) (d : Datagram) :
    (st.after s.other ((st.peer s.other).receiveThreadFunction open_ typed d)).Reports s := by
  refine h.after_other ?_
  cases hof : d.isOfFile with
  | false =>
    have hk := (receive_keepsAsking open_ typed (st.peer s.other) hof).asking_eq
    exact .inl (congrArg Prod.snd hk)
  | true =>
    cases d with
    | respondFileDesc size => exact .inl rfl
    | respondSector len i data =>
      by_cases hi : (st.peer s.other).currentWritefileBlockPosition = i
      · right
        intro hstarted hall
        obtain ⟨f, hf⟩ := hbegun hstarted
        obtain ⟨a, -, hsim⟩ := hinstep
        have hsize := (hsim.started (by have := hf.position_nonneg; omega)).1
        obtain ⟨created, -, hevents⟩ := snd_receiveSector (st.peer s.other) len i data
        simp only [Peer.receiveThreadFunction, Peer.receiveSector, if_pos hi] at hall
        simp only [Peer.receiveThreadFunction]
        rw [hevents, if_pos (show i = (st.peer s.other).fileBlockSize - 1 by omega)]
        simp
      · left
        simp [Peer.receiveThreadFunction, Peer.receiveSector, hi]
    | _ => cases hof

/-- An action keeps the reports. -/
theorem act (h : st.Reports s) (hinstep : st.InStep s) (hbegun : (st.peer s).Begun)
    (open_ : Side → CString → Option (List UInt8)) (action : Action) :
    (act open_ st action).Reports s := by
  cases action with
  | announce q d =>
    simp only [Transfer.act]
    split_ifs <;> exact h
  | deliver q i typed =>
    simp only [Transfer.act]
    split
    · exact h
    · next d _ =>
      obtain rfl | rfl := q.eq_or_eq_other s
      · exact h.receive_sharing hinstep hbegun (open_ q) typed d
      · exact h.receive_asking hinstep hbegun (open_ s.other) typed d
  | readPosition q =>
    obtain rfl | rfl := q.eq_or_eq_other s
    · refine h.after_self (fun _ => ?_) fun hno hstarted => absurd ?_ hstarted
      · unfold Peer.readBlockSize
        rw [fileReadBuff_readPosition]
      · simp [Peer.readPosition, hno]
    · exact h.after_other (.inl (congrArg Prod.snd (readPosition_keepsAsking _).asking_eq))
  | sendSectorData q =>
    obtain rfl | rfl := q.eq_or_eq_other s
    · refine h.after_self (fun _ => ?_) fun hno hstarted => absurd ?_ hstarted
      · unfold Peer.readBlockSize
        rw [fileReadBuff_sendSectorData]
      · simp [Peer.sendSectorData, hno]
    · exact h.after_other (.inl (congrArg Prod.snd (sendSectorData_keepsAsking _).asking_eq))

end State.Reports

/-! ## Main result -/

section Runs

variable {open_ : Side → CString → Option (List UInt8)} {actions : ℕ → Action} {s : Side}

/-- In every state the transfer is in step. -/
theorem stateAt_inStep (n : ℕ) : (stateAt open_ actions n).InStep s := by
  rw [stateAt_eq_run]
  exact run_inStep open_ _ s

/-- In every state what is complete was reported. -/
theorem stateAt_reports (n : ℕ) : (stateAt open_ actions n).Reports s := by
  induction n with
  | zero => exact fun hstarted => absurd rfl hstarted
  | succ n ih => exact ih.act (stateAt_inStep n) (begun n) open_ (actions n)

/-- Behind the last block everything is written and reported. -/
theorem Sharing.complete {f : SharedFileBuffer} {n : ℕ}
    (h : Sharing f ((stateAt open_ actions n).peer s))
    (hend : f.getBlockSize ≤ ((stateAt open_ actions n).peer s).currentfileBlockPosition) :
    written ((stateAt open_ actions n).log s.other) = f.blocks.flatten ∧
      .receiveComplete ∈ (stateAt open_ actions n).log s.other := by
  have hinstep : (stateAt open_ actions n).InStep s := stateAt_inStep n
  obtain ⟨a, ha, hsim⟩ := hinstep
  have hinv := StopAndWait.Invariant.of_reachable ha
  have hfile : ((stateAt open_ actions n).peer s).file = f.blocks := by
    unfold Peer.file
    rw [h.buff]
    rfl
  have hsize := f.length_blocks
  have hle := hinv.accepted_le
  have hpos := (hsim.position_bounds hinv).1
  rw [hfile] at hle
  have hall : a.accepted.length = f.blocks.length := by omega
  have haccepted : a.accepted = f.blocks := by
    rw [hinv.accepted_eq, hfile, hall, List.take_length]
  constructor
  · unfold written
    rw [hsim.accepted_eq, haccepted]
  · refine stateAt_reports n h.started ?_
    rw [hsim.accepted_length, h.readBlockSize_eq, ← hsize, hall]

/-- In every fair run a transfer that has begun is completed: the client shares a file that it has
opened, its send thread ends, and from some time on the other client has written just this file and
has reported that it is complete. -/
theorem transfer_completes (hfair : Fair open_ actions) {n : ℕ}
    (hstarted : ((stateAt open_ actions n).peer s).sendThread ≠ .notStarted) :
    ∃ name content, open_ s name = some content ∧ content ≠ [] ∧ ∃ m ≥ n, ∀ k ≥ m,
      ((stateAt open_ actions k).peer s).sendThread = .ended ∧
      written ((stateAt open_ actions k).log s.other) = content ∧
      .receiveComplete ∈ (stateAt open_ actions k).log s.other := by
  obtain ⟨f, hf⟩ := begun n hstarted
  obtain ⟨i, hi, hend⟩ := hf.reaches_end hfair
  obtain ⟨m, hm, hended⟩ := (hf.later hi).exists_ended hfair hend
  have hshares := run_shares open_ ((List.range n).map actions) s
  rw [← stateAt_eq_run] at hshares
  obtain ⟨name, rfl⟩ := hshares f hf.buff
  have hsize := hf.size_pos
  cases hopen : open_ s name with
  | none =>
    rw [hopen] at hsize
    exact absurd hsize (lt_irrefl 0)
  | some content =>
    refine ⟨name, content, hopen, ?_, m, hi.trans hm, fun k hk => ?_⟩
    · rintro rfl
      rw [hopen] at hsize
      exact absurd hsize (lt_irrefl 0)
    · have hk' := hf.later ((hi.trans hm).trans hk)
      obtain ⟨hwritten, hreported⟩ := hk'.complete
        (hend.trans ((hf.later hi).position_le (hm.trans hk)))
      rw [hopen, SharedFileBuffer.flatten_blocks] at hwritten
      exact ⟨(hf.later (hi.trans hm)).ended_later hended hk, hwritten, hreported⟩

end Runs

/-! ## A small transfer -/

/-- The file that the left client shares, of one block. -/
def smallFile : Side → CString → Option (List UInt8)
  | .left, _ => some [1, 2, 3]
  | .right, _ => none

/-- From the message that makes the right client ask for the file, to the end of the send thread. -/
def smallTransfer : List Action :=
  [.announce .right .respondStatusReady, .deliver .right 0 (.ofArray []),
    .deliver .left 0 (.ofArray []), .deliver .right 1 (.ofArray []), .deliver .left 1 (.ofArray []),
    .readPosition .left, .sendSectorData .left, .deliver .right 2 (.ofArray []),
    .deliver .left 2 (.ofArray []), .readPosition .left]

/-- The send threads take turns. -/
def turn (n : ℕ) : Action :=
  if n % 4 = 0 then .readPosition .left
  else if n % 4 = 1 then .sendSectorData .left
  else if n % 4 = 2 then .readPosition .right
  else .sendSectorData .right

/-- The transfer, and then nothing but the turns of the send threads. -/
def smallSchedule (n : ℕ) : Action := smallTransfer[n]?.getD (turn n)

/-- After the transfer the threads take turns. -/
theorem smallSchedule_of_le {n : ℕ} (h : 10 ≤ n) : smallSchedule n = turn n := by
  unfold smallSchedule
  rw [List.getElem?_eq_none h]
  rfl

/-- The send threads have nothing to do. -/
def State.Quiet (st : State) : Prop :=
  (st.peer .left).sendThread = .ended ∧ (st.peer .right).sendThread = .notStarted

/-- A thread that has nothing to do stays where it is, and sends nothing. -/
theorem State.Quiet.turn {st : State} (h : st.Quiet) (n : ℕ) :
    (act smallFile st (turn n)).Quiet ∧ (act smallFile st (Transfer.turn n)).sent = st.sent := by
  obtain ⟨hleft, hright⟩ := h
  unfold Transfer.turn
  split_ifs <;>
    simp [Transfer.act, State.after, State.Quiet, Peer.readPosition, Peer.sendSectorData,
      hleft, hright, sends]

/-- The threads have nothing to do after the transfer. -/
theorem quiet_of_le {n : ℕ} (h : 10 ≤ n) : (stateAt smallFile smallSchedule n).Quiet := by
  induction n, h using Nat.le_induction with
  | base => exact ⟨by decide +kernel, by decide +kernel⟩
  | succ n hn ih =>
    show (act smallFile (stateAt smallFile smallSchedule n) (smallSchedule n)).Quiet
    rw [smallSchedule_of_le hn]
    exact (ih.turn n).1

/-- Each thread gets its turn again and again. -/
theorem frequently_turn {action : Action} {i : ℕ} (hi : ∀ k, turn (4 * k + i) = action) :
    ∃ᶠ n in atTop, smallSchedule n = action := by
  refine frequently_atTop.mpr fun a => ⟨4 * (a + 10) + i, by omega, ?_⟩
  rw [smallSchedule_of_le (by omega), hi]

/-- The schedule is fair: nothing is sent again and again. -/
theorem fair_smallSchedule : Fair smallFile smallSchedule where
  arrives q d hsends := by
    obtain ⟨n, hn, hmore⟩ := frequently_atTop.mp hsends 10
    unfold SendsAt at hmore
    have hsame : (stateAt smallFile smallSchedule (n + 1)).sent =
        (stateAt smallFile smallSchedule n).sent := by
      show (act smallFile (stateAt smallFile smallSchedule n) (smallSchedule n)).sent = _
      rw [smallSchedule_of_le hn]
      exact ((quiet_of_le hn).turn n).2
    rw [hsame] at hmore
    exact absurd hmore (lt_irrefl _)
  reads q := by
    cases q with
    | left => exact frequently_turn (i := 0) fun k => by simp [turn]
    | right => exact frequently_turn (i := 2) fun k => by simp [turn]
  sends q := by
    cases q with
    | left => exact frequently_turn (i := 1) fun k => by simp [turn]
    | right => exact frequently_turn (i := 3) fun k => by simp [turn]

/-- The small transfer is completed. -/
theorem transfer_completes_small :
    ∃ name content, smallFile .left name = some content ∧ content ≠ [] ∧ ∃ m ≥ 5, ∀ k ≥ m,
      ((stateAt smallFile smallSchedule k).peer .left).sendThread = .ended ∧
      written ((stateAt smallFile smallSchedule k).log Side.left.other) = content ∧
      .receiveComplete ∈ (stateAt smallFile smallSchedule k).log Side.left.other :=
  transfer_completes fair_smallSchedule (by decide +kernel)

end Transfer

end Stun
