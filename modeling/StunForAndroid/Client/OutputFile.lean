import StunForAndroid.Client.FileIntegrity

/-!
# The object that writes the file

The client that asked for a file deletes the object that writes it whenever the last block arrives,
and keeps the pointer. It never writes through the object after that (`Deletions.not_written`), but
the last block is sent until it is acknowledged, so it may arrive again. `run_safeUse_iff` is over
all runs: the object is used safely if and only if the last block arrives once at most.
-/

namespace Stun

namespace Transfer

/-- A datagram that brings the block with a number. -/
def Datagram.isSector (i : ℤ) : Datagram → Bool
  | respondSector _ index _ => decide (index = i)
  | _ => false

/-- The object is deleted once at most, and is not used when it has been deleted. -/
def SafeUse (log : List Event) : Prop :=
  Before .deleteFileWriteBuff (fun pre => .deleteFileWriteBuff ∉ pre) log ∧
    ∀ data, Before (.writeData data) (fun pre => .deleteFileWriteBuff ∉ pre) log

/-- No event is seen twice if and only if it never was seen before. -/
theorem before_not_mem_iff {e : Event} {log : List Event} :
    Before e (fun pre => e ∉ pre) log ↔ log.count e ≤ 1 := by
  induction log using List.reverseRecOn with
  | nil => exact iff_of_true (before_nil _ _) (Nat.zero_le 1)
  | append_singleton log x ih =>
    rw [before_concat, ih, List.count_append, List.count_singleton, ← List.count_eq_zero]
    simp only [beq_iff_eq]
    split_ifs with hx
    · constructor
      · rintro ⟨-, h⟩
        have := h hx
        omega
      · exact fun h => ⟨by omega, fun _ => by omega⟩
    · exact and_iff_left fun h => (hx h).elim

/-! ## The deletions of a run -/

/-- Of a client that shares a file and one that asks for it: each last block that has arrived has
deleted the object, and the file was complete by then. -/
structure Deletions (S : Peer) (toR delivered : List Datagram) (log : List Event) : Prop where
  delivered_sent : ∀ d ∈ delivered, d ∈ toR
  count_eq : log.count .deleteFileWriteBuff =
    delivered.countP (Datagram.isSector (S.readBlockSize - 1))
  complete : .deleteFileWriteBuff ∈ log → writes log = S.file ∧ 0 < S.readBlockSize
  not_written : ∀ data, Before (.writeData data) (fun pre => .deleteFileWriteBuff ∉ pre) log

namespace Deletions

variable {S R S' : Peer} {toR toS delivered toR' : List Datagram} {log : List Event}

/-- The deletions are as they should be when nothing has arrived. -/
theorem initial : Deletions S [] [] [] where
  delivered_sent _ h := h
  count_eq := rfl
  complete h := nomatch h
  not_written _ := before_nil _ _

/-- The object is used safely if and only if the last block has arrived once at most. -/
theorem safeUse_iff (h : Deletions S toR delivered log) :
    SafeUse log ↔ delivered.countP (Datagram.isSector (S.readBlockSize - 1)) ≤ 1 := by
  unfold SafeUse
  rw [before_not_mem_iff, h.count_eq]
  exact and_iff_left h.not_written

/-- The client that shares the file goes on with the same file. -/
theorem same_file (h : Deletions S toR delivered log) (hbuff : S'.fileReadBuff = S.fileReadBuff)
    (hsent : ∀ d ∈ toR, d ∈ toR') : Deletions S' toR' delivered log := by
  have hn : S'.readBlockSize = S.readBlockSize := by simp only [Peer.readBlockSize, hbuff]
  have hfile : S'.file = S.file := by simp only [Peer.file, hbuff]
  exact {
    delivered_sent := fun d hd => hsent d (h.delivered_sent d hd)
    count_eq := by rw [hn]; exact h.count_eq
    complete := by rw [hn, hfile]; exact h.complete
    not_written := h.not_written }

/-- Before there is a file nothing of one has arrived, so any file will do. -/
theorem new_file (h : Deletions S toR delivered log) (hstep : InStep S R toR toS log)
    (hnone : S.fileReadBuff = none) (hsent : ∀ d ∈ toR, d ∈ toR') :
    Deletions S' toR' delivered log := by
  obtain ⟨a, -, hsim⟩ := hstep
  obtain ⟨-, -, rfl⟩ := hsim.idle hnone
  have hn : S.readBlockSize = 0 := by simp [Peer.readBlockSize, hnone]
  have hsector : ∀ i, delivered.countP (Datagram.isSector i) = 0 := by
    intro i
    refine List.countP_eq_zero.mpr fun d hd hi => ?_
    cases d with
    | respondSector len index data =>
      obtain ⟨j, -, hmem⟩ := hsim.sector len index data (h.delivered_sent _ hd)
      cases hmem
    | _ => cases hi
  have hnot : Event.deleteFileWriteBuff ∉ log := by
    intro hmem
    have := (h.complete hmem).2
    omega
  exact {
    delivered_sent := fun d hd => hsent d (h.delivered_sent d hd)
    count_eq := by rw [hsector, List.count_eq_zero.mpr hnot]
    complete := fun hmem => (hnot hmem).elim
    not_written := h.not_written }

/-- The deletions stay as they should when neither a write nor a deletion is seen and no block
arrives. -/
theorem append (h : Deletions S toR delivered log) {es : List Event} (hwrites : writes es = [])
    (hdelete : .deleteFileWriteBuff ∉ es) {ds : List Datagram}
    (hds : ∀ d ∈ ds, d ∈ toR ∧ ∀ i, d.isSector i = false) :
    Deletions S toR (delivered ++ ds) (log ++ es) := by
  have hwrite : ∀ data, Event.writeData data ∉ es := by
    intro data he
    have hnone := List.filterMap_eq_nil_iff.mp hwrites _ he
    cases hnone
  have hsector : ds.countP (Datagram.isSector (S.readBlockSize - 1)) = 0 := by
    refine List.countP_eq_zero.mpr fun d hd hi => ?_
    rw [(hds d hd).2] at hi
    cases hi
  exact {
    delivered_sent := fun d hd =>
      (List.mem_append.mp hd).elim (h.delivered_sent d) fun hd => (hds d hd).1
    count_eq := by
      rw [List.count_append, List.countP_append, hsector, List.count_eq_zero.mpr hdelete,
        h.count_eq]
    complete := fun hmem => by
      rw [writes_append, hwrites, List.append_nil]
      exact h.complete ((List.mem_append.mp hmem).resolve_right hdelete)
    not_written := fun data => (before_append (hwrite data)).mpr (h.not_written data) }

/-- The deletions stay as they should be when a block arrives. -/
theorem receive_sector (h : Deletions S toR delivered log) (hstep : InStep S R toR toS log)
    {len i : ℤ} {data : List UInt8} (hd : .respondSector len i data ∈ toR) :
    Deletions S toR (delivered ++ [.respondSector len i data])
      (log ++ (R.receiveSector len i data).2) := by
  obtain ⟨a, ha, hsim⟩ := hstep
  have hinv := StopAndWait.Invariant.of_reachable ha
  have hlast := hsim.writes_last ha hd
  obtain ⟨j, rfl, hmem⟩ := hsim.sector len i data hd
  have hpos := hsim.position_of_item hmem
  obtain ⟨hsize, hlt⟩ := hsim.started (by omega)
  have hnext := hsim.accepted_length
  -- When the object has been deleted all blocks were accepted, and this one does not come next.
  have hdeleted : .deleteFileWriteBuff ∈ log → writes (R.receiveSector len j data).2 = [] := by
    intro hdel
    have hall := hsim.accepted_eq.symm.trans (h.complete hdel).1
    have hne := hinv.accept_eq_of_all hmem hall
    rw [writes_receiveSector, if_neg (by omega)]
  obtain ⟨created, hcreated, heq⟩ := snd_receiveSector R len j data
  generalize hfirst : created ++ (if R.currentWritefileBlockPosition = j then
    [Event.writeData (data.take len.toNat)] else []) ++
    [Event.sendto .remoteaddr (.respondApkSector j)] = first at heq
  have hnot : Event.deleteFileWriteBuff ∉ first := by
    intro hdel
    rw [← hfirst, List.mem_append, List.mem_append] at hdel
    obtain (hdel | hdel) | hdel := hdel
    · exact nomatch hcreated _ hdel
    · split_ifs at hdel <;> simp at hdel
    · simp at hdel
  refine {
    delivered_sent := fun d hd' => ?_
    count_eq := ?_
    complete := fun hdel => ?_
    not_written := fun data' => ?_ }
  · obtain hd' | hd' := List.mem_append.mp hd'
    · exact h.delivered_sent d hd'
    · rw [List.mem_singleton.mp hd']
      exact hd
  · rw [heq, List.count_append, List.count_append, List.count_eq_zero.mpr hnot,
      List.countP_append, List.countP_singleton, h.count_eq, hsize]
    simp only [Datagram.isSector, decide_eq_true_eq]
    split_ifs <;> rfl
  · refine ⟨?_, by omega⟩
    obtain hdel | hdel := List.mem_append.mp hdel
    · rw [writes_append, hdeleted hdel, List.append_nil]
      exact (h.complete hdel).1
    · rw [heq] at hdel
      obtain hdel := (List.mem_append.mp hdel).resolve_left hnot
      split_ifs at hdel with hj
      · exact hlast hj
      · cases hdel
  · by_cases hdel : .deleteFileWriteBuff ∈ log
    · have hwrite : Event.writeData data' ∉ (R.receiveSector len j data).2 := fun he =>
        nomatch List.filterMap_eq_nil_iff.mp (hdeleted hdel) _ he
      exact (before_append hwrite).mpr (h.not_written data')
    · rw [heq, ← List.append_assoc, before_append (by split_ifs <;> simp)]
      exact before_of_not_mem fun hmem' => (List.mem_append.mp hmem').elim hdel hnot

end Deletions

/-! ## Runs -/

/-- The deletions of the client that has asked for a file, in the transfer from a client to the
other one. -/
def State.Deletions (st : State) (s : Side) : Prop :=
  Transfer.Deletions (st.peer s) (st.sent s.other) (st.delivered s.other) (st.log s.other)

namespace State

variable {st : State} {s : Side}

/-- The deletions stay as they should be when the client that shares the file acts and `ds` has
arrived at it. -/
theorem deletions_after_self {r : Peer × List Event} {ds : List Datagram}
    (h : Transfer.Deletions r.1 (st.sent s.other ++ sends r.2) (st.delivered s.other)
      (st.log s.other)) :
    State.Deletions { st.after s r with
      delivered := Function.update st.delivered s (st.delivered s ++ ds) } s := by
  unfold State.Deletions State.after
  simpa [Function.update_of_ne, Side.other_ne, (Side.other_ne s).symm] using h

/-- The deletions stay as they should be when the client that asks for the file acts and `ds` has
arrived at it. -/
theorem deletions_after_other {r : Peer × List Event} {ds : List Datagram}
    (h : Transfer.Deletions (st.peer s) (st.sent s.other) (st.delivered s.other ++ ds)
      (st.log s.other ++ r.2)) :
    State.Deletions { st.after s.other r with
      delivered := Function.update st.delivered s.other (st.delivered s.other ++ ds) } s := by
  unfold State.Deletions State.after
  simpa [Function.update_of_ne, Side.other_ne, (Side.other_ne s).symm] using h

/-- Delivering nothing changes nothing. -/
theorem deliver_nil (st : State) (q : Side) (r : Peer × List Event) :
    { st.after q r with delivered := Function.update st.delivered q (st.delivered q ++ []) } =
      st.after q r := by
  rw [List.append_nil, Function.update_eq_self]
  rfl

/-- The deletions stay as they should be when a datagram arrives at the client that asks for the
file. -/
theorem Deletions.receive_asking (h : st.Deletions s) (hstep : st.InStep s)
    (open_ : CString → Option (List UInt8)) (typed : CString) {d : Datagram}
    (hd : d ∈ st.sent s.other) :
    Transfer.Deletions (st.peer s) (st.sent s.other) (st.delivered s.other ++ [d])
      (st.log s.other ++ ((st.peer s.other).receiveThreadFunction open_ typed d).2) := by
  -- Only a block can lead to a deletion.
  have hds : (∀ i, d.isSector i = false) →
      ∀ d' ∈ [d], d' ∈ st.sent s.other ∧ ∀ i, d'.isSector i = false := by
    intro hsector d' hd'
    obtain rfl := List.mem_singleton.mp hd'
    exact ⟨hd, hsector⟩
  cases hof : d.isOfFile with
  | false =>
    have hk := receive_keepsAsking open_ typed (st.peer s.other) hof
    have hsector : ∀ i, d.isSector i = false := by
      intro i
      cases d with
      | respondSector len index data => cases hof
      | _ => rfl
    exact Transfer.Deletions.append h hk.writes_eq hk.not_delete (hds hsector)
  | true =>
    cases d with
    | respondFileDesc size =>
      have hno :
          Event.deleteFileWriteBuff ∉ [Event.sendto .remoteaddr .respondApkFileDesc] := by simp
      exact Transfer.Deletions.append h rfl hno (hds fun _ => rfl)
    | respondSector len i data => exact Transfer.Deletions.receive_sector h hstep hd
    | _ => cases hof

/-- An action keeps the deletions. -/
theorem Deletions.act (h : st.Deletions s) (hstep : st.InStep s)
    (open_ : Side → CString → Option (List UInt8)) (action : Action) :
    (act open_ st action).Deletions s := by
  -- The send thread of the client that asks for the file, if it shares one too.
  have hthread : ∀ r, KeepsAsking (st.peer s.other) r → (st.after s.other r).Deletions s := by
    intro r hr
    rw [← deliver_nil]
    exact deletions_after_other (Transfer.Deletions.append h hr.writes_eq hr.not_delete
      (by simp))
  cases action with
  | announce q d =>
    simp only [Transfer.act]
    split_ifs
    case neg => exact h
    refine Transfer.Deletions.same_file h rfl fun d' hd' => ?_
    by_cases hq : s.other = q
    · subst hq
      show d' ∈ Function.update st.sent s.other (st.sent s.other ++ [d]) s.other
      rw [Function.update_self]
      exact List.mem_append_left _ hd'
    · show d' ∈ Function.update st.sent q (st.sent q ++ [d]) s.other
      rwa [Function.update_of_ne hq]
  | deliver q i typed =>
    simp only [Transfer.act]
    split
    · exact h
    · next d hd =>
      have hmem := List.mem_of_getElem? hd
      obtain rfl | rfl := q.eq_or_eq_other s
      · apply deletions_after_self
        obtain hsame | ⟨hnone, -⟩ := fileReadBuff_receive (open_ q) typed (st.peer q) d
        · exact Transfer.Deletions.same_file h hsame fun _ => List.mem_append_left _
        · exact Transfer.Deletions.new_file h hstep hnone fun _ => List.mem_append_left _
      · exact deletions_after_other (h.receive_asking hstep (open_ s.other) typed hmem)
  | readPosition q =>
    obtain rfl | rfl := q.eq_or_eq_other s
    · show (st.after q _).Deletions q
      rw [← deliver_nil]
      exact deletions_after_self (Transfer.Deletions.same_file h (fileReadBuff_readPosition _)
        fun _ => List.mem_append_left _)
    · exact hthread _ (readPosition_keepsAsking _)
  | sendSectorData q =>
    obtain rfl | rfl := q.eq_or_eq_other s
    · show (st.after q _).Deletions q
      rw [← deliver_nil]
      exact deletions_after_self (Transfer.Deletions.same_file h (fileReadBuff_sendSectorData _)
        fun _ => List.mem_append_left _)
    · exact hthread _ (sendSectorData_keepsAsking _)

end State

/-- In every run the deletions of each side are as they should be. -/
theorem run_deletions (open_ : Side → CString → Option (List UInt8)) (actions : List Action)
    (s : Side) : (run open_ actions).Deletions s := by
  unfold run
  induction actions using List.reverseRecOn with
  | nil => exact Transfer.Deletions.initial
  | append_singleton actions action ih =>
    rw [List.foldl_append]
    exact ih.act (run_inStep open_ actions s) open_ action

/-! ## Main result -/

/-- In every run, in either direction: the client that asked for the file uses the object that
writes it safely if and only if the last block has arrived once at most. -/
theorem run_safeUse_iff (open_ : Side → CString → Option (List UInt8)) (actions : List Action)
    (s : Side) :
    SafeUse ((run open_ actions).log s.other) ↔
      ((run open_ actions).delivered s.other).countP
        (Datagram.isSector (((run open_ actions).peer s).readBlockSize - 1)) ≤ 1 :=
  (run_deletions open_ actions s).safeUse_iff

/-- A file of one block, which is sent again before its acknowledgement arrives: the object is
deleted when it has been deleted. -/
theorem not_safeUse_of_sent_again :
    ¬ SafeUse ((run (fun _ _ => some [1, 2, 3])
      [.announce .left (.requestDoConnect [10, 0, 0, 1] 5000), .deliver .left 0 ⟨[], by decide⟩,
      .deliver .right 0 ⟨[97], by decide⟩, .deliver .left 1 ⟨[], by decide⟩,
      .deliver .right 1 ⟨[], by decide⟩, .deliver .left 2 ⟨[], by decide⟩,
      .readPosition .left, .sendSectorData .left, .deliver .right 2 ⟨[], by decide⟩,
      .readPosition .left, .sendSectorData .left, .deliver .right 3 ⟨[], by decide⟩]).log .right) :=
  fun h => absurd (before_not_mem_iff.mp h.1) (by decide +kernel)

end Transfer

end Stun
