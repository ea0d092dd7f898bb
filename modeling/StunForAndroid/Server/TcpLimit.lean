import StunForAndroid.Server.TcpRun

/-!
# The limit of connections

`Run` keeps to `_maxConnections` by not polling the listening sockets while there are as many
connections. With `CEpoll` that does not reach an event that was fetched before in the same batch:
it is handed out all the same, and the connection is accepted. Nor does it reach a listening socket
that stays polled because the system has refused a call of `epoll_ctl`, after which
`_fListenSocketsOnEpoll` does not say what is polled. `withinLimit_iff` is that a run keeps to the
limit exactly if no round gets to an event of a listening socket with as many connections and
accepts one (`AcceptsBeyond`). With one listening socket no round does as long as
`SetListenSocketsOnEpoll` does not fail (`withinLimit_of_one`), with two it may happen
(`not_withinLimit_of_two`).
-/

namespace Stun

namespace CTCPStunThread

variable {cfg : TcpConfig}

/-! ## The listening sockets -/

/-- What `Init` has opened: different listening sockets for some of the roles, and the pipe. -/
structure Opened where
  /-- `_socketTable`. -/
  socketTable : SocketRole → ℤ
  /-- `_pipe[0]`. -/
  pipe : ℤ
  /-- The descriptors that are open. -/
  descriptors : List ℤ
  socketTable_open : ∀ role, socketTable role ≠ -1 → socketTable role ∈ descriptors
  socketTable_inj : ∀ role role', socketTable role ≠ -1 → socketTable role = socketTable role' →
    role = role'
  pipe_open : pipe ∈ descriptors
  socketTable_ne_pipe : ∀ role, socketTable role ≠ -1 → socketTable role ≠ pipe

/-- The listening sockets. -/
def Opened.listening (s : Opened) : Set ℤ := {fd | fd ≠ -1 ∧ ∃ role, s.socketTable role = fd}

/-- The thread when `Init` is done. None of the calls of `epoll_ctl` in `Init` was refused, for then
it would have failed; what the system answers to those that come is given. -/
def Opened.thread (s : Opened) (cfg : TcpConfig) (ctls : List (Option UInt16))
    (waits : List (Option (List ℤ))) (time : ℤ) : CTCPStunThread CEpoll cfg :=
  let t := init CEpoll.polling
    (start (CEpoll.initialize_ (cfg.maxConnections + 5) waits) s.socketTable s.pipe
      s.descriptors time)
  { t with spPolling := { t.spPolling with ctls := ctls } }

/-- The thread has the listening sockets and the pipe that `Init` has opened, and what is polled is
open. -/
structure Listens (s : Opened) (t : CTCPStunThread CEpoll cfg) : Prop where
  socketTable : t.socketTable = s.socketTable
  pipe : t.pipe = s.pipe
  counted : t.spPolling.Counted
  polled : ∀ fd ∈ t.spPolling.polled, fd ∈ t.descriptors

/-- The listening sockets are polled while the flag says so. -/
def Follows (s : Opened) (t : CTCPStunThread CEpoll cfg) : Prop :=
  ∀ fd ∈ s.listening, fd ∈ t.spPolling.polled ↔ t.fListenSocketsOnEpoll = true

/-- `GetListenSocket` finds the listening sockets. -/
theorem getListenSocket_isSome_iff {s : Opened} {t : CTCPStunThread CEpoll cfg}
    (h : t.socketTable = s.socketTable) {fd : ℤ} :
    (t.getListenSocket fd).isSome ↔ fd ∈ s.listening := by
  unfold getListenSocket
  rw [h]
  show _ ↔ fd ≠ -1 ∧ ∃ role, s.socketTable role = fd
  split
  next hne =>
    rw [List.find?_isSome]
    constructor
    · rintro ⟨role, -, hrole⟩
      exact ⟨hne, role, of_decide_eq_true hrole⟩
    · rintro ⟨-, role, hrole⟩
      exact ⟨role, by cases role <;> decide, decide_eq_true hrole⟩
  next heq => simp [heq]

/-! ### What serving connections does to the polling -/

/-- What does not change in the polling: what is pending, and which of some descriptors are polled;
and what is polled stays open. -/
structure SamePolling (kept : Set ℤ) (x y : CEpoll × List ℤ) : Prop where
  events : x.1.SameEvents y.1
  kept : ∀ fd ∈ kept, fd ∈ y.1.polled ↔ fd ∈ x.1.polled
  polled : (∀ fd ∈ x.1.polled, fd ∈ x.2) → ∀ fd ∈ y.1.polled, fd ∈ y.2

/-- A step of the thread changes neither. -/
theorem PollStep.samePolling {kept : Set ℤ} {x y : CEpoll × List ℤ}
    (h : PollStep CEpoll.polling kept x y) : SamePolling kept x y := by
  cases h with
  | change p descriptors fd =>
    obtain ⟨hsame, hpolled⟩ := CEpoll.changeEventSet_spec fd p
    refine ⟨hsame, fun fd' _ => ?_, fun h fd' hfd' => h fd' (hpolled ▸ hfd')⟩
    exact iff_of_eq (congrArg (fd' ∈ ·) hpolled)
  | accept p descriptors fd =>
    exact ⟨.refl p, fun _ _ => Iff.rfl, fun h fd' hfd' => List.mem_cons_of_mem _ (h fd' hfd')⟩
  | @add p descriptors fd hopen hfd =>
    obtain ⟨hsame, -, hpolled⟩ := CEpoll.add_spec fd p
    refine ⟨hsame, fun fd' hfd' => ?_, fun h fd' hfd' => ?_⟩
    · refine (hpolled fd').trans (or_iff_left ?_)
      rintro ⟨rfl, -⟩
      exact hfd hfd'
    · rcases (hpolled fd').mp hfd' with hfd' | ⟨rfl, -⟩
      · exact h fd' hfd'
      · exact hopen
  | @close p descriptors s hs =>
    obtain ⟨hsame, hpolled⟩ := CEpoll.drop_spec s.sock p
    refine ⟨hsame, fun fd' hfd' => ?_, fun h fd' hfd' => ?_⟩
    · refine (hpolled fd').trans (and_iff_left (Or.inl ?_))
      rintro rfl
      exact hs hfd'
    · -- What is closed is not polled any more.
      obtain ⟨hfd', hne⟩ := (hpolled fd').mp hfd'
      show fd' ∈ (s.close descriptors).2
      unfold CStunSocket.close
      split
      next hsock => exact List.mem_filter.mpr ⟨h fd' hfd', decide_eq_true (hne.resolve_right hsock)⟩
      next => exact h fd' hfd'

/-- No number of steps of the thread changes what is pending, or which of the kept descriptors are
polled. -/
theorem samePolling_of_steps {kept : Set ℤ} {x y : CEpoll × List ℤ}
    (h : Relation.ReflTransGen (PollStep CEpoll.polling kept) x y) : SamePolling kept x y := by
  induction h with
  | refl => exact ⟨.refl _, fun _ _ => Iff.rfl, id⟩
  | tail _ hstep ih =>
    have hstep := hstep.samePolling
    exact ⟨ih.events.trans hstep.events, fun fd hfd => (hstep.kept fd hfd).trans (ih.kept fd hfd),
      hstep.polled ∘ ih.polled⟩

/-- Serving connections leaves the listening sockets as they are. -/
theorem Listens.same {s : Opened} {t t' : CTCPStunThread CEpoll cfg} (hl : Listens s t)
    (h : SameListen CEpoll.polling s.listening t t') :
    Listens s t' ∧ t.spPolling.SameEvents t'.spPolling ∧ (Follows s t → Follows s t') := by
  have hsame := samePolling_of_steps h.polls
  refine ⟨⟨h.socketTable.trans hl.socketTable, h.pipe.trans hl.pipe,
    hsame.events.counted hl.counted,
    hsame.polled hl.polled⟩, hsame.events, fun hf fd hfd => ?_⟩
  rw [h.fListenSocketsOnEpoll]
  exact (hsame.kept fd hfd).trans (hf fd hfd)

/-! ### What the loop does to the listening sockets -/

/-- A listening socket that is to be polled, or not to be polled any more. -/
theorem setListen_spec {fEnable : Bool} {fd : ℤ} (hfd : fd ≠ -1) (e : CEpoll) {r : HRESULT × CEpoll}
    (hr : r = if fEnable then e.add fd else e.remove fd) :
    e.SameEvents r.2 ∧ (∀ fd' ≠ fd, fd' ∈ r.2.polled ↔ fd' ∈ e.polled) ∧
      (¬ failed r.1 → (fd ∈ r.2.polled ↔ fEnable = true)) ∧
      ((fd ∈ e.polled ↔ fEnable = false) → e.refusal = none → ¬ failed r.1) := by
  cases fEnable with
  | true =>
    rw [if_pos rfl] at hr
    obtain ⟨hsame, hok, hpolled⟩ := CEpoll.add_spec fd e
    rw [← hr] at hsame hok hpolled
    refine ⟨hsame, fun fd' hne => ?_, fun hnot => ?_, fun hiff hnone => ?_⟩
    · exact (hpolled fd').trans (or_iff_left fun h => hne h.1)
    · exact iff_of_true ((hpolled fd).mpr (Or.inr ⟨rfl, hnot⟩)) rfl
    · exact (hok hfd fun hin => Bool.noConfusion (hiff.mp hin)).mpr hnone
  | false =>
    rw [if_neg (by simp)] at hr
    obtain ⟨hsame, hok, hpolled⟩ := CEpoll.remove_spec fd e
    rw [← hr] at hsame hok hpolled
    refine ⟨hsame, fun fd' hne => ?_, fun hnot => ?_, fun hiff hnone => ?_⟩
    · exact (hpolled fd').trans (and_iff_left fun heq => absurd heq hne)
    · exact iff_of_false (fun hin => hnot (((hpolled fd).mp hin).2 rfl)) (by simp)
    · exact (hok hfd (hiff.mpr rfl)).mpr hnone

section SetListenLoop

variable {socketTable : SocketRole → ℤ} {fEnable : Bool}

/-- The loop of `SetListenSocketsOnEpoll` when the first role has a socket. -/
theorem setListenLoop_cons (fEnable : Bool) {role : SocketRole} (hsome : socketTable role ≠ -1)
    (rs : List SocketRole) (e : CEpoll) :
    ∃ r, (r = if fEnable then e.add (socketTable role) else e.remove (socketTable role)) ∧
      setListenLoop CEpoll.polling fEnable socketTable (role :: rs) e =
        if failed r.1 then r else setListenLoop CEpoll.polling fEnable socketTable rs r.2 := by
  refine ⟨_, rfl, ?_⟩
  rw [setListenLoop, if_neg hsome]
  rfl

/-- The loop of `SetListenSocketsOnEpoll` changes nothing but whether the sockets are polled, and
what it polls is what it should if it does not fail. -/
theorem setListenLoop_spec (rs : List SocketRole) (e : CEpoll) :
    e.SameEvents (setListenLoop CEpoll.polling fEnable socketTable rs e).2 ∧
      (∀ fd, (∀ role ∈ rs, socketTable role ≠ -1 → socketTable role ≠ fd) →
        (fd ∈ (setListenLoop CEpoll.polling fEnable socketTable rs e).2.polled ↔ fd ∈ e.polled)) ∧
      (¬ failed (setListenLoop CEpoll.polling fEnable socketTable rs e).1 →
        ∀ role ∈ rs, socketTable role ≠ -1 →
          (socketTable role ∈ (setListenLoop CEpoll.polling fEnable socketTable rs e).2.polled ↔
            fEnable = true)) := by
  induction rs generalizing e with
  | nil => exact ⟨.refl e, fun _ _ => Iff.rfl, fun _ role hrole => absurd hrole List.not_mem_nil⟩
  | cons role rs ih =>
    by_cases hnone : socketTable role = -1
    · obtain ⟨hsame, hothers, hroles⟩ := ih e
      have hloop : setListenLoop CEpoll.polling fEnable socketTable (role :: rs) e =
          setListenLoop CEpoll.polling fEnable socketTable rs e := by
        rw [setListenLoop, if_pos hnone]
      rw [hloop]
      refine ⟨hsame, fun fd hfd => hothers fd fun role' hrole' => hfd role' (.tail _ hrole'), ?_⟩
      intro hok role' hrole' hne
      refine hroles hok role' ((List.mem_cons.mp hrole').resolve_left ?_) hne
      rintro rfl
      exact hne hnone
    · obtain ⟨r, hr, hloop⟩ := setListenLoop_cons fEnable hnone rs e
      obtain ⟨hsame₁, hothers₁, hpolled₁, -⟩ := setListen_spec hnone e hr
      rw [hloop]
      split
      next hfail =>
        refine ⟨hsame₁, fun fd hfd => ?_, fun hok => absurd hfail hok⟩
        exact hothers₁ fd (hfd role List.mem_cons_self hnone).symm
      next hok₁ =>
        obtain ⟨hsame, hothers, hroles⟩ := ih r.2
        refine ⟨hsame₁.trans hsame, fun fd hfd => ?_, fun hok role' hrole' hne => ?_⟩
        · rw [hothers fd fun role' hrole' => hfd role' (.tail _ hrole')]
          exact hothers₁ fd (hfd role List.mem_cons_self hnone).symm
        · by_cases hagain : ∃ role'' ∈ rs, socketTable role'' = socketTable role'
          · obtain ⟨role'', hrole'', heq⟩ := hagain
            exact heq ▸ hroles hok role'' hrole'' (heq.symm ▸ hne)
          · -- The first role's socket is none of the others.
            push Not at hagain
            rcases List.mem_cons.mp hrole' with rfl | hrole'
            · rw [hothers _ fun role'' hrole'' _ => hagain role'' hrole'']
              exact hpolled₁ hok₁
            · exact absurd rfl (hagain role' hrole')

/-- The loop does not fail if the system refuses nothing and no socket is already as it should
be. -/
theorem setListenLoop_ok {rs : List SocketRole} (hnodup : rs.Nodup)
    (hinj : ∀ role role', socketTable role ≠ -1 → socketTable role = socketTable role' →
      role = role')
    {e : CEpoll} (hctls : ∀ x ∈ e.ctls, x = none)
    (h : ∀ role ∈ rs, socketTable role ≠ -1 → (socketTable role ∈ e.polled ↔ fEnable = false)) :
    ¬ failed (setListenLoop CEpoll.polling fEnable socketTable rs e).1 := by
  induction rs generalizing e with
  | nil => exact (by decide : ¬ failed S_OK)
  | cons role rs ih =>
    obtain ⟨hnotMem, hnodup⟩ := List.nodup_cons.mp hnodup
    by_cases hnone : socketTable role = -1
    · rw [setListenLoop, if_pos hnone]
      exact ih hnodup hctls fun role' hrole' => h role' (.tail _ hrole')
    · obtain ⟨r, hr, hloop⟩ := setListenLoop_cons fEnable hnone rs e
      obtain ⟨hsame, hothers, -, hok⟩ := setListen_spec hnone e hr
      rw [hloop, if_neg (hok (h role List.mem_cons_self hnone) (e.refusal_eq_none hctls))]
      refine ih hnodup (fun x hx => hctls x (hsame.ctls.subset hx)) fun role' hrole' hne => ?_
      -- The other listening sockets are different ones.
      have hother : socketTable role' ≠ socketTable role := fun heq =>
        hnotMem (hinj role role' hnone heq.symm ▸ hrole')
      exact (hothers _ hother).trans (h role' (.tail _ hrole') hne)

end SetListenLoop

/-- `SetListenSocketsOnEpoll` polls the listening sockets as the flag says, if the flag is what it
was called for. -/
theorem Listens.setListenSocketsOnEpoll {s : Opened} {t : CTCPStunThread CEpoll cfg}
    (hl : Listens s t) (hopen : ∀ fd ∈ s.listening, fd ∈ t.descriptors) (fEnable : Bool) :
    Listens s (t.setListenSocketsOnEpoll CEpoll.polling fEnable) ∧
      t.spPolling.SameEvents (t.setListenSocketsOnEpoll CEpoll.polling fEnable).spPolling ∧
      (Follows s t →
        (t.setListenSocketsOnEpoll CEpoll.polling fEnable).fListenSocketsOnEpoll = fEnable →
        Follows s (t.setListenSocketsOnEpoll CEpoll.polling fEnable)) := by
  unfold CTCPStunThread.setListenSocketsOnEpoll
  split
  next hne =>
    obtain ⟨hsame, hothers, hroles⟩ :=
      @setListenLoop_spec t.socketTable fEnable roles t.spPolling
    refine ⟨⟨hl.socketTable, hl.pipe, hsame.counted hl.counted, fun fd hfd => ?_⟩, hsame, ?_⟩
    · by_cases hlisten : fd ∈ s.listening
      · exact hopen fd hlisten
      refine hl.polled fd ((hothers fd fun role _ hne heq => ?_).mp hfd)
      exact hlisten ⟨heq ▸ hne, role, hl.socketTable ▸ heq⟩
    · rintro - hflag fd ⟨hfd, role, hrole⟩
      rw [hflag, ← hrole, ← hl.socketTable]
      refine hroles (fun hfail => hne ?_) role (by cases role <;> decide) ?_
      · rw [← hflag]
        exact if_pos hfail
      · rw [hl.socketTable, hrole]
        exact hfd
  next heq => exact ⟨hl, .refl _, fun hf _ => hf⟩

/-- A thread to which the system has nothing to answer is as `Init` leaves it. -/
theorem Opened.thread_nil (s : Opened) (waits : List (Option (List ℤ))) (time : ℤ) :
    s.thread cfg [] waits time = init CEpoll.polling (start
      (CEpoll.initialize_ (cfg.maxConnections + 5) waits) s.socketTable s.pipe
        s.descriptors time) := by
  obtain ⟨t₀, ht₀⟩ : ∃ t₀ : CTCPStunThread CEpoll cfg, t₀ =
      start (CEpoll.initialize_ (cfg.maxConnections + 5) waits) s.socketTable s.pipe s.descriptors
        time := ⟨_, rfl⟩
  have hnone : t₀.spPolling.ctls = [] := ht₀ ▸ rfl
  have hset : (t₀.setListenSocketsOnEpoll CEpoll.polling true).spPolling.ctls <:+
      t₀.spPolling.ctls := by
    unfold CTCPStunThread.setListenSocketsOnEpoll
    split
    · exact (setListenLoop_spec roles t₀.spPolling).1.ctls
    · exact List.suffix_refl _
  have hctls : (t₀.init CEpoll.polling).spPolling.ctls = [] :=
    List.suffix_nil.mp (hnone ▸ (CEpoll.add_spec _ _).1.ctls.trans hset)
  unfold Opened.thread
  rw [← ht₀, ← hctls]

/-- `SetListenSocketsOnEpoll` does not fail if the system refuses nothing. -/
theorem Follows.setListenSocketsOnEpoll {s : Opened} {t : CTCPStunThread CEpoll cfg}
    (hf : Follows s t) (hl : Listens s t) (hctls : ∀ x ∈ t.spPolling.ctls, x = none)
    (fEnable : Bool) :
    (t.setListenSocketsOnEpoll CEpoll.polling fEnable).fListenSocketsOnEpoll = fEnable := by
  unfold CTCPStunThread.setListenSocketsOnEpoll
  split
  next hne =>
    rw [hl.socketTable]
    refine if_neg (setListenLoop_ok (by decide) s.socketTable_inj hctls fun role _ hrole => ?_)
    -- The flag says what is polled, and it is about to change.
    rw [hf _ ⟨hrole, role, rfl⟩]
    revert hne
    cases fEnable <;> cases t.fListenSocketsOnEpoll <;> simp
  next heq => exact (not_not.mp heq).symm

/-- The event that a round waits for is one of those that are upcoming when
`SetListenSocketsOnEpoll` has been called. -/
theorem Listens.awaited {s : Opened} {t : CTCPStunThread CEpoll cfg} (hl : Listens s t)
    (hopen : ∀ fd ∈ s.listening, fd ∈ t.descriptors) :
    Listens s (t.awaited CEpoll.polling).2 ∧
      CEpoll.Waited (t.setListenSocketsOnEpoll CEpoll.polling (!t.isConnectionCountAtMax)).spPolling
        (t.awaited CEpoll.polling).1 (t.awaited CEpoll.polling).2.spPolling ∧
      (t.awaited CEpoll.polling).2.spPolling.ctls =
        (t.setListenSocketsOnEpoll CEpoll.polling (!t.isConnectionCountAtMax)).spPolling.ctls ∧
      (t.awaited CEpoll.polling).2.spPolling.polled =
        (t.setListenSocketsOnEpoll CEpoll.polling
          (!t.isConnectionCountAtMax)).spPolling.polled := by
  obtain ⟨hl₁, -, -⟩ := hl.setListenSocketsOnEpoll hopen (!t.isConnectionCountAtMax)
  obtain ⟨hpolled, hctls, hcounted, hwaited⟩ := CEpoll.waitForNextEvent_spec hl₁.counted
  exact ⟨⟨hl₁.socketTable, hl₁.pipe, hcounted,
    fun fd hfd => hl₁.polled fd (hpolled ▸ hfd)⟩, hwaited,
    hctls, hpolled⟩

/-! ## Keeping to the limit -/

/-- There are no more connections than may be, there were none after any `Insert`, and none of the
`Insert`s failed. -/
def WithinLimit (t : CTCPStunThread CEpoll cfg) : Prop :=
  t.connectionCount ≤ cfg.maxConnections ∧ ∀ x ∈ t.inserts, x.1 ≠ -1 ∧ x.2 ≤ cfg.maxConnections

/-- The polling when `SetListenSocketsOnEpoll` was called to poll the listening sockets no more,
whatever has come of it. -/
def stopped (t : CTCPStunThread CEpoll cfg) : CEpoll :=
  (t.setListenSocketsOnEpoll CEpoll.polling false).spPolling

/-- With as many connections as may be, the next event is of a listening socket all the same, and a
connection is to be had and can be set up. The event is left from a batch that was fetched before,
or the first one of a batch that `epoll_wait` tells of, where the socket is still polled. -/
def AcceptsBeyond (i : RoundInput) (t : CTCPStunThread CEpoll cfg) : Prop :=
  i.fNeedToExit = false ∧ i.fNeedToExitAfterWait = false ∧ t.isConnectionCountAtMax = true ∧
    (∃ fd, t.stopped.upcoming.head? = some fd ∧ (t.getListenSocket fd).isSome) ∧
    t.CanTake i.accept ∧ ¬ failed i.accept.setNonBlocking ∧ t.stopped.refusal = none

/-- No round of the loop accepts a connection beyond the limit. -/
def NeverBeyond : List RoundInput → CTCPStunThread CEpoll cfg → Prop
  | [], _ => True
  | i :: rest, t =>
    ¬ t.AcceptsBeyond i ∧
      ∀ t', t.round CEpoll.polling i = some (t', true) → NeverBeyond rest t'

/-! ### A round -/

/-- What holds in the loop. -/
structure Running (s : Opened) (t : CTCPStunThread CEpoll cfg) : Prop where
  books : ∃ items, Books s.listening t items []
  listens : Listens s t

/-- The wait writes the polling and the flag. -/
theorem awaited_eq (t : CTCPStunThread CEpoll cfg) :
    (t.awaited CEpoll.polling).2 = { t with
      spPolling := (t.awaited CEpoll.polling).2.spPolling
      fListenSocketsOnEpoll := (t.awaited CEpoll.polling).2.fListenSocketsOnEpoll } := by
  unfold awaited
  dsimp only
  rw [setListenSocketsOnEpoll_eq]

/-- After the wait there are as many connections as before. -/
theorem connectionCount_awaited (t : CTCPStunThread CEpoll cfg) :
    (t.awaited CEpoll.polling).2.connectionCount = t.connectionCount := by
  rw [awaited_eq]
  rfl

/-- The wait makes no `Insert`. -/
theorem inserts_awaited (t : CTCPStunThread CEpoll cfg) :
    (t.awaited CEpoll.polling).2.inserts = t.inserts := by
  rw [awaited_eq]

/-- The limit is reached when there are as many connections as may be. -/
theorem isConnectionCountAtMax_iff (t : CTCPStunThread CEpoll cfg) :
    t.isConnectionCountAtMax = true ↔ cfg.maxConnections ≤ t.connectionCount := by
  unfold isConnectionCountAtMax
  rw [decide_eq_true_iff]

/-- One table is not larger than both. -/
theorem getSize_le_connectionCount (t : CTCPStunThread CEpoll cfg) :
    (t.hashConnections t.pNewConnList).getSize ≤ t.connectionCount :=
  Nat.le_add_right _ _

/-- A connection is accepted on a listening socket if there is one to be had that can be set up:
`Add` does not fail for a descriptor that was not open unless the system refuses it. -/
theorem Listens.acceptsOn_iff {s : Opened} {t : CTCPStunThread CEpoll cfg} (hl : Listens s t)
    (hopen : ∀ fd ∈ s.listening, fd ∈ t.descriptors) (fd : ℤ) (a : AcceptAnswer) :
    (t.awaited CEpoll.polling).2.AcceptsOn CEpoll.polling fd a ↔
      fd ∈ s.listening ∧ t.CanTake a ∧ ¬ failed a.setNonBlocking ∧
        (t.setListenSocketsOnEpoll CEpoll.polling
          (!t.isConnectionCountAtMax)).spPolling.refusal = none := by
  obtain ⟨hw, -, hctls, -⟩ := hl.awaited hopen
  have haccept : (t.awaited CEpoll.polling).2.accept a = t.accept a := by
    rw [awaited_eq]
    rfl
  have htake : (t.awaited CEpoll.polling).2.CanTake a ↔ t.CanTake a := by
    rw [awaited_eq]
    rfl
  unfold AcceptsOn Admits
  rw [getListenSocket_isSome_iff hw.socketTable, htake]
  refine and_congr_right fun _ => and_congr_right fun hcan => and_congr_right fun _ => ?_
  have hnot : t.accept a ∉ (t.awaited CEpoll.polling).2.spPolling.polled := by
    intro hin
    have hopen' := hw.polled _ hin
    rw [awaited_eq] at hopen'
    exact accept_notMem hcan.1 hopen'
  rw [haccept]
  refine ((CEpoll.add_spec _ _).2.1 hcan.1 hnot).trans ?_
  unfold CEpoll.refusal
  rw [hctls]

/-- The event at hand in a round that would accept beyond the limit is the one that the condition
names. -/
theorem Running.acceptsBeyond_iff {s : Opened} {t : CTCPStunThread CEpoll cfg} (hr : Running s t)
    (i : RoundInput) (hok : (t.awaited CEpoll.polling).1.hr = S_OK)
    (hgo : i.fNeedToExit = false ∧ i.fNeedToExitAfterWait = false) :
    t.AcceptsBeyond i ↔ t.isConnectionCountAtMax = true ∧
      (t.awaited CEpoll.polling).2.AcceptsOn CEpoll.polling (t.awaited CEpoll.polling).1.fd
        i.accept := by
  obtain ⟨items, hb⟩ := hr.books
  obtain ⟨-, hwaited, -⟩ := hr.listens.awaited hb.keeps
  rw [hr.listens.acceptsOn_iff hb.keeps]
  unfold AcceptsBeyond
  rw [hgo.1, hgo.2]
  simp only [true_and]
  refine and_congr_right fun hmax => ?_
  rw [hmax, Bool.not_true] at hwaited ⊢
  refine and_congr_left fun _ => ?_
  cases hwaited with
  | nothing hne => exact absurd hok hne
  | event _ hnext =>
    change t.stopped.upcoming = _ at hnext
    rw [hnext, List.head?_cons, ← getListenSocket_isSome_iff hr.listens.socketTable]
    constructor
    · rintro ⟨fd, hhead, hlisten⟩
      exact Option.some.inj hhead ▸ hlisten
    · exact fun hlisten => ⟨_, rfl, hlisten⟩

/-- A round that does not handle an event does not accept. -/
theorem Running.not_acceptsBeyond {s : Opened} {t : CTCPStunThread CEpoll cfg} (hr : Running s t)
    (i : RoundInput)
    (h : i.fNeedToExit = true ∨ i.fNeedToExitAfterWait = true ∨
      (t.awaited CEpoll.polling).1.fd = (t.awaited CEpoll.polling).2.pipe ∨
      (t.awaited CEpoll.polling).1.hr ≠ S_OK) : ¬ t.AcceptsBeyond i := by
  rintro ⟨hexit, hexit', hmax, ⟨fd, hhead, hlisten⟩, -⟩
  obtain ⟨items, hb⟩ := hr.books
  obtain ⟨hw, hwaited, -⟩ := hr.listens.awaited hb.keeps
  rw [getListenSocket_isSome_iff hr.listens.socketTable] at hlisten
  -- Something is upcoming, so that it is handed out.
  have hnext : (t.awaited CEpoll.polling).1.hr = S_OK ∧ fd = (t.awaited CEpoll.polling).1.fd := by
    rw [hmax, Bool.not_true] at hwaited
    cases hwaited with
    | nothing _ hnil =>
      change t.stopped.upcoming = [] at hnil
      rw [hnil] at hhead
      contradiction
    | event hok hnext =>
      change t.stopped.upcoming = _ at hnext
      rw [hnext, List.head?_cons] at hhead
      exact ⟨hok, (Option.some.inj hhead).symm⟩
  rcases h with h | h | h | h
  · rw [hexit] at h
    contradiction
  · rw [hexit'] at h
    contradiction
  · obtain ⟨hne, role, hrole⟩ := hlisten
    refine s.socketTable_ne_pipe role (hrole ▸ hne) ?_
    rw [hrole, hnext.2, h, hw.pipe]
  · exact h hnext.1

/-- With one more `Insert`, the limit is kept exactly when that one succeeds and keeps it. -/
theorem withinLimit_of_append {t t' : CTCPStunThread CEpoll cfg} (hw : t.WithinLimit)
    {x : ℤ × ℕ} (hinserts : t'.inserts = t.inserts ++ [x])
    (hcount : t'.connectionCount ≤ cfg.maxConnections) :
    t'.WithinLimit ↔ x.1 ≠ -1 ∧ x.2 ≤ cfg.maxConnections := by
  unfold WithinLimit
  rw [hinserts]
  constructor
  · exact fun h => h.2 x (List.mem_append_right _ (List.mem_singleton.mpr rfl))
  · intro hx
    refine ⟨hcount, fun y hy => ?_⟩
    rcases List.mem_append.mp hy with hy | hy
    · exact hw.2 y hy
    · exact List.mem_singleton.mp hy ▸ hx

/-- A round keeps to the limit exactly if it does not accept beyond it. -/
theorem Running.round {s : Opened} {t : CTCPStunThread CEpoll cfg} (hr : Running s t)
    (hwithin : t.WithinLimit) (i : RoundInput) :
    ∃ t' goesOn, t.round CEpoll.polling i = some (t', goesOn) ∧ Running s t' ∧
      (t'.WithinLimit ↔ ¬ t.AcceptsBeyond i) := by
  obtain ⟨items, hb⟩ := hr.books
  obtain ⟨t', goesOn, hround, hb', hrounds⟩ := hb.round (I := CEpoll.polling) i
  have hwait := (hr.listens.awaited hb.keeps).1
  -- A round without an `Insert` and without more connections keeps to the limit.
  have hsame : ∀ t'' : CTCPStunThread CEpoll cfg, t''.inserts = t.inserts →
      t''.connectionCount ≤ t.connectionCount → t''.WithinLimit := fun t'' hinserts hcount =>
    ⟨hcount.trans hwithin.1, hinserts ▸ hwithin.2⟩
  refine ⟨t', goesOn, hround, ?_⟩
  cases hrounds with
  | exits h =>
    exact ⟨hr, iff_of_true hwithin (hr.not_acceptsBeyond i (Or.inl h))⟩
  | stops h hstop =>
    refine ⟨⟨hb', hwait⟩, iff_of_true ?_ (hr.not_acceptsBeyond i ?_)⟩
    · exact hsame _ (inserts_awaited t) (connectionCount_awaited t).le
    · rcases hstop with hstop | hstop
      · exact Or.inr (Or.inl hstop)
      · exact Or.inr (Or.inr (Or.inl hstop))
  | idles h hgo hne hlisten hinserts hcount =>
    refine ⟨⟨hb', (hwait.same hlisten).1⟩, iff_of_true (hsame t' hinserts hcount) ?_⟩
    exact hr.not_acceptsBeyond i (Or.inr (Or.inr (Or.inr hne)))
  | handles h hgo hok hevent =>
    refine ⟨⟨hb', (hwait.same hevent.same).1⟩, ?_⟩
    have hgoes : i.fNeedToExit = false ∧ i.fNeedToExitAfterWait = false :=
      ⟨Bool.eq_false_iff.mpr h, Bool.eq_false_iff.mpr fun hstop => hgo (Or.inl hstop)⟩
    rw [hr.acceptsBeyond_iff i hok hgoes, isConnectionCountAtMax_iff]
    have hcount_awaited := connectionCount_awaited t
    cases hevent.handled with
    | other hnot hinserts hcount =>
      rw [inserts_awaited] at hinserts
      rw [hcount_awaited] at hcount
      exact iff_of_true (hsame t' hinserts hcount) fun hbeyond => hnot hbeyond.2
    | tracked haccepts hroom hinserts hcount =>
      rw [inserts_awaited, hcount_awaited] at hinserts
      rw [hcount_awaited] at hcount
      rcases Nat.lt_or_ge t.connectionCount cfg.maxConnections with hlt | hge
      · rw [withinLimit_of_append hwithin hinserts (hcount.trans hlt)]
        have hok : (1 : ℤ) ≠ -1 := by decide
        exact iff_of_true ⟨hok, hlt⟩ fun hbeyond => absurd hbeyond.1 (Nat.not_le.mpr hlt)
      · refine iff_of_false (fun hw => ?_) (not_not_intro ⟨hge, haccepts⟩)
        have hlast := (hw.2 (1, t.connectionCount + 1) (hinserts ▸ by simp)).2
        exact absurd hlast (Nat.not_le.mpr (Nat.lt_succ_of_le hge))
    | full haccepts count hfull hinserts hcount =>
      rw [inserts_awaited] at hinserts
      rw [hcount_awaited] at hcount
      -- A full table has as many connections as may be.
      have hmax : cfg.maxConnections ≤ t.connectionCount := by
        rw [← hcount_awaited, ← hfull]
        exact getSize_le_connectionCount _
      rw [withinLimit_of_append hwithin hinserts (hcount.trans hwithin.1)]
      exact iff_of_false (fun hx => hx.1 rfl) (not_not_intro ⟨hmax, haccepts⟩)

/-! ## Every run -/

/-- Before the loop the thread runs within its limit, follows its sockets, and nothing is pending.
-/
theorem Opened.running (s : Opened) (ctls : List (Option UInt16)) (waits : List (Option (List ℤ)))
    (time : ℤ) :
    Running s (s.thread cfg ctls waits time) ∧ (s.thread cfg ctls waits time).WithinLimit ∧
      Follows s (s.thread cfg ctls waits time) ∧
      (s.thread cfg ctls waits time).spPolling.pending = [] := by
  have hopen : ∀ fd ∈ s.listening, fd ∈ s.descriptors := by
    rintro fd ⟨hfd, role, rfl⟩
    exact s.socketTable_open role hfd
  obtain ⟨t₀, ht₀⟩ : ∃ t₀ : CTCPStunThread CEpoll cfg, t₀ =
      start (CEpoll.initialize_ (cfg.maxConnections + 5) waits) s.socketTable s.pipe s.descriptors
        time := ⟨_, rfl⟩
  have hb : Books s.listening t₀ (fun _ => []) [] := ht₀ ▸ books_start hopen _ _ _ _
  have hl : Listens s t₀ := by
    subst ht₀
    exact ⟨rfl, rfl, Nat.zero_le _, fun fd hfd => absurd hfd List.not_mem_nil⟩
  have hf : Follows s t₀ := fun fd _ => by
    subst ht₀
    exact iff_of_false List.not_mem_nil (by simp [start])
  have hctls : ∀ x ∈ t₀.spPolling.ctls, x = none := by
    subst ht₀
    exact fun x hx => absurd hx List.not_mem_nil
  obtain ⟨hl₁, hsame₁, hfollows₁⟩ := hl.setListenSocketsOnEpoll hb.keeps true
  have hf₁ := hfollows₁ hf (hf.setListenSocketsOnEpoll hl hctls true)
  have hb₁ := hb.setListenSocketsOnEpoll (I := CEpoll.polling) true
  -- The pipe is polled too, but it is no listening socket.
  have hpipe : s.pipe ∉ s.listening := by
    rintro ⟨hne, role, hrole⟩
    exact s.socketTable_ne_pipe role (hrole ▸ hne) hrole
  have hsame :
      SameListen CEpoll.polling s.listening (t₀.setListenSocketsOnEpoll CEpoll.polling true)
      (t₀.init CEpoll.polling) := by
    refine ⟨rfl, rfl, rfl, .single (.add _ _ ?_ ?_)⟩
    · rw [setListenSocketsOnEpoll_eq, ht₀]
      exact s.pipe_open
    · rw [hl₁.pipe]
      exact hpipe
  obtain ⟨hl₂, hsame₂, hfollows₂⟩ := hl₁.same hsame
  have hthread : s.thread cfg ctls waits time = { t₀.init CEpoll.polling with
      spPolling := { (t₀.init CEpoll.polling).spPolling with ctls := ctls } } := ht₀ ▸ rfl
  have hb₂ : Books s.listening (s.thread cfg ctls waits time) (fun _ => []) [] := by
    rw [hthread]
    exact hb₁.congr rfl rfl rfl rfl rfl
  refine ⟨⟨⟨_, hb₂⟩, ?_⟩, ⟨?_, ?_⟩, ?_, ?_⟩
  · rw [hthread]
    exact ⟨hl₂.socketTable, hl₂.pipe, hl₂.counted, hl₂.polled⟩
  · rw [hb₂.connectionCount_eq]
    exact Nat.zero_le _
  · have hinserts : (s.thread cfg ctls waits time).inserts = [] := by
      rw [hthread]
      show (t₀.setListenSocketsOnEpoll CEpoll.polling true).inserts = []
      rw [setListenSocketsOnEpoll_eq, ht₀]
      rfl
    rw [hinserts]
    exact fun x hx => absurd hx List.not_mem_nil
  · rw [hthread]
    exact hfollows₂ hf₁
  · rw [hthread]
    exact (hsame₁.trans hsame₂).pending.trans (by rw [ht₀]; rfl)

/-- A run keeps to the limit in every state exactly if no round of it accepts beyond the limit. -/
theorem withinLimit_iff (s : Opened) (ctls : List (Option UInt16)) (waits : List (Option (List ℤ)))
    (time : ℤ) (inputs : List RoundInput) :
    (∀ pre, pre <+: inputs → ∀ t, run CEpoll.polling pre (s.thread cfg ctls waits time) = some t →
      t.WithinLimit) ↔ NeverBeyond inputs (s.thread cfg ctls waits time) := by
  obtain ⟨hr, hwithin, -⟩ := @Opened.running cfg s ctls waits time
  generalize s.thread cfg ctls waits time = t at hr hwithin
  -- The rounds before the first one that accepts beyond the limit keep `Running` and the limit.
  induction inputs generalizing t with
  | nil =>
    refine iff_of_true (fun pre hpre t' hrun => ?_) trivial
    rw [List.prefix_nil.mp hpre] at hrun
    exact Option.some.inj hrun ▸ hwithin
  | cons i rest ih =>
    obtain ⟨t', goesOn, hround, hr', hiff⟩ := hr.round hwithin i
    have hrun : ∀ pre, run CEpoll.polling (i :: pre) t =
        if goesOn then run CEpoll.polling pre t' else some t' := by
      intro pre
      rw [run, hround]
      rfl
    have hnext : ∀ t'' , t.round CEpoll.polling i = some (t'', true) → t'' = t' ∧
        goesOn = true := by
      intro t'' hround'
      have heq := Option.some.inj (hround.symm.trans hround')
      exact ⟨(congrArg Prod.fst heq).symm, congrArg Prod.snd heq⟩
    constructor
    · intro h
      have hwithin' : t'.WithinLimit := by
        refine h [i] (List.prefix_cons_iff.mpr (Or.inr ⟨[], rfl, List.nil_prefix⟩)) t' ?_
        rw [hrun]
        cases goesOn <;> rfl
      refine ⟨hiff.mp hwithin', fun t'' hround' => ?_⟩
      obtain ⟨rfl, rfl⟩ := hnext t'' hround'
      refine (ih t'' hr' hwithin').mp fun pre hpre t₁ hrun₁ => ?_
      refine h (i :: pre) (List.prefix_cons_iff.mpr (Or.inr ⟨pre, rfl, hpre⟩)) t₁ ?_
      rw [hrun]
      exact hrun₁
    · rintro ⟨hnot, hrest⟩ pre hpre t₁ hrun₁
      have hwithin' := hiff.mpr hnot
      rcases List.prefix_cons_iff.mp hpre with rfl | ⟨pre', rfl, hpre'⟩
      · exact Option.some.inj hrun₁ ▸ hwithin
      · rw [hrun] at hrun₁
        cases goesOn with
        | false => exact Option.some.inj hrun₁ ▸ hwithin'
        | true => exact (ih t' hr' hwithin').mpr (hrest t' hround) pre' hpre' t₁ hrun₁

/-! ## While the listening sockets are polled as they should be -/

/-- `SetListenSocketsOnEpoll` does not fail in any round of the loop. -/
def ListenKept : List RoundInput → CTCPStunThread CEpoll cfg → Prop
  | [], _ => True
  | i :: rest, t =>
    (i.fNeedToExit = false →
      (t.setListenSocketsOnEpoll CEpoll.polling (!t.isConnectionCountAtMax)).fListenSocketsOnEpoll =
        !t.isConnectionCountAtMax) ∧
      ∀ t', t.round CEpoll.polling i = some (t', true) → ListenKept rest t'

/-- In a round in which `SetListenSocketsOnEpoll` does not fail, the flag says what is polled at the
wait, which is the listening sockets unless there are as many connections as may be, and at the end
of the round. -/
theorem Running.follows {s : Opened} {t : CTCPStunThread CEpoll cfg} (hr : Running s t)
    (hf : Follows s t)
    (hkept : (t.setListenSocketsOnEpoll CEpoll.polling
      (!t.isConnectionCountAtMax)).fListenSocketsOnEpoll = !t.isConnectionCountAtMax) :
    (∀ fd ∈ s.listening, fd ∈
        (t.setListenSocketsOnEpoll CEpoll.polling (!t.isConnectionCountAtMax)).spPolling.polled ↔
          t.connectionCount < cfg.maxConnections) ∧
      ∀ t', SameListen CEpoll.polling s.listening (t.awaited CEpoll.polling).2 t' →
        Follows s t' := by
  obtain ⟨items, hb⟩ := hr.books
  obtain ⟨-, -, hfollows⟩ :=
    hr.listens.setListenSocketsOnEpoll hb.keeps (!t.isConnectionCountAtMax)
  obtain ⟨hw, -, -, hpolled⟩ := hr.listens.awaited hb.keeps
  have hset := hfollows hf hkept
  refine ⟨fun fd hfd => ?_, fun t' hsame => (hw.same hsame).2.2 fun fd hfd => ?_⟩
  · rw [hset fd hfd, hkept, Bool.not_eq_true', ← Bool.not_eq_true,
      isConnectionCountAtMax_iff, not_le]
  · exact (iff_of_eq (congrArg (fd ∈ ·) hpolled)).trans (hset fd hfd)

/-- `SetListenSocketsOnEpoll` does not fail in a run in which the system refuses nothing. -/
theorem listenKept_of_ctls (s : Opened) {ctls : List (Option UInt16)} (hctls : ∀ x ∈ ctls, x = none)
    (waits : List (Option (List ℤ))) (time : ℤ) (inputs : List RoundInput) :
    ListenKept inputs (s.thread cfg ctls waits time) := by
  obtain ⟨hr, -, hf, -⟩ := @Opened.running cfg s ctls waits time
  have hnone : ∀ x ∈ (s.thread cfg ctls waits time).spPolling.ctls, x = none := hctls
  generalize s.thread cfg ctls waits time = t at hr hf hnone
  induction inputs generalizing t with
  | nil => trivial
  | cons i rest ih =>
    obtain ⟨items, hb⟩ := hr.books
    have hkept := hf.setListenSocketsOnEpoll hr.listens hnone (!t.isConnectionCountAtMax)
    refine ⟨fun _ => hkept, fun t' hround => ?_⟩
    obtain ⟨t₁, goesOn, hround₁, hb', hrounds⟩ := hb.round (I := CEpoll.polling) i
    have heq := Option.some.inj (hround₁.symm.trans hround)
    obtain rfl : t₁ = t' := congrArg Prod.fst heq
    obtain rfl : goesOn = true := congrArg Prod.snd heq
    -- What is left to answer is some of what there was.
    obtain ⟨-, hset, -⟩ := hr.listens.setListenSocketsOnEpoll hb.keeps (!t.isConnectionCountAtMax)
    obtain ⟨hw, -, hctls', -⟩ := hr.listens.awaited hb.keeps
    have hnext : ∀ t', SameListen CEpoll.polling s.listening (t.awaited CEpoll.polling).2 t' →
        ∀ x ∈ t'.spPolling.ctls, x = none := fun t' hsame x hx =>
      hnone x (hset.ctls.subset (hctls' ▸ (hw.same hsame).2.1.ctls.subset hx))
    have hfollows := (hr.follows hf hkept).2
    cases hrounds with
    | handles _ _ _ hevent =>
      exact ih t₁ ⟨hb', (hw.same hevent.same).1⟩ (hfollows t₁ hevent.same) (hnext t₁ hevent.same)
    | idles _ _ _ hsame =>
      exact ih t₁ ⟨hb', (hw.same hsame).1⟩ (hfollows t₁ hsame) (hnext t₁ hsame)

/-! ## One listening socket, and two -/

/-- The flag says what is polled; an event of a listening socket is pending only with fewer
connections than may be, and no event is pending twice. -/
structure Settled (s : Opened) (t : CTCPStunThread CEpoll cfg) : Prop where
  follows : Follows s t
  nodup : t.spPolling.pending.Nodup
  below : ∀ fd ∈ t.spPolling.pending, fd ∈ s.listening → t.connectionCount < cfg.maxConnections

section Settled

variable {s : Opened} {t : CTCPStunThread CEpoll cfg} (hs : Settled s t) (hr : Running s t)
  (hkept : (t.setListenSocketsOnEpoll CEpoll.polling
    (!t.isConnectionCountAtMax)).fListenSocketsOnEpoll = !t.isConnectionCountAtMax)
include hs hr hkept

/-- When a settled thread waits no event is upcoming twice, and one of a listening socket only below
the limit. -/
theorem Settled.upcoming :
    (t.setListenSocketsOnEpoll CEpoll.polling
        (!t.isConnectionCountAtMax)).spPolling.upcoming.Nodup ∧
      ∀ fd ∈ (t.setListenSocketsOnEpoll CEpoll.polling
        (!t.isConnectionCountAtMax)).spPolling.upcoming, fd ∈ s.listening →
        t.connectionCount < cfg.maxConnections := by
  obtain ⟨items, hb⟩ := hr.books
  obtain ⟨-, hsame, -⟩ := hr.listens.setListenSocketsOnEpoll hb.keeps (!t.isConnectionCountAtMax)
  rcases CEpoll.upcoming_cases (t.setListenSocketsOnEpoll CEpoll.polling
    (!t.isConnectionCountAtMax)).spPolling with hpending | ⟨-, hnodup, hpolled⟩
  · rw [hpending, hsame.pending]
    exact ⟨hs.nodup, hs.below⟩
  · exact ⟨hnodup, fun fd hfd hlisten =>
      ((hr.follows hs.follows hkept).1 fd hlisten).mp (hpolled fd hfd)⟩

/-- A thread that is settled does not accept beyond the limit. -/
theorem Settled.not_acceptsBeyond (i : RoundInput) : ¬ t.AcceptsBeyond i := by
  rintro ⟨-, -, hmax, ⟨fd, hhead, hlisten⟩, -⟩
  rw [getListenSocket_isSome_iff hr.listens.socketTable] at hlisten
  have hbelow := (hs.upcoming hr hkept).2
  rw [hmax, Bool.not_true] at hbelow
  have hlt := hbelow fd (List.mem_of_mem_head? hhead) hlisten
  exact absurd ((isConnectionCountAtMax_iff t).mp hmax) (Nat.not_le.mpr hlt)

/-- With one listening socket a round keeps the thread settled, since the event that brings a
connection is the only one of its batch that can. -/
theorem Settled.round (hone : ∀ fd ∈ s.listening, ∀ fd' ∈ s.listening, fd = fd')
    {t' : CTCPStunThread CEpoll cfg} {i : RoundInput}
    (hround : t.round CEpoll.polling i = some (t', true)) : Settled s t' := by
  obtain ⟨items, hb⟩ := hr.books
  obtain ⟨t₁, goesOn, hround₁, -, hrounds⟩ := hb.round (I := CEpoll.polling) i
  obtain ⟨hwait, hwaited, -⟩ := hr.listens.awaited hb.keeps
  have heq := Option.some.inj (hround₁.symm.trans hround)
  obtain rfl : t₁ = t' := congrArg Prod.fst heq
  obtain rfl : goesOn = true := congrArg Prod.snd heq
  obtain ⟨hnodup, hbelow⟩ := hs.upcoming hr hkept
  have hfollows := (hr.follows hs.follows hkept).2
  cases hrounds with
  | idles h hgo hne hlisten =>
    have hpending := (hwait.same hlisten).2.1.pending
    cases hwaited with
    | nothing _ _ hnil =>
      rw [hnil] at hpending
      refine ⟨hfollows _ hlisten, hpending ▸ List.nodup_nil, fun fd hfd => ?_⟩
      rw [hpending] at hfd
      exact absurd hfd List.not_mem_nil
    | event hok => exact absurd hok hne
  | handles h hgo hok hevent =>
    have hpending := (hwait.same hevent.same).2.1.pending
    cases hwaited with
    | nothing hne => exact absurd hok hne
    | event _ hupcoming =>
      rw [hupcoming] at hnodup hbelow
      obtain ⟨hnotMem, hnodup⟩ := List.nodup_cons.mp hnodup
      refine ⟨hfollows _ hevent.same, hpending ▸ hnodup, fun fd hfd hlisten => ?_⟩
      rw [hpending] at hfd
      -- The event was not the listening socket's, for that is still to come.
      have hnot : ¬ (t.awaited CEpoll.polling).2.AcceptsOn CEpoll.polling
          (t.awaited CEpoll.polling).1.fd i.accept := by
        rw [hr.listens.acceptsOn_iff hb.keeps]
        exact fun haccepts => hnotMem (hone fd hlisten _ haccepts.1 ▸ hfd)
      cases hevent.handled with
      | other _ _ hcount =>
        rw [connectionCount_awaited] at hcount
        exact hcount.trans_lt (hbelow fd (.tail _ hfd) hlisten)
      | tracked haccepts => exact absurd haccepts hnot
      | full haccepts => exact absurd haccepts hnot

end Settled

/-- With one listening socket every run in which `SetListenSocketsOnEpoll` does not fail keeps to
the limit. -/
theorem withinLimit_of_one {s : Opened} (hone : ∀ fd ∈ s.listening, ∀ fd' ∈ s.listening, fd = fd')
    (ctls : List (Option UInt16)) (waits : List (Option (List ℤ))) (time : ℤ)
    (inputs : List RoundInput) (hkept : ListenKept inputs (s.thread cfg ctls waits time))
    {t : CTCPStunThread CEpoll cfg}
    (hrun : run CEpoll.polling inputs (s.thread cfg ctls waits time) = some t) : t.WithinLimit := by
  obtain ⟨hr, hwithin, hf, hpending⟩ := @Opened.running cfg s ctls waits time
  have hs : Settled s (s.thread cfg ctls waits time) := by
    refine ⟨hf, hpending ▸ List.nodup_nil, fun fd hfd => ?_⟩
    rw [hpending] at hfd
    exact absurd hfd List.not_mem_nil
  generalize s.thread cfg ctls waits time = t₀ at hr hwithin hs hrun hkept
  induction inputs generalizing t₀ with
  | nil => exact Option.some.inj hrun ▸ hwithin
  | cons i rest ih =>
    obtain ⟨hset, hkept⟩ := hkept
    obtain ⟨t₁, goesOn, hround, hr₁, hiff⟩ := hr.round hwithin i
    have hwithin₁ := hiff.mpr fun hbeyond => hs.not_acceptsBeyond hr (hset hbeyond.1) i hbeyond
    rw [run, hround] at hrun
    cases goesOn with
    | false => exact Option.some.inj hrun ▸ hwithin₁
    | true =>
      have hgo : i.fNeedToExit = false := by
        by_contra hexit
        unfold CTCPStunThread.round at hround
        rw [if_pos (Bool.of_not_eq_false hexit)] at hround
        cases hround
      exact ih t₁ hr₁ hwithin₁ (hs.round hr (hset hgo) hone hround) hrun (hkept t₁ hround)

/-- Two listening sockets. -/
def twoListening : Opened where
  socketTable := fun
    | .rolePP => 3
    | .rolePA => 4
    | _ => -1
  pipe := 5
  descriptors := [3, 4, 5]
  socketTable_open := by rintro ⟨⟩ <;> decide
  socketTable_inj := by rintro ⟨⟩ ⟨⟩ <;> decide
  pipe_open := by decide
  socketTable_ne_pipe := by rintro ⟨⟩ <;> decide

/-- At most two connections. -/
def twoConnections : TcpConfig where
  maxConnections := 2
  tableWidth := 3
  maxConnections_ne := by decide
  tableWidth_ne := by decide
  tsa := fun _ => ⟨.zero, false⟩
  spAuth := none
  digests := .constant (List.replicate 20 0) (List.replicate 16 0) 0 length_zeroHmacSha1
    length_zeroMd5

/-- A round at a time in which `accept` gives a descriptor if it is called, and nothing is
received. -/
def acceptRound (sock timeCurrent : ℤ) : RoundInput where
  fNeedToExit := false
  fNeedToExitAfterWait := false
  accept := ⟨sock, .zero, .zero, 1, S_OK⟩
  recvs := []
  sends := []
  timeCurrent := timeCurrent
  timeSwept := timeCurrent

/-- A connection that is accepted in the first round and that the sweep keeps, and one for each of
the two listening sockets that are ready at once after it. -/
def threeAccepts : List RoundInput := [acceptRound 10 60, acceptRound 11 61, acceptRound 12 62]

/-- With two listening sockets there may be a connection too many. -/
theorem not_withinLimit_of_two :
    ¬ ∀ pre, pre <+: threeAccepts → ∀ t, run CEpoll.polling pre
      (twoListening.thread twoConnections [] [some [3], some [3, 4]] 0) = some t →
        t.WithinLimit := by
  intro h
  have hcount : (run CEpoll.polling threeAccepts
      (twoListening.thread twoConnections [] [some [3], some [3, 4]] 0)).map connectionCount =
      some 3 := by
    decide +kernel
  obtain ⟨t, hrun, hthree⟩ := Option.map_eq_some_iff.mp hcount
  have hle := (h threeAccepts (List.prefix_refl _) t hrun).1
  rw [hthree] at hle
  exact absurd hle (by decide)

/-- There may be a connection too many, too, when the system refuses with `ENOMEM` to poll a
listening socket no more. -/
example : (run CEpoll.polling threeAccepts (twoListening.thread twoConnections [none, none, some 12]
    [some [3], some [3], some [3]] 0)).map connectionCount = some 3 := by
  decide +kernel

end CTCPStunThread

end Stun
