import StunForAndroid.NetworkUtils.PollInstance
import StunForAndroid.Server.OpenDescriptors
import StunForAndroid.Server.TcpLimit

/-!
# What `CTCPStunThread` polls with `CPoll`

The thread of `src/server/tcpserver.cpp` with the `IPolling` of a system that has no epoll. What it
polls is told by the thread: the listening sockets by its flag, the pipe, and the sockets of its
connections (`Watches`). There is room for all of them as long as the thread keeps to its limit.

`Watches` takes along a condition on the two sets of the polling that lasts while sockets are polled
and polled no more (`Lasting`).
-/

namespace Stun

namespace CTCPStunThread

variable {cfg : TcpConfig} {tableWidth : ℕ} [NeZero tableWidth]

/-- The `IPolling` that `Init` creates: 5 more than the connections for the listening sockets and
the pipe. -/
abbrev PollingOf (cfg : TcpConfig) (tableWidth : ℕ) : Type :=
  PollInstance (cfg.maxConnections + 5) tableWidth

/-- The thread when `Init` is done. -/
def Opened.pollThread (s : Opened) (cfg : TcpConfig) (tableWidth : ℕ) [NeZero tableWidth]
    (polls : List PollReturn) (time : ℤ) : CTCPStunThread (PollingOf cfg tableWidth) cfg :=
  init PollInstance.polling
    (start (PollInstance.initialize_ _ _ polls) s.socketTable s.pipe s.descriptors time)

/-! ## The listening sockets -/

/-- The listening sockets of some roles. -/
def Opened.listeningOf (s : Opened) (rs : List SocketRole) : Set ℤ :=
  {fd | fd ≠ -1 ∧ ∃ role ∈ rs, s.socketTable role = fd}

/-- The listening sockets of all roles are those of the server. -/
theorem Opened.listeningOf_roles (s : Opened) : s.listeningOf roles = s.listening := by
  ext fd
  refine and_congr_right fun _ => exists_congr fun role => and_iff_right ?_
  cases role <;> decide

/-- A role without a listening socket adds none. -/
theorem Opened.listeningOf_cons_none {s : Opened} {role : SocketRole} (h : s.socketTable role = -1)
    (rs : List SocketRole) : s.listeningOf (role :: rs) = s.listeningOf rs := by
  ext fd
  refine and_congr_right fun hfd => ?_
  simp only [List.mem_cons, exists_eq_or_imp]
  exact or_iff_right fun heq => hfd (heq.symm.trans h)

/-- A role with a listening socket adds it. -/
theorem Opened.listeningOf_cons_some {s : Opened} {role : SocketRole} (h : s.socketTable role ≠ -1)
    (rs : List SocketRole) :
    s.listeningOf (role :: rs) = insert (s.socketTable role) (s.listeningOf rs) := by
  ext fd
  simp only [Opened.listeningOf, List.mem_cons, exists_eq_or_imp, Set.mem_insert_iff,
    Set.mem_ofPred_eq]
  constructor
  · rintro ⟨hfd, heq | hrest⟩
    · exact .inl heq.symm
    · exact .inr ⟨hfd, hrest⟩
  · rintro (rfl | ⟨hfd, hrest⟩)
    · exact ⟨h, .inl rfl⟩
    · exact ⟨hfd, .inr hrest⟩

/-- The roles have different listening sockets. -/
theorem Opened.notMem_listeningOf {s : Opened} {role : SocketRole} (h : s.socketTable role ≠ -1)
    {rs : List SocketRole} (hrole : role ∉ rs) : s.socketTable role ∉ s.listeningOf rs := by
  rintro ⟨-, role', hrole', heq⟩
  exact hrole (s.socketTable_inj role role' h heq.symm ▸ hrole')

/-- The listening sockets are open. -/
theorem Opened.listening_open (s : Opened) {fd : ℤ} (h : fd ∈ s.listening) :
    fd ∈ s.descriptors := by
  obtain ⟨hne, role, rfl⟩ := h
  exact s.socketTable_open role hne

/-- The pipe is no listening socket. -/
theorem Opened.pipe_notMem (s : Opened) : s.pipe ∉ s.listening := by
  rintro ⟨hne, role, hrole⟩
  exact s.socketTable_ne_pipe role (hrole ▸ hne) hrole

/-- `GetListenSocket` gives listening sockets. -/
theorem mem_listening_of_getListenSocket {P : Type} {s : Opened} {t : CTCPStunThread P cfg}
    (htable : t.socketTable = s.socketTable) {fd : ℤ} (h : (t.getListenSocket fd).isSome) :
    fd ∈ s.listening := by
  unfold getListenSocket at h
  split at h
  next hne =>
    obtain ⟨role, -, hrole⟩ := List.find?_isSome.mp h
    exact ⟨hne, role, htable ▸ of_decide_eq_true hrole⟩
  next => exact Bool.noConfusion h

/-- A condition on the descriptors that are polled and on those with an event, which stays when a
descriptor is polled no more, and when one of some others is polled. -/
structure Lasting (addable : Set ℤ) (C : Set ℤ → Finset ℤ → Prop) : Prop where
  remove : ∀ {polled : Set ℤ} {pending : Finset ℤ} (fd : ℤ), C polled pending →
    C (polled \ {fd}) (pending.erase fd)
  add : ∀ {polled : Set ℤ} {pending : Finset ℤ} {fd : ℤ}, C polled pending → fd ∈ addable →
    fd ∉ polled → C (insert fd polled) pending

section SetListen

variable {maxSockets : ℕ} [NeZero maxSockets] {s : Opened} {rs : List SocketRole}
  {q : PollInstance maxSockets tableWidth} {polled : Set ℤ} {pending : Finset ℤ} {addable : Set ℤ}
  {C : Set ℤ → Finset ℤ → Prop} (hC : Lasting addable C)
include hC

/-- The loop of `SetListenSocketsOnEpoll` polls the listening sockets, if there is room for them. -/
theorem setListenLoop_enable (hnodup : rs.Nodup) (hq : q.Polls polled pending)
    (hcond : C polled pending) (hapart : ∀ fd ∈ s.listeningOf rs, fd ∉ polled ∧ fd ∈ addable)
    {room : List ℤ} (hroom : ∀ fd ∈ polled ∪ s.listeningOf rs, fd ∈ room)
    (hle : room.length ≤ maxSockets) :
    ∃ q', setListenLoop PollInstance.polling true s.socketTable rs q = (S_OK, q') ∧
      q'.Polls (polled ∪ s.listeningOf rs) pending ∧ C (polled ∪ s.listeningOf rs) pending := by
  induction rs generalizing q polled with
  | nil =>
    have hunion : polled ∪ s.listeningOf [] = polled := by simp [Opened.listeningOf]
    rw [hunion]
    exact ⟨q, rfl, hq, hcond⟩
  | cons role rs ih =>
    obtain ⟨hrole, hnodup⟩ := List.nodup_cons.mp hnodup
    unfold setListenLoop
    split
    next hnone =>
      rw [Opened.listeningOf_cons_none hnone] at hapart hroom ⊢
      exact ih hnodup hq hcond hapart hroom
    next hsome =>
      rw [Opened.listeningOf_cons_some hsome] at hapart hroom ⊢
      -- The first socket is polled now, and counts as polled for the others.
      have hinsert : insert (s.socketTable role) polled ∪ s.listeningOf rs =
          polled ∪ insert (s.socketTable role) (s.listeningOf rs) := by
        rw [Set.insert_union, Set.union_insert]
      obtain ⟨hnew, haddable⟩ := hapart _ (Set.mem_insert _ _)
      obtain ⟨hok, hadded⟩ := hq.add hnew room
        (fun fd hfd => hroom fd (hinsert ▸ .inl hfd)) hle
      -- The sockets of different roles are different.
      have hrest : ∀ fd ∈ s.listeningOf rs,
          fd ∉ insert (s.socketTable role) polled ∧ fd ∈ addable := by
        intro fd hfd
        obtain ⟨hnot, hfdadd⟩ := hapart fd (Set.mem_insert_of_mem _ hfd)
        refine ⟨fun hmem => ?_, hfdadd⟩
        rcases Set.mem_insert_iff.mp hmem with rfl | hmem
        · exact Opened.notMem_listeningOf hsome hrole hfd
        · exact hnot hmem
      obtain ⟨q', hloop, hpolls, hcond'⟩ := ih hnodup hadded (hC.add hcond haddable hnew) hrest
        (fun fd hfd => hroom fd (hinsert ▸ hfd))
      refine ⟨q', ?_, hinsert ▸ hpolls, hinsert ▸ hcond'⟩
      show (if failed (q.add (s.socketTable role)).1 then q.add (s.socketTable role)
        else setListenLoop PollInstance.polling true s.socketTable rs
          (q.add (s.socketTable role)).2) = _
      rw [hok, if_neg (by decide)]
      exact hloop

/-- Turning the events off polls the listening sockets no more, and nothing else changes. -/
theorem setListenLoop_disable (hnodup : rs.Nodup) (hq : q.Polls polled pending)
    (hcond : C polled pending) (hin : ∀ fd ∈ s.listeningOf rs, fd ∈ polled) :
    ∃ q' pending', setListenLoop PollInstance.polling false s.socketTable rs q = (S_OK, q') ∧
      q'.Polls (polled \ s.listeningOf rs) pending' ∧ C (polled \ s.listeningOf rs) pending' := by
  induction rs generalizing q polled pending with
  | nil =>
    have hdiff : polled \ s.listeningOf [] = polled := by simp [Opened.listeningOf]
    rw [hdiff]
    exact ⟨q, pending, rfl, hq, hcond⟩
  | cons role rs ih =>
    obtain ⟨hrole, hnodup⟩ := List.nodup_cons.mp hnodup
    unfold setListenLoop
    split
    next hnone =>
      rw [Opened.listeningOf_cons_none hnone] at hin ⊢
      exact ih hnodup hq hcond hin
    next hsome =>
      rw [Opened.listeningOf_cons_some hsome] at hin ⊢
      obtain ⟨hok, hremoved⟩ := hq.remove (s.socketTable role)
      -- The other sockets are still polled, as they are different ones.
      have hrest : ∀ fd ∈ s.listeningOf rs, fd ∈ polled \ {s.socketTable role} := by
        intro fd hfd
        refine ⟨hin fd (Set.mem_insert_of_mem _ hfd), ?_⟩
        rintro rfl
        exact Opened.notMem_listeningOf hsome hrole hfd
      obtain ⟨q', pending', hloop, hpolls, hcond'⟩ :=
        ih hnodup hremoved (hC.remove (s.socketTable role) hcond) hrest
      rw [Set.sdiff_sdiff, Set.singleton_union] at hpolls hcond'
      refine ⟨q', pending', ?_, hpolls, hcond'⟩
      show (if failed (q.remove (s.socketTable role)).1 then q.remove (s.socketTable role)
        else setListenLoop PollInstance.polling false s.socketTable rs
          (q.remove (s.socketTable role)).2) = _
      rw [hok (hin _ (Set.mem_insert _ _)), if_neg (by decide)]
      exact hloop

end SetListen

/-! ## What is polled -/

/-- What is to be polled for these connections: the listening sockets if any connection may be
accepted, the pipe, and the sockets of the connections. -/
def Opened.watched (s : Opened) (listens : Bool) (sockets : ConnId → Option ℤ) : Set ℤ :=
  {fd | (fd ∈ s.listening ∧ listens = true) ∨ fd = s.pipe ∨ ∃ c, sockets c = some fd}

section Watched

variable {P : Type} {s : Opened} {t : CTCPStunThread P cfg} {items : TableId → List (ℤ × ConnId)}
  (hb : Books {fd | fd ∈ s.descriptors} t items [])
include hb

/-- What is to be polled is open. -/
theorem Books.watched_open {listens : Bool} {fd : ℤ}
    (h : fd ∈ s.watched listens t.connectionpool.sockets) : fd ∈ t.descriptors := by
  rcases h with hlisten | rfl | ⟨c, hc⟩
  · exact hb.keeps fd (s.listening_open hlisten.1)
  · exact hb.keeps _ s.pipe_open
  · obtain ⟨conn, hconn, rfl⟩ := CConnectionPool.sockets_eq_some_iff.mp hc
    exact (hb.opened c conn hconn).1

/-- At most 5 more descriptors are to be polled than there are connections. -/
theorem Books.watched_room : ∃ room : List ℤ, room.length = t.connectionCount + 5 ∧
    ∀ listens, ∀ fd ∈ s.watched listens t.connectionpool.sockets, fd ∈ room := by
  refine ⟨s.pipe :: (roles.map s.socketTable ++ (items .one ++ items .two).map Prod.fst), ?_, ?_⟩
  · rw [hb.connectionCount_eq]
    simp [roles]
  · rintro listens fd (⟨⟨-, role, rfl⟩, -⟩ | rfl | ⟨c, hc⟩)
    · refine List.mem_cons_of_mem _ (List.mem_append_left _ (List.mem_map_of_mem ?_))
      cases role <;> decide
    · exact List.mem_cons_self
    · obtain ⟨id, hx⟩ := hb.sockets_eq_some_iff.mp hc
      have hmem : (fd, c) ∈ items .one ++ items .two := by
        cases id with
        | one => exact List.mem_append_left _ hx
        | two => exact List.mem_append_right _ hx
      exact List.mem_cons_of_mem _
        (List.mem_append_right _ (List.mem_map_of_mem (f := Prod.fst) hmem))

end Watched

/-- The sockets of the connections are different ones, and none that `Init` has opened. -/
structure Apart (s : Opened) (sockets : ConnId → Option ℤ) : Prop where
  apart : ∀ c fd, sockets c = some fd → fd ∉ s.descriptors
  distinct : ∀ c c' fd, sockets c = some fd → sockets c' = some fd → c = c'

/-- Closing a connection takes its socket from what is watched, and the other sockets stay apart. -/
theorem Apart.close {s : Opened} {sockets : ConnId → Option ℤ} (h : Apart s sockets) {c : ConnId}
    {sock : ℤ} (hc : sockets c = some sock) (listens : Bool) :
    Apart s (Function.update sockets c none) ∧
      s.watched listens sockets \ {sock} = s.watched listens (Function.update sockets c none) := by
  have hbefore : ∀ c' fd, Function.update sockets c none c' = some fd ↔
      c' ≠ c ∧ sockets c' = some fd := by
    intro c' fd
    rcases eq_or_ne c' c with rfl | hne
    · simp
    · simp [hne]
  refine ⟨⟨fun c' fd hc' => h.apart c' fd ((hbefore c' fd).mp hc').2, fun c₁ c₂ fd h₁ h₂ =>
    h.distinct c₁ c₂ fd ((hbefore c₁ fd).mp h₁).2 ((hbefore c₂ fd).mp h₂).2⟩, ?_⟩
  ext fd
  simp only [Opened.watched, Set.mem_sdiff, Set.mem_ofPred_eq, Set.mem_singleton_iff, hbefore]
  constructor
  · rintro ⟨hlisten | hpipe | ⟨c', hc'⟩, hne⟩
    · exact .inl hlisten
    · exact .inr (.inl hpipe)
    · refine .inr (.inr ⟨c', ?_, hc'⟩)
      rintro rfl
      exact hne (Option.some.inj (hc'.symm.trans hc))
  · -- What stays is not the socket of the connection.
    have hopen : sock ∉ s.descriptors := h.apart c sock hc
    rintro (hlisten | rfl | ⟨c', hne, hc'⟩)
    · exact ⟨.inl hlisten, fun heq => hopen (heq ▸ s.listening_open hlisten.1)⟩
    · exact ⟨.inr (.inl rfl), fun heq => hopen (heq ▸ s.pipe_open)⟩
    · refine ⟨.inr (.inr ⟨c', hc'⟩), ?_⟩
      rintro rfl
      exact hne (h.distinct c' c _ hc' hc)

/-- Accepting a connection adds its socket to what is watched, and the sockets stay apart. -/
theorem Apart.accept {s : Opened} {sockets : ConnId → Option ℤ} (h : Apart s sockets) {c : ConnId}
    {sock : ℤ} (hc : sockets c = none) (hopen : sock ∉ s.descriptors) {listens : Bool}
    (hnew : sock ∉ s.watched listens sockets) :
    Apart s (Function.update sockets c (some sock)) ∧
      insert sock (s.watched listens sockets) =
        s.watched listens (Function.update sockets c (some sock)) := by
  have hafter : ∀ c' fd, Function.update sockets c (some sock) c' = some fd ↔
      c' = c ∧ fd = sock ∨ sockets c' = some fd := by
    intro c' fd
    rcases eq_or_ne c' c with rfl | hne
    · simp [hc, eq_comm]
    · simp [hne]
  -- The socket is none of the others.
  have hother : ∀ c', sockets c' ≠ some sock := fun c' hc' => hnew (.inr (.inr ⟨c', hc'⟩))
  refine ⟨⟨fun c' fd hc' => ?_, fun c₁ c₂ fd h₁ h₂ => ?_⟩, ?_⟩
  · rcases (hafter c' fd).mp hc' with ⟨-, rfl⟩ | hc'
    · exact hopen
    · exact h.apart c' fd hc'
  · rcases (hafter c₁ fd).mp h₁ with ⟨heq₁, rfl⟩ | hold₁ <;>
      rcases (hafter c₂ fd).mp h₂ with ⟨heq₂, heq⟩ | hold₂
    · exact heq₁.trans heq₂.symm
    · exact absurd hold₂ (hother c₂)
    · exact absurd (heq ▸ hold₁) (hother c₁)
    · exact h.distinct c₁ c₂ fd hold₁ hold₂
  · ext fd
    simp only [Opened.watched, Set.mem_insert_iff, Set.mem_ofPred_eq, hafter]
    constructor
    · rintro (rfl | hlisten | hpipe | ⟨c', hc'⟩)
      · exact .inr (.inr ⟨c, .inl ⟨rfl, rfl⟩⟩)
      · exact .inl hlisten
      · exact .inr (.inl hpipe)
      · exact .inr (.inr ⟨c', .inr hc'⟩)
    · rintro (hlisten | hpipe | ⟨c', ⟨-, rfl⟩ | hc'⟩)
      · exact .inr (.inl hlisten)
      · exact .inr (.inr (.inl hpipe))
      · exact .inl rfl
      · exact .inr (.inr (.inr ⟨c', hc'⟩))

/-- What is to be polled is polled, and the condition holds of it and of the events. -/
structure Watches (s : Opened) (listens : Bool) (C : Set ℤ → Finset ℤ → Prop)
    (q : PollingOf cfg tableWidth) (sockets : ConnId → Option ℤ) (descriptors : List ℤ) : Prop where
  polls : ∃ pending, q.Polls (s.watched listens sockets) pending ∧
    C (s.watched listens sockets) pending
  apart : Apart s sockets

section Lasting

variable {s : Opened} {listens : Bool} {addable : Set ℤ} {C : Set ℤ → Finset ℤ → Prop}
  (hC : Lasting addable C)
include hC

/-- That the polled descriptors are the watched ones is kept when an event set is changed and when a
connection is closed. -/
theorem stable_watches :
    Stable (PollInstance.polling : IPolling (PollingOf cfg tableWidth)) (Watches s listens C) where
  change := by
    rintro q sockets descriptors fd ⟨⟨pending, hpolls, hcond⟩, hapart⟩
    exact ⟨⟨pending, hpolls.changeEventSet fd, hcond⟩, hapart⟩
  close := by
    rintro q sockets descriptors c sock ⟨⟨pending, hpolls, hcond⟩, hapart⟩ hc
    obtain ⟨hapart', hwatched⟩ := hapart.close hc listens
    rw [PollInstance.drop_eq]
    refine ⟨⟨pending.erase sock, ?_, ?_⟩, hapart'⟩
    · exact hwatched ▸ (hpolls.remove sock).2
    · exact hwatched ▸ hC.remove sock hcond

variable {t : CTCPStunThread (PollingOf cfg tableWidth) cfg} {items : TableId → List (ℤ × ConnId)}
  (hb : Books {fd | fd ∈ s.descriptors} t items [])
include hb

/-- Below the limit a connection that is accepted can be polled. -/
theorem Books.takes_watches (ht : Has (Watches s listens C) t)
    (hlt : t.connectionCount < cfg.maxConnections) (haddable : ∀ sock ∉ t.descriptors,
      sock ∈ addable) :
    Takes PollInstance.polling (Watches s listens C) t := by
  intro c sock hnone _ hopen
  obtain ⟨⟨pending, hpolls, hcond⟩, hapart⟩ := ht
  have hnew : sock ∉ s.watched listens t.connectionpool.sockets := mt hb.watched_open hopen
  constructor
  · have hremoved := (hpolls.remove sock).2
    have hcond' := hC.remove sock hcond
    rw [Set.sdiff_singleton_eq_self hnew] at hremoved hcond'
    rw [PollInstance.drop_eq]
    exact ⟨⟨_, hremoved, hcond'⟩, hapart⟩
  · obtain ⟨room, hlength, hroom⟩ := hb.watched_room
    obtain ⟨-, hadded⟩ := hpolls.add hnew (sock :: room)
      (fun fd hfd => List.mem_cons.mpr ((Set.mem_insert_iff.mp hfd).imp id (hroom listens fd)))
      (by rw [List.length_cons, hlength]; omega)
    obtain ⟨hapart', hwatched⟩ := hapart.accept hnone (mt (hb.keeps sock) hopen) hnew
    have hcond' := hC.add hcond (haddable sock hopen) hnew
    exact ⟨⟨pending, hwatched ▸ hadded, hwatched ▸ hcond'⟩, hapart'⟩

/-- `SetListenSocketsOnEpoll` sets the flag, and polls the listening sockets accordingly. -/
theorem Books.watches_setListenSocketsOnEpoll (ht : Has (Watches s t.fListenSocketsOnEpoll C) t)
    (htable : t.socketTable = s.socketTable) (hle : t.connectionCount ≤ cfg.maxConnections)
    (haddable : t.fListenSocketsOnEpoll = false → s.listening ⊆ addable) (fEnable : Bool) :
    (t.setListenSocketsOnEpoll PollInstance.polling fEnable).fListenSocketsOnEpoll = fEnable ∧
      Has (Watches s fEnable C) (t.setListenSocketsOnEpoll PollInstance.polling fEnable) := by
  have hnodup : roles.Nodup := by decide
  have hok : ¬ failed S_OK := by decide
  unfold CTCPStunThread.setListenSocketsOnEpoll
  split
  next hne =>
    have hflag : t.fListenSocketsOnEpoll = !fEnable := by
      revert hne
      cases fEnable <;> cases t.fListenSocketsOnEpoll <;> simp
    rw [hflag] at ht haddable
    rw [htable]
    obtain ⟨⟨pending, hpolls, hcond⟩, hapart⟩ := ht
    -- Neither the pipe nor a connection's socket is a listening socket.
    have hnot : ∀ fd ∈ s.watched false t.connectionpool.sockets, fd ∉ s.listening := by
      rintro fd (⟨-, hfalse⟩ | rfl | ⟨c, hc⟩) hlisten
      · exact Bool.noConfusion hfalse
      · exact s.pipe_notMem hlisten
      · exact hapart.apart c fd hc (s.listening_open hlisten)
    have hunion : s.watched false t.connectionpool.sockets ∪ s.listening =
        s.watched true t.connectionpool.sockets := by
      ext fd
      simp only [Opened.watched, Set.mem_union, Set.mem_ofPred_eq, Bool.false_eq_true, and_false,
        false_or, and_true]
      exact or_comm
    cases fEnable with
    | true =>
      rw [Bool.not_true] at hpolls hcond
      obtain ⟨room, hlength, hroom⟩ := hb.watched_room
      obtain ⟨q', hloop, hpolls', hcond'⟩ := setListenLoop_enable (s := s) hC hnodup hpolls hcond
        (fun fd hfd => ⟨fun hmem => hnot fd hmem (s.listeningOf_roles ▸ hfd),
          haddable rfl (s.listeningOf_roles ▸ hfd)⟩)
        (fun fd hfd => hroom true fd (by rwa [s.listeningOf_roles, hunion] at hfd))
        (by rw [hlength]; omega)
      rw [s.listeningOf_roles, hunion] at hpolls' hcond'
      rw [hloop]
      exact ⟨if_neg (t := t.fListenSocketsOnEpoll) hok, ⟨pending, hpolls', hcond'⟩, hapart⟩
    | false =>
      rw [Bool.not_false] at hpolls hcond
      obtain ⟨q', pending', hloop, hpolls', hcond'⟩ :=
        setListenLoop_disable (s := s) hC hnodup hpolls hcond
          fun fd hfd => .inl ⟨s.listeningOf_roles ▸ hfd, rfl⟩
      rw [s.listeningOf_roles, ← hunion, Set.union_sdiff_right,
        sdiff_eq_left.mpr (Set.disjoint_left.mpr hnot)] at hpolls' hcond'
      rw [hloop]
      exact ⟨if_neg (t := t.fListenSocketsOnEpoll) hok, ⟨pending', hpolls', hcond'⟩, hapart⟩
  next heq => exact ⟨(not_not.mp heq).symm, not_not.mp heq ▸ ht⟩

/-- A round waits for an event of a descriptor that is to be polled. -/
theorem Books.watches_awaited (ht : Has (Watches s t.fListenSocketsOnEpoll C) t)
    (htable : t.socketTable = s.socketTable) (hle : t.connectionCount ≤ cfg.maxConnections)
    (haddable : t.fListenSocketsOnEpoll = false → s.listening ⊆ addable) :
    (t.awaited PollInstance.polling).2.fListenSocketsOnEpoll = !t.isConnectionCountAtMax ∧
      Apart s t.connectionpool.sockets ∧
      ∃ pending pending',
        C (s.watched (!t.isConnectionCountAtMax) t.connectionpool.sockets) pending ∧
        (t.awaited PollInstance.polling).2.spPolling.Polls
          (s.watched (!t.isConnectionCountAtMax) t.connectionpool.sockets) pending' ∧
        PollInstance.Delivers
          (s.watched (!t.isConnectionCountAtMax) t.connectionpool.sockets) pending
          (t.awaited PollInstance.polling).1 pending' := by
  obtain ⟨hflag, ⟨pending, hpolls, hcond⟩, -⟩ :=
    hb.watches_setListenSocketsOnEpoll hC ht htable hle haddable (!t.isConnectionCountAtMax)
  have hpool : (t.setListenSocketsOnEpoll PollInstance.polling
      (!t.isConnectionCountAtMax)).connectionpool = t.connectionpool := by
    rw [setListenSocketsOnEpoll_eq]
  rw [hpool] at hpolls hcond
  obtain ⟨pending', hpolls', hdelivers⟩ := hpolls.waitForNextEvent
  exact ⟨hflag, ht.apart, pending, pending', hcond, hpolls', hdelivers⟩

end Lasting

end CTCPStunThread

end Stun
