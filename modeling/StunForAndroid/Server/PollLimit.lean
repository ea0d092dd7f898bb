import StunForAndroid.Server.PolledSockets

/-!
# The limit of connections with `CPoll`

The events that `poll` reported are in the entries of `CPoll`, so that a listening socket that is
not polled any more has none left. A connection is accepted below the limit only, with any number of
listening sockets, and the table of the polling has room for all descriptors (`run_limited`).
-/

namespace Stun

namespace CTCPStunThread

variable {cfg : TcpConfig} {tableWidth : ℕ} [NeZero tableWidth]

/-! ## Rounds and runs -/

/-- The condition that asks for nothing lasts. -/
theorem lasting_true : Lasting Set.univ fun _ _ => True := ⟨fun _ => id, fun h _ _ => h⟩

/-- What holds in the loop. -/
structure Polling (s : Opened) (t : CTCPStunThread (PollingOf cfg tableWidth) cfg) : Prop where
  books : ∃ items, Books {fd | fd ∈ s.descriptors} t items []
  socketTable : t.socketTable = s.socketTable
  watches : Has (Watches s t.fListenSocketsOnEpoll fun _ _ => True) t
  limit : t.connectionCount ≤ cfg.maxConnections
  inserts : ∀ x ∈ t.inserts, x.1 ≠ -1 ∧ x.2 ≤ cfg.maxConnections

/-- The wait changes the polling and the flag only. -/
theorem awaited_same {P : Type} (I : IPolling P) (t : CTCPStunThread P cfg) :
    (t.awaited I).2.connectionCount = t.connectionCount ∧
      (t.awaited I).2.connectionpool = t.connectionpool ∧
      (t.awaited I).2.inserts = t.inserts ∧ (t.awaited I).2.socketTable = t.socketTable ∧
      (t.awaited I).2.pipe = t.pipe := by
  unfold CTCPStunThread.awaited
  rw [setListenSocketsOnEpoll_eq]
  exact ⟨rfl, rfl, rfl, rfl, rfl⟩

section Polling

variable {s : Opened} {t : CTCPStunThread (PollingOf cfg tableWidth) cfg} (h : Polling s t)
include h

/-- An event of a listening socket comes below the limit only. -/
theorem Polling.below (hok : (t.awaited PollInstance.polling).1.hr = S_OK)
    (hsome : ((t.awaited PollInstance.polling).2.getListenSocket
      (t.awaited PollInstance.polling).1.fd).isSome) : t.connectionCount < cfg.maxConnections := by
  obtain ⟨items, hb⟩ := h.books
  obtain ⟨-, -, -, htable, -⟩ := awaited_same PollInstance.polling t
  have hlisten := mem_listening_of_getListenSocket (htable.trans h.socketTable) hsome
  obtain ⟨-, hapart, pending, pending', -, -, hdelivers⟩ := hb.watches_awaited lasting_true
    h.watches h.socketTable h.limit fun _ => Set.subset_univ _
  obtain ⟨-, hmax⟩ | hpipe | ⟨c, hc⟩ := hdelivers.mem hok
  · rw [Bool.not_eq_true', isConnectionCountAtMax, decide_eq_false_iff_not] at hmax
    exact Nat.lt_of_not_ge hmax
  · exact absurd (hpipe ▸ hlisten) s.pipe_notMem
  · exact absurd (s.listening_open hlisten) (hapart.apart c _ hc)

/-- After a round that goes past the wait the polled descriptors are the watched ones. -/
theorem Polling.watches_round {addable : Set ℤ} {C : Set ℤ → Finset ℤ → Prop}
    (hC : Lasting addable C) {i : RoundInput} {t' : CTCPStunThread (PollingOf cfg tableWidth) cfg}
    {goesOn : Bool} (hround : t.round PollInstance.polling i = some (t', goesOn))
    (hgo : ¬ i.fNeedToExit = true)
    (hwatches : Has (Watches s (!t.isConnectionCountAtMax) C) (t.awaited PollInstance.polling).2)
    (haddable : ∀ sock ∉ (t.awaited PollInstance.polling).2.descriptors, sock ∈ addable) :
    Has (Watches s (!t.isConnectionCountAtMax) C) t' := by
  obtain ⟨items, hb⟩ := h.books
  obtain ⟨hcount, -⟩ := awaited_same PollInstance.polling t
  refine hb.has_round (stable_watches hC) hround hgo hwatches fun hok hsome => ?_
  exact hb.awaited.takes_watches hC hwatches (hcount ▸ h.below hok hsome) haddable

/-- A round returns and keeps what is polled. -/
theorem Polling.round (i : RoundInput) :
    ∃ t' goesOn, t.round PollInstance.polling i = some (t', goesOn) ∧ Polling s t' := by
  obtain ⟨items, hb⟩ := h.books
  obtain ⟨t', goesOn, hround, hb', hrounds⟩ := hb.round (I := PollInstance.polling) i
  refine ⟨t', goesOn, hround, ?_⟩
  obtain ⟨hflag, hapart, pending, pending', hcond, hpolls, -⟩ := hb.watches_awaited lasting_true
    h.watches h.socketTable h.limit fun _ => Set.subset_univ _
  obtain ⟨hcount, hpool, hinserts, htable, -⟩ := awaited_same PollInstance.polling t
  have htable := htable.trans h.socketTable
  have hwatches : Has (Watches s (!t.isConnectionCountAtMax) fun _ _ => True)
      (t.awaited PollInstance.polling).2 := by
    unfold Has
    rw [hpool]
    exact ⟨⟨pending', hpolls, trivial⟩, hapart⟩
  have hafter := fun hgo =>
    h.watches_round lasting_true hround hgo hwatches fun sock _ => Set.mem_univ sock
  cases hrounds with
  | exits _ => exact h
  | stops hgo _ =>
    exact ⟨hb', htable, hflag ▸ hwatches, hcount ▸ h.limit, hinserts ▸ h.inserts⟩
  | idles hgo _ _ hsame hinserts' hcount' =>
    refine ⟨hb', hsame.socketTable.trans htable, ?_, hcount'.trans h.limit, hinserts' ▸ h.inserts⟩
    rw [hsame.fListenSocketsOnEpoll, hflag]
    exact hafter hgo
  | handles hgo _ hok hevent =>
    have hwatches' : Has (Watches s t'.fListenSocketsOnEpoll fun _ _ => True) t' := by
      rw [hevent.same.fListenSocketsOnEpoll, hflag]
      exact hafter hgo
    have htable' := hevent.same.socketTable.trans htable
    cases hevent.handled with
    | other _ hinserts' hcount' =>
      rw [hinserts] at hinserts'
      rw [hcount] at hcount'
      exact ⟨hb', htable', hwatches', hcount'.trans h.limit, hinserts' ▸ h.inserts⟩
    | tracked haccepts _ hinserts' hcount' =>
      rw [hinserts, hcount] at hinserts'
      rw [hcount] at hcount'
      have hlt := h.below hok haccepts.1
      refine ⟨hb', htable', hwatches', hcount'.trans hlt, fun x hx => ?_⟩
      rw [hinserts', List.mem_append, List.mem_singleton] at hx
      rcases hx with hx | rfl
      · exact h.inserts x hx
      · exact ⟨(by decide : (1 : ℤ) ≠ -1), hlt⟩
    | full haccepts _ hfull _ _ =>
      -- A full table has as many connections as may be.
      have hlt := h.below hok haccepts.1
      have hle := Nat.le_add_right _ _ |>.trans_eq hcount
      rw [hfull] at hle
      exact absurd hlt (Nat.not_lt.mpr hle)

end Polling

/-- When `Init` is done the listening sockets and the pipe are polled. -/
theorem Opened.polling (s : Opened) (polls : List PollReturn) (time : ℤ) :
    Polling s (s.pollThread cfg tableWidth polls time) := by
  obtain ⟨t₀, ht₀⟩ : ∃ t₀ : CTCPStunThread (PollingOf cfg tableWidth) cfg, t₀ =
      start (PollInstance.initialize_ _ _ polls) s.socketTable s.pipe s.descriptors time := ⟨_, rfl⟩
  have hb : Books {fd | fd ∈ s.descriptors} t₀ (fun _ => []) [] :=
    ht₀ ▸ books_start (fun _ => id) _ _ _ _
  have hsockets : ∀ c, t₀.connectionpool.sockets c = none := by
    intro c
    rw [ht₀]
    simp [start, CConnectionPool.sockets, CConnectionPool.deref]
  have hcount : t₀.connectionCount = 0 := hb.connectionCount_eq
  obtain ⟨room, hlength, hroom⟩ := hb.watched_room
  have hroom' : ∀ fd ∈ insert s.pipe s.listening, fd ∈ room := by
    rintro fd (rfl | hlisten)
    · exact hroom true _ (.inr (.inl rfl))
    · exact hroom true fd (.inl ⟨hlisten, rfl⟩)
  have hle : room.length ≤ cfg.maxConnections + 5 := by
    rw [hlength, hcount]
    omega
  -- First the listening sockets, then the pipe.
  have hnone : t₀.spPolling.Polls ∅ ∅ := ht₀ ▸ PollInstance.polls_initialized polls
  have hnodup : roles.Nodup := by decide
  obtain ⟨q', hloop, hpolls, -⟩ := setListenLoop_enable (s := s) lasting_true hnodup hnone trivial
    (fun fd _ => ⟨Set.notMem_empty fd, Set.mem_univ fd⟩)
    (fun fd hfd => hroom' fd (.inr (by rwa [s.listeningOf_roles, Set.empty_union] at hfd))) hle
  rw [s.listeningOf_roles, Set.empty_union] at hpolls
  obtain ⟨-, hadded⟩ := hpolls.add s.pipe_notMem room hroom' hle
  have hthread : s.pollThread cfg tableWidth polls time =
      { t₀ with spPolling := (q'.add s.pipe).2, fListenSocketsOnEpoll := true } := by
    have hok : ¬ failed S_OK := by decide
    have hset : t₀.setListenSocketsOnEpoll PollInstance.polling true =
        { t₀ with spPolling := q', fListenSocketsOnEpoll := true } := by
      have hflag : t₀.fListenSocketsOnEpoll = false := ht₀ ▸ rfl
      have htable : t₀.socketTable = s.socketTable := ht₀ ▸ rfl
      unfold CTCPStunThread.setListenSocketsOnEpoll
      rw [hflag, if_pos (by decide), htable, hloop]
      dsimp only
      rw [if_neg hok]
    have hinit : s.pollThread cfg tableWidth polls time = t₀.init PollInstance.polling := ht₀ ▸ rfl
    rw [hinit, init, hset, ht₀]
    rfl
  have hwatched : insert s.pipe s.listening = s.watched true t₀.connectionpool.sockets := by
    ext fd
    simp [Opened.watched, hsockets, or_comm]
  rw [hthread]
  refine ⟨⟨_, hb.congr rfl rfl rfl rfl rfl⟩, ht₀ ▸ rfl,
    ⟨⟨∅, hwatched ▸ hadded, trivial⟩, ?_⟩, ?_, ?_⟩
  · exact ⟨fun c fd hc => absurd hc (by simp [hsockets]),
      fun c c' fd hc => absurd hc (by simp [hsockets])⟩
  · exact hcount.le.trans (Nat.zero_le _)
  · simp [ht₀, start]

/-- In every run, whatever `poll` reports and whatever the system answers, there are no more
connections than may be, none were after any `Insert`, and no `Insert` failed; and what is polled is
the pipe, the sockets of the connections, and the listening sockets while the flag says so. -/
theorem run_limited (s : Opened) (tableWidth : ℕ) [NeZero tableWidth] (polls : List PollReturn)
    (time : ℤ) (inputs : List RoundInput) :
    ∃ t, run PollInstance.polling inputs (s.pollThread cfg tableWidth polls time) = some t ∧
      t.connectionCount ≤ cfg.maxConnections ∧
      (∀ x ∈ t.inserts, x.1 ≠ -1 ∧ x.2 ≤ cfg.maxConnections) ∧
      ∃ p, t.spPolling.cpoll = some p ∧ p.Tabled ∧ ∀ fd, fd ∈ p.polledFds ↔
        (fd ∈ s.listening ∧ t.fListenSocketsOnEpoll = true) ∨ fd = s.pipe ∨
        ∃ id c, (t.hashConnections id).lookup fd = some c := by
  have hstart := @Opened.polling cfg tableWidth _ s polls time
  generalize s.pollThread cfg tableWidth polls time = t₀ at hstart
  obtain ⟨t, hrun, h⟩ : ∃ t, t₀.run PollInstance.polling inputs = some t ∧ Polling s t := by
    induction inputs generalizing t₀ with
    | nil => exact ⟨t₀, rfl, hstart⟩
    | cons i rest ih =>
      obtain ⟨t₁, goesOn, hround, h₁⟩ := hstart.round i
      unfold CTCPStunThread.run
      rw [hround]
      cases goesOn with
      | true => exact ih t₁ h₁
      | false => exact ⟨t₁, rfl, h₁⟩
  obtain ⟨items, hb⟩ := h.books
  obtain ⟨⟨pending, ⟨p, hp, hc, hfds, -⟩, -⟩, -⟩ := h.watches
  refine ⟨t, hrun, h.limit, h.inserts, p, hp, hc.tabled, fun fd => (hfds fd).trans ?_⟩
  refine or_congr_right (or_congr_right ?_)
  simp only [hb.sockets_eq_some_iff, (hb.maps _).lookup_eq_some_iff]
  exact exists_comm

/-- The first listening socket is ready at first, then both are. -/
def bothReady : List PollReturn :=
  [.ready fun i => if i = 0 then 1 else 0, .ready fun i => if i = 2 then 0 else 1]

/-- `run_limited` for two listening sockets and a connection too many. -/
theorem run_limited_twoListening :
    (run PollInstance.polling threeAccepts
      (twoListening.pollThread twoConnections 11 bothReady 0)).map connectionCount = some 2 ∧
    ∃ t, run PollInstance.polling threeAccepts
        (twoListening.pollThread twoConnections 11 bothReady 0) = some t ∧
      t.connectionCount ≤ 2 ∧ (∀ x ∈ t.inserts, x.1 ≠ -1 ∧ x.2 ≤ 2) ∧
      ∃ p, t.spPolling.cpoll = some p ∧ p.Tabled ∧ ∀ fd, fd ∈ p.polledFds ↔
        (fd ∈ twoListening.listening ∧ t.fListenSocketsOnEpoll = true) ∨ fd = 5 ∨
        ∃ id c, (t.hashConnections id).lookup fd = some c :=
  ⟨by decide +kernel, @run_limited twoConnections twoListening 11 _ bothReady 0 threeAccepts⟩

end CTCPStunThread

end Stun
