import StunForAndroid.Server.TcpLimit

/-!
# How far the limit of connections is exceeded with `CEpoll`

The events of listening sockets that were fetched with fewer connections than may be are handed out
whatever the number of connections is by then. As long as `SetListenSocketsOnEpoll` does not fail
they are of different listening sockets and the first of them is within the limit, so that there are
no more connections too many than listening sockets but one. In any case there are no more than two
tables have room for (`overrun_le`).

What is counted is the connections together with the events of listening sockets that are pending:
an event that is handed out brings one connection at most.
-/

namespace Stun

namespace CTCPStunThread

variable {cfg : TcpConfig}

/-- The listening sockets, one after the other. -/
def Opened.listeningFds (s : Opened) : List ℤ := (roles.map s.socketTable).filter (· ≠ -1)

/-- The listed descriptors are those of the listening sockets. -/
theorem Opened.mem_listeningFds {s : Opened} {fd : ℤ} : fd ∈ s.listeningFds ↔ fd ∈ s.listening := by
  unfold Opened.listeningFds
  rw [List.mem_filter, List.mem_map, and_comm, decide_eq_true_eq]
  refine and_congr_right fun _ => exists_congr fun role => and_iff_right ?_
  cases role <;> decide

/-- How many of some events are of listening sockets. -/
def Opened.expected (s : Opened) (events : List ℤ) : ℕ := events.countP (· ∈ s.listeningFds)

/-- Of the events of a batch, no more than there are listening sockets. -/
theorem Opened.expected_le {s : Opened} {events : List ℤ} (h : events.Nodup) :
    s.expected events ≤ s.listeningFds.length := by
  unfold Opened.expected
  rw [List.countP_eq_length_filter]
  refine (h.filter _).length_le_of_subset fun fd hfd => ?_
  exact of_decide_eq_true (List.mem_filter.mp hfd).2

/-- None if no event is of a listening socket. -/
theorem Opened.expected_eq_zero {s : Opened} {events : List ℤ}
    (h : ∀ fd ∈ events, fd ∉ s.listening) : s.expected events = 0 :=
  List.countP_eq_zero.mpr fun fd hfd hmem =>
    h fd hfd (Opened.mem_listeningFds.mp (of_decide_eq_true hmem))

/-- The connections and those that may come from pending events are no more than the limit and the
listening sockets but one. -/
def Bounded (s : Opened) (t : CTCPStunThread CEpoll cfg) : Prop :=
  t.connectionCount + s.expected t.spPolling.pending ≤
    cfg.maxConnections + (s.listeningFds.length - 1)

section Running

variable {s : Opened} {t : CTCPStunThread CEpoll cfg} (hr : Running s t) (hf : Follows s t)
  (hbound : Bounded s t)
include hr hf hbound

/-- The upcoming events are counted in the bound as well. -/
theorem Running.bounded_upcoming
    (hkept : (t.setListenSocketsOnEpoll CEpoll.polling
      (!t.isConnectionCountAtMax)).fListenSocketsOnEpoll = !t.isConnectionCountAtMax) :
    t.connectionCount + s.expected (t.setListenSocketsOnEpoll CEpoll.polling
        (!t.isConnectionCountAtMax)).spPolling.upcoming ≤
      cfg.maxConnections + (s.listeningFds.length - 1) := by
  obtain ⟨items, hb⟩ := hr.books
  obtain ⟨-, hsame, -⟩ := hr.listens.setListenSocketsOnEpoll hb.keeps (!t.isConnectionCountAtMax)
  rcases CEpoll.upcoming_cases (t.setListenSocketsOnEpoll CEpoll.polling
    (!t.isConnectionCountAtMax)).spPolling with hpending | ⟨-, hnodup, hpolled⟩
  · rw [hpending, hsame.pending]
    exact hbound
  · have hlisten := (hr.follows hf hkept).1
    rcases Nat.lt_or_ge t.connectionCount cfg.maxConnections with hlt | hge
    · have hle := Opened.expected_le (s := s) hnodup
      omega
    · -- No listening socket is polled with as many connections.
      rw [Opened.expected_eq_zero fun fd hfd hin =>
        absurd ((hlisten fd hin).mp (hpolled fd hfd)) (Nat.not_lt.mpr hge)]
      exact (Nat.le_add_right _ _).trans hbound

/-- The wait keeps the bound, and the event that is handed out is counted in it. -/
theorem Running.bounded_awaited
    (hkept : (t.setListenSocketsOnEpoll CEpoll.polling
      (!t.isConnectionCountAtMax)).fListenSocketsOnEpoll = !t.isConnectionCountAtMax) :
    Bounded s (t.awaited CEpoll.polling).2 ∧
    ((t.awaited CEpoll.polling).1.hr = S_OK →
      t.connectionCount + s.expected
          ((t.awaited CEpoll.polling).1.fd :: (t.awaited CEpoll.polling).2.spPolling.pending) ≤
        cfg.maxConnections + (s.listeningFds.length - 1)) := by
  obtain ⟨items, hb⟩ := hr.books
  obtain ⟨-, hwaited, -⟩ := hr.listens.awaited hb.keeps
  have hupcoming := hr.bounded_upcoming hf hbound hkept
  unfold Bounded
  rw [connectionCount_awaited]
  cases hwaited with
  | nothing hne hempty hpending =>
    rw [hpending]
    rw [hempty] at hupcoming
    exact ⟨hupcoming, fun hok => absurd hok hne⟩
  | event _ hnext =>
    rw [hnext] at hupcoming
    have hle : s.expected (t.awaited CEpoll.polling).2.spPolling.pending ≤ s.expected
        ((t.awaited CEpoll.polling).1.fd :: (t.awaited CEpoll.polling).2.spPolling.pending) :=
      (List.sublist_cons_self _ _).countP_le
    exact ⟨(Nat.add_le_add_left hle _).trans hupcoming, fun _ => hupcoming⟩

/-- A round in which `SetListenSocketsOnEpoll` does not fail keeps the bound. -/
theorem Running.bounded_round (i : RoundInput)
    (hkept : i.fNeedToExit = false → (t.setListenSocketsOnEpoll CEpoll.polling
      (!t.isConnectionCountAtMax)).fListenSocketsOnEpoll = !t.isConnectionCountAtMax)
    {t' : CTCPStunThread CEpoll cfg} {goesOn : Bool}
    (hround : t.round CEpoll.polling i = some (t', goesOn)) :
    Running s t' ∧ Follows s t' ∧ Bounded s t' := by
  obtain ⟨items, hb⟩ := hr.books
  obtain ⟨t₁, goesOn₁, hround₁, hb', hrounds⟩ := hb.round (I := CEpoll.polling) i
  have heq := Option.some.inj (hround₁.symm.trans hround)
  obtain rfl : t₁ = t' := congrArg Prod.fst heq
  obtain rfl : goesOn₁ = goesOn := congrArg Prod.snd heq
  have hwait := (hr.listens.awaited hb.keeps).1
  have hcount := connectionCount_awaited t
  by_cases hexit : i.fNeedToExit = true
  · cases hrounds with
    | exits => exact ⟨hr, hf, hbound⟩
    | stops h => exact absurd hexit h
    | idles h => exact absurd hexit h
    | handles h => exact absurd hexit h
  replace hkept := hkept (Bool.not_eq_true _ ▸ hexit)
  obtain ⟨hbounded, hevent⟩ := hr.bounded_awaited hf hbound hkept
  have hfollows := (hr.follows hf hkept).2
  unfold Bounded at hbounded ⊢
  cases hrounds with
  | exits h => exact absurd h hexit
  | stops => exact ⟨⟨hb', hwait⟩, hfollows _ (.refl _), hbounded⟩
  | idles _ _ _ hsame _ hcount' =>
    obtain ⟨hlistens, hevents, -⟩ := hwait.same hsame
    refine ⟨⟨hb', hlistens⟩, hfollows _ hsame, ?_⟩
    rw [hevents.pending]
    exact (Nat.add_le_add_right (hcount'.trans_eq hcount.symm) _).trans hbounded
  | handles _ _ hok hserved =>
    obtain ⟨hlistens, hevents, -⟩ := hwait.same hserved.same
    refine ⟨⟨hb', hlistens⟩, hfollows _ hserved.same, ?_⟩
    rw [hevents.pending]
    have hbatch := hevent hok
    cases hserved.handled with
    | other _ _ hcount' => exact (Nat.add_le_add_right hcount' _).trans hbounded
    | full _ _ _ _ hcount' => exact (Nat.add_le_add_right hcount' _).trans hbounded
    | tracked haccepts _ _ hcount' =>
      -- The event was one of those that were counted.
      have hlisten := (getListenSocket_isSome_iff hwait.socketTable).mp haccepts.1
      have hone : s.expected
          ((t.awaited CEpoll.polling).1.fd :: (t.awaited CEpoll.polling).2.spPolling.pending) =
            s.expected (t.awaited CEpoll.polling).2.spPolling.pending + 1 :=
        List.countP_cons_of_pos (decide_eq_true (Opened.mem_listeningFds.mpr hlisten))
      rw [hone] at hbatch
      rw [hcount] at hcount'
      omega

end Running

/-- In a run in which `SetListenSocketsOnEpoll` does not fail the bound is kept. -/
theorem bounded_run {s : Opened} {t : CTCPStunThread CEpoll cfg} (hr : Running s t)
    (hf : Follows s t)
    (hbound : Bounded s t) {inputs : List RoundInput} (hkept : ListenKept inputs t)
    {t' : CTCPStunThread CEpoll cfg} (hrun : run CEpoll.polling inputs t = some t') :
    Bounded s t' := by
  induction inputs generalizing t with
  | nil => exact Option.some.inj hrun ▸ hbound
  | cons i rest ih =>
    obtain ⟨items, hb⟩ := hr.books
    obtain ⟨t₁, goesOn, hround, -⟩ := hb.round (I := CEpoll.polling) i
    obtain ⟨hr₁, hf₁, hbound₁⟩ := hr.bounded_round hf hbound i hkept.1 hround
    unfold CTCPStunThread.run at hrun
    rw [hround] at hrun
    cases goesOn with
    | true => exact ih hr₁ hf₁ hbound₁ (hkept.2 t₁ hround) hrun
    | false => exact Option.some.inj hrun ▸ hbound₁

/-- In every run there are at most twice as many connections as may be. If
`SetListenSocketsOnEpoll` does not fail in it, at most one less than there are listening sockets are
beyond the limit. -/
theorem overrun_le (s : Opened) (ctls : List (Option UInt16)) (waits : List (Option (List ℤ)))
    (time : ℤ) (inputs : List RoundInput) :
    ∃ t, run CEpoll.polling inputs (s.thread cfg ctls waits time) = some t ∧
      t.connectionCount ≤ 2 * cfg.maxConnections ∧
      (ListenKept inputs (s.thread cfg ctls waits time) →
        t.connectionCount ≤ cfg.maxConnections + (s.listeningFds.length - 1)) := by
  obtain ⟨hr, hwithin, hf, hpending⟩ := @Opened.running cfg s ctls waits time
  have hbound : Bounded s (s.thread cfg ctls waits time) := by
    unfold Bounded
    rw [hpending]
    exact hwithin.1.trans (Nat.le_add_right _ _)
  obtain ⟨items₀, hb₀⟩ := hr.books
  obtain ⟨t, items, hrun, hb⟩ := hb₀.run (I := CEpoll.polling) inputs
  refine ⟨t, hrun, ?_, fun hkept => ?_⟩
  · rw [hb.connectionCount_eq, Nat.two_mul]
    exact Nat.add_le_add (hb.maps .one).length_le (hb.maps .two).length_le
  · exact (Nat.le_add_right _ _).trans (bounded_run hr hf hbound hkept hrun)

/-- Four listening sockets. -/
def fourListening : Opened where
  socketTable := fun
    | .rolePP => 3
    | .rolePA => 4
    | .roleAP => 5
    | .roleAA => 6
  pipe := 7
  descriptors := [3, 4, 5, 6, 7]
  socketTable_open := by rintro ⟨⟩ <;> decide
  socketTable_inj := by rintro ⟨⟩ ⟨⟩ <;> decide
  pipe_open := by decide
  socketTable_ne_pipe := by rintro ⟨⟩ <;> decide

/-- At most four connections. -/
def fourConnections : TcpConfig :=
  { twoConnections with maxConnections := 4, maxConnections_ne := by decide }

/-- Three connections that come before a sweep, and then four at once. -/
def sevenAccepts : List RoundInput :=
  [acceptRound 10 0, acceptRound 11 0, acceptRound 12 60, acceptRound 13 61, acceptRound 14 61,
    acceptRound 15 61, acceptRound 16 61]

/-- With four listening sockets there are three connections too many in such a run, and no run has
more of them. -/
theorem overrun_le_four :
    (run CEpoll.polling sevenAccepts (fourListening.thread fourConnections []
      [some [3], some [3], some [3], some [3, 4, 5, 6]] 0)).map connectionCount = some 7 ∧
    ∃ t, run CEpoll.polling sevenAccepts (fourListening.thread fourConnections []
        [some [3], some [3], some [3], some [3, 4, 5, 6]] 0) = some t ∧
      t.connectionCount ≤ 4 + 3 := by
  refine ⟨by decide +kernel, ?_⟩
  obtain ⟨t, hrun, -, hle⟩ := @overrun_le fourConnections fourListening []
    [some [3], some [3], some [3], some [3, 4, 5, 6]] 0 sevenAccepts
  exact ⟨t, hrun, hle (listenKept_of_ctls fourListening (by simp) _ _ _)⟩

end CTCPStunThread

end Stun
