import StunForAndroid.Server.TcpAccept

/-!
# The loop of `CTCPStunThread`

What an event does (`Handled`), what a round of `Run` does (`Rounds`), and that every run keeps the
books. `run_accounted` is on the pool and the tables alone.
-/

namespace Stun

namespace CTCPStunThread

variable {P : Type} {cfg : TcpConfig} (I : IPolling P)

/-! ## Events -/

/-- A connection is accepted on the socket, as far as the `Insert`. -/
def AcceptsOn (fd : ℤ) (a : AcceptAnswer) (t : CTCPStunThread P cfg) : Prop :=
  (t.getListenSocket fd).isSome ∧ t.Admits I a

/-- What an event does to the number of connections: none is accepted, or one is put into a table
with room, or a full table does not take it. -/
inductive Handled (fd : ℤ) (a : AcceptAnswer) (t t' : CTCPStunThread P cfg) : Prop
  | other (h : ¬ t.AcceptsOn I fd a) (hinserts : t'.inserts = t.inserts)
      (hcount : t'.connectionCount ≤ t.connectionCount)
  | tracked (h : t.AcceptsOn I fd a)
      (hroom : (t.hashConnections t.pNewConnList).getSize < cfg.maxConnections)
      (hinserts : t'.inserts = t.inserts ++ [(1, t.connectionCount + 1)])
      (hcount : t'.connectionCount ≤ t.connectionCount + 1)
  | full (h : t.AcceptsOn I fd a) (count : ℕ)
      (hfull : (t.hashConnections t.pNewConnList).getSize = cfg.maxConnections)
      (hinserts : t'.inserts = t.inserts ++ [(-1, count)])
      (hcount : t'.connectionCount ≤ t.connectionCount)

/-- A step that inserts nothing and adds no connection leaves an event handled. -/
theorem Handled.trans {I : IPolling P} {fd : ℤ} {a : AcceptAnswer} {t t' t'' : CTCPStunThread P cfg}
    (h : Handled I fd a t t') (hinserts' : t''.inserts = t'.inserts)
    (hcount' : t''.connectionCount ≤ t'.connectionCount) : Handled I fd a t t'' := by
  cases h with
  | other h hinserts hcount => exact .other h (hinserts'.trans hinserts) (hcount'.trans hcount)
  | tracked h hroom hinserts hcount =>
    exact .tracked h hroom (hinserts'.trans hinserts) (hcount'.trans hcount)
  | full h count hfull hinserts hcount =>
    exact .full h count hfull (hinserts'.trans hinserts) (hcount'.trans hcount)

/-- What an event leaves when it has been handled. -/
structure Round (kept : Set ℤ) (fd : ℤ) (a : AcceptAnswer) (t t' : CTCPStunThread P cfg) :
    Prop where
  books : ∃ items, Books kept t' items []
  same : SameListen I kept t t'
  handled : Handled I fd a t t'

namespace Books

variable {I} {kept : Set ℤ} {t : CTCPStunThread P cfg} {items : TableId → List (ℤ × ConnId)}
  (hb : Books kept t items [])
include hb

/-- Fewer items are fewer connections. -/
theorem connectionCount_le {t' : CTCPStunThread P cfg} {items' : TableId → List (ℤ × ConnId)}
    (hb' : Books kept t' items' []) (hsub : ∀ id, (items' id).Sublist (items id)) :
    t'.connectionCount ≤ t.connectionCount := by
  rw [hb.connectionCount_eq, hb'.connectionCount_eq]
  exact Nat.add_le_add (hsub .one).length_le (hsub .two).length_le

/-- `ProcessConnectionEvent` returns and keeps the books. -/
theorem processConnectionEvent (sock : ℤ) (recvs : List RecvResult) (sends : List SendResult) :
    Leaves I kept t items (t.processConnectionEvent I sock recvs sends) := by
  unfold CTCPStunThread.processConnectionEvent
  split
  next => exact ⟨t, items, rfl, hb, fun _ => .refl _, .refl t⟩
  next c hlookup =>
    -- What a table gives is listed.
    obtain ⟨id, hmem⟩ : ∃ id, (sock, c) ∈ items id := by
      rcases Option.or_eq_some_iff.mp hlookup with h | ⟨-, h⟩
      · exact ⟨_, (hb.maps _).lookup_eq_some_iff.mp h⟩
      · exact ⟨_, (hb.maps _).lookup_eq_some_iff.mp h⟩
    obtain ⟨conn, hconn, -⟩ := hb.listed id _ hmem
    rw [hconn]
    refine hb.serves hconn ?_
    dsimp only [Option.bind_eq_bind, Option.bind_some]
    split
    · exact receiveBytesForConnection_serves I hconn sends recvs
    · exact writeBytesForConnection_serves I hconn recvs sends
    · exact consumeRemoteClose_serves I hconn recvs
    · exact .done

/-- Handling an event in `Run` returns and makes a round. -/
theorem handleEvent (fd : ℤ) (i : RoundInput) :
    ∃ t', t.handleEvent I fd i = some t' ∧ Round I kept fd i.accept t t' := by
  unfold CTCPStunThread.handleEvent
  split
  next role hrole =>
    by_cases hadmits : t.Admits I i.accept
    · have haccepts : t.AcceptsOn I fd i.accept := ⟨hrole ▸ rfl, hadmits⟩
      -- Whether the table has room is what decides, since nothing else can fail any more.
      have hsize := (hb.maps t.pNewConnList).size_eq
      rcases lt_or_eq_of_le (hb.maps t.pNewConnList).length_le with hroom | hfull
      · obtain ⟨c, t₁, haccept, haccepted, hinserts⟩ :=
          hb.acceptConnection_of_room hadmits hroom role
        obtain ⟨conn, hconn⟩ := haccepted.live c rfl
        obtain ⟨t', items', hreceive, hb', hsub, hsame⟩ := haccepted.books.serves hconn
          (receiveBytesForConnection_serves I hconn i.sends i.recvs)
        rw [haccept]
        refine ⟨t', hreceive, ⟨items', hb'⟩, haccepted.same.trans hsame.toSameListen, ?_⟩
        refine .tracked haccepts (hsize ▸ hroom) (hsame.inserts.trans hinserts) ?_
        refine (haccepted.books.connectionCount_le hb' hsub).trans ?_
        rw [haccepted.books.connectionCount_eq, hb.connectionCount_eq, length_withItem]
      · obtain ⟨t', count, haccept, haccepted, hinserts⟩ :=
          hb.acceptConnection_of_full hadmits hfull role
        rw [haccept]
        refine ⟨t', rfl, ⟨items, haccepted.books⟩, haccepted.same, ?_⟩
        exact .full haccepts count (hsize.trans hfull) hinserts
          (hb.connectionCount_le haccepted.books fun _ => .refl _)
    · obtain ⟨t', haccept, haccepted, hinserts⟩ := hb.acceptConnection_of_not_admits hadmits role
      rw [haccept]
      refine ⟨t', rfl, ⟨items, haccepted.books⟩, haccepted.same, ?_⟩
      exact .other (fun h => hadmits h.2) hinserts
        (hb.connectionCount_le haccepted.books fun _ => .refl _)
  next hrole =>
    obtain ⟨t', items', hprocess, hb', hsub, hsame⟩ := hb.processConnectionEvent fd i.recvs i.sends
    refine ⟨t', hprocess, ⟨items', hb'⟩, hsame.toSameListen, ?_⟩
    refine .other ?_ hsame.inserts (hb.connectionCount_le hb' hsub)
    intro haccepts
    rw [AcceptsOn, hrole] at haccepts
    exact Bool.noConfusion haccepts.1

/-- Serving an event and the sweep after it return and make a round. -/
theorem serveEvent (fd : ℤ) (i : RoundInput) :
    ∃ t', ((t.handleEvent I fd i).bind
        fun t => t.sweepDeadConnections I i.timeCurrent i.timeSwept) = some t' ∧
      Round I kept fd i.accept t t' := by
  obtain ⟨t₁, hhandle, ⟨items₁, hb₁⟩, hsame₁, hhandled⟩ := hb.handleEvent (I := I) fd i
  obtain ⟨t', items', hsweep, hb', hsub, hsame, hinserts⟩ :=
    hb₁.sweepDeadConnections (I := I) i.timeCurrent i.timeSwept
  rw [hhandle]
  refine ⟨t', hsweep, ⟨items', hb'⟩, hsame₁.trans hsame, ?_⟩
  exact hhandled.trans hinserts (hb₁.connectionCount_le hb' hsub)

end Books

/-! ## Rounds and runs -/

/-- The event that a round waits for, and the thread then. -/
def awaited (t : CTCPStunThread P cfg) : PollResult × CTCPStunThread P cfg :=
  let t := t.setListenSocketsOnEpoll I (!t.isConnectionCountAtMax)
  let r := I.waitForNextEvent t.spPolling
  (r.1, { t with spPolling := r.2 })

/-- A round, by what it waits for. -/
theorem round_eq (i : RoundInput) (t : CTCPStunThread P cfg) :
    t.round I i = if i.fNeedToExit then some (t, false)
      else if i.fNeedToExitAfterWait ∨ (t.awaited I).1.fd = (t.awaited I).2.pipe then
        some ((t.awaited I).2, false)
      else ((if (t.awaited I).1.hr = S_OK then (t.awaited I).2.handleEvent I (t.awaited I).1.fd i
        else some (t.awaited I).2).bind
          fun t => t.sweepDeadConnections I i.timeCurrent i.timeSwept).map (·, true) := by
  unfold round
  split
  · rfl
  show (if i.fNeedToExitAfterWait = true ∨ (t.awaited I).1.fd = (t.awaited I).2.pipe then _
    else _) = _
  split
  · rfl
  rw [Option.map_bind]
  show (if (t.awaited I).1.hr = S_OK then _ else _) = _
  split
  · refine congrArg _ (funext fun t' => ?_)
    exact Option.map_eq_bind.symm
  · exact Option.map_eq_bind.symm

/-- What a round does: it ends the loop before or after the wait, or there is an event, or none. -/
inductive Rounds (kept : Set ℤ) (i : RoundInput) (t : CTCPStunThread P cfg) :
    CTCPStunThread P cfg → Bool → Prop
  | exits (h : i.fNeedToExit = true) : Rounds kept i t t false
  | stops (h : ¬ i.fNeedToExit = true)
      (hstop : i.fNeedToExitAfterWait = true ∨ (t.awaited I).1.fd = (t.awaited I).2.pipe) :
      Rounds kept i t (t.awaited I).2 false
  | handles {t' : CTCPStunThread P cfg} (h : ¬ i.fNeedToExit = true)
      (hgo : ¬ (i.fNeedToExitAfterWait = true ∨ (t.awaited I).1.fd = (t.awaited I).2.pipe))
      (hr : (t.awaited I).1.hr = S_OK)
      (hround : Round I kept (t.awaited I).1.fd i.accept (t.awaited I).2 t') :
      Rounds kept i t t' true
  | idles {t' : CTCPStunThread P cfg} (h : ¬ i.fNeedToExit = true)
      (hgo : ¬ (i.fNeedToExitAfterWait = true ∨ (t.awaited I).1.fd = (t.awaited I).2.pipe))
      (hr : (t.awaited I).1.hr ≠ S_OK) (hsame : SameListen I kept (t.awaited I).2 t')
      (hinserts : t'.inserts = t.inserts) (hcount : t'.connectionCount ≤ t.connectionCount) :
      Rounds kept i t t' true

/-- `SetListenSocketsOnEpoll` writes the polling and the flag. -/
theorem setListenSocketsOnEpoll_eq (fEnable : Bool) (t : CTCPStunThread P cfg) :
    t.setListenSocketsOnEpoll I fEnable = { t with
      spPolling := (t.setListenSocketsOnEpoll I fEnable).spPolling
      fListenSocketsOnEpoll := (t.setListenSocketsOnEpoll I fEnable).fListenSocketsOnEpoll } := by
  unfold setListenSocketsOnEpoll
  split <;> rfl

namespace Books

variable {I} {kept : Set ℤ} {t : CTCPStunThread P cfg} {items : TableId → List (ℤ × ConnId)}
  (hb : Books kept t items [])
include hb

/-- `SetListenSocketsOnEpoll` keeps the books. -/
theorem setListenSocketsOnEpoll (fEnable : Bool) :
    Books kept (t.setListenSocketsOnEpoll I fEnable) items [] := by
  rw [setListenSocketsOnEpoll_eq]
  exact hb.congr rfl rfl rfl rfl rfl

/-- The wait keeps the books. -/
theorem awaited : Books kept (t.awaited I).2 items [] :=
  (hb.setListenSocketsOnEpoll _).congr rfl rfl rfl rfl rfl

/-- A round of `Run` returns, keeps the books and is one of the rounds. -/
theorem round (i : RoundInput) :
    ∃ t' goesOn, t.round I i = some (t', goesOn) ∧ (∃ items', Books kept t' items' []) ∧
      Rounds I kept i t t' goesOn := by
  have hw := hb.awaited (I := I)
  rw [round_eq]
  split
  next h => exact ⟨t, false, rfl, ⟨items, hb⟩, .exits h⟩
  next h =>
  split
  next hstop => exact ⟨_, false, rfl, ⟨items, hw⟩, .stops h hstop⟩
  next hgo =>
  split
  next hr =>
    obtain ⟨t', hserve, hround⟩ := hw.serveEvent (I := I) (t.awaited I).1.fd i
    rw [hserve]
    exact ⟨t', true, rfl, hround.books, .handles h hgo hr hround⟩
  next hr =>
    obtain ⟨t', items', hsweep, hb', hsub, hsame, hinserts⟩ :=
      hw.sweepDeadConnections (I := I) i.timeCurrent i.timeSwept
    rw [Option.bind_some, hsweep]
    refine ⟨t', true, rfl, ⟨items', hb'⟩, .idles h hgo hr hsame ?_ (hb.connectionCount_le hb' hsub)⟩
    rw [hinserts]
    show (t.setListenSocketsOnEpoll I _).inserts = t.inserts
    rw [setListenSocketsOnEpoll_eq]

end Books

/-! ## Every run -/

namespace Books

variable {I} {kept : Set ℤ} {t : CTCPStunThread P cfg} {items : TableId → List (ℤ × ConnId)}

/-- A run returns and keeps the books. -/
theorem run (hb : Books kept t items []) (inputs : List RoundInput) :
    ∃ t' items', t.run I inputs = some t' ∧ Books kept t' items' [] := by
  induction inputs generalizing t items with
  | nil => exact ⟨t, items, rfl, hb⟩
  | cons i rest ih =>
    obtain ⟨t₁, goesOn, hround, ⟨items₁, hb₁⟩, -⟩ := hb.round (I := I) i
    unfold CTCPStunThread.run
    rw [hround]
    cases goesOn with
    | true => exact ih hb₁
    | false => exact ⟨t₁, items₁, rfl, hb₁⟩

end Books

/-- Before the loop nothing is on the books. -/
theorem books_start {kept : Set ℤ} {descriptors : List ℤ} (hkept : ∀ fd ∈ kept, fd ∈ descriptors)
    (spPolling : P) (socketTable : SocketRole → ℤ) (pipe time : ℤ) :
    Books kept (start spPolling socketTable pipe descriptors time : CTCPStunThread P cfg)
      (fun _ => []) [] where
  gaveOut := ⟨.refl _, by simp [start]⟩
  maps := fun _ => FastHash.maps_reset _
  listed := by simp
  opened := by simp [start, CConnectionPool.deref]
  distinct := by simp [start, CConnectionPool.deref]
  keeps := hkept
  lists := by simp [start]

/-- Each connection that was made is on the free list, once, or in one table, once, and there it is
under its own socket and has the table's hint. -/
structure Accounted (t : CTCPStunThread P cfg) : Prop where
  once : (t.connectionpool.freelist ++ (t.hashConnections .one).contents.map Prod.snd ++
    (t.hashConnections .two).contents.map Prod.snd).Perm (List.range t.connectionpool.conns.length)
  keyed : ∀ id, ∀ x ∈ (t.hashConnections id).contents, ∃ conn,
    t.connectionpool.conns[x.2]? = some conn ∧ conn.stunsocket.sock = x.1 ∧
    conn.idHashTable = id.hint ∧ (t.hashConnections id).lookup conn.stunsocket.sock = some x.2

/-- A thread with balanced books accounts for its connections. -/
theorem Books.accounted {kept : Set ℤ} {t : CTCPStunThread P cfg}
    {items : TableId → List (ℤ × ConnId)} (hb : Books kept t items []) : t.Accounted where
  once := by
    have honce := hb.gaveOut.once
    rw [List.append_nil, ← List.append_assoc] at honce
    have hperm := fun id => ((hb.maps id).contents_perm.map Prod.snd)
    exact (((hperm .one).append_left _).append (hperm .two)).trans honce
  keyed := by
    intro id x hx
    have hmem := (hb.maps id).contents_perm.mem_iff.mp hx
    obtain ⟨conn, hconn, hsock, hhint⟩ := hb.listed id x hmem
    refine ⟨conn, (CConnectionPool.deref_eq_some_iff.mp hconn).2, hsock, hhint, ?_⟩
    rw [hsock]
    exact (hb.maps id).lookup_eq_some_iff.mpr hmem

/-- After any number of rounds, whatever happens in them, each connection is accounted for, and none
was touched or released after its release; `ThreadCleanup` ends with empty tables and all
connections on the free list. -/
theorem run_accounted (spPolling : P) (socketTable : SocketRole → ℤ) (pipe : ℤ)
    (descriptors : List ℤ) (time : ℤ) (inputs : List RoundInput) :
    ∃ t : CTCPStunThread P cfg,
      run I inputs (init I (start spPolling socketTable pipe descriptors time)) = some t ∧
      t.Accounted ∧
      ∃ t', t.threadCleanup I = some t' ∧ t'.Accounted ∧
        (∀ id, (t'.hashConnections id).contents = []) ∧
        t'.connectionpool.freelist.Perm (List.range t'.connectionpool.conns.length) := by
  have hstart : Books ∅ (start spPolling socketTable pipe descriptors time : CTCPStunThread P cfg)
      (fun _ => []) [] := books_start (by simp) spPolling socketTable pipe time
  have hinit : Books ∅ (init I (start spPolling socketTable pipe descriptors time :
      CTCPStunThread P cfg)) (fun _ => []) [] :=
    (hstart.setListenSocketsOnEpoll (I := I) true).congr rfl rfl rfl rfl rfl
  obtain ⟨t, items, hrun, hb⟩ := hinit.run (I := I) inputs
  obtain ⟨t', hcleanup, hb'⟩ := hb.threadCleanup (I := I)
  refine ⟨t, hrun, hb.accounted, t', hcleanup, hb'.accounted, ?_, ?_⟩
  · exact fun id => List.perm_nil.mp (hb'.maps id).contents_perm
  · have honce := hb'.gaveOut.once
    simpa using honce

end CTCPStunThread

end Stun
