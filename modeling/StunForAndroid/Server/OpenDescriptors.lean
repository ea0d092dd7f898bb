import StunForAndroid.Server.ExactlyOnce

/-!
# The descriptors of `CTCPStunThread`

Which descriptors of the process are open while the thread of `src/server/tcpserver.cpp` runs.
Besides those that were open before there is one for each connection in the tables, whatever the
polling does and at whatever step the setup of a connection fails, and after `ThreadCleanup` there
is none of them left (`run_descriptors`).

The functions of the thread do few things to the polling, to the sockets of the connections and to
the descriptors: they change an event set, they close a connection, and they accept one. A property
of the three that the first two keep is `Stable`, and it is carried through all functions once.
-/

namespace Stun

namespace CConnectionPool

/-- The socket of each connection that is given out. -/
def sockets (pool : CConnectionPool) (c : ConnId) : Option ℤ :=
  (pool.deref c).map (·.stunsocket.sock)

/-- A connection that is written keeps its socket. -/
theorem sockets_set {pool : CConnectionPool} {c : ConnId} {conn conn' : StunConnection}
    (hc : pool.deref c = some conn) (hsock : conn'.stunsocket.sock = conn.stunsocket.sock) :
    (pool.set c conn').sockets = pool.sockets := by
  funext c'
  unfold sockets
  rcases eq_or_ne c' c with rfl | hne
  · rw [deref_set_self hc conn', hc, Option.map_some, Option.map_some, hsock]
  · rw [deref_set_of_ne hne conn']

/-- A connection that is given out has a socket. -/
theorem sockets_eq_some_iff {pool : CConnectionPool} {c : ConnId} {fd : ℤ} :
    pool.sockets c = some fd ↔ ∃ conn, pool.deref c = some conn ∧ conn.stunsocket.sock = fd :=
  Option.map_eq_some_iff

end CConnectionPool

namespace CTCPStunThread

variable {P : Type} {cfg : TcpConfig} (I : IPolling P)

/-! ## What all functions keep -/

/-- A property of the polling, of the sockets of the connections and of the descriptors. -/
abbrev Property (P : Type) : Type := P → (ConnId → Option ℤ) → List ℤ → Prop

/-- The thread has the property. -/
def Has (Q : Property P) (t : CTCPStunThread P cfg) : Prop :=
  Q t.spPolling t.connectionpool.sockets t.descriptors

/-- The property stays when the event set of a descriptor is changed and when a connection is
closed. -/
structure Stable (Q : Property P) : Prop where
  change : ∀ {p : P} {sockets : ConnId → Option ℤ} {descriptors : List ℤ} (fd : ℤ),
    Q p sockets descriptors → Q (I.changeEventSet fd p).2 sockets descriptors
  close : ∀ {p : P} {sockets : ConnId → Option ℤ} {descriptors : List ℤ} {c : ConnId} {sock : ℤ},
    Q p sockets descriptors → sockets c = some sock →
    Q (I.drop sock p) (Function.update sockets c none)
      (if sock ≠ -1 then descriptors.filter (· ≠ sock) else descriptors)

/-- The property stays when the thread accepts a connection, whether it closes its socket at once or
polls it. -/
def Takes (Q : Property P) (t : CTCPStunThread P cfg) : Prop :=
  ∀ c sock, t.connectionpool.sockets c = none → sock ≠ -1 → sock ∉ t.descriptors →
    Q (I.drop sock t.spPolling) t.connectionpool.sockets t.descriptors ∧
    Q (I.add sock t.spPolling).2 (Function.update t.connectionpool.sockets c (some sock))
      (sock :: t.descriptors)

/-- `CloseConnection`, by what it leaves of the three. -/
theorem has_closeConnection {Q : Property P} {t t' : CTCPStunThread P cfg} {c : ConnId}
    {conn : StunConnection} (hc : t.connectionpool.deref c = some conn)
    (hclosed : Q (I.drop conn.stunsocket.sock t.spPolling)
      (Function.update t.connectionpool.sockets c none)
      (if conn.stunsocket.sock ≠ -1 then t.descriptors.filter (· ≠ conn.stunsocket.sock)
        else t.descriptors))
    (h : t.closeConnection I c = some t') : Has Q t' := by
  have hnone := deref_closeConnection h
  have hother := fun c' (hne : c' ≠ c) => deref_closeConnection_of_ne h hne
  unfold CTCPStunThread.closeConnection at h
  obtain ⟨conn', hc', h⟩ := Option.bind_eq_some_iff.mp h
  obtain rfl := Option.some.inj (hc.symm.trans hc')
  have hsockets : t'.connectionpool.sockets = Function.update t.connectionpool.sockets c none := by
    funext c'
    unfold CConnectionPool.sockets
    rcases eq_or_ne c' c with rfl | hne
    · rw [Function.update_self, hnone, Option.map_none]
    · rw [Function.update_of_ne hne, hother c' hne]
  rw [← hsockets] at hclosed
  obtain ⟨pool, -, h⟩ := Option.bind_eq_some_iff.mp h
  rw [removeHinted_eq] at h
  cases h
  exact hclosed

section Stable

variable {I} {Q : Property P} (hQ : Stable I Q) {t t' : CTCPStunThread P cfg}
include hQ

/-- `CloseConnection` keeps a stable property. -/
theorem Stable.closeConnection (ht : Has Q t) {c : ConnId} (h : t.closeConnection I c = some t') :
    Has Q t' := by
  have hopen := h
  unfold CTCPStunThread.closeConnection at hopen
  obtain ⟨conn, hc, -⟩ := Option.bind_eq_some_iff.mp hopen
  refine has_closeConnection I hc ?_ h
  exact hQ.close ht (CConnectionPool.sockets_eq_some_iff.mpr ⟨conn, hc, rfl⟩)

/-- Touching a connection that stays open keeps a stable property. -/
theorem Stable.touches {c : ConnId} (h : Touches I c t t') (ht : Has Q t) : Has Q t' := by
  induction h with
  | refl t => exact ht
  | @write t _ _ conn' hc hsock _ _ ih =>
    have hsockets : (t.setConn c conn').connectionpool.sockets = t.connectionpool.sockets :=
      CConnectionPool.sockets_set hc hsock
    refine ih ?_
    unfold Has
    rw [hsockets]
    exact ht
  | poll fd _ ih => exact ih (hQ.change fd ht)

/-- A function that serves a connection keeps a stable property. -/
theorem Stable.serves (ht : Has Q t) {c : ConnId} {r : Option (CTCPStunThread P cfg)}
    (h : Serves I c t r) (hr : r = some t') : Has Q t' := by
  obtain ⟨t₁, htouches, hend⟩ := h
  have ht₁ := hQ.touches htouches ht
  rcases hend with hend | hend
  · cases hr.symm.trans hend
    exact ht₁
  · exact hQ.closeConnection ht₁ (hend.symm.trans hr)

/-- `CloseAllConnections` keeps a stable property. -/
theorem Stable.closeAllConnections (ht : Has Q t) {id : TableId} {rounds : ℕ}
    (h : t.closeAllConnections I id rounds = some t') : Has Q t' := by
  induction rounds generalizing t with
  | zero => cases h
  | succ rounds ih =>
    unfold CTCPStunThread.closeAllConnections at h
    dsimp only at h
    -- The table that is read is written back, which is none of the three.
    have ht₁ : Has Q (t.setTable id ((t.hashConnections id).lookupByIndex 0).2) := ht
    split at h
    · cases h
      exact ht₁
    · obtain ⟨t₂, hclose, h⟩ := Option.bind_eq_some_iff.mp h
      exact ih (hQ.closeConnection ht₁ hclose) h

/-- `SweepDeadConnections` keeps a stable property. -/
theorem Stable.sweepDeadConnections (ht : Has Q t) {timeCurrent timeSwept : ℤ}
    (h : t.sweepDeadConnections I timeCurrent timeSwept = some t') : Has Q t' := by
  unfold CTCPStunThread.sweepDeadConnections at h
  split at h
  · obtain ⟨t₁, hclose, h⟩ := Option.bind_eq_some_iff.mp h
    have ht₁ : Has Q t₁ := hQ.closeAllConnections ht hclose
    cases h
    exact ht₁
  · cases h
    exact ht

/-- `ThreadCleanup` keeps a stable property. -/
theorem Stable.threadCleanup (ht : Has Q t) (h : t.threadCleanup I = some t') : Has Q t' := by
  obtain ⟨t₁, hclose, h⟩ := Option.bind_eq_some_iff.mp h
  exact hQ.closeAllConnections (hQ.closeAllConnections ht hclose) h

/-- `ReceiveBytesForConnection` keeps a stable property. -/
theorem Stable.receiveBytesForConnection (ht : Has Q t) {c : ConnId} {sends : List SendResult}
    {recvs : List RecvResult} (h : t.receiveBytesForConnection I c sends recvs = some t') :
    Has Q t' := by
  cases hc : t.connectionpool.deref c with
  | none =>
    unfold CTCPStunThread.receiveBytesForConnection at h
    rw [hc] at h
    cases h
  | some conn => exact hQ.serves ht (receiveBytesForConnection_serves I hc sends recvs) h

/-- `ProcessConnectionEvent` keeps a stable property. -/
theorem Stable.processConnectionEvent (ht : Has Q t) {sock : ℤ} {recvs : List RecvResult}
    {sends : List SendResult} (h : t.processConnectionEvent I sock recvs sends = some t') :
    Has Q t' := by
  unfold CTCPStunThread.processConnectionEvent at h
  split at h
  · cases h
    exact ht
  · obtain ⟨conn, hc, h⟩ := Option.bind_eq_some_iff.mp h
    split at h
    · exact hQ.receiveBytesForConnection ht h
    · exact hQ.serves ht (writeBytesForConnection_serves I hc recvs sends) h
    · exact hQ.serves ht (consumeRemoteClose_serves I hc recvs) h
    · cases h
      exact ht

/-- The end of `AcceptConnection` keeps a stable property. -/
theorem Stable.track (ht : Has Q t) {c : ConnId} {conn : StunConnection}
    (hc : t.connectionpool.deref c = some conn) {pConn : Option ConnId}
    (h : t.track I c conn.stunsocket.sock = some (pConn, t')) : Has Q t' := by
  obtain ⟨code, table, hinsert⟩ : ∃ code table,
      (t.hashConnections t.pNewConnList).insert conn.stunsocket.sock c = (code, table) :=
        ⟨_, _, rfl⟩
  have hsockets : (t.tracked c conn code table).connectionpool.sockets = t.connectionpool.sockets :=
    CConnectionPool.sockets_set hc rfl
  have htracked : Has Q (t.tracked c conn code table) := by
    unfold Has
    rw [hsockets]
    exact ht
  rw [track_eq I hc hinsert] at h
  split at h
  · obtain ⟨t₁, hclose, heq⟩ := Option.map_eq_some_iff.mp h
    cases heq
    exact hQ.closeConnection htracked hclose
  · cases h
    exact htracked

end Stable

namespace Books

variable {I} {kept : Set ℤ} {t t' : CTCPStunThread P cfg} {items : TableId → List (ℤ × ConnId)}
  {Q : Property P} (hb : Books kept t items []) (hQ : Stable I Q) (ht : Has Q t)
include hb hQ ht

/-- `AcceptConnection` keeps a property that is also kept when a socket is taken. -/
theorem has_acceptConnection (htakes : Takes I Q t) {role : SocketRole} {a : AcceptAnswer}
    {pConn : Option ConnId} (h : t.acceptConnection I role a = some (pConn, t')) : Has Q t' := by
  by_cases htake : t.CanTake a
  · obtain ⟨c, pool, conn, hget, hg, hc, hsock, -, hother⟩ := hb.gaveOut.getConnection_some htake.1
      htake.2 role a.addrlocal a.addrremote (t.accept a :: t.descriptors)
    -- The connection was not given out before.
    have hnone : t.connectionpool.sockets c = none := by
      unfold CConnectionPool.sockets
      rw [Option.map_eq_none_iff, Option.eq_none_iff_forall_ne_some]
      intro conn' hconn'
      have hmem := hb.gaveOut.mem_active_iff.mpr ⟨conn', hconn'⟩
      exact (List.nodup_cons.mp hg.nodup.of_append_right).1 hmem
    have hsockets : pool.sockets =
        Function.update t.connectionpool.sockets c (some (t.accept a)) := by
      funext c'
      rcases eq_or_ne c' c with rfl | hne
      · rw [Function.update_self, CConnectionPool.sockets, hc, Option.map_some, hsock]
      · rw [Function.update_of_ne hne, CConnectionPool.sockets, hother c' hne,
          CConnectionPool.sockets]
    obtain ⟨htaken, hadded⟩ := htakes c (t.accept a) hnone htake.1 (accept_notMem htake.1)
    rw [← hsockets] at hadded
    rw [acceptConnection_eq I htake.1 hget] at h
    split at h
    · obtain ⟨t₁, hclose, heq⟩ := Option.map_eq_some_iff.mp h
      cases heq
      -- When it is closed again, the sockets and the descriptors are as before.
      have hback : Function.update pool.sockets c none = t.connectionpool.sockets := by
        rw [hsockets, Function.update_idem, ← hnone, Function.update_eq_self]
      have hfilter : (t.accept a :: t.descriptors).filter (· ≠ t.accept a) = t.descriptors := by
        rw [List.filter_cons_of_neg (by simp), List.filter_eq_self]
        rintro fd hfd
        exact decide_eq_true fun heq => accept_notMem htake.1 (heq ▸ hfd)
      rw [← hback, ← hfilter] at htaken
      refine has_closeConnection I (t := t.taken (t.accept a) pool) hc ?_ hclose
      rw [hsock, if_pos htake.1]
      exact htaken
    dsimp only at h
    split at h
    · obtain ⟨t₁, hclose, heq⟩ := Option.map_eq_some_iff.mp h
      cases heq
      refine hQ.closeConnection ?_ hclose
      exact hadded
    · rw [← hsock] at h
      refine hQ.track ?_ hc h
      rw [← hsock] at hadded
      exact hadded
  · rw [acceptConnection_none I htake] at h
    cases h
    exact ht

/-- Serving an event, and the sweep after it, keep a stable property that is also kept when a socket
is taken. -/
theorem has_serveEvent {fd : ℤ} (htakes : (t.getListenSocket fd).isSome → Takes I Q t)
    {i : RoundInput} (h : ((t.handleEvent I fd i).bind
      fun t => t.sweepDeadConnections I i.timeCurrent i.timeSwept) = some t') : Has Q t' := by
  obtain ⟨t₁, h, hsweep⟩ := Option.bind_eq_some_iff.mp h
  refine hQ.sweepDeadConnections ?_ hsweep
  unfold CTCPStunThread.handleEvent at h
  split at h
  next role hrole =>
    obtain ⟨⟨pConn, t₂⟩, haccept, h⟩ := Option.bind_eq_some_iff.mp h
    have ht₂ := hb.has_acceptConnection hQ ht (htakes (hrole ▸ rfl)) haccept
    cases pConn with
    | none =>
      cases h
      exact ht₂
    | some c => exact hQ.receiveBytesForConnection ht₂ h
  next => exact hQ.processConnectionEvent ht h

omit ht in
/-- A round of `Run` that goes past the wait keeps a stable property that the wait keeps. -/
theorem has_round {i : RoundInput} {goesOn : Bool} (h : t.round I i = some (t', goesOn))
    (hgo : ¬ i.fNeedToExit = true) (hawaited : Has Q (t.awaited I).2)
    (htakes : (t.awaited I).1.hr = S_OK →
      ((t.awaited I).2.getListenSocket (t.awaited I).1.fd).isSome → Takes I Q (t.awaited I).2) :
    Has Q t' := by
  rw [round_eq, if_neg hgo] at h
  split at h
  · cases h
    exact hawaited
  obtain ⟨t₁, hserve, heq⟩ := Option.map_eq_some_iff.mp h
  cases heq
  split at hserve
  next hr => exact hb.awaited.has_serveEvent hQ hawaited (htakes hr) hserve
  next => exact hQ.sweepDeadConnections hawaited hserve

end Books

/-! ## What is open -/

/-- A descriptor that is open is kept, or it is the socket of a connection that is given out. -/
def Owned (kept : Set ℤ) : Property P := fun _ sockets descriptors =>
  ∀ fd ∈ descriptors, fd ∈ kept ∨ fd ≠ -1 ∧ ∃ c, sockets c = some fd

/-- That what is open is kept, or is the socket of a connection, is stable. -/
theorem stable_owned (kept : Set ℤ) : Stable I (Owned kept) where
  change _ h := h
  close := by
    intro p sockets descriptors c sock h hc fd hfd
    -- What is still open is another socket, of another connection.
    have hopen : fd ∈ descriptors ∧ (fd ≠ -1 → fd ≠ sock) := by
      split at hfd
      · obtain ⟨hfd, hne⟩ := List.mem_filter.mp hfd
        exact ⟨hfd, fun _ => of_decide_eq_true hne⟩
      · exact ⟨hfd, fun hfd heq => by simp_all⟩
    refine (h fd hopen.1).imp id ?_
    rintro ⟨hne, c', hc'⟩
    refine ⟨hne, c', ?_⟩
    rw [Function.update_of_ne, hc']
    rintro rfl
    exact hopen.2 hne (Option.some.inj (hc'.symm.trans hc))

/-- A connection that is accepted has the new descriptor. -/
theorem Owned.takes {kept : Set ℤ} {t : CTCPStunThread P cfg} (ht : Has (Owned kept) t) :
    Takes I (Owned kept) t := by
  intro c sock hnone hsock _
  refine ⟨ht, fun fd hfd => ?_⟩
  rcases List.mem_cons.mp hfd with rfl | hfd
  · exact .inr ⟨hsock, c, Function.update_self ..⟩
  · refine (ht fd hfd).imp id ?_
    rintro ⟨hne, c', hc'⟩
    refine ⟨hne, c', ?_⟩
    rw [Function.update_of_ne, hc']
    rintro rfl
    cases hc'.symm.trans hnone

namespace Books

variable {I} {kept : Set ℤ} {t t' : CTCPStunThread P cfg} {items : TableId → List (ℤ × ConnId)}
  (hb : Books kept t items [])
include hb

/-- The connections that are given out are those in the tables. -/
theorem sockets_eq_some_iff {c : ConnId} {fd : ℤ} :
    t.connectionpool.sockets c = some fd ↔ ∃ id, (fd, c) ∈ items id := by
  rw [CConnectionPool.sockets_eq_some_iff]
  constructor
  · rintro ⟨conn, hc, rfl⟩
    have hmem := hb.gaveOut.mem_active_iff.mpr ⟨conn, hc⟩
    rw [List.append_nil, List.mem_append] at hmem
    obtain ⟨id, x, hx, hxc⟩ : ∃ id, ∃ x ∈ items id, x.2 = c := by
      rcases hmem with hmem | hmem
      · exact ⟨.one, List.mem_map.mp hmem⟩
      · exact ⟨.two, List.mem_map.mp hmem⟩
    have hkey := (hb.key_iff hx hc).mpr hxc
    exact ⟨id, (Prod.ext hkey hxc : x = (conn.stunsocket.sock, c)) ▸ hx⟩
  · rintro ⟨id, hx⟩
    obtain ⟨conn, hc, hsock, -⟩ := hb.listed id _ hx
    exact ⟨conn, hc, hsock⟩

/-- What is open is kept, or the key of a connection in a table. -/
theorem mem_descriptors_iff (ht : Has (Owned kept) t) {fd : ℤ} :
    fd ∈ t.descriptors ↔ fd ∈ kept ∨ ∃ id c, (fd, c) ∈ items id := by
  constructor
  · intro hfd
    refine (ht fd hfd).imp id ?_
    rintro ⟨-, c, hc⟩
    obtain ⟨id, hx⟩ := hb.sockets_eq_some_iff.mp hc
    exact ⟨id, c, hx⟩
  · rintro (hfd | ⟨id, c, hx⟩)
    · exact hb.keeps fd hfd
    · obtain ⟨conn, hc, rfl, -⟩ := hb.listed id _ hx
      exact (hb.opened c conn hc).1

/-- After a round of `Run` what is open is still kept, or the socket of a connection. -/
theorem round_owned (ht : Has (Owned kept) t) {i : RoundInput} {goesOn : Bool}
    (h : t.round I i = some (t', goesOn)) : Has (Owned kept) t' := by
  by_cases hexit : i.fNeedToExit = true
  · rw [round_eq, if_pos hexit] at h
    cases h
    exact ht
  · -- The wait is none of the sockets' nor of the descriptors'.
    have hawaited : Has (Owned kept) (t.awaited I).2 := by
      unfold CTCPStunThread.awaited
      rw [setListenSocketsOnEpoll_eq]
      exact ht
    exact hb.has_round (stable_owned I kept) h hexit hawaited fun _ _ => Owned.takes I hawaited

/-- A run returns, and what is open then is kept, or is the socket of a connection. -/
theorem run_owned (ht : Has (Owned kept) t) (inputs : List RoundInput) :
    ∃ t' items', t.run I inputs = some t' ∧ Books kept t' items' [] ∧ Has (Owned kept) t' := by
  induction inputs generalizing t items with
  | nil => exact ⟨t, items, rfl, hb, ht⟩
  | cons i rest ih =>
    obtain ⟨t₁, goesOn, hround, ⟨items₁, hb₁⟩, -⟩ := hb.round (I := I) i
    have ht₁ := hb.round_owned ht hround
    unfold CTCPStunThread.run
    rw [hround]
    cases goesOn with
    | true => exact ih hb₁ ht₁
    | false => exact ⟨t₁, items₁, rfl, hb₁, ht₁⟩

end Books

/-- In every run, whatever the polling does and whatever the system answers, the open descriptors
are those that were open before and the keys of the connections in the two tables, and none is both.
`ThreadCleanup` leaves open just what was open before. -/
theorem run_descriptors (spPolling : P) (socketTable : SocketRole → ℤ) (pipe : ℤ)
    (descriptors : List ℤ) (time : ℤ) (inputs : List RoundInput) :
    ∃ t : CTCPStunThread P cfg,
      run I inputs (init I (start spPolling socketTable pipe descriptors time)) = some t ∧
      (∀ fd, fd ∈ t.descriptors ↔
        fd ∈ descriptors ∨ ∃ id c, (t.hashConnections id).lookup fd = some c) ∧
      (∀ fd ∈ descriptors, ∀ id, (t.hashConnections id).lookup fd = none) ∧
      ∃ t', t.threadCleanup I = some t' ∧ ∀ fd, fd ∈ t'.descriptors ↔ fd ∈ descriptors := by
  have hstart : Books {fd | fd ∈ descriptors}
      (start spPolling socketTable pipe descriptors time : CTCPStunThread P cfg) (fun _ => []) [] :=
    books_start (fun _ => id) spPolling socketTable pipe time
  obtain ⟨t₀, ht₀⟩ : ∃ t₀ : CTCPStunThread P cfg,
      t₀ = init I (start spPolling socketTable pipe descriptors time) := ⟨_, rfl⟩
  have hinit : Books {fd | fd ∈ descriptors} t₀ (fun _ => []) [] :=
    ht₀ ▸ (hstart.setListenSocketsOnEpoll (I := I) true).congr rfl rfl rfl rfl rfl
  -- Before the loop there are no connections.
  have howned : Has (Owned {fd | fd ∈ descriptors}) t₀ := by
    subst ht₀
    unfold init
    rw [setListenSocketsOnEpoll_eq]
    exact fun fd hfd => .inl hfd
  rw [← ht₀]
  -- Every round keeps the books and the owners.
  obtain ⟨t, items, hrun, hb, ht⟩ := hinit.run_owned howned inputs
  obtain ⟨t', hcleanup, hb'⟩ := hb.threadCleanup (I := I)
  have ht' := (stable_owned I _).threadCleanup ht hcleanup
  have hlookup : ∀ fd id c, (t.hashConnections id).lookup fd = some c ↔ (fd, c) ∈ items id :=
    fun fd id c => (hb.maps id).lookup_eq_some_iff
  refine ⟨t, hrun, fun fd => ?_, fun fd hfd id => ?_, t', hcleanup, fun fd => ?_⟩
  · simp only [hlookup]
    exact hb.mem_descriptors_iff ht
  · -- A connection that is listed has a socket that was opened by `accept`.
    rw [Option.eq_none_iff_forall_ne_some]
    intro c hc
    obtain ⟨conn, hconn, hsock, -⟩ := hb.listed id _ ((hlookup fd id c).mp hc)
    exact (hb.opened c conn hconn).2 (hsock ▸ hfd)
  · rw [hb'.mem_descriptors_iff ht']
    simp

end CTCPStunThread

end Stun
