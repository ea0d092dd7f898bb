import StunForAndroid.Server.TcpRun
import StunForAndroid.StunCore.SameAnswers

/-!
# Connections that are used again

`src/server/stunconnection.cpp` and the functions of `CTCPStunThread` that write connections. A
connection goes back to the pool as it is and is prepared when it is taken out again. Whatever it
has been through, it is then as good as a new one: all that is needed of it is that its output
buffer has still the size of a message (`Reusable`), which every function of the thread keeps.
-/

namespace Stun

open Fallible CStunMessageReader

/-! ## Connections -/

namespace StunConnection

/-- What each connection keeps: the reader has been fed something since it was attached, and the
output buffer is large enough. -/
structure Reusable (conn : StunConnection) : Prop where
  fed : ∃ bs, Fed true bs conn.reader
  allocated : MAX_STUN_MESSAGE_SIZE ≤ conn.spOutputBuffer.getAllocatedSize

/-- A new connection can be reused. -/
theorem reusable_new : Reusable {} :=
  ⟨⟨[], fresh_new.fed⟩, List.length_replicate.ge⟩

/-- A connection that can be reused can be so after `GetConnection` has prepared it. -/
theorem Reusable.prepare {conn : StunConnection} (h : conn.Reusable) (sock : ℤ) (role : SocketRole)
    (addrlocal addrremote : CSocketAddress) (descriptors : List ℤ) :
    (CConnectionPool.prepare sock role addrlocal addrremote conn descriptors).1.Reusable :=
  ⟨⟨[], fed_ready true (some conn.readerBuffer) conn.reader⟩, h.allocated⟩

/-- `StunMessageIn` of a whole message, without the reader. -/
def msgIn (conn : StunConnection) : StunMessageIn :=
  ⟨conn.stunsocket.role, conn.stunsocket.addrlocal, conn.stunsocket.addrremote, none, true⟩

/-- What `ReceiveBytesForConnection` has `ProcessRequest` make of the message in the reader. -/
def response (D : Digests) (tsa : TransportAddressSet) (pAuth : Option IStunAuth)
    (conn : StunConnection) : Option (SocketRole × CSocketAddress × List UInt8) :=
  CStunRequestHandler.sentBy (CStunRequestHandler.processRequest D
    { conn.msgIn with pReader := some conn.reader } (some tsa) pAuth
    ⟨.rolePP, .zero, some conn.spOutputBuffer⟩)

/-- The connection after `AddBytes` for each of several pieces. -/
def addChunks (chunks : List (List UInt8)) (conn : StunConnection) : StunConnection :=
  { conn with reader := conn.reader.addChunks chunks }

/-- A connection that was just allocated, as `GetConnection` prepares it. -/
def newConnection (sock : ℤ) (role : SocketRole) (addrlocal addrremote : CSocketAddress) :
    StunConnection :=
  (CConnectionPool.prepare sock role addrlocal addrremote {} []).1

/-- Two connections are the same to their peers and to the thread: whatever the reader is fed, it
comes to the same state and needs as much, and the response is the same. -/
structure SameToPeer (conn conn' : StunConnection) : Prop where
  state : conn.state = conn'.state
  stunsocket : conn.stunsocket = conn'.stunsocket
  txCount : conn.txCount = conn'.txCount
  idHashTable : conn.idHashTable = conn'.idHashTable
  readerState : ∀ chunks, (conn.addChunks chunks).reader.state =
    (conn'.addChunks chunks).reader.state
  needed : ∀ chunks, (conn.addChunks chunks).reader.howManyBytesNeeded =
    (conn'.addChunks chunks).reader.howManyBytesNeeded
  response : ∀ chunks D tsa pAuth,
    (conn.addChunks chunks).response D tsa pAuth = (conn'.addChunks chunks).response D tsa pAuth

/-- Two connections whose readers were fed the same have the same response. -/
theorem response_same {conn conn' : StunConnection} {bs : List UInt8}
    (hfed : Fed true bs conn.reader) (hfed' : Fed true bs conn'.reader)
    (hsize : MAX_STUN_MESSAGE_SIZE ≤ conn.spOutputBuffer.getAllocatedSize)
    (hsize' : MAX_STUN_MESSAGE_SIZE ≤ conn'.spOutputBuffer.getAllocatedSize)
    (hsocket : conn.stunsocket = conn'.stunsocket) (D : Digests) (tsa : TransportAddressSet)
    (pAuth : Option IStunAuth) : conn.response D tsa pAuth = conn'.response D tsa pAuth := by
  unfold response
  rw [show conn.msgIn = conn'.msgIn by rw [msgIn, msgIn, hsocket]]
  apply CStunRequestHandler.sentBy_processRequest_same hfed hfed' hsize hsize' (fun hstate => ?_) D
    conn'.msgIn tsa ⟨.rolePP, .zero, none⟩ ⟨.rolePP, .zero, none⟩
  -- The provider is asked the same.
  obtain ⟨ts, hread⟩ := hfed.parsed hstate
  obtain ⟨us, hread'⟩ := hfed'.parsed (hfed.state_eq hfed' ▸ hstate)
  rw [CStunRequestHandler.authAttributes_same hread hread']

/-- `Attach` overwrites the whole socket but for its role, which `GetConnection` sets. -/
theorem stunsocket_prepare {sock : ℤ} (hsock : sock ≠ -1) (role : SocketRole)
    (addrlocal addrremote : CSocketAddress) (conn : StunConnection) (descriptors : List ℤ) :
    (CConnectionPool.prepare sock role addrlocal addrremote conn descriptors).1.stunsocket =
      ⟨sock, addrlocal, addrremote, role⟩ := by
  unfold CConnectionPool.prepare CStunSocket.attach
  rw [if_neg hsock]

/-- A connection that is prepared is the same as a new one. -/
theorem Reusable.sameToPeer {conn : StunConnection} (h : conn.Reusable) {sock : ℤ}
    (hsock : sock ≠ -1)
    (role : SocketRole) (addrlocal addrremote : CSocketAddress) (descriptors : List ℤ) :
    SameToPeer (CConnectionPool.prepare sock role addrlocal addrremote conn descriptors).1
      (newConnection sock role addrlocal addrremote) := by
  have hfed : ∀ (conn : StunConnection) (descriptors : List ℤ) (chunks : List (List UInt8)),
      Fed true chunks.flatten ((CConnectionPool.prepare sock role addrlocal addrremote conn
        descriptors).1.addChunks chunks).reader :=
    fun conn _ => fed_addChunks true (some conn.readerBuffer) conn.reader
  have hsocket :
      (CConnectionPool.prepare sock role addrlocal addrremote conn descriptors).1.stunsocket =
      (newConnection sock role addrlocal addrremote).stunsocket :=
    (stunsocket_prepare hsock ..).trans (stunsocket_prepare hsock ..).symm
  have hnew := reusable_new.prepare sock role addrlocal addrremote []
  exact {
    state := rfl
    stunsocket := hsocket
    txCount := rfl
    idHashTable := rfl
    readerState := fun chunks => (hfed conn _ chunks).state_eq (hfed {} [] chunks)
    needed := fun chunks => (hfed conn _ chunks).howManyBytesNeeded_same (hfed {} [] chunks)
    response := fun chunks => response_same (hfed conn _ chunks) (hfed {} [] chunks) h.allocated
      hnew.allocated hsocket }

end StunConnection

namespace CConnectionPool

/-- All connections that were made can be used again. -/
def Reusable (pool : CConnectionPool) : Prop := ∀ conn ∈ pool.conns, conn.Reusable

section Reusable

variable {pool : CConnectionPool} (hp : pool.Reusable)
include hp

/-- In a pool of connections that can be reused, those that are given out can be so too. -/
theorem Reusable.deref {c : ConnId} {conn : StunConnection} (hc : pool.deref c = some conn) :
    conn.Reusable :=
  hp conn (List.mem_of_getElem? (deref_eq_some_iff.mp hc).2)

/-- A pool stays reusable when a connection is written that is so. -/
theorem Reusable.set (conn : StunConnection) (h : conn.Reusable) (c : ConnId) :
    (pool.set c conn).Reusable := by
  intro conn' hconn'
  rcases List.mem_or_eq_of_mem_set hconn' with hmem | rfl
  · exact hp conn' hmem
  · exact h

/-- `Grow` adds only connections that can be reused. -/
theorem Reusable.grow (memory : ℕ) : (pool.grow memory).Reusable := by
  induction memory generalizing pool with
  | zero => exact hp
  | succ memory ih =>
    apply ih
    intro conn hconn
    rcases List.mem_append.mp hconn with hmem | hnew
    · exact hp conn hmem
    · rw [List.mem_singleton.mp hnew]
      exact StunConnection.reusable_new

/-- `GetConnection` prepares a connection that can be used again. -/
theorem Reusable.getConnection {sock : ℤ} {role : SocketRole}
    {addrlocal addrremote : CSocketAddress}
    {memory : ℕ} {descriptors descriptors' : List ℤ} {c : Option ConnId} {pool' : CConnectionPool}
    (h : pool.getConnection sock role addrlocal addrremote memory descriptors =
      (c, pool', descriptors')) :
    pool'.Reusable ∧ ∀ c', c = some c' → ∀ conn', pool'.deref c' = some conn' →
      ∃ conn, conn.Reusable ∧
        conn' = (prepare sock role addrlocal addrremote conn descriptors).1 := by
  obtain ⟨grown, hgrown, hgood⟩ : ∃ grown,
      (if pool.freelist = [] then pool.grow (min memory c_growrate) else pool) = grown ∧
      grown.Reusable := by
    split
    · exact ⟨_, rfl, hp.grow _⟩
    · exact ⟨_, rfl, hp⟩
  unfold CConnectionPool.getConnection at h
  rw [hgrown] at h
  dsimp only at h
  cases hfree : grown.freelist with
  | nil =>
    rw [hfree] at h
    cases h
    exact ⟨hgood, fun c' hc' => by cases hc'⟩
  | cons c₀ rest =>
    rw [hfree] at h
    cases h
    -- The connection that is taken is one of the pool, or there is none behind the pointer.
    have hold : (grown.conns.getD c₀ {}).Reusable := by
      rw [List.getD_eq_getElem?_getD]
      cases hget : grown.conns[c₀]? with
      | none => exact StunConnection.reusable_new
      | some conn => exact hgood conn (List.mem_of_getElem? hget)
    refine ⟨fun conn hconn => ?_, fun c' hc' conn' hderef => ?_⟩
    · rcases List.mem_or_eq_of_mem_set hconn with hmem | rfl
      · exact hgood conn hmem
      · exact hold.prepare sock role addrlocal addrremote descriptors
    · cases hc'
      obtain ⟨-, hget⟩ := deref_eq_some_iff.mp hderef
      obtain ⟨hlt, hget⟩ := List.getElem?_eq_some_iff.mp hget
      refine ⟨_, hold, ?_⟩
      rw [← hget]
      exact List.getElem_set_self _

end Reusable

end CConnectionPool

namespace CTCPStunThread

variable {P : Type} {cfg : TcpConfig} (I : IPolling P)

/-! ## The functions of the thread -/

/-- A function ends with connections that can be used again, if it ends. -/
def KeepsReusable (r : Option (CTCPStunThread P cfg)) : Prop :=
  ∀ t, r = some t → t.connectionpool.Reusable

/-- Doing nothing keeps the connections reusable. -/
theorem keepsReusable_some {t : CTCPStunThread P cfg} (h : t.connectionpool.Reusable) :
    KeepsReusable (some t) := by
  rintro _ ⟨⟩
  exact h

/-- Two functions one after the other keep the connections reusable when the second does. -/
theorem keepsReusable_bind {α : Type} {o : Option α} {f : α → Option (CTCPStunThread P cfg)}
    (h : ∀ a, o = some a → KeepsReusable (f a)) : KeepsReusable (o.bind f) := by
  intro t ht
  obtain ⟨a, ha, hf⟩ := Option.bind_eq_some_iff.mp ht
  exact h a ha t hf

variable {I} {t : CTCPStunThread P cfg} (ht : t.connectionpool.Reusable)
include ht

/-- `CloseConnection` keeps the connections reusable. -/
theorem keepsReusable_closeConnection (c : ConnId) : KeepsReusable (t.closeConnection I c) := by
  refine keepsReusable_bind fun conn hc => ?_
  refine keepsReusable_bind fun pool hpool => keepsReusable_some ?_
  have hclosed := ht.set { conn with stunsocket := {} }
    ⟨(ht.deref hc).fed, (ht.deref hc).allocated⟩ c
  unfold CConnectionPool.releaseConnection at hpool
  split_ifs at hpool
  cases hpool
  unfold removeHinted
  split_ifs <;> exact hclosed

/-- `CloseAllConnections` keeps the connections reusable. -/
theorem keepsReusable_closeAllConnections (id : TableId) (rounds : ℕ) :
    KeepsReusable (t.closeAllConnections I id rounds) := by
  induction rounds generalizing t with
  | zero => exact fun _ h => by cases h
  | succ rounds ih =>
    unfold closeAllConnections
    dsimp only
    split
    · exact keepsReusable_some ht
    · refine keepsReusable_bind fun t' ht' => ih ?_
      exact keepsReusable_closeConnection (t := t.setTable id _) ht _ t' ht'

/-- `SweepDeadConnections` keeps the connections reusable. -/
theorem keepsReusable_sweepDeadConnections (timeCurrent timeSwept : ℤ) :
    KeepsReusable (t.sweepDeadConnections I timeCurrent timeSwept) := by
  unfold sweepDeadConnections
  split_ifs
  · refine keepsReusable_bind fun t' ht' => keepsReusable_some ?_
    exact keepsReusable_closeAllConnections ht _ _ t' ht'
  · exact keepsReusable_some ht

/-- `ConsumeRemoteClose` keeps the connections reusable. -/
theorem keepsReusable_consumeRemoteClose (c : ConnId) (recvs : List RecvResult) :
    KeepsReusable (t.consumeRemoteClose I c recvs) := by
  refine keepsReusable_bind fun _ _ => ?_
  induction recvs with
  | nil => exact keepsReusable_some ht
  | cons recv recvs ih =>
    match recv with
    | .wouldBlock => exact keepsReusable_some ht
    | .failed => exact keepsReusable_closeConnection ht c
    | .octets [] => exact keepsReusable_closeConnection ht c
    | .octets (_ :: _) => exact ih

/-- The end of `WriteBytesForConnection` keeps the connections reusable. -/
theorem keepsReusable_finishResponse (c : ConnId) (recvs : List RecvResult) :
    KeepsReusable (t.finishResponse I c recvs) := by
  refine keepsReusable_bind fun conn hc => ?_
  have hset := ht.set { conn with state := .closing }
    ⟨(ht.deref hc).fed, (ht.deref hc).allocated⟩ c
  dsimp only
  split_ifs
  · exact keepsReusable_closeConnection (t := { t.setConn c _ with spPolling := _ }) hset c
  · exact keepsReusable_consumeRemoteClose (t := { t.setConn c _ with spPolling := _ }) hset c recvs

/-- The loop of `WriteBytesForConnection` keeps the connections reusable. -/
theorem keepsReusable_writeLoop (c : ConnId) (bytestotal : ℕ) (recvs : List RecvResult)
    (sends : List SendResult) : KeepsReusable (t.writeLoop I c bytestotal recvs sends) := by
  induction sends generalizing t with
  | nil =>
    unfold writeLoop
    exact keepsReusable_bind fun conn hc => keepsReusable_some ht
  | cons send sends ih =>
    unfold writeLoop
    refine keepsReusable_bind fun conn hc => ?_
    cases send with
    | wouldBlock => exact keepsReusable_some ht
    | failed => exact keepsReusable_closeConnection ht c
    | sent n =>
      have hset := ht.set { conn with txCount := conn.txCount + n }
        ⟨(ht.deref hc).fed, (ht.deref hc).allocated⟩ c
      dsimp only
      split_ifs
      · exact keepsReusable_closeConnection ht c
      · exact keepsReusable_finishResponse (t := t.setConn c _) hset c recvs
      · exact ih (t := t.setConn c _) hset

/-- `WriteBytesForConnection` keeps the connections reusable. -/
theorem keepsReusable_writeBytesForConnection (c : ConnId) (recvs : List RecvResult)
    (sends : List SendResult) : KeepsReusable (t.writeBytesForConnection I c recvs sends) :=
  keepsReusable_bind fun _ _ => keepsReusable_writeLoop ht c _ recvs sends

/-- The answer to a whole message keeps the connections reusable. -/
theorem keepsReusable_respond (c : ConnId) (recvs : List RecvResult) (sends : List SendResult) :
    KeepsReusable (t.respond I c recvs sends) := by
  refine keepsReusable_bind fun conn hc => ?_
  obtain ⟨⟨bs, hfed⟩, hsize⟩ := ht.deref hc
  obtain ⟨out, hout, hall⟩ := CStunRequestHandler.processRequest_allocated hfed hsize
    cfg.digests conn.msgIn cfg.tsa cfg.spAuth ⟨.rolePP, .zero, none⟩
  unfold StunConnection.msgIn at hout
  dsimp only
  split
  next hr msgOut hrun =>
    rw [finalState_of_error hrun] at hout
    have hset := ht.set { conn with spOutputBuffer := out } ⟨⟨bs, hfed⟩, hall⟩ c
    rw [hout]
    exact keepsReusable_closeConnection (t := t.setConn c _) hset c
  next msgOut hrun =>
    rw [finalState_of_ok hrun] at hout
    have hset := ht.set { conn with spOutputBuffer := out, state := .transmitting }
      ⟨⟨bs, hfed⟩, hall⟩ c
    rw [hout]
    dsimp only [Option.getD_some]
    split_ifs
    · exact keepsReusable_closeConnection (t := { t.setConn c _ with spPolling := _ }) hset c
    · exact keepsReusable_writeBytesForConnection
        (t := { t.setConn c _ with spPolling := _ }) hset c
        recvs sends

/-- `ReceiveBytesForConnection` keeps the connections reusable. -/
theorem keepsReusable_receiveBytesForConnection (c : ConnId) (sends : List SendResult)
    (recvs : List RecvResult) : KeepsReusable (t.receiveBytesForConnection I c sends recvs) := by
  induction recvs generalizing t with
  | nil =>
    unfold receiveBytesForConnection
    refine keepsReusable_bind fun conn hc => ?_
    dsimp only
    split_ifs
    · exact keepsReusable_closeConnection ht c
    · exact keepsReusable_some ht
  | cons recv recvs ih =>
    unfold receiveBytesForConnection
    refine keepsReusable_bind fun conn hc => ?_
    dsimp only
    split_ifs
    · exact keepsReusable_closeConnection ht c
    cases recv with
    | wouldBlock => exact keepsReusable_some ht
    | failed => exact keepsReusable_closeConnection ht c
    | octets bs =>
      obtain ⟨⟨fed, hfed⟩, hsize⟩ := ht.deref hc
      have hset := ht.set { conn with
        reader := (conn.reader.addBytes (bs.take conn.reader.howManyBytesNeeded.toNat)).2 }
        ⟨⟨_, hfed.addBytes _⟩, hsize⟩ c
      dsimp only
      split_ifs
      · exact keepsReusable_closeConnection ht c
      · exact keepsReusable_closeConnection (t := t.setConn c _) hset c
      · exact keepsReusable_respond (t := t.setConn c _) hset c recvs sends
      · exact ih (t := t.setConn c _) hset

/-- `ProcessConnectionEvent` keeps the connections reusable. -/
theorem keepsReusable_processConnectionEvent (sock : ℤ) (recvs : List RecvResult)
    (sends : List SendResult) : KeepsReusable (t.processConnectionEvent I sock recvs sends) := by
  unfold processConnectionEvent
  split
  · exact keepsReusable_some ht
  · refine keepsReusable_bind fun conn _ => ?_
    cases conn.state with
    | receiving => exact keepsReusable_receiveBytesForConnection ht _ sends recvs
    | transmitting => exact keepsReusable_writeBytesForConnection ht _ recvs sends
    | closing => exact keepsReusable_consumeRemoteClose ht _ recvs
    | idle => exact keepsReusable_some ht

/-- A connection is given up when it cannot be accepted. -/
theorem keepsReusable_giveUp (c : ConnId) :
    KeepsReusable (((t.closeConnection I c).bind fun t => some ((none : Option ConnId), t)).map
      Prod.snd) := by
  rw [Option.map_bind]
  exact keepsReusable_bind fun t' ht' =>
    keepsReusable_some (keepsReusable_closeConnection ht c t' ht')

/-- The part of `AcceptConnection` that puts a connection into the tables keeps the connections
reusable. -/
theorem keepsReusable_track (c : ConnId) (clientsock : ℤ) :
    KeepsReusable ((t.track I c clientsock).map Prod.snd) := by
  unfold track
  show KeepsReusable ((Option.bind _ _).map Prod.snd)
  rw [Option.map_bind]
  refine keepsReusable_bind fun conn hc => ?_
  have hset := ht.set { conn with idHashTable := t.pNewConnList.hint }
    ⟨(ht.deref hc).fed, (ht.deref hc).allocated⟩ c
  unfold Function.comp
  dsimp only
  split
  · exact keepsReusable_giveUp (t := { (t.setConn c _).setTable _ _ with inserts := _ }) hset c
  · exact keepsReusable_some hset

/-- `AcceptConnection` keeps the connections reusable. -/
theorem keepsReusable_acceptConnection (role : SocketRole) (a : AcceptAnswer) :
    KeepsReusable ((t.acceptConnection I role a).map Prod.snd) := by
  unfold acceptConnection
  dsimp only
  split
  · exact keepsReusable_some ht
  split
  next pool descriptors hget => exact keepsReusable_some (ht.getConnection hget).1
  next c pool descriptors hget =>
    have hgood := (ht.getConnection hget).1
    split
    · exact keepsReusable_giveUp (t := { t with
        connectionpool := pool, descriptors := descriptors }) hgood c
    split
    · exact keepsReusable_giveUp (t := { t with
        connectionpool := pool, descriptors := descriptors, spPolling := _ }) hgood c
    · exact keepsReusable_track (t := { t with
        connectionpool := pool, descriptors := descriptors, spPolling := _ }) hgood c _

/-- Handling an event in `Run` keeps the connections reusable. -/
theorem keepsReusable_handleEvent (fd : ℤ) (i : RoundInput) :
    KeepsReusable (t.handleEvent I fd i) := by
  unfold handleEvent
  split
  · refine keepsReusable_bind fun r hr => ?_
    have hgood : r.2.connectionpool.Reusable :=
      keepsReusable_acceptConnection ht _ i.accept r.2 (by rw [hr]; rfl)
    obtain ⟨pConn, t'⟩ := r
    cases pConn with
    | none => exact keepsReusable_some hgood
    | some c => exact keepsReusable_receiveBytesForConnection hgood c i.sends i.recvs
  · exact keepsReusable_processConnectionEvent ht fd i.recvs i.sends

/-- A round of `Run` keeps the connections reusable. -/
theorem keepsReusable_round (i : RoundInput) : KeepsReusable ((t.round I i).map Prod.fst) := by
  have hwait : (t.awaited I).2.connectionpool.Reusable := by
    unfold awaited
    rw [setListenSocketsOnEpoll_eq]
    exact ht
  rw [round_eq]
  split
  · exact keepsReusable_some ht
  split
  · exact keepsReusable_some hwait
  · rw [Option.map_map]
    show KeepsReusable (Option.map id _)
    rw [Option.map_id]
    refine keepsReusable_bind fun t' ht' => keepsReusable_sweepDeadConnections ?_ _ _
    split_ifs at ht'
    · exact keepsReusable_handleEvent hwait _ i t' ht'
    · cases ht'
      exact hwait

/-- `Run` keeps the connections reusable. -/
theorem keepsReusable_run (inputs : List RoundInput) : KeepsReusable (t.run I inputs) := by
  induction inputs generalizing t with
  | nil => exact keepsReusable_some ht
  | cons i rest ih =>
    unfold run
    refine keepsReusable_bind fun r hr => ?_
    have hgood : r.1.connectionpool.Reusable :=
      keepsReusable_round ht i r.1 (by rw [hr]; rfl)
    obtain ⟨t', goesOn⟩ := r
    dsimp only
    split_ifs
    · exact ih hgood
    · exact keepsReusable_some hgood

end CTCPStunThread

end Stun
