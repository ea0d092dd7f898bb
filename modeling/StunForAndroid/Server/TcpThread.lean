import StunForAndroid.NetworkUtils.Polling
import StunForAndroid.Server.StunConnection

/-!
# `CTCPStunThread`

The thread of `src/server/tcpserver.cpp` that serves connections, with any `IPolling`. What the
system answers to `accept`, `recv`, `send` and `time` in a round of `Run` is an input of the round
(`RoundInput`). The system gives no descriptor that is open, so `accept` fails when it would have
to.

`_pNewConnList` and `_pOldConnList` point to one of the two tables each (`TableId`). A function that
touches a connection that was released gives nothing, and so does a loop over a table that takes
more rounds than the table has connections.

Timeouts of the polling and what is only logged are left out.
-/

namespace Stun

open Fallible

/-- What a thread is initialized with. -/
structure TcpConfig where
  /-- `_maxConnections`. -/
  maxConnections : ℕ
  /-- `FastHash_GetHashTableWidth` of it. -/
  tableWidth : ℕ
  maxConnections_ne : maxConnections ≠ 0
  tableWidth_ne : tableWidth ≠ 0
  /-- `_tsa`. -/
  tsa : TransportAddressSet
  /-- `_spAuth`. -/
  spAuth : Option IStunAuth
  digests : Digests

instance (cfg : TcpConfig) : NeZero cfg.maxConnections := ⟨cfg.maxConnections_ne⟩

instance (cfg : TcpConfig) : NeZero cfg.tableWidth := ⟨cfg.tableWidth_ne⟩

/-- `StunThreadConnectionMap`. -/
abbrev ConnectionMap (cfg : TcpConfig) : Type :=
  FastHash ℤ ConnId cfg.maxConnections cfg.tableWidth

/-- `_hashConnections1` or `_hashConnections2`. -/
inductive TableId
  | one
  | two
deriving DecidableEq

/-- The `_idHashTable` of the connections in a table. -/
def TableId.hint : TableId → ℤ
  | one => 1
  | two => 2

/-! ## What the system answers -/

/-- `recv`. -/
inductive RecvResult
  | wouldBlock
  | failed
  /-- The octets that are there; none at the end of the stream. -/
  | octets (bs : List UInt8)

/-- `send`. -/
inductive SendResult
  | wouldBlock
  | failed
  | sent (n : ℕ)

/-- What there is for `AcceptConnection`. -/
structure AcceptAnswer where
  /-- The descriptor, or something negative. -/
  sock : ℤ
  addrlocal : CSocketAddress
  addrremote : CSocketAddress
  /-- How many connections there is memory for if the pool has to grow. -/
  memory : ℕ
  /-- The result of `SetNonBlocking`. -/
  setNonBlocking : HRESULT

/-- A round of `Run`. When nothing is left of `recvs` or `sends`, the call would block. -/
structure RoundInput where
  /-- `_fNeedToExit` at the head of the loop. -/
  fNeedToExit : Bool
  /-- `_fNeedToExit` after the wait. -/
  fNeedToExitAfterWait : Bool
  accept : AcceptAnswer
  recvs : List RecvResult
  sends : List SendResult
  /-- The time when the sweep starts, and when it is done. -/
  timeCurrent : ℤ
  timeSwept : ℤ

/-! ## The thread -/

/-- `CTCPStunThread`. -/
structure CTCPStunThread (P : Type) (cfg : TcpConfig) where
  spPolling : P
  fListenSocketsOnEpoll : Bool
  /-- `_socketTable`, the listening socket of a role or -1. -/
  socketTable : SocketRole → ℤ
  /-- `_pipe[0]`. -/
  pipe : ℤ
  connectionpool : CConnectionPool
  hashConnections : TableId → ConnectionMap cfg
  pNewConnList : TableId
  pOldConnList : TableId
  timeLastSweep : ℤ
  /-- The descriptors of the process that are open. -/
  descriptors : List ℤ
  /-- The results of the `Insert`s of `AcceptConnection`, and how many connections there were
  then. -/
  inserts : List (ℤ × ℕ)

namespace CTCPStunThread

variable {P : Type} {cfg : TcpConfig} (I : IPolling P)

/-- `Size` of both tables. -/
def connectionCount (t : CTCPStunThread P cfg) : ℕ :=
  (t.hashConnections t.pNewConnList).getSize + (t.hashConnections t.pOldConnList).getSize

/-- `IsConnectionCountAtMax`. -/
def isConnectionCountAtMax (t : CTCPStunThread P cfg) : Bool :=
  decide (t.connectionCount ≥ cfg.maxConnections)

/-- One of the two tables is written. -/
def setTable (id : TableId) (h : ConnectionMap cfg) (t : CTCPStunThread P cfg) :
    CTCPStunThread P cfg :=
  { t with hashConnections := Function.update t.hashConnections id h }

/-- A connection is written. -/
def setConn (c : ConnId) (conn : StunConnection) (t : CTCPStunThread P cfg) :
    CTCPStunThread P cfg :=
  { t with connectionpool := t.connectionpool.set c conn }

/-! ## Closing connections -/

/-- `Remove` from the table that the hint says, if it says one. -/
def removeHinted (idHashTable sock : ℤ) (t : CTCPStunThread P cfg) : CTCPStunThread P cfg :=
  if idHashTable = 1 then t.setTable .one ((t.hashConnections .one).remove sock).2
  else if idHashTable = 2 then t.setTable .two ((t.hashConnections .two).remove sock).2
  else t

/-- `CloseConnection`. -/
def closeConnection (c : ConnId) (t : CTCPStunThread P cfg) : Option (CTCPStunThread P cfg) := do
  let conn ← t.connectionpool.deref c
  let sock := conn.stunsocket.sock
  let closed := conn.stunsocket.close t.descriptors
  let t := { t with spPolling := I.drop sock t.spPolling, descriptors := closed.2 }
  let t := t.setConn c { conn with stunsocket := closed.1 }
  let t := t.removeHinted conn.idHashTable sock
  let pool ← t.connectionpool.releaseConnection c
  some { t with connectionpool := pool }

/-- `CloseAllConnections`, in a number of rounds at most. -/
def closeAllConnections (id : TableId) : ℕ → CTCPStunThread P cfg → Option (CTCPStunThread P cfg)
  | 0, _ => none
  | rounds + 1, t =>
    let r := (t.hashConnections id).lookupByIndex 0
    let t := t.setTable id r.2
    match r.1 with
    | none => some t
    | some pItem => do
      let t ← t.closeConnection I pItem.2
      closeAllConnections id rounds t

/-- `CloseAllConnections` of a table, in one round for each connection and the last. -/
def closeTable (id : TableId) (t : CTCPStunThread P cfg) : Option (CTCPStunThread P cfg) :=
  closeAllConnections I id ((t.hashConnections id).getSize + 1) t

/-- `c_sweepTimeoutSeconds` -/
def c_sweepTimeoutSeconds : ℤ := 60

/-- `SweepDeadConnections`. -/
def sweepDeadConnections (timeCurrent timeSwept : ℤ) (t : CTCPStunThread P cfg) :
    Option (CTCPStunThread P cfg) :=
  if timeCurrent - t.timeLastSweep ≥ c_sweepTimeoutSeconds then do
    let t ← t.closeTable I t.pOldConnList
    some { t with
      timeLastSweep := timeSwept
      pOldConnList := t.pNewConnList
      pNewConnList := t.pOldConnList }
  else some t

/-- `ThreadCleanup`. -/
def threadCleanup (t : CTCPStunThread P cfg) : Option (CTCPStunThread P cfg) := do
  let t ← t.closeTable I t.pOldConnList
  t.closeTable I t.pNewConnList

/-! ## Serving connections -/

/-- The loop of `ConsumeRemoteClose`. -/
def consumeLoop (c : ConnId) :
    List RecvResult → CTCPStunThread P cfg → Option (CTCPStunThread P cfg)
  | [], t => some t
  | .wouldBlock :: _, t => some t
  | .failed :: _, t => t.closeConnection I c
  | .octets [] :: _, t => t.closeConnection I c
  | .octets (_ :: _) :: recvs, t => consumeLoop c recvs t

/-- `ConsumeRemoteClose`. -/
def consumeRemoteClose (c : ConnId) (recvs : List RecvResult) (t : CTCPStunThread P cfg) :
    Option (CTCPStunThread P cfg) := do
  let _ ← t.connectionpool.deref c
  t.consumeLoop I c recvs

/-- The end of `WriteBytesForConnection` when the whole response is sent. -/
def finishResponse (c : ConnId) (recvs : List RecvResult) (t : CTCPStunThread P cfg) :
    Option (CTCPStunThread P cfg) := do
  let conn ← t.connectionpool.deref c
  let t := t.setConn c { conn with state := .closing }
  let r := I.changeEventSet conn.stunsocket.sock t.spPolling
  let t := { t with spPolling := r.2 }
  if failed r.1 then t.closeConnection I c
  else t.consumeRemoteClose I c recvs

/-- The loop of `WriteBytesForConnection`, of a response of `bytestotal` octets. -/
def writeLoop (c : ConnId) (bytestotal : ℕ) (recvs : List RecvResult) :
    List SendResult → CTCPStunThread P cfg → Option (CTCPStunThread P cfg)
  | sends, t => do
    let conn ← t.connectionpool.deref c
    match sends with
    | [] => some t
    | .wouldBlock :: _ => some t
    | .failed :: _ => t.closeConnection I c
    | .sent n :: sends =>
      if n = 0 then t.closeConnection I c
      else
        let t := t.setConn c { conn with txCount := conn.txCount + n }
        if conn.txCount + n ≥ bytestotal then t.finishResponse I c recvs
        else writeLoop c bytestotal recvs sends t

/-- `WriteBytesForConnection`. -/
def writeBytesForConnection (c : ConnId) (recvs : List RecvResult) (sends : List SendResult)
    (t : CTCPStunThread P cfg) : Option (CTCPStunThread P cfg) := do
  let conn ← t.connectionpool.deref c
  writeLoop I c conn.spOutputBuffer.size recvs sends t

/-- What `ReceiveBytesForConnection` does with a whole message. -/
def respond (c : ConnId) (recvs : List RecvResult) (sends : List SendResult)
    (t : CTCPStunThread P cfg) : Option (CTCPStunThread P cfg) := do
  let conn ← t.connectionpool.deref c
  let msgIn : StunMessageIn :=
    { socketrole := conn.stunsocket.role
      addrLocal := conn.stunsocket.addrlocal
      addrRemote := conn.stunsocket.addrremote
      pReader := some conn.reader
      fConnectionOriented := true }
  match CStunRequestHandler.processRequest cfg.digests msgIn (some cfg.tsa) cfg.spAuth
      ⟨.rolePP, .zero, some conn.spOutputBuffer⟩ with
  | .error _ msgOut =>
    (t.setConn c { conn with
      spOutputBuffer := msgOut.spBufferOut.getD conn.spOutputBuffer }).closeConnection I c
  | .ok _ msgOut =>
    let t := t.setConn c
      { conn with
        spOutputBuffer := msgOut.spBufferOut.getD conn.spOutputBuffer
        state := .transmitting }
    let r := I.changeEventSet conn.stunsocket.sock t.spPolling
    let t := { t with spPolling := r.2 }
    if failed r.1 then t.closeConnection I c
    else t.writeBytesForConnection I c recvs sends

/-- `ReceiveBytesForConnection`. -/
def receiveBytesForConnection (c : ConnId) (sends : List SendResult) :
    List RecvResult → CTCPStunThread P cfg → Option (CTCPStunThread P cfg)
  | recvs, t => do
    let conn ← t.connectionpool.deref c
    let bytesneeded := conn.reader.howManyBytesNeeded
    if bytesneeded = 0 then t.closeConnection I c
    else
      match recvs with
      | [] => some t
      | .wouldBlock :: _ => some t
      | .failed :: _ => t.closeConnection I c
      | .octets bs :: recvs =>
        let buffer := bs.take bytesneeded.toNat
        if buffer.length = 0 then t.closeConnection I c
        else
          let r := conn.reader.addBytes buffer
          let t := t.setConn c { conn with reader := r.2 }
          if r.1 = .parseError then t.closeConnection I c
          else if r.1 = .bodyValidated then t.respond I c recvs sends
          else receiveBytesForConnection c sends recvs t

/-- `ProcessConnectionEvent`. -/
def processConnectionEvent (sock : ℤ) (recvs : List RecvResult) (sends : List SendResult)
    (t : CTCPStunThread P cfg) : Option (CTCPStunThread P cfg) :=
  match ((t.hashConnections t.pNewConnList).lookup sock).or
      ((t.hashConnections t.pOldConnList).lookup sock) with
  | none => some t
  | some c => do
    let conn ← t.connectionpool.deref c
    match conn.state with
    | .receiving => t.receiveBytesForConnection I c sends recvs
    | .transmitting => t.writeBytesForConnection I c recvs sends
    | .closing => t.consumeRemoteClose I c recvs
    | .idle => some t

/-! ## Accepting connections -/

/-- `accept`: a descriptor that is not open, or -1. -/
def accept (a : AcceptAnswer) (t : CTCPStunThread P cfg) : ℤ :=
  if 0 ≤ a.sock ∧ a.sock ∉ t.descriptors then a.sock else -1

/-- The part of `AcceptConnection` that puts a connection into the tables. -/
def track (c : ConnId) (clientsock : ℤ) (t : CTCPStunThread P cfg) :
    Option (Option ConnId × CTCPStunThread P cfg) := do
  let conn ← t.connectionpool.deref c
  let t := t.setConn c { conn with idHashTable := t.pNewConnList.hint }
  let r := (t.hashConnections t.pNewConnList).insert clientsock c
  let t := t.setTable t.pNewConnList r.2
  let t := { t with inserts := t.inserts ++ [(r.1, t.connectionCount)] }
  if r.1 = -1 then
    let t ← t.closeConnection I c
    some (none, t)
  else some (some c, t)

/-- `AcceptConnection` on a listening socket with a role. -/
def acceptConnection (role : SocketRole) (a : AcceptAnswer) (t : CTCPStunThread P cfg) :
    Option (Option ConnId × CTCPStunThread P cfg) :=
  let socktmp := t.accept a
  if socktmp = -1 then some (none, t)
  else
    match t.connectionpool.getConnection socktmp role a.addrlocal a.addrremote a.memory
        (socktmp :: t.descriptors) with
    | (none, pool, descriptors) =>
      -- The socket is closed, which was not polled yet.
      some (none, { t with
        connectionpool := pool, descriptors := descriptors.filter (· ≠ socktmp) })
    | (some c, pool, descriptors) =>
      let t := { t with connectionpool := pool, descriptors := descriptors }
      if failed a.setNonBlocking then do
        let t ← t.closeConnection I c
        some (none, t)
      else
        let r := I.add socktmp t.spPolling
        let t := { t with spPolling := r.2 }
        if failed r.1 then do
          let t ← t.closeConnection I c
          some (none, t)
        else t.track I c socktmp

/-! ## The loop -/

/-- The roles in the order of the arrays. -/
def roles : List SocketRole := [.rolePP, .rolePA, .roleAP, .roleAA]

/-- `GetListenSocket`: the role of the listening socket. -/
def getListenSocket (sock : ℤ) (t : CTCPStunThread P cfg) : Option SocketRole :=
  if sock ≠ -1 then roles.find? (t.socketTable · = sock) else none

/-- The loop of `SetListenSocketsOnEpoll`, which stops at the first failure. -/
def setListenLoop (fEnable : Bool) (socketTable : SocketRole → ℤ) :
    List SocketRole → P → HRESULT × P
  | [], p => (S_OK, p)
  | role :: rest, p =>
    if socketTable role = -1 then setListenLoop fEnable socketTable rest p
    else
      let r := if fEnable then I.add (socketTable role) p else I.remove (socketTable role) p
      if failed r.1 then r else setListenLoop fEnable socketTable rest r.2

/-- `SetListenSocketsOnEpoll`. -/
def setListenSocketsOnEpoll (fEnable : Bool) (t : CTCPStunThread P cfg) : CTCPStunThread P cfg :=
  if fEnable ≠ t.fListenSocketsOnEpoll then
    let r := setListenLoop I fEnable t.socketTable roles t.spPolling
    { t with
      spPolling := r.2
      fListenSocketsOnEpoll := if failed r.1 then t.fListenSocketsOnEpoll else fEnable }
  else t

/-- What `Run` does with an event. -/
def handleEvent (fd : ℤ) (i : RoundInput) (t : CTCPStunThread P cfg) :
    Option (CTCPStunThread P cfg) :=
  match t.getListenSocket fd with
  | some role => do
    let (pConn, t) ← t.acceptConnection I role i.accept
    match pConn with
    | some c => t.receiveBytesForConnection I c i.sends i.recvs
    | none => some t
  | none => t.processConnectionEvent I fd i.recvs i.sends

/-- A round of the loop of `Run`, and whether the loop goes on. -/
def round (i : RoundInput) (t : CTCPStunThread P cfg) : Option (CTCPStunThread P cfg × Bool) :=
  if i.fNeedToExit then some (t, false)
  else
    let t := t.setListenSocketsOnEpoll I (!t.isConnectionCountAtMax)
    let r := I.waitForNextEvent t.spPolling
    let t := { t with spPolling := r.2 }
    if i.fNeedToExitAfterWait ∨ r.1.fd = t.pipe then some (t, false)
    else do
      let t ← if r.1.hr = S_OK then t.handleEvent I r.1.fd i else some t
      let t ← t.sweepDeadConnections I i.timeCurrent i.timeSwept
      some (t, true)

/-- The loop of `Run`. -/
def run : List RoundInput → CTCPStunThread P cfg → Option (CTCPStunThread P cfg)
  | [], t => some t
  | i :: rest, t => do
    let (t, goesOn) ← t.round I i
    if goesOn then run rest t else some t

/-- Before the sockets are polled: the listening sockets, the pipe and the descriptors that are
open. -/
def start (spPolling : P) (socketTable : SocketRole → ℤ) (pipe : ℤ) (descriptors : List ℤ)
    (time : ℤ) : CTCPStunThread P cfg where
  spPolling := spPolling
  fListenSocketsOnEpoll := false
  socketTable := socketTable
  pipe := pipe
  connectionpool := {}
  hashConnections := fun _ => FastHash.new
  pNewConnList := .one
  pOldConnList := .two
  timeLastSweep := time
  descriptors := descriptors
  inserts := []

/-- The sockets and the pipe are polled, as at the end of `Init`. -/
def init (t : CTCPStunThread P cfg) : CTCPStunThread P cfg :=
  let t := t.setListenSocketsOnEpoll I true
  { t with spPolling := (I.add t.pipe t.spPolling).2 }

end CTCPStunThread

end Stun
