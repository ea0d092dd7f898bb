import StunForAndroid.Common.FastHashDynamic
import StunForAndroid.Common.RefCountObject
import StunForAndroid.Server.SocketThread
import StunForAndroid.Server.TcpThread

/-!
# The servers

`Initialize` and `Shutdown` of `CStunServer` in `src/server/server.cpp` and of `CTCPServer` in
`src/server/tcpserver.cpp`, with a provider that is created where their comments say, and what the
threads of both do with it. The results of the calls to the system are inputs. `new` gives objects;
`Start` and `Stop` do not touch the provider and are left out, but for what `Shutdown` is.

A server that was constructed has no threads, no sockets and no provider.
-/

namespace Stun

open Fallible

open CTCPStunThread (roles)

/-- `CStunServerConfig`. -/
structure CStunServerConfig where
  fHasPP : Bool := false
  fHasPA : Bool := false
  fHasAP : Bool := false
  fHasAA : Bool := false
  fMultiThreadedMode : Bool := false
  fTCP : Bool := false
  nMaxConnections : UInt32 := 0
  addrPP : CSocketAddress := .zero
  addrPA : CSocketAddress := .zero
  addrAP : CSocketAddress := .zero
  addrAA : CSocketAddress := .zero
  addrPrimaryAdvertised : CSocketAddress := .zero
  addrAlternateAdvertised : CSocketAddress := .zero

namespace CStunServerConfig

/-- `fHasPP` and the like, by role. -/
def fHas (config : CStunServerConfig) : SocketRole → Bool
  | .rolePP => config.fHasPP
  | .rolePA => config.fHasPA
  | .roleAP => config.fHasAP
  | .roleAA => config.fHasAA

/-- `addrPP` and the like, by role. -/
def addr (config : CStunServerConfig) : SocketRole → CSocketAddress
  | .rolePP => config.addrPP
  | .rolePA => config.addrPA
  | .roleAP => config.addrAP
  | .roleAA => config.addrAA

/-- `addrPrimaryAdvertised` or `addrAlternateAdvertised`, by role. -/
def addrAdvertised (config : CStunServerConfig) : SocketRole → CSocketAddress
  | .rolePP => config.addrPrimaryAdvertised
  | .rolePA => config.addrPrimaryAdvertised
  | .roleAP => config.addrAlternateAdvertised
  | .roleAA => config.addrAlternateAdvertised

end CStunServerConfig

/-- The address that a socket is known by: the one that is advertised, if there is one, with the
port that the socket listens on. -/
def advertise (addrListen addrAdvertise : CSocketAddress) : CSocketAddress :=
  if addrAdvertise.isIPAddressZero = false then addrAdvertise.setPort addrListen.getPort
  else addrListen

/-! ## UDP -/

/-- `CStunSocketThread`, with what it holds besides the buffers. -/
structure OwningSocketThread extends CStunSocketThread where
  /-- `_socks`, by role. -/
  socks : List SocketRole := []
  spAuth : CRefCountedPtr := none

/-- `Init` of a new thread, with the sockets of the server that are valid and the role of
`rolePrimaryRecv`, if it has one. -/
def OwningSocketThread.init (valid : SocketRole → Bool) (tsa : TransportAddressSet)
    (pAuth : Option ObjId) (rolePrimaryRecv : Option SocketRole) :
    Fallible (OwningSocketThread × Objects) Unit := do
  chkIf (rolePrimaryRecv.any fun role => valid role = false) E_UNEXPECTED
  let (thread, objects) ← get
  let socks := match rolePrimaryRecv with
    | some role => [role]
    | none => roles.filter valid
  let (spAuth, objects) := thread.spAuth.attach pAuth objects
  set ({ CStunSocketThread.initThreadBuffers { thread.toCStunSocketThread with tsa := tsa } with
    socks := socks, spAuth := spAuth : OwningSocketThread }, objects)

/-- What the system answers to `AddSocket`. -/
structure SocketAnswers where
  udpInit : SocketRole → HRESULT
  enablePktInfoOption : SocketRole → HRESULT

/-- `CStunServer`. -/
structure CStunServer where
  /-- `IsValid` of `_arrSockets`. -/
  arrSockets : SocketRole → Bool := fun _ => false
  threads : List OwningSocketThread := []
  spAuth : CRefCountedPtr := none

namespace CStunServer

/-- The pointers that the server and its threads hold. -/
def holders (server : CStunServer) : List CRefCountedPtr :=
  server.spAuth :: server.threads.map (·.spAuth)

/-- The threads are deleted, each with its pointer. -/
def deleteThreads (threads : List OwningSocketThread) (objects : Objects) : Objects :=
  threads.foldl (fun objects thread => thread.spAuth.destroy objects) objects

/-- `Shutdown`. -/
def shutdown (server : CStunServer) (objects : Objects) : CStunServer × Objects :=
  let objects := deleteThreads server.threads objects
  let (spAuth, objects) := server.spAuth.releaseAndClear objects
  ({ arrSockets := fun _ => false, threads := [], spAuth := spAuth }, objects)

/-- What `Initialize` works on: the server, its local variables, and the objects. The local
`_spAuth` hides the member. -/
structure Frame where
  server : CStunServer
  socketcount : ℕ
  spAuth : CRefCountedPtr
  tsa : TransportAddressSet
  objects : Objects

/-- `AddSocket` of a role. -/
def addSocket (a : SocketAnswers) (role : SocketRole) (addrListen addrAdvertise : CSocketAddress) :
    Fallible Frame Unit := do
  chkIf (failed (a.udpInit role)) (a.udpInit role)
  modify fun frame => { frame with
    server.arrSockets := Function.update frame.server.arrSockets role true }
  chkIf (failed (a.enablePktInfoOption role)) (a.enablePktInfoOption role)
  modify fun frame => { frame with
    tsa := Function.update frame.tsa role ⟨advertise addrListen addrAdvertise, true⟩ }

/-- The sockets that are configured. -/
def addSockets (config : CStunServerConfig) (a : SocketAnswers) :
    List SocketRole → Fallible Frame Unit
  | [] => pure ()
  | role :: rest => do
    if config.fHas role then
      addSocket a role (config.addr role) (config.addrAdvertised role)
      modify fun frame => { frame with socketcount := frame.socketcount + 1 }
    addSockets config a rest

/-- A new thread, which is put into `_threads` before its `Init`. -/
def addThread (rolePrimaryRecv : Option SocketRole) : Fallible Frame Unit := do
  let frame ← get
  zoom (fun frame => ({ tsa := fun _ => ⟨.zero, false⟩ }, frame.objects))
    (fun (thread, objects) frame => { frame with
      server.threads := frame.server.threads ++ [thread]
      objects := objects })
    (OwningSocketThread.init frame.server.arrSockets frame.tsa frame.spAuth rolePrimaryRecv)

/-- One thread for every socket. -/
def addThreads : List SocketRole → Fallible Frame Unit
  | [] => pure ()
  | role :: rest => do
    let frame ← get
    if frame.server.arrSockets role then addThread (some role)
    addThreads rest

/-- `Initialize` from where it creates the provider to `Cleanup`. -/
def initializeBody (config : CStunServerConfig) (a : SocketAnswers) (provider : ObjId) :
    Fallible Frame Unit := do
  modify fun frame => { frame with
    spAuth := some provider
    objects := frame.objects.createInstanceNoInit provider }
  addSockets config a roles
  let frame ← get
  chkIf (frame.socketcount = 0) E_INVALIDARG
  if config.fMultiThreadedMode = false then addThread none else addThreads roles

/-- `Initialize`. The local pointer is destroyed at the end. -/
def initialize_ (config : CStunServerConfig) (a : SocketAnswers) (provider : ObjId) :
    Fallible (CStunServer × Objects) Unit := fun (server, objects) =>
  let (server, objects) := server.shutdown objects
  let cleanup := fun frame : Frame =>
    let (server, objects) := frame.server.shutdown frame.objects
    { frame with server := server, objects := objects }
  let leave := fun frame : Frame => (frame.server, frame.spAuth.destroy frame.objects)
  match onError cleanup (initializeBody config a provider)
      ⟨server, 0, none, fun _ => ⟨.zero, false⟩, objects⟩ with
  | .ok _ frame => .ok () (leave frame)
  | .error hr frame => .error hr (leave frame)

end CStunServer

/-! ## TCP -/

/-- `c_MaxNumberOfConnectionsDefault` -/
def c_MaxNumberOfConnectionsDefault : ℤ := 1000

/-- `CTCPStunThread`, as far as `Init` and `Reset` go that the polling and the tables are not part
of. -/
structure OwningTcpThread where
  tsaListen : TransportAddressSet := fun _ => ⟨.zero, false⟩
  tsa : TransportAddressSet := fun _ => ⟨.zero, false⟩
  maxConnections : ℤ := c_MaxNumberOfConnectionsDefault
  spAuth : CRefCountedPtr := none

/-- What the system answers to `Init` of a thread: to the calls that open the sockets, the pipe and
the polling, and to `new` for the arrays of the two tables. -/
structure TcpAnswers where
  createListenSockets : HRESULT := S_OK
  createPipes : HRESULT := S_OK
  createPollingInstance : HRESULT := S_OK
  setListenSocketsOnEpoll : HRESULT := S_OK
  /-- `Add` of the read end of the pipe. -/
  addPipe : HRESULT := S_OK
  hashConnections1 : NewAnswers := ⟨true, true, true, true⟩
  hashConnections2 : NewAnswers := ⟨true, true, true, true⟩

namespace OwningTcpThread

/-- `Reset`. -/
def reset (thread : OwningTcpThread) (objects : Objects) : OwningTcpThread × Objects :=
  let (spAuth, objects) := thread.spAuth.releaseAndClear objects
  ({ spAuth := spAuth }, objects)

/-- How many addresses are valid. -/
def countValid (tsa : TransportAddressSet) : ℕ :=
  (roles.filter fun role => (tsa role).fValid).length

/-- `ret` of `InitTable` for `_maxConnections`. -/
def initTable (memory : NewAnswers) (thread : OwningTcpThread) : ℤ :=
  FastHashDynamic.initTableRet memory (UInt64.ofInt thread.maxConnections)

/-- `Init` of a new thread up to `Cleanup`. -/
def initBody (a : TcpAnswers) (tsaListen tsaHandler : TransportAddressSet) (pAuth : Option ObjId)
    (maxConnections : ℤ) : Fallible (OwningTcpThread × Objects) Unit := do
  modify fun (thread, objects) => ({ thread with
    maxConnections :=
      if 0 < maxConnections then maxConnections else c_MaxNumberOfConnectionsDefault }, objects)
  let (thread, _) ← get
  chkIf (thread.maxConnections ≥ 100000) E_INVALIDARG
  chkIf (countValid tsaListen = 0) E_INVALIDARG
  chkIf (countValid tsaHandler = 0) E_INVALIDARG
  modify fun (thread, objects) =>
    let (spAuth, objects) := thread.spAuth.attach pAuth objects
    ({ thread with tsaListen := tsaListen, tsa := tsaHandler, spAuth := spAuth }, objects)
  chkIf (failed a.createListenSockets) a.createListenSockets
  chkIf (failed a.createPipes) a.createPipes
  chkIf (failed a.createPollingInstance) a.createPollingInstance
  chkIf (failed a.setListenSocketsOnEpoll) a.setListenSocketsOnEpoll
  chkIf (failed a.addPipe) a.addPipe
  chkIf (initTable a.hashConnections1 thread = -1) E_FAIL
  chkIf (initTable a.hashConnections2 thread = -1) E_FAIL

/-- `Init` of a new thread. -/
def init (a : TcpAnswers) (tsaListen tsaHandler : TransportAddressSet) (pAuth : Option ObjId)
    (maxConnections : ℤ) : Fallible (OwningTcpThread × Objects) Unit :=
  onError (fun (thread, objects) => thread.reset objects)
    (initBody a tsaListen tsaHandler pAuth maxConnections)

/-- The destructor: `Stop`, which resets the thread, and then its pointer. -/
def destroy (thread : OwningTcpThread) (objects : Objects) : Objects :=
  let (thread, objects) := thread.reset objects
  thread.spAuth.destroy objects

end OwningTcpThread

/-- `CTCPServer`. -/
structure CTCPServer where
  threads : SocketRole → Option OwningTcpThread := fun _ => none
  spAuth : CRefCountedPtr := none

namespace CTCPServer

/-- The pointers that the server and its threads hold. -/
def holders (server : CTCPServer) : List CRefCountedPtr :=
  server.spAuth :: (roles.filterMap server.threads).map (·.spAuth)

/-- The threads are deleted in their order. -/
def deleteThreads (threads : List OwningTcpThread) (objects : Objects) : Objects :=
  threads.foldl (fun objects thread => thread.destroy objects) objects

/-- `Shutdown`. -/
def shutdown (server : CTCPServer) (objects : Objects) : CTCPServer × Objects :=
  let objects := deleteThreads (roles.filterMap server.threads) objects
  let (spAuth, objects) := server.spAuth.releaseAndClear objects
  ({ threads := fun _ => none, spAuth := spAuth }, objects)

/-- `InitTSA` of a role. -/
def initTSA (fValid : Bool) (addrListen addrAdvertise : CSocketAddress) : TransportAddress :=
  if fValid = false then ⟨.zero, false⟩ else ⟨advertise addrListen addrAdvertise, true⟩

/-- `tsaHandler`. -/
def tsaHandler (config : CStunServerConfig) : TransportAddressSet := fun role =>
  initTSA (config.fHas role) (config.addr role) (config.addrAdvertised role)

/-- `tsaListenAll`. -/
def tsaListenAll (config : CStunServerConfig) : TransportAddressSet := fun role =>
  initTSA (config.fHas role) (config.addr role) .zero

/-- `tsaListen` of the thread for a socket. -/
def tsaListen (config : CStunServerConfig) (role : SocketRole) : TransportAddressSet := fun temp =>
  if temp ≠ role then ⟨.zero, false⟩ else tsaListenAll config temp

/-- A new thread in a slot, which is put there before its `Init`. -/
def addThread (config : CStunServerConfig) (a : SocketRole → TcpAnswers) (role : SocketRole)
    (tsaListen : TransportAddressSet) : Fallible (CTCPServer × Objects) Unit := do
  let (server, _) ← get
  zoom (fun (_, objects) => ({}, objects))
    (fun (thread, objects) (server, _) =>
      ({ server with threads := Function.update server.threads role (some thread) }, objects))
    (OwningTcpThread.init (a role) tsaListen (tsaHandler config) server.spAuth
      config.nMaxConnections.toInt32.toInt)

/-- One thread for every socket. -/
def addThreads (config : CStunServerConfig) (a : SocketRole → TcpAnswers) :
    List SocketRole → Fallible (CTCPServer × Objects) Unit
  | [] => pure ()
  | role :: rest => do
    if (tsaHandler config role).fValid then
      addThread config a role (tsaListen config role)
    addThreads config a rest

/-- `Initialize` up to `Cleanup`. The provider is in the member. -/
def initializeBody (config : CStunServerConfig) (a : SocketRole → TcpAnswers) (provider : ObjId) :
    Fallible (CTCPServer × Objects) Unit := do
  let (server, _) ← get
  chkIf (server.threads .rolePP).isSome E_UNEXPECTED
  modify fun (server, objects) =>
    ({ server with spAuth := some provider }, objects.createInstanceNoInit provider)
  if config.fMultiThreadedMode = false then addThread config a .rolePP (tsaListenAll config)
  else addThreads config a roles

/-- `Initialize`. -/
def initialize_ (config : CStunServerConfig) (a : SocketRole → TcpAnswers) (provider : ObjId) :
    Fallible (CTCPServer × Objects) Unit :=
  onError (fun (server, objects) => server.shutdown objects) (initializeBody config a provider)

end CTCPServer

end Stun
