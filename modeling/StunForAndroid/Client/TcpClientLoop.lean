import StunForAndroid.Client.ClientConfig
import StunForAndroid.StunCore.ClientExchange

/-!
# `TcpClientLoop`

`src/client/clientmain.cpp`. In each round of the loop the client connects to the address of the
next message, sends the message, and reads what comes back into the buffer that the message was in.
What the clock and the sockets answer are parameters: one `TcpExchange` for each round.

A round that leaves the loop has an outcome. The results are reported only when all tests are done.
-/

namespace Stun

open Octets Fallible CStunClientLogic

/-- What a call on a socket, or several of them, have come to. -/
inductive SocketAnswer (α : Type) where
  | done (a : α)
  | failed (errno : ℤ)
  /-- The last call has not returned. -/
  | blocked

/-- What the clock and the sockets answer in a round of the loop. -/
structure TcpExchange where
  /-- `TCPInit`. -/
  tcpInit : HRESULT := S_OK
  /-- `GetMillisecondCounter`. -/
  timeCurrentMilliseconds : UInt32
  /-- What makes a transaction id. -/
  rand : ℕ → UInt8
  stack : StunTransactionId
  /-- The error of `connect`, if any. -/
  connect : Option ℤ := none
  /-- How many octets each `send` takes. -/
  sends : List (Except ℤ ℕ)
  /-- What each `recv` gives. -/
  recvs : List (Except ℤ (List UInt8))
  addrLocal : CSocketAddress

/-- What has become of the loop. -/
inductive TcpOutcome where
  | initializeFailed (hr : HRESULT)
  | tcpInitFailed (hr : HRESULT)
  /-- `GetNextMessage` has failed, and the results are not ready. -/
  | nextMessageFailed (hrRet : HRESULT)
  | connectFailed (errno : ℤ)
  | sendFailed (errno : ℤ)
  | recvFailed (errno : ℤ)
  /-- `DumpResults`. -/
  | reported (results : StunClientResults)
  /-- A call on a socket has not returned. -/
  | blocked
  /-- There are more rounds to come. -/
  | running
deriving DecidableEq

/-- The variables of the loop. -/
structure TcpLoopState where
  clientlogic : CStunClientLogic
  spMsg : CBuffer := CBuffer.initWithAllocation 1500
  spMsgReader : CBuffer := CBuffer.initWithAllocation 1500
  reader : CStunMessageReader := {}

/-- The loop that sends the message. -/
def tcpSendLoop (bytes_to_send : ℕ) : ℕ → List (Except ℤ ℕ) → SocketAnswer Unit
  | bytes_sent, sends =>
    if bytes_sent < bytes_to_send then
      match sends with
      | [] => .blocked
      | .error errno :: _ => .failed errno
      | .ok n :: sends =>
        tcpSendLoop bytes_to_send (bytes_sent + min n (bytes_to_send - bytes_sent)) sends
    else .done ()

/-- The loop that reads the response, with the octets that have come and the reader that is fed
them. -/
def tcpRecvLoop (max_bytes_recv : ℕ) : List UInt8 → CStunMessageReader →
    List (Except ℤ (List UInt8)) → SocketAnswer (List UInt8 × CStunMessageReader)
  | received, reader, recvs =>
    let remaining := max_bytes_recv - received.length
    let readsize := reader.howManyBytesNeeded.toNat
    if remaining > 0 then
      if readsize = 0 then .done (received, reader)
      else if readsize > remaining then .done (received, reader)
      else
        match recvs with
        | [] => .blocked
        | .error errno :: _ => .failed errno
        -- `recv` gives no more than it was asked for, and nothing when the server has closed.
        | .ok bs :: recvs =>
          if bs.take readsize = [] then .done (received, reader)
          else tcpRecvLoop max_bytes_recv (received ++ bs.take readsize)
            (reader.addBytes (bs.take readsize)).2 recvs
    else .done (received, reader)

/-- The octets that have come, in the buffer of the message. The size is set behind each `recv`, so
that without any octets the message stays in the buffer. -/
def CBuffer.receive (received : List UInt8) (spMsg : CBuffer) : CBuffer :=
  if received = [] then spMsg
  else { data := overwrite spMsg.data 0 received, size := received.length }

/-- Connecting, sending the message and reading the response, or what has become of the loop. -/
def tcpConverse (x : TcpExchange) (spMsg : CBuffer) (reader : CStunMessageReader) :
    (List UInt8 × CStunMessageReader) ⊕ TcpOutcome :=
  match x.connect with
  | some errno => .inr (.connectFailed errno)
  | none =>
    match tcpSendLoop spMsg.contents.length 0 x.sends with
    | .failed errno => .inr (.sendFailed errno)
    | .blocked => .inr .blocked
    | .done () =>
      match tcpRecvLoop spMsg.getAllocatedSize [] reader x.recvs with
      | .failed errno => .inr (.recvFailed errno)
      | .blocked => .inr .blocked
      | .done result => .inl result

/-- A round of the loop. -/
def tcpClientRound (x : TcpExchange) (s : TcpLoopState) : TcpLoopState ⊕ TcpOutcome :=
  if failed x.tcpInit then .inr (.tcpInitFailed x.tcpInit)
  else
    match s.clientlogic.getNextMessage x.rand x.stack s.spMsg x.timeCurrentMilliseconds with
    | (.error hrRet, clientlogic) =>
      if hrRet = E_STUNCLIENT_RESULTS_READY then .inr (.reported clientlogic.results)
      else .inr (.nextMessageFailed hrRet)
    | (.ok (spMsg, _), clientlogic) =>
      match tcpConverse x spMsg (s.reader.reset.attachStream s.spMsgReader) with
      | .inr outcome => .inr outcome
      | .inl (received, reader) =>
        let spMsg := spMsg.receive received
        .inl {
          clientlogic := finalState (processResponse spMsg.contents x.addrLocal) clientlogic
          spMsg := spMsg
          spMsgReader := reader.stream.attachedBuffer.getD s.spMsgReader
          reader := reader }

/-- The rounds of the loop. -/
def tcpClientRounds : List TcpExchange → TcpLoopState → TcpOutcome
  | [], _ => .running
  | x :: xs, s =>
    match tcpClientRound x s with
    | .inl s => tcpClientRounds xs s
    | .inr outcome => outcome

/-- `TcpClientLoop`. -/
def tcpClientLoop (config : StunClientLogicConfig) (exchanges : List TcpExchange) : TcpOutcome :=
  match initializeLogic config {} with
  | .error hr _ => .initializeFailed hr
  | .ok _ clientlogic => tcpClientRounds exchanges { clientlogic := clientlogic }

end Stun
