import StunForAndroid.Server.PooledConnections

/-!
# What is done on a connection

The functions of `CTCPStunThread` that serve a connection, again, with a log of what they do on it:
the octets that `recv` gives and whether the reader gets them, the response, the state, what `send`
has taken, and what the assertions of `WriteBytesForConnection` are about. Without the log they are
the functions of the thread (`run_eq_map`).
-/

namespace Stun

open Fallible CStunMessageReader

/-- What is done on a connection. -/
inductive ConnectionEvent where
  /-- The reader is fed octets that `recv` has given. -/
  | interprets (bs : List UInt8)
  /-- `ConsumeRemoteClose` throws away octets that `recv` has given. -/
  | discards (bs : List UInt8)
  /-- `ProcessRequest` has left a response in the buffer. -/
  | answers (response : List UInt8)
  /-- `_state` is set. -/
  | enters (state : StunConnectionState)
  /-- The head of the loop of `WriteBytesForConnection`, with its assertions. -/
  | attempts (state : StunConnectionState) (bytestotal txCount : ℕ)
  /-- `send` is given `bytesremaining` octets and takes the first `n`. -/
  | sends (bytesremaining n : ℕ) (bs : List UInt8)
  /-- `_txCount` is set, with the assertion behind it. -/
  | counts (bytestotal txCount : ℕ)

/-- What has been done on a connection. -/
abbrev ConnectionLog : Type := List ConnectionEvent

namespace ConnectionEvent

/-- The octets that the reader is fed. -/
def interpretedOctets : ConnectionEvent → List UInt8
  | interprets bs => bs
  | _ => []

/-- The octets that `recv` gives. -/
def receivedOctets : ConnectionEvent → List UInt8
  | interprets bs => bs
  | discards bs => bs
  | _ => []

/-- The octets that `send` takes. -/
def sentOctets : ConnectionEvent → List UInt8
  | sends _ _ bs => bs
  | _ => []

/-- The response that an event of a connection gives. -/
def response? : ConnectionEvent → Option (List UInt8)
  | answers response => some response
  | _ => none

/-- The state that is entered. -/
def state? : ConnectionEvent → Option StunConnectionState
  | enters state => some state
  | _ => none

/-- The assertions of the source hold in an event of a connection. -/
def Asserts : ConnectionEvent → Prop
  | attempts state bytestotal txCount => state = .transmitting ∧ bytestotal > txCount
  | counts bytestotal txCount => txCount ≤ bytestotal
  | _ => True

/-- `send` takes no more than it is given. -/
def Legal : ConnectionEvent → Prop
  | sends bytesremaining n _ => n ≤ bytesremaining
  | _ => True

/-- Whether `send` has taken more than it was given can be decided. -/
instance : DecidablePred Legal
  | .sends bytesremaining n _ => inferInstanceAs (Decidable (n ≤ bytesremaining))
  | .interprets _ => inferInstanceAs (Decidable True)
  | .discards _ => inferInstanceAs (Decidable True)
  | .answers _ => inferInstanceAs (Decidable True)
  | .enters _ => inferInstanceAs (Decidable True)
  | .attempts _ _ _ => inferInstanceAs (Decidable True)
  | .counts _ _ => inferInstanceAs (Decidable True)

end ConnectionEvent

namespace ConnectionLog

/-- All octets that the reader was fed. -/
def interpreted (log : ConnectionLog) : List UInt8 := log.flatMap ConnectionEvent.interpretedOctets

/-- All octets of the peer. -/
def received (log : ConnectionLog) : List UInt8 := log.flatMap ConnectionEvent.receivedOctets

/-- All octets that were sent. -/
def sent (log : ConnectionLog) : List UInt8 := log.flatMap ConnectionEvent.sentOctets

/-- The responses to all requests of a connection. -/
def responses (log : ConnectionLog) : List (List UInt8) := log.filterMap ConnectionEvent.response?

/-- All states that were entered. -/
def states (log : ConnectionLog) : List StunConnectionState := log.filterMap ConnectionEvent.state?

/-- `send` has never taken more than it was given. -/
def Legal (log : ConnectionLog) : Prop := ∀ e ∈ log, e.Legal

end ConnectionLog

namespace CTCPStunThread

variable {P : Type} {cfg : TcpConfig} (I : IPolling P)

/-! ## The functions with a log -/

/-- `CloseConnection`, which is not logged. -/
def closeLogged (c : ConnId) (log : ConnectionLog) (t : CTCPStunThread P cfg) :
    Option (CTCPStunThread P cfg × ConnectionLog) :=
  (t.closeConnection I c).map (·, log)

/-- The loop of `ConsumeRemoteClose`. -/
def consumeLoopLogged (c : ConnId) : List RecvResult → ConnectionLog → CTCPStunThread P cfg →
    Option (CTCPStunThread P cfg × ConnectionLog)
  | [], log, t => some (t, log)
  | .wouldBlock :: _, log, t => some (t, log)
  | .failed :: _, log, t => t.closeLogged I c log
  | .octets [] :: _, log, t => t.closeLogged I c log
  | .octets (b :: bs) :: recvs, log, t => consumeLoopLogged c recvs (log ++ [.discards (b :: bs)]) t

/-- `ConsumeRemoteClose`. -/
def consumeRemoteCloseLogged (c : ConnId) (recvs : List RecvResult) (log : ConnectionLog)
    (t : CTCPStunThread P cfg) : Option (CTCPStunThread P cfg × ConnectionLog) := do
  let _ ← t.connectionpool.deref c
  t.consumeLoopLogged I c recvs log

/-- The end of `WriteBytesForConnection` when the whole response is sent. -/
def finishResponseLogged (c : ConnId) (recvs : List RecvResult) (log : ConnectionLog)
    (t : CTCPStunThread P cfg) : Option (CTCPStunThread P cfg × ConnectionLog) := do
  let conn ← t.connectionpool.deref c
  let t := t.setConn c { conn with state := .closing }
  let log := log ++ [.enters .closing]
  let r := I.changeEventSet conn.stunsocket.sock t.spPolling
  let t := { t with spPolling := r.2 }
  if failed r.1 then t.closeLogged I c log
  else t.consumeRemoteCloseLogged I c recvs log

/-- The loop of `WriteBytesForConnection`. What `send` takes are octets from `pData + _txCount`. -/
def writeLoopLogged (c : ConnId) (bytestotal : ℕ) (recvs : List RecvResult) :
    List SendResult → ConnectionLog → CTCPStunThread P cfg →
    Option (CTCPStunThread P cfg × ConnectionLog)
  | sends, log, t => do
    let conn ← t.connectionpool.deref c
    let log := log ++ [.attempts conn.state bytestotal conn.txCount]
    match sends with
    | [] => some (t, log)
    | .wouldBlock :: _ => some (t, log)
    | .failed :: _ => t.closeLogged I c log
    | .sent n :: sends =>
      if n = 0 then t.closeLogged I c log
      else
        let log := log ++
          [.sends (bytestotal - conn.txCount) n
            ((conn.spOutputBuffer.data.drop conn.txCount).take n),
            .counts bytestotal (conn.txCount + n)]
        let t := t.setConn c { conn with txCount := conn.txCount + n }
        if conn.txCount + n ≥ bytestotal then t.finishResponseLogged I c recvs log
        else writeLoopLogged c bytestotal recvs sends log t

/-- `WriteBytesForConnection`. -/
def writeBytesForConnectionLogged (c : ConnId) (recvs : List RecvResult) (sends : List SendResult)
    (log : ConnectionLog) (t : CTCPStunThread P cfg) :
    Option (CTCPStunThread P cfg × ConnectionLog) := do
  let conn ← t.connectionpool.deref c
  writeLoopLogged I c conn.spOutputBuffer.size recvs sends log t

/-- What `ReceiveBytesForConnection` does with a whole message. -/
def respondLogged (c : ConnId) (recvs : List RecvResult) (sends : List SendResult)
    (log : ConnectionLog) (t : CTCPStunThread P cfg) :
    Option (CTCPStunThread P cfg × ConnectionLog) := do
  let conn ← t.connectionpool.deref c
  match CStunRequestHandler.processRequest cfg.digests
      { conn.msgIn with pReader := some conn.reader } (some cfg.tsa) cfg.spAuth
      ⟨.rolePP, .zero, some conn.spOutputBuffer⟩ with
  | .error _ msgOut =>
    (t.setConn c { conn with
      spOutputBuffer := msgOut.spBufferOut.getD conn.spOutputBuffer }).closeLogged I c log
  | .ok _ msgOut =>
    let spOutputBuffer := msgOut.spBufferOut.getD conn.spOutputBuffer
    let t := t.setConn c { conn with spOutputBuffer := spOutputBuffer, state := .transmitting }
    let log := log ++ [.answers spOutputBuffer.contents, .enters .transmitting]
    let r := I.changeEventSet conn.stunsocket.sock t.spPolling
    let t := { t with spPolling := r.2 }
    if failed r.1 then t.closeLogged I c log
    else t.writeBytesForConnectionLogged I c recvs sends log

/-- `ReceiveBytesForConnection`. -/
def receiveBytesForConnectionLogged (c : ConnId) (sends : List SendResult) :
    List RecvResult → ConnectionLog → CTCPStunThread P cfg →
    Option (CTCPStunThread P cfg × ConnectionLog)
  | recvs, log, t => do
    let conn ← t.connectionpool.deref c
    let bytesneeded := conn.reader.howManyBytesNeeded
    if bytesneeded = 0 then t.closeLogged I c log
    else
      match recvs with
      | [] => some (t, log)
      | .wouldBlock :: _ => some (t, log)
      | .failed :: _ => t.closeLogged I c log
      | .octets bs :: recvs =>
        let buffer := bs.take bytesneeded.toNat
        if buffer.length = 0 then t.closeLogged I c log
        else
          let r := conn.reader.addBytes buffer
          let log := log ++ [.interprets buffer]
          let t := t.setConn c { conn with reader := r.2 }
          if r.1 = .parseError then t.closeLogged I c log
          else if r.1 = .bodyValidated then t.respondLogged I c recvs sends log
          else receiveBytesForConnectionLogged c sends recvs log t

/-- What `ProcessConnectionEvent` does with the connection that it has found. -/
def serveLogged (c : ConnId) (recvs : List RecvResult) (sends : List SendResult)
    (log : ConnectionLog) (t : CTCPStunThread P cfg) :
    Option (CTCPStunThread P cfg × ConnectionLog) := do
  let conn ← t.connectionpool.deref c
  match conn.state with
  | .receiving => t.receiveBytesForConnectionLogged I c sends recvs log
  | .transmitting => t.writeBytesForConnectionLogged I c recvs sends log
  | .closing => t.consumeRemoteCloseLogged I c recvs log
  | .idle => some (t, log)

/-- The connections as they were accepted, and what has been done on them since. -/
abbrev History : Type := ConnId → Option (StunConnection × ConnectionLog)

/-- More was done on a connection. -/
def History.goesOn (c : ConnId) (log : ConnectionLog) (history : History) : History :=
  Function.update history c ((history c).map fun x => (x.1, log))

/-- `ProcessConnectionEvent`. -/
def processConnectionEventLogged (sock : ℤ) (recvs : List RecvResult) (sends : List SendResult)
    (history : History) (t : CTCPStunThread P cfg) : Option (CTCPStunThread P cfg × History) :=
  match ((t.hashConnections t.pNewConnList).lookup sock).or
      ((t.hashConnections t.pOldConnList).lookup sock) with
  | none => some (t, history)
  | some c => do
    let (t, log) ← t.serveLogged I c recvs sends (((history c).map Prod.snd).getD [])
    some (t, history.goesOn c log)

/-- What `Run` does with an event. A connection that was accepted has no log yet. -/
def handleEventLogged (fd : ℤ) (i : RoundInput) (history : History) (t : CTCPStunThread P cfg) :
    Option (CTCPStunThread P cfg × History) :=
  match t.getListenSocket fd with
  | some role => do
    let (pConn, t) ← t.acceptConnection I role i.accept
    match pConn with
    | some c => do
      let conn₀ ← t.connectionpool.deref c
      let (t, log) ← t.receiveBytesForConnectionLogged I c i.sends i.recvs []
      some (t, Function.update history c (some (conn₀, log)))
    | none => some (t, history)
  | none => t.processConnectionEventLogged I fd i.recvs i.sends history

/-- A round of the loop of `Run`. -/
def roundLogged (i : RoundInput) (history : History) (t : CTCPStunThread P cfg) :
    Option ((CTCPStunThread P cfg × History) × Bool) :=
  if i.fNeedToExit then some ((t, history), false)
  else
    let r := t.awaited I
    let t := r.2
    if i.fNeedToExitAfterWait ∨ r.1.fd = t.pipe then some ((t, history), false)
    else do
      let (t, history) ←
        if r.1.hr = S_OK then t.handleEventLogged I r.1.fd i history else some (t, history)
      let t ← t.sweepDeadConnections I i.timeCurrent i.timeSwept
      some ((t, history), true)

/-- The loop of `Run`. -/
def runLogged : List RoundInput → History → CTCPStunThread P cfg →
    Option (CTCPStunThread P cfg × History)
  | [], history, t => some (t, history)
  | i :: rest, history, t => do
    let ((t, history), goesOn) ← t.roundLogged I i history
    if goesOn then runLogged rest history t else some (t, history)

/-! ## Without the log -/

/-- `CloseConnection` with a log does to the thread what it does without. -/
theorem closeConnection_eq_map (c : ConnId) (log : ConnectionLog) (t : CTCPStunThread P cfg) :
    t.closeConnection I c = (t.closeLogged I c log).map Prod.fst := by
  unfold closeLogged
  rw [Option.map_map]
  exact (Option.map_id' ..).symm

/-- The loop of `ConsumeRemoteClose` with a log does to the thread what it does without. -/
theorem consumeLoop_eq_map (c : ConnId) (recvs : List RecvResult) (log : ConnectionLog)
    (t : CTCPStunThread P cfg) :
    t.consumeLoop I c recvs = (t.consumeLoopLogged I c recvs log).map Prod.fst := by
  induction recvs generalizing log with
  | nil => rfl
  | cons recv recvs ih =>
    match recv with
    | .wouldBlock => rfl
    | .failed => exact closeConnection_eq_map I c log t
    | .octets [] => exact closeConnection_eq_map I c log t
    | .octets (b :: bs) => exact ih _

/-- `ConsumeRemoteClose` with a log does to the thread what it does without. -/
theorem consumeRemoteClose_eq_map (c : ConnId) (recvs : List RecvResult) (log : ConnectionLog)
    (t : CTCPStunThread P cfg) :
    t.consumeRemoteClose I c recvs = (t.consumeRemoteCloseLogged I c recvs log).map Prod.fst := by
  unfold consumeRemoteClose consumeRemoteCloseLogged
  cases t.connectionpool.deref c with
  | none => rfl
  | some conn => exact consumeLoop_eq_map I c recvs log t

/-- The end of `WriteBytesForConnection` with a log does to the thread what it does without. -/
theorem finishResponse_eq_map (c : ConnId) (recvs : List RecvResult) (log : ConnectionLog)
    (t : CTCPStunThread P cfg) :
    t.finishResponse I c recvs = (t.finishResponseLogged I c recvs log).map Prod.fst := by
  unfold finishResponse finishResponseLogged
  cases t.connectionpool.deref c with
  | none => rfl
  | some conn =>
    dsimp only [Option.bind_eq_bind, Option.bind_some]
    split_ifs
    · exact closeConnection_eq_map I c _ _
    · exact consumeRemoteClose_eq_map I c recvs _ _

/-- The loop of `WriteBytesForConnection` with a log does to the thread what it does without. -/
theorem writeLoop_eq_map (c : ConnId) (bytestotal : ℕ) (recvs : List RecvResult)
    (sends : List SendResult) (log : ConnectionLog) (t : CTCPStunThread P cfg) :
    t.writeLoop I c bytestotal recvs sends =
      (t.writeLoopLogged I c bytestotal recvs sends log).map Prod.fst := by
  induction sends generalizing log t with
  | nil =>
    unfold writeLoop writeLoopLogged
    cases t.connectionpool.deref c with
    | none => rfl
    | some conn => rfl
  | cons send sends ih =>
    unfold writeLoop writeLoopLogged
    cases t.connectionpool.deref c with
    | none => rfl
    | some conn =>
      dsimp only [Option.bind_eq_bind, Option.bind_some]
      cases send with
      | wouldBlock => rfl
      | failed => exact closeConnection_eq_map I c _ t
      | sent n =>
        dsimp only
        split_ifs
        · exact closeConnection_eq_map I c _ t
        · exact finishResponse_eq_map I c recvs _ _
        · exact ih _ _

/-- `WriteBytesForConnection` with a log does to the thread what it does without. -/
theorem writeBytesForConnection_eq_map (c : ConnId) (recvs : List RecvResult)
    (sends : List SendResult) (log : ConnectionLog) (t : CTCPStunThread P cfg) :
    t.writeBytesForConnection I c recvs sends =
      (t.writeBytesForConnectionLogged I c recvs sends log).map Prod.fst := by
  unfold writeBytesForConnection writeBytesForConnectionLogged
  cases t.connectionpool.deref c with
  | none => rfl
  | some conn => exact writeLoop_eq_map I c _ recvs sends log t

/-- The answer to a whole message does to the thread with a log what it does without. -/
theorem respond_eq_map (c : ConnId) (recvs : List RecvResult) (sends : List SendResult)
    (log : ConnectionLog) (t : CTCPStunThread P cfg) :
    t.respond I c recvs sends = (t.respondLogged I c recvs sends log).map Prod.fst := by
  unfold respond respondLogged StunConnection.msgIn
  cases t.connectionpool.deref c with
  | none => rfl
  | some conn =>
    dsimp only [Option.bind_eq_bind, Option.bind_some]
    -- Both make the same response, and only what is done with it is followed.
    generalize CStunRequestHandler.processRequest cfg.digests _ _ _ _ = result
    cases result with
    | error hr msgOut => exact closeConnection_eq_map I c log _
    | ok u msgOut =>
      dsimp only
      split_ifs
      · exact closeConnection_eq_map I c _ _
      · exact writeBytesForConnection_eq_map I c recvs sends _ _

/-- `ReceiveBytesForConnection` with a log does to the thread what it does without. -/
theorem receiveBytesForConnection_eq_map (c : ConnId) (sends : List SendResult)
    (recvs : List RecvResult) (log : ConnectionLog) (t : CTCPStunThread P cfg) :
    t.receiveBytesForConnection I c sends recvs =
      (t.receiveBytesForConnectionLogged I c sends recvs log).map Prod.fst := by
  -- The two loops branch alike, since no branch looks at the log.
  induction recvs generalizing log t with
  | nil =>
    unfold receiveBytesForConnection receiveBytesForConnectionLogged
    cases t.connectionpool.deref c with
    | none => rfl
    | some conn =>
      dsimp only [Option.bind_eq_bind, Option.bind_some]
      split_ifs
      · exact closeConnection_eq_map I c log t
      · rfl
  | cons recv recvs ih =>
    unfold receiveBytesForConnection receiveBytesForConnectionLogged
    cases t.connectionpool.deref c with
    | none => rfl
    | some conn =>
      dsimp only [Option.bind_eq_bind, Option.bind_some]
      split
      · exact closeConnection_eq_map I c log t
      cases recv with
      | wouldBlock => rfl
      | failed => exact closeConnection_eq_map I c log t
      | octets bs =>
        dsimp only
        split_ifs
        · exact closeConnection_eq_map I c log t
        · exact closeConnection_eq_map I c _ _
        · exact respond_eq_map I c recvs sends _ _
        · exact ih _ _

/-- `ProcessConnectionEvent`, once it has found the connection, does to the thread with a log what
it does without. -/
theorem serve_eq_map (c : ConnId) (recvs : List RecvResult) (sends : List SendResult)
    (log : ConnectionLog) (t : CTCPStunThread P cfg) :
    (do
      let conn ← t.connectionpool.deref c
      match conn.state with
      | .receiving => t.receiveBytesForConnection I c sends recvs
      | .transmitting => t.writeBytesForConnection I c recvs sends
      | .closing => t.consumeRemoteClose I c recvs
      | .idle => some t) = (t.serveLogged I c recvs sends log).map Prod.fst := by
  unfold serveLogged
  cases t.connectionpool.deref c with
  | none => rfl
  | some conn =>
    dsimp only [Option.bind_eq_bind, Option.bind_some]
    cases conn.state with
    | receiving => exact receiveBytesForConnection_eq_map I c sends recvs log t
    | transmitting => exact writeBytesForConnection_eq_map I c recvs sends log t
    | closing => exact consumeRemoteClose_eq_map I c recvs log t
    | idle => rfl

/-- A computation with a log, looked at without it, is the one that the log was added to. -/
theorem map_bind_fst {α β γ : Type} (o : Option (α × β)) (f : α × β → γ) :
    (o.bind fun x => some (x.1, f x)).map Prod.fst = o.map Prod.fst := by
  cases o with
  | none => rfl
  | some x => rfl

/-- `ProcessConnectionEvent` with a history does to the thread what it does without. -/
theorem processConnectionEvent_eq_map (sock : ℤ) (recvs : List RecvResult) (sends : List SendResult)
    (history : History) (t : CTCPStunThread P cfg) :
    t.processConnectionEvent I sock recvs sends =
      (t.processConnectionEventLogged I sock recvs sends history).map Prod.fst := by
  unfold processConnectionEvent processConnectionEventLogged
  generalize ((t.hashConnections t.pNewConnList).lookup sock).or
    ((t.hashConnections t.pOldConnList).lookup sock) = found
  cases found with
  | none => rfl
  | some c =>
    refine (serve_eq_map I c recvs sends (((history c).map Prod.snd).getD []) t).trans ?_
    exact (map_bind_fst _ fun x => history.goesOn c x.2).symm

/-- Handling an event in `Run` with a history does to the thread what it does without. -/
theorem handleEvent_eq_map (fd : ℤ) (i : RoundInput) (history : History)
    (t : CTCPStunThread P cfg) :
    t.handleEvent I fd i = (t.handleEventLogged I fd i history).map Prod.fst := by
  unfold handleEvent handleEventLogged
  generalize t.getListenSocket fd = listening
  cases listening with
  | none => exact processConnectionEvent_eq_map I fd i.recvs i.sends history t
  | some role =>
    show Option.bind _ _ = (Option.bind _ _).map _
    rw [Option.map_bind]
    congr 1
    funext r
    obtain ⟨pConn, t'⟩ := r
    cases pConn with
    | none => rfl
    | some c =>
      dsimp only [Function.comp]
      cases hc : t'.connectionpool.deref c with
      | none =>
        unfold receiveBytesForConnection
        rw [hc]
        rfl
      | some conn₀ =>
        refine (receiveBytesForConnection_eq_map I c i.sends i.recvs [] t').trans ?_
        exact (map_bind_fst _ fun x => Function.update history c (some (conn₀, x.2))).symm

/-- A round of `Run` with a history does to the thread what it does without. -/
theorem round_eq_map (i : RoundInput) (history : History) (t : CTCPStunThread P cfg) :
    t.round I i = (t.roundLogged I i history).map fun x => (x.1.1, x.2) := by
  rw [round_eq]
  unfold roundLogged
  dsimp only
  split
  · rfl
  split
  · rfl
  split
  · rw [handleEvent_eq_map I _ i history]
    cases (t.awaited I).2.handleEventLogged I (t.awaited I).1.fd i history with
    | none => rfl
    | some r =>
      dsimp only [Option.map_some, Option.bind_eq_bind, Option.bind_some]
      cases r.1.sweepDeadConnections I i.timeCurrent i.timeSwept with
      | none => rfl
      | some t' => rfl
  · dsimp only [Option.bind_eq_bind, Option.bind_some]
    cases (t.awaited I).2.sweepDeadConnections I i.timeCurrent i.timeSwept with
    | none => rfl
    | some t' => rfl

/-- `Run` with a history does to the thread what it does without. -/
theorem run_eq_map (inputs : List RoundInput) (history : History) (t : CTCPStunThread P cfg) :
    t.run I inputs = (t.runLogged I inputs history).map Prod.fst := by
  induction inputs generalizing t history with
  | nil => rfl
  | cons i rest ih =>
    unfold run runLogged
    rw [round_eq_map I i history]
    cases t.roundLogged I i history with
    | none => rfl
    | some r =>
      obtain ⟨⟨t', history'⟩, goesOn⟩ := r
      cases goesOn with
      | false => rfl
      | true => exact ih history' t'

end CTCPStunThread

end Stun
