import StunForAndroid.Server.ConnectionLog
import StunForAndroid.Server.TcpLimit
import StunForAndroid.StunCore.ResponseBuffer

/-!
# One response to a connection

`ReceiveBytesForConnection` and `WriteBytesForConnection` in `src/server/tcpserver.cpp` send the
response to a connection in as many pieces as `send` takes it, first from the event that completes
the request and then from later ones. Whatever `recv` and `send` give and whatever the thread does
in between, a connection goes through three stages (`ConnectionStage`): it reads, it has a response
of which `_txCount` octets are sent, or all of the response is sent. What was done on it by then
(`ExactlyOnce`) stays true when it is closed.
-/

namespace Stun

open Fallible CStunMessageReader

/-! ## The logs -/

namespace ConnectionLog

variable (log log' : ConnectionLog)

/-- The octets that the reader was fed in two logs are those of the first and then those of the
second. -/
theorem interpreted_append : interpreted (log ++ log') = log.interpreted ++ log'.interpreted :=
  List.flatMap_append

/-- The octets received in two logs are those of the first and then those of the second. -/
theorem received_append : received (log ++ log') = log.received ++ log'.received :=
  List.flatMap_append

/-- The octets sent in two logs are those of the first and then those of the second. -/
theorem sent_append : sent (log ++ log') = log.sent ++ log'.sent := List.flatMap_append

/-- The responses in two logs are those of the first and then those of the second. -/
theorem responses_append : responses (log ++ log') = log.responses ++ log'.responses :=
  List.filterMap_append

/-- The states in two logs are those of the first and then those of the second. -/
theorem states_append : states (log ++ log') = log.states ++ log'.states := List.filterMap_append

variable {log log'}

/-- An event in which nothing is read feeds the reader nothing. -/
theorem interpreted_snoc {e : ConnectionEvent} (h : e.interpretedOctets = []) :
    interpreted (log ++ [e]) = log.interpreted := by
  rw [log.interpreted_append]
  simp [interpreted, h]

/-- When the events of a log meet their assertions and one more does, all of them do. -/
theorem asserts_snoc {e : ConnectionEvent} (h : ∀ e' ∈ log, e'.Asserts) (he : e.Asserts) :
    ∀ e' ∈ log ++ [e], e'.Asserts := by
  intro e' he'
  rcases List.mem_append.mp he' with hmem | hmem
  · exact h e' hmem
  · rw [List.mem_singleton.mp hmem]
    exact he

/-- The first part of a legal log is legal. -/
theorem Legal.of_append (h : Legal (log ++ log')) : log.Legal :=
  fun e he => h e (List.mem_append_left _ he)

end ConnectionLog

namespace StunConnection

/-- A connection as `AcceptConnection` leaves it. -/
structure JustAccepted (conn : StunConnection) : Prop where
  state : conn.state = .receiving
  txCount : conn.txCount = 0
  reader : ∃ (r : CStunMessageReader) (buf : CBuffer), conn.reader = r.ready true (some buf)
  allocated : MAX_STUN_MESSAGE_SIZE ≤ conn.spOutputBuffer.getAllocatedSize

/-- A connection that can be reused is just accepted once `GetConnection` has prepared it and
`AcceptConnection` has written the hint. -/
theorem Reusable.justAccepted {conn : StunConnection} (h : conn.Reusable) (sock : ℤ)
    (role : SocketRole) (addrlocal addrremote : CSocketAddress) (descriptors : List ℤ)
    (idHashTable : ℤ) :
    JustAccepted { (CConnectionPool.prepare sock role addrlocal addrremote conn descriptors).1 with
      idHashTable := idHashTable } :=
  ⟨rfl, rfl, ⟨conn.reader, conn.readerBuffer, rfl⟩, h.allocated⟩

/-- A connection just accepted, when it has read what another with its socket has read, makes the
same response. -/
theorem JustAccepted.response_addChunks {conn₀ conn : StunConnection} (h₀ : conn₀.JustAccepted)
    {bs : List UInt8} (hfed : Fed true bs conn.reader)
    (hsize : MAX_STUN_MESSAGE_SIZE ≤ conn.spOutputBuffer.getAllocatedSize)
    (hsocket : conn.stunsocket = conn₀.stunsocket) (D : Digests) (tsa : TransportAddressSet)
    (pAuth : Option IStunAuth) :
    (conn₀.addChunks [bs]).response D tsa pAuth = conn.response D tsa pAuth := by
  have hfed₀ : Fed true bs (conn₀.addChunks [bs]).reader := by
    obtain ⟨r, buf, hr⟩ := h₀.reader
    show Fed true bs (conn₀.reader.addChunks [bs])
    rw [hr]
    have hready := fed_addChunks true (some buf) r [bs]
    rwa [List.flatten_singleton] at hready
  apply response_same hfed₀ hfed
  · exact h₀.allocated
  · exact hsize
  · exact hsocket.symm

/-- The reader of a connection just accepted has read exactly the octets that it is fed. -/
theorem JustAccepted.fed_addChunks {conn₀ : StunConnection} (h₀ : conn₀.JustAccepted)
    (bs : List UInt8) : Fed true bs (conn₀.addChunks [bs]).reader := by
  obtain ⟨r, buf, hr⟩ := h₀.reader
  show Fed true bs (conn₀.reader.addChunks [bs])
  rw [hr]
  have hready := CStunMessageReader.fed_addChunks true (some buf) r [bs]
  rwa [List.flatten_singleton] at hready

end StunConnection

/-! ## Stages -/

section Stages

variable (cfg : TcpConfig) (conn₀ : StunConnection)

/-- The reader was fed octets from the start of what the peer has sent, and no more than the first
message. -/
structure FirstOnly (log : ConnectionLog) : Prop where
  first : log.interpreted <+: log.received
  le : STUN_HEADER_SIZE ≤ log.interpreted.length → HeaderValid true log.interpreted →
    log.interpreted.length ≤ STUN_HEADER_SIZE + (lengthField log.interpreted).toNat
  eq : STUN_HEADER_SIZE ≤ log.interpreted.length → ¬HeaderValid true log.interpreted →
    log.interpreted.length = STUN_HEADER_SIZE
  asserts : ∀ e ∈ log, e.Asserts

/-- `ProcessRequest` has made a response of the first message, and of nothing else. -/
structure AnsweredOnce (response : List UInt8) (log : ConnectionLog) : Prop
    extends FirstOnly log where
  responses : log.responses = [response]
  accepted : Accepts true log.interpreted
  made : ((conn₀.addChunks [log.interpreted]).response cfg.digests cfg.tsa cfg.spAuth).map
    (fun x => x.2.2) = some response

/-- What a connection has done at any time. -/
structure ExactlyOnce (log : ConnectionLog) : Prop extends FirstOnly log where
  /-- There is one response at most, and it is that to the first message. -/
  one : log.responses = [] ∨ ∃ response, AnsweredOnce cfg conn₀ response log
  /-- What was sent is from the start of the response. -/
  sent : log.sent <+: log.responses.flatten
  /-- The states are entered in their order. -/
  states : log.states <+: [.transmitting, .closing]
  /-- The last one exactly when the whole response is sent. -/
  closing : .closing ∈ log.states ↔ log.responses ≠ [] ∧ log.sent = log.responses.flatten

/-- The connection reads, and has sent nothing yet. -/
structure AtReceiving (log : ConnectionLog) (conn : StunConnection) : Prop
    extends FirstOnly log where
  state : conn.state = .receiving
  txCount : conn.txCount = 0
  reader : OnDemand true log.interpreted conn.reader
  stunsocket : conn.stunsocket = conn₀.stunsocket
  allocated : MAX_STUN_MESSAGE_SIZE ≤ conn.spOutputBuffer.getAllocatedSize
  all : log.interpreted = log.received
  quiet : log.responses = [] ∧ log.states = [] ∧ log.sent = []

/-- The first octets of the response are sent. -/
structure AtSending (log : ConnectionLog) (conn : StunConnection) : Prop where
  state : conn.state = .transmitting
  size : conn.spOutputBuffer.contents.length = conn.spOutputBuffer.size
  answered : AnsweredOnce cfg conn₀ conn.spOutputBuffer.contents log
  states : log.states = [.transmitting]
  sent : log.sent = conn.spOutputBuffer.contents.take conn.txCount
  txCount_le : conn.txCount ≤ conn.spOutputBuffer.size

/-- Some octets of the response are sent, and some are not. -/
structure AtTransmitting (log : ConnectionLog) (conn : StunConnection) : Prop extends
    AtSending cfg conn₀ log conn where
  unsent : conn.txCount < conn.spOutputBuffer.size

/-- The whole response is sent. -/
structure AtClosing (log : ConnectionLog) (conn : StunConnection) : Prop where
  state : conn.state = .closing
  size : conn.spOutputBuffer.contents.length = conn.spOutputBuffer.size
  answered : AnsweredOnce cfg conn₀ conn.spOutputBuffer.contents log
  states : log.states = [.transmitting, .closing]
  sent : log.sent = conn.spOutputBuffer.contents
  txCount : conn.txCount = conn.spOutputBuffer.size

/-- The stages of a connection, and what is left of it when it was closed. -/
inductive ConnectionStage (log : ConnectionLog) : Option StunConnection → Prop
  | receiving {conn : StunConnection} (h : AtReceiving conn₀ log conn) :
      ConnectionStage log (some conn)
  | transmitting {conn : StunConnection} (h : AtTransmitting cfg conn₀ log conn) :
    ConnectionStage log (some conn)
  | closing {conn : StunConnection} (h : AtClosing cfg conn₀ log conn) :
      ConnectionStage log (some conn)
  | ended (h : ExactlyOnce cfg conn₀ log) : ConnectionStage log none

variable {cfg conn₀} {log : ConnectionLog} {conn : StunConnection}

/-- A connection that was accepted and has not done anything yet. -/
theorem StunConnection.JustAccepted.atReceiving (h : conn₀.JustAccepted) :
    AtReceiving conn₀ [] conn₀ := by
  obtain ⟨r, buf, hr⟩ := h.reader
  have hready := onDemand_ready true (some buf) r
  rw [← hr] at hready
  exact ⟨⟨List.nil_prefix, hready.le, hready.eq, by simp⟩, h.state, h.txCount, hready,
    rfl, h.allocated, rfl, rfl, rfl, rfl⟩

/-- A connection that is receiving has answered exactly once or not yet. -/
theorem AtReceiving.exactlyOnce (h : AtReceiving conn₀ log conn) : ExactlyOnce cfg conn₀ log where
  toFirstOnly := h.toFirstOnly
  one := .inl h.quiet.1
  sent := by
    rw [h.quiet.2.2]
    exact List.nil_prefix
  states := by
    rw [h.quiet.2.1]
    exact List.nil_prefix
  closing := by
    rw [h.quiet.1, h.quiet.2.1]
    simp

/-- A connection that is transmitting has answered exactly once. -/
theorem AtTransmitting.exactlyOnce (h : AtTransmitting cfg conn₀ log conn) :
    ExactlyOnce cfg conn₀ log where
  toFirstOnly := h.answered.toFirstOnly
  one := .inr ⟨_, h.answered⟩
  sent := by
    rw [h.sent, h.answered.responses, List.flatten_singleton]
    exact List.take_prefix _ _
  states := by
    rw [h.states]
    exact ⟨[.closing], rfl⟩
  closing := by
    -- Some octets are not sent yet.
    have hne : log.sent ≠ log.responses.flatten := by
      intro heq
      have hlen := congrArg List.length heq
      rw [h.sent, h.answered.responses, List.flatten_singleton, List.length_take, h.size] at hlen
      have := h.unsent
      omega
    rw [h.states]
    simp [hne]

/-- A connection that is closing has answered exactly once. -/
theorem AtClosing.exactlyOnce (h : AtClosing cfg conn₀ log conn) : ExactlyOnce cfg conn₀ log where
  toFirstOnly := h.answered.toFirstOnly
  one := .inr ⟨_, h.answered⟩
  sent := by
    have hall : log.sent = log.responses.flatten := by
      rw [h.sent, h.answered.responses, List.flatten_singleton]
    exact hall ▸ List.prefix_refl _
  states := h.states ▸ List.prefix_refl _
  closing := by
    rw [h.states, h.sent, h.answered.responses, List.flatten_singleton]
    simp

/-- What was answered is a request. -/
theorem AnsweredOnce.exists_request {response : List UInt8}
    (h : AnsweredOnce cfg conn₀ response log) (h₀ : conn₀.JustAccepted) :
    (conn₀.addChunks [log.interpreted]).reader.msgClass = .request ∧
      ∃ ts, Parsed true log.interpreted ts (conn₀.addChunks [log.interpreted]).reader := by
  have hfed := h₀.fed_addChunks log.interpreted
  have hstate := hfed.bodyValidated_iff.mpr h.accepted
  refine ⟨?_, hfed.parsed hstate⟩
  by_contra hclass
  -- On anything else `ProcessRequest` fails.
  have hmade := h.made
  unfold StunConnection.response at hmade
  rw [CStunRequestHandler.processRequest_other cfg.digests _ cfg.tsa cfg.spAuth
    ⟨.rolePP, .zero, none⟩
    (show MAX_STUN_MESSAGE_SIZE ≤
      (conn₀.addChunks [log.interpreted]).spOutputBuffer.getAllocatedSize
      from h₀.allocated) hstate hclass] at hmade
  cases hmade

/-- At any stage a connection has answered its first message at most once, and in the order of the
states. -/
theorem ConnectionStage.exactlyOnce {o : Option StunConnection}
    (h : ConnectionStage cfg conn₀ log o) :
    ExactlyOnce cfg conn₀ log := by
  cases h with
  | receiving h => exact h.exactlyOnce
  | transmitting h => exact h.exactlyOnce
  | closing h => exact h.exactlyOnce
  | ended h => exact h

/-- A connection in the receiving state is at that stage. -/
theorem ConnectionStage.atReceiving (h : ConnectionStage cfg conn₀ log (some conn))
    (hstate : conn.state = .receiving) : AtReceiving conn₀ log conn := by
  cases h with
  | receiving h => exact h
  | transmitting h => exact absurd (hstate.symm.trans h.state) (by decide)
  | closing h => exact absurd (hstate.symm.trans h.state) (by decide)

/-- A connection in the transmitting state is at that stage. -/
theorem ConnectionStage.atTransmitting (h : ConnectionStage cfg conn₀ log (some conn))
    (hstate : conn.state = .transmitting) : AtTransmitting cfg conn₀ log conn := by
  cases h with
  | receiving h => exact absurd (hstate.symm.trans h.state) (by decide)
  | transmitting h => exact h
  | closing h => exact absurd (hstate.symm.trans h.state) (by decide)

/-- A connection in the closing state is at that stage. -/
theorem ConnectionStage.atClosing (h : ConnectionStage cfg conn₀ log (some conn))
    (hstate : conn.state = .closing) : AtClosing cfg conn₀ log conn := by
  cases h with
  | receiving h => exact absurd (hstate.symm.trans h.state) (by decide)
  | transmitting h => exact absurd (hstate.symm.trans h.state) (by decide)
  | closing h => exact h

/-- What a connection says of what was done on it. -/
structure InStep (log : ConnectionLog) (conn : StunConnection) : Prop where
  sent : log.sent = log.responses.flatten.take conn.txCount
  txCount : conn.txCount = log.sent.length
  state : conn.state = log.states.getLast?.getD .receiving

/-- At any stage the log of a connection is in step with the connection. -/
theorem ConnectionStage.inStep (h : ConnectionStage cfg conn₀ log (some conn)) :
    InStep log conn := by
  cases h with
  | receiving h =>
    obtain ⟨hresponses, hstates, hsent⟩ := h.quiet
    refine ⟨?_, ?_, ?_⟩
    · rw [hsent, hresponses]
      exact List.take_nil.symm
    · rw [hsent, h.txCount]
      rfl
    · rw [hstates, h.state]
      rfl
  | transmitting h =>
    refine ⟨?_, ?_, ?_⟩
    · rw [h.sent, h.answered.responses, List.flatten_singleton]
    · rw [h.sent, List.length_take, h.size, min_eq_left h.txCount_le]
    · rw [h.states, h.state]
      rfl
  | closing h =>
    refine ⟨?_, ?_, ?_⟩
    · rw [h.sent, h.answered.responses, List.flatten_singleton, h.txCount, ← h.size,
        List.take_length]
    · rw [h.sent, h.txCount, h.size]
    · rw [h.states, h.state]
      rfl

/-! ## What an event does to the logs -/

/-- An event in which nothing is read and whose assertions hold keeps the first message the only
one. -/
theorem FirstOnly.snoc (h : FirstOnly log) {e : ConnectionEvent}
    (hinterpreted : e.interpretedOctets = []) (hasserts : e.Asserts) : FirstOnly (log ++ [e]) where
  first := by
    -- The peer may have sent more meanwhile.
    rw [ConnectionLog.interpreted_snoc hinterpreted, log.received_append]
    exact h.first.trans (List.prefix_append _ _)
  le := by
    rw [ConnectionLog.interpreted_snoc hinterpreted]
    exact h.le
  eq := by
    rw [ConnectionLog.interpreted_snoc hinterpreted]
    exact h.eq
  asserts := ConnectionLog.asserts_snoc h.asserts hasserts

/-- An event in which nothing is read or answered keeps a connection answered once. -/
theorem AnsweredOnce.snoc {response : List UInt8} (h : AnsweredOnce cfg conn₀ response log)
    {e : ConnectionEvent} (hinterpreted : e.interpretedOctets = []) (hresponse : e.response? = none)
    (hasserts : e.Asserts) : AnsweredOnce cfg conn₀ response (log ++ [e]) := by
  have hsame : ConnectionLog.interpreted (log ++ [e]) = log.interpreted :=
    ConnectionLog.interpreted_snoc hinterpreted
  refine ⟨h.toFirstOnly.snoc hinterpreted hasserts, ?_, hsame ▸ h.accepted, hsame ▸ h.made⟩
  rw [log.responses_append, h.responses]
  simp [ConnectionLog.responses, hresponse]

/-- The octets of the peer are thrown away. -/
theorem AtClosing.discards (h : AtClosing cfg conn₀ log conn) (bs : List UInt8) :
    AtClosing cfg conn₀ (log ++ [.discards bs]) conn where
  state := h.state
  size := h.size
  answered := h.answered.snoc rfl rfl trivial
  states := by
    rw [log.states_append, h.states]
    rfl
  sent := by
    rw [log.sent_append, h.sent]
    exact List.append_nil _
  txCount := h.txCount

/-- A connection that is transmitting is so still at the head of the loop of
`WriteBytesForConnection`. -/
theorem AtTransmitting.attempts (h : AtTransmitting cfg conn₀ log conn) :
    AtTransmitting cfg conn₀
      (log ++ [.attempts conn.state conn.spOutputBuffer.size conn.txCount]) conn where
  state := h.state
  size := h.size
  answered := h.answered.snoc rfl rfl ⟨h.state, h.unsent⟩
  states := by
    rw [log.states_append, h.states]
    rfl
  sent := by
    rw [log.sent_append, h.sent]
    exact List.append_nil _
  txCount_le := h.txCount_le
  unsent := h.unsent

/-- `send` takes some of the octets that it is given. -/
theorem AtTransmitting.sends (h : AtTransmitting cfg conn₀ log conn) {n : ℕ}
    (hn : n ≤ conn.spOutputBuffer.size - conn.txCount) :
    AtSending cfg conn₀
      (log ++ [.sends (conn.spOutputBuffer.size - conn.txCount) n
          ((conn.spOutputBuffer.data.drop conn.txCount).take n),
        .counts conn.spOutputBuffer.size (conn.txCount + n)])
      { conn with txCount := conn.txCount + n } := by
  have hle : conn.txCount + n ≤ conn.spOutputBuffer.size := by
    have := h.txCount_le
    omega
  -- `send` is given the octets of the array, and the response is what of them is in use.
  have htake : ∀ k ≤ conn.spOutputBuffer.size,
      conn.spOutputBuffer.contents.take k = conn.spOutputBuffer.data.take k := by
    intro k hk
    rw [CBuffer.contents, List.take_take, min_eq_left hk]
  have hanswered := (h.answered.snoc (e := .sends (conn.spOutputBuffer.size - conn.txCount) n
    ((conn.spOutputBuffer.data.drop conn.txCount).take n)) rfl rfl trivial).snoc
    (e := .counts conn.spOutputBuffer.size (conn.txCount + n)) rfl rfl hle
  rw [List.append_assoc] at hanswered
  refine ⟨h.state, h.size, hanswered, ?_, ?_, hle⟩
  · rw [log.states_append, h.states]
    rfl
  · calc ConnectionLog.sent (log ++ _)
        = conn.spOutputBuffer.data.take conn.txCount ++
            (conn.spOutputBuffer.data.drop conn.txCount).take n := by
          rw [log.sent_append, h.sent, htake _ h.txCount_le]
          simp [ConnectionLog.sent, ConnectionEvent.sentOctets]
      _ = conn.spOutputBuffer.data.take (conn.txCount + n) := List.take_add.symm
      _ = conn.spOutputBuffer.contents.take (conn.txCount + n) := (htake _ hle).symm

/-- The state is set when the whole response is sent. -/
theorem AtSending.finishes (h : AtSending cfg conn₀ log conn)
    (hall : conn.txCount ≥ conn.spOutputBuffer.size) :
    AtClosing cfg conn₀ (log ++ [.enters .closing]) { conn with state := .closing } where
  state := rfl
  size := h.size
  answered := h.answered.snoc rfl rfl trivial
  states := by
    rw [log.states_append, h.states]
    rfl
  sent := by
    rw [log.sent_append, h.sent, List.take_of_length_le (h.size.trans_le hall)]
    exact List.append_nil _
  txCount := le_antisymm h.txCount_le hall

/-- The reader is fed no more than it needs. -/
theorem AtReceiving.interprets (h : AtReceiving conn₀ log conn) {buffer : List UInt8}
    (hbuffer : buffer.length ≤ conn.reader.howManyBytesNeeded.toNat) :
    AtReceiving conn₀ (log ++ [.interprets buffer])
      { conn with reader := (conn.reader.addBytes buffer).2 } := by
  have hinterpreted : ConnectionLog.interpreted (log ++ [.interprets buffer]) =
      log.interpreted ++ buffer := by
    rw [log.interpreted_append]
    simp [ConnectionLog.interpreted, ConnectionEvent.interpretedOctets]
  have hreceived : ConnectionLog.received (log ++ [.interprets buffer]) =
      log.received ++ buffer := by
    rw [log.received_append]
    simp [ConnectionLog.received, ConnectionEvent.receivedOctets]
  -- What the reader still needs bounds what it was fed, whatever it was fed.
  have hdemand := h.reader.addBytes hbuffer
  rw [← hinterpreted] at hdemand
  obtain ⟨hresponses, hstates, hsent⟩ := h.quiet
  refine ⟨⟨?_, hdemand.le, hdemand.eq, ?_⟩, h.state, h.txCount, hdemand, h.stunsocket,
    h.allocated, ?_, ?_, ?_, ?_⟩
  · have hall := calc ConnectionLog.interpreted (log ++ [.interprets buffer])
        = log.interpreted ++ buffer := hinterpreted
      _ = log.received ++ buffer := by rw [h.all]
      _ = ConnectionLog.received (log ++ [.interprets buffer]) := hreceived.symm
    exact hall ▸ List.prefix_refl _
  · exact ConnectionLog.asserts_snoc h.asserts trivial
  · rw [hinterpreted, hreceived, h.all]
  · rw [log.responses_append, hresponses]
    rfl
  · rw [log.states_append, hstates]
    rfl
  · rw [log.sent_append, hsent]
    rfl

/-- `ProcessRequest` has made a response of the message in the reader. -/
theorem AtReceiving.answers (h : AtReceiving conn₀ log conn) (h₀ : conn₀.JustAccepted)
    {msgOut : StunMessageOut} (hrun : CStunRequestHandler.processRequest cfg.digests
      { conn.msgIn with pReader := some conn.reader } (some cfg.tsa) cfg.spAuth
      ⟨.rolePP, .zero, some conn.spOutputBuffer⟩ = .ok () msgOut) :
    let out := msgOut.spBufferOut.getD conn.spOutputBuffer
    AtTransmitting cfg conn₀ (log ++ [.answers out.contents, .enters .transmitting])
      { conn with spOutputBuffer := out, state := .transmitting } := by
  intro out
  have hok : CStunRequestHandler.processRequest cfg.digests
      { conn.msgIn with pReader := some conn.reader } (some cfg.tsa) cfg.spAuth
      { (⟨.rolePP, .zero, none⟩ : StunMessageOut) with spBufferOut := some conn.spOutputBuffer } =
        .ok () msgOut := hrun
  obtain ⟨-, hstate, hclass⟩ := CStunRequestHandler.processRequest_ok hok
  obtain ⟨ts, hread⟩ := h.reader.fed.parsed hstate
  obtain ⟨out', hout, -, hlength, hheader⟩ := CStunRequestHandler.processRequest_size _ _ _ _ _
    h.allocated hclass hread hok
  have hsame : out = out' := by
    show msgOut.spBufferOut.getD conn.spOutputBuffer = out'
    rw [hout, Option.getD_some]
  clear_value out
  subst hsame
  -- The response is what a connection makes of the first message.
  have hmade : ((conn₀.addChunks [log.interpreted]).response cfg.digests cfg.tsa cfg.spAuth).map
      (fun x => x.2.2) = some out.contents := by
    have hresponse :=
      h₀.response_addChunks h.reader.fed h.allocated h.stunsocket cfg.digests cfg.tsa
      cfg.spAuth
    rw [hresponse, StunConnection.response, hrun, CStunRequestHandler.sentBy, hout]
    rfl
  have hsame : ConnectionLog.interpreted (log ++ [.answers out.contents, .enters .transmitting]) =
      log.interpreted := by
    rw [log.interpreted_append]
    exact List.append_nil _
  have hfirst := (h.toFirstOnly.snoc (e := .answers out.contents) rfl trivial).snoc
    (e := .enters .transmitting) rfl trivial
  rw [List.append_assoc] at hfirst
  obtain ⟨hresponses, hstates, hsent⟩ := h.quiet
  refine {
    state := rfl
    size := hlength
    answered := ⟨hfirst, ?_, hsame ▸ h.reader.fed.bodyValidated_iff.mp hstate, hsame ▸ hmade⟩
    states := ?_
    sent := ?_
    txCount_le := ?_
    unsent := ?_ }
  · rw [log.responses_append, hresponses]
    rfl
  · rw [log.states_append, hstates]
    rfl
  · rw [log.sent_append, hsent, h.txCount, List.take_zero]
    rfl
  · rw [h.txCount]
    exact Nat.zero_le _
  · rw [h.txCount]
    exact lt_of_lt_of_le (by decide) hheader

end Stages

/-! ## The functions -/

namespace CTCPStunThread

section Functions

variable {P : Type} {cfg : TcpConfig} {I : IPolling P} {c : ConnId} {conn₀ : StunConnection}

/-- A function goes on with a log and ends with the connection at a stage, as long as `send` does
not take more than it is given. -/
def Leads (c : ConnId) (conn₀ : StunConnection) (log : ConnectionLog)
    (r : Option (CTCPStunThread P cfg × ConnectionLog)) : Prop :=
  ∀ t' log', r = some (t', log') → log <+: log' ∧
    (log'.Legal → ConnectionStage cfg conn₀ log' (t'.connectionpool.deref c))

variable {log : ConnectionLog} {t : CTCPStunThread P cfg} {conn : StunConnection}
  {r : Option (CTCPStunThread P cfg × ConnectionLog)}

/-- A step that goes on with a log leads where it leads from the whole log. -/
theorem Leads.of_append (log₁ : ConnectionLog) (h : Leads c conn₀ (log ++ log₁) r) :
    Leads c conn₀ log r := by
  intro t' log' hr
  obtain ⟨hgrows, hstage⟩ := h t' log' hr
  exact ⟨(List.prefix_append log log₁).trans hgrows, hstage⟩

/-- When nothing else is done the connection stays at its stage. -/
theorem leads_done (h : log.Legal → ConnectionStage cfg conn₀ log (t.connectionpool.deref c)) :
    Leads c conn₀ log (some (t, log)) := by
  rintro t' log' ⟨⟩
  exact ⟨List.prefix_refl _, h⟩

/-- A connection that was closed is not given out. -/
theorem deref_closeConnection {t' : CTCPStunThread P cfg} (h : t.closeConnection I c = some t') :
    t'.connectionpool.deref c = none := by
  unfold closeConnection at h
  obtain ⟨conn, -, h⟩ := Option.bind_eq_some_iff.mp h
  obtain ⟨pool, hpool, h⟩ := Option.bind_eq_some_iff.mp h
  unfold CConnectionPool.releaseConnection at hpool
  split_ifs at hpool
  cases hpool
  cases h
  exact if_pos List.mem_cons_self

/-- Closing a connection leads it to its end. -/
theorem leads_close (h : log.Legal → ExactlyOnce cfg conn₀ log) :
    Leads c conn₀ log (t.closeLogged I c log) := by
  intro t' log' hr
  obtain ⟨t₁, hclose, heq⟩ := Option.map_eq_some_iff.mp hr
  cases heq
  refine ⟨List.prefix_refl _, fun hlegal => ?_⟩
  rw [deref_closeConnection hclose]
  exact .ended (h hlegal)

/-- The loop of `ConsumeRemoteClose` leads a connection that is closing to a stage. -/
theorem leads_consumeLoop (recvs : List RecvResult) (hc : t.connectionpool.deref c = some conn)
    (h : log.Legal → AtClosing cfg conn₀ log conn) :
    Leads c conn₀ log (t.consumeLoopLogged I c recvs log) := by
  have hclose : Leads c conn₀ log (t.closeLogged I c log) :=
    leads_close fun hlegal => (h hlegal).exactlyOnce
  have hdone : Leads c conn₀ log (some (t, log)) :=
    leads_done fun hlegal => hc ▸ .closing (h hlegal)
  -- The connection stays as it is, and only the log goes on.
  induction recvs generalizing log with
  | nil => exact hdone
  | cons recv recvs ih =>
    match recv with
    | .wouldBlock => exact hdone
    | .failed => exact hclose
    | .octets [] => exact hclose
    | .octets (b :: bs) =>
      apply Leads.of_append
      apply ih
      · exact fun hlegal => (h hlegal.of_append).discards _
      · exact leads_close fun hlegal => ((h hlegal.of_append).discards _).exactlyOnce
      · exact leads_done fun hlegal => hc ▸ .closing ((h hlegal.of_append).discards _)

/-- `ConsumeRemoteClose` leads a connection that is closing to a stage. -/
theorem leads_consumeRemoteClose (recvs : List RecvResult)
    (hc : t.connectionpool.deref c = some conn) (h : log.Legal → AtClosing cfg conn₀ log conn) :
    Leads c conn₀ log (t.consumeRemoteCloseLogged I c recvs log) := by
  unfold consumeRemoteCloseLogged
  rw [hc]
  exact leads_consumeLoop recvs hc h

/-- The end of `WriteBytesForConnection` leads a connection that has sent all to a stage. -/
theorem leads_finishResponse (recvs : List RecvResult) (hc : t.connectionpool.deref c = some conn)
    (h : log.Legal → AtSending cfg conn₀ log conn)
    (hall : conn.txCount ≥ conn.spOutputBuffer.size) :
    Leads c conn₀ log (t.finishResponseLogged I c recvs log) := by
  unfold finishResponseLogged
  rw [hc]
  dsimp only [Option.bind_eq_bind, Option.bind_some]
  have hnext : ConnectionLog.Legal (log ++ [.enters .closing]) →
      AtClosing cfg conn₀ (log ++ [.enters .closing]) { conn with state := .closing } :=
    fun hlegal => (h hlegal.of_append).finishes hall
  apply Leads.of_append
  split_ifs
  · exact leads_close fun hlegal => (hnext hlegal).exactlyOnce
  · apply leads_consumeRemoteClose recvs _ hnext
    exact deref_setConn hc _

/-- The loop of `WriteBytesForConnection` leads a connection that is transmitting to a stage. -/
theorem leads_writeLoop (recvs : List RecvResult) (sends : List SendResult)
    (hc : t.connectionpool.deref c = some conn)
    (h : log.Legal → AtTransmitting cfg conn₀ log conn) {bytestotal : ℕ}
    (htotal : conn.spOutputBuffer.size = bytestotal) :
    Leads c conn₀ log (t.writeLoopLogged I c bytestotal recvs sends log) := by
  -- Each answer of `send` that takes some of the octets moves `_txCount`, so the connection changes
  -- too.
  induction sends generalizing t log conn with
  | nil =>
    unfold writeLoopLogged
    rw [hc, ← htotal]
    apply Leads.of_append
    exact leads_done fun hlegal => hc ▸ .transmitting (h hlegal.of_append).attempts
  | cons send sends ih =>
    unfold writeLoopLogged
    rw [hc, ← htotal]
    dsimp only [Option.bind_eq_bind, Option.bind_some]
    have hnext : ConnectionLog.Legal
          (log ++ [.attempts conn.state conn.spOutputBuffer.size conn.txCount]) →
        AtTransmitting cfg conn₀
          (log ++ [.attempts conn.state conn.spOutputBuffer.size conn.txCount]) conn :=
      fun hlegal => (h hlegal.of_append).attempts
    refine Leads.of_append [.attempts conn.state conn.spOutputBuffer.size conn.txCount] ?_
    generalize log ++ [_] = log at hnext ⊢
    cases send with
    | wouldBlock => exact leads_done fun hlegal => hc ▸ .transmitting (hnext hlegal)
    | failed => exact leads_close fun hlegal => (hnext hlegal).exactlyOnce
    | sent n =>
      -- When `send` takes more than it is given, nothing is promised from then on.
      have hsent : ConnectionLog.Legal
            (log ++ [.sends (conn.spOutputBuffer.size - conn.txCount) n
                ((conn.spOutputBuffer.data.drop conn.txCount).take n),
              .counts conn.spOutputBuffer.size (conn.txCount + n)]) →
          AtSending cfg conn₀
            (log ++ [.sends (conn.spOutputBuffer.size - conn.txCount) n
                ((conn.spOutputBuffer.data.drop conn.txCount).take n),
              .counts conn.spOutputBuffer.size (conn.txCount + n)])
            { conn with txCount := conn.txCount + n } :=
        fun hlegal => (hnext hlegal.of_append).sends
          (hlegal _ (List.mem_append_right _ List.mem_cons_self))
      dsimp only
      split_ifs with hzero hall
      · exact leads_close fun hlegal => (hnext hlegal).exactlyOnce
      · apply Leads.of_append
        exact leads_finishResponse recvs (deref_setConn hc _) hsent hall
      · apply Leads.of_append
        -- Some octets are left, and the loop goes round.
        rw [htotal] at hsent hall ⊢
        apply ih (deref_setConn hc _) (fun hlegal => ⟨hsent hlegal, ?_⟩) htotal
        exact htotal.symm ▸ not_le.mp hall

/-- `WriteBytesForConnection` leads a connection that is transmitting to a stage. -/
theorem leads_writeBytesForConnection (recvs : List RecvResult) (sends : List SendResult)
    (hc : t.connectionpool.deref c = some conn)
    (h : log.Legal → AtTransmitting cfg conn₀ log conn) :
    Leads c conn₀ log (t.writeBytesForConnectionLogged I c recvs sends log) := by
  unfold writeBytesForConnectionLogged
  rw [hc]
  exact leads_writeLoop recvs sends hc h rfl

/-- The answer to a whole message leads a connection that is receiving to a stage. -/
theorem leads_respond (h₀ : conn₀.JustAccepted) (recvs : List RecvResult) (sends : List SendResult)
    (hc : t.connectionpool.deref c = some conn) (h : log.Legal → AtReceiving conn₀ log conn) :
    Leads c conn₀ log (t.respondLogged I c recvs sends log) := by
  unfold respondLogged
  rw [hc]
  dsimp only [Option.bind_eq_bind, Option.bind_some]
  split
  -- `ProcessRequest` fails, and nothing is sent.
  next => exact leads_close fun hlegal => (h hlegal).exactlyOnce
  next msgOut hrun =>
    have hnext := fun (hlegal : ConnectionLog.Legal (log ++
        [.answers (msgOut.spBufferOut.getD conn.spOutputBuffer).contents,
          .enters .transmitting])) =>
      (h hlegal.of_append).answers h₀ hrun
    apply Leads.of_append
    split_ifs
    · exact leads_close fun hlegal => (hnext hlegal).exactlyOnce
    · exact leads_writeBytesForConnection recvs sends (deref_setConn hc _) hnext

/-- `ReceiveBytesForConnection` leads a connection that is receiving to a stage. -/
theorem leads_receiveBytesForConnection (h₀ : conn₀.JustAccepted) (sends : List SendResult)
    (recvs : List RecvResult) (hc : t.connectionpool.deref c = some conn)
    (h : log.Legal → AtReceiving conn₀ log conn) :
    Leads c conn₀ log (t.receiveBytesForConnectionLogged I c sends recvs log) := by
  have hclose : Leads c conn₀ log (t.closeLogged I c log) :=
    leads_close fun hlegal => (h hlegal).exactlyOnce
  have hdone : Leads c conn₀ log (some (t, log)) :=
    leads_done fun hlegal => hc ▸ .receiving (h hlegal)
  -- The loop leaves the stage only with a whole message, by `respondLogged`.
  induction recvs generalizing t log conn with
  | nil =>
    unfold receiveBytesForConnectionLogged
    rw [hc]
    dsimp only [Option.bind_eq_bind, Option.bind_some]
    split_ifs
    · exact hclose
    · exact hdone
  | cons recv recvs ih =>
    unfold receiveBytesForConnectionLogged
    rw [hc]
    dsimp only [Option.bind_eq_bind, Option.bind_some]
    split
    · exact hclose
    cases recv with
    | wouldBlock => exact hdone
    | failed => exact hclose
    | octets bs =>
      have hbuffer : (bs.take conn.reader.howManyBytesNeeded.toNat).length ≤
          conn.reader.howManyBytesNeeded.toNat := by
        rw [List.length_take]
        exact min_le_left _ _
      have hnext := fun (hlegal : ConnectionLog.Legal
          (log ++ [.interprets (bs.take conn.reader.howManyBytesNeeded.toNat)])) =>
        (h hlegal.of_append).interprets hbuffer
      dsimp only
      -- The peer has closed, or the reader finds an error, or has a whole message, or needs more.
      split_ifs
      · exact hclose
      · apply Leads.of_append
        exact leads_close fun hlegal => (hnext hlegal).exactlyOnce
      · apply Leads.of_append
        exact leads_respond h₀ recvs sends (deref_setConn hc _) hnext
      · apply Leads.of_append
        have hc' := deref_setConn (t := t) hc { conn with
          reader := (conn.reader.addBytes (bs.take conn.reader.howManyBytesNeeded.toNat)).2 }
        apply ih hc' hnext
        · exact leads_close fun hlegal => (hnext hlegal).exactlyOnce
        · exact leads_done fun hlegal => hc' ▸ .receiving (hnext hlegal)

/-- `ProcessConnectionEvent` leads a connection from one stage to another. -/
theorem leads_serve (h₀ : conn₀.JustAccepted) (recvs : List RecvResult) (sends : List SendResult)
    (h : log.Legal → ConnectionStage cfg conn₀ log (t.connectionpool.deref c)) :
    Leads c conn₀ log (t.serveLogged I c recvs sends log) := by
  unfold serveLogged
  cases hc : t.connectionpool.deref c with
  | none =>
    rintro t' log' ⟨⟩
  | some conn =>
    rw [hc] at h
    dsimp only [Option.bind_eq_bind, Option.bind_some]
    cases hstate : conn.state with
    | receiving =>
      exact leads_receiveBytesForConnection h₀ sends recvs hc fun hlegal =>
        (h hlegal).atReceiving hstate
    | transmitting =>
      exact leads_writeBytesForConnection recvs sends hc fun hlegal =>
        (h hlegal).atTransmitting hstate
    | closing => exact leads_consumeRemoteClose recvs hc fun hlegal => (h hlegal).atClosing hstate
    | idle => exact leads_done fun hlegal => hc ▸ h hlegal

end Functions

/-! ## The other connections -/

section Others

variable {P : Type} {cfg : TcpConfig} {I : IPolling P} {c c' : ConnId} {t t' : CTCPStunThread P cfg}
  {log log' : ConnectionLog}

/-- `CloseConnection` leaves the other connections as they are. -/
theorem deref_closeConnection_of_ne (h : t.closeConnection I c = some t') (hne : c' ≠ c) :
    t'.connectionpool.deref c' = t.connectionpool.deref c' := by
  unfold closeConnection at h
  obtain ⟨conn, -, h⟩ := Option.bind_eq_some_iff.mp h
  obtain ⟨pool, hpool, h⟩ := Option.bind_eq_some_iff.mp h
  rw [removeHinted_eq] at hpool
  unfold CConnectionPool.releaseConnection at hpool
  split_ifs at hpool
  cases hpool
  cases h
  calc CConnectionPool.deref c' _
      = (t.connectionpool.set c { conn with
          stunsocket := (conn.stunsocket.close t.descriptors).1 }).deref c' := by
        unfold CConnectionPool.deref
        simp only [List.mem_cons, hne, false_or]
        rfl
    _ = t.connectionpool.deref c' := CConnectionPool.deref_set_of_ne hne _

/-- What is done to a connection leaves the others as they are. -/
theorem Touches.deref_of_ne (h : Touches I c t t') (hne : c' ≠ c) :
    t'.connectionpool.deref c' = t.connectionpool.deref c' := by
  induction h with
  | refl t => rfl
  | write _ _ _ _ ih => exact ih.trans (CConnectionPool.deref_set_of_ne hne _)
  | poll fd _ ih => exact ih

/-- A function that serves a connection leaves the others as they are. -/
theorem Serves.deref_of_ne {r : Option (CTCPStunThread P cfg)} (h : Serves I c t r)
    (hr : r = some t') (hne : c' ≠ c) :
    t'.connectionpool.deref c' = t.connectionpool.deref c' := by
  obtain ⟨t₁, htouches, hend⟩ := h
  rcases hend with hend | hend
  · cases hr.symm.trans hend
    exact htouches.deref_of_ne hne
  · exact (deref_closeConnection_of_ne (hend.symm.trans hr) hne).trans (htouches.deref_of_ne hne)

/-- `ReceiveBytesForConnection` leaves the others as they are. -/
theorem deref_receiveLogged_of_ne {conn : StunConnection}
    (hc : t.connectionpool.deref c = some conn) {recvs : List RecvResult} {sends : List SendResult}
    (h : t.receiveBytesForConnectionLogged I c sends recvs log = some (t', log')) (hne : c' ≠ c) :
    t'.connectionpool.deref c' = t.connectionpool.deref c' := by
  refine (receiveBytesForConnection_serves I hc sends recvs).deref_of_ne ?_ hne
  rw [receiveBytesForConnection_eq_map I c sends recvs log, h]
  rfl

/-- `ProcessConnectionEvent` leaves the others as they are. -/
theorem deref_serveLogged_of_ne {recvs : List RecvResult} {sends : List SendResult}
    (h : t.serveLogged I c recvs sends log = some (t', log')) (hne : c' ≠ c) :
    t'.connectionpool.deref c' = t.connectionpool.deref c' := by
  unfold serveLogged at h
  obtain ⟨conn, hc, h⟩ := Option.bind_eq_some_iff.mp h
  cases hstate : conn.state with
  | receiving =>
    rw [hstate] at h
    exact deref_receiveLogged_of_ne hc h hne
  | transmitting =>
    rw [hstate] at h
    refine (writeBytesForConnection_serves I hc recvs sends).deref_of_ne ?_ hne
    rw [writeBytesForConnection_eq_map I c recvs sends log]
    exact congrArg (Option.map Prod.fst) h
  | closing =>
    rw [hstate] at h
    refine (consumeRemoteClose_serves I hc recvs).deref_of_ne ?_ hne
    rw [consumeRemoteClose_eq_map I c recvs log]
    exact congrArg (Option.map Prod.fst) h
  | idle =>
    rw [hstate] at h
    cases h
    rfl

end Others

/-! ## What is accepted -/

/-- `GetConnection` takes a connection that was not given out, and leaves the others as they are. -/
theorem deref_getConnection {sock : ℤ} {role : SocketRole} {addrlocal addrremote : CSocketAddress}
    {memory : ℕ} {pool pool' : CConnectionPool} {descriptors descriptors' : List ℤ}
    {found : Option ConnId}
    (h : pool.getConnection sock role addrlocal addrremote memory descriptors =
      (found, pool', descriptors')) :
    (∀ c, found = some c → pool.deref c = none) ∧
    ∀ c', found ≠ some c' → pool'.deref c' = pool.deref c' := by
  -- The connections that a pool grows by are on the free list.
  obtain ⟨grown, hgrown, hderef⟩ : ∃ grown,
      (if pool.freelist = [] then pool.grow (min memory CConnectionPool.c_growrate) else pool) =
        grown ∧ ∀ c, grown.deref c = pool.deref c := by
    split
    · exact ⟨_, rfl, CConnectionPool.deref_grow _ pool⟩
    · exact ⟨_, rfl, fun _ => rfl⟩
  unfold CConnectionPool.getConnection at h
  rw [hgrown] at h
  dsimp only at h
  cases hfree : grown.freelist with
  | nil =>
    rw [hfree] at h
    cases h
    exact ⟨fun c hc => (by cases hc), fun c' _ => hderef c'⟩
  | cons c rest =>
    rw [hfree] at h
    cases h
    constructor
    · rintro _ ⟨⟩
      rw [← hderef c]
      exact if_pos (hfree ▸ List.mem_cons_self)
    · intro c' hne
      have hne : c' ≠ c := fun heq => hne (heq ▸ rfl)
      rw [← hderef c']
      unfold CConnectionPool.deref
      rw [hfree, List.getElem?_set_ne hne.symm]
      simp only [List.mem_cons, hne, false_or]

section Accepted

variable {P : Type} {cfg : TcpConfig} {I : IPolling P} {c : ConnId} {t t' : CTCPStunThread P cfg}
  {found : Option ConnId}

/-- What `AcceptConnection` does to the connections: it gives one that was not given out, as it was
accepted, or none, and leaves the others as they are. -/
structure Accepting (t t' : CTCPStunThread P cfg) (found : Option ConnId) : Prop where
  others : ∀ c', found ≠ some c' → t'.connectionpool.deref c' = t.connectionpool.deref c'
  accepted : ∀ c, found = some c → ∃ conn₀, t'.connectionpool.deref c = some conn₀ ∧
    conn₀.JustAccepted

/-- A connection that was not given out before is given up. -/
theorem accepts_giveUp {u : CTCPStunThread P cfg} (hnone : t.connectionpool.deref c = none)
    (hothers : ∀ c' ≠ c, u.connectionpool.deref c' = t.connectionpool.deref c')
    (h : ((u.closeConnection I c).bind fun t => some ((none : Option ConnId), t)) =
      some (found, t')) : Accepting t t' found := by
  obtain ⟨t₂, hclose, h⟩ := Option.bind_eq_some_iff.mp h
  cases h
  refine ⟨fun c' _ => ?_, fun _ hc => (by cases hc)⟩
  by_cases hc' : c' = c
  -- It is where it was before, on the free list.
  · rw [hc', deref_closeConnection hclose, hnone]
  · exact (deref_closeConnection_of_ne hclose hc').trans (hothers c' hc')

/-- The part of `AcceptConnection` that puts a connection into the tables gives it as it was
prepared, or none. -/
theorem accepts_track {u : CTCPStunThread P cfg} {clientsock : ℤ}
    (hnone : t.connectionpool.deref c = none)
    (hothers : ∀ c' ≠ c, u.connectionpool.deref c' = t.connectionpool.deref c')
    (hprepared : ∀ conn, u.connectionpool.deref c = some conn → ∀ idHashTable : ℤ,
      StunConnection.JustAccepted { conn with idHashTable := idHashTable })
    (h : u.track I c clientsock = some (found, t')) : Accepting t t' found := by
  unfold track at h
  obtain ⟨conn, hc, h⟩ := Option.bind_eq_some_iff.mp h
  have hset : ∀ c' ≠ c, (u.setConn c { conn with
      idHashTable := u.pNewConnList.hint }).connectionpool.deref c' = t.connectionpool.deref c' :=
    fun c' hne => (CConnectionPool.deref_set_of_ne hne _).trans (hothers c' hne)
  dsimp only at h
  split_ifs at h
  · exact accepts_giveUp (u := { (u.setConn c _).setTable _ _ with inserts := _ }) hnone hset h
  · cases h
    refine ⟨fun c' hne => hset c' fun heq => hne (heq ▸ rfl), ?_⟩
    rintro _ ⟨⟩
    exact ⟨_, deref_setConn hc _, hprepared conn hc _⟩

/-- `AcceptConnection` gives a connection as it was accepted, or none, and leaves the others as they
are. -/
theorem accepts_acceptConnection (ht : t.connectionpool.Reusable) {role : SocketRole}
    {a : AcceptAnswer} (h : t.acceptConnection I role a = some (found, t')) :
    Accepting t t' found := by
  unfold acceptConnection at h
  dsimp only at h
  split at h
  · -- `accept` fails.
    cases h
    exact ⟨fun _ _ => rfl, fun _ hc => (by cases hc)⟩
  split at h
  next pool descriptors hget =>
    -- There is no memory for the connection.
    cases h
    exact ⟨fun c' _ => (deref_getConnection hget).2 c' nofun, fun _ hc => (by cases hc)⟩
  next c pool descriptors hget =>
    obtain ⟨hnone, hothers⟩ := deref_getConnection hget
    have hothers' : ∀ c' ≠ c, pool.deref c' = t.connectionpool.deref c' :=
      fun c' hne => hothers c' fun heq => hne (Option.some.inj heq).symm
    -- The socket cannot be set up, the polling does not take it, or the connection is put into the
    -- tables.
    split_ifs at h
    · exact accepts_giveUp (u := { t with connectionpool := pool, descriptors := descriptors })
        (hnone c rfl) hothers' h
    · exact accepts_giveUp (u := { t with
        connectionpool := pool, descriptors := descriptors, spPolling :=
          _ }) (hnone c rfl) hothers' h
    · refine accepts_track (u := { t with
        connectionpool := pool, descriptors := descriptors, spPolling := _ }) (hnone c rfl) hothers'
        (fun conn hc idHashTable => ?_) h
      obtain ⟨conn₁, hgood, rfl⟩ := (ht.getConnection hget).2 c rfl conn hc
      exact hgood.justAccepted _ role a.addrlocal a.addrremote _ idHashTable

end Accepted

/-! ## Runs -/

section Runs

variable {P : Type} {cfg : TcpConfig} {I : IPolling P} {t t' : CTCPStunThread P cfg}
  {history history' : History}

/-- The history of a thread: each connection that is given out has one, and is at a stage. -/
structure Tracked (history : History) (t : CTCPStunThread P cfg) : Prop where
  reusable : t.connectionpool.Reusable
  unborn : ∀ c, history c = none → t.connectionpool.deref c = none
  justAccepted : ∀ c x, history c = some x → x.1.JustAccepted
  stage : ∀ c x, history c = some x → x.2.Legal →
    ConnectionStage cfg x.1 x.2 (t.connectionpool.deref c)

namespace Tracked

variable (h : Tracked history t)
include h

/-- Every connection stays tracked when none is written. -/
theorem congr (hpool : t'.connectionpool = t.connectionpool) : Tracked history t' where
  reusable := hpool ▸ h.reusable
  unborn := hpool ▸ h.unborn
  justAccepted := h.justAccepted
  stage := hpool ▸ h.stage

/-- Every connection stays tracked when one is written and is at a stage of its log. -/
theorem update {c : ConnId} {x : StunConnection × ConnectionLog}
    (hreusable : t'.connectionpool.Reusable)
    (hothers : ∀ c' ≠ c, t'.connectionpool.deref c' = t.connectionpool.deref c')
    (hx : x.1.JustAccepted)
    (hstage : x.2.Legal → ConnectionStage cfg x.1 x.2 (t'.connectionpool.deref c)) :
    Tracked (Function.update history c (some x)) t' where
  reusable := hreusable
  unborn := by
    intro c' hc'
    by_cases heq : c' = c
    · rw [heq, Function.update_self] at hc'
      cases hc'
    · rw [Function.update_of_ne heq] at hc'
      exact (hothers c' heq).trans (h.unborn c' hc')
  justAccepted := by
    intro c' y hc'
    by_cases heq : c' = c
    · rw [heq, Function.update_self] at hc'
      cases hc'
      exact hx
    · rw [Function.update_of_ne heq] at hc'
      exact h.justAccepted c' y hc'
  stage := by
    intro c' y hc' hlegal
    by_cases heq : c' = c
    · rw [heq, Function.update_self] at hc'
      cases hc'
      exact heq ▸ hstage hlegal
    · rw [Function.update_of_ne heq] at hc'
      exact (hothers c' heq).symm ▸ h.stage c' y hc' hlegal

/-- `CloseConnection` keeps every connection tracked by its log. -/
theorem closeConnection {c : ConnId} (hclose : t.closeConnection I c = some t') :
    Tracked history t' where
  reusable := keepsReusable_closeConnection h.reusable c t' hclose
  unborn := by
    intro c' hc'
    by_cases heq : c' = c
    · exact heq ▸ deref_closeConnection hclose
    · exact (deref_closeConnection_of_ne hclose heq).trans (h.unborn c' hc')
  justAccepted := h.justAccepted
  stage := by
    intro c' x hc' hlegal
    by_cases heq : c' = c
    · rw [heq, deref_closeConnection hclose]
      exact .ended (h.stage c' x hc' hlegal).exactlyOnce
    · exact (deref_closeConnection_of_ne hclose heq).symm ▸ h.stage c' x hc' hlegal

/-- `CloseAllConnections` keeps every connection tracked by its log. -/
theorem closeAllConnections {id : TableId} {rounds : ℕ}
    (hclose : t.closeAllConnections I id rounds = some t') : Tracked history t' := by
  induction rounds generalizing t with
  | zero => cases hclose
  | succ rounds ih =>
    unfold CTCPStunThread.closeAllConnections at hclose
    dsimp only at hclose
    split at hclose
    · cases hclose
      exact h.congr rfl
    · obtain ⟨t₁, ht₁, hclose⟩ := Option.bind_eq_some_iff.mp hclose
      have hsearched : Tracked history (t.setTable id ((t.hashConnections id).lookupByIndex 0).2) :=
        h.congr rfl
      exact ih (hsearched.closeConnection ht₁) hclose

/-- `SweepDeadConnections` keeps every connection tracked by its log. -/
theorem sweepDeadConnections {timeCurrent timeSwept : ℤ}
    (hsweep : t.sweepDeadConnections I timeCurrent timeSwept = some t') : Tracked history t' := by
  unfold CTCPStunThread.sweepDeadConnections at hsweep
  split_ifs at hsweep
  · obtain ⟨t₁, ht₁, hsweep⟩ := Option.bind_eq_some_iff.mp hsweep
    cases hsweep
    exact (h.closeAllConnections ht₁).congr rfl
  · cases hsweep
    exact h

/-- `ProcessConnectionEvent` keeps every connection tracked by its log. -/
theorem processConnectionEvent {sock : ℤ} {recvs : List RecvResult} {sends : List SendResult}
    (hprocess : t.processConnectionEventLogged I sock recvs sends history = some (t', history')) :
    Tracked history' t' := by
  have hreusable : t'.connectionpool.Reusable := by
    refine keepsReusable_processConnectionEvent (I := I) h.reusable sock recvs sends t' ?_
    rw [processConnectionEvent_eq_map I sock recvs sends history, hprocess]
    rfl
  unfold processConnectionEventLogged at hprocess
  split at hprocess
  · cases hprocess
    exact h
  next c _ =>
    obtain ⟨⟨t₁, log⟩, hserve, hprocess⟩ := Option.bind_eq_some_iff.mp hprocess
    cases hprocess
    have hothers := fun c' (hne : c' ≠ c) => deref_serveLogged_of_ne hserve hne
    cases hc : history c with
    | none =>
      -- There is no connection to be served.
      unfold serveLogged at hserve
      rw [h.unborn c hc] at hserve
      cases hserve
    | some x =>
      rw [hc] at hserve
      rw [History.goesOn, hc]
      have hx := h.justAccepted c x hc
      have hleads := leads_serve (I := I) hx recvs sends (h.stage c x hc)
      exact h.update hreusable hothers hx (hleads t' log hserve).2

/-- Handling an event in `Run` keeps every connection tracked by its log. -/
theorem handleEvent {fd : ℤ} {i : RoundInput}
    (hhandle : t.handleEventLogged I fd i history = some (t', history')) : Tracked history' t' := by
  have hreusable : t'.connectionpool.Reusable := by
    refine keepsReusable_handleEvent (I := I) h.reusable fd i t' ?_
    rw [handleEvent_eq_map I fd i history, hhandle]
    rfl
  unfold handleEventLogged at hhandle
  split at hhandle
  · obtain ⟨⟨found, t₁⟩, haccept, hhandle⟩ := Option.bind_eq_some_iff.mp hhandle
    have hreusable₁ : t₁.connectionpool.Reusable :=
      keepsReusable_acceptConnection (I := I) h.reusable _ i.accept t₁ (by rw [haccept]; rfl)
    obtain ⟨hothers, haccepted⟩ := accepts_acceptConnection h.reusable haccept
    cases found with
    | none =>
      -- The histories stay as they are, and so does what they say of the connections.
      cases hhandle
      refine ⟨hreusable, fun c hc => ?_, h.justAccepted, fun c x hc => ?_⟩
      · exact (hothers c nofun).trans (h.unborn c hc)
      · exact (hothers c nofun).symm ▸ h.stage c x hc
    | some c =>
      -- The new connection starts a history and reads at once.
      obtain ⟨conn₀, hconn₀, h₀⟩ := haccepted c rfl
      dsimp only at hhandle
      rw [hconn₀] at hhandle
      dsimp only [Option.bind_eq_bind, Option.bind_some] at hhandle
      obtain ⟨⟨t₂, log⟩, hreceive, hhandle⟩ := Option.bind_eq_some_iff.mp hhandle
      cases hhandle
      have hleads := leads_receiveBytesForConnection (I := I) h₀ i.sends i.recvs hconn₀
        fun _ => h₀.atReceiving
      refine h.update hreusable (fun c' hne => ?_) h₀ (hleads t₂ log hreceive).2
      calc t₂.connectionpool.deref c'
          = t₁.connectionpool.deref c' := deref_receiveLogged_of_ne hconn₀ hreceive hne
        _ = t.connectionpool.deref c' := hothers c' fun heq => hne (Option.some.inj heq).symm
  · exact h.processConnectionEvent hhandle

/-- A round of `Run` keeps every connection tracked by its log. -/
theorem round {i : RoundInput} {goesOn : Bool}
    (hround : t.roundLogged I i history = some ((t', history'), goesOn)) : Tracked history' t' := by
  have hwait : Tracked history (t.awaited I).2 := by
    refine h.congr ?_
    unfold awaited
    rw [setListenSocketsOnEpoll_eq]
  unfold roundLogged at hround
  dsimp only at hround
  split_ifs at hround with hexit hstop hok
  · cases hround
    exact h
  · -- The thread is to exit after the wait.
    cases hround
    exact hwait
  · obtain ⟨⟨t₁, history₁⟩, hhandle, hround⟩ := Option.bind_eq_some_iff.mp hround
    obtain ⟨t₂, hsweep, hround⟩ := Option.bind_eq_some_iff.mp hround
    cases hround
    exact (hwait.handleEvent hhandle).sweepDeadConnections hsweep
  · dsimp only [Option.bind_eq_bind, Option.bind_some] at hround
    obtain ⟨t₂, hsweep, hround⟩ := Option.bind_eq_some_iff.mp hround
    cases hround
    exact hwait.sweepDeadConnections hsweep

/-- `Run` keeps every connection tracked by its log. -/
theorem run {inputs : List RoundInput}
    (hrun : t.runLogged I inputs history = some (t', history')) : Tracked history' t' := by
  induction inputs generalizing t history with
  | nil =>
    cases hrun
    exact h
  | cons i rest ih =>
    unfold runLogged at hrun
    obtain ⟨⟨⟨t₁, history₁⟩, goesOn⟩, hround, hrun⟩ := Option.bind_eq_some_iff.mp hrun
    dsimp only at hrun
    split_ifs at hrun
    · exact ih (h.round hround) hrun
    · cases hrun
      exact h.round hround

end Tracked

/-- The history of a thread that has not run. -/
def noHistory : History := fun _ => none

/-- Before the loop there are no connections. -/
theorem tracked_init (spPolling : P) (socketTable : SocketRole → ℤ) (pipe : ℤ)
    (descriptors : List ℤ) (time : ℤ) : Tracked noHistory
      (init I (start spPolling socketTable pipe descriptors time : CTCPStunThread P cfg)) := by
  have hstart : Tracked noHistory
      (start spPolling socketTable pipe descriptors time : CTCPStunThread P cfg) := by
    refine ⟨fun conn hconn => absurd hconn List.not_mem_nil, ?_, ?_, ?_⟩
    · simp [start, CConnectionPool.deref]
    · simp [noHistory]
    · simp [noHistory]
  refine hstart.congr ?_
  unfold init
  rw [setListenSocketsOnEpoll_eq]

/-- In every run of the thread, whatever the system answers, each connection that was accepted has
been fed the first message of its peer at most, has one response at most, which is the one to that
message, and has sent its octets in their order, as long as `send` has never taken more than it was
given; and a connection that is open says of itself how far it is. -/
theorem response_sent_once (spPolling : P) (socketTable : SocketRole → ℤ) (pipe : ℤ)
    (descriptors : List ℤ) (time : ℤ) (inputs : List RoundInput) :
    ∃ (t : CTCPStunThread P cfg) (history : History),
      runLogged I inputs noHistory
        (init I (start spPolling socketTable pipe descriptors time)) = some (t, history) ∧
      run I inputs (init I (start spPolling socketTable pipe descriptors time)) = some t ∧
      (∀ c conn, t.connectionpool.deref c = some conn → ∃ x, history c = some x) ∧
      ∀ c conn₀ log, history c = some (conn₀, log) → log.Legal →
        ExactlyOnce cfg conn₀ log ∧
        ∀ conn, t.connectionpool.deref c = some conn → InStep log conn := by
  obtain ⟨t, hrun, -⟩ := @run_accounted P cfg I spPolling socketTable pipe descriptors time inputs
  have hmap := hrun
  rw [run_eq_map I inputs noHistory] at hmap
  obtain ⟨⟨t', history⟩, hlogged, heq⟩ := Option.map_eq_some_iff.mp hmap
  cases heq
  have htracked := (tracked_init (I := I) spPolling socketTable pipe descriptors time).run hlogged
  refine ⟨t', history, hlogged, hrun, fun c conn hc => ?_, fun c conn₀ log hc hlegal => ?_⟩
  · -- A connection without a history was never given out.
    refine Option.ne_none_iff_exists'.mp fun hnone => ?_
    rw [htracked.unborn c hnone] at hc
    cases hc
  · have hstage := htracked.stage c _ hc hlegal
    exact ⟨hstage.exactlyOnce, fun conn hconn => (hconn ▸ hstage).inStep⟩

/-- A round in which the connection with descriptor 10 is accepted or has an event. -/
def eventRound (recvs : List RecvResult) (sends : List SendResult) : RoundInput :=
  { acceptRound 10 1 with recvs := recvs, sends := sends }

/-- A binding request that comes in two pieces, with octets behind it, and a response of 44 octets
that goes out in three. -/
def threePieces : List RoundInput :=
  [eventRound [.octets (CStunRequestHandler.bindingRequest.take 10)] [],
    eventRound [.octets (CStunRequestHandler.bindingRequest.drop 10)] [.sent 9, .wouldBlock],
    eventRound [.octets [7, 8], .wouldBlock] [.sent 12, .sent 23]]

/-- The thread before these rounds. -/
def piecesThread : CTCPStunThread CEpoll twoConnections :=
  init CEpoll.polling (start (CEpoll.initialize_ 7 [some [3], some [10], some [10]])
    twoListening.socketTable 5 [3, 4, 5] 0)

/-- The request is read to its end and no further, and what is sent is the one response. -/
theorem response_sent_once_threePieces :
    ∃ t history conn₀ log, runLogged CEpoll.polling threePieces noHistory piecesThread =
        some (t, history) ∧ history 0 = some (conn₀, log) ∧
      ExactlyOnce twoConnections conn₀ log ∧
      log.interpreted = CStunRequestHandler.bindingRequest ∧ log.responses = [log.sent] ∧
      log.states = [.transmitting, .closing] := by
  obtain ⟨t, history, hlogged, -, -, honce⟩ := @response_sent_once CEpoll
    twoConnections CEpoll.polling (CEpoll.initialize_ 7 [some [3], some [10], some [10]])
    twoListening.socketTable 5 [3, 4, 5] 0 threePieces
  have hpieces : ((runLogged CEpoll.polling threePieces noHistory piecesThread).bind
      fun x => x.2 0).map (fun x => (x.2.interpreted, x.2.responses == [x.2.sent], x.2.states,
        decide (∀ e ∈ x.2, e.Legal))) =
      some (CStunRequestHandler.bindingRequest, true, [.transmitting, .closing], true) := by
    decide +kernel
  change runLogged CEpoll.polling threePieces noHistory piecesThread = _ at hlogged
  rw [hlogged, Option.bind_some] at hpieces
  obtain ⟨⟨conn₀, log⟩, hconnection, hlog⟩ := Option.map_eq_some_iff.mp hpieces
  simp only [Prod.mk.injEq, beq_iff_eq, decide_eq_true_eq] at hlog
  obtain ⟨hinterpreted, hresponses, hstates, hlegal⟩ := hlog
  exact ⟨t, history, conn₀, log, hlogged, hconnection, (honce 0 conn₀ log hconnection hlegal).1,
    hinterpreted, hresponses, hstates⟩

end Runs

end CTCPStunThread

end Stun
