import StunForAndroid.Server.ExactlyOnce
import StunForAndroid.Server.HonestServer

/-!
# The same over TCP and UDP

The threads of the TCP server and those of the UDP server have the same handler. Over TCP a request
comes in pieces and the handler is told that there is a connection. So a response port is a bad
request there, and so is another socket that the response is to come from. Any other request gets
the octets that it would get over UDP (`transports_agree`).
-/

namespace Stun

open Fallible CStunMessageReader CStunRequestHandler
open CStunSocketThread (Initialized)

namespace CStunRequestHandler

/-! ## One handler for both -/

/-- The request asks for a response from another socket. -/
def asksOtherSocket (reader : CStunMessageReader) : Bool :=
  reader.getChangeRequest.toOption.any fun changerequest =>
    changerequest.fChangeIP || changerequest.fChangePort

/-- The handler of a message, for a connection or for a datagram. -/
def handlerOf (msgIn : StunMessageIn) (r : CStunMessageReader) (set : TransportAddressSet)
    (pAuth : Option IStunAuth) (buf : CBuffer) (fConnectionOriented : Bool) : CStunRequestHandler :=
  newHandler { msgIn with pReader := some r, fConnectionOriented } set pAuth buf

section HandlerOf

variable {D : Digests} {msgIn : StunMessageIn} {r : CStunMessageReader} {set : TransportAddressSet}
  {pAuth : Option IStunAuth} {buf : CBuffer}

/-- The draft of an outcome is the same for both. -/
theorem draft_handlerOf (o : Outcome) :
    o.draft D (handlerOf msgIn r set pAuth buf true) =
      o.draft D (handlerOf msgIn r set pAuth buf false) := by
  cases o <;> rfl

/-- On a connection a response port is a bad request. -/
theorem outcome_of_port (hport : asksResponsePort r = true) :
    outcome D (handlerOf msgIn r set pAuth buf true) = .refused .badRequest := by
  have hverdict : verdict D (handlerOf msgIn r set pAuth buf true).pAuth
      (handlerOf msgIn r set pAuth buf true).msgIn (handlerOf msgIn r set pAuth buf true).reader =
        .error .badRequest := if_pos (.inl hport)
  unfold outcome
  rw [hverdict]

/-- Without a response port both come to the same verdict. -/
theorem verdict_handlerOf (hport : asksResponsePort r = false) :
    verdict D (handlerOf msgIn r set pAuth buf true).pAuth
      (handlerOf msgIn r set pAuth buf true).msgIn (handlerOf msgIn r set pAuth buf true).reader =
    verdict D (handlerOf msgIn r set pAuth buf false).pAuth
      (handlerOf msgIn r set pAuth buf false).msgIn
      (handlerOf msgIn r set pAuth buf false).reader := by
  have hverdict : ∀ fConnectionOriented : Bool, responsePortOnConnection
      (handlerOf msgIn r set pAuth buf fConnectionOriented).msgIn r = false := by
    intro fConnectionOriented
    calc responsePortOnConnection (handlerOf msgIn r set pAuth buf fConnectionOriented).msgIn r
        = (fConnectionOriented && asksResponsePort r) := rfl
      _ = false := by rw [hport, Bool.and_false]
  unfold verdict
  show (if responsePortOnConnection _ r = true ∨ r.msgTypeNormalized ≠ StunMsgTypeBinding then _
      else authVerdict D pAuth r) =
    if responsePortOnConnection _ r = true ∨ r.msgTypeNormalized ≠ StunMsgTypeBinding then _
      else authVerdict D pAuth r
  rw [hverdict true, hverdict false]

/-- The socket of the response: that of the request, or another one, which a connection does not
have. -/
theorem responseSocket_handlerOf (fConnectionOriented : Bool) :
    (asksOtherSocket r = false →
      (handlerOf msgIn r set pAuth buf fConnectionOriented).responseSocket =
        some msgIn.socketrole) ∧
    (asksOtherSocket r = true →
      (handlerOf msgIn r set pAuth buf true).responseSocket = none) := by
  unfold asksOtherSocket
  -- A CHANGE-REQUEST that cannot be read counts as none.
  cases hchange : r.getChangeRequest with
  | error hr =>
    refine ⟨fun _ => ?_, fun hother => (by cases hother)⟩
    unfold responseSocket
    rw [show (handlerOf msgIn r set pAuth buf fConnectionOriented).reader.getChangeRequest =
      .error hr
      from hchange]
    rfl
  | ok changerequest =>
    show ((changerequest.fChangeIP || changerequest.fChangePort) = false → _) ∧
      ((changerequest.fChangeIP || changerequest.fChangePort) = true → _)
    constructor
    · intro hnone
      rw [responseSocket_eq (h := handlerOf msgIn r set pAuth buf fConnectionOriented) hchange]
      dsimp only
      rw [if_neg (by simp [hnone])]
      rfl
    · intro hany
      rw [responseSocket_eq (h := handlerOf msgIn r set pAuth buf true) hchange]
      dsimp only
      rw [if_pos hany, if_pos]
      exact Bool.or_true _

/-- A request for another socket is refused on a connection. -/
theorem outcome_of_other (hother : asksOtherSocket r = true) :
    ∃ c, outcome D (handlerOf msgIn r set pAuth buf true) = .refused c := by
  have hsocket : (handlerOf msgIn r set pAuth buf true).acceptedSocket = none := by
    unfold acceptedSocket
    split_ifs
    · rfl
    · exact (responseSocket_handlerOf true).2 hother
  unfold outcome
  split
  · exact ⟨_, rfl⟩
  · rw [hsocket]
    exact ⟨_, rfl⟩

/-- A request without a response port comes on a connection to what it comes to without one, or is a
bad one since it asks for another socket. -/
theorem outcome_handlerOf (hport : asksResponsePort r = false) :
    outcome D (handlerOf msgIn r set pAuth buf true) =
        outcome D (handlerOf msgIn r set pAuth buf false) ∨
      asksOtherSocket r = true ∧
        outcome D (handlerOf msgIn r set pAuth buf true) = .refused .badRequest := by
  have haccepted : ∀ fConnectionOriented,
      (handlerOf msgIn r set pAuth buf fConnectionOriented).acceptedSocket =
        (handlerOf msgIn r set pAuth buf fConnectionOriented).responseSocket := by
    intro fConnectionOriented
    have hreader : (handlerOf msgIn r set pAuth buf fConnectionOriented).reader = r := rfl
    unfold acceptedSocket
    rw [hreader, hport, Bool.false_and]
    exact if_neg Bool.false_ne_true
  unfold outcome
  rw [verdict_handlerOf hport, haccepted true, haccepted false]
  split
  · exact .inl rfl
  · cases hother : asksOtherSocket r with
    | false =>
      rw [(responseSocket_handlerOf true).1 hother, (responseSocket_handlerOf false).1 hother]
      exact .inl rfl
    | true =>
      rw [(responseSocket_handlerOf true).2 hother]
      exact .inr ⟨rfl, rfl⟩

end HandlerOf

end CStunRequestHandler

/-! ## The two servers -/

/-- A message of a connection, if it had come as a datagram. -/
def StunConnection.datagram (octets : List UInt8) (conn : StunConnection) :
    CStunSocketThread.Datagram :=
  ⟨octets, conn.stunsocket.addrremote, conn.stunsocket.addrlocal, conn.stunsocket.role⟩

/-- The octets of the response to a bad request. -/
def badRequestOctets (r : CStunMessageReader) : List UInt8 :=
  (errorDraft r.msgTypeNormalized r.transactionid r.fMessageIsLegacyFormat .badRequest).octets

section Agree

variable {cfg : TcpConfig} {conn₀ : StunConnection} {response : List UInt8} {log : ConnectionLog}
  {thread : CStunSocketThread}

/-- A thread of the UDP server does not answer what does not fit into its buffer. -/
theorem CStunSocketThread.Initialized.answer_long {tsa : TransportAddressSet}
    (hi : Initialized tsa thread) {D : Digests} {pAuth : Option IStunAuth}
    {d : CStunSocketThread.Datagram} (haccepts : Accepts true d.octets)
    (hlong : MAX_STUN_MESSAGE_SIZE < d.octets.length) : (thread.answer D pAuth d).1 = none := by
  have hfed := Initialized.fed_consumeMessage (thread.receive d)
  rw [hi.contents_receive] at hfed
  have hstate : (thread.receive d).consumeMessage.reader.state ≠ .bodyValidated := by
    intro hvalid
    have hall := (hfed.bodyValidated_iff.mp hvalid).eq_of_extends haccepts (List.take_prefix _ _)
    have hlen := congrArg List.length hall
    rw [List.length_take] at hlen
    omega
  unfold CStunSocketThread.answer CStunSocketThread.processRequestAndSendResponse
  dsimp only
  rw [if_pos hstate]

/-- Two readers that were fed the same message find the same requests in it. -/
theorem asks_same {fAllow : Bool} {bs : List UInt8} {ts us : List WireAttribute}
    {r r' : CStunMessageReader} (h : Parsed fAllow bs ts r) (h' : Parsed fAllow bs us r') :
    asksResponsePort r = asksResponsePort r' ∧ asksOtherSocket r = asksOtherSocket r' ∧
      badRequestOctets r = badRequestOctets r' := by
  have hsame := h.sameMessage h'
  unfold asksResponsePort asksOtherSocket badRequestOctets
  rw [h.getResponsePort_same h', h.getChangeRequest_same h', hsame.msgTypeNormalized,
    hsame.transactionid, hsame.fMessageIsLegacyFormat]
  exact ⟨rfl, rfl, rfl⟩

/-- The handler of the message that was answered. -/
def StunConnection.handlerOf (cfg : TcpConfig) (octets : List UInt8) (conn : StunConnection)
    (fConnectionOriented : Bool) : CStunRequestHandler :=
  CStunRequestHandler.handlerOf conn.msgIn (conn.addChunks [octets]).reader cfg.tsa cfg.spAuth
    conn.spOutputBuffer fConnectionOriented

/-- The octets that it answers with. -/
def StunConnection.handled (cfg : TcpConfig) (octets : List UInt8) (conn : StunConnection)
    (fConnectionOriented : Bool) : List UInt8 :=
  let handler := conn.handlerOf cfg octets fConnectionOriented
  ((outcome cfg.digests handler).draft cfg.digests handler).octets

/-- The response is what the handler makes of a message of a connection. -/
theorem AnsweredOnce.response_eq (h : AnsweredOnce cfg conn₀ response log)
    (h₀ : conn₀.JustAccepted) :
    response = conn₀.handled cfg log.interpreted true := by
  obtain ⟨hclass, ts, hread⟩ := h.exists_request h₀
  obtain ⟨buf, hrun, -, hcontents, -⟩ := processRequest_outcome cfg.digests
    (conn₀.addChunks [log.interpreted]).msgIn cfg.tsa cfg.spAuth ⟨.rolePP, .zero, none⟩
    (show MAX_STUN_MESSAGE_SIZE ≤
      (conn₀.addChunks [log.interpreted]).spOutputBuffer.getAllocatedSize
      from h₀.allocated) hclass hread
  have hmade := h.made
  unfold StunConnection.response at hmade
  rw [hrun] at hmade
  exact (Option.some.inj hmade).symm.trans hcontents

/-- What a thread of the UDP server sends is what the handler makes of it as a datagram. -/
theorem AnsweredOnce.answer_eq (h : AnsweredOnce cfg conn₀ response log) (h₀ : conn₀.JustAccepted)
    (hi : Initialized cfg.tsa thread) (hfits : log.interpreted.length ≤ MAX_STUN_MESSAGE_SIZE) :
    (thread.answer cfg.digests cfg.spAuth (conn₀.datagram log.interpreted)).1 =
      some ((outcome cfg.digests (conn₀.handlerOf cfg log.interpreted false)).role
          (conn₀.handlerOf cfg log.interpreted false),
        (conn₀.handlerOf cfg log.interpreted false).destination,
        conn₀.handled cfg log.interpreted false) := by
  obtain ⟨hclass, ts, hread⟩ := h.exists_request h₀
  have hfed := Initialized.fed_consumeMessage (thread.receive (conn₀.datagram log.interpreted))
  rw [hi.contents_receive,
    show (conn₀.datagram log.interpreted).octets = log.interpreted from rfl,
    List.take_of_length_le hfits] at hfed
  have hstate := hfed.bodyValidated_iff.mpr h.accepted
  obtain ⟨us, hread'⟩ := hfed.parsed hstate
  obtain ⟨buf', hsize', hresponse⟩ := hi.response_eq hstate
  -- The thread has a reader and buffers of its own, which make no difference.
  have hasked : cfg.spAuth.map (· (authAttributes
      (thread.receive (conn₀.datagram log.interpreted)).consumeMessage.reader)) =
    cfg.spAuth.map (· (authAttributes (conn₀.addChunks [log.interpreted]).reader)) := by
    rw [authAttributes_same hread' hread]
  have hsame := sentBy_processRequest_same hfed (h₀.fed_addChunks log.interpreted) hsize'
    h₀.allocated (fun _ => hasked) cfg.digests (conn₀.datagram log.interpreted).msgIn cfg.tsa
    thread.msgOut ⟨.rolePP, .zero, none⟩
  obtain ⟨buf, hrun, -, hcontents, -⟩ := processRequest_outcome cfg.digests
    (conn₀.datagram log.interpreted).msgIn cfg.tsa cfg.spAuth ⟨.rolePP, .zero, none⟩
    h₀.allocated hclass hread
  unfold CStunSocketThread.answer
  rw [hresponse, hsame, hrun, sentBy, Option.getD_some, hcontents]
  rfl

/-- A datagram that asks for no response port and no other socket is answered to where it has come
from, from the socket that it has come to. -/
theorem role_destination_handlerOf {octets : List UInt8}
    (hport : asksResponsePort (conn₀.addChunks [octets]).reader = false)
    (hother : asksOtherSocket (conn₀.addChunks [octets]).reader = false) (D : Digests) :
    (outcome D (conn₀.handlerOf cfg octets false)).role (conn₀.handlerOf cfg octets false) =
        conn₀.stunsocket.role ∧
      (conn₀.handlerOf cfg octets false).destination = conn₀.stunsocket.addrremote := by
  constructor
  · cases houtcome : outcome D (conn₀.handlerOf cfg octets false) with
    | refused c => rfl
    | accepted socketOutput creds =>
      have hsocket := responseSocket_of_accepted houtcome
      rw [StunConnection.handlerOf, (responseSocket_handlerOf false).1 hother] at hsocket
      exact (Option.some.inj hsocket).symm
  · have hreader : (conn₀.handlerOf cfg octets false).reader =
        (conn₀.addChunks [octets]).reader := rfl
    unfold asksResponsePort at hport
    unfold destination
    rw [hreader]
    cases hresponseport : (conn₀.addChunks [octets]).reader.getResponsePort with
    | error hr => rfl
    | ok responseport =>
      rw [hresponseport] at hport
      dsimp only at hport ⊢
      rw [if_neg fun hboth => hboth.1 (by simpa using hport)]
      rfl

/-- A request with a response port on a connection is answered with the bad request error. -/
theorem handled_of_port {octets : List UInt8}
    (hport : asksResponsePort (conn₀.addChunks [octets]).reader = true) :
    conn₀.handled cfg octets true = badRequestOctets (conn₀.addChunks [octets]).reader := by
  unfold StunConnection.handled
  dsimp only
  rw [StunConnection.handlerOf, outcome_of_port hport]
  rfl

/-- A request for another socket, on a connection: the response is an error. -/
theorem handled_of_other {octets : List UInt8}
    (hother : asksOtherSocket (conn₀.addChunks [octets]).reader = true) :
    ∃ c, IsErrorResponse c (readerOf (conn₀.handled cfg octets true)) := by
  obtain ⟨c, houtcome⟩ := outcome_of_other (D := cfg.digests) hother
  refine ⟨c, ?_⟩
  unfold StunConnection.handled
  dsimp only
  rw [StunConnection.handlerOf, houtcome]
  exact isErrorResponse ((complete_errorDraft _ _ _ c).parsed (.inl rfl) (fresh_new.fed.addBytes _))

/-- Without a response port the octets for a connection are those for a datagram, or another socket
is asked for. -/
theorem handled_cases {octets : List UInt8}
    (hport : asksResponsePort (conn₀.addChunks [octets]).reader = false) :
    conn₀.handled cfg octets true = conn₀.handled cfg octets false ∨
      asksOtherSocket (conn₀.addChunks [octets]).reader = true ∧
        conn₀.handled cfg octets true = badRequestOctets (conn₀.addChunks [octets]).reader := by
  unfold StunConnection.handled
  dsimp only
  rw [StunConnection.handlerOf, StunConnection.handlerOf]
  rcases outcome_handlerOf hport with hsame | ⟨hother, hrefused⟩
  · rw [hsame, draft_handlerOf]
    exact .inl rfl
  · rw [hrefused]
    exact .inr ⟨hother, rfl⟩

end Agree

/-- What a thread of the TCP server has answered on a connection, in whatever pieces the request has
come and whatever else the thread has done, is what any thread of the UDP server with the same
addresses, provider and digests sends for the request as one datagram, from the same socket to the
same address. It is not so when the request asks for a response port, which is a bad request over
TCP; when it asks for another socket, which is an error over TCP: a bad request, unless it is
refused over UDP for another reason, and in the same way; and when it does not fit into the buffer
for datagrams, in which case there is no answer over UDP. -/
theorem transports_agree {P : Type} {cfg : TcpConfig} {I : IPolling P} {spPolling : P}
    {socketTable : SocketRole → ℤ} {pipe : ℤ} {descriptors : List ℤ} {time : ℤ}
    {inputs : List RoundInput} {t : CTCPStunThread P cfg} {history : CTCPStunThread.History}
    (hrun : CTCPStunThread.runLogged I inputs CTCPStunThread.noHistory (CTCPStunThread.init I
      (CTCPStunThread.start spPolling socketTable pipe descriptors time)) = some (t, history))
    {c : ConnId} {conn₀ : StunConnection} {log : ConnectionLog} (hc : history c = some (conn₀, log))
    (hlegal : log.Legal) {response : List UInt8} (hresponse : response ∈ log.responses)
    {thread : CStunSocketThread} (hi : Initialized cfg.tsa thread) :
    let r := readerOf log.interpreted
    let answer := (thread.answer cfg.digests cfg.spAuth (conn₀.datagram log.interpreted)).1
    (MAX_STUN_MESSAGE_SIZE < log.interpreted.length → answer = none) ∧
    (asksResponsePort r = true → response = badRequestOctets r) ∧
    (log.interpreted.length ≤ MAX_STUN_MESSAGE_SIZE → asksResponsePort r = false →
      answer.map (fun x => x.2.2) = some response ∨
        asksOtherSocket r = true ∧ response = badRequestOctets r) ∧
    (log.interpreted.length ≤ MAX_STUN_MESSAGE_SIZE → asksResponsePort r = false →
      asksOtherSocket r = false →
        answer = some (conn₀.stunsocket.role, conn₀.stunsocket.addrremote, response)) ∧
    (asksOtherSocket r = true → ∃ c, IsErrorResponse c (readerOf response)) := by
  have htracked := (CTCPStunThread.tracked_init ..).run hrun
  have h₀ := htracked.justAccepted _ _ hc
  have honce := (htracked.stage _ _ hc hlegal).exactlyOnce
  obtain ⟨response', hanswered⟩ : ∃ response, AnsweredOnce cfg conn₀ response log := by
    rcases honce.one with hnone | hanswered
    · rw [hnone] at hresponse
      cases hresponse
    · exact hanswered
  rw [hanswered.responses, List.mem_singleton] at hresponse
  subst hresponse
  -- The reader of the connection is the one that the response is read off.
  obtain ⟨-, ts, hread⟩ := hanswered.exists_request h₀
  have hfed : Fed true ([] ++ log.interpreted) (readerOf log.interpreted) :=
    fresh_new.fed.addBytes log.interpreted
  obtain ⟨us, hread'⟩ := hfed.parsed (hfed.bodyValidated_iff.mpr hanswered.accepted)
  obtain ⟨hport, hother, hbad⟩ := asks_same hread' hread
  have heq := hanswered.response_eq h₀
  intro r answer
  rw [hport, hother, hbad]
  refine ⟨hi.answer_long (d := conn₀.datagram log.interpreted) hanswered.accepted,
    fun hasks => heq.trans (handled_of_port hasks), fun hfits hno => ?_, fun hfits hno hsame => ?_,
    fun hasks => heq ▸ handled_of_other hasks⟩
  · show (thread.answer cfg.digests cfg.spAuth (conn₀.datagram log.interpreted)).1.map _ = _ ∨ _
    rw [hanswered.answer_eq h₀ hi hfits, heq, Option.map_some, Option.some.injEq]
    exact (handled_cases hno).imp_left Eq.symm
  · obtain ⟨hrole, hdestination⟩ := role_destination_handlerOf hno hsame cfg.digests
    calc answer = _ := hanswered.answer_eq h₀ hi hfits
      _ = some (conn₀.stunsocket.role, conn₀.stunsocket.addrremote, response) := by
        rw [hrole, hdestination, heq]
        rcases handled_cases hno with heither | ⟨hother, -⟩
        · rw [heither]
        · rw [hsame] at hother
          cases hother

/-- The thread of the TCP server that gets a binding request in two pieces. -/
def piecesRun : Option (CTCPStunThread CEpoll CTCPStunThread.twoConnections ×
    CTCPStunThread.History) :=
  CTCPStunThread.runLogged CEpoll.polling CTCPStunThread.threePieces CTCPStunThread.noHistory
    CTCPStunThread.piecesThread

/-- A new thread of the UDP server answers the request in the same way. -/
theorem transports_agree_threePieces :
    ∃ t history conn₀ log response, piecesRun = some (t, history) ∧
      history 0 = some (conn₀, log) ∧ response ∈ log.responses ∧
      ((CStunSocketThread.initThreadBuffers { tsa := CTCPStunThread.twoConnections.tsa }).answer
          CTCPStunThread.twoConnections.digests CTCPStunThread.twoConnections.spAuth
          (conn₀.datagram log.interpreted)).1 =
        some (conn₀.stunsocket.role, conn₀.stunsocket.addrremote, response) := by
  have hpieces : (piecesRun.bind fun x => x.2 0).map (fun x =>
      (x.2.interpreted, x.2.responses.length, decide (∀ e ∈ x.2, e.Legal))) =
        some (CStunRequestHandler.bindingRequest, 1, true) := by decide +kernel
  obtain ⟨⟨conn₀, log⟩, hconnection, hlog⟩ := Option.map_eq_some_iff.mp hpieces
  obtain ⟨⟨t, history⟩, hrun, hconnection⟩ := Option.bind_eq_some_iff.mp hconnection
  simp only [Prod.mk.injEq, decide_eq_true_eq] at hlog
  obtain ⟨hinterpreted, hresponses, hlegal⟩ := hlog
  obtain ⟨response, hresponse⟩ := List.length_eq_one_iff.mp hresponses
  have hmem : response ∈ log.responses := hresponse ▸ List.mem_singleton_self response
  obtain ⟨-, -, -, hagree, -⟩ := transports_agree hrun hconnection hlegal hmem
    (CStunSocketThread.initialized_initThreadBuffers { tsa := CTCPStunThread.twoConnections.tsa })
  refine ⟨t, history, conn₀, log, response, hrun, hconnection, hmem, hagree ?_ ?_ ?_⟩
  · rw [hinterpreted]
    decide
  · rw [hinterpreted]
    decide +kernel
  · rw [hinterpreted]
    decide +kernel

end Stun
