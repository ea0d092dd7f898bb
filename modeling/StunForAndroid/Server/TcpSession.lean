import StunForAndroid.Client.TcpWaiting
import StunForAndroid.Server.ExactlyOnce

/-!
# A client and the server, over TCP

Both sides are the repository's again: a client runs `TcpClientLoop`, and each of its connections is
one that a thread of the TCP server has accepted. Either side reads and writes in pieces of any
size, either may be closed early, and of what one side has sent only the first octets may have
reached the other.

A response is either all there or nothing that a client takes for one. So what a client reports as
its address is the one that the server has accepted the connection from (`tcp_results_right`).
-/

namespace Stun

open Octets Fallible CStunClientLogic CStunMessageReader CStunRequestHandler

/-! ## What the server sends -/

/-- No mapped address is read in a message without the attributes that have one. -/
theorem CStunMessageReader.Parsed.mappedAddressOf_ne {fAllow : Bool} {bs : List UInt8}
    {ts : List WireAttribute} {r : CStunMessageReader} (h : Parsed fAllow bs ts r)
    (hts : ∀ x ∈ ts, x.type ≠ STUN_ATTRIBUTE_XORMAPPEDADDRESS ∧
      x.type ≠ STUN_ATTRIBUTE_XORMAPPEDADDRESS_OPTIONAL ∧ x.type ≠ STUN_ATTRIBUTE_MAPPEDADDRESS)
    (addr : CSocketAddress) : StunClientTest.mappedAddressOf r ≠ .ok addr := by
  intro hmapped
  unfold StunClientTest.mappedAddressOf getXorMappedAddress CStunMessageReader.getMappedAddress
    at hmapped
  rw [h.getAddressHelper_none fun x hx => (hts x hx).1,
    h.getAddressHelper_none fun x hx => (hts x hx).2.1,
    h.getAddressHelper_none fun x hx => (hts x hx).2.2] at hmapped
  cases hmapped

namespace CStunRequestHandler

/-- An error response has none of the attributes with a mapped address. -/
theorem type_errorDraft {msgType : UInt16} {transid : StunTransactionId} {fLegacy : Bool}
    {c : Challenge} {x : WireAttribute}
    (hx : x ∈ (errorDraft msgType transid fLegacy c).attributes) :
    x.type ≠ STUN_ATTRIBUTE_XORMAPPEDADDRESS ∧ x.type ≠ STUN_ATTRIBUTE_XORMAPPEDADDRESS_OPTIONAL ∧
      x.type ≠ STUN_ATTRIBUTE_MAPPEDADDRESS := by
  have htype : x.type ∈ [STUN_ATTRIBUTE_ERRORCODE, STUN_ATTRIBUTE_NONCE, STUN_ATTRIBUTE_REALM] := by
    rcases List.mem_cons.mp hx with rfl | hx
    · have herror : (errorAttribute fLegacy c.errorcode).type = STUN_ATTRIBUTE_ERRORCODE :=
        ofValue_type
      simp [herror]
    · rcases List.mem_append.mp hx with hx | hx <;> simp [type_of_mem_stringAttributes hx]
  simp only [List.mem_cons, List.not_mem_nil, or_false] at htype
  rcases htype with h | h | h <;> rw [h] <;> decide

/-- No mapped address is read in an error response. -/
theorem mappedAddressOf_errorDraft (msgType : UInt16) (transid : StunTransactionId)
    (fLegacy : Bool) (c : Challenge) (addr : CSocketAddress) :
    StunClientTest.mappedAddressOf (readerOf (errorDraft msgType transid fLegacy c).octets) ≠
      .ok addr :=
  (complete_errorDraft msgType transid fLegacy c).parsed_readerOf.mappedAddressOf_ne
    (fun _ => type_errorDraft) addr

/-- The only mapped address that is read in a response is the address that the request came from. -/
theorem Answers.mappedAddress {D : Digests} {msgIn : StunMessageIn} {reader : CStunMessageReader}
    {v : Except Challenge (Option Credentials)} {d : Draft} (h : Answers D msgIn reader v d)
    {addr : CSocketAddress}
    (hmapped : StunClientTest.mappedAddressOf (readerOf d.octets) = .ok addr) :
    addr = msgIn.addrRemote := by
  have hparsed := h.complete.parsed_readerOf
  cases h with
  | refused c => exact absurd hmapped (mappedAddressOf_errorDraft _ _ _ c addr)
  | badRequest creds => exact absurd hmapped (mappedAddressOf_errorDraft _ _ _ _ addr)
  | success creds addrOrigin addrOther usable =>
    have htransid := (Draft.header_of_parsed hparsed).2.2
    have hxor :=
      getXorMappedAddress_of_successDraft hparsed (htransid.trans (by cases creds <;> rfl))
    unfold StunClientTest.mappedAddressOf at hmapped
    rw [hxor] at hmapped
    exact (Except.ok.inj hmapped).symm

end CStunRequestHandler

/-- A response of a connection is a complete message, and the only mapped address in it is that of
the peer. -/
theorem AnsweredOnce.response_spec {cfg : TcpConfig} {conn₀ : StunConnection}
    {response : List UInt8}
    {log : ConnectionLog} (h : AnsweredOnce cfg conn₀ response log) (h₀ : conn₀.JustAccepted) :
    Accepts true response ∧ ∀ addr,
      StunClientTest.mappedAddressOf (readerOf response) = .ok addr →
        addr = conn₀.stunsocket.addrremote := by
  obtain ⟨hclass, ts, hread⟩ := h.exists_request h₀
  obtain ⟨msgOut, buf, d, hrun, hbuf, hcontents, hanswers⟩ := processRequest_request cfg.digests
    (conn₀.addChunks [log.interpreted]).msgIn cfg.tsa cfg.spAuth ⟨.rolePP, .zero, none⟩
    (show MAX_STUN_MESSAGE_SIZE ≤
      (conn₀.addChunks [log.interpreted]).spOutputBuffer.getAllocatedSize
      from h₀.allocated) hclass hread
  have hsame : d.octets = response := by
    have hmade := h.made
    unfold StunConnection.response at hmade
    rw [hrun, sentBy, hbuf] at hmade
    exact hcontents.symm.trans (Option.some.inj hmade)
  subst hsame
  exact ⟨hanswers.complete.parsed_readerOf.accepts, fun addr => hanswers.mappedAddress⟩

/-! ## A conversation -/

/-- What the client has sent over a connection, and what it has received before it closes the
connection. -/
structure TcpConversation where
  addrDest : CSocketAddress
  addrLocal : CSocketAddress
  request : List UInt8
  received : List UInt8
deriving DecidableEq

/-- The conversation of a round, if it comes to one. -/
def tcpConversation (x : TcpExchange) (s : TcpLoopState) : Option TcpConversation :=
  (s.clientlogic.getNextMessage x.rand x.stack s.spMsg x.timeCurrentMilliseconds).1.toOption.bind
    fun msg =>
      (tcpConverse x msg.1 (s.reader.reset.attachStream s.spMsgReader)).getLeft?.map fun answer =>
        ⟨msg.2, x.addrLocal, msg.1.contents, answer.1⟩

/-- The conversations of the rounds, but for one in which the loop is left. -/
def tcpConversations : List TcpExchange → TcpLoopState → List TcpConversation
  | [], _ => []
  | x :: xs, s => (tcpClientRound x s).elim
      (fun s' => (tcpConversation x s).toList ++ tcpConversations xs s') fun _ => []

/-- The other end is a connection that a thread of the server has accepted from `addr`. Of what the
one end has sent, the other has received octets from the start, in whatever pieces. -/
inductive TcpConversation.WithServer (cv : TcpConversation) (addr : CSocketAddress) : Prop
  | intro {P : Type} {cfg : TcpConfig} {I : IPolling P} {spPolling : P}
      {socketTable : SocketRole → ℤ}
      {pipe : ℤ} {descriptors : List ℤ} {time : ℤ} {inputs : List RoundInput}
      {t : CTCPStunThread P cfg} {history : CTCPStunThread.History} {c : ConnId}
      {conn₀ : StunConnection} {log : ConnectionLog}
      (run : CTCPStunThread.runLogged I inputs CTCPStunThread.noHistory (CTCPStunThread.init I
        (CTCPStunThread.start spPolling socketTable pipe descriptors time)) = some (t, history))
      (connection : history c = some (conn₀, log)) (legal : log.Legal)
      (addrremote : conn₀.stunsocket.addrremote = addr)
      (request : log.received <+: cv.request) (received : cv.received <+: log.sent)

/-- What a client accepts is a message. -/
theorem accepts_of_bodyValidated {bs : List UInt8} (h : (readerOf bs).state = .bodyValidated) :
    Accepts true bs :=
  (show Fed true ([] ++ bs) (readerOf bs) from fresh_new.fed.addBytes bs).bodyValidated_iff.mp h

namespace TcpConversation

variable {cv : TcpConversation} {addr : CSocketAddress}

/-- When what the client has received is a message with a mapped address, the address is the one
that the server has seen the client at. -/
theorem WithServer.mappedAddress (h : cv.WithServer addr) {addrMapped : CSocketAddress}
    (hstate : (readerOf cv.received).state = .bodyValidated)
    (hmapped : StunClientTest.mappedAddressOf (readerOf cv.received) = .ok addrMapped) :
    addrMapped = addr := by
  obtain ⟨hrun, hconnection, hlegal, rfl, -, hreceived⟩ := h
  have htracked := (CTCPStunThread.tracked_init ..).run hrun
  have h₀ := htracked.justAccepted _ _ hconnection
  have honce := (htracked.stage _ _ hconnection hlegal).exactlyOnce
  have haccepts := accepts_of_bodyValidated hstate
  have hresponse := hreceived.trans honce.sent
  rcases honce.one with hnone | ⟨response, hanswered⟩
  · -- Without a response nothing is sent.
    rw [hnone] at hresponse
    have hlen := haccepts.length_eq
    rw [List.prefix_nil.mp hresponse] at hlen
    exact absurd hlen (by decide)
  · rw [hanswered.responses, List.flatten_singleton] at hresponse
    obtain ⟨haccepts', hpeer⟩ := hanswered.response_spec h₀
    have hall := haccepts.eq_of_extends haccepts' hresponse
    exact hpeer addrMapped (hall ▸ hmapped)

end TcpConversation

/-! ## What the client tells -/

/-- The result of the binding test stays as it is, or there is none. -/
def KeepsBinding (results results' : StunClientResults) : Prop :=
  results'.fBindingTestSuccess = true → results.fBindingTestSuccess = true ∧
    results'.addrMapped = results.addrMapped ∧ results'.addrLocal = results.addrLocal ∧
    results'.fIsDirect = results.fIsDirect

/-- When nothing happens, the result of the binding test stays as it is. -/
theorem KeepsBinding.refl (results : StunClientResults) : KeepsBinding results results :=
  fun h => ⟨h, rfl, rfl, rfl⟩

/-- Two steps that leave the result of the binding test as it is do so together. -/
theorem KeepsBinding.trans {results results' results'' : StunClientResults}
    (h : KeepsBinding results results') (h' : KeepsBinding results' results'') :
    KeepsBinding results results'' := by
  intro hsuccess
  obtain ⟨hsuccess', hmapped', hlocal', hdirect'⟩ := h' hsuccess
  obtain ⟨hsuccess, hmapped, hlocal, hdirect⟩ := h hsuccess'
  exact ⟨hsuccess, hmapped'.trans hmapped, hlocal'.trans hlocal, hdirect'.trans hdirect⟩

namespace StunClientTest

/-- The early chance of a test keeps it. -/
theorem preRunCheck_keepsBinding (results : StunClientResults) (t : StunClientTest) :
    KeepsBinding results (t.preRunCheck results).2 := by
  unfold preRunCheck CBehaviorTest.preRunCheck CFilteringTest.preRunCheck
  split
  · exact .refl results
  · split_ifs <;> exact .refl results
  · split_ifs <;> exact .refl results

/-- A timeout leaves the result of the binding test as it is, or is that of the binding test. -/
theorem notifyTimeout_keepsBinding (results : StunClientResults) (t : StunClientTest) :
    KeepsBinding results (t.notifyTimeout results).2 := by
  unfold notifyTimeout CBehaviorTest.notifyTimeout CFilteringTest.notifyTimeout
  split
  · intro hsuccess
    cases hsuccess
  · exact .refl results
  · split_ifs <;> exact .refl results

/-- A response keeps it, or it is one to the binding test, which takes its mapped address. -/
theorem processResponse_binding {config : StunClientLogicConfig} {results : StunClientResults}
    {spMsg : List UInt8} {addrLocal : CSocketAddress} {t : StunClientTest}
    {result : StunClientTest × StunClientResults}
    (h : t.processResponse config results spMsg addrLocal = .ok result) :
    KeepsBinding results result.2 ∨ t.kind = .basicBinding ∧
      (readerOf spMsg).state = .bodyValidated ∧
      mappedAddressOf (readerOf spMsg) = .ok result.2.addrMapped ∧ result.2.addrLocal = addrLocal ∧
      result.2.fIsDirect = addrLocal.isSameIP_and_Port result.2.addrMapped := by
  unfold processResponse at h
  split at h
  · -- Only the binding test writes these results.
    rename_i hkind
    obtain ⟨reader, hreader, addrMapped, hmapped, rfl⟩ :=
      CBasicBindingTest.processResponse_eq_ok_iff.mp h
    obtain ⟨hstate, -, rfl⟩ := basicReaderValidation_eq_ok_iff.mp hreader
    rw [addBytes_fst] at hstate
    refine .inr ⟨hkind, hstate, ?_⟩
    unfold CBasicBindingTest.storeResponse
    cases (({} : CStunMessageReader).addBytes spMsg).2.getOtherAddress.toOption with
    | none => exact ⟨hmapped, rfl, rfl⟩
    | some addrOther => exact ⟨hmapped, rfl, rfl⟩
  · obtain ⟨_, -, addrMapped, -, rfl⟩ := CBehaviorTest.processResponse_eq_ok_iff.mp h
    refine .inl ?_
    dsimp only
    unfold CBehaviorTest.storeResponse
    dsimp only
    split_ifs <;> exact .refl results
  · obtain ⟨-, rfl⟩ := CFilteringTest.processResponse_eq_ok_iff.mp h
    refine .inl ?_
    dsimp only
    unfold CFilteringTest.storeResponse
    split_ifs <;> exact .refl results

end StunClientTest

/-- `GetNextMessage` keeps it as long as it goes through tests. -/
theorem CStunClientLogic.rounds_keepBinding {time : UInt32} {c c' : CStunClientLogic}
    (h : Relation.ReflTransGen (Round time) c c') : KeepsBinding c.results c'.results := by
  induction h with
  | refl => exact .refl c.results
  | tail _ hround ih =>
    refine ih.trans ?_
    cases hround with
    | @precheck t _ _ => exact t.preRunCheck_keepsBinding _
    | next _ _ _ => exact .refl _
    | @timeout t _ _ _ _ _ _ => exact t.notifyTimeout_keepsBinding _

/-- `GetNextMessage` leaves the result of the binding test as it is. -/
theorem CStunClientLogic.getNextMessage_keepsBinding {rand : ℕ → UInt8} {stack : StunTransactionId}
    {spMsg : CBuffer} {time : UInt32} (c : CStunClientLogic) :
    KeepsBinding c.results (c.getNextMessage rand stack spMsg time).2.results := by
  by_cases hready : c.fInitialized = true ∧ MAX_STUN_MESSAGE_SIZE ≤ spMsg.getAllocatedSize
  · obtain ⟨c₁, hrounds, hlast⟩ := @getNextMessage_cases rand stack spMsg time c hready.1 hready.2
    have hkeeps := rounds_keepBinding hrounds
    generalize c.getNextMessage rand stack spMsg time = result at hlast
    cases hlast <;> exact hkeeps
  · -- It is not called as it has to be, and fails at once.
    have hsame : (c.getNextMessage rand stack spMsg time).2 = c := by
      unfold getNextMessage
      split_ifs with hinit hbuf
      · rfl
      · rfl
      · exact absurd ⟨by simpa using hinit, not_lt.mp hbuf⟩ hready
    rw [hsame]
    exact .refl c.results

/-- The result of the binding test is what the server has seen in one of the conversations. -/
def BindingTold (config : StunClientLogicConfig) (cvs : List TcpConversation)
    (results : StunClientResults) : Prop :=
  results.fBindingTestSuccess = true → ∃ cv ∈ cvs, cv.addrDest = config.addrServer ∧
    (∀ addr, cv.WithServer addr → results.addrMapped = addr) ∧ results.addrLocal = cv.addrLocal ∧
    results.fIsDirect = cv.addrLocal.isSameIP_and_Port results.addrMapped

/-- What is told stays so when the result is kept. -/
theorem BindingTold.of_keeps {config : StunClientLogicConfig} {cvs : List TcpConversation}
    {results results' : StunClientResults} (h : BindingTold config cvs results)
    (hkeeps : KeepsBinding results results') (cvs' : List TcpConversation) :
    BindingTold config (cvs ++ cvs') results' := by
  intro hsuccess
  obtain ⟨hbefore, hmapped, hlocal, hdirect⟩ := hkeeps hsuccess
  obtain ⟨cv, hcv, htold⟩ := h hbefore
  rw [hmapped, hlocal, hdirect]
  exact ⟨cv, List.mem_append_left _ hcv, htold⟩

/-- A round that does not leave the loop is a conversation. -/
theorem tcpClientRound_conversation {x : TcpExchange} {s s' : TcpLoopState}
    (h : tcpClientRound x s = .inl s') :
    ∃ spMsg clientlogic cv, tcpConversation x s = some cv ∧
      s.clientlogic.getNextMessage x.rand x.stack s.spMsg x.timeCurrentMilliseconds =
        (.ok (spMsg, cv.addrDest), clientlogic) ∧
      cv.addrLocal = x.addrLocal ∧ s'.spMsg = spMsg.receive cv.received ∧
      s'.clientlogic = finalState
        (CStunClientLogic.processResponse s'.spMsg.contents x.addrLocal) clientlogic := by
  unfold tcpClientRound at h
  split_ifs at h
  split at h
  · split_ifs at h
  · rename_i spMsg addrDest clientlogic hmessage
    split at h
    · cases h
    · rename_i received reader hconverse
      cases h
      refine ⟨spMsg, clientlogic, ⟨addrDest, x.addrLocal, spMsg.contents, received⟩,
        ?_, hmessage, rfl, rfl, rfl⟩
      unfold tcpConversation
      rw [hmessage]
      show ((tcpConverse x spMsg (s.reader.reset.attachStream s.spMsgReader)).getLeft?.map _) = _
      rw [hconverse]
      rfl

/-- The buffer has the octets that have come in it, or still the message. -/
theorem contents_receive (received : List UInt8) (spMsg : CBuffer) :
    (spMsg.receive received).contents = if received = [] then spMsg.contents else received := by
  unfold CBuffer.receive
  split_ifs
  · rfl
  · show (overwrite spMsg.data 0 received).take received.length = received
    unfold overwrite
    rw [List.take_zero, List.nil_append, List.take_left]

/-- No mapped address is read in a request. -/
theorem mappedAddressOf_request (transid : StunTransactionId) (change : StunChangeRequestAttribute)
    (addr : CSocketAddress) :
    StunClientTest.mappedAddressOf (readerOf (requestDraft transid change).octets) ≠ .ok addr := by
  refine (complete_requestDraft transid change).parsed_readerOf.mappedAddressOf_ne
    (fun x hx => ?_) addr
  -- A request has a CHANGE-REQUEST, and nothing else.
  have htype : x.type = STUN_ATTRIBUTE_CHANGEREQUEST := by
    rw [List.mem_singleton.mp hx, changeAttribute, ofValue_type]
  rw [htype]
  decide

/-- A client that has a message to send keeps its configuration and the result of the binding test,
and sends the request of its current test. -/
theorem CStunClientLogic.message_asks {rand : ℕ → UInt8} {stack : StunTransactionId}
    {spMsg : CBuffer} {time : UInt32} {c c' : CStunClientLogic} {msg : CBuffer × CSocketAddress}
    (h : c.getNextMessage rand stack spMsg time = (.ok msg, c')) :
    c'.config = c.config ∧ KeepsBinding c.results c'.results ∧ ∃ t, c'.CurrentTest t ∧
      (t.kind = .basicBinding → msg.2 = c.config.addrServer) ∧
      msg.1.contents = (requestDraft t.transid t.changeOf).octets := by
  have hkeeps := @c.getNextMessage_keepsBinding rand stack spMsg time
  rw [h] at hkeeps
  obtain ⟨c₁, t, -, hbuf, hrounds, hlast, hcurrent, -, -, -, -, hmsg, rfl⟩ := exists_message h
  obtain ⟨buf, hget, hcontents⟩ := t.getMessage_spec hbuf c₁.config c₁.results rand stack
  have hconfig := (keeps_of_steps (steps_of_rounds hrounds)).config_eq
  have hdest : msg.2 = t.destinationOf c₁.config c₁.results := by
    generalize hresult : (Except.ok msg, _) = result at hlast
    cases hlast with
    | resultsReady _ => cases hresult
    | stillWaiting _ _ _ _ _ => cases hresult
    | @message u hu _ _ _ _ _ =>
      obtain rfl := Option.some.inj (hu.symm.trans hcurrent)
      rw [Except.ok.inj (congrArg Prod.fst hresult), hget]
  rw [hget] at hmsg ⊢
  refine ⟨hconfig, hkeeps, _, hcurrent.withTest _, fun hkind => ?_, ?_⟩
  · rw [hdest, StunClientTest.destinationOf, show t.kind = .basicBinding from hkind, hconfig]
  · rw [hmsg]
    exact hcontents

/-- A round that does not leave the loop tells of its conversation or of the ones before. -/
theorem BindingTold.round {x : TcpExchange} {s s' : TcpLoopState} {cvs : List TcpConversation}
    (h : BindingTold s.clientlogic.config cvs s.clientlogic.results)
    (hround : tcpClientRound x s = .inl s') :
    s'.clientlogic.config = s.clientlogic.config ∧
      BindingTold s.clientlogic.config (cvs ++ (tcpConversation x s).toList)
        s'.clientlogic.results := by
  obtain ⟨spMsg, c, cv, hcv, hmessage, hlocal, hbuffer, hc⟩ := tcpClientRound_conversation hround
  obtain ⟨hconfig, hkeeps, t, hcurrent, hdest, hrequest⟩ := message_asks hmessage
  rw [hcv, Option.toList_some]
  have hreceive : s'.clientlogic = (({ client := c } : Exchange).receive
      ⟨s'.spMsg.contents, x.addrLocal, x.addrLocal⟩).client := hc
  rw [hreceive]
  -- `ProcessResponse` does nothing, or the test accepts what is in the buffer.
  rcases ({ client := c } : Exchange).receive_cases
    ⟨s'.spMsg.contents, x.addrLocal, x.addrLocal⟩ with hsame | ⟨u, result, hu, -,
      haccepted, hresult⟩
  · rw [hsame]
    exact ⟨hconfig, h.of_keeps hkeeps [cv]⟩
  rw [hresult]
  refine ⟨hconfig, ?_⟩
  rcases StunClientTest.processResponse_binding haccepted with
    hkept | ⟨hkind, hstate, hmapped, haddrLocal, hdirect⟩
  · exact h.of_keeps (hkeeps.trans hkept) [cv]
  · obtain rfl : t = u := Option.some.inj (hcurrent.symm.trans hu)
    -- What it accepts is not its own request, and so it is what has come.
    have hreceived : s'.spMsg.contents = cv.received := by
      rw [hbuffer, contents_receive]
      split_ifs with hnone
      · refine absurd hmapped ?_
        dsimp only
        rw [hbuffer, contents_receive, if_pos hnone, hrequest]
        exact mappedAddressOf_request _ _ _
      · rfl
    dsimp only at hstate hmapped
    rw [hreceived] at hstate hmapped
    refine fun _ => ⟨cv, List.mem_append_right _ (List.mem_singleton_self cv), hdest hkind,
      fun addr hserver => hserver.mappedAddress hstate hmapped, haddrLocal.trans hlocal.symm, ?_⟩
    rw [hlocal]
    exact hdirect

/-- The round that comes to the results leaves that of the binding test as it is. -/
theorem tcpClientRound_reported {x : TcpExchange} {s : TcpLoopState} {results : StunClientResults}
    (h : tcpClientRound x s = .inr (.reported results)) :
    KeepsBinding s.clientlogic.results results := by
  have hkeeps := @s.clientlogic.getNextMessage_keepsBinding x.rand x.stack s.spMsg
    x.timeCurrentMilliseconds
  unfold tcpClientRound at h
  split_ifs at h
  · cases h
  split at h
  · rename_i hmessage
    split_ifs at h
    · cases h
      rw [hmessage] at hkeeps
      exact hkeeps
    · cases h
  · split at h
    · rename_i hconverse
      cases h
      exact (atSocket_of_tcpConverse hconverse).elim
    · cases h

/-- When the rounds come to the results, these tell of one of the conversations. -/
theorem BindingTold.rounds {exchanges : List TcpExchange} {s : TcpLoopState}
    {cvs : List TcpConversation} (h : BindingTold s.clientlogic.config cvs s.clientlogic.results)
    {results : StunClientResults} (hrun : tcpClientRounds exchanges s = .reported results) :
    BindingTold s.clientlogic.config (cvs ++ tcpConversations exchanges s) results := by
  induction exchanges generalizing s cvs with
  | nil => cases hrun
  | cons x xs ih =>
    cases hround : tcpClientRound x s with
    | inl s' =>
      rw [tcpClientRounds_of_inl hround xs] at hrun
      obtain ⟨hconfig, htold⟩ := h.round hround
      have hrest := ih (hconfig ▸ htold) hrun
      unfold tcpConversations
      rw [hround, Sum.elim_inl, ← List.append_assoc]
      exact hconfig ▸ hrest
    | inr outcome =>
      rw [tcpClientRounds_of_inr hround xs] at hrun
      subst hrun
      unfold tcpConversations
      rw [hround, Sum.elim_inr]
      exact h.of_keeps (tcpClientRound_reported hround) []

/-- The addresses that a TCP client reports are those of one of its connections to the server that
it was configured with. When the other end of it is a thread of the server, the mapped address is
the one that the thread has accepted the connection from, whatever pieces `send` and `recv` have
made of the two messages, whoever else is connected, and wherever any connection was cut off. -/
theorem tcp_results_right {config : StunClientLogicConfig} {exchanges : List TcpExchange}
    {results : StunClientResults} (hrun : tcpClientLoop config exchanges = .reported results)
    (hsuccess : results.fBindingTestSuccess = true) :
    ∃ cv ∈ tcpConversations exchanges { clientlogic := initialized config },
      cv.addrDest = config.addrServer ∧
      (∀ addr, cv.WithServer addr → results.addrMapped = addr) ∧ results.addrLocal = cv.addrLocal ∧
      results.fIsDirect = cv.addrLocal.isSameIP_and_Port results.addrMapped := by
  unfold tcpClientLoop at hrun
  split at hrun
  · cases hrun
  · rename_i clientlogic hinit
    obtain ⟨-, -, rfl⟩ := initializeLogic_eq_ok_iff.mp hinit
    have hnone : BindingTold (initialized config).config [] (initialized config).results :=
      fun hfalse => by cases hfalse
    exact hnone.rounds hrun hsuccess

/-! ## Pieces -/

/-- Where the server sees the client. -/
def natAddress : CSocketAddress := CSocketAddress.ofHostByteOrder 0xCB007105 40000

/-- A round of a client that sends its request in two pieces. -/
def askingExchange (recvs : List (Except ℤ (List UInt8))) : TcpExchange where
  timeCurrentMilliseconds := 0
  rand := fun _ => 1
  stack := StunTransactionId.zero
  sends := [.ok 10, .ok 18]
  recvs := recvs
  addrLocal := CSocketAddress.ofHostByteOrder 0x0A000001 5000

/-- The request of the client that asks in two pieces. -/
def firstRequest : List UInt8 :=
  tcpRequest (askingExchange []) { clientlogic := initialized tcpConfig }

/-- The server gets the request in three pieces, and sends the response in two. -/
def servingRounds : List RoundInput :=
  [{ CTCPStunThread.eventRound [.octets (firstRequest.take 10)] [] with
      accept := ⟨10, .zero, natAddress, 1, S_OK⟩ },
    CTCPStunThread.eventRound [.octets ((firstRequest.drop 10).take 10),
      .octets (firstRequest.drop 20)] [.sent 9, .wouldBlock],
    CTCPStunThread.eventRound [] [.sent 35]]

/-- What the server has done on its connections. -/
def servedConnections : Option (CTCPStunThread CEpoll CTCPStunThread.twoConnections ×
    CTCPStunThread.History) :=
  CTCPStunThread.runLogged CEpoll.polling servingRounds CTCPStunThread.noHistory
    CTCPStunThread.piecesThread

/-- The octets of the response that the server has sent. -/
def servedOctets : List UInt8 :=
  ((servedConnections.bind fun x => x.2 0).map fun x => x.2.sent).getD []

/-- The client gets the response in three pieces, and then has the results. -/
def servedExchanges : List TcpExchange :=
  [askingExchange [.ok (servedOctets.take 5), .ok ((servedOctets.drop 5).take 15),
      .ok (servedOctets.drop 20)],
    askingExchange []]

/-- The conversation. -/
def servedConversation : TcpConversation :=
  ⟨tcpConfig.addrServer, CSocketAddress.ofHostByteOrder 0x0A000001 5000, firstRequest, servedOctets⟩

/-- The client has one conversation, which is this one. -/
theorem tcpConversations_served :
    tcpConversations servedExchanges { clientlogic := initialized tcpConfig } =
      [servedConversation] := by
  decide +kernel

/-- The other end of the conversation is the server. -/
theorem servedConversation_withServer : servedConversation.WithServer natAddress := by
  have hserved : (servedConnections.bind fun x => x.2 0).map (fun x =>
      (x.1.stunsocket.addrremote, x.2.received, x.2.sent, decide (∀ e ∈ x.2, e.Legal))) =
        some (natAddress, firstRequest, servedOctets, true) := by decide +kernel
  obtain ⟨⟨conn₀, log⟩, hconnection, hlog⟩ := Option.map_eq_some_iff.mp hserved
  obtain ⟨⟨t, history⟩, hrun, hconnection⟩ := Option.bind_eq_some_iff.mp hconnection
  simp only [Prod.mk.injEq, decide_eq_true_eq] at hlog
  obtain ⟨haddr, hreceived, hsent, hlegal⟩ := hlog
  refine .intro hrun hconnection hlegal haddr ?_ ?_
  · unfold servedConversation
    simp only [hreceived, List.prefix_rfl]
  · unfold servedConversation
    simp only [hsent, List.prefix_rfl]

/-- What the client reports. -/
def servedResults : StunClientResults where
  fBindingTestSuccess := true
  addrLocal := CSocketAddress.ofHostByteOrder 0x0A000001 5000
  addrMapped := natAddress

/-- The address that the client reports is the one that the server has seen it at. -/
theorem tcp_results_right_pieces :
    tcpClientLoop tcpConfig servedExchanges = .reported servedResults ∧
      servedConversation.WithServer servedResults.addrMapped := by
  have hrun : tcpClientLoop tcpConfig servedExchanges = .reported servedResults := by decide +kernel
  obtain ⟨cv, hcv, -, hseen, -⟩ := tcp_results_right hrun rfl
  rw [tcpConversations_served] at hcv
  obtain rfl := List.mem_singleton.mp hcv
  rw [hseen natAddress servedConversation_withServer]
  exact ⟨hrun, servedConversation_withServer⟩

end Stun
