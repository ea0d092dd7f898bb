import StunForAndroid.StunCore.Response

/-!
# Where a response goes

The handler sets the destination and the socket of the response before it looks at the request, and
changes them on its way: the port for a RESPONSE-PORT, and the socket for a CHANGE-REQUEST. Each
step either leaves them alone (`Judges`) or changes one of them in one way, so that no step that
fails later has to change them back.
-/

namespace Stun

open Fallible CStunMessageBuilder CStunMessageReader

namespace CStunRequestHandler

/-! ## What a request asks for -/

/-- The port of the response: the one that the request asks for, when there is no connection, or
else the one that the request came from. -/
def destinationPort (msgIn : StunMessageIn) (reader : CStunMessageReader) : UInt16 :=
  match reader.getResponsePort with
  | .ok responseport =>
    if responseport ≠ 0 ∧ msgIn.fConnectionOriented = false then responseport
    else msgIn.addrRemote.getPort
  | .error _ => msgIn.addrRemote.getPort

/-- The socket that a request to the socket of a role asks the response to be sent from. -/
def requestedRole (reader : CStunMessageReader) (role : SocketRole) : SocketRole :=
  match reader.getChangeRequest with
  | .ok changerequest => answeringRole changerequest role
  | .error _ => role

/-- A request with a CHANGE-REQUEST is answered from the socket it asks for, or from its own when it
asks for no change. -/
theorem responseSocket_eq {h : CStunRequestHandler} {changerequest : StunChangeRequestAttribute}
    (hchange : h.reader.getChangeRequest = .ok changerequest) : h.responseSocket =
      let socketOutput := answeringRole changerequest h.msgIn.socketrole
      if changerequest.fChangeIP || changerequest.fChangePort then
        if h.hasAddress socketOutput == false || h.msgIn.fConnectionOriented then none
        else some socketOutput
      else some h.msgIn.socketrole := by
  unfold responseSocket
  rw [hchange]
  rfl

/-- The socket of the response is the one that the request asks for. It is another one than that of
the request only when it is there, and never on a connection. -/
theorem responseSocket_spec {h : CStunRequestHandler} {socketOutput : SocketRole}
    (hsocket : h.responseSocket = some socketOutput) :
    socketOutput = requestedRole h.reader h.msgIn.socketrole ∧
      (socketOutput = h.msgIn.socketrole ∨
        h.hasAddress socketOutput = true ∧ h.msgIn.fConnectionOriented = false) := by
  unfold requestedRole
  cases hchange : h.reader.getChangeRequest with
  | error hr =>
    unfold responseSocket at hsocket
    rw [hchange] at hsocket
    obtain rfl := Option.some.inj hsocket
    exact ⟨rfl, .inl rfl⟩
  | ok changerequest =>
    rw [responseSocket_eq hchange] at hsocket
    dsimp only at hsocket ⊢
    by_cases hany : (changerequest.fChangeIP || changerequest.fChangePort) = true
    · rw [if_pos hany] at hsocket
      split_ifs at hsocket with hrefused
      obtain rfl := Option.some.inj hsocket
      exact ⟨rfl, .inr (by simpa using hrefused)⟩
    · -- Neither flag is set.
      rw [if_neg hany] at hsocket
      obtain rfl := Option.some.inj hsocket
      simp only [Bool.or_eq_true, not_or, Bool.not_eq_true] at hany
      refine ⟨?_, .inl rfl⟩
      unfold answeringRole
      rw [hany.1, hany.2]
      rfl

/-- A success response is sent from the socket of the response. -/
theorem responseSocket_of_accepted {D : Digests} {h : CStunRequestHandler}
    {socketOutput : SocketRole}
    {creds : Option Credentials} (houtcome : outcome D h = .accepted socketOutput creds) :
    h.responseSocket = some socketOutput := by
  unfold outcome acceptedSocket at houtcome
  split at houtcome
  · cases houtcome
  · split at houtcome
    · cases houtcome
    · rename_i hsocket
      cases houtcome
      split_ifs at hsocket
      exact hsocket

/-- The destination of the response has the IP address that the request came from, and the port that
it came from or that it asks for. -/
theorem destination_spec (h : CStunRequestHandler) :
    h.destination.ip = h.msgIn.addrRemote.ip ∧
      h.destination.getPort = destinationPort h.msgIn h.reader := by
  unfold destination destinationPort
  cases h.reader.getResponsePort with
  | error hr => exact ⟨rfl, rfl⟩
  | ok responseport =>
    dsimp only
    split_ifs
    · exact ⟨rfl, CSocketAddress.getPort_setPort _ _⟩
    · exact ⟨rfl, rfl⟩

/-- The draft of an outcome is a success response exactly when the request was accepted. -/
theorem messageClass_draft (D : Digests) (h : CStunRequestHandler) (o : Outcome) :
    messageClass (o.draft D h).typeField =
      match o with
      | .refused _ => .failureResponse
      | .accepted _ _ => .successResponse := by
  cases o with
  | refused c => exact messageClass_msgTypeField _ (by decide)
  | accepted socketOutput creds =>
    have hfield : ((Outcome.accepted socketOutput creds).draft D h).typeField =
        msgTypeField StunMsgTypeBinding .successResponse := by
      cases creds <;> rfl
    rw [hfield]
    exact messageClass_msgTypeField _ (by decide)

/-! ## `ProcessRequest` -/

section ProcessRequest

variable {D : Digests} {msgIn : StunMessageIn} {set : TransportAddressSet}
  {pAuth : Option IStunAuth} {msgOut msgOut' : StunMessageOut} {buf : CBuffer}
  {reader : CStunMessageReader}

/-- `ProcessRequest` succeeds only on a request that a reader has validated, with a buffer that is
large enough. -/
theorem processRequest_ok
    (h : processRequest D { msgIn with pReader := some reader } (some set) pAuth
      { msgOut with spBufferOut := some buf } = .ok () msgOut') :
    MAX_STUN_MESSAGE_SIZE ≤ buf.getAllocatedSize ∧ reader.state = .bodyValidated ∧
      reader.msgClass = .request := by
  have hsize : MAX_STUN_MESSAGE_SIZE ≤ buf.getAllocatedSize := by
    by_contra hlt
    unfold processRequest at h
    rw [Option.isNone_some, bind_of_ok (chkIf_false _ _), bind_get, Option.isNone_some,
      bind_of_ok (chkIf_false _ _), Option.getD_some, decide_eq_true (not_le.mp hlt),
      bind_of_error (chkIf_true _ _)] at h
    cases h
  have hstate : reader.state = .bodyValidated := by
    by_contra hne
    rw [processRequest_unread D msgIn set pAuth msgOut hsize hne] at h
    cases h
  refine ⟨hsize, hstate, ?_⟩
  by_contra hclass
  rw [processRequest_other D msgIn set pAuth msgOut hsize hstate hclass] at h
  cases h

end ProcessRequest

/-- A response goes to the IP address that the request came from, and to the port that it came from
or that it asks for. It is sent from a socket that is there: that of the request, or in a success
response the one that the request asks for. -/
theorem processRequest_destination (D : Digests) (r₀ : CStunMessageReader) (fAllow : Bool)
    (rbuf : Option CBuffer) (chunks : List (List UInt8)) (msgIn : StunMessageIn)
    (set : TransportAddressSet) (pAuth : Option IStunAuth) (msgOut msgOut' : StunMessageOut)
    (buf : CBuffer) (hvalid : (set msgIn.socketrole).fValid = true)
    (hok : processRequest D
      { msgIn with pReader := some ((r₀.ready fAllow rbuf).addChunks chunks) } (some set) pAuth
      { msgOut with spBufferOut := some buf } = .ok () msgOut') :
    let r := (r₀.ready fAllow rbuf).addChunks chunks
    msgOut'.addrDest.ip = msgIn.addrRemote.ip ∧
      msgOut'.addrDest.getPort = destinationPort msgIn r ∧
      (set msgOut'.socketrole).fValid = true ∧
      (msgIn.fConnectionOriented = true → msgOut'.socketrole = msgIn.socketrole) ∧
      ∃ out, msgOut'.spBufferOut = some out ∧ ∀ (r₁ : CStunMessageReader) (rbuf₁ : Option CBuffer),
        let r' := ((r₁.ready true rbuf₁).addBytes out.contents).2
        r'.state = .bodyValidated ∧ msgOut'.socketrole =
          if r'.msgClass = .successResponse then requestedRole r msgIn.socketrole
          else msgIn.socketrole := by
  intro r
  obtain ⟨hsize, hstate, hclass⟩ := processRequest_ok hok
  obtain ⟨ts, hread⟩ := (fed_addChunks fAllow rbuf r₀ chunks).parsed hstate
  obtain ⟨out, hrun, -, hcontents, husable⟩ :=
    processRequest_outcome D msgIn set pAuth msgOut hsize hclass hread
  obtain ⟨h, hh⟩ : ∃ h, newHandler { msgIn with pReader := some r } set pAuth buf = h := ⟨_, rfl⟩
  rw [hh] at hrun hcontents husable
  rw [hok] at hrun
  injection hrun with _ hrun
  subst hrun
  have hi : Initial { msgIn with pReader := some r } r pAuth h :=
    hh ▸ initial_newHandler _ msgIn set pAuth hsize
  obtain ⟨hip, hport⟩ := destination_spec h
  rw [hi.msgIn_eq] at hip hport
  rw [hi.reader_eq] at hport
  have hrole : h.msgIn.socketrole = msgIn.socketrole := by rw [hi.msgIn_eq]
  -- Reading the response tells whether the request was accepted.
  have hcomplete := (answers_outcome hi husable).complete
  have hresponse : ∀ (r₁ : CStunMessageReader) (rbuf₁ : Option CBuffer),
      let r' := ((r₁.ready true rbuf₁).addBytes out.contents).2
      r'.state = .bodyValidated ∧ r'.msgClass = match outcome D h with
        | .refused _ => .failureResponse
        | .accepted _ _ => .successResponse := by
    intro r₁ rbuf₁ r'
    have hread' := hcomplete.parsed (.inl rfl)
      (fed_addBytes true rbuf₁ r₁ ((outcome D h).draft D h).octets)
    rw [show r' = _ from congrArg (fun bs => ((r₁.ready true rbuf₁).addBytes bs).2) hcontents]
    exact ⟨hread'.state, (Draft.header_of_parsed hread').2.1.trans (messageClass_draft D h _)⟩
  refine ⟨hip, hport, ?_⟩
  generalize houtcome : outcome D h = o at *
  cases o with
  | refused c =>
    -- An error response is sent from the socket of the request.
    have hsame : (Outcome.refused c).role h = msgIn.socketrole := hrole
    rw [hsame]
    refine ⟨hvalid, fun _ => rfl, out, rfl, fun r₁ rbuf₁ => ?_⟩
    obtain ⟨hstate', hclass'⟩ := hresponse r₁ rbuf₁
    refine ⟨hstate', (if_neg ?_).symm⟩
    rw [hclass']
    exact StunMessageClass.noConfusion
  | accepted socketOutput creds =>
    obtain ⟨hrequested, hthere⟩ := responseSocket_spec (responseSocket_of_accepted houtcome)
    rw [hi.reader_eq, hrole] at hrequested
    rw [hrole, hi.msgIn_eq] at hthere
    dsimp only [Outcome.role]
    refine ⟨?_, fun hconn => ?_, out, rfl, fun r₁ rbuf₁ => ?_⟩
    · rcases hthere with hsame | ⟨haddress, -⟩
      · rwa [hsame]
      · rw [← hh] at haddress
        simpa [hasAddress, address, newHandler] using haddress
    · rcases hthere with hsame | ⟨-, hnot⟩
      · exact hsame
      · rw [hconn] at hnot
        cases hnot
    · obtain ⟨hstate', hclass'⟩ := hresponse r₁ rbuf₁
      exact ⟨hstate', by rw [if_pos hclass', hrequested]⟩

/-- A binding request that asks for an answer from the other port, and for it to be sent to port
4096. -/
def redirectingRequest : List UInt8 :=
  [0x00, 0x01, 0x00, 0x10] ++ List.replicate 16 0 ++
    [0x00, 0x03, 0x00, 0x04, 0, 0, 0, 0x02, 0x00, 0x27, 0x00, 0x02, 0x10, 0x00, 0, 0]

/-- `processRequest_destination` for the redirecting request, on a server with all four sockets. -/
theorem processRequest_destination_redirecting :
    ∃ msgOut', processRequest (.constant (List.replicate 20 0) (List.replicate 16 0) 0 rfl rfl)
        { datagramFrom .zero with
          pReader :=
            some ((({} : CStunMessageReader).ready true none).addChunks [redirectingRequest]) }
        (some fun _ => ⟨.zero, true⟩) none
        ⟨.rolePP, .zero, some (CBuffer.initWithAllocation MAX_STUN_MESSAGE_SIZE)⟩ = .ok () msgOut' ∧
      msgOut'.addrDest.getPort = 4096 := by
  have hsucceeds := processRequest_request
    (.constant (List.replicate 20 0) (List.replicate 16 0) 0 rfl rfl) (datagramFrom .zero)
    (fun _ => ⟨.zero, true⟩) none ⟨.rolePP, .zero, none⟩
    (show MAX_STUN_MESSAGE_SIZE ≤
      (CBuffer.initWithAllocation MAX_STUN_MESSAGE_SIZE).getAllocatedSize
      by decide +kernel)
    (show ((({} : CStunMessageReader).ready true none).addChunks [redirectingRequest]).msgClass =
      .request by decide +kernel)
    ((fed_addChunks true none {} [redirectingRequest]).parsed (by decide +kernel)).choose_spec
  obtain ⟨msgOut', -, -, hrun, -⟩ := hsucceeds
  obtain ⟨-, hport, -⟩ := processRequest_destination
    (.constant (List.replicate 20 0) (List.replicate 16 0) 0 rfl rfl) {} true none
    [redirectingRequest] (datagramFrom .zero) (fun _ => ⟨.zero, true⟩) none ⟨.rolePP, .zero, none⟩
    msgOut' (CBuffer.initWithAllocation MAX_STUN_MESSAGE_SIZE) rfl hrun
  refine ⟨msgOut', hrun, hport.trans ?_⟩
  decide +kernel

end CStunRequestHandler

end Stun
