import StunForAndroid.StunCore.Destination

/-!
# The decision table of a server without authentication

The getters that the handler asks answer from the last attribute of a type, and refuse one of the
wrong size. `BadRequest` says on the attributes of the request alone when there is nothing but an
error to answer it with. The handler comes to that in three functions (`acceptedSocket_eq_none_iff`,
`verdict_eq_badRequest_iff`), and `processRequest_decision` is what the client reads.
-/

namespace Stun

open Octets Fallible CDataStream CStunMessageBuilder

namespace CStunMessageReader

/-! ## The attributes that the handler asks for -/

/-- The last attribute of a type. -/
def lastOfType (attributeType : UInt16) (ts : List WireAttribute) : Option WireAttribute :=
  ts.reverse.find? fun t => t.type = attributeType

/-- The port in a RESPONSE-PORT of the right size. -/
def wireResponsePort (ts : List WireAttribute) : Option UInt16 :=
  (lastOfType STUN_ATTRIBUTE_RESPONSE_PORT ts).bind fun t =>
    if t.value.length = 2 then some (UInt16.ofNat (ofBE t.value)) else none

/-- The flags in a CHANGE-REQUEST of the right size. -/
def wireChangeRequest (ts : List WireAttribute) : Option StunChangeRequestAttribute :=
  (lastOfType STUN_ATTRIBUTE_CHANGEREQUEST ts).bind fun t =>
    if t.value.length = 4 then
      let value := UInt32.ofNat (ofBE t.value)
      some ⟨value &&& 0x0004 != 0, value &&& 0x0002 != 0⟩
    else none

section Wire

variable {fAllow : Bool} {bs : List UInt8} {ts before after : List WireAttribute}
    {t : WireAttribute}
  {attributeType : UInt16} {r : CStunMessageReader}

/-- No attribute is the last of a type that none has. -/
theorem lastOfType_eq_none (h : ∀ x ∈ ts, x.type ≠ attributeType) :
    lastOfType attributeType ts = none := by
  rw [lastOfType, List.find?_eq_none]
  intro x hx
  simpa using h x (List.mem_reverse.mp hx)

/-- An attribute that no other one of its type comes after is the last of its type. -/
theorem lastOfType_append_cons (htype : t.type = attributeType)
    (hafter : ∀ x ∈ after, x.type ≠ attributeType) :
    lastOfType attributeType (before ++ t :: after) = some t := by
  rw [lastOfType, List.reverse_append, List.reverse_cons, List.append_assoc, List.find?_append,
    List.find?_eq_none.mpr, Option.none_or, List.singleton_append,
    List.find?_cons_of_pos (by simpa using htype)]
  intro x hx
  simpa using hafter x (List.mem_reverse.mp hx)

/-- A last attribute of a type is there exactly when an attribute has the type. -/
theorem isSome_lastOfType : (lastOfType attributeType ts).isSome ↔
    ∃ t ∈ ts, t.type = attributeType := by
  simp [lastOfType, List.find?_isSome]

/-- The table finds for a type the record of the last attribute of the type, with its value. -/
theorem Parsed.lookup_spec (h : Parsed fAllow bs ts r) (attributeType : UInt16) :
    match lastOfType attributeType ts with
    | none => r.mapAttributes.lookup attributeType = none
    | some t => ∃ a, r.mapAttributes.lookup attributeType = some a ∧ a.size.toNat = t.value.length ∧
        r.dataAt a.offset.toNat t.value.length = t.value := by
  rcases exists_last attributeType ts with hnone | ⟨before, t, after, rfl, rfl, hafter⟩
  · rw [lastOfType_eq_none hnone]
    exact h.lookup_none hnone
  · rw [lastOfType_append_cons rfl hafter]
    obtain ⟨a, hlookup, hsize, -, hdata⟩ := h.lookup_value hafter
    exact ⟨a, hlookup, hsize, hsize ▸ hdata⟩

/-- `GetResponsePort` succeeds with the port of a RESPONSE-PORT of the right size. -/
theorem Parsed.getResponsePort_ok_iff (h : Parsed fAllow bs ts r) (port : UInt16) :
    r.getResponsePort = .ok port ↔ wireResponsePort ts = some port := by
  have hspec := h.lookup_spec STUN_ATTRIBUTE_RESPONSE_PORT
  unfold getResponsePort wireResponsePort
  cases hlast : lastOfType STUN_ATTRIBUTE_RESPONSE_PORT ts with
  | none =>
    rw [hlast] at hspec
    simp [show r.mapAttributes.lookup STUN_ATTRIBUTE_RESPONSE_PORT = none from hspec]
  | some t =>
    rw [hlast] at hspec
    obtain ⟨a, hlookup, hsize, hdata⟩ := hspec
    have hiff : a.size = STUN_ATTRIBUTE_RESPONSE_PORT_SIZE ↔ t.value.length = 2 := by
      rw [← hsize]
      exact UInt16.toNat_inj.symm
    rw [hlookup]
    dsimp only [Option.bind_some]
    by_cases h2 : t.value.length = 2
    · rw [h2] at hdata
      rw [if_neg (not_not.mpr (hiff.mpr h2)), hdata, if_pos h2, ntohs_ofLE h2]
      simp
    · rw [if_pos (fun hsize => h2 (hiff.mp hsize)), if_neg h2]
      simp

/-- `GetChangeRequest` succeeds with the flags of a CHANGE-REQUEST of the right size. -/
theorem Parsed.getChangeRequest_ok_iff (h : Parsed fAllow bs ts r)
    (changerequest : StunChangeRequestAttribute) :
    r.getChangeRequest = .ok changerequest ↔ wireChangeRequest ts = some changerequest := by
  have hspec := h.lookup_spec STUN_ATTRIBUTE_CHANGEREQUEST
  unfold getChangeRequest wireChangeRequest
  cases hlast : lastOfType STUN_ATTRIBUTE_CHANGEREQUEST ts with
  | none =>
    rw [hlast] at hspec
    simp [show r.mapAttributes.lookup STUN_ATTRIBUTE_CHANGEREQUEST = none from hspec]
  | some t =>
    rw [hlast] at hspec
    obtain ⟨a, hlookup, hsize, hdata⟩ := hspec
    have hiff : a.size = STUN_ATTRIBUTE_CHANGEREQUEST_SIZE ↔ t.value.length = 4 := by
      rw [← hsize]
      exact UInt16.toNat_inj.symm
    rw [hlookup]
    dsimp only [Option.bind_some]
    by_cases h4 : t.value.length = 4
    · rw [h4] at hdata
      rw [if_neg (not_not.mpr (hiff.mpr h4)), hdata, if_pos h4, ntohl_ofLE h4]
      simp
    · rw [if_pos (fun hsize => h4 (hiff.mp hsize)), if_neg h4]
      simp

/-- `GetPaddingAttributeSize` succeeds when there is a PADDING, of any size. -/
theorem Parsed.isOk_getPaddingAttributeSize (h : Parsed fAllow bs ts r) :
    r.getPaddingAttributeSize.isOk = true ↔ ∃ t ∈ ts, t.type = STUN_ATTRIBUTE_PADDING := by
  have hspec := h.lookup_spec STUN_ATTRIBUTE_PADDING
  rw [← isSome_lastOfType]
  unfold getPaddingAttributeSize
  cases hlast : lastOfType STUN_ATTRIBUTE_PADDING ts with
  | none =>
    rw [hlast] at hspec
    simp [show r.mapAttributes.lookup STUN_ATTRIBUTE_PADDING = none from hspec, Except.isOk,
      Except.toBool]
  | some t =>
    rw [hlast] at hspec
    obtain ⟨a, hlookup, -, -⟩ := hspec
    simp [hlookup, Except.isOk, Except.toBool]

end Wire

end CStunMessageReader

namespace CStunRequestHandler

open CStunMessageReader

/-! ## The table -/

/-- The request has a RESPONSE-PORT that is not zero. -/
def WantsPort (ts : List WireAttribute) : Prop :=
  ∃ port, wireResponsePort ts = some port ∧ port ≠ 0

/-- The request asks for a socket that it cannot be answered from: one that is not there, or another
one on a connection. -/
def WantsMissingSocket (set : TransportAddressSet) (msgIn : StunMessageIn)
    (ts : List WireAttribute) : Prop :=
  ∃ changerequest, wireChangeRequest ts = some changerequest ∧
    (changerequest.fChangeIP = true ∨ changerequest.fChangePort = true) ∧
    ((set (answeringRole changerequest msgIn.socketrole)).fValid = false ∨
      msgIn.fConnectionOriented = true)

/-- The request is answered with an error. -/
def BadRequest (set : TransportAddressSet) (msgIn : StunMessageIn) (msgType : UInt16)
    (ts : List WireAttribute) : Prop :=
  msgType ≠ StunMsgTypeBinding ∨
    msgIn.fConnectionOriented = true ∧ WantsPort ts ∨
    WantsPort ts ∧ (∃ t ∈ ts, t.type = STUN_ATTRIBUTE_PADDING) ∨
    WantsMissingSocket set msgIn ts

section Table

variable {fAllow : Bool} {bs : List UInt8} {ts : List WireAttribute} {h : CStunRequestHandler}
  {set : TransportAddressSet}

/-- The handler finds the response port. -/
theorem asksResponsePort_iff {r : CStunMessageReader} (hread : Parsed fAllow bs ts r) :
    asksResponsePort r = true ↔ WantsPort ts := by
  have hiff := hread.getResponsePort_ok_iff
  unfold asksResponsePort WantsPort
  simp only [← hiff]
  cases r.getResponsePort with
  | error hr => simp
  | ok responseport => simp

/-- The handler finds no socket to answer from. -/
theorem responseSocket_eq_none_iff (hset : h.pAddrSet = some set)
    (hread : Parsed fAllow bs ts h.reader) :
    h.responseSocket = none ↔ WantsMissingSocket set h.msgIn ts := by
  have hiff := hread.getChangeRequest_ok_iff
  have hthere : ∀ role, h.hasAddress role = (set role).fValid := by
    intro role
    simp [hasAddress, address, hset]
  unfold WantsMissingSocket
  simp only [← hiff]
  cases hchange : h.reader.getChangeRequest with
  | error hr =>
    unfold responseSocket
    rw [hchange]
    simp
  | ok changerequest =>
    rw [responseSocket_eq hchange]
    dsimp only
    simp only [hthere, Except.ok.injEq, exists_eq_left']
    -- A request that asks for no change is answered from the socket that it came to.
    by_cases hany : (changerequest.fChangeIP || changerequest.fChangePort) = true
    · rw [if_pos hany]
      simp only [Bool.or_eq_true] at hany
      cases hvalid : (set (answeringRole changerequest h.msgIn.socketrole)).fValid with
      | false => simp [hany]
      | true => simp [hany]
    · rw [if_neg hany]
      simp only [Bool.or_eq_true] at hany
      simp [hany]

/-- `ProcessBindingRequest` accepts no socket exactly when a response port comes with padding, or
the socket asked for is missing. -/
theorem acceptedSocket_eq_none_iff (hset : h.pAddrSet = some set)
    (hread : Parsed fAllow bs ts h.reader) :
    h.acceptedSocket = none ↔
      WantsPort ts ∧ (∃ t ∈ ts, t.type = STUN_ATTRIBUTE_PADDING) ∨
        WantsMissingSocket set h.msgIn ts := by
  rw [← responseSocket_eq_none_iff hset hread, ← asksResponsePort_iff hread,
    ← hread.isOk_getPaddingAttributeSize]
  unfold acceptedSocket
  rw [← Bool.and_eq_true]
  split_ifs with hpad
  · exact iff_of_true rfl (.inl hpad)
  · exact (or_iff_right hpad).symm

/-- Without a provider the verdict is that of the checks before authentication. -/
theorem verdict_none (D : Digests) (r : CStunMessageReader) (msgIn : StunMessageIn) :
    verdict D none msgIn r = if r.msgTypeNormalized ≠ StunMsgTypeBinding ∨
        msgIn.fConnectionOriented = true ∧ asksResponsePort r = true then .error .badRequest
      else .ok none := by
  have hport : responsePortOnConnection msgIn r =
      (msgIn.fConnectionOriented && asksResponsePort r) := rfl
  unfold verdict
  simp only [hport, Bool.and_eq_true]
  exact if_congr or_comm rfl rfl

/-- Without a provider a request is refused exactly when it is a bad one. -/
theorem outcome_none (D : Digests) (hset : h.pAddrSet = some set) (hauth : h.pAuth = none)
    (hread : Parsed fAllow bs ts h.reader) :
    (BadRequest set h.msgIn h.reader.msgTypeNormalized ts → outcome D h = .refused .badRequest) ∧
      (¬BadRequest set h.msgIn h.reader.msgTypeNormalized ts →
        ∃ socketOutput, outcome D h = .accepted socketOutput none) := by
  have hsocket := acceptedSocket_eq_none_iff hset hread
  unfold outcome BadRequest
  rw [hauth, verdict_none, ← asksResponsePort_iff hread]
  rw [← asksResponsePort_iff hread] at hsocket
  -- What is looked at before the binding request is processed.
  by_cases hbefore : h.reader.msgTypeNormalized ≠ StunMsgTypeBinding ∨
      h.msgIn.fConnectionOriented = true ∧ asksResponsePort h.reader = true
  · rw [if_pos hbefore]
    exact ⟨fun _ => rfl, fun hgood => absurd (hbefore.imp_right .inl) hgood⟩
  · rw [if_neg hbefore]
    dsimp only
    cases hs : h.acceptedSocket with
    | none =>
      have hbad := hsocket.mp hs
      exact ⟨fun _ => rfl, fun hgood => absurd (.inr (.inr hbad)) hgood⟩
    | some socketOutput =>
      have hgood : ¬_ := fun hbad => Option.some_ne_none _ (hs.symm.trans (hsocket.mpr hbad))
      refine ⟨fun hbad => absurd ?_ hgood, fun _ => ⟨socketOutput, rfl⟩⟩
      rcases hbad with htype | hconn | hbad
      · exact absurd (.inl htype) hbefore
      · exact absurd (.inr hconn) hbefore
      · exact hbad

end Table

/-! ## The response -/

/-- A server without a provider answers a request with the error of a bad request exactly when the
table says so, and else with a success response to a binding request. -/
theorem processRequest_decision (D : Digests) (r₀ : CStunMessageReader) (fAllow : Bool)
    (rbuf : Option CBuffer) (chunks : List (List UInt8)) (msgIn : StunMessageIn)
    (set : TransportAddressSet) (msgOut : StunMessageOut) (buf : CBuffer)
    (hsize : MAX_STUN_MESSAGE_SIZE ≤ buf.getAllocatedSize)
    (hstate : ((r₀.ready fAllow rbuf).addChunks chunks).state = .bodyValidated)
    (hclass : ((r₀.ready fAllow rbuf).addChunks chunks).msgClass = .request) :
    let r := (r₀.ready fAllow rbuf).addChunks chunks
    ∃ ts msgOut' out, Reads chunks.flatten ts r ∧
      processRequest D { msgIn with pReader := some r } (some set) none
        { msgOut with spBufferOut := some buf } = .ok () msgOut' ∧
      msgOut'.spBufferOut = some out ∧ ∀ (r₁ : CStunMessageReader) (rbuf₁ : Option CBuffer),
        let r' := ((r₁.ready true rbuf₁).addBytes out.contents).2
        r'.state = .bodyValidated ∧
        (r'.msgClass = .failureResponse ∧ r'.getErrorCode = .ok STUN_ERROR_BADREQUEST ↔
          BadRequest set msgIn r.msgTypeNormalized ts) ∧
        (¬BadRequest set msgIn r.msgTypeNormalized ts →
          r'.msgClass = .successResponse ∧ r'.msgTypeNormalized = StunMsgTypeBinding) := by
  intro r
  obtain ⟨ts, hread⟩ := (fed_addChunks fAllow rbuf r₀ chunks).parsed hstate
  obtain ⟨out, hrun, -, hcontents, husable⟩ :=
    processRequest_outcome D msgIn set none msgOut hsize hclass hread
  have hi := initial_newHandler r msgIn set none hsize
  obtain ⟨hbad, hgood⟩ := outcome_none D
    (show (newHandler { msgIn with pReader := some r } set none buf).pAddrSet = some set from rfl)
    rfl hread
  have hcomplete := (answers_outcome hi husable).complete
  refine ⟨ts, _, out, hread.reads, hrun, rfl, fun r₁ rbuf₁ => ?_⟩
  have hread' := hcomplete.parsed (.inl rfl) (fed_addBytes true rbuf₁ r₁ _)
  rw [← hcontents] at hread'
  refine ⟨hread'.state, ?_⟩
  -- The response is an error or a success, and the table says which.
  by_cases h : BadRequest set msgIn r.msgTypeNormalized ts
  · rw [hcontents, hbad h] at hread' ⊢
    have herror := isErrorResponse hread'
    exact ⟨iff_of_true ⟨herror.msgClass, herror.getErrorCode⟩ h, fun hgood => absurd h hgood⟩
  · obtain ⟨socketOutput, haccepted⟩ := hgood h
    rw [hcontents, haccepted] at hread' ⊢
    have hsuccess := header_of_successDraft hread'
    refine ⟨iff_of_false (fun herror => ?_) h, fun _ => hsuccess⟩
    rw [hsuccess.1] at herror
    cases herror.1

/-- The octets of a request that is not a binding request. -/
def sharedSecretRequest : List UInt8 := [0x00, 0x02, 0x00, 0x00] ++ List.replicate 16 0

/-- `processRequest_decision` for a shared secret request. -/
theorem processRequest_decision_sharedSecret :
    ∃ msgOut' out, processRequest (.constant (List.replicate 20 0) (List.replicate 16 0) 0 rfl rfl)
        { datagramFrom .zero with
          pReader := some ((({} : CStunMessageReader).ready true none).addChunks
            [sharedSecretRequest]) }
        (some fun _ => ⟨.zero, true⟩) none
        ⟨.rolePP, .zero, some (CBuffer.initWithAllocation MAX_STUN_MESSAGE_SIZE)⟩ = .ok () msgOut' ∧
      msgOut'.spBufferOut = some out ∧
      ((({} : CStunMessageReader).ready true none).addBytes out.contents).2.getErrorCode =
        .ok STUN_ERROR_BADREQUEST := by
  obtain ⟨ts, msgOut', out, -, hrun, hout, hread⟩ := processRequest_decision
    (.constant (List.replicate 20 0) (List.replicate 16 0) 0 rfl rfl) {} true none
    [sharedSecretRequest] (datagramFrom .zero) (fun _ => ⟨.zero, true⟩) ⟨.rolePP, .zero, none⟩
    (CBuffer.initWithAllocation MAX_STUN_MESSAGE_SIZE) (by decide +kernel) (by decide +kernel)
    (by decide +kernel)
  obtain ⟨-, hbad, -⟩ := hread {} none
  exact ⟨msgOut', out, hrun, hout, (hbad.mpr (.inl (by decide +kernel))).2⟩

end CStunRequestHandler

end Stun
