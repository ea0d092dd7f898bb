import StunForAndroid.StunCore.ReaderReads
import StunForAndroid.StunCore.ReadLoop
import StunForAndroid.StunCore.Verdict

/-!
# What a response depends on

Two readers that were fed the same octets need not be equal: the octets of their buffers past the
message and the slots of their tables that are not in use are left from earlier messages. But each
getter gives the same for both (`Parsed.lookup_same`, `Parsed.dataAt_same`), so that the provider is
asked the same, and when it answers the same, the request has the same outcome (`outcome_same`).
What `ProcessRequest` makes of it is then the same from the same socket to the same address
(`sentBy_processRequest_same`), whatever the buffer of the outgoing message has held before.
-/

namespace Stun

open Octets Fallible CDataStream

namespace CStunMessageReader

/-! ## The getters -/

section SameOctets

variable {fAllow : Bool} {bs : List UInt8} {ts us : List WireAttribute} {r r' : CStunMessageReader}
  (h : Parsed fAllow bs ts r) (h' : Parsed fAllow bs us r')

include h h'

/-- The tables find the same. -/
theorem Parsed.lookup_same (attributeType : UInt16) :
    r.mapAttributes.lookup attributeType = r'.mapAttributes.lookup attributeType := by
  obtain rfl := h.unique h'
  rw [h.lookup_eq, h'.lookup_eq]

/-- The buffers have the same in the value of an attribute. -/
theorem Parsed.dataAt_same {attributeType : UInt16} {a : StunAttribute}
    (ha : r.mapAttributes.lookup attributeType = some a) {n : ℕ} (hn : n ≤ a.size.toNat) :
    r.dataAt a.offset.toNat n = r'.dataAt a.offset.toNat n := by
  obtain ⟨cap, p, hh⟩ := h.live.holds
  have hinside := h.recordsInside attributeType a ha
  rw [hh.size_eq] at hinside
  calc r.dataAt a.offset.toNat n
      = (bs.drop a.offset.toNat).take n := h.dataAt_eq (by omega)
    _ = r'.dataAt a.offset.toNat n := (h'.dataAt_eq (by omega)).symm

/-- `GetResponsePort` gives the same for both readers. -/
theorem Parsed.getResponsePort_same : r.getResponsePort = r'.getResponsePort := by
  unfold getResponsePort
  rw [← h.lookup_same h']
  cases ha : r.mapAttributes.lookup STUN_ATTRIBUTE_RESPONSE_PORT with
  | none => rfl
  | some a =>
    dsimp only
    split_ifs with hsize
    · rfl
    · rw [h.dataAt_same h' ha (by rw [not_not.mp hsize]; decide)]

/-- `GetChangeRequest` gives the same for both readers. -/
theorem Parsed.getChangeRequest_same : r.getChangeRequest = r'.getChangeRequest := by
  unfold getChangeRequest
  rw [← h.lookup_same h']
  cases ha : r.mapAttributes.lookup STUN_ATTRIBUTE_CHANGEREQUEST with
  | none => rfl
  | some a =>
    dsimp only
    split_ifs with hsize
    · rfl
    · rw [h.dataAt_same h' ha (by rw [not_not.mp hsize]; decide)]

/-- `GetPaddingAttributeSize` gives the same for both readers. -/
theorem Parsed.getPaddingAttributeSize_same :
    r.getPaddingAttributeSize = r'.getPaddingAttributeSize := by
  unfold getPaddingAttributeSize
  rw [h.lookup_same h']

/-- `GetStringAttributeByType` gives the same for both readers. -/
theorem Parsed.getStringAttributeByType_same (attributeType : UInt16) (size : ℕ) :
    r.getStringAttributeByType attributeType size =
      r'.getStringAttributeByType attributeType size := by
  unfold getStringAttributeByType
  rw [← h.lookup_same h']
  cases ha : r.mapAttributes.lookup attributeType with
  | none => rfl
  | some a =>
    dsimp only
    rw [h.dataAt_same h' ha le_rfl]

end SameOctets

/-! ## How much is needed -/

/-- `HowManyBytesNeeded` of two readers that were fed the same. -/
theorem Fed.howManyBytesNeeded_same {fAllow : Bool} {bs : List UInt8} {r r' : CStunMessageReader}
    (h : Fed fAllow bs r) (h' : Fed fAllow bs r') :
    r.howManyBytesNeeded = r'.howManyBytesNeeded := by
  have hsame := h.state_eq h'
  apply UInt16.toNat_inj.mp
  cases hstate : r.state with
  | headerNotRead =>
    obtain ⟨-, -, hneeded⟩ := h.needed_headerNotRead hstate
    obtain ⟨-, -, hneeded'⟩ := h'.needed_headerNotRead (hsame ▸ hstate)
    rw [hneeded, hneeded']
  | headerValidated =>
    obtain ⟨-, -, -, -, -, hneeded⟩ := h.needed_headerValidated hstate
    obtain ⟨-, -, -, -, -, hneeded'⟩ := h'.needed_headerValidated (hsame ▸ hstate)
    rw [hneeded, hneeded']
  | bodyValidated =>
    rw [h.needed_eq_zero_iff.mpr (.inl hstate), h'.needed_eq_zero_iff.mpr (.inl (hsame ▸ hstate))]
  | parseError =>
    rw [h.needed_eq_zero_iff.mpr (.inr hstate), h'.needed_eq_zero_iff.mpr (.inr (hsame ▸ hstate))]

end CStunMessageReader

namespace CStunRequestHandler

open CStunMessageReader

/-! ## The outcome -/

section SameOctets

variable {fAllow : Bool} {bs : List UInt8} {ts us : List WireAttribute} {r r' : CStunMessageReader}
  (h : Parsed fAllow bs ts r) (h' : Parsed fAllow bs us r')

include h h'

/-- The handler takes the same strings from both readers. -/
theorem stringAttribute_same (attributeType : UInt16) :
    stringAttribute attributeType r = stringAttribute attributeType r' := by
  unfold stringAttribute
  rw [h.getStringAttributeByType_same h']

/-- The provider is told the same. -/
theorem authAttributes_same : authAttributes r = authAttributes r' := by
  unfold authAttributes hasMessageIntegrityAttribute
  rw [h.lookup_same h', stringAttribute_same h h', stringAttribute_same h h',
    stringAttribute_same h h', stringAttribute_same h h']

/-- The credentials are the same. -/
theorem credentials_same (authresponse : AuthResponse) :
    credentials r authresponse = credentials r' authresponse := by
  unfold credentials
  rw [stringAttribute_same h h', stringAttribute_same h h']

/-- The same credentials validate both readers. -/
theorem validate_same (creds : Credentials) (D : Digests) :
    creds.validate D r = .ok () ↔ creds.validate D r' = .ok () := by
  obtain rfl := h.unique h'
  rw [Credentials.validate_eq h, Credentials.validate_eq h', h.validateMessageIntegrity_ok_iff,
    h'.validateMessageIntegrity_ok_iff]

/-- The same is refused for both readers. -/
theorem refusal_same (D : Digests) (answer : HRESULT × AuthResponse) :
    refusal D r answer = refusal D r' answer := by
  have hvalid := validate_same h h' (credentials r answer.2) D
  unfold refusal
  rw [← credentials_same h h' answer.2]
  split_ifs
  · rfl
  cases answer.2.responseType with
  | allowConditional =>
    -- Whether it validates decides, and not with which error it does not.
    dsimp only
    cases hr : (credentials r answer.2).validate D r with
    | ok u => rw [hvalid.mp hr]
    | error hr =>
      cases hr' : (credentials r answer.2).validate D r' with
      | ok u =>
        rw [hvalid.mpr hr'] at hr
        cases hr
      | error hr => rfl
  | allow => rfl
  | staleNonce => rfl
  | reject => rfl
  | unauthorized => rfl

variable (pAuth pAuth' : Option IStunAuth) (D : Digests) (msgIn : StunMessageIn)
  (set : TransportAddressSet) (buf buf' : CBuffer)

/-- The socket of the response is the same. -/
theorem responseSocket_same :
    responseSocket (newHandler { msgIn with pReader := some r } set pAuth buf) =
      responseSocket (newHandler { msgIn with pReader := some r' } set pAuth' buf') := by
  have hchange :
      (newHandler { msgIn with pReader := some r } set pAuth buf).reader.getChangeRequest =
      (newHandler { msgIn with pReader := some r' } set pAuth' buf').reader.getChangeRequest :=
    h.getChangeRequest_same h'
  unfold responseSocket
  rw [hchange]
  rfl

/-- The socket of a success response is the same. -/
theorem acceptedSocket_same :
    acceptedSocket (newHandler { msgIn with pReader := some r } set pAuth buf) =
      acceptedSocket (newHandler { msgIn with pReader := some r' } set pAuth' buf') := by
  have hport : asksResponsePort r = asksResponsePort r' := by
    unfold asksResponsePort
    rw [h.getResponsePort_same h']
  unfold acceptedSocket
  rw [responseSocket_same h h' pAuth pAuth' msgIn set buf buf']
  show (if asksResponsePort r && r.getPaddingAttributeSize.isOk then _ else _) =
    if asksResponsePort r' && r'.getPaddingAttributeSize.isOk then _ else _
  rw [hport, h.getPaddingAttributeSize_same h']

/-- The draft of an outcome is the same. -/
theorem draft_same (o : Outcome) :
    o.draft D (newHandler { msgIn with pReader := some r } set pAuth buf) =
      o.draft D (newHandler { msgIn with pReader := some r' } set pAuth' buf') := by
  have hsame := h.sameMessage h'
  cases o with
  | refused c =>
    show errorDraft r.msgTypeNormalized r.transactionid r.fMessageIsLegacyFormat c =
      errorDraft r'.msgTypeNormalized r'.transactionid r'.fMessageIsLegacyFormat c
    rw [hsame.msgTypeNormalized, hsame.transactionid, hsame.fMessageIsLegacyFormat]
  | accepted socketOutput creds =>
    unfold Outcome.draft
    simp only [newHandler, reader, Option.getD_some]
    rw [hsame.transactionid, hsame.fMessageIsLegacyFormat]
    rfl

/-- The destination is the same. -/
theorem destination_same :
    destination (newHandler { msgIn with pReader := some r } set pAuth buf) =
      destination (newHandler { msgIn with pReader := some r' } set pAuth' buf') := by
  have hport : (newHandler { msgIn with pReader := some r } set pAuth buf).reader.getResponsePort =
      (newHandler { msgIn with pReader := some r' } set pAuth' buf').reader.getResponsePort :=
    h.getResponsePort_same h'
  unfold destination
  rw [hport]
  rfl

variable {pAuth pAuth'}
  (hanswer : pAuth.map (· (authAttributes r)) = pAuth'.map (· (authAttributes r')))

include hanswer

/-- A provider that answers the same comes to the same verdict. -/
theorem authVerdict_same : authVerdict D pAuth r = authVerdict D pAuth' r' := by
  unfold authVerdict
  cases pAuth with
  | none =>
    cases pAuth' with
    | none => rfl
    | some pAuth' => cases hanswer
  | some pAuth =>
    cases pAuth' with
    | none => cases hanswer
    | some pAuth' =>
      have hsame : pAuth (authAttributes r) = pAuth' (authAttributes r') := Option.some.inj hanswer
      dsimp only
      rw [← hsame, ← refusal_same h h', ← credentials_same h h']

/-- The outcome is the same. -/
theorem outcome_same :
    outcome D (newHandler { msgIn with pReader := some r } set pAuth buf) =
      outcome D (newHandler { msgIn with pReader := some r' } set pAuth' buf') := by
  have hverdict : verdict D (newHandler { msgIn with pReader := some r } set pAuth buf).pAuth
        (newHandler { msgIn with pReader := some r } set pAuth buf).msgIn
        (newHandler { msgIn with pReader := some r } set pAuth buf).reader =
      verdict D (newHandler { msgIn with pReader := some r' } set pAuth' buf').pAuth
        (newHandler { msgIn with pReader := some r' } set pAuth' buf').msgIn
        (newHandler { msgIn with pReader := some r' } set pAuth' buf').reader := by
    show verdict D pAuth { msgIn with pReader := some r } r =
      verdict D pAuth' { msgIn with pReader := some r' } r'
    unfold verdict responsePortOnConnection
    rw [h.getResponsePort_same h', (h.sameMessage h').msgTypeNormalized,
      authVerdict_same h h' D hanswer]
  unfold outcome
  rw [acceptedSocket_same h h' pAuth pAuth' msgIn set buf buf', hverdict]

end SameOctets

/-! ## What is sent -/

/-- What the caller of `ProcessRequest` sends: the socket that it is sent from, the address that it
is sent to, and the octets in the buffer. Nothing is sent when `ProcessRequest` fails. -/
def sentBy : EStateM.Result HRESULT StunMessageOut Unit →
    Option (SocketRole × CSocketAddress × List UInt8)
  | .ok _ msgOut =>
    some (msgOut.socketrole, msgOut.addrDest, (msgOut.spBufferOut.getD {}).contents)
  | .error _ _ => none

section SentBy

variable {fAllow : Bool} {bs : List UInt8} {r r' : CStunMessageReader} (h : Fed fAllow bs r)
  (h' : Fed fAllow bs r') {pAuth pAuth' : Option IStunAuth} {buf buf' : CBuffer}
  (hsize : MAX_STUN_MESSAGE_SIZE ≤ buf.getAllocatedSize)
  (hsize' : MAX_STUN_MESSAGE_SIZE ≤ buf'.getAllocatedSize)

include h hsize

/-- `ProcessRequest` leaves a buffer of the size that it asks for, whether it succeeds or not. -/
theorem processRequest_allocated (D : Digests) (msgIn : StunMessageIn) (set : TransportAddressSet)
    (pAuth : Option IStunAuth) (msgOut : StunMessageOut) :
    ∃ out, (finalState (processRequest D { msgIn with pReader := some r } (some set) pAuth)
        { msgOut with spBufferOut := some buf }).spBufferOut = some out ∧
      MAX_STUN_MESSAGE_SIZE ≤ out.getAllocatedSize := by
  by_cases hstate : r.state = .bodyValidated
  · obtain ⟨ts, hread⟩ := h.parsed hstate
    by_cases hclass : r.msgClass = .request
    · obtain ⟨out, hrun, hout, -⟩ :=
        processRequest_outcome D msgIn set pAuth msgOut hsize hclass hread
      exact ⟨out, by rw [finalState_of_ok hrun], hout⟩
    · have hrun := processRequest_other D msgIn set pAuth msgOut hsize hstate hclass
      exact ⟨⟨buf.data, 0⟩, by rw [finalState_of_error hrun], hsize⟩
  · have hrun := processRequest_unread D msgIn set pAuth msgOut hsize hstate
    exact ⟨buf, by rw [finalState_of_error hrun], hsize⟩

include h' hsize'

/-- What is sent for two readers that were fed the same is the same, when the provider answers the
same. -/
theorem sentBy_processRequest_same (hanswer : r.state = .bodyValidated →
      pAuth.map (· (authAttributes r)) = pAuth'.map (· (authAttributes r'))) (D : Digests)
    (msgIn : StunMessageIn) (set : TransportAddressSet) (msgOut msgOut' : StunMessageOut) :
    sentBy (processRequest D { msgIn with pReader := some r } (some set) pAuth
        { msgOut with spBufferOut := some buf }) =
      sentBy (processRequest D { msgIn with pReader := some r' } (some set) pAuth'
        { msgOut' with spBufferOut := some buf' }) := by
  -- The readers were fed the same, so they are in the same state and have read the same message.
  have hsame := h.state_eq h'
  by_cases hstate : r.state = .bodyValidated
  · obtain ⟨ts, hread⟩ := h.parsed hstate
    obtain ⟨us, hread'⟩ := h'.parsed (hsame ▸ hstate)
    have hmessage := hread.sameMessage hread'
    by_cases hclass : r.msgClass = .request
    · obtain ⟨out, hrun, -, hcontents, -⟩ :=
        processRequest_outcome D msgIn set pAuth msgOut hsize hclass hread
      obtain ⟨out', hrun', -, hcontents', -⟩ :=
        processRequest_outcome D msgIn set pAuth' msgOut' hsize' (hmessage.msgClass ▸ hclass) hread'
      have houtcome := outcome_same hread hread' D msgIn set buf buf' (hanswer hstate)
      rw [houtcome, draft_same hread hread' pAuth pAuth' D msgIn set buf buf'] at hcontents
      rw [hrun, hrun', houtcome, destination_same hread hread' pAuth pAuth' msgIn set buf buf']
      have hout : (some out).getD {} = out ∧ (some out').getD {} = out' := ⟨rfl, rfl⟩
      show some (_, _, CBuffer.contents _) = some (_, _, CBuffer.contents _)
      rw [hout.1, hout.2, hcontents, hcontents']
      cases outcome D (newHandler { msgIn with pReader := some r' } set pAuth' buf') with
      | refused c => rfl
      | accepted socketOutput creds => rfl
    · have hclass' : r'.msgClass ≠ .request := hmessage.msgClass ▸ hclass
      rw [processRequest_other D msgIn set pAuth msgOut hsize hstate hclass,
        processRequest_other D msgIn set pAuth' msgOut' hsize' (hsame ▸ hstate) hclass']
      rfl
  · rw [processRequest_unread D msgIn set pAuth msgOut hsize hstate,
      processRequest_unread D msgIn set pAuth' msgOut' hsize' (hsame ▸ hstate)]
    rfl

end SentBy

end CStunRequestHandler

end Stun
