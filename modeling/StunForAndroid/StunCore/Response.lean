import StunForAndroid.StunCore.Verdict

/-!
# What a client reads in a response

A reader that is fed what the handler has left in the buffer accepts it. It is a response to the
request: it has the request's transaction id and format, a success response has the client's address
twice, and an error response the code of the verdict and the strings that go with it.

`processRequest_gate` is what the authentication provider can rely on, and `processRequest_answers`
what the network can: one response to a request, and nothing to anything else.
-/

namespace Stun

open Octets Fallible CDataStream CStunMessageBuilder

/-! ## Strings in a response -/

namespace CStunMessageReader

/-- The reader finds a string that is not empty, and no attribute for an empty one. -/
def Carries (attribType : UInt16) (s : CString) (r : CStunMessageReader) : Prop :=
  if s.strlen = 0 then r.getAttributeByType attribType = .error E_FAIL
  else ∃ value, r.getStringAttributeByType attribType (MAX_STUN_AUTH_STRING_SIZE + 1) = .ok value ∧
    CString.ofArray value = s

end CStunMessageReader

namespace CStunRequestHandler

open CStunMessageReader

/-! ## Reading an error response -/

section Attributes

variable {allowLegacy : Bool} {bs : List UInt8} {before after ts : List WireAttribute}
  {r : CStunMessageReader}

/-- The attributes of a string have its type. -/
theorem type_of_mem_stringAttributes {fLegacy : Bool} {attribType : UInt16} {s : CString}
    {h : s.strlen ≤ MAX_STUN_AUTH_STRING_SIZE} {x : WireAttribute}
    (hx : x ∈ stringAttributes fLegacy attribType s h) : x.type = attribType := by
  unfold stringAttributes at hx
  split_ifs at hx
  · cases hx
  · rw [List.mem_singleton.mp hx, ofValue_type]

/-- A string that the builder has added is what the reader finds, with or without padding. -/
theorem carries_of_stringAttributes {fLegacy : Bool} {attribType : UInt16} {s : CString}
    (hs : s.strlen ≤ MAX_STUN_AUTH_STRING_SIZE)
    (h : Parsed allowLegacy bs (before ++ stringAttributes fLegacy attribType s hs ++ after) r)
    (hbefore : ∀ x ∈ before, x.type ≠ attribType) (hafter : ∀ x ∈ after, x.type ≠ attribType) :
    Carries attribType s r := by
  unfold Carries
  unfold stringAttributes at h
  split_ifs with h0
  · rw [if_pos h0, List.append_nil] at h
    unfold getAttributeByType
    rw [h.lookup_none fun x hx => (List.mem_append.mp hx).elim (hbefore x) (hafter x)]
  · rw [if_neg h0, List.append_assoc, List.singleton_append] at h
    have hfit : (ofValue fLegacy attribType s.chars (paddedString_le hs)).value.length <
        MAX_STUN_AUTH_STRING_SIZE + 1 := by
      unfold CString.strlen MAX_STUN_AUTH_STRING_SIZE at hs
      rw [ofValue_value_append, List.length_append, List.length_replicate]
      unfold padLength MAX_STUN_AUTH_STRING_SIZE
      split_ifs <;> omega
    have hread := h.getStringAttributeByType_eq ofValue_value_append hfit (by rwa [ofValue_type])
    rwa [ofValue_type] at hread

end Attributes

/-- A reader finds an error response: the code of an error, and its strings, and nothing else. -/
structure IsErrorResponse (c : Challenge) (r : CStunMessageReader) : Prop where
  msgClass : r.msgClass = .failureResponse
  getErrorCode : r.getErrorCode = .ok c.errorcode
  nonce : Carries STUN_ATTRIBUTE_NONCE c.szNonce r
  realm : Carries STUN_ATTRIBUTE_REALM c.szRealm r
  count : r.getAttributeCount = 1 + (if c.szNonce.strlen = 0 then 0 else 1) +
    (if c.szRealm.strlen = 0 then 0 else 1)

section ErrorResponse

variable {fAllow fLegacy : Bool} {msgType : UInt16} {transid : StunTransactionId} {c : Challenge}
  {r : CStunMessageReader}

/-- The error code is read back from an error response. -/
theorem getErrorCode_of_errorDraft
    (h : Parsed fAllow (errorDraft msgType transid fLegacy c).octets
      (errorAttributes fLegacy c) r) :
    r.getErrorCode = .ok c.errorcode := by
  have htype : (errorAttribute fLegacy c.errorcode).type = STUN_ATTRIBUTE_ERRORCODE := ofValue_type
  unfold errorAttributes at h
  rw [← List.nil_append (_ :: _)] at h
  have hcode : ¬c.errorcode < 300 ∧ ¬c.errorcode > 600 := by
    rcases c.errorcode_mem with ⟨hcode, -⟩ | hcode | hcode <;> rw [hcode] <;> decide
  refine h.getErrorCode_eq htype ofValue_value_append hcode.1 hcode.2 fun x hx => ?_
  rw [htype]
  rcases List.mem_append.mp hx with hx | hx <;>
    rw [type_of_mem_stringAttributes hx] <;> decide

/-- The draft of an error response is read as one. -/
theorem isErrorResponse
    (h : Parsed fAllow (errorDraft msgType transid fLegacy c).octets
      (errorAttributes fLegacy c) r) :
    IsErrorResponse c r := by
  -- The other attributes are looked up past the error code.
  have herror : ∀ attribType, attribType ≠ STUN_ATTRIBUTE_ERRORCODE →
      (errorAttribute fLegacy c.errorcode).type ≠ attribType := by
    intro attribType hne
    have htype : (errorAttribute fLegacy c.errorcode).type = STUN_ATTRIBUTE_ERRORCODE :=
      ofValue_type
    rw [htype]
    exact hne.symm
  constructor
  · obtain ⟨-, hclass, -⟩ := Draft.header_of_parsed h
    rw [hclass]
    exact messageClass_msgTypeField msgType (by decide)
  · exact getErrorCode_of_errorDraft h
  · have hsplit : Parsed fAllow (errorDraft msgType transid fLegacy c).octets
        ([errorAttribute fLegacy c.errorcode] ++
          stringAttributes fLegacy STUN_ATTRIBUTE_NONCE c.szNonce c.strlen_szNonce ++
          stringAttributes fLegacy STUN_ATTRIBUTE_REALM c.szRealm c.strlen_szRealm) r := by
      simpa [errorAttributes] using h
    refine carries_of_stringAttributes c.strlen_szNonce hsplit ?_ ?_
    · simpa using herror _ (by decide)
    · intro x hx
      rw [type_of_mem_stringAttributes hx]
      decide
  · have hsplit : Parsed fAllow (errorDraft msgType transid fLegacy c).octets
        ((errorAttribute fLegacy c.errorcode ::
          stringAttributes fLegacy STUN_ATTRIBUTE_NONCE c.szNonce c.strlen_szNonce) ++
          stringAttributes fLegacy STUN_ATTRIBUTE_REALM c.szRealm c.strlen_szRealm ++ []) r := by
      simpa [errorAttributes] using h
    refine carries_of_stringAttributes c.strlen_szRealm hsplit ?_ (by simp)
    intro x hx
    rcases List.mem_cons.mp hx with rfl | hx
    · exact herror _ (by decide)
    · rw [type_of_mem_stringAttributes hx]
      decide
  · rw [h.getAttributeCount_eq]
    unfold errorAttributes stringAttributes
    split_ifs <;> rfl

end ErrorResponse

/-! ## Reading a success response -/

/-- The attribute of an address has its type. -/
theorem type_addressAttribute (t : UInt16) (addr : CSocketAddress) :
    (addressAttribute t addr).type = t :=
  ofValue_type

/-- The attribute of an address that may be missing has the type asked for. -/
theorem type_of_mem_toList {t : UInt16} {addr : Option CSocketAddress} {x : WireAttribute}
    (hx : x ∈ addr.toList.map (addressAttribute t)) : x.type = t := by
  obtain ⟨addr, -, rfl⟩ := List.mem_map.mp hx
  exact type_addressAttribute t addr

section SuccessResponse

variable {fAllow fLegacy : Bool} {D : Digests} {transid : StunTransactionId}
  {addrRemote : CSocketAddress} {addrOrigin addrOther : Option CSocketAddress}
  {creds : Option Credentials} {r : CStunMessageReader}

/-- A success response is read as one, to a binding request. -/
theorem header_of_successDraft
    (h : Parsed fAllow
      (successDraft D transid fLegacy addrRemote addrOrigin addrOther creds).octets
      (successDraft D transid fLegacy addrRemote addrOrigin addrOther creds).attributes r) :
    r.msgClass = .successResponse ∧ r.msgTypeNormalized = StunMsgTypeBinding := by
  have hfield : (successDraft D transid fLegacy addrRemote addrOrigin addrOther creds).typeField =
      msgTypeField StunMsgTypeBinding .successResponse := by
    cases creds <;> rfl
  obtain ⟨htype, hclass, -⟩ := Draft.header_of_parsed h
  rw [hfield] at htype hclass
  exact ⟨hclass.trans (messageClass_msgTypeField _ (by decide)),
    htype.trans (normalizedType_msgTypeField (by decide) _)⟩

/-- The client's address is in a success response. -/
theorem getMappedAddress_of_successDraft
    (h : Parsed fAllow
      (successDraft D transid fLegacy addrRemote addrOrigin addrOther creds).octets
      (successDraft D transid fLegacy addrRemote addrOrigin addrOther creds).attributes r) :
    r.getMappedAddress = .ok addrRemote := by
  obtain ⟨mi, hattributes, -, hmi⟩ :=
    attributes_successDraft D transid fLegacy addrRemote addrOrigin addrOther creds
  rw [hattributes, successAttributes, List.cons_append, ← List.nil_append (_ :: _)] at h
  refine h.getAddressHelper_eq fun x hx => ?_
  simp only [List.mem_append, List.mem_singleton] at hx
  rcases hx with ((hx | hx) | rfl) | hx
  · rw [type_of_mem_toList hx]
    cases fLegacy <;> decide
  · rw [type_of_mem_toList hx]
    cases fLegacy <;> decide
  · rw [type_addressAttribute]
    cases fLegacy <;> decide
  · rw [hmi x hx]
    decide

/-- The client's address is in a success response a second time, under the exclusive or. -/
theorem getXorMappedAddress_of_successDraft
    (h : Parsed fAllow
      (successDraft D transid fLegacy addrRemote addrOrigin addrOther creds).octets
      (successDraft D transid fLegacy addrRemote addrOrigin addrOther creds).attributes r)
    (htransid : r.transactionid = transid) : r.getXorMappedAddress = .ok addrRemote := by
  obtain ⟨mi, hattributes, -, hmi⟩ :=
    attributes_successDraft D transid fLegacy addrRemote addrOrigin addrOther creds
  have hsplit : Parsed fAllow
      (successDraft D transid fLegacy addrRemote addrOrigin addrOther creds).octets
      ((addressAttribute STUN_ATTRIBUTE_MAPPEDADDRESS addrRemote ::
        (addrOrigin.toList.map (addressAttribute (originType fLegacy)) ++
          addrOther.toList.map (addressAttribute (otherType fLegacy)))) ++
        addressAttribute (xorMappedType fLegacy) (addrRemote.applyStunXorMap transid) :: mi) r := by
    rw [hattributes] at h
    simpa [successAttributes] using h
  have hxor : r.getAddressHelper (xorMappedType fLegacy) =
      .ok (addrRemote.applyStunXorMap transid) := by
    refine hsplit.getAddressHelper_eq fun x hx => ?_
    rw [hmi x hx]
    cases fLegacy <;> decide
  have hinv : (addrRemote.applyStunXorMap transid).applyStunXorMap transid = addrRemote :=
    CSocketAddress.applyStunXorMap_involutive transid addrRemote
  unfold getXorMappedAddress
  cases fLegacy with
  | false =>
    rw [show r.getAddressHelper STUN_ATTRIBUTE_XORMAPPEDADDRESS = _ from hxor, htransid]
    exact congrArg Except.ok hinv
  | true =>
    -- A legacy response does not have the attribute that is looked for first.
    have hnone : r.getAddressHelper STUN_ATTRIBUTE_XORMAPPEDADDRESS = .error E_FAIL := by
      refine hsplit.getAddressHelper_none fun x hx => ?_
      simp only [List.mem_append, List.mem_cons] at hx
      rcases hx with (rfl | hx | hx) | rfl | hx
      · rw [type_addressAttribute]
        decide
      · rw [type_of_mem_toList hx]
        decide
      · rw [type_of_mem_toList hx]
        decide
      · rw [type_addressAttribute]
        decide
      · rw [hmi x hx]
        decide
    rw [hnone, show r.getAddressHelper STUN_ATTRIBUTE_XORMAPPEDADDRESS_OPTIONAL = _ from hxor,
      htransid]
    exact congrArg Except.ok hinv

end SuccessResponse

/-! ## The response to a request -/

/-- A message type has 12 bits. -/
theorem normalizedType_lt (t : UInt16) : (normalizedType t).toNat < 4096 := by
  have hlow : t.toNat &&& 0x000f ≤ 0x000f := Nat.and_le_right
  have hmid : t.toNat &&& 0x00e0 ≤ 0x00e0 := Nat.and_le_right
  have hhigh : t.toNat &&& 0x3e00 ≤ 0x3e00 := Nat.and_le_right
  unfold normalizedType
  simp only [UInt16.toNat_or, UInt16.toNat_and, UInt16.toNat_shiftRight, UInt16.reduceToNat,
    Nat.shiftRight_eq_div_pow, Nat.reduceMod, Nat.reducePow]
  exact Nat.or_lt_two_pow (n := 12) (Nat.or_lt_two_pow (by omega) (by omega)) (by omega)

/-- Whether a message is in the legacy format depends on its transaction id. -/
theorem legacyField_eq {bs : List UInt8} (h : STUN_HEADER_SIZE ≤ bs.length) :
    legacyField bs = (UInt32.ofNat (ofBE ((transidField bs).id.take 4)) != STUN_COOKIE) := by
  have h16 : ((bs.drop 4).take STUN_TRANSACTION_ID_LENGTH).length = STUN_TRANSACTION_ID_LENGTH := by
    unfold STUN_HEADER_SIZE STUN_TRANSACTION_ID_LENGTH at *
    rw [List.length_take, List.length_drop]
    omega
  have hid : (transidField bs).id = (bs.drop 4).take STUN_TRANSACTION_ID_LENGTH :=
    fixedArray_of_length h16
  rw [legacyField, hid, List.take_take, min_eq_left (by decide)]

/-- A response has the transaction id and the format of the request. -/
structure SameTransaction (r r' : CStunMessageReader) : Prop where
  transid : r'.transactionid = r.transactionid
  legacy : r'.fMessageIsLegacyFormat = r.fMessageIsLegacyFormat

/-- A draft with the transaction id of a request is read as belonging to it. -/
theorem sameTransaction {fAllow fAllow' : Bool} {bs : List UInt8} {ts : List WireAttribute}
    {r r' : CStunMessageReader} {d : Draft} (h : Parsed fAllow bs ts r)
    (h' : Parsed fAllow' d.octets d.attributes r') (hd : d.transid = r.transactionid) :
    SameTransaction r r' := by
  have htransid : r'.transactionid = r.transactionid := by
    rw [(Draft.header_of_parsed h').2.2, hd]
  have hlen := h.length
  have hlen' := h'.length
  refine ⟨htransid, ?_⟩
  rw [h.header.legacy, h'.header.legacy, legacyField_eq (by omega), legacyField_eq (by omega),
    ← h.header.transid, ← h'.header.transid, htransid]

/-- What a client that sent a request from `addrRemote` reads in the response: the address, or an
error. -/
structure IsResponse (addrRemote : CSocketAddress) (r r' : CStunMessageReader) : Prop
    extends SameTransaction r r' where
  state : r'.state = .bodyValidated
  outcome :
    r'.msgClass = .successResponse ∧ r'.msgTypeNormalized = StunMsgTypeBinding ∧
        r'.getMappedAddress = .ok addrRemote ∧ r'.getXorMappedAddress = .ok addrRemote ∨
      r'.msgClass = .failureResponse ∧ r'.msgTypeNormalized = r.msgTypeNormalized

/-- The reader finds a message integrity as the last attribute. -/
def EndsInIntegrity (r : CStunMessageReader) : Prop :=
  ∃ a, r.getAttributeByIndex (r.getAttributeCount - 1) = .ok a ∧
    a.attributeType = STUN_ATTRIBUTE_MESSAGEINTEGRITY

section Outcome

variable {D : Digests} {msgIn : StunMessageIn} {reader r' : CStunMessageReader}
  {v : Except Challenge (Option Credentials)} {d : Draft}

/-- The handler sends complete messages. -/
theorem Answers.complete (h : Answers D msgIn reader v d) : d.Complete := by
  cases h with
  | refused c => exact complete_errorDraft _ _ _ c
  | badRequest creds => exact complete_errorDraft _ _ _ _
  | success creds addrOrigin addrOther usable => exact complete_successDraft _ _ _ _ _ _ _

/-- What the handler sends is a response to the request. -/
theorem Answers.isResponse (h : Answers D msgIn reader v d) {fAllow fAllow' : Bool}
    {bs : List UInt8} {ts : List WireAttribute} (hread : Parsed fAllow bs ts reader)
    (hread' : Parsed fAllow' d.octets d.attributes r') : IsResponse msgIn.addrRemote reader r' := by
  have htype : reader.msgTypeNormalized.toNat < 4096 := by
    rw [hread.header.type]
    exact normalizedType_lt _
  have hfailure : ∀ {c : Challenge}, d = errorDraft reader.msgTypeNormalized reader.transactionid
      reader.fMessageIsLegacyFormat c → IsResponse msgIn.addrRemote reader r' := by
    rintro c rfl
    refine ⟨sameTransaction hread hread' rfl, hread'.state,
      .inr ⟨(isErrorResponse hread').msgClass, ?_⟩⟩
    rw [(Draft.header_of_parsed hread').1]
    exact normalizedType_msgTypeField htype _
  cases h with
  | refused c => exact hfailure rfl
  | badRequest creds => exact hfailure rfl
  | success creds addrOrigin addrOther usable =>
    have htransid : (successDraft D reader.transactionid reader.fMessageIsLegacyFormat
        msgIn.addrRemote addrOrigin addrOther creds).transid = reader.transactionid := by
      cases creds <;> rfl
    have hsame := sameTransaction hread hread' htransid
    obtain ⟨hclass, htype⟩ := header_of_successDraft hread'
    exact ⟨hsame, hread'.state, .inl ⟨hclass, htype, getMappedAddress_of_successDraft hread',
      getXorMappedAddress_of_successDraft hread' hsame.transid⟩⟩

/-- A success response with credentials is signed with them. -/
theorem signed_of_successDraft {transid : StunTransactionId} {fAllow fLegacy : Bool}
    {addrRemote : CSocketAddress} {addrOrigin addrOther : Option CSocketAddress} {c : Credentials}
    (husable : c.Usable)
    (h : Parsed fAllow
      (successDraft D transid fLegacy addrRemote addrOrigin addrOther (some c)).octets
      (successDraft D transid fLegacy addrRemote addrOrigin addrOther (some c)).attributes r') :
    EndsInIntegrity r' ∧ c.validate D r' = .ok () := by
  constructor
  · obtain ⟨mi, hlast, hmi⟩ : ∃ mi : WireAttribute,
        (successDraft D transid fLegacy addrRemote addrOrigin addrOther (some c)).attributes =
          successAttributes transid fLegacy addrRemote addrOrigin addrOther ++ [mi] ∧
        mi.type = STUN_ATTRIBUTE_MESSAGEINTEGRITY := ⟨_, rfl, rfl⟩
    rw [hlast] at h
    obtain ⟨a, hindex, htype, -⟩ :=
      h.byIndex (successAttributes transid fLegacy addrRemote addrOrigin
      addrOther).length (by simp)
    refine ⟨a, ?_, ?_⟩
    · rw [h.getAttributeCount_eq, ← hindex]
      congr 1
      simp
    · rw [htype]
      simpa using hmi
  · rw [Credentials.validate_eq h]
    exact validate_finished D husable.length_key false _ h

end Outcome

/-! ## The authentication gate -/

/-- The verdict on a binding request is that of authentication, unless it asks for a response port
on a connection. -/
theorem verdict_of_binding (D : Digests) (pAuth : Option IStunAuth) (msgIn : StunMessageIn)
    {r : CStunMessageReader} (htype : r.msgTypeNormalized = StunMsgTypeBinding) :
    verdict D pAuth msgIn r =
      if responsePortOnConnection msgIn r then .error .badRequest else authVerdict D pAuth r := by
  simp only [verdict, htype, ne_eq, not_true_eq_false, or_false]

/-- A binding request is answered with success only if there is no provider or the provider lets it
pass, and then, if the provider has asked for it, with message integrity under the provider's
credentials. What the provider refuses is answered with the error of `refusal`, unless the response
port has been refused before; every other error is 400. -/
theorem processRequest_gate (D : Digests) (r₀ : CStunMessageReader) (fAllow : Bool)
    (rbuf : Option CBuffer) (chunks : List (List UInt8)) (msgIn : StunMessageIn)
    (set : TransportAddressSet) (pAuth : Option IStunAuth) (msgOut : StunMessageOut) (buf : CBuffer)
    (hsize : MAX_STUN_MESSAGE_SIZE ≤ buf.getAllocatedSize)
    (hstate : ((r₀.ready fAllow rbuf).addChunks chunks).state = .bodyValidated)
    (hclass : ((r₀.ready fAllow rbuf).addChunks chunks).msgClass = .request)
    (htype : ((r₀.ready fAllow rbuf).addChunks chunks).msgTypeNormalized = StunMsgTypeBinding) :
    let r := (r₀.ready fAllow rbuf).addChunks chunks
    ∃ msgOut' out, processRequest D { msgIn with pReader := some r } (some set) pAuth
        { msgOut with spBufferOut := some buf } = .ok () msgOut' ∧
      msgOut'.spBufferOut = some out ∧ ∀ (r₁ : CStunMessageReader) (rbuf₁ : Option CBuffer),
        let r' := ((r₁.ready true rbuf₁).addBytes out.contents).2
        r'.state = .bodyValidated ∧
        (r'.msgClass = .successResponse → pAuth = none ∨ ∃ provider, pAuth = some provider ∧
          let answer := provider (authAttributes r)
          succeeded answer.1 ∧ (answer.2.responseType = .allow ∨
            answer.2.responseType = .allowConditional ∧
              (credentials r answer.2).validate D r = .ok () ∧
              EndsInIntegrity r' ∧ (credentials r answer.2).validate D r' = .ok ())) ∧
        (r'.msgClass ≠ .successResponse → IsErrorResponse .badRequest r' ∨
          ∃ provider c, pAuth = some provider ∧
            refusal D r (provider (authAttributes r)) = some c ∧ IsErrorResponse c r') ∧
        ∀ provider c, pAuth = some provider →
          refusal D r (provider (authAttributes r)) = some c →
          IsErrorResponse (if responsePortOnConnection msgIn r then .badRequest else c) r' := by
  intro r
  obtain ⟨ts, hread⟩ := (fed_addChunks fAllow rbuf r₀ chunks).parsed hstate
  obtain ⟨msgOut', out, d, hrun, hout, hcontents, hanswers⟩ :=
    processRequest_request D msgIn set pAuth msgOut hsize hclass hread
  refine ⟨msgOut', out, hrun, hout, fun r₁ rbuf₁ => ?_⟩
  rw [hcontents]
  have hread' := hanswers.complete.parsed (.inl rfl) (fed_addBytes true rbuf₁ r₁ d.octets)
  have hverdict : verdict D pAuth { msgIn with pReader := some r } r =
      if responsePortOnConnection msgIn r then .error .badRequest else authVerdict D pAuth r :=
    verdict_of_binding D pAuth { msgIn with pReader := some r } htype
  rw [hverdict] at hanswers
  have hrefused : ∀ provider c, pAuth = some provider →
      refusal D r (provider (authAttributes r)) = some c → authVerdict D pAuth r = .error c :=
    fun provider c hauth hc => authVerdict_eq_error_iff.mpr ⟨provider, hauth, hc⟩
  -- The response is the one for the verdict, which says what the provider has answered.
  generalize hv : (if responsePortOnConnection msgIn r = true then .error .badRequest
    else authVerdict D pAuth r) = v at hanswers
  cases hanswers with
  | refused c =>
    have herror := isErrorResponse hread'
    refine ⟨hread'.state, fun hsuccess => ?_, fun _ => ?_, fun provider c' hauth hc => ?_⟩
    · rw [herror.msgClass] at hsuccess
      cases hsuccess
    · split_ifs at hv
      · cases hv
        exact .inl herror
      · obtain ⟨provider, hauth, hc⟩ := authVerdict_eq_error_iff.mp hv
        exact .inr ⟨provider, c, hauth, hc, herror⟩
    · rw [hrefused provider c' hauth hc] at hv
      split_ifs at hv ⊢ with hconn
      · cases hv
        exact herror
      · cases hv
        exact herror
  | badRequest creds =>
    -- The request was authenticated, so the provider has not refused it.
    have herror := isErrorResponse hread'
    refine ⟨hread'.state, fun hsuccess => ?_, fun _ => .inl herror, fun provider c' hauth hc => ?_⟩
    · rw [herror.msgClass] at hsuccess
      cases hsuccess
    · rw [hrefused provider c' hauth hc] at hv
      split_ifs at hv
  | success creds addrOrigin addrOther usable =>
    have hpass : authVerdict D pAuth r = .ok creds := by
      split_ifs at hv
      exact hv
    have hsuccess := (header_of_successDraft hread').1
    refine ⟨hread'.state, fun _ => ?_, fun hne => absurd hsuccess hne,
      fun provider c' hauth hc => ?_⟩
    · cases pAuth with
      | none => exact .inl rfl
      | some provider =>
        obtain ⟨hsucceeded, hallow⟩ := authVerdict_eq_ok hpass
        refine .inr ⟨provider, rfl, hsucceeded, hallow.imp id ?_⟩
        rintro ⟨hconditional, hvalid, rfl⟩
        exact ⟨hconditional, hvalid, signed_of_successDraft (usable _ rfl) hread'⟩
    · rw [hrefused provider c' hauth hc] at hpass
      cases hpass

/-- The octets of a binding request without attributes and without the cookie. -/
def bindingRequest : List UInt8 := [0x00, 0x01, 0x00, 0x00] ++ List.replicate 16 0

/-- `StunMessageIn` of a datagram from the address `addrRemote`. -/
def datagramFrom (addrRemote : CSocketAddress) : StunMessageIn :=
  ⟨.rolePP, .zero, addrRemote, none, false⟩

/-- `processRequest_gate` for a provider that answers with a stale nonce. -/
theorem processRequest_gate_staleNonce :
    ∃ msgOut' out, processRequest (.constant (List.replicate 20 0) (List.replicate 16 0) 0 rfl rfl)
        { datagramFrom .zero with
          pReader := some ((({} : CStunMessageReader).ready true none).addChunks [bindingRequest]) }
        (some fun _ => ⟨.zero, true⟩)
        (some fun _ => (S_OK, { responseType := .staleNonce, szNonce := .ofChars [0x61] }))
        ⟨.rolePP, .zero, some (CBuffer.initWithAllocation MAX_STUN_MESSAGE_SIZE)⟩ = .ok () msgOut' ∧
      msgOut'.spBufferOut = some out ∧
      IsErrorResponse (.ofAnswer STUN_ERROR_STALENONCE (.inr rfl) { szNonce := .ofChars [0x61] })
        ((({} : CStunMessageReader).ready true none).addBytes out.contents).2 := by
  obtain ⟨msgOut', out, hrun, hout, hread⟩ := processRequest_gate
    (.constant (List.replicate 20 0) (List.replicate 16 0) 0 rfl rfl) {} true none [bindingRequest]
    (datagramFrom .zero) (fun _ => ⟨.zero, true⟩)
    (some fun _ => (S_OK, { responseType := .staleNonce, szNonce := .ofChars [0x61] }))
    ⟨.rolePP, .zero, none⟩ (CBuffer.initWithAllocation MAX_STUN_MESSAGE_SIZE) (by decide +kernel)
    (by decide +kernel) (by decide +kernel) (by decide +kernel)
  obtain ⟨-, -, -, hrefused⟩ := hread {} none
  exact ⟨msgOut', out, hrun, hout, hrefused _ _ rfl rfl⟩

/-! ## One response to a request, and none to anything else -/

/-- Nothing is sent: the handler fails, and leaves the buffer empty. -/
def SendsNothing (result : EStateM.Result HRESULT StunMessageOut Unit) : Prop :=
  ∃ hr msgOut out, result = .error hr msgOut ∧ failed hr ∧ msgOut.spBufferOut = some out ∧
    out.contents = []

/-- What is not a request is not answered. -/
theorem sendsNothing (D : Digests) {r : CStunMessageReader} (hstate : r.state = .bodyValidated)
    (hclass : r.msgClass ≠ .request) (msgIn : StunMessageIn) (set : TransportAddressSet)
    (pAuth : Option IStunAuth) (msgOut : StunMessageOut) {buf : CBuffer}
    (hsize : MAX_STUN_MESSAGE_SIZE ≤ buf.getAllocatedSize) :
    SendsNothing (processRequest D { msgIn with pReader := some r } (some set) pAuth
      { msgOut with spBufferOut := some buf }) := by
  have hrun := processRequest_other D msgIn set pAuth msgOut hsize hstate hclass
  exact ⟨E_FAIL, _, ⟨buf.data, 0⟩, hrun, by decide, rfl, List.take_zero⟩

/-- A message that a reader has validated is answered exactly if it is a request. The answer is a
response to it, with the address that the request came from, and no server answers that. -/
theorem processRequest_answers (D : Digests) (r₀ : CStunMessageReader) (fAllow : Bool)
    (rbuf : Option CBuffer) (chunks : List (List UInt8)) (msgIn : StunMessageIn)
    (set : TransportAddressSet) (pAuth : Option IStunAuth) (msgOut : StunMessageOut) (buf : CBuffer)
    (hsize : MAX_STUN_MESSAGE_SIZE ≤ buf.getAllocatedSize)
    (hstate : ((r₀.ready fAllow rbuf).addChunks chunks).state = .bodyValidated) :
    let r := (r₀.ready fAllow rbuf).addChunks chunks
    let result := processRequest D { msgIn with pReader := some r } (some set) pAuth
      { msgOut with spBufferOut := some buf }
    (SendsNothing result ↔ r.msgClass ≠ .request) ∧
      (r.msgClass = .request → ∃ msgOut' out, result = .ok () msgOut' ∧
        msgOut'.spBufferOut = some out ∧ ∀ (r₁ : CStunMessageReader) (rbuf₁ : Option CBuffer),
          let r' := ((r₁.ready true rbuf₁).addBytes out.contents).2
          IsResponse msgIn.addrRemote r r' ∧
            ∀ (D₂ : Digests) (msgIn₂ : StunMessageIn) (set₂ : TransportAddressSet)
              (pAuth₂ : Option IStunAuth) (msgOut₂ : StunMessageOut) (buf₂ : CBuffer),
              MAX_STUN_MESSAGE_SIZE ≤ buf₂.getAllocatedSize →
              SendsNothing (processRequest D₂ { msgIn₂ with pReader := some r' } (some set₂) pAuth₂
                { msgOut₂ with spBufferOut := some buf₂ })) := by
  intro r result
  obtain ⟨ts, hread⟩ := (fed_addChunks fAllow rbuf r₀ chunks).parsed hstate
  -- The response as a draft, of which both parts are read off.
  have hanswered : r.msgClass = .request → ∃ msgOut' out d, result = .ok () msgOut' ∧
      msgOut'.spBufferOut = some out ∧ out.contents = Draft.octets d ∧
      Answers D { msgIn with pReader := some r } r
        (verdict D pAuth { msgIn with pReader := some r } r) d := fun hclass =>
    processRequest_request D msgIn set pAuth msgOut hsize hclass hread
  refine ⟨⟨?_, fun hclass => sendsNothing D hstate hclass msgIn set pAuth msgOut hsize⟩, ?_⟩
  · rintro ⟨hr, msgOut', out, hrun, -⟩ hclass
    obtain ⟨_, _, _, hok, -⟩ := hanswered hclass
    rw [hok] at hrun
    cases hrun
  · intro hclass
    obtain ⟨msgOut', out, d, hrun, hout, hcontents, hanswers⟩ := hanswered hclass
    refine ⟨msgOut', out, hrun, hout, fun r₁ rbuf₁ => ?_⟩
    rw [hcontents]
    have hresponse := hanswers.isResponse hread
      (hanswers.complete.parsed (.inl rfl) (fed_addBytes true rbuf₁ r₁ d.octets))
    refine ⟨hresponse, fun D₂ msgIn₂ set₂ pAuth₂ msgOut₂ buf₂ hsize₂ =>
      sendsNothing D₂ hresponse.state ?_ msgIn₂ set₂ pAuth₂ msgOut₂ hsize₂⟩
    rcases hresponse.outcome with ⟨hsuccess, -⟩ | ⟨hfailure, -⟩
    · rw [hsuccess]
      decide
    · rw [hfailure]
      decide

/-- `processRequest_answers` for a binding request without a provider. -/
theorem processRequest_answers_binding :
    ∃ msgOut' out, processRequest (.constant (List.replicate 20 0) (List.replicate 16 0) 0 rfl rfl)
        { datagramFrom .zero with
          pReader := some ((({} : CStunMessageReader).ready true none).addChunks [bindingRequest]) }
        (some fun _ => ⟨.zero, true⟩) none
        ⟨.rolePP, .zero, some (CBuffer.initWithAllocation MAX_STUN_MESSAGE_SIZE)⟩ = .ok () msgOut' ∧
      msgOut'.spBufferOut = some out ∧
      IsResponse .zero ((({} : CStunMessageReader).ready true none).addChunks [bindingRequest])
        ((({} : CStunMessageReader).ready true none).addBytes out.contents).2 := by
  obtain ⟨-, hanswered⟩ := processRequest_answers
    (.constant (List.replicate 20 0) (List.replicate 16 0) 0 rfl rfl) {} true none [bindingRequest]
    (datagramFrom .zero) (fun _ => ⟨.zero, true⟩) none ⟨.rolePP, .zero, none⟩
    (CBuffer.initWithAllocation MAX_STUN_MESSAGE_SIZE) (by decide +kernel) (by decide +kernel)
  obtain ⟨msgOut', out, hrun, hout, hread⟩ := hanswered (by decide +kernel)
  exact ⟨msgOut', out, hrun, hout, (hread {} none).1⟩

end CStunRequestHandler

end Stun
