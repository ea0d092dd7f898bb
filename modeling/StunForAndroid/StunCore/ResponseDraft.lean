import StunForAndroid.StunCore.Integrity
import StunForAndroid.StunCore.MessageHandler

/-!
# What the handler's builders write

`successResponse` writes the draft `successDraft`, and `errorResponse` the draft `errorDraft`. Both
fit the buffer of `MAX_STUN_MESSAGE_SIZE` octets that the handler insists on, and then stay in it
(`runBuilder_spec`).
-/

namespace Stun

open Octets Fallible CDataStream CStunMessageBuilder

/-! ## Strings of bounded length -/

/-- A zero character ends the string of an array. -/
theorem CString.strlen_ofArray_le_of_zero {buf : List UInt8} {i : ℕ} (h : buf[i]? = some 0) :
    (CString.ofArray buf).strlen ≤ i := by
  induction buf generalizing i with
  | nil => simp at h
  | cons c buf ih =>
    simp only [CString.strlen, CString.ofArray, List.takeWhile_cons] at ih ⊢
    split_ifs with hc
    · cases i with
      | zero => simp_all
      | succ i =>
        have := ih (by simpa using h)
        rw [List.length_cons]
        omega
    · exact Nat.zero_le i

namespace AuthString

/-- The string in a terminated array is within the limit. -/
theorem strlen_terminate_le (a : AuthString) :
    a.terminate.str.strlen ≤ MAX_STUN_AUTH_STRING_SIZE := by
  apply CString.strlen_ofArray_le_of_zero
  have hlen := a.length_chars
  rw [terminate, List.getElem?_set_self (by omega)]

/-- The string in an array of zeros with characters and a zero copied to its start. -/
theorem strlen_ofChars_le {l : List UInt8} (h : l.length ≤ MAX_STUN_AUTH_STRING_SIZE) :
    (ofChars (l ++ [0])).str.strlen ≤ l.length := by
  apply CString.strlen_ofArray_le_of_zero
  show (fixedArray _ (l ++ [0]))[l.length]? = some 0
  unfold fixedArray
  rw [List.getElem?_take_of_lt (by omega), List.append_assoc, List.getElem?_append_right le_rfl,
    Nat.sub_self]
  rfl

end AuthString

namespace CStunRequestHandler

/-- The string in an array with a string attribute of the request is within the limit. -/
theorem strlen_stringAttribute_le (attributeType : UInt16) (reader : CStunMessageReader) :
    (stringAttribute attributeType reader).str.strlen ≤ MAX_STUN_AUTH_STRING_SIZE := by
  unfold stringAttribute
  split
  · rename_i value hvalue
    simp only [CStunMessageReader.getStringAttributeByType] at hvalue
    split at hvalue
    · cases hvalue
    · rename_i pAttrib hlookup
      split_ifs at hvalue with hsize
      obtain rfl := Except.ok.inj hvalue
      have hle : (reader.dataAt pAttrib.offset.toNat pAttrib.size.toNat).length ≤
          MAX_STUN_AUTH_STRING_SIZE := by
        rw [CStunMessageReader.dataAt, List.length_take]
        omega
      exact (AuthString.strlen_ofChars_le hle).trans hle
  · exact (CString.strlen_ofArray_le_of_zero (i := 0) rfl).trans (Nat.zero_le _)

/-! ## The drafts -/

/-- An error that the handler has decided on: a bad request, which has no strings, or one that is
sent with the strings of the provider. -/
structure Challenge where
  errorcode : UInt16
  szNonce : CString
  szRealm : CString
  /-- The code is one of the three that the handler uses. -/
  errorcode_mem : errorcode = STUN_ERROR_BADREQUEST ∧ szNonce.strlen = 0 ∧ szRealm.strlen = 0 ∨
    errorcode = STUN_ERROR_UNAUTHORIZED ∨ errorcode = STUN_ERROR_STALENONCE
  /-- The strings come from arrays of the provider. -/
  strlen_szNonce : szNonce.strlen ≤ MAX_STUN_AUTH_STRING_SIZE
  strlen_szRealm : szRealm.strlen ≤ MAX_STUN_AUTH_STRING_SIZE

/-- The empty string. -/
def emptyString : CString := ⟨[], CString.nul_free_nil⟩

/-- The error that is sent without strings. -/
def Challenge.badRequest : Challenge where
  errorcode := STUN_ERROR_BADREQUEST
  szNonce := emptyString
  szRealm := emptyString
  errorcode_mem := by decide
  strlen_szNonce := by decide
  strlen_szRealm := by decide

/-- A string within the limit fits an attribute. -/
theorem paddedString_le {s : CString} (h : s.strlen ≤ MAX_STUN_AUTH_STRING_SIZE) :
    s.chars.length + padLength 4 s.chars.length ≤ MAX_STUN_ATTRIBUTE_SIZE := by
  have hpad := padLength_lt s.chars.length (by decide : 0 < 4)
  unfold CString.strlen MAX_STUN_AUTH_STRING_SIZE at h
  unfold MAX_STUN_ATTRIBUTE_SIZE
  omega

/-- The attribute of a string, when that is not empty. -/
def stringAttributes (fLegacy : Bool) (attribType : UInt16) (s : CString)
    (h : s.strlen ≤ MAX_STUN_AUTH_STRING_SIZE) : List WireAttribute :=
  if s.strlen = 0 then [] else [ofValue fLegacy attribType s.chars (paddedString_le h)]

/-- The error code attribute. -/
def errorAttribute (fLegacy : Bool) (errorcode : UInt16) : WireAttribute :=
  ofValue fLegacy STUN_ATTRIBUTE_ERRORCODE (errorValue errorcode pszReason)
    (errorValue_le errorcode (by decide))

/-- The attributes of an error response. -/
def errorAttributes (fLegacy : Bool) (c : Challenge) : List WireAttribute :=
  errorAttribute fLegacy c.errorcode ::
    (stringAttributes fLegacy STUN_ATTRIBUTE_NONCE c.szNonce c.strlen_szNonce ++
      stringAttributes fLegacy STUN_ATTRIBUTE_REALM c.szRealm c.strlen_szRealm)

/-- The draft of an error response. -/
def errorDraft (msgType : UInt16) (transid : StunTransactionId) (fLegacy : Bool) (c : Challenge) :
    Draft :=
  Draft.fixed ⟨msgTypeField msgType .failureResponse, 0, transid, errorAttributes fLegacy c⟩

/-- The attribute type of the address that a response is sent from. -/
def originType (fLegacy : Bool) : UInt16 :=
  if fLegacy then STUN_ATTRIBUTE_SOURCEADDRESS else STUN_ATTRIBUTE_RESPONSE_ORIGIN

/-- The attribute type of the other address. -/
def otherType (fLegacy : Bool) : UInt16 :=
  if fLegacy then STUN_ATTRIBUTE_CHANGEDADDRESS else STUN_ATTRIBUTE_OTHER_ADDRESS

/-- The attribute type of the mapped address under the exclusive or. -/
def xorMappedType (fLegacy : Bool) : UInt16 :=
  if fLegacy then STUN_ATTRIBUTE_XORMAPPEDADDRESS_OPTIONAL else STUN_ATTRIBUTE_XORMAPPEDADDRESS

/-- The attributes of a success response before the message integrity. -/
def successAttributes (transid : StunTransactionId) (fLegacy : Bool) (addrRemote : CSocketAddress)
    (addrOrigin addrOther : Option CSocketAddress) : List WireAttribute :=
  addressAttribute STUN_ATTRIBUTE_MAPPEDADDRESS addrRemote ::
    (addrOrigin.toList.map (addressAttribute (originType fLegacy)) ++
      addrOther.toList.map (addressAttribute (otherType fLegacy)) ++
      [addressAttribute (xorMappedType fLegacy) (addrRemote.applyStunXorMap transid)])

/-- A draft, signed if there are credentials, with its length field set. -/
def signedBy (D : Digests) (creds : Option Credentials) (d : Draft) : Draft :=
  match creds with
  | none => d.fixed
  | some creds => d.finished D (creds.key D) false

/-- The draft of a success response. -/
def successDraft (D : Digests) (transid : StunTransactionId) (fLegacy : Bool)
    (addrRemote : CSocketAddress) (addrOrigin addrOther : Option CSocketAddress)
    (creds : Option Credentials) : Draft :=
  signedBy D creds ⟨msgTypeField StunMsgTypeBinding .successResponse, 0, transid,
    successAttributes transid fLegacy addrRemote addrOrigin addrOther⟩

end CStunRequestHandler

/-- The credentials that `StunMessageIntegrity` asks for. -/
def StunMessageIntegrity.credentials (integrity : StunMessageIntegrity) : Option Credentials :=
  if integrity.fSendWithIntegrity then
    if integrity.fUseLongTerm = false then some (.shortTerm integrity.szPassword)
    else some (.longTerm integrity.szUser integrity.szRealm integrity.szPassword)
  else none

namespace CStunRequestHandler

/-! ## What the builders write -/

section Builders

variable {cap : ℕ} {fLegacy : Bool} {d : Draft}

/-- `AddResponseOriginAddress` appends the address. -/
theorem addResponseOriginAddress_spec (addr : CSocketAddress) :
    Succeeds (Building cap fLegacy d) (addResponseOriginAddress addr)
      fun _ => Building cap fLegacy (d.add (addressAttribute (originType fLegacy) addr)) := by
  intro b hb
  rw [addResponseOriginAddress, bind_get, hb.legacy_eq]
  exact addMappedAddressImpl_spec _ addr b hb

/-- `AddOtherAddress` appends the address. -/
theorem addOtherAddress_spec (addr : CSocketAddress) :
    Succeeds (Building cap fLegacy d) (addOtherAddress addr)
      fun _ => Building cap fLegacy (d.add (addressAttribute (otherType fLegacy) addr)) := by
  intro b hb
  rw [addOtherAddress, bind_get, hb.legacy_eq]
  exact addMappedAddressImpl_spec _ addr b hb

/-- `AddXorMappedAddress` appends the address under the exclusive or with the transaction id. -/
theorem addXorMappedAddress_spec (addr : CSocketAddress) :
    Succeeds (Building cap fLegacy d) (addXorMappedAddress addr)
      fun _ => Building cap fLegacy
        (d.add (addressAttribute (xorMappedType fLegacy) (addr.applyStunXorMap d.transid))) := by
  intro b hb
  rw [addXorMappedAddress, bind_get, hb.legacy_eq, hb.transid_eq]
  exact addMappedAddressImpl_spec _ _ b hb

/-- An address that may be missing is appended if it is there. -/
theorem addIfSome_spec {add : CSocketAddress → Fallible CStunMessageBuilder Unit} {t : UInt16}
    (hadd : ∀ addr, Succeeds (Building cap fLegacy d) (add addr)
      fun _ => Building cap fLegacy (d.add (addressAttribute t addr)))
      (addr : Option CSocketAddress) :
    Succeeds (Building cap fLegacy d) (addIfSome add addr) fun _ => Building cap fLegacy
      { d with attributes := d.attributes ++ addr.toList.map (addressAttribute t) } := by
  cases addr with
  | none => exact Succeeds.pure fun b hb => by simpa using hb
  | some addr => exact (hadd addr).ignore

/-- A string that may be empty is appended if it is not. -/
theorem addIfNotEmpty_spec (t : UInt16) (s : CString) (hs : s.strlen ≤ MAX_STUN_AUTH_STRING_SIZE) :
    Succeeds (Building cap fLegacy d) (addIfNotEmpty t s) fun _ => Building cap fLegacy
      { d with attributes := d.attributes ++ stringAttributes fLegacy t s hs } := by
  unfold addIfNotEmpty stringAttributes
  split_ifs with h0
  · exact Succeeds.pure fun b hb => by simpa using hb
  · exact (addStringAttribute_spec t s h0 (paddedString_le hs)).ignore

/-- The message integrity, if there has to be one, and the length field. -/
theorem addIntegrity_fixLengthField_spec (D : Digests) (integrity : StunMessageIntegrity)
    (h : ∀ creds ∈ integrity.credentials, creds.Usable) :
    Succeeds (Building cap fLegacy d)
      (do addIntegrity D integrity; ignore fixLengthField)
      fun _ => Building cap fLegacy (signedBy D integrity.credentials d) := by
  unfold addIntegrity StunMessageIntegrity.credentials at *
  split_ifs at h ⊢ with hsend hlong
  · exact ((h _ rfl).sign_spec (D := D)).ignore.bind fun _ => fixLengthField_spec.ignore
  · exact ((h _ rfl).sign_spec (D := D)).ignore.bind fun _ => fixLengthField_spec.ignore
  · exact fixLengthField_spec.ignore

/-- The builder of `ProcessBindingRequest` writes the draft of the success response. -/
theorem successResponse_spec (hcap : 200 ≤ cap) (D : Digests) (transid : StunTransactionId)
    (addrRemote : CSocketAddress) (addrOrigin addrOther : Option CSocketAddress)
    (integrity : StunMessageIntegrity) (h : ∀ creds ∈ integrity.credentials, creds.Usable) :
    Succeeds (Attached cap fLegacy)
      (successResponse D transid addrRemote addrOrigin addrOther integrity)
      fun _ => Building cap fLegacy (successDraft D transid fLegacy addrRemote addrOrigin addrOther
        integrity.credentials) := by
  refine header_spec hcap StunMsgTypeBinding .successResponse transid ?_
  have hrun := (@addMappedAddressImpl_spec cap fLegacy
      ⟨msgTypeField StunMsgTypeBinding .successResponse, 0, transid, []⟩
      STUN_ATTRIBUTE_MAPPEDADDRESS addrRemote).ignore.bind fun _ =>
    (addIfSome_spec addResponseOriginAddress_spec addrOrigin).bind fun _ =>
    (addIfSome_spec addOtherAddress_spec addrOther).bind fun _ =>
    (addXorMappedAddress_spec addrRemote).ignore.bind fun _ =>
      addIntegrity_fixLengthField_spec D integrity h
  simpa only [successDraft, successAttributes, addMappedAddress, Draft.add, List.nil_append,
    List.append_assoc, List.cons_append, List.singleton_append] using hrun

/-- The builder of an error response appends the nonce and the realm that go with the error. -/
theorem addErrorDetails_spec (c : Challenge) {error : StunErrorCode}
    (hcode : error.errorcode = c.errorcode) (hunknown : error.attribUnknown = 0)
    (hnonce : error.szNonce = c.szNonce) (hrealm : error.szRealm = c.szRealm) :
    Succeeds (Building cap fLegacy d) (addErrorDetails error) fun _ => Building cap fLegacy
      { d with attributes := d.attributes ++
          (stringAttributes fLegacy STUN_ATTRIBUTE_NONCE c.szNonce c.strlen_szNonce ++
            stringAttributes fLegacy STUN_ATTRIBUTE_REALM c.szRealm c.strlen_szRealm) } := by
  unfold addErrorDetails
  rw [hcode, hnonce, hrealm, if_neg (by simp [hunknown])]
  rcases c.errorcode_mem with ⟨hbad, hnonce, hrealm⟩ | hstrings
  · rw [hbad, if_neg (by decide), stringAttributes, stringAttributes, if_pos hnonce, if_pos hrealm]
    exact Succeeds.pure fun b hb => by simpa using hb
  · rw [if_pos hstrings.symm]
    have hrun := (@addIfNotEmpty_spec cap fLegacy d STUN_ATTRIBUTE_NONCE c.szNonce
      c.strlen_szNonce).bind fun _ =>
        addIfNotEmpty_spec STUN_ATTRIBUTE_REALM c.szRealm c.strlen_szRealm
    simpa only [List.append_assoc] using hrun

/-- The builder of `BuildErrorResponse` writes the draft of the error response. -/
theorem errorResponse_spec (hcap : 200 ≤ cap) (transid : StunTransactionId) (c : Challenge)
    {error : StunErrorCode} (hclass : error.msgclass = .failureResponse)
    (hcode : error.errorcode = c.errorcode) (hunknown : error.attribUnknown = 0)
    (hnonce : error.szNonce = c.szNonce) (hrealm : error.szRealm = c.szRealm) :
    Succeeds (Attached cap fLegacy) (errorResponse error transid)
      fun _ => Building cap fLegacy (errorDraft error.msgtype transid fLegacy c) := by
  unfold errorResponse
  rw [hclass, hcode]
  refine header_spec hcap error.msgtype .failureResponse transid ?_
  have hbound : ¬c.errorcode < 300 ∧ ¬c.errorcode > 600 := by
    rcases c.errorcode_mem with ⟨h, -⟩ | h | h <;> rw [h] <;> decide
  have hresult : ∀ {d : Draft}, Succeeds (Building cap fLegacy d) getResult
      fun _ => Building cap fLegacy d.fixed :=
    getResult_spec.mono (fun _ hb => hb) fun _ _ hb => hb.1
  have hrun := (@addErrorCode_spec cap fLegacy
      ⟨msgTypeField error.msgtype .failureResponse, 0, transid, []⟩ c.errorcode
      pszReason (by decide)
      hbound.1 hbound.2).ignore.bind fun _ =>
    (addErrorDetails_spec c hcode hunknown hnonce hrealm).bind fun _ =>
    fixLengthField_spec.ignore.bind fun _ => hresult.ignore
  simpa only [errorDraft, errorAttributes, errorAttribute, Draft.add, Draft.fixed, List.nil_append,
    List.singleton_append] using hrun

end Builders

/-! ## The responses are complete, and fit the buffer -/

/-- An address attribute takes 12 or 24 octets. -/
theorem length_encode_addressAttribute_le (t : UInt16) (addr : CSocketAddress) :
    (addressAttribute t addr).encode.length ≤ 24 := by
  unfold addressAttribute
  rw [length_encode_ofValue, padLength_addressValue, length_addressValue]
  cases addr.ip.family <;> decide

/-- An address that may be missing takes at most 24 octets. -/
theorem length_encodeAll_toList_le (t : UInt16) (addr : Option CSocketAddress) :
    (Tlv.encodeAll (addr.toList.map (addressAttribute t))).length ≤ 24 := by
  cases addr with
  | none => simp
  | some addr => simpa using length_encode_addressAttribute_le t addr

/-- A string takes at most 68 octets. -/
theorem length_encodeAll_stringAttributes_le (fLegacy : Bool) (t : UInt16) {s : CString}
    (h : s.strlen ≤ MAX_STUN_AUTH_STRING_SIZE) :
    (Tlv.encodeAll (stringAttributes fLegacy t s h)).length ≤ 72 ∧
      (stringAttributes fLegacy t s h).length ≤ 1 := by
  have hpad := padLength_lt s.chars.length (by decide : 0 < 4)
  unfold stringAttributes
  split_ifs with h0
  · simp
  · unfold CString.strlen MAX_STUN_AUTH_STRING_SIZE at h
    simp only [Tlv.encodeAll_cons, Tlv.encodeAll_nil, List.append_nil, length_encode_ofValue,
      List.length_singleton]
    omega

/-- A success response has at most four attributes, of at most 96 octets together. -/
theorem length_successAttributes_le (transid : StunTransactionId) (fLegacy : Bool)
    (addrRemote : CSocketAddress) (addrOrigin addrOther : Option CSocketAddress) :
    (Tlv.encodeAll
        (successAttributes transid fLegacy addrRemote addrOrigin addrOther)).length ≤ 96 ∧
      (successAttributes transid fLegacy addrRemote addrOrigin addrOther).length ≤ 4 := by
  have hmapped := length_encode_addressAttribute_le STUN_ATTRIBUTE_MAPPEDADDRESS addrRemote
  have horigin := length_encodeAll_toList_le (originType fLegacy) addrOrigin
  have hother := length_encodeAll_toList_le (otherType fLegacy) addrOther
  have hxor := length_encode_addressAttribute_le (xorMappedType fLegacy)
    (addrRemote.applyStunXorMap transid)
  unfold successAttributes
  constructor
  · simp only [Tlv.encodeAll_cons, Tlv.encodeAll_append, Tlv.encodeAll_nil, List.append_nil,
      List.length_append]
    omega
  · cases addrOrigin <;> cases addrOther <;> simp

/-- An error response has at most three attributes, of at most 160 octets together. -/
theorem length_errorAttributes_le (fLegacy : Bool) (c : Challenge) :
    (Tlv.encodeAll (errorAttributes fLegacy c)).length ≤ 160 ∧
      (errorAttributes fLegacy c).length ≤ 3 := by
  have hnonce := length_encodeAll_stringAttributes_le fLegacy STUN_ATTRIBUTE_NONCE c.strlen_szNonce
  have hrealm := length_encodeAll_stringAttributes_le fLegacy STUN_ATTRIBUTE_REALM c.strlen_szRealm
  have herror : (errorAttribute fLegacy c.errorcode).encode.length = 16 := by
    have hvalue : (errorValue c.errorcode pszReason).length = 10 := by
      simp [errorValue, pszReason]
    unfold errorAttribute
    rw [length_encode_ofValue, hvalue]
    rfl
  unfold errorAttributes
  simp only [Tlv.encodeAll_cons, Tlv.encodeAll_append, List.length_append, List.length_cons, herror]
  omega

/-- An error response is complete. -/
theorem complete_errorDraft (msgType : UInt16) (transid : StunTransactionId) (fLegacy : Bool)
    (c : Challenge) : (errorDraft msgType transid fLegacy c).Complete := by
  obtain ⟨hlen, hcount⟩ := length_errorAttributes_le fLegacy c
  exact Draft.complete_fixed (msgTypeField_and_c000 _ _) (hcount.trans (by decide))
    (hlen.trans (by decide))

/-- A success response is complete. -/
theorem complete_successDraft (D : Digests) (transid : StunTransactionId) (fLegacy : Bool)
    (addrRemote : CSocketAddress) (addrOrigin addrOther : Option CSocketAddress)
    (creds : Option Credentials) :
    (successDraft D transid fLegacy addrRemote addrOrigin addrOther creds).Complete := by
  obtain ⟨hlen, hcount⟩ :=
    length_successAttributes_le transid fLegacy addrRemote addrOrigin addrOther
  cases creds with
  | none =>
    exact Draft.complete_fixed (msgTypeField_and_c000 _ _) (hcount.trans (by decide))
      (hlen.trans (by decide))
  | some creds =>
    refine complete_finished D (creds.key D) false (msgTypeField_and_c000 _ _) ?_ ?_
    · exact (Nat.add_le_add_right hcount 1).trans (by decide)
    · exact (Nat.add_le_add_right hlen 24).trans (by decide)

/-- The attributes of a success response, of which the last may be the message integrity. -/
theorem attributes_successDraft (D : Digests) (transid : StunTransactionId) (fLegacy : Bool)
    (addrRemote : CSocketAddress) (addrOrigin addrOther : Option CSocketAddress)
    (creds : Option Credentials) :
    ∃ mi : List WireAttribute,
      (successDraft D transid fLegacy addrRemote addrOrigin addrOther creds).attributes =
        successAttributes transid fLegacy addrRemote addrOrigin addrOther ++ mi ∧
      (Tlv.encodeAll mi).length ≤ 24 ∧ ∀ x ∈ mi, x.type = STUN_ATTRIBUTE_MESSAGEINTEGRITY := by
  cases creds with
  | none => exact ⟨[], (List.append_nil _).symm, by simp, by simp⟩
  | some creds =>
    refine ⟨_, rfl, ?_, fun x hx => ?_⟩
    · rw [Tlv.encodeAll_cons, Tlv.encodeAll_nil, List.append_nil, Tlv.length_encode]
      simp [integrityAttribute, padLength, D.length_hmacSha1]
    · rw [List.mem_singleton.mp hx]
      rfl

/-- A response fits the buffer. -/
theorem length_octets_errorDraft_le (msgType : UInt16) (transid : StunTransactionId)
    (fLegacy : Bool) (c : Challenge) :
    (errorDraft msgType transid fLegacy c).octets.length ≤ MAX_STUN_MESSAGE_SIZE := by
  obtain ⟨hlen, -⟩ := length_errorAttributes_le fLegacy c
  rw [Draft.length_octets]
  exact (Nat.add_le_add_left hlen STUN_HEADER_SIZE).trans (by decide)

/-- A success response fits the buffer. -/
theorem length_octets_successDraft_le (D : Digests) (transid : StunTransactionId) (fLegacy : Bool)
    (addrRemote : CSocketAddress) (addrOrigin addrOther : Option CSocketAddress)
    (creds : Option Credentials) :
    (successDraft D transid fLegacy addrRemote addrOrigin addrOther creds).octets.length ≤
      MAX_STUN_MESSAGE_SIZE := by
  obtain ⟨hlen, -⟩ := length_successAttributes_le transid fLegacy addrRemote addrOrigin addrOther
  obtain ⟨mi, hattributes, hmi, -⟩ :=
    attributes_successDraft D transid fLegacy addrRemote addrOrigin addrOther creds
  rw [Draft.length_octets, hattributes, Tlv.encodeAll_append, List.length_append]
  unfold STUN_HEADER_SIZE MAX_STUN_MESSAGE_SIZE
  omega

/-- A builder that writes a draft to the buffer of the outgoing message, which has room for it,
leaves the draft there. -/
theorem runBuilder_spec {m : Fallible CStunMessageBuilder Unit} {d : Draft}
    {h : CStunRequestHandler} {buf : CBuffer} (hbuf : h.msgOut.spBufferOut = some buf)
    (hd : d.octets.length ≤ buf.getAllocatedSize)
    (hm : Succeeds (Attached buf.getAllocatedSize h.fLegacyMode) m
      fun _ => Building buf.getAllocatedSize h.fLegacyMode d) :
    ∃ buf', h.runBuilder m = { h with msgOut.spBufferOut := some buf' } ∧
      buf'.contents = d.octets ∧ buf'.getAllocatedSize = buf.getAllocatedSize := by
  have hempty := attached_attachStream (buf.setSize 0).2 h.fLegacyMode
  have hsame : (buf.setSize 0).2.getAllocatedSize = buf.getAllocatedSize := by
    rw [CBuffer.setSize_snd]
    rfl
  rw [hsame] at hempty
  obtain ⟨-, hb⟩ := hm.finalState hempty
  obtain ⟨buf', hbuf', hcontents, hsize⟩ := exists_attachedBuffer hb hd
  refine ⟨buf', ?_, hcontents, hsize⟩
  unfold runBuilder
  simp only [hbuf, Option.map_some, Option.getD_some, hbuf']

end CStunRequestHandler

end Stun
