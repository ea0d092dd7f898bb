import StunForAndroid.StunCore.BuilderCalls

/-!
# The getters undo the calls

Each call of the builder has a getter of the reader. `Answered` says that the getter returns what
the call was given. The attribute of a call is found by its type when no later call has the same
type (`exists_split`), so that the getters answer whatever the order of the calls and whatever comes
between them. RESPONSE-PORT is the exception: in legacy mode its length counts the padding, which
`GetResponsePort` does not expect.
-/

namespace Stun

open Octets Fallible CDataStream CStunMessageBuilder CStunMessageReader

namespace AddCall

/-! ## The attribute of a call -/

section Split

variable {D : Digests} {fLegacy : Bool} {transid : StunTransactionId} {c : AddCall}
  {calls before after : List AddCall} {ts : List WireAttribute}

/-- The attributes have the types of the calls. -/
theorem map_type (h : List.Forall₂ (IsAttribute D fLegacy transid) calls ts) :
    ts.map Tlv.type = calls.map (type fLegacy) := by
  induction h with
  | nil => rfl
  | cons ht _ ih => rw [List.map_cons, List.map_cons, ht.type, ih]

/-- A type that no call has is the type of no attribute. -/
theorem type_ne_of_forall (h : List.Forall₂ (IsAttribute D fLegacy transid) calls ts)
    {attribType : UInt16} (hne : ∀ c ∈ calls, c.type fLegacy ≠ attribType) :
    ∀ t ∈ ts, t.type ≠ attribType := by
  intro t ht heq
  have hmem : t.type ∈ calls.map (type fLegacy) := map_type h ▸ List.mem_map_of_mem ht
  obtain ⟨c, hc, hctype⟩ := List.mem_map.mp hmem
  exact hne c hc (hctype.trans heq)

/-- The attribute of a call stands between those of the calls before and after it. -/
theorem exists_split
    (h : List.Forall₂ (IsAttribute D fLegacy transid) (before ++ c :: after) ts)
    (hafter : ∀ x ∈ after, x.type fLegacy ≠ c.type fLegacy) :
    ∃ tsBefore t tsAfter, ts = tsBefore ++ t :: tsAfter ∧ IsAttribute D fLegacy transid c t ∧
      ∀ x ∈ tsAfter, x.type ≠ t.type := by
  induction before generalizing ts with
  | nil =>
    cases h with
    | @cons _ t _ tsAfter ht hrest =>
      refine ⟨[], t, tsAfter, rfl, ht, ?_⟩
      rw [ht.type]
      exact type_ne_of_forall hrest hafter
  | cons y before ih =>
    cases h with
    | @cons _ u _ us hu hrest =>
      obtain ⟨tsBefore, t, tsAfter, rfl, ht, hne⟩ := ih hrest
      exact ⟨u :: tsBefore, t, tsAfter, rfl, ht, hne⟩

end Split

/-! ## What the getters return -/

/-- The size that a padding attribute is rounded up to. -/
def roundedUp (paddingSize : ℕ) : ℕ := (paddingSize + 3) / 4 * 4

/-- `GetStringAttributeByType` gives the string to a caller whose array has room for it. -/
def ReadsString (attribType : UInt16) (s : CString) (r : CStunMessageReader) : Prop :=
  ∀ size, MAX_STUN_AUTH_STRING_SIZE < size → ∃ value,
    r.getStringAttributeByType attribType size = .ok value ∧ CString.ofArray value = s

/-- The getter of a call returns what the call was given. -/
def Answered (r : CStunMessageReader) : AddCall → Prop
  | errorCode errorNumber _ => r.getErrorCode = .ok errorNumber
  | xorMappedAddress addr => r.getXorMappedAddress = .ok addr
  | mappedAddress addr => r.getMappedAddress = .ok addr
  | responseOriginAddress addr => r.getResponseOriginAddress = .ok addr
  | otherAddress addr => r.getOtherAddress = .ok addr
  | responsePort port => r.getResponsePort = .ok port
  | paddingAttribute paddingSize =>
    ∃ n, r.getPaddingAttributeSize = .ok n ∧ n.toNat = roundedUp paddingSize.toNat
  | changeRequest changeAttrib => r.getChangeRequest = .ok changeAttrib
  | userName pszUserName => ReadsString STUN_ATTRIBUTE_USERNAME pszUserName r
  | nonce pszNonce => ReadsString STUN_ATTRIBUTE_NONCE pszNonce r
  | realm pszRealm => ReadsString STUN_ATTRIBUTE_REALM pszRealm r
  | _ => True

/-! ## The typed attributes -/

/-- The arguments of a call of an attribute other than an address, within their bounds. -/
def Typed : AddCall → Prop
  | errorCode errorNumber pszReason =>
    300 ≤ errorNumber.toNat ∧ errorNumber.toNat ≤ 600 ∧ pszReason.strlen < 128
  | responsePort _ => True
  | paddingAttribute paddingSize => paddingSize.toNat ≤ MAX_STUN_ATTRIBUTE_SIZE
  | changeRequest _ => True
  | userName pszUserName =>
    pszUserName.strlen ≠ 0 ∧ pszUserName.strlen ≤ MAX_STUN_AUTH_STRING_SIZE
  | nonce pszNonce => pszNonce.strlen ≠ 0 ∧ pszNonce.strlen ≤ MAX_STUN_AUTH_STRING_SIZE
  | realm pszRealm => pszRealm.strlen ≠ 0 ∧ pszRealm.strlen ≤ MAX_STUN_AUTH_STRING_SIZE
  | _ => False

/-- The types of the typed attributes. -/
def typedTypes : List UInt16 :=
  [STUN_ATTRIBUTE_ERRORCODE, STUN_ATTRIBUTE_RESPONSE_PORT, STUN_ATTRIBUTE_PADDING,
    STUN_ATTRIBUTE_CHANGEREQUEST, STUN_ATTRIBUTE_USERNAME, STUN_ATTRIBUTE_NONCE,
    STUN_ATTRIBUTE_REALM]

section Typed

variable {fLegacy : Bool} {c : AddCall}

/-- The rounding of the size of a padding attribute that is not too large does not wrap. -/
theorem toNat_roundedSize {paddingSize : UInt16} (h : paddingSize.toNat ≤ MAX_STUN_ATTRIBUTE_SIZE) :
    (roundedSize paddingSize).toNat = roundedUp paddingSize.toNat := by
  have hmod : (paddingSize % 4).toNat = paddingSize.toNat % 4 := UInt16.toNat_mod _ _
  have h4 : (4 : UInt16).toNat = 4 := rfl
  unfold MAX_STUN_ATTRIBUTE_SIZE at h
  unfold roundedSize roundedUp
  split_ifs with hne
  · have hne' : paddingSize.toNat % 4 ≠ 0 := by
      intro h0
      exact hne (UInt16.toNat_inj.mp (hmod.trans h0))
    rw [UInt16.toNat_sub, UInt16.toNat_add, hmod, h4]
    omega
  · have heq : paddingSize.toNat % 4 = 0 := by
      rw [← hmod, not_not.mp hne]
      rfl
    omega

/-- A string of limited length is written whole. -/
theorem stringValue_eq {s : CString} (h : s.strlen ≤ MAX_STUN_AUTH_STRING_SIZE) :
    stringValue s = s.chars := by
  unfold CString.strlen MAX_STUN_AUTH_STRING_SIZE at h
  unfold stringValue CString.strlen
  rw [UInt16.toNat_ofNat', Nat.mod_eq_of_lt (by omega), List.take_length]

/-- The arguments of a typed call are valid. -/
theorem Typed.valid (h : c.Typed) : c.Valid := by
  cases c with
  | errorCode errorNumber pszReason =>
    obtain ⟨h300, h600, hreason⟩ := h
    refine ⟨hreason, ?_, ?_⟩
    · simpa [UInt16.lt_iff_toNat_lt] using h300
    · simpa [UInt16.lt_iff_toNat_lt] using h600
  | userName pszUserName => exact h.1
  | nonce pszNonce => exact h.1
  | realm pszRealm => exact h.1
  | responsePort port => trivial
  | paddingAttribute paddingSize => trivial
  | changeRequest changeAttrib => trivial
  | _ => exact h.elim

/-- A typed call is aligned. -/
theorem Typed.aligned (h : c.Typed) : c.aligned fLegacy = true := by
  cases c with
  | unknownAttributes arr => exact h.elim
  | _ => rfl

/-- A typed call has one of the types. -/
theorem Typed.type_mem (h : c.Typed) : c.type fLegacy ∈ typedTypes := by
  cases c with
  | errorCode errorNumber pszReason => exact List.mem_of_elem_eq_true rfl
  | responsePort port => exact List.mem_of_elem_eq_true rfl
  | paddingAttribute paddingSize => exact List.mem_of_elem_eq_true rfl
  | changeRequest changeAttrib => exact List.mem_of_elem_eq_true rfl
  | userName pszUserName => exact List.mem_of_elem_eq_true rfl
  | nonce pszNonce => exact List.mem_of_elem_eq_true rfl
  | realm pszRealm => exact List.mem_of_elem_eq_true rfl
  | _ => exact h.elim

/-- The value of a typed call is within the limit of an attribute. -/
theorem Typed.valueLength_le (h : c.Typed) : c.valueLength fLegacy ≤ MAX_STUN_ATTRIBUTE_SIZE := by
  have hstring : ∀ s : CString, s.strlen ≤ MAX_STUN_AUTH_STRING_SIZE →
      (stringValue s).length ≤ MAX_STUN_ATTRIBUTE_SIZE := by
    intro s hs
    rw [stringValue_eq hs]
    exact hs.trans (by decide)
  cases c with
  | errorCode errorNumber pszReason =>
    exact (Nat.le_add_right _ _).trans (errorValue_le errorNumber h.2.2)
  | responsePort port => exact (by decide : 2 ≤ MAX_STUN_ATTRIBUTE_SIZE)
  | paddingAttribute paddingSize =>
    have hle : paddingSize.toNat ≤ MAX_STUN_ATTRIBUTE_SIZE := h
    show (roundedSize paddingSize).toNat ≤ MAX_STUN_ATTRIBUTE_SIZE
    rw [toNat_roundedSize hle]
    unfold roundedUp
    unfold MAX_STUN_ATTRIBUTE_SIZE at hle ⊢
    omega
  | changeRequest changeAttrib => exact (by decide : 4 ≤ MAX_STUN_ATTRIBUTE_SIZE)
  | userName pszUserName => exact hstring _ h.2
  | nonce pszNonce => exact hstring _ h.2
  | realm pszRealm => exact hstring _ h.2
  | _ => exact h.elim

/-- Typed calls of different types are not too many. -/
theorem length_le_of_typed {calls : List AddCall} (htyped : ∀ c ∈ calls, c.Typed)
    (hnodup : (calls.map (type fLegacy)).Nodup) : calls.length ≤ MAX_NUM_ATTRIBUTES := by
  have hsub : calls.map (type fLegacy) ⊆ typedTypes := by
    intro t ht
    obtain ⟨c, hc, rfl⟩ := List.mem_map.mp ht
    exact (htyped c hc).type_mem
  calc calls.length = (calls.map (type fLegacy)).length := (List.length_map _).symm
    _ ≤ typedTypes.length := (List.subperm_of_subset hnodup hsub).length_le
    _ ≤ MAX_NUM_ATTRIBUTES := by decide

/-- The value of a call's attribute is the value that was added, and zeros. -/
theorem IsAttribute.value_append {D : Digests} {transid : StunTransactionId} {t : WireAttribute}
    (h : IsAttribute D fLegacy transid c t) : ∃ m n, t.value =
      c.value D fLegacy transid m ++ List.replicate n 0 := by
  obtain ⟨m, hvalue⟩ := h.value
  refine ⟨m,
    if c.countsPadding fLegacy then padLength 4 (c.value D fLegacy transid m).length else 0, ?_⟩
  rw [hvalue]
  unfold readValue
  split_ifs with hpad
  · rfl
  · exact (List.append_nil _).symm

section Answers

variable {D : Digests} {transid : StunTransactionId} {bs : List UInt8} {fAllow : Bool}
  {before after : List WireAttribute} {t : WireAttribute} {r : CStunMessageReader}

/-- A string attribute reads as its string. -/
theorem readsString_of_isAttribute {attribType : UInt16} {s : CString}
    (hp : Parsed fAllow bs (before ++ t :: after) r) (hafter : ∀ x ∈ after, x.type ≠ t.type)
    (ht : IsAttribute D fLegacy transid c t) (htype : c.type fLegacy = attribType)
    (hvalue : ∀ m, c.value D fLegacy transid m = stringValue s)
    (hlength : c.fieldLength fLegacy ≤ MAX_STUN_AUTH_STRING_SIZE)
    (hs : s.strlen ≤ MAX_STUN_AUTH_STRING_SIZE) : ReadsString attribType s r := by
  intro size hsize
  obtain ⟨m, n, hvalue'⟩ := ht.value_append
  rw [hvalue, stringValue_eq hs] at hvalue'
  have hfit : t.value.length < size := by
    rw [ht.length]
    omega
  have hread := hp.getStringAttributeByType_eq hvalue' hfit hafter
  rwa [ht.type, htype] at hread

/-- A padded string of limited length is within the limit. -/
theorem paddedStringValue_le {s : CString} (hs : s.strlen ≤ MAX_STUN_AUTH_STRING_SIZE)
    (fCounts : Bool) : (if fCounts then (stringValue s).length + padLength 4 (stringValue s).length
      else (stringValue s).length) ≤ MAX_STUN_AUTH_STRING_SIZE := by
  rw [stringValue_eq hs]
  unfold CString.strlen MAX_STUN_AUTH_STRING_SIZE at hs
  unfold padLength MAX_STUN_AUTH_STRING_SIZE
  split_ifs <;> omega

/-- The getter of a typed call answers, unless it is the response port in legacy mode. -/
theorem Typed.answered (h : c.Typed) (hport : fLegacy = false ∨ ∀ port, c ≠ responsePort port)
    (hp : Parsed fAllow bs (before ++ t :: after) r) (hafter : ∀ x ∈ after, x.type ≠ t.type)
    (ht : IsAttribute D fLegacy transid c t) : c.Answered r := by
  obtain ⟨m, n, hvalue⟩ := ht.value_append
  cases c with
  | errorCode errorNumber pszReason =>
    obtain ⟨-, h300, h600⟩ := h.valid
    exact hp.getErrorCode_eq ht.type hvalue h300 h600 hafter
  | responsePort port =>
    rcases hport with rfl | hne
    · obtain ⟨m, hvalue⟩ := ht.value
      exact hp.getResponsePort_eq ht.type hvalue hafter
    · exact absurd rfl (hne port)
  | paddingAttribute paddingSize =>
    refine ⟨_, hp.getPaddingAttributeSize_eq ht.type hafter, ?_⟩
    have hlength : t.value.length = (roundedSize paddingSize).toNat := ht.length
    rw [hlength, UInt16.ofNat_toNat]
    exact toNat_roundedSize h
  | changeRequest changeAttrib =>
    -- The value is a multiple of four octets, which no padding follows.
    obtain ⟨m, hvalue⟩ := ht.value
    have hread : readValue fLegacy (changeValue changeAttrib) = changeValue changeAttrib := by
      unfold readValue
      rw [length_changeValue]
      cases fLegacy with
      | true => exact List.append_nil _
      | false => rfl
    exact hp.getChangeRequest_eq ht.type (hvalue.trans hread) hafter
  | userName pszUserName =>
    exact readsString_of_isAttribute hp hafter ht rfl (fun _ => rfl)
      (paddedStringValue_le h.2 _) h.2
  | nonce pszNonce =>
    exact readsString_of_isAttribute hp hafter ht rfl (fun _ => rfl)
      (paddedStringValue_le h.2 _) h.2
  | realm pszRealm =>
    exact readsString_of_isAttribute hp hafter ht rfl (fun _ => rfl)
      (paddedStringValue_le h.2 _) h.2
  | _ => exact h.elim

/-- In legacy mode the getter of the response port fails: the length of the attribute counts the
padding. -/
theorem not_answered_responsePort {port : UInt16} (hp : Parsed fAllow bs (before ++ t :: after) r)
    (hafter : ∀ x ∈ after, x.type ≠ t.type)
    (ht : IsAttribute D true transid (responsePort port) t) : ¬(responsePort port).Answered r := by
  have hlength : t.value.length = 4 := ht.length
  have herror := hp.getResponsePort_error ht.type (by omega) hafter
  intro hok
  cases herror.symm.trans hok

end Answers

end Typed

end AddCall

namespace CStunMessageBuilder

/-- A later call has another type than an earlier one. -/
theorem type_ne_of_nodup {fLegacy : Bool} {before after : List AddCall} {c : AddCall}
    (hnodup : ((before ++ c :: after).map (AddCall.type fLegacy)).Nodup) :
    ∀ x ∈ after, x.type fLegacy ≠ c.type fLegacy := by
  rw [List.map_append, List.map_cons] at hnodup
  have hcons := (List.nodup_append.mp hnodup).2.1
  intro x hx heq
  exact (List.nodup_cons.mp hcons).1 (heq ▸ List.mem_map_of_mem hx)

/-- A message of typed calls of different types is accepted, and the getters return what the calls
were given exactly when there is no response port in legacy mode. -/
theorem typedCalls_answered_iff (D : Digests) (fLegacy : Bool) (msgType : UInt16)
    (msgClass : StunMessageClass) (transid : StunTransactionId) (calls : List AddCall)
    (buf rbuf : Option CBuffer) (r₀ : CStunMessageReader) (htyped : ∀ c ∈ calls, c.Typed)
    (hnodup : (calls.map (AddCall.type fLegacy)).Nodup)
    (hbody : (calls.map (AddCall.size fLegacy)).sum ≤ MAX_STUN_MESSAGE_SIZE) :
    ∃ b spBuffer b', writeCalls D msgType msgClass transid calls (start fLegacy buf) = .ok () b ∧
      getResult b = .ok (some spBuffer) b' ∧
      let r := ((r₀.ready true rbuf).addBytes spBuffer.contents).2
      r.state = .bodyValidated ∧
        ((∀ c ∈ calls, c.Answered r) ↔
          (fLegacy = false ∨ ∀ port, AddCall.responsePort port ∉ calls)) := by
  obtain ⟨b, spBuffer, b', ts, hrun, hresult, hts, hp, -⟩ := parsed_calls D fLegacy msgType msgClass
    transid buf rbuf r₀ (fun c hc => (htyped c hc).valid) (fun c hc => (htyped c hc).aligned)
    (AddCall.length_le_of_typed htyped hnodup) (fun c hc => (htyped c hc).valueLength_le) hbody
  refine ⟨b, spBuffer, b', hrun, hresult, hp.state, ?_⟩
  constructor
  · intro hanswered
    by_contra hport
    -- In legacy mode the response port is written with a length that its getter refuses.
    simp only [not_or, not_forall, not_not, Bool.not_eq_false] at hport
    obtain ⟨rfl, port, hmem⟩ := hport
    obtain ⟨before, after, rfl⟩ := List.append_of_mem hmem
    obtain ⟨tsBefore, t, tsAfter, rfl, ht, hafter⟩ :=
      AddCall.exists_split hts (type_ne_of_nodup hnodup)
    exact AddCall.not_answered_responsePort hp hafter ht (hanswered _ hmem)
  · intro hport c hc
    obtain ⟨before, after, rfl⟩ := List.append_of_mem hc
    obtain ⟨tsBefore, t, tsAfter, rfl, ht, hafter⟩ :=
      AddCall.exists_split hts (type_ne_of_nodup hnodup)
    refine (htyped c hc).answered (hport.imp_right fun hne port heq => ?_) hp hafter ht
    exact hne port (heq ▸ hc)

/-- The response port of a message in legacy mode is lost. -/
theorem responsePort_lost :
    ¬∀ (D : Digests) (fLegacy : Bool) (msgType : UInt16) (msgClass : StunMessageClass)
      (transid : StunTransactionId) (calls : List AddCall) (buf rbuf : Option CBuffer)
      (r₀ : CStunMessageReader), (∀ c ∈ calls, c.Typed) →
      (calls.map (AddCall.type fLegacy)).Nodup →
      (calls.map (AddCall.size fLegacy)).sum ≤ MAX_STUN_MESSAGE_SIZE →
      ∃ b spBuffer b', writeCalls D msgType msgClass transid calls (start fLegacy buf) = .ok () b ∧
        getResult b = .ok (some spBuffer) b' ∧
        ∀ c ∈ calls, c.Answered ((r₀.ready true rbuf).addBytes spBuffer.contents).2 := by
  intro h
  obtain ⟨b, spBuffer, b', hrun, hresult, hanswered⟩ :=
    h zeroDigests true StunMsgTypeBinding .request
    StunTransactionId.zero [.responsePort 0x1234] none none {} (by simp [AddCall.Typed]) (by simp)
    (by decide)
  have hport :
      (readResult (getResult (finalState (writeCalls zeroDigests StunMsgTypeBinding .request
        StunTransactionId.zero [.responsePort 0x1234]) (start true none)))).map
      CStunMessageReader.getResponsePort = some (.error E_UNEXPECTED) := by decide +kernel
  rw [finalState_of_ok hrun, hresult] at hport
  have hok := hanswered (.responsePort 0x1234) (by simp)
  cases (Option.some.inj hport).symm.trans hok

/-- `typedCalls_answered_iff` for a legacy message with a user name that is padded. -/
theorem typedCalls_answered_iff_userName :
    ∃ b spBuffer b', writeCalls zeroDigests StunMsgTypeBinding .request StunTransactionId.zero
        [.userName ⟨[0x61], by decide⟩] (start true none) = .ok () b ∧
      getResult b = .ok (some spBuffer) b' ∧
      AddCall.ReadsString STUN_ATTRIBUTE_USERNAME ⟨[0x61], by decide⟩
        ((({} : CStunMessageReader).ready true none).addBytes spBuffer.contents).2 := by
  obtain ⟨b, spBuffer, b', hrun, hresult, -, hiff⟩ := typedCalls_answered_iff zeroDigests true
    StunMsgTypeBinding .request StunTransactionId.zero [.userName ⟨[0x61], by decide⟩] none none {}
    (by simp [AddCall.Typed, CString.strlen]; decide) (by simp) (by decide)
  exact ⟨b, spBuffer, b', hrun, hresult, hiff.mpr (.inr (by simp)) _ (List.mem_singleton_self _)⟩

end CStunMessageBuilder

/-! ## The addresses -/

namespace AddCall

/-- Whether a call adds an address. -/
def isAddress : AddCall → Bool
  | xorMappedAddress _ => true
  | mappedAddress _ => true
  | responseOriginAddress _ => true
  | otherAddress _ => true
  | _ => false

/-- The types of the attributes that hold addresses, in either mode. -/
def addressTypes : List UInt16 :=
  [STUN_ATTRIBUTE_MAPPEDADDRESS, STUN_ATTRIBUTE_SOURCEADDRESS, STUN_ATTRIBUTE_CHANGEDADDRESS,
    STUN_ATTRIBUTE_XORMAPPEDADDRESS, STUN_ATTRIBUTE_XORMAPPEDADDRESS_OPTIONAL,
    STUN_ATTRIBUTE_RESPONSE_ORIGIN, STUN_ATTRIBUTE_OTHER_ADDRESS]

/-- The calls add each address at most once, and the other calls add attributes of other types. -/
structure AddressesOnce (fLegacy : Bool) (calls : List AddCall) : Prop where
  nodup : ((calls.filter isAddress).map (type fLegacy)).Nodup
  other : ∀ c ∈ calls, c.isAddress = false → c.type fLegacy ∉ addressTypes

section Addresses

variable {D : Digests} {fLegacy fAllow : Bool} {transid : StunTransactionId} {bs : List UInt8}
  {c : AddCall} {calls before after : List AddCall} {ts : List WireAttribute}
  {r : CStunMessageReader}

/-- An address has one of the types. -/
theorem type_mem_addressTypes (h : c.isAddress = true) : c.type fLegacy ∈ addressTypes := by
  cases c with
  | xorMappedAddress addr => cases fLegacy <;> exact List.mem_of_elem_eq_true rfl
  | mappedAddress addr => exact List.mem_of_elem_eq_true rfl
  | responseOriginAddress addr => cases fLegacy <;> exact List.mem_of_elem_eq_true rfl
  | otherAddress addr => cases fLegacy <;> exact List.mem_of_elem_eq_true rfl
  | _ => cases h

/-- A call after an address has another type. -/
theorem AddressesOnce.type_ne (h : AddressesOnce fLegacy (before ++ c :: after))
    (hc : c.isAddress = true) : ∀ x ∈ after, x.type fLegacy ≠ c.type fLegacy := by
  intro x hx heq
  cases haddress : x.isAddress with
  | true =>
    have hnodup := h.nodup
    rw [List.filter_append, List.filter_cons_of_pos hc, List.map_append, List.map_cons] at hnodup
    have hcons := (List.nodup_append.mp hnodup).2.1
    have hmem : x ∈ after.filter isAddress := List.mem_filter.mpr ⟨hx, haddress⟩
    exact (List.nodup_cons.mp hcons).1 (heq ▸ List.mem_map_of_mem hmem)
  | false =>
    have hother := h.other x (by simp [hx]) haddress
    rw [heq] at hother
    exact hother (type_mem_addressTypes hc)

/-- The helper of the getters finds the address of a call. -/
theorem getAddressHelper_of_call (h : AddressesOnce fLegacy (before ++ c :: after))
    (hc : c.isAddress = true)
    (hts : List.Forall₂ (IsAttribute D fLegacy transid) (before ++ c :: after) ts)
    (hp : Parsed fAllow bs ts r) {addr : CSocketAddress}
    (hcounts : c.countsPadding fLegacy = false)
    (hvalue : ∀ m, c.value D fLegacy transid m = addressValue addr) :
    r.getAddressHelper (c.type fLegacy) = .ok addr := by
  obtain ⟨tsBefore, t, tsAfter, rfl, ht, hafter⟩ := exists_split hts (h.type_ne hc)
  obtain ⟨m, hread⟩ := ht.value
  rw [hcounts, hvalue] at hread
  have heq : t.value = addressValue addr := hread
  obtain ⟨a, hlookup, -, -, hdata⟩ := hp.lookup_value hafter
  rw [ht.type] at hlookup
  unfold getAddressHelper
  rw [hlookup]
  simp only [hdata, heq]
  exact getMappedAddress_addressValue addr

/-- The helper of the getters finds no address of a type that only the other mode uses. -/
theorem getAddressHelper_none_of_calls (h : AddressesOnce fLegacy calls)
    (hts : List.Forall₂ (IsAttribute D fLegacy transid) calls ts) (hp : Parsed fAllow bs ts r)
    {attribType : UInt16} (hmem : attribType ∈ addressTypes)
    (hne : ∀ c : AddCall, c.isAddress = true → c.type fLegacy ≠ attribType) :
    r.getAddressHelper attribType = .error E_FAIL := by
  refine hp.getAddressHelper_none (type_ne_of_forall hts fun c hc heq => ?_)
  cases haddress : c.isAddress with
  | true => exact hne c haddress heq
  | false => exact h.other c hc haddress (heq ▸ hmem)

/-- In legacy mode no address has a type of RFC 5389. -/
theorem legacy_type_ne (h : c.isAddress = true) :
    c.type true ≠ STUN_ATTRIBUTE_XORMAPPEDADDRESS ∧ c.type true ≠ STUN_ATTRIBUTE_RESPONSE_ORIGIN ∧
      c.type true ≠ STUN_ATTRIBUTE_OTHER_ADDRESS := by
  cases c with
  | xorMappedAddress addr =>
    simp only [type]
    decide
  | mappedAddress addr =>
    simp only [type]
    decide
  | responseOriginAddress addr =>
    simp only [type]
    decide
  | otherAddress addr =>
    simp only [type]
    decide
  | _ => cases h

/-- The getter of an address returns the address. -/
theorem answered_of_isAddress (h : AddressesOnce fLegacy (before ++ c :: after))
    (hc : c.isAddress = true)
    (hts : List.Forall₂ (IsAttribute D fLegacy transid) (before ++ c :: after) ts)
    (hp : Parsed fAllow bs ts r) (htransid : r.transactionid = transid) : c.Answered r := by
  have hnone : ∀ attribType, attribType ∈ addressTypes →
      (∀ c : AddCall, c.isAddress = true → c.type fLegacy ≠ attribType) →
      r.getAddressHelper attribType = .error E_FAIL :=
    fun attribType => getAddressHelper_none_of_calls h hts hp
  cases c with
  | mappedAddress addr => exact getAddressHelper_of_call h hc hts hp rfl fun _ => rfl
  | xorMappedAddress addr =>
    -- Either attribute holds the address with the mask, which the getter takes off again.
    have hfound := getAddressHelper_of_call h hc hts hp rfl fun _ => rfl
    show r.getXorMappedAddress = .ok addr
    unfold getXorMappedAddress
    cases fLegacy with
    | false =>
      have hfound' : r.getAddressHelper STUN_ATTRIBUTE_XORMAPPEDADDRESS =
        .ok (addr.applyStunXorMap transid) := hfound
      rw [hfound', htransid]
      exact congrArg Except.ok (addr.applyStunXorMap_involutive transid)
    | true =>
      have hfound' : r.getAddressHelper STUN_ATTRIBUTE_XORMAPPEDADDRESS_OPTIONAL =
        .ok (addr.applyStunXorMap transid) := hfound
      rw [hnone _ (List.mem_of_elem_eq_true rfl) fun c hc => (legacy_type_ne hc).1,
        hfound', htransid]
      exact congrArg Except.ok (addr.applyStunXorMap_involutive transid)
  | responseOriginAddress addr =>
    have hfound := getAddressHelper_of_call h hc hts hp rfl fun _ => rfl
    show r.getResponseOriginAddress = .ok addr
    unfold getResponseOriginAddress
    cases fLegacy with
    | false =>
      have hfound' : r.getAddressHelper STUN_ATTRIBUTE_RESPONSE_ORIGIN = .ok addr := hfound
      rw [hfound']
    | true =>
      rw [hnone _ (List.mem_of_elem_eq_true rfl) fun c hc => (legacy_type_ne hc).2.1]
      exact hfound
  | otherAddress addr =>
    have hfound := getAddressHelper_of_call h hc hts hp rfl fun _ => rfl
    show r.getOtherAddress = .ok addr
    unfold getOtherAddress
    cases fLegacy with
    | false =>
      have hfound' : r.getAddressHelper STUN_ATTRIBUTE_OTHER_ADDRESS = .ok addr := hfound
      rw [hfound']
    | true =>
      rw [hnone _ (List.mem_of_elem_eq_true rfl) fun c hc => (legacy_type_ne hc).2.2]
      exact hfound
  | _ => cases hc

/-- The attribute of an address is found by its type. -/
theorem getAttributeByType_of_isAddress (h : AddressesOnce fLegacy (before ++ c :: after))
    (hc : c.isAddress = true)
    (hts : List.Forall₂ (IsAttribute D fLegacy transid) (before ++ c :: after) ts)
    (hp : Parsed fAllow bs ts r) : ∃ a, r.getAttributeByType (c.type fLegacy) = .ok a := by
  obtain ⟨tsBefore, t, tsAfter, rfl, ht, hafter⟩ := exists_split hts (h.type_ne hc)
  obtain ⟨a, hlookup, -⟩ := hp.lookup_value hafter
  refine ⟨a, ?_⟩
  unfold getAttributeByType
  rw [← ht.type, hlookup]

end Addresses

end AddCall

namespace CStunMessageBuilder

/-- A message with addresses among other attributes is accepted, and the getters return the
addresses, from the attributes of RFC 3489 in legacy mode. -/
theorem addressCalls_answered (D : Digests) (fLegacy : Bool) (msgType : UInt16)
    (msgClass : StunMessageClass) (transid : StunTransactionId) (calls : List AddCall)
    (buf rbuf : Option CBuffer) (r₀ : CStunMessageReader) {b : CStunMessageBuilder}
    (hrun : writeCalls D msgType msgClass transid calls (start fLegacy buf) = .ok () b)
    (hcount : calls.length ≤ MAX_NUM_ATTRIBUTES)
    (hlimit : ∀ c ∈ calls, c.valueLength fLegacy ≤ MAX_STUN_ATTRIBUTE_SIZE)
    (hbody : (calls.map (AddCall.size fLegacy)).sum ≤ MAX_STUN_MESSAGE_SIZE)
    (haligned : ∀ c ∈ calls, c.aligned fLegacy = true)
    (honce : AddCall.AddressesOnce fLegacy calls) :
    ∃ spBuffer b', getResult b = .ok (some spBuffer) b' ∧
      let r := ((r₀.ready true rbuf).addBytes spBuffer.contents).2
      r.state = .bodyValidated ∧ ∀ c ∈ calls, c.isAddress = true →
        c.Answered r ∧ ∃ a, r.getAttributeByType (c.type fLegacy) = .ok a := by
  obtain ⟨b₁, hb₁, hwrite⟩ := writeCalls_eq D fLegacy msgType msgClass transid calls buf
  have hvalid := AddCall.valid_of_runAll_ok (hwrite.symm.trans hrun)
  obtain ⟨b₂, spBuffer, b', ts, hrun', hresult, hts, hp, htransid⟩ := parsed_calls D fLegacy msgType
    msgClass transid buf rbuf r₀ hvalid haligned hcount hlimit hbody
  obtain rfl : b₂ = b := by
    rw [hrun] at hrun'
    cases hrun'
    rfl
  refine ⟨spBuffer, b', hresult, hp.state, fun c hc haddress => ?_⟩
  obtain ⟨before, after, rfl⟩ := List.append_of_mem hc
  exact ⟨AddCall.answered_of_isAddress honce haddress hts hp htransid,
    AddCall.getAttributeByType_of_isAddress honce haddress hts hp⟩

/-- An address, and a port. -/
def someAddress : CSocketAddress := .ofHostByteOrder 0x0a000001 0x1234

/-- `addressCalls_answered` for a legacy message with all four addresses around a user name. -/
theorem addressCalls_answered_legacy :
    ∃ spBuffer b', getResult (finalState (writeCalls zeroDigests StunMsgTypeBinding .successResponse
        StunTransactionId.zero [.xorMappedAddress someAddress, .otherAddress someAddress,
          .userName ⟨[0x61], by decide⟩, .mappedAddress someAddress,
          .responseOriginAddress someAddress]) (start true none)) = .ok (some spBuffer) b' ∧
      ((({} : CStunMessageReader).ready true none).addBytes
        spBuffer.contents).2.getXorMappedAddress = .ok someAddress := by
  have hrun := @writeCalls_ok [.xorMappedAddress someAddress, .otherAddress someAddress,
    .userName ⟨[0x61], by decide⟩, .mappedAddress someAddress, .responseOriginAddress someAddress]
    zeroDigests true StunMsgTypeBinding .successResponse StunTransactionId.zero none
    (by simp [AddCall.Valid, CString.strlen])
  obtain ⟨spBuffer, b', hresult, -, hanswered⟩ := addressCalls_answered zeroDigests true
    StunMsgTypeBinding .successResponse StunTransactionId.zero _ none none {} hrun (by decide)
    (by decide) (by decide) (by decide) ⟨by decide, by decide⟩
  exact ⟨spBuffer, b', hresult, (hanswered (.xorMappedAddress someAddress) (by simp) rfl).1⟩

end CStunMessageBuilder

end Stun
