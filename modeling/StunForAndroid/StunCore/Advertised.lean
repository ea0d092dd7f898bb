import StunForAndroid.StunCore.Destination

/-!
# The addresses that a success response advertises

A success response has up to two addresses of the server: the other address, which differs from that
of the receiving socket in both IP and port, and the origin, which the response is sent from. Each
is in an attribute of its own, whose type depends on the format of the request, and the reader's
getters look for both types.
-/

namespace Stun

open Octets Fallible CDataStream CStunMessageBuilder

namespace CStunRequestHandler

open CStunMessageReader

/-! ## Reading the addresses -/

section Reading

variable {fAllow fLegacy : Bool} {bs : List UInt8} {before after : List WireAttribute} {D : Digests}
  {transid : StunTransactionId} {addrRemote : CSocketAddress}
  {addrOrigin addrOther : Option CSocketAddress} {creds : Option Credentials}
  {r : CStunMessageReader}

/-- An address that may be missing, as a getter gives it. -/
def found (addr : Option CSocketAddress) : Except HRESULT CSocketAddress :=
  match addr with
  | none => .error E_FAIL
  | some addr => .ok addr

/-- A getter gives the address that may be missing. -/
theorem found_eq_ok_iff {addr : Option CSocketAddress} {a : CSocketAddress} :
    found addr = .ok a ↔ addr = some a := by
  cases addr with
  | none => simp [found]
  | some b => simp [found]

/-- The address that may be missing, in the only attribute that can have its type. -/
theorem getAddressHelper_toList {t : UInt16} {addr : Option CSocketAddress}
    (h : Parsed fAllow bs (before ++ addr.toList.map (addressAttribute t) ++ after) r)
    (hbefore : ∀ x ∈ before, x.type ≠ t) (hafter : ∀ x ∈ after, x.type ≠ t) :
    r.getAddressHelper t = found addr := by
  cases addr with
  | none =>
    rw [Option.toList_none, List.map_nil, List.append_nil] at h
    exact h.getAddressHelper_none fun x hx => (List.mem_append.mp hx).elim (hbefore x) (hafter x)
  | some addr =>
    rw [Option.toList_some, List.map_singleton, List.append_assoc, List.singleton_append] at h
    exact h.getAddressHelper_eq hafter

/-- The types of the attributes of a success response, but for the two that are asked for here. -/
theorem type_of_mem_successDraft {x : WireAttribute}
    (hx : x ∈ (successDraft D transid fLegacy addrRemote addrOrigin addrOther creds).attributes) :
    x.type = STUN_ATTRIBUTE_MAPPEDADDRESS ∨ x.type = originType fLegacy ∨
      x.type = otherType fLegacy ∨ x.type = xorMappedType fLegacy ∨
      x.type = STUN_ATTRIBUTE_MESSAGEINTEGRITY := by
  obtain ⟨mi, hattributes, -, hmi⟩ :=
    attributes_successDraft D transid fLegacy addrRemote addrOrigin addrOther creds
  rw [hattributes, successAttributes] at hx
  simp only [List.mem_append, List.mem_cons, List.not_mem_nil, or_false] at hx
  rcases hx with (rfl | (hx | hx) | rfl) | hx
  · exact .inl (type_addressAttribute _ _)
  · exact .inr (.inl (type_of_mem_toList hx))
  · exact .inr (.inr (.inl (type_of_mem_toList hx)))
  · exact .inr (.inr (.inr (.inl (type_addressAttribute _ _))))
  · exact .inr (.inr (.inr (.inr (hmi x hx))))

/-- A success response has no address of a type that belongs to the other format. -/
theorem getAddressHelper_otherFormat {t : UInt16}
    (h : Parsed fAllow
      (successDraft D transid fLegacy addrRemote addrOrigin addrOther creds).octets
      (successDraft D transid fLegacy addrRemote addrOrigin addrOther creds).attributes r)
    (ht : t = originType (!fLegacy) ∨ t = otherType (!fLegacy)) :
    r.getAddressHelper t = .error E_FAIL := by
  refine h.getAddressHelper_none fun x hx => ?_
  have htype := type_of_mem_successDraft hx
  generalize x.type = u at htype
  rcases ht with rfl | rfl <;> rcases htype with rfl | rfl | rfl | rfl | rfl <;>
    cases fLegacy <;> decide

/-- The origin is read back from a success response under its type. -/
theorem getAddressHelper_originType
    (h : Parsed fAllow
      (successDraft D transid fLegacy addrRemote addrOrigin addrOther creds).octets
      (successDraft D transid fLegacy addrRemote addrOrigin addrOther creds).attributes r) :
    r.getAddressHelper (originType fLegacy) = found addrOrigin := by
  obtain ⟨mi, hattributes, -, hmi⟩ :=
    attributes_successDraft D transid fLegacy addrRemote addrOrigin addrOther creds
  have hsplit : (successDraft D transid fLegacy addrRemote addrOrigin addrOther creds).attributes =
      [addressAttribute STUN_ATTRIBUTE_MAPPEDADDRESS addrRemote] ++
        addrOrigin.toList.map (addressAttribute (originType fLegacy)) ++
        (addrOther.toList.map (addressAttribute (otherType fLegacy)) ++
          addressAttribute (xorMappedType fLegacy) (addrRemote.applyStunXorMap transid) :: mi) := by
    rw [hattributes, successAttributes]
    simp
  rw [hsplit] at h
  refine getAddressHelper_toList h ?_ fun x hx => ?_
  · simp only [List.mem_singleton, forall_eq, type_addressAttribute]
    cases fLegacy <;> decide
  · rcases List.mem_append.mp hx with hx | hx
    · rw [type_of_mem_toList hx]
      cases fLegacy <;> decide
    · rcases List.mem_cons.mp hx with rfl | hx
      · rw [type_addressAttribute]
        cases fLegacy <;> decide
      · rw [hmi x hx]
        cases fLegacy <;> decide

/-- The other address is read back from a success response under its type. -/
theorem getAddressHelper_otherType
    (h : Parsed fAllow
      (successDraft D transid fLegacy addrRemote addrOrigin addrOther creds).octets
      (successDraft D transid fLegacy addrRemote addrOrigin addrOther creds).attributes r) :
    r.getAddressHelper (otherType fLegacy) = found addrOther := by
  obtain ⟨mi, hattributes, -, hmi⟩ :=
    attributes_successDraft D transid fLegacy addrRemote addrOrigin addrOther creds
  have hsplit : (successDraft D transid fLegacy addrRemote addrOrigin addrOther creds).attributes =
      addressAttribute STUN_ATTRIBUTE_MAPPEDADDRESS addrRemote ::
          addrOrigin.toList.map (addressAttribute (originType fLegacy)) ++
        addrOther.toList.map (addressAttribute (otherType fLegacy)) ++
        addressAttribute (xorMappedType fLegacy) (addrRemote.applyStunXorMap transid) :: mi := by
    rw [hattributes, successAttributes]
    simp
  rw [hsplit] at h
  refine getAddressHelper_toList h (fun x hx => ?_) fun x hx => ?_
  · rcases List.mem_cons.mp hx with rfl | hx
    · rw [type_addressAttribute]
      cases fLegacy <;> decide
    · rw [type_of_mem_toList hx]
      cases fLegacy <;> decide
  · rcases List.mem_cons.mp hx with rfl | hx
    · rw [type_addressAttribute]
      cases fLegacy <;> decide
    · rw [hmi x hx]
      cases fLegacy <;> decide

/-- `GetResponseOriginAddress` reads the origin of a success response in either format. -/
theorem getResponseOriginAddress_of_successDraft
    (h : Parsed fAllow
      (successDraft D transid fLegacy addrRemote addrOrigin addrOther creds).octets
      (successDraft D transid fLegacy addrRemote addrOrigin addrOther creds).attributes r) :
    r.getResponseOriginAddress = found addrOrigin := by
  have hfound := getAddressHelper_originType h
  have hother := getAddressHelper_otherFormat h (.inl rfl)
  unfold getResponseOriginAddress
  cases fLegacy with
  | false =>
    rw [show r.getAddressHelper STUN_ATTRIBUTE_RESPONSE_ORIGIN = _ from hfound,
      show r.getAddressHelper STUN_ATTRIBUTE_SOURCEADDRESS = _ from hother]
    cases addrOrigin <;> rfl
  | true =>
    rw [show r.getAddressHelper STUN_ATTRIBUTE_RESPONSE_ORIGIN = _ from hother]
    exact hfound

/-- `GetOtherAddress` reads the other address of a success response in either format. -/
theorem getOtherAddress_of_successDraft
    (h : Parsed fAllow
      (successDraft D transid fLegacy addrRemote addrOrigin addrOther creds).octets
      (successDraft D transid fLegacy addrRemote addrOrigin addrOther creds).attributes r) :
    r.getOtherAddress = found addrOther := by
  have hfound := getAddressHelper_otherType h
  have hother := getAddressHelper_otherFormat h (.inr rfl)
  unfold getOtherAddress
  cases fLegacy with
  | false =>
    rw [show r.getAddressHelper STUN_ATTRIBUTE_OTHER_ADDRESS = _ from hfound,
      show r.getAddressHelper STUN_ATTRIBUTE_CHANGEDADDRESS = _ from hother]
    cases addrOther <;> rfl
  | true =>
    rw [show r.getAddressHelper STUN_ATTRIBUTE_OTHER_ADDRESS = _ from hother]
    exact hfound

end Reading

/-! ## The addresses that the handler chooses -/

section Choosing

variable {h : CStunRequestHandler} {set : TransportAddressSet}

/-- The role that differs from a role in both IP and port. -/
def oppositeRole (role : SocketRole) : SocketRole := socketRoleSwapIP (socketRoleSwapPort role)

/-- The other address is that of the opposite role, and is there when all four are valid and it is
not zero. -/
theorem otherAddress_eq_some_iff (hset : h.pAddrSet = some set) (addr : CSocketAddress) :
    h.otherAddress = some addr ↔ (∀ role, (set role).fValid = true) ∧
      (set (oppositeRole h.msgIn.socketrole)).addr.isIPAddressZero = false ∧
      addr = (set (oppositeRole h.msgIn.socketrole)).addr := by
  have hthere : ∀ role, h.hasAddress role = (set role).fValid := by
    intro role
    simp [hasAddress, address, hset]
  have haddress : ∀ role, h.address role = set role := by
    intro role
    simp [address, hset]
  -- The code looks at the four one by one.
  have hall : ((set .rolePP).fValid && (set .rolePA).fValid && (set .roleAP).fValid &&
      (set .roleAA).fValid) = true ↔ ∀ role, (set role).fValid = true := by
    simp only [Bool.and_eq_true]
    constructor
    · rintro ⟨⟨⟨hPP, hPA⟩, hAP⟩, hAA⟩ role
      cases role <;> assumption
    · exact fun hall => ⟨⟨⟨hall _, hall _⟩, hall _⟩, hall _⟩
  unfold otherAddress isIPAddressZeroOrInvalid
  simp only [hthere, haddress]
  rw [show socketRoleSwapIP (socketRoleSwapPort h.msgIn.socketrole) =
    oppositeRole h.msgIn.socketrole from rfl]
  by_cases hvalid : ∀ role, (set role).fValid = true
  · rw [hall.mpr hvalid, hvalid]
    cases (set (oppositeRole h.msgIn.socketrole)).addr.isIPAddressZero with
    | true => simp
    | false => simp [hvalid, eq_comm]
  · rw [Bool.eq_false_iff.mpr fun htrue => hvalid (hall.mp htrue)]
    simp [hvalid]

/-- The origin: the address of the socket, or the local address of the request when that is zero and
the socket is the one that received it. -/
theorem originAddress_eq_some_iff (hset : h.pAddrSet = some set) (socketOutput : SocketRole)
    (addr : CSocketAddress) :
    h.originAddress socketOutput = some addr ↔
      (set socketOutput).addr.isIPAddressZero = false ∧ addr = (set socketOutput).addr ∨
      (set socketOutput).addr.isIPAddressZero = true ∧ socketOutput = h.msgIn.socketrole ∧
        h.msgIn.addrLocal.isIPAddressZero = false ∧ addr = h.msgIn.addrLocal := by
  have haddress : h.address socketOutput = set socketOutput := by simp [address, hset]
  have heq : ∀ a : CSocketAddress, a = addr ↔ addr = a := fun a => eq_comm
  unfold originAddress
  rw [haddress]
  cases hzero : (set socketOutput).addr.isIPAddressZero with
  | false => simp [hzero, heq]
  | true =>
    by_cases hsame : socketOutput = h.msgIn.socketrole
    · subst hsame
      cases hlocal : h.msgIn.addrLocal.isIPAddressZero with
      | false => simp [hzero, hlocal, heq]
      | true => simp [hzero, hlocal]
    · simp [hsame, hzero]

end Choosing

/-! ## What a client reads -/

/-- A success response says the truth: it has the other address exactly when all four addresses are
valid and the opposite one is not zero, and the origin exactly when the address that the response is
sent from is known. -/
theorem processRequest_advertised (D : Digests) (r₀ : CStunMessageReader) (fAllow : Bool)
    (rbuf : Option CBuffer) (chunks : List (List UInt8)) (msgIn : StunMessageIn)
    (set : TransportAddressSet) (pAuth : Option IStunAuth) (msgOut msgOut' : StunMessageOut)
    (buf : CBuffer)
    (hok : processRequest D
      { msgIn with pReader := some ((r₀.ready fAllow rbuf).addChunks chunks) } (some set) pAuth
      { msgOut with spBufferOut := some buf } = .ok () msgOut') :
    ∃ out, msgOut'.spBufferOut = some out ∧ ∀ (r₁ : CStunMessageReader) (rbuf₁ : Option CBuffer),
      let r' := ((r₁.ready true rbuf₁).addBytes out.contents).2
      r'.msgClass = .successResponse →
        (∀ addr, r'.getOtherAddress = .ok addr ↔ (∀ role, (set role).fValid = true) ∧
          (set (oppositeRole msgIn.socketrole)).addr.isIPAddressZero = false ∧
          addr = (set (oppositeRole msgIn.socketrole)).addr) ∧
        ∀ addr, r'.getResponseOriginAddress = .ok addr ↔
          (set msgOut'.socketrole).addr.isIPAddressZero = false ∧
            addr = (set msgOut'.socketrole).addr ∨
          (set msgOut'.socketrole).addr.isIPAddressZero = true ∧
            msgOut'.socketrole = msgIn.socketrole ∧
            msgIn.addrLocal.isIPAddressZero = false ∧ addr = msgIn.addrLocal := by
  obtain ⟨hsize, hstate, hclass⟩ := processRequest_ok hok
  obtain ⟨ts, hread⟩ := (fed_addChunks fAllow rbuf r₀ chunks).parsed hstate
  obtain ⟨out, hrun, -, hcontents, husable⟩ :=
    processRequest_outcome D msgIn set pAuth msgOut hsize hclass hread
  obtain ⟨h, hh⟩ : ∃ h, newHandler { msgIn with
    pReader := some ((r₀.ready fAllow rbuf).addChunks chunks) } set pAuth buf = h := ⟨_, rfl⟩
  have hi := initial_newHandler ((r₀.ready fAllow rbuf).addChunks chunks) msgIn set pAuth hsize
  have hset : h.pAddrSet = some set := hh ▸ rfl
  rw [hh] at hrun hcontents husable hi
  rw [hok] at hrun
  injection hrun with _ hrun
  subst hrun
  refine ⟨out, rfl, fun r₁ rbuf₁ => ?_⟩
  rw [hcontents]
  intro r' hsuccess
  have hread' :
      Parsed true ((outcome D h).draft D h).octets ((outcome D h).draft D h).attributes r' :=
    (answers_outcome hi husable).complete.parsed (.inl rfl) (fed_addBytes true rbuf₁ r₁ _)
  clear_value r'
  -- An error response is of another class, so the request was accepted.
  have hclass' := ((Draft.header_of_parsed hread').2.1.symm.trans hsuccess).symm.trans
    (messageClass_draft D h _)
  generalize outcome D h = o at *
  cases o with
  | refused c => cases hclass'
  | accepted socketOutput creds =>
    have hother : r'.getOtherAddress = found h.otherAddress :=
      getOtherAddress_of_successDraft hread'
    have horigin : r'.getResponseOriginAddress = found (h.originAddress socketOutput) :=
      getResponseOriginAddress_of_successDraft hread'
    constructor
    · intro addr
      rw [hother, found_eq_ok_iff, otherAddress_eq_some_iff hset, hi.msgIn_eq]
    · intro addr
      rw [horigin, found_eq_ok_iff, originAddress_eq_some_iff hset, hi.msgIn_eq]
      rfl

/-- Two IP addresses with two ports each. -/
def fourAddresses : TransportAddressSet
  | .rolePP => ⟨.ofHostByteOrder 0x0a000001 3478, true⟩
  | .rolePA => ⟨.ofHostByteOrder 0x0a000001 3479, true⟩
  | .roleAP => ⟨.ofHostByteOrder 0x0a000002 3478, true⟩
  | .roleAA => ⟨.ofHostByteOrder 0x0a000002 3479, true⟩

/-- `processRequest_advertised` for a binding request to the first of the four. -/
theorem processRequest_advertised_binding :
    ∃ msgOut' out, processRequest (.constant (List.replicate 20 0) (List.replicate 16 0) 0 rfl rfl)
        { datagramFrom .zero with
          pReader := some ((({} : CStunMessageReader).ready true none).addChunks [bindingRequest]) }
        (some fourAddresses) none
        ⟨.rolePP, .zero, some (CBuffer.initWithAllocation MAX_STUN_MESSAGE_SIZE)⟩ = .ok () msgOut' ∧
      msgOut'.spBufferOut = some out ∧
      ((({} : CStunMessageReader).ready true none).addBytes out.contents).2.getOtherAddress =
        .ok (fourAddresses .roleAA).addr := by
  have hclass : (match processRequest
        (.constant (List.replicate 20 0) (List.replicate 16 0) 0 rfl rfl)
        { datagramFrom .zero with
          pReader := some ((({} : CStunMessageReader).ready true none).addChunks [bindingRequest]) }
        (some fourAddresses) none
        ⟨.rolePP, .zero, some (CBuffer.initWithAllocation MAX_STUN_MESSAGE_SIZE)⟩ with
      | .ok _ msgOut' => some ((({} : CStunMessageReader).ready true none).addBytes
          (msgOut'.spBufferOut.getD {}).contents).2.msgClass
      | .error _ _ => none) = some .successResponse := by decide +kernel
  generalize hrun : processRequest _ _ _ _ _ = result at hclass ⊢
  cases result with
  | error hr msgOut' => cases hclass
  | ok u msgOut' =>
    obtain ⟨out, hout, hread⟩ := processRequest_advertised _ {} true none [bindingRequest]
      (datagramFrom .zero) fourAddresses none ⟨.rolePP, .zero, none⟩ msgOut' _ hrun
    dsimp only at hclass
    rw [hout, Option.getD_some] at hclass
    obtain ⟨hother, -⟩ := hread {} none (Option.some.inj hclass)
    refine ⟨msgOut', out, rfl, hout, (hother _).mpr ⟨?_, by decide, rfl⟩⟩
    intro role
    cases role <;> rfl

end CStunRequestHandler

end Stun
