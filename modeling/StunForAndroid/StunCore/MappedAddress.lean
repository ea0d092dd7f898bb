import StunForAndroid.StunCore.Reader

/-!
# What `GetMappedAddress` accepts

`GetMappedAddress` of `src/stuncore/stunutils.cpp` on every octet string, with the address that it
writes through its pointer, and the three getters of `src/stuncore/stunreader.cpp` that look for a
legacy attribute when it fails.

The value of an address attribute is read from its front, and neither its size nor a family that is
not IPv4 is looked at. So octets behind the address are accepted, and every other family is read as
IPv6.
-/

namespace Stun

open Octets Fallible CDataStream

/-! ## Decoding -/

/-- A value of at least four octets has a first octet, a family, two octets of the port and an IP
address. -/
theorem exists_cons_of_four_le {v : List UInt8} (h : 4 ≤ v.length) :
    ∃ z field p0 p1 ip, v = z :: field :: p0 :: p1 :: ip := by
  match v with
  | z :: field :: p0 :: p1 :: ip => exact ⟨z, field, p0, p1, ip, rfl⟩

/-- The values that are accepted: those with room for the address that the family octet stands
for. -/
theorem getMappedAddress_eq_ok_iff (v : List UInt8) :
    (∃ addr, getMappedAddress v = .ok addr) ↔
      ∃ field, v[1]? = some field ∧ 4 + (familyOfField field).ipLength ≤ v.length := by
  rcases Nat.lt_or_ge v.length 4 with hshort | hlong
  · obtain ⟨hr, herror⟩ := getMappedAddress_short hshort
    refine iff_of_false ?_ ?_
    · rintro ⟨addr, haddr⟩
      rw [herror] at haddr
      cases haddr
    · rintro ⟨field, -, hlen⟩
      omega
  · obtain ⟨z, field, p0, p1, ip, rfl⟩ := exists_cons_of_four_le hlong
    have hlen : (z :: field :: p0 :: p1 :: ip).length = 4 + ip.length := by
      simp only [List.length_cons]
      omega
    have hfield : (z :: field :: p0 :: p1 :: ip)[1]? = some field := rfl
    rw [getMappedAddress_cons, hfield, hlen]
    simp only [Option.some.injEq, exists_eq_left', Nat.add_le_add_iff_left]
    split_ifs with hfit
    · exact iff_of_true ⟨_, rfl⟩ hfit
    · exact iff_of_false nofun hfit

/-- A well-formed value of an address attribute: IPv4 in 8 octets, or IPv6 in 20. -/
def WellFormedAddress (v : List UInt8) : Prop :=
  (v[1]? = some STUN_ATTRIBUTE_FIELD_IPV4 ∧ v.length = 8) ∨
    (v[1]? = some STUN_ATTRIBUTE_FIELD_IPV6 ∧ v.length = 20)

/-- A well-formed value is accepted, and is the value of the address that is found, but for its
first octet, which is not looked at. -/
theorem WellFormedAddress.getMappedAddress_eq_ok {v : List UInt8} (h : WellFormedAddress v) :
    ∃ addr, getMappedAddress v = .ok addr ∧ v.drop 1 = (addressValue addr).drop 1 := by
  have hlong : 4 ≤ v.length := by
    rcases h with ⟨-, hlen⟩ | ⟨-, hlen⟩ <;> omega
  obtain ⟨z, field, p0, p1, ip, rfl⟩ := exists_cons_of_four_le hlong
  have hport : toLE 2 (UInt16.ofNat (ofLE [p0, p1])).toNat = [p0, p1] := toLE_ofNat_ofLE_two rfl
  have hfamily : (familyOfField field).field = field ∧
      ip.length = (familyOfField field).ipLength := by
    rcases h with ⟨hfield, hlen⟩ | ⟨hfield, hlen⟩
    all_goals
      obtain rfl := Option.some.inj hfield
      simp only [List.length_cons] at hlen
    · exact ⟨rfl, show ip.length = 4 by omega⟩
    · exact ⟨rfl, show ip.length = 16 by omega⟩
  obtain ⟨hfield, hip⟩ := hfamily
  refine ⟨decodedAddress field p0 p1 ip, ?_, ?_⟩
  · rw [getMappedAddress_cons, if_pos hip.ge]
  · have hoctets : (decodedAddress field p0 p1 ip).ip.octets = ip := by
      show fixedArray (familyOfField field).ipLength (ip.take (familyOfField field).ipLength) = ip
      rw [← hip, List.take_length]
      exact fixedArray_of_length rfl
    have hport' : toLE 2 (decodedAddress field p0 p1 ip).port_NBO.toNat = [p0, p1] := hport
    have hfield' : (decodedAddress field p0 p1 ip).ip.family.field = field := hfield
    rw [addressValue, hoctets, hport', hfield']
    rfl

/-! ## The address behind the pointer -/

/-- `GetMappedAddress` of `stunutils.cpp`, on what is at `pAddr`. -/
def getMappedAddressTo (pData : List UInt8) : Fallible CSocketAddress Unit := fun pAddr =>
  match getMappedAddressImpl { spBuffer := some (CBuffer.initNoAlloc pData) } with
  | .ok addr _ => .ok () addr
  | .error hr _ => .error hr pAddr

/-- The address is written when there is one, and otherwise what is there stays. -/
def stored (result : Except HRESULT CSocketAddress) : Fallible CSocketAddress Unit := fun pAddr =>
  match result with
  | .ok addr => .ok () addr
  | .error hr => .error hr pAddr

/-- `GetMappedAddress` writes the address last. -/
theorem getMappedAddressTo_eq (pData : List UInt8) :
    getMappedAddressTo pData = stored (getMappedAddress pData) := by
  funext pAddr
  unfold getMappedAddressTo stored getMappedAddress
  cases getMappedAddressImpl { spBuffer := some (CBuffer.initNoAlloc pData) } <;> rfl

namespace CStunMessageReader

/-- `GetAddressHelper`, on what is at `pAddr`. -/
def getAddressHelperTo (attribType : UInt16) (r : CStunMessageReader) :
    Fallible CSocketAddress Unit :=
  match r.mapAttributes.lookup attribType with
  | none => throw E_FAIL
  | some pAttrib => getMappedAddressTo (r.dataAt pAttrib.offset.toNat pAttrib.size.toNat)

/-- `GetAddressHelper` for an attribute, and when it fails for another. -/
def getEitherAddressTo (attribType legacyType : UInt16) (r : CStunMessageReader) :
    Fallible CSocketAddress Unit := fun pAddr =>
  match r.getAddressHelperTo attribType pAddr with
  | .ok _ pAddr => .ok () pAddr
  | .error _ pAddr => r.getAddressHelperTo legacyType pAddr

/-- `GetOtherAddress`, on what is at `pAddr`. -/
def getOtherAddressTo : CStunMessageReader → Fallible CSocketAddress Unit :=
  getEitherAddressTo STUN_ATTRIBUTE_OTHER_ADDRESS STUN_ATTRIBUTE_CHANGEDADDRESS

/-- `GetXorMappedAddress`, on what is at `pAddr`. -/
def getXorMappedAddressTo (r : CStunMessageReader) : Fallible CSocketAddress Unit := do
  getEitherAddressTo STUN_ATTRIBUTE_XORMAPPEDADDRESS STUN_ATTRIBUTE_XORMAPPEDADDRESS_OPTIONAL r
  modify (CSocketAddress.applyStunXorMap r.transactionid)

/-- `GetResponseOriginAddress`, on what is at `pAddr`. -/
def getResponseOriginAddressTo : CStunMessageReader → Fallible CSocketAddress Unit :=
  getEitherAddressTo STUN_ATTRIBUTE_RESPONSE_ORIGIN STUN_ATTRIBUTE_SOURCEADDRESS

/-- `GetAddressHelper` writes an address that it finds, and nothing else. -/
theorem getAddressHelperTo_eq (attribType : UInt16) (r : CStunMessageReader) :
    r.getAddressHelperTo attribType = stored (r.getAddressHelper attribType) := by
  unfold getAddressHelperTo getAddressHelper
  cases r.mapAttributes.lookup attribType with
  | none => rfl
  | some pAttrib => exact getMappedAddressTo_eq _

/-- The first of two attributes is looked for. -/
theorem getEitherAddressTo_of_error {attribType legacyType : UInt16} {r : CStunMessageReader}
    {hr : HRESULT} (h : r.getAddressHelper attribType = .error hr) :
    r.getEitherAddressTo attribType legacyType = stored (r.getAddressHelper legacyType) := by
  funext pAddr
  unfold getEitherAddressTo
  rw [getAddressHelperTo_eq, getAddressHelperTo_eq, h]
  rfl

end CStunMessageReader

/-! ## Exact decoding -/

/-- The reader has an attribute of a type with the value `v`. -/
def CStunMessageReader.HasValue (attribType : UInt16) (v : List UInt8)
    (r : CStunMessageReader) : Prop :=
  ∃ pAttrib, r.mapAttributes.lookup attribType = some pAttrib ∧
    r.dataAt pAttrib.offset.toNat pAttrib.size.toNat = v

/-- The getters find in an attribute what `GetMappedAddress` finds in its value. -/
theorem CStunMessageReader.HasValue.getAddressHelper_eq {attribType : UInt16} {v : List UInt8}
    {r : CStunMessageReader} (h : r.HasValue attribType v) :
    r.getAddressHelper attribType = Stun.getMappedAddress v := by
  obtain ⟨pAttrib, hlookup, rfl⟩ := h
  unfold getAddressHelper
  rw [hlookup]

/-- No address is found in the value. -/
def Refused (v : List UInt8) : Prop := ∃ hr, getMappedAddress v = .error hr

/-- What there is to say of `GetMappedAddress` on a value, and of the getters of a reader that has
it. -/
structure DecodesExactly (v : List UInt8) : Prop where
  /-- It succeeds on well-formed values only, and on all of them. -/
  accepts : (∃ addr, getMappedAddress v = .ok addr) ↔ WellFormedAddress v
  /-- The address has the family, the IP address and the port of the value. -/
  decodes : ∀ addr pAddr, getMappedAddressTo v pAddr = .ok () addr →
    v.drop 1 = (addressValue addr).drop 1
  /-- It leaves `*pAddr` alone when it fails. -/
  unchanged : ∀ hr pAddr pAddr', getMappedAddressTo v pAddr = .error hr pAddr' → pAddr' = pAddr
  /-- The getters then look for the legacy attribute. -/
  otherAddress : ∀ r : CStunMessageReader, r.HasValue STUN_ATTRIBUTE_OTHER_ADDRESS v → Refused v →
    r.getOtherAddressTo = stored (r.getAddressHelper STUN_ATTRIBUTE_CHANGEDADDRESS)
  xorMappedAddress : ∀ r : CStunMessageReader, r.HasValue STUN_ATTRIBUTE_XORMAPPEDADDRESS v →
    Refused v → r.getXorMappedAddressTo =
      stored ((r.getAddressHelper STUN_ATTRIBUTE_XORMAPPEDADDRESS_OPTIONAL).map
        (CSocketAddress.applyStunXorMap r.transactionid))
  responseOriginAddress : ∀ r : CStunMessageReader, r.HasValue STUN_ATTRIBUTE_RESPONSE_ORIGIN v →
    Refused v → r.getResponseOriginAddressTo =
      stored (r.getAddressHelper STUN_ATTRIBUTE_SOURCEADDRESS)

/-- An address is stored exactly when it is the result. -/
theorem stored_eq_ok_iff {result : Except HRESULT CSocketAddress} {pAddr addr : CSocketAddress} :
    stored result pAddr = .ok () addr ↔ result = .ok addr := by
  unfold stored
  cases result with
  | ok found =>
    constructor
    · rintro ⟨⟩
      rfl
    · rintro ⟨⟩
      rfl
  | error hr => exact iff_of_false nofun nofun

/-- Nothing is stored when there is no result. -/
theorem eq_of_stored_eq_error {result : Except HRESULT CSocketAddress}
    {pAddr pAddr' : CSocketAddress}
    {hr : HRESULT} (h : stored result pAddr = .error hr pAddr') : pAddr' = pAddr := by
  unfold stored at h
  cases result with
  | ok found => cases h
  | error hr' =>
    cases h
    rfl

/-- The exclusive or is applied to an address that was stored. -/
theorem stored_bind_modify (result : Except HRESULT CSocketAddress)
    (f : CSocketAddress → CSocketAddress) :
    (do stored result; modify f : Fallible CSocketAddress Unit) = stored (result.map f) := by
  funext pAddr
  cases result <;> rfl

/-- All but the first two hold of every value. -/
theorem decodesExactly_of_accepts {v : List UInt8}
    (h : (∃ addr, getMappedAddress v = .ok addr) ↔ WellFormedAddress v) : DecodesExactly v where
  accepts := h
  decodes := by
    intro addr pAddr hok
    rw [getMappedAddressTo_eq, stored_eq_ok_iff] at hok
    obtain ⟨addr', hok', hvalue⟩ := (h.mp ⟨addr, hok⟩).getMappedAddress_eq_ok
    obtain rfl := Except.ok.inj (hok.symm.trans hok')
    exact hvalue
  unchanged := by
    intro hr pAddr pAddr' herror
    rw [getMappedAddressTo_eq] at herror
    exact eq_of_stored_eq_error herror
  otherAddress := by
    rintro r hvalue ⟨hr, herror⟩
    exact CStunMessageReader.getEitherAddressTo_of_error (hvalue.getAddressHelper_eq.trans herror)
  xorMappedAddress := by
    rintro r hvalue ⟨hr, herror⟩
    unfold CStunMessageReader.getXorMappedAddressTo
    rw [CStunMessageReader.getEitherAddressTo_of_error (hvalue.getAddressHelper_eq.trans herror)]
    exact stored_bind_modify _ _
  responseOriginAddress := by
    rintro r hvalue ⟨hr, herror⟩
    exact CStunMessageReader.getEitherAddressTo_of_error (hvalue.getAddressHelper_eq.trans herror)

/-- The value ends with the address that its family octet stands for, and another family than the
two has no room for an IPv6 address. -/
structure NothingBehind (v : List UInt8) : Prop where
  inet : v[1]? = some STUN_ATTRIBUTE_FIELD_IPV4 → v.length ≤ 8
  inet6 : v[1]? = some STUN_ATTRIBUTE_FIELD_IPV6 → v.length ≤ 20
  other : ∀ field, v[1]? = some field → field ≠ STUN_ATTRIBUTE_FIELD_IPV4 →
    field ≠ STUN_ATTRIBUTE_FIELD_IPV6 → v.length < 20

/-- A value with an address has 8 octets with an IPv4 address and 20 octets with another. -/
theorem length_familyOfField (field : UInt8) :
    4 + (familyOfField field).ipLength = if field = STUN_ATTRIBUTE_FIELD_IPV4 then 8 else 20 := by
  unfold familyOfField
  split_ifs <;> rfl

/-- `GetMappedAddress` does what there is to say of it on a value that has nothing behind its
address, and on no other. -/
theorem decodesExactly_iff (v : List UInt8) : DecodesExactly v ↔ NothingBehind v := by
  have hsix : STUN_ATTRIBUTE_FIELD_IPV6 ≠ STUN_ATTRIBUTE_FIELD_IPV4 := by decide
  have hok := getMappedAddress_eq_ok_iff v
  simp only [length_familyOfField] at hok
  constructor
  · intro h
    have haccepts := hok.symm.trans h.accepts
    -- A longer value is accepted as well, and is not well-formed.
    refine ⟨fun hfield => ?_, fun hfield => ?_, fun field hfield hfour hsix' => ?_⟩
    · by_contra hlen
      rcases haccepts.mp ⟨_, hfield, by rw [if_pos rfl]; omega⟩ with ⟨-, hexact⟩ | ⟨hother, -⟩
      · omega
      · exact hsix (Option.some.inj (hother.symm.trans hfield))
    · by_contra hlen
      rcases haccepts.mp ⟨_, hfield, by rw [if_neg hsix]; omega⟩ with ⟨hother, -⟩ | ⟨-, hexact⟩
      · exact hsix (Option.some.inj (hfield.symm.trans hother))
      · omega
    · by_contra hlen
      rcases haccepts.mp ⟨_, hfield, by rw [if_neg hfour]; omega⟩ with ⟨hother, -⟩ | ⟨hother, -⟩
      · exact hfour (Option.some.inj (hfield.symm.trans hother))
      · exact hsix' (Option.some.inj (hfield.symm.trans hother))
  · intro h
    refine decodesExactly_of_accepts (hok.trans ⟨?_, ?_⟩)
    · rintro ⟨field, hfield, hlen⟩
      -- What is accepted is long enough, and by the condition it is not longer.
      by_cases hfour : field = STUN_ATTRIBUTE_FIELD_IPV4
      · subst hfour
        have hle := h.inet hfield
        rw [if_pos rfl] at hlen
        exact .inl ⟨hfield, by omega⟩
      · rw [if_neg hfour] at hlen
        by_cases hsix' : field = STUN_ATTRIBUTE_FIELD_IPV6
        · subst hsix'
          have hle := h.inet6 hfield
          exact .inr ⟨hfield, by omega⟩
        · have hlt := h.other field hfield hfour hsix'
          omega
    · rintro (⟨hfield, hlen⟩ | ⟨hfield, hlen⟩)
      · exact ⟨_, hfield, by rw [if_pos rfl]; omega⟩
      · exact ⟨_, hfield, by rw [if_neg hsix]; omega⟩

/-- An address of the family 3 is read as IPv6. -/
theorem not_decodesExactly : ¬∀ v, DecodesExactly v := by
  intro h
  have haccepts := (h (0 :: 3 :: List.replicate 18 0)).accepts.mp
    ((getMappedAddress_eq_ok_iff _).mpr ⟨3, rfl, by decide⟩)
  rcases haccepts with ⟨hfield, -⟩ | ⟨hfield, -⟩
  · exact absurd hfield (by decide)
  · exact absurd hfield (by decide)

end Stun
