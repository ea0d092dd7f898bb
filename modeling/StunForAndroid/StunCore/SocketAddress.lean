import StunForAndroid.StunCore.StunTypes
import StunForAndroid.StunCore.DataStream

/-!
# `CSocketAddress`

`src/stuncore/socketaddress.cpp`, and `GetMappedAddress` of `src/stuncore/stunutils.cpp`, which
decodes the value of an address attribute. An address is IPv4 or IPv6, with the port in network byte
order as the socket structures have it. The flow and scope of an IPv6 address are not modelled,
since no function here looks at them.

`addressValue` is the value of an address attribute. Decoding it gives the address back
(`getMappedAddress_addressValue`), and applying the exclusive or with a transaction id twice does
nothing (`applyStunXorMap_involutive`).
-/

namespace Stun

open Octets Fallible CDataStream

/-- The address family. -/
inductive Family where
  | inet
  | inet6
deriving DecidableEq

/-- The octets of an IP address, `STUN_IPV4_LENGTH` or `STUN_IPV6_LENGTH`. -/
def Family.ipLength : Family → ℕ
  | .inet => 4
  | .inet6 => 16

/-- `sin_family` with `sin_addr`, or `sin6_family` with `sin6_addr`. -/
structure IPAddress where
  /-- The family. -/
  family : Family
  /-- The address in network byte order. -/
  octets : List UInt8
  /-- The family gives the length. -/
  length_octets : octets.length = family.ipLength
deriving DecidableEq

/-- The address of a family that `memcpy` fills from octets. -/
def IPAddress.ofOctets (family : Family) (bs : List UInt8) : IPAddress :=
  ⟨family, fixedArray family.ipLength bs, length_fixedArray _ _⟩

/-- The octets of an address give it back. -/
@[simp]
theorem IPAddress.ofOctets_octets (ip : IPAddress) : ofOctets ip.family ip.octets = ip := by
  obtain ⟨family, octets, h⟩ := ip
  simp only [ofOctets, mk.injEq, true_and]
  exact fixedArray_of_length h

/-- `CSocketAddress`. -/
structure CSocketAddress where
  /-- The IP address. -/
  ip : IPAddress
  /-- The port in network byte order. -/
  port_NBO : UInt16
deriving DecidableEq

namespace CSocketAddress

/-- `CSocketAddress(uint32_t, uint16_t)`: an IPv4 address in host byte order and a port. -/
def ofHostByteOrder (ipHostByteOrder : UInt32) (port : UInt16) : CSocketAddress where
  ip := IPAddress.ofOctets .inet (toLE 4 (htonl ipHostByteOrder).toNat)
  port_NBO := htons port

/-- `CSocketAddress()`: the IPv4 address and port zero. -/
def zero : CSocketAddress := ofHostByteOrder 0 0

/-- `GetPort`. -/
def getPort (a : CSocketAddress) : UInt16 := ntohs a.port_NBO

/-- `SetPort`. -/
def setPort (port : UInt16) (a : CSocketAddress) : CSocketAddress :=
  { a with port_NBO := htons port }

/-- `GetIP_NBO`. -/
def getIP_NBO (a : CSocketAddress) : List UInt8 := a.ip.octets

/-- `IsIPAddressZero`. -/
def isIPAddressZero (a : CSocketAddress) : Bool := a.ip.octets.all (· == 0)

/-- `IsSameIP`. -/
def isSameIP (a other : CSocketAddress) : Bool := a.ip == other.ip

/-- `IsSameIP_and_Port`. -/
def isSameIP_and_Port (a other : CSocketAddress) : Bool :=
  a.isSameIP other && a.getPort == other.getPort

/-- `ApplyStunXorMap`: the exclusive or of the port and of the IP address with the octets of the
transaction id, each from its start. -/
def applyStunXorMap (transid : StunTransactionId) (a : CSocketAddress) : CSocketAddress where
  ip := IPAddress.ofOctets a.ip.family (List.zipWith (· ^^^ ·) a.ip.octets transid.id)
  port_NBO := UInt16.ofNat (ofLE (List.zipWith (· ^^^ ·) (toLE 2 a.port_NBO.toNat) transid.id))

/-- The port is what it was set to. -/
@[simp]
theorem getPort_setPort (port : UInt16) (a : CSocketAddress) : (a.setPort port).getPort = port :=
  ntohs_htons port

/-- An address is its IP address and its port. -/
theorem ext_getPort {a b : CSocketAddress} (hip : a.ip = b.ip) (hport : a.getPort = b.getPort) :
    a = b := by
  obtain ⟨ip, port⟩ := a
  obtain ⟨ip', port'⟩ := b
  have h := congrArg htons hport
  simp only [getPort, htons_ntohs] at h
  simp_all

/-- `IsSameIP_and_Port` compares everything. -/
@[simp]
theorem isSameIP_and_Port_iff {a b : CSocketAddress} : a.isSameIP_and_Port b = true ↔ a = b := by
  constructor
  · intro h
    simp only [isSameIP_and_Port, isSameIP, Bool.and_eq_true, beq_iff_eq] at h
    exact ext_getPort h.1 h.2
  · rintro rfl
    simp [isSameIP_and_Port, isSameIP]

/-- The exclusive or with a list that is long enough, twice, does nothing. -/
theorem zipWith_xor_zipWith_xor (l k : List UInt8) (h : l.length ≤ k.length) :
    List.zipWith (· ^^^ ·) (List.zipWith (· ^^^ ·) l k) k = l := by
  induction l generalizing k with
  | nil => simp
  | cons a l ih =>
    cases k with
    | nil => simp at h
    | cons b k =>
      simp only [List.length_cons, Nat.add_le_add_iff_right] at h
      rw [List.zipWith_cons_cons, List.zipWith_cons_cons, ih k h, UInt8.xor_assoc, UInt8.xor_self,
        UInt8.xor_zero]

/-- The exclusive or with a transaction id keeps the length of an address or a port. -/
theorem length_zipWith_xor (l : List UInt8) (transid : StunTransactionId) (h : l.length ≤ 16) :
    (List.zipWith (· ^^^ ·) l transid.id).length = l.length := by
  rw [List.length_zipWith, transid.length_id]
  exact min_eq_left h

/-- Applying the exclusive or twice does nothing. -/
theorem applyStunXorMap_involutive (transid : StunTransactionId) (a : CSocketAddress) :
    (a.applyStunXorMap transid).applyStunXorMap transid = a := by
  obtain ⟨⟨family, octets, hlen⟩, port⟩ := a
  have h16 : octets.length ≤ 16 := by
    rw [hlen]
    cases family <;> simp [Family.ipLength]
  have hid : transid.id.length = 16 := transid.length_id
  -- The exclusive or is as long as the address and the port, since the transaction id is longer.
  have hip : fixedArray family.ipLength (List.zipWith (· ^^^ ·) octets transid.id)
      = List.zipWith (· ^^^ ·) octets transid.id :=
    fixedArray_of_length (by rw [length_zipWith_xor _ _ h16, hlen])
  have hport : toLE 2 (UInt16.ofNat (ofLE (List.zipWith (· ^^^ ·) (toLE 2 port.toNat)
      transid.id))).toNat = List.zipWith (· ^^^ ·) (toLE 2 port.toNat) transid.id := by
    have hl := length_zipWith_xor (toLE 2 port.toNat) transid (by simp)
    rw [length_toLE] at hl
    have hlt := ofLE_lt (List.zipWith (· ^^^ ·) (toLE 2 port.toNat) transid.id)
    have hle := toLE_ofLE (List.zipWith (· ^^^ ·) (toLE 2 port.toNat) transid.id)
    rw [hl] at hlt hle
    rw [UInt16.toNat_ofNat', Nat.mod_eq_of_lt (by simpa using hlt), hle]
  have hword : UInt16.ofNat (ofLE (toLE 2 port.toNat)) = port := by
    have hlt : port.toNat < 256 ^ 2 := port.toNat_lt
    rw [ofLE_toLE, Nat.mod_eq_of_lt hlt, UInt16.ofNat_toNat]
  simp only [applyStunXorMap, IPAddress.ofOctets, hip, hport, mk.injEq, IPAddress.mk.injEq,
    true_and]
  refine ⟨?_, ?_⟩
  · rw [zipWith_xor_zipWith_xor _ _ (by omega)]
    exact fixedArray_of_length hlen
  · rw [zipWith_xor_zipWith_xor _ _ (by simp [hid]), hword]

end CSocketAddress

/-! ## The value of an address attribute -/

/-- `GetMappedAddress` of `stunutils.cpp`, on the octets from `pData`: the zero octet is skipped,
and every family that is not IPv4 is read as IPv6. -/
def getMappedAddressImpl : Fallible CDataStream CSocketAddress := do
  seekDirect 1
  let attributeid ← readUint8
  let port ← readUint16
  let port := ntohs port
  if attributeid = STUN_ATTRIBUTE_FIELD_IPV4 then
    let ip4 ← readUint32
    return CSocketAddress.ofHostByteOrder (ntohl ip4) port
  else
    let ip6 ← read 16
    return ⟨IPAddress.ofOctets .inet6 ip6, htons port⟩

/-- `GetMappedAddress` of `stunutils.cpp`, with the result that it writes to `*pAddr`. -/
def getMappedAddress (pData : List UInt8) : Except HRESULT CSocketAddress :=
  match getMappedAddressImpl { spBuffer := some (CBuffer.initNoAlloc pData) } with
  | .ok addr _ => .ok addr
  | .error hr _ => .error hr

/-- The family octet of an address attribute. -/
def Family.field : Family → UInt8
  | .inet => STUN_ATTRIBUTE_FIELD_IPV4
  | .inet6 => STUN_ATTRIBUTE_FIELD_IPV6

/-- The value of an address attribute. -/
def addressValue (a : CSocketAddress) : List UInt8 :=
  [0, a.ip.family.field] ++ toLE 2 a.port_NBO.toNat ++ a.ip.octets

/-- The value of an address attribute has 8 or 20 octets. -/
theorem length_addressValue (a : CSocketAddress) :
    (addressValue a).length = 4 + a.ip.family.ipLength := by
  simp only [addressValue, List.length_append, length_toLE, a.ip.length_octets, List.length_cons,
    List.length_nil]

/-- A new stream over an array holds it. -/
theorem holds_initNoAlloc (bs : List UInt8) :
    Holds bs.length bs 0 { spBuffer := some (CBuffer.initNoAlloc bs) } := by
  have h := holds_attach_reading (CBuffer.initNoAlloc bs) {} le_rfl
  simpa [attach, reset, CBuffer.initNoAlloc, CBuffer.contents, CBuffer.getAllocatedSize] using h

/-- The family that `GetMappedAddress` takes a family octet for. -/
def familyOfField (field : UInt8) : Family :=
  if field = STUN_ATTRIBUTE_FIELD_IPV4 then .inet else .inet6

/-- The address that `GetMappedAddress` finds behind a family octet. -/
def decodedAddress (field p0 p1 : UInt8) (ip : List UInt8) : CSocketAddress :=
  ⟨IPAddress.ofOctets (familyOfField field) (ip.take (familyOfField field).ipLength),
    UInt16.ofNat (ofLE [p0, p1])⟩

/-- An IPv4 address is turned to host byte order and back. -/
theorem ofHostByteOrder_ntohl {bs : List UInt8} (h : bs.length = 4) (port : UInt16) :
    CSocketAddress.ofHostByteOrder (ntohl (UInt32.ofNat (ofLE bs))) (ntohs port) =
      ⟨IPAddress.ofOctets .inet bs, port⟩ := by
  have hlt := ofBE_lt bs
  have hbe := toBE_ofBE bs
  rw [h] at hlt hbe
  rw [CSocketAddress.ofHostByteOrder, ntohl_ofLE h, toLE_htonl, UInt32.toNat_ofNat',
    Nat.mod_eq_of_lt (by simpa using hlt), hbe, htons_ntohs]

/-- A value of less than four octets ends before the address. -/
theorem getMappedAddress_short {v : List UInt8} (h : v.length < 4) :
    ∃ hr, getMappedAddress v = .error hr := by
  have h0 := holds_initNoAlloc v
  unfold getMappedAddress getMappedAddressImpl
  match v with
  | [] =>
    rw [bind_of_error (h0.seekDirect_error (by decide))]
    exact ⟨_, rfl⟩
  | [z] =>
    have h1 := h0.withPos (q := 1) le_rfl
    rw [bind_of_ok (h0.seekDirect_ok (q := 1) le_rfl),
      bind_of_error (h1.readUint8_error (by simp))]
    exact ⟨_, rfl⟩
  | z :: field :: rest =>
    have h1 := h0.withPos (q := 1) (by simp)
    have h2 := h0.withPos (q := 2) (by simp)
    have hlen : (z :: field :: rest).length < 2 + 2 := h
    rw [bind_of_ok (h0.seekDirect_ok (q := 1) (by simp)), bind_of_ok (h1.readUint8_ok (by simp)),
      bind_of_error (h2.readUint16_error hlen)]
    exact ⟨_, rfl⟩

/-- A value of at least four octets is accepted when the address that its family octet stands for is
not longer than what follows. -/
theorem getMappedAddress_cons (z field p0 p1 : UInt8) (ip : List UInt8) :
    getMappedAddress (z :: field :: p0 :: p1 :: ip) =
      if (familyOfField field).ipLength ≤ ip.length then .ok (decodedAddress field p0 p1 ip)
      else .error E_INVALIDARG := by
  set v := z :: field :: p0 :: p1 :: ip with hv
  have hlen : v.length = 4 + ip.length := by
    rw [hv]
    simp only [List.length_cons]
    omega
  -- The cursor is at 1, 2 and 4 before the reads of the family, the port and the address.
  have h0 := holds_initNoAlloc v
  have h1 := h0.withPos (q := 1) (by omega)
  have h2 := h1.withPos (q := 2) (by omega)
  have h4 := h2.withPos (q := 4) (by omega)
  have hfield := h1.readUint8_ok (by omega)
  have hport := h2.readUint16_ok (by omega)
  have hfield' : UInt8.ofNat (ofLE ((v.drop 1).take 1)) = field := by
    have hword : ofLE [field] = field.toNat := by simp [ofLE]
    show UInt8.ofNat (ofLE [field]) = field
    rw [hword, UInt8.ofNat_toNat]
  have hport' : UInt16.ofNat (ofLE ((v.drop 2).take 2)) = UInt16.ofNat (ofLE [p0, p1]) := rfl
  have hip : v.drop 4 = ip := rfl
  rw [hfield'] at hfield
  rw [hport'] at hport
  unfold getMappedAddress getMappedAddressImpl decodedAddress familyOfField
  rw [bind_of_ok (h0.seekDirect_ok (q := 1) (by omega)), bind_of_ok hfield, bind_of_ok hport]
  by_cases hinet : field = STUN_ATTRIBUTE_FIELD_IPV4
  · simp only [if_pos hinet]
    by_cases hfit : Family.inet.ipLength ≤ ip.length
    · have hlen4 : (ip.take 4).length = 4 := by
        rw [List.length_take]
        exact min_eq_left hfit
      rw [if_pos hfit,
        bind_of_ok (h4.readUint32_ok (by simp only [Family.ipLength] at hfit; omega)), hip]
      show Except.ok (CSocketAddress.ofHostByteOrder (ntohl (UInt32.ofNat (ofLE (ip.take 4))))
        (ntohs (UInt16.ofNat (ofLE [p0, p1])))) = _
      rw [ofHostByteOrder_ntohl hlen4]
      rfl
    · rw [if_neg hfit,
        bind_of_error (h4.readUint32_error (by simp only [Family.ipLength] at hfit; omega))]
  · simp only [if_neg hinet]
    by_cases hfit : Family.inet6.ipLength ≤ ip.length
    · rw [if_pos hfit, bind_of_ok (h4.read_ok (by simp only [Family.ipLength] at hfit; omega)), hip]
      show Except.ok (CSocketAddress.mk (IPAddress.ofOctets .inet6 (ip.take 16))
        (htons (ntohs (UInt16.ofNat (ofLE [p0, p1]))))) = _
      rw [htons_ntohs]
      rfl
    · rw [if_neg hfit,
        bind_of_error (h4.read_error (by simp only [Family.ipLength] at hfit; omega))]

/-- The family octet of a family stands for it. -/
theorem familyOfField_field (family : Family) : familyOfField family.field = family := by
  cases family <;> rfl

/-- Decoding the value of an address attribute gives the address back. -/
theorem getMappedAddress_addressValue (a : CSocketAddress) :
    getMappedAddress (addressValue a) = .ok a := by
  obtain ⟨⟨family, octets, hlen⟩, port⟩ := a
  obtain ⟨p0, p1, hport⟩ : ∃ p0 p1, toLE 2 port.toNat = [p0, p1] := ⟨_, _, rfl⟩
  have hword : UInt16.ofNat (ofLE [p0, p1]) = port := by
    have hlt : port.toNat < 256 ^ 2 := port.toNat_lt
    rw [← hport, ofLE_toLE, Nat.mod_eq_of_lt hlt, UInt16.ofNat_toNat]
  have hcons : addressValue ⟨⟨family, octets, hlen⟩, port⟩ =
      0 :: family.field :: p0 :: p1 :: octets := by
    simp [addressValue, hport]
  have hip : IPAddress.ofOctets family (octets.take family.ipLength) = ⟨family, octets, hlen⟩ := by
    rw [← hlen, List.take_length]
    exact IPAddress.ofOctets_octets ⟨family, octets, hlen⟩
  rw [hcons, getMappedAddress_cons, familyOfField_field, if_pos hlen.ge, decodedAddress,
    familyOfField_field, hip, hword]

end Stun
