import StunForAndroid.Common.Digests
import StunForAndroid.Lib.Tlv
import StunForAndroid.StunCore.SocketAddress

/-!
# `CStunMessageBuilder`

`src/stuncore/stunbuilder.cpp`. A message is built by writing its header, its transaction id and its
attributes one after the other to the builder's stream. The length field is written as zero and
patched by `FixLengthField`, and message integrity and fingerprint are written as zeros and patched
after the length.
-/

namespace Stun

open Octets Fallible CDataStream

/-- The builder. -/
structure CStunMessageBuilder where
  stream : CDataStream := {}
  transactionid : StunTransactionId := StunTransactionId.zero
  fLegacyMode : Bool := false

namespace CStunMessageBuilder

/-- A step on the builder's stream. -/
def onStream {α : Type} (m : Fallible CDataStream α) : Fallible CStunMessageBuilder α :=
  zoom stream (fun s b => { b with stream := s }) m

/-- `Write` to the builder's stream, skipped when there is nothing to write. -/
def writeUnlessEmpty (data : List UInt8) : Fallible CStunMessageBuilder Unit :=
  if data.length > 0 then onStream (write data) else pure ()

/-- `SetLegacyMode`. -/
def setLegacyMode (fLegacyMode : Bool) (b : CStunMessageBuilder) : CStunMessageBuilder :=
  { b with fLegacyMode := fLegacyMode }

/-- `GetStream().Attach(buf, true)`. -/
def attachStream (buf : CBuffer) (b : CStunMessageBuilder) : CStunMessageBuilder :=
  { b with stream := b.stream.attach buf true }

/-! ## Header and transaction id -/

/-- The type field that `AddHeader` writes. -/
def msgTypeField (msgType : UInt16) (msgClass : StunMessageClass) : UInt16 :=
  ((msgType &&& (0x0f80 : UInt16)) <<< 2) ||| ((msgType &&& (0x0070 : UInt16)) <<< 1) |||
    (msgType &&& (0x000f : UInt16)) ||| ((msgClass.value &&& (0x02 : UInt16)) <<< 7) |||
    ((msgClass.value &&& (0x01 : UInt16)) <<< 4)

/-- `AddHeader`, with a place holder for the length. -/
def addHeader (msgType : UInt16) (msgClass : StunMessageClass) :
    Fallible CStunMessageBuilder Unit := do
  onStream (setSizeHint 200)
  onStream (writeUint16 (htons (msgTypeField msgType msgClass)))
  onStream (writeUint16 0)

/-- `AddBindingRequestHeader`. -/
def addBindingRequestHeader : Fallible CStunMessageBuilder Unit :=
  addHeader StunMsgTypeBinding .request

/-- `AddTransactionId`. -/
def addTransactionId (transid : StunTransactionId) : Fallible CStunMessageBuilder Unit := do
  modify fun b => { b with transactionid := transid }
  onStream (write transid.id)

/-- The transaction id that `AddRandomTransactionId` makes: the cookie, and octets of the generator
up to, and not including, `STUN_TRANSACTION_ID_LENGTH - 4`. The local variable that it fills is not
initialized, so that its last octets are those of `transid`, what was on the stack. -/
def randomTransactionId (rand : ℕ → UInt8) (transid : StunTransactionId) : StunTransactionId :=
  StunTransactionId.ofOctets
    (toLE 4 (htonl STUN_COOKIE).toNat ++ (List.range' 4 8).map rand ++ transid.id.drop 12)

/-- `AddRandomTransactionId`, with the transaction id that it writes to `*pTransId`. -/
def addRandomTransactionId (rand : ℕ → UInt8) (transid : StunTransactionId) :
    Fallible CStunMessageBuilder StunTransactionId := do
  let transid := randomTransactionId rand transid
  addTransactionId transid
  return transid

/-! ## Attributes -/

/-- `AddAttributeHeader`. -/
def addAttributeHeader (attribType size : UInt16) : Fallible CStunMessageBuilder Unit := do
  onStream (writeUint16 (htons attribType))
  onStream (writeUint16 (htons size))

/-- `AddAttribute`. In legacy mode the length of the attribute counts the padding. -/
def addAttribute (attribType : UInt16) (data : Option (List UInt8)) (size : UInt16) :
    Fallible CStunMessageBuilder Unit := do
  let sizeheader := size
  let size := if data = none then 0 else size
  let padding := padLength 4 size.toNat
  let sizeheader := if (← get).fLegacyMode then sizeheader + UInt16.ofNat padding else sizeheader
  addAttributeHeader attribType sizeheader
  writeUnlessEmpty ((data.getD []).take size.toNat)
  writeUnlessEmpty (List.replicate padding 0)

/-- `AddStringAttribute`. -/
def addStringAttribute (attribType : UInt16) (pstr : CString) :
    Fallible CStunMessageBuilder Unit := do
  chkIf (pstr.strlen = 0) E_INVALIDARG
  addAttribute attribType (some pstr.chars) (UInt16.ofNat pstr.strlen)

/-- `AddErrorCode`. -/
def addErrorCode (errorNumber : UInt16) (pszReason : CString) :
    Fallible CStunMessageBuilder Unit := do
  let strsize := pszReason.strlen
  let size := strsize + 4
  chkIf (strsize ≥ 128) E_INVALIDARG
  chkIf (errorNumber < 300) E_INVALIDARG
  chkIf (errorNumber > 600) E_INVALIDARG
  let padding := padLength 4 size
  let sizeheader := if (← get).fLegacyMode then size + padding else size
  addAttributeHeader STUN_ATTRIBUTE_ERRORCODE (UInt16.ofNat sizeheader)
  onStream (writeUint16 0)
  onStream (writeUint8 (errorNumber / 100).toUInt8)
  onStream (writeUint8 (errorNumber % 100).toUInt8)
  writeUnlessEmpty pszReason.chars
  writeUnlessEmpty (List.replicate padding 0)

/-- `AddUnknownAttributes`. In legacy mode the last of an odd number of attributes is repeated. The
size is a word, so that a long array is cut. -/
def addUnknownAttributes (arr : List UInt16) : Fallible CStunMessageBuilder Unit := do
  let size := UInt16.ofNat (arr.length * 2)
  let unpaddedsize := size
  chkIf (arr.length = 0) E_INVALIDARG
  let fPad := (← get).fLegacyMode && arr.length % 2 != 0
  let size := if fPad then size + 2 else size
  addAttributeHeader STUN_ATTRIBUTE_UNKNOWNATTRIBUTES size
  onStream (write ((arr.flatMap fun id => toLE 2 id.toNat).take unpaddedsize.toNat))
  if fPad then ignore (onStream (write (toLE 2 (arr.getLastD 0).toNat)))

/-- `AddMappedAddressImpl`. -/
def addMappedAddressImpl (attribid : UInt16) (addr : CSocketAddress) :
    Fallible CStunMessageBuilder Unit := do
  let family := if addr.ip.family = .inet then STUN_ATTRIBUTE_FIELD_IPV4
    else STUN_ATTRIBUTE_FIELD_IPV6
  let attributeSize := if family = STUN_ATTRIBUTE_FIELD_IPV4 then
    STUN_ATTRIBUTE_MAPPEDADDRESS_SIZE_IPV4 else STUN_ATTRIBUTE_MAPPEDADDRESS_SIZE_IPV6
  addAttributeHeader attribid attributeSize
  onStream (writeUint8 0)
  onStream (writeUint8 family)
  onStream (writeUint16 addr.port_NBO)
  onStream (write addr.getIP_NBO)

/-- `AddXorMappedAddress`. -/
def addXorMappedAddress (addr : CSocketAddress) : Fallible CStunMessageBuilder Unit := do
  let b ← get
  let attributeID := if b.fLegacyMode then STUN_ATTRIBUTE_XORMAPPEDADDRESS_OPTIONAL
    else STUN_ATTRIBUTE_XORMAPPEDADDRESS
  addMappedAddressImpl attributeID (addr.applyStunXorMap b.transactionid)

/-- `AddMappedAddress`. -/
def addMappedAddress (addr : CSocketAddress) : Fallible CStunMessageBuilder Unit :=
  addMappedAddressImpl STUN_ATTRIBUTE_MAPPEDADDRESS addr

/-- `AddResponseOriginAddress`. -/
def addResponseOriginAddress (addr : CSocketAddress) : Fallible CStunMessageBuilder Unit := do
  let attribid := if (← get).fLegacyMode then STUN_ATTRIBUTE_SOURCEADDRESS
    else STUN_ATTRIBUTE_RESPONSE_ORIGIN
  addMappedAddressImpl attribid addr

/-- `AddOtherAddress`. -/
def addOtherAddress (addr : CSocketAddress) : Fallible CStunMessageBuilder Unit := do
  let attribid := if (← get).fLegacyMode then STUN_ATTRIBUTE_CHANGEDADDRESS
    else STUN_ATTRIBUTE_OTHER_ADDRESS
  addMappedAddressImpl attribid addr

/-- `AddResponsePort`. -/
def addResponsePort (port : UInt16) : Fallible CStunMessageBuilder Unit :=
  let port := htons port
  addAttribute STUN_ATTRIBUTE_RESPONSE_PORT (some (toLE 2 port.toNat)) 2

/-- `PADDING_BUFFER_SIZE`. -/
def PADDING_BUFFER_SIZE : UInt16 := 128

/-- The size that `AddPaddingAttribute` rounds up to. -/
def roundedSize (paddingSize : UInt16) : UInt16 :=
  if paddingSize % 4 ≠ 0 then paddingSize + 4 - paddingSize % 4 else paddingSize

/-- The size of the next block that `AddPaddingAttribute` writes. -/
def blockSize (paddingSize : UInt16) : UInt16 :=
  if paddingSize ≥ PADDING_BUFFER_SIZE then PADDING_BUFFER_SIZE else paddingSize

/-- The loop of `AddPaddingAttribute`, which writes zeros in blocks. A block has at least one octet,
so that as many iterations as there are octets are enough. -/
def addPaddingLoop : ℕ → UInt16 → Fallible CStunMessageBuilder Unit
  | 0, _ => pure ()
  | fuel + 1, paddingSize =>
    if paddingSize > 0 then do
      let blocksize := blockSize paddingSize
      onStream (write (List.replicate blocksize.toNat 0))
      addPaddingLoop fuel (paddingSize - blocksize)
    else pure ()

/-- `AddPaddingAttribute`. -/
def addPaddingAttribute (paddingSize : UInt16) : Fallible CStunMessageBuilder Unit := do
  let paddingSize := roundedSize paddingSize
  addAttributeHeader STUN_ATTRIBUTE_PADDING paddingSize
  addPaddingLoop paddingSize.toNat paddingSize

/-- `AddUserName`. -/
def addUserName (pszUserName : CString) : Fallible CStunMessageBuilder Unit :=
  addStringAttribute STUN_ATTRIBUTE_USERNAME pszUserName

/-- `AddNonce`. -/
def addNonce (pszNonce : CString) : Fallible CStunMessageBuilder Unit :=
  addStringAttribute STUN_ATTRIBUTE_NONCE pszNonce

/-- `AddRealm`. -/
def addRealm (pszRealm : CString) : Fallible CStunMessageBuilder Unit :=
  addStringAttribute STUN_ATTRIBUTE_REALM pszRealm

/-- `AddChangeRequest`. -/
def addChangeRequest (changeAttrib : StunChangeRequestAttribute) :
    Fallible CStunMessageBuilder Unit :=
  let changeData : UInt32 := 0
  let changeData := if changeAttrib.fChangeIP then changeData ||| 0x04 else changeData
  let changeData := if changeAttrib.fChangePort then changeData ||| 0x02 else changeData
  addAttribute STUN_ATTRIBUTE_CHANGEREQUEST (some (toLE 4 (htonl changeData).toNat)) 4

/-! ## Patches -/

/-- `FixLengthField`. -/
def fixLengthField : Fallible CStunMessageBuilder Unit := do
  let b ← get
  let size := b.stream.getSize
  let currentPos := b.stream.getPos
  chkIf (size < STUN_HEADER_SIZE) E_UNEXPECTED
  onStream (seekDirect 2)
  onStream (writeUint16 (ntohs (UInt16.ofNat (size - STUN_HEADER_SIZE))))
  onStream (seekDirect currentPos)

/-- The end of `AddMessageIntegrityImpl`: the HMAC of everything but the last 24 octets goes to the
place of the zeros that were written for it, behind the stream's back. -/
def hashInPlace (D : Digests) (key : List UInt8) : Fallible CStunMessageBuilder Unit := do
  let pData := ((← get).stream.getDataPointerUnsafe).getD []
  let length := (← get).stream.getSize - 24
  let hash := D.hmacSha1 key (pData.take length)
  onStream (modify fun s => { s with
    spBuffer := s.spBuffer.map fun b => { b with data := overwrite b.data (length + 4) hash } })

/-- `AddMessageIntegrityImpl`. -/
def addMessageIntegrityImpl (D : Digests) (key : List UInt8) :
    Fallible CStunMessageBuilder Unit := do
  chkIf (key.length = 0) E_INVALIDARG
  addAttribute STUN_ATTRIBUTE_MESSAGEINTEGRITY (some (List.replicate 20 0)) 20
  fixLengthField
  hashInPlace D key

/-- `AddMessageIntegrityShortTerm`. -/
def addMessageIntegrityShortTerm (D : Digests) (pszPassword : CString) :
    Fallible CStunMessageBuilder Unit :=
  addMessageIntegrityImpl D pszPassword.chars

/-- `AddMessageIntegrityLongTerm`. -/
def addMessageIntegrityLongTerm (D : Digests) (pszUserName pszRealm pszPassword : CString) :
    Fallible CStunMessageBuilder Unit := do
  let lenTotal := pszUserName.strlen + pszRealm.strlen + pszPassword.strlen + 2
  chkIf (lenTotal > MAX_STUN_AUTH_STRING_SIZE * 3 + 2) E_INVALIDARG
  let key := pszUserName.chars ++ 0x3a :: (pszRealm.chars ++ 0x3a :: pszPassword.chars)
  addMessageIntegrityImpl D (D.md5 key)

/-- `AddFingerprintAttribute`. -/
def addFingerprintAttribute (D : Digests) : Fallible CStunMessageBuilder Unit := do
  onStream (writeUint16 (htons STUN_ATTRIBUTE_FINGERPRINT))
  onStream (writeUint16 (htons 4))
  onStream (writeUint32 0)
  fixLengthField
  let pData := ((← get).stream.getDataPointerUnsafe).getD []
  let length := (← get).stream.getSize - 8
  let value := D.crc32 (pData.take length) ^^^ STUN_FINGERPRINT_XOR
  onStream (seekRelative (-4))
  onStream (writeUint32 (htonl value))

/-- `GetResult`. -/
def getResult : Fallible CStunMessageBuilder (Option CBuffer) := do
  fixLengthField
  return (← get).stream.getBuffer

end CStunMessageBuilder

end Stun
