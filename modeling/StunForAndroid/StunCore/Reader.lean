import StunForAndroid.Common.Digests
import StunForAndroid.Common.FastHash
import StunForAndroid.StunCore.Grammar
import StunForAndroid.StunCore.SocketAddress

/-!
# `CStunMessageReader`

`src/stuncore/stunreader.cpp`. A reader is fed the octets of a message in pieces (`addBytes`),
parses the header and then the body when they are complete, and gives access to the attributes by
type and by index. A getter that fails leaves the caller's variable as it was, unless stated
otherwise, so its result is the error or the value.
-/

namespace Stun

open Octets Fallible CDataStream

/-- `ReaderParseState`. -/
inductive ReaderParseState where
  | headerNotRead
  | headerValidated
  | bodyValidated
  | parseError
deriving DecidableEq

/-- `AttributeHashTable`. -/
abbrev AttributeHashTable : Type := FastHash UInt16 StunAttribute MAX_NUM_ATTRIBUTES 53

instance : NeZero MAX_NUM_ATTRIBUTES := ⟨by decide⟩

/-- The table has 53 columns. -/
instance neZero_tableWidth : NeZero 53 := ⟨by decide⟩

/-- The reader. -/
structure CStunMessageReader where
  stream : CDataStream := {}
  fAllowLegacyFormat : Bool := true
  fMessageIsLegacyFormat : Bool := false
  state : ReaderParseState := .headerNotRead
  mapAttributes : AttributeHashTable := FastHash.new
  indexFingerprint : ℤ := -1
  indexMessageIntegrity : ℤ := -1
  countAttributes : ℤ := 0
  transactionid : StunTransactionId := StunTransactionId.zero
  msgTypeNormalized : UInt16 := 0xffff
  msgClass : StunMessageClass := .invalidMessageClass
  msgLength : UInt16 := 0

namespace CStunMessageReader

/-! ## Reading the message -/

/-- A step on the reader's stream. -/
def onStream {α : Type} (m : Fallible CDataStream α) : Fallible CStunMessageReader α :=
  zoom stream (fun s r => { r with stream := s }) m

/-- `Reset`. -/
def reset (r : CStunMessageReader) : CStunMessageReader :=
  { mapAttributes := r.mapAttributes.reset, stream := r.stream.reset }

/-- `SetAllowLegacyFormat`. -/
def setAllowLegacyFormat (fAllowLegacyFormat : Bool) (r : CStunMessageReader) :
    CStunMessageReader :=
  { r with fAllowLegacyFormat := fAllowLegacyFormat }

/-- `GetStream().Attach(buf, true)`, which a caller does after `Reset` to read into its buffer. -/
def attachStream (buf : CBuffer) (r : CStunMessageReader) : CStunMessageReader :=
  { r with stream := r.stream.attach buf true }

/-- The cookie field of a transaction id. -/
def cookieField (transid : StunTransactionId) : UInt32 :=
  ntohl (UInt32.ofNat (ofLE (transid.id.take 4)))

/-- The message type of a type field, without the class. -/
def normalizedType (msgType : UInt16) : UInt16 :=
  (msgType &&& (0x000f : UInt16)) ||| ((msgType &&& (0x00e0 : UInt16)) >>> 1) |||
    ((msgType &&& (0x3E00 : UInt16)) >>> 2)

/-- `ReadHeader`, after the fields are read: check and store them. -/
def checkHeader (msgType msgLength : UInt16) (transID : StunTransactionId) :
    Fallible CStunMessageReader Unit := fun r =>
  let r := { r with fMessageIsLegacyFormat := !(cookieField transID == STUN_COOKIE) }
  let fHeaderValid := 0 == (msgType &&& 0xc000) && msgLength % 4 == 0
  -- The cookie field must be the cookie unless the legacy format is allowed.
  let fHeaderValid := fHeaderValid && (r.fAllowLegacyFormat || !r.fMessageIsLegacyFormat)
  if fHeaderValid = false then .error E_FAIL r
  else
    let r := { r with
      msgTypeNormalized := normalizedType msgType
      msgLength := msgLength
      transactionid := transID }
    if msgLength.toNat > MAX_STUN_MESSAGE_SIZE then .error E_UNEXPECTED r
    else if STUN_IS_REQUEST msgType then .ok () { r with msgClass := .request }
    else if STUN_IS_INDICATION msgType then .ok () { r with msgClass := .indication }
    else if STUN_IS_SUCCESS_RESP msgType then .ok () { r with msgClass := .successResponse }
    else if STUN_IS_ERR_RESP msgType then .ok () { r with msgClass := .failureResponse }
    else .error E_FAIL { r with msgClass := .invalidMessageClass }

/-- `ReadHeader`. -/
def readHeader : Fallible CStunMessageReader Unit := do
  onStream (seekDirect 0)
  let msgType ← onStream readUint16
  let msgLength ← onStream readUint16
  let id ← onStream (read STUN_TRANSACTION_ID_LENGTH)
  checkHeader (ntohs msgType) (ntohs msgLength) (StunTransactionId.ofOctets id)

/-- The insertion of an attribute into the table, which gates too many attributes, and the indices
that are kept beside the table. -/
def insertAttribute (attrib : StunAttribute) : Fallible CStunMessageReader Unit := fun r =>
  let result := r.mapAttributes.insert attrib.attributeType attrib
  let r := { r with mapAttributes := result.2 }
  if result.1 < 0 then .error E_FAIL r
  else .ok () { r with
    indexFingerprint :=
      if attrib.attributeType = STUN_ATTRIBUTE_FINGERPRINT then r.countAttributes
      else r.indexFingerprint
    indexMessageIntegrity :=
      if attrib.attributeType = STUN_ATTRIBUTE_MESSAGEINTEGRITY then r.countAttributes
      else r.indexMessageIntegrity
    countAttributes := r.countAttributes + 1 }

/-- The body of the loop of `ReadBody`, after the type and length of the attribute are read: check
and store them, and skip the value. The result is the octets that the attribute consumes. Each block
of the loop runs only while `hr` is a success. -/
def storeAttribute (attributeType attributeLength : UInt16) : Fallible CStunMessageReader ℕ := do
  let attributeOffset := UInt16.ofNat (← get).stream.getPos
  let paddingLength := padLength 4 attributeLength.toNat
  chkIf (attributeLength.toNat > MAX_STUN_ATTRIBUTE_SIZE) E_FAIL
  insertAttribute ⟨attributeType, attributeLength, attributeOffset⟩
  onStream (seekRelative attributeLength.toNat)
  if paddingLength > 0 then onStream (seekRelative paddingLength)
  return 2 + 2 + attributeLength.toNat + paddingLength

/-- The body of the loop of `ReadBody`. -/
def readAttribute : Fallible CStunMessageReader ℕ := do
  let attributeType ← onStream readUint16
  let attributeLength ← onStream readUint16
  storeAttribute (ntohs attributeType) (ntohs attributeLength)

/-- The loop of `ReadBody`, with the octets consumed when it ends. An attribute consumes at least
four octets, so that as many iterations as there are octets are enough. -/
def readBodyLoop (currentSize : ℕ) : ℕ → ℕ → CStunMessageReader → ℕ × CStunMessageReader
  | 0, bytesConsumed, r => (bytesConsumed, r)
  | fuel + 1, bytesConsumed, r =>
    if bytesConsumed < currentSize then
      match readAttribute r with
      | .ok n r => readBodyLoop currentSize fuel (bytesConsumed + n) r
      | .error _ r => (bytesConsumed, r)
    else (bytesConsumed, r)

/-- `ReadBody`. -/
def readBody : Fallible CStunMessageReader Unit := fun r =>
  let currentSize := r.stream.getSize
  match onStream (seekDirect STUN_HEADER_SIZE) r with
  | .error hr r => .error hr r
  | .ok _ r =>
    let result := readBodyLoop currentSize currentSize STUN_HEADER_SIZE r
    if result.1 = currentSize then .ok () result.2 else .error E_FAIL result.2

/-- The first block of `AddBytes`: the header, once it is complete. -/
def addBytesHeader (r : CStunMessageReader) : CStunMessageReader :=
  if r.state = .headerNotRead ∧ r.stream.getSize ≥ STUN_HEADER_SIZE then
    match readHeader r with
    | .ok _ r => { r with state := if r.msgLength = 0 then .bodyValidated else .headerValidated }
    | .error _ r => { r with state := .parseError }
  else r

/-- The second block of `AddBytes`: the body, once it is complete, unless there is more. -/
def addBytesBody (r : CStunMessageReader) : CStunMessageReader :=
  let currentSize := r.stream.getSize
  if r.state = .headerValidated ∧ currentSize ≥ r.msgLength.toNat + STUN_HEADER_SIZE then
    if currentSize = r.msgLength.toNat + STUN_HEADER_SIZE then
      match readBody r with
      | .ok _ r => { r with state := .bodyValidated }
      | .error _ r => { r with state := .parseError }
    else { r with state := .parseError }
  else r

/-- The third block of `AddBytes`: octets after the body. -/
def addBytesSurplus (r : CStunMessageReader) : CStunMessageReader :=
  if r.state = .bodyValidated ∧ r.stream.getSize > r.msgLength.toNat + STUN_HEADER_SIZE then
    { r with state := .parseError }
  else r

/-- `AddBytes`, with the state that it returns. -/
def addBytes (pData : List UInt8) (r : CStunMessageReader) :
    ReaderParseState × CStunMessageReader :=
  if r.state = .parseError then (.parseError, r)
  else if pData.length = 0 then (r.state, r)
  else
    let r := finalState (onStream (seekDirect r.stream.getSize)) r
    match onStream (write pData) r with
    | .error _ r => (.parseError, r)
    | .ok _ r =>
      let r := r.addBytesHeader.addBytesBody.addBytesSurplus
      (r.state, r)

/-- `HowManyBytesNeeded`, a `uint16_t`. -/
def howManyBytesNeeded (r : CStunMessageReader) : UInt16 :=
  match r.state with
  | .headerNotRead => UInt16.ofNat STUN_HEADER_SIZE - UInt16.ofNat r.stream.getSize
  | .headerValidated =>
    r.msgLength + UInt16.ofNat STUN_HEADER_SIZE - UInt16.ofNat r.stream.getSize
  | .bodyValidated | .parseError => 0

/-- The reader after `AddBytes` for each of several pieces. -/
def addChunks (chunks : List (List UInt8)) (r : CStunMessageReader) : CStunMessageReader :=
  chunks.foldl (fun r chunk => (r.addBytes chunk).2) r

/-! ## Access to the attributes -/

/-- `n` octets from the position `offset` of the stream's buffer. -/
def dataAt (offset n : ℕ) (r : CStunMessageReader) : List UInt8 :=
  ((r.stream.getDataPointerUnsafe.getD []).drop offset).take n

/-- `HasMessageIntegrityAttribute`. -/
def hasMessageIntegrityAttribute (r : CStunMessageReader) : Bool :=
  (r.mapAttributes.lookup STUN_ATTRIBUTE_MESSAGEINTEGRITY).isSome

/-- `GetAttributeByIndex`. A negative index is converted to one beyond any table. -/
def getAttributeByIndex (index : ℤ) (r : CStunMessageReader) : Except HRESULT StunAttribute :=
  if index < 0 then .error E_FAIL
  else
    match (r.mapAttributes.lookupValueByIndex index.toNat).1 with
    | none => .error E_FAIL
    | some pFound => .ok pFound

/-- `GetAttributeByType`. -/
def getAttributeByType (attributeType : UInt16) (r : CStunMessageReader) :
    Except HRESULT StunAttribute :=
  match r.mapAttributes.lookup attributeType with
  | none => .error E_FAIL
  | some pFound => .ok pFound

/-- `GetAttributeCount`. -/
def getAttributeCount (r : CStunMessageReader) : ℤ := r.mapAttributes.getSize

/-- `GetResponsePort`. -/
def getResponsePort (r : CStunMessageReader) : Except HRESULT UInt16 :=
  match r.mapAttributes.lookup STUN_ATTRIBUTE_RESPONSE_PORT with
  | none => .error E_FAIL
  | some pAttrib =>
    if pAttrib.size ≠ STUN_ATTRIBUTE_RESPONSE_PORT_SIZE then .error E_UNEXPECTED
    else .ok (ntohs (UInt16.ofNat (ofLE (r.dataAt pAttrib.offset.toNat 2))))

/-- `GetChangeRequest`. On failure it also clears the caller's two flags. -/
def getChangeRequest (r : CStunMessageReader) : Except HRESULT StunChangeRequestAttribute :=
  match r.mapAttributes.lookup STUN_ATTRIBUTE_CHANGEREQUEST with
  | none => .error E_FAIL
  | some pAttrib =>
    if pAttrib.size ≠ STUN_ATTRIBUTE_CHANGEREQUEST_SIZE then .error E_UNEXPECTED
    else
      let value := ntohl (UInt32.ofNat (ofLE (r.dataAt pAttrib.offset.toNat 4)))
      .ok ⟨value &&& 0x0004 != 0, value &&& 0x0002 != 0⟩

/-- `GetPaddingAttributeSize`. -/
def getPaddingAttributeSize (r : CStunMessageReader) : Except HRESULT UInt16 :=
  match r.mapAttributes.lookup STUN_ATTRIBUTE_PADDING with
  | none => .error E_FAIL
  | some pAttrib => .ok pAttrib.size

/-- `GetErrorCode`, from the third and fourth octets of the value: three bits of the class, and the
number modulo 100. -/
def getErrorCode (r : CStunMessageReader) : Except HRESULT UInt16 :=
  match r.mapAttributes.lookup STUN_ATTRIBUTE_ERRORCODE with
  | none => .error E_FAIL
  | some pAttrib =>
    let ptr := r.dataAt (pAttrib.offset.toNat + 2) 2
    let cl := ptr.getD 0 0 &&& 0x07
    let num := ptr.getD 1 0
    .ok (cl.toUInt16 * 100 + num.toUInt16)

/-- `GetAddressHelper`. -/
def getAddressHelper (attribType : UInt16) (r : CStunMessageReader) :
    Except HRESULT CSocketAddress :=
  match r.mapAttributes.lookup attribType with
  | none => .error E_FAIL
  | some pAttrib => Stun.getMappedAddress (r.dataAt pAttrib.offset.toNat pAttrib.size.toNat)

/-- `GetMappedAddress`. -/
def getMappedAddress (r : CStunMessageReader) : Except HRESULT CSocketAddress :=
  r.getAddressHelper STUN_ATTRIBUTE_MAPPEDADDRESS

/-- `GetOtherAddress`, or the address that a legacy server sends for it. -/
def getOtherAddress (r : CStunMessageReader) : Except HRESULT CSocketAddress :=
  match r.getAddressHelper STUN_ATTRIBUTE_OTHER_ADDRESS with
  | .ok addr => .ok addr
  | .error _ => r.getAddressHelper STUN_ATTRIBUTE_CHANGEDADDRESS

/-- `GetXorMappedAddress`, from either attribute. -/
def getXorMappedAddress (r : CStunMessageReader) : Except HRESULT CSocketAddress :=
  let addr : Except HRESULT CSocketAddress :=
    match r.getAddressHelper STUN_ATTRIBUTE_XORMAPPEDADDRESS with
    | .ok addr => .ok addr
    | .error _ => r.getAddressHelper STUN_ATTRIBUTE_XORMAPPEDADDRESS_OPTIONAL
  addr.map (CSocketAddress.applyStunXorMap r.transactionid)

/-- `GetResponseOriginAddress`, or the address that a legacy server sends for it. -/
def getResponseOriginAddress (r : CStunMessageReader) : Except HRESULT CSocketAddress :=
  match r.getAddressHelper STUN_ATTRIBUTE_RESPONSE_ORIGIN with
  | .ok addr => .ok addr
  | .error _ => r.getAddressHelper STUN_ATTRIBUTE_SOURCEADDRESS

/-- `GetStringAttributeByType`, with what it writes to the caller's array of `size` characters: the
value and a zero character. -/
def getStringAttributeByType (attributeType : UInt16) (size : ℕ) (r : CStunMessageReader) :
    Except HRESULT (List UInt8) :=
  match r.mapAttributes.lookup attributeType with
  | none => .error E_INVALIDARG
  | some pAttrib =>
    if pAttrib.size.toNat ≥ size then .error E_INVALIDARG
    else .ok (r.dataAt pAttrib.offset.toNat pAttrib.size.toNat ++ [0])

/-! ## The fingerprint -/

/-- `IsFingerprintAttributeValid`. The checksum is that of all but the last 8 octets, wherever the
attribute is. -/
def isFingerprintAttributeValid (D : Digests) (r : CStunMessageReader) : Bool :=
  match r.mapAttributes.lookup STUN_ATTRIBUTE_FINGERPRINT with
  | none => false
  | some pAttrib =>
    if pAttrib.attributeType ≠ STUN_ATTRIBUTE_FINGERPRINT then false
    else if pAttrib.size ≠ 4 then false
    else if r.state ≠ .bodyValidated then false
    else if r.stream.getBuffer.isNone then false
    else
      let size := r.stream.getSize
      if size < STUN_HEADER_SIZE then false
      else
        let computedValue := D.crc32 (r.dataAt 0 (size - 8)) ^^^ STUN_FINGERPRINT_XOR
        let readValue := ntohl (UInt32.ofNat (ofLE (r.dataAt pAttrib.offset.toNat 4)))
        readValue == computedValue

/-! ## Message integrity -/

/-- The loop of `ValidateMessageIntegrity` that hashes the message in words of four octets. -/
def hashChunks : ℕ → HMAC_CTX → Fallible CDataStream HMAC_CTX
  | 0, ctx => pure ctx
  | nChunks + 1, ctx => do
    let chunk32 ← readUint32
    hashChunks nChunks (ctx.update (toLE 4 chunk32.toNat))

/-- The hash that `ValidateMessageIntegrity` computes over the message type, the length, less the
fingerprint's 8 octets when one follows, and the rest up to the header of the attribute, whose value
is at `offset`. -/
def hashMessage (key : List UInt8) (fFingerprintAdjustment : Bool) (offset : ℕ) :
    Fallible CDataStream HMAC_CTX := do
  let ctx : HMAC_CTX := { key := key }
  let chunk16 ← readUint16
  let ctx := ctx.update (toLE 2 chunk16.toNat)
  let chunk16 ← readUint16
  let chunk16 := if fFingerprintAdjustment then htons (ntohs chunk16 - 8) else chunk16
  let ctx := ctx.update (toLE 2 chunk16.toNat)
  let len := offset - 4 - 4
  hashChunks (len / 4) ctx

/-- `fNoOtherAttributesAfterIntegrity`. -/
def noOtherAttributesAfterIntegrity (r : CStunMessageReader) : Bool :=
  let lastAttributeIndex := r.countAttributes - 1
  r.indexMessageIntegrity == lastAttributeIndex ||
    (r.indexMessageIntegrity == lastAttributeIndex - 1 && r.indexFingerprint == lastAttributeIndex)

/-- `ValidateMessageIntegrity`: the error, or nothing. -/
def validateMessageIntegrity (D : Digests) (key : List UInt8) (r : CStunMessageReader) :
    Except HRESULT Unit :=
  if r.state ≠ .bodyValidated then .error E_FAIL
  else if r.countAttributes = 0 then .error E_FAIL
  else if r.indexMessageIntegrity = -1 then .error E_FAIL
  else if key.length = 0 then .error E_INVALIDARG
  else
    match r.mapAttributes.lookup STUN_ATTRIBUTE_MESSAGEINTEGRITY with
    | none => .error E_FAIL
    | some pAttribIntegrity =>
      if pAttribIntegrity.size ≠ 20 then .error E_FAIL
      else if r.noOtherAttributesAfterIntegrity = false then .error E_FAIL
      else
        let fFingerprintAdjustment := r.indexMessageIntegrity == r.countAttributes - 1 - 1
        let offset := pAttribIntegrity.offset.toNat
        match r.stream.getBuffer with
        | none => .error E_FAIL
        | some spBuffer =>
          match hashMessage key fFingerprintAdjustment offset
            (({} : CDataStream).attach spBuffer false) with
          | .error hr _ => .error hr
          | .ok ctx _ =>
            if ctx.final D = r.dataAt offset 20 then .ok () else .error E_FAIL

/-- `ValidateMessageIntegrityShort`. -/
def validateMessageIntegrityShort (D : Digests) (pszPassword : CString) (r : CStunMessageReader) :
    Except HRESULT Unit :=
  r.validateMessageIntegrity D pszPassword.chars

/-- The octets whose MD5 is the long-term key. -/
def longTermKey (pszUser pszRealm pszPassword : CString) : List UInt8 :=
  pszUser.chars ++ 0x3a :: (pszRealm.chars ++ 0x3a :: pszPassword.chars)

/-- `ValidateMessageIntegrityLong`. The program assembles the key in an array for three strings of
at most `MAX_STUN_AUTH_STRING_SIZE` characters. -/
def validateMessageIntegrityLong (D : Digests) (pszUser pszRealm pszPassword : CString)
    (r : CStunMessageReader) : Except HRESULT Unit :=
  if r.state ≠ .bodyValidated then .error E_FAIL
  else if r.stream.getDataPointerUnsafe = none then .error E_FAIL
  else r.validateMessageIntegrity D (D.md5 (longTermKey pszUser pszRealm pszPassword))

end CStunMessageReader

end Stun
