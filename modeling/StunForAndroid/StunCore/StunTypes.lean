import StunForAndroid.Common.CTypes

/-!
# The constants and types of `src/stuncore/stuntypes.h` and `src/stuncore/socketrole.h`
-/

namespace Stun

/-! ## Attribute types -/

/-- `STUN_ATTRIBUTE_MAPPEDADDRESS`. -/
def STUN_ATTRIBUTE_MAPPEDADDRESS : UInt16 := 0x0001

/-- `STUN_ATTRIBUTE_CHANGEREQUEST`. -/
def STUN_ATTRIBUTE_CHANGEREQUEST : UInt16 := 0x0003

/-- `STUN_ATTRIBUTE_SOURCEADDRESS`. -/
def STUN_ATTRIBUTE_SOURCEADDRESS : UInt16 := 0x0004

/-- `STUN_ATTRIBUTE_CHANGEDADDRESS`: the "other address" of RFC 3489. -/
def STUN_ATTRIBUTE_CHANGEDADDRESS : UInt16 := 0x0005

/-- `STUN_ATTRIBUTE_USERNAME`. -/
def STUN_ATTRIBUTE_USERNAME : UInt16 := 0x0006

/-- `STUN_ATTRIBUTE_LEGACY_PASSWORD`. -/
def STUN_ATTRIBUTE_LEGACY_PASSWORD : UInt16 := 0x0007

/-- `STUN_ATTRIBUTE_MESSAGEINTEGRITY`. -/
def STUN_ATTRIBUTE_MESSAGEINTEGRITY : UInt16 := 0x0008

/-- `STUN_ATTRIBUTE_ERRORCODE`. -/
def STUN_ATTRIBUTE_ERRORCODE : UInt16 := 0x0009

/-- `STUN_ATTRIBUTE_UNKNOWNATTRIBUTES`. -/
def STUN_ATTRIBUTE_UNKNOWNATTRIBUTES : UInt16 := 0x000A

/-- `STUN_ATTRIBUTE_REALM`. -/
def STUN_ATTRIBUTE_REALM : UInt16 := 0x0014

/-- `STUN_ATTRIBUTE_NONCE`. -/
def STUN_ATTRIBUTE_NONCE : UInt16 := 0x0015

/-- `STUN_ATTRIBUTE_XORMAPPEDADDRESS`. -/
def STUN_ATTRIBUTE_XORMAPPEDADDRESS : UInt16 := 0x0020

/-- `STUN_ATTRIBUTE_PADDING`. -/
def STUN_ATTRIBUTE_PADDING : UInt16 := 0x0026

/-- `STUN_ATTRIBUTE_RESPONSE_PORT`. -/
def STUN_ATTRIBUTE_RESPONSE_PORT : UInt16 := 0x0027

/-- `STUN_ATTRIBUTE_XORMAPPEDADDRESS_OPTIONAL`: what legacy clients are sent. -/
def STUN_ATTRIBUTE_XORMAPPEDADDRESS_OPTIONAL : UInt16 := 0x8020

/-- `STUN_ATTRIBUTE_FINGERPRINT`. -/
def STUN_ATTRIBUTE_FINGERPRINT : UInt16 := 0x8028

/-- `STUN_ATTRIBUTE_RESPONSE_ORIGIN`. -/
def STUN_ATTRIBUTE_RESPONSE_ORIGIN : UInt16 := 0x802b

/-- `STUN_ATTRIBUTE_OTHER_ADDRESS`. -/
def STUN_ATTRIBUTE_OTHER_ADDRESS : UInt16 := 0x802c

/-! ## Sizes and codes -/

/-- `STUN_TRANSACTION_ID_LENGTH`. -/
def STUN_TRANSACTION_ID_LENGTH : ℕ := 16

/-- `STUN_ATTRIBUTE_FIELD_IPV4`. -/
def STUN_ATTRIBUTE_FIELD_IPV4 : UInt8 := 1

/-- `STUN_ATTRIBUTE_FIELD_IPV6`. -/
def STUN_ATTRIBUTE_FIELD_IPV6 : UInt8 := 2

/-- `STUN_ATTRIBUTE_MAPPEDADDRESS_SIZE_IPV4`. -/
def STUN_ATTRIBUTE_MAPPEDADDRESS_SIZE_IPV4 : UInt16 := 8

/-- `STUN_ATTRIBUTE_MAPPEDADDRESS_SIZE_IPV6`. -/
def STUN_ATTRIBUTE_MAPPEDADDRESS_SIZE_IPV6 : UInt16 := 20

/-- `STUN_ATTRIBUTE_RESPONSE_PORT_SIZE`. -/
def STUN_ATTRIBUTE_RESPONSE_PORT_SIZE : UInt16 := 2

/-- `STUN_ATTRIBUTE_CHANGEREQUEST_SIZE`. -/
def STUN_ATTRIBUTE_CHANGEREQUEST_SIZE : UInt16 := 4

/-- `STUN_ERROR_BADREQUEST`. -/
def STUN_ERROR_BADREQUEST : UInt16 := 400

/-- `STUN_ERROR_UNAUTHORIZED`. -/
def STUN_ERROR_UNAUTHORIZED : UInt16 := 401

/-- `STUN_ERROR_UNKNOWNATTRIB`. -/
def STUN_ERROR_UNKNOWNATTRIB : UInt16 := 420

/-- `STUN_ERROR_STALENONCE`. -/
def STUN_ERROR_STALENONCE : UInt16 := 438

/-- `STUN_COOKIE`. -/
def STUN_COOKIE : UInt32 := 0x2112A442

/-- `STUN_FINGERPRINT_XOR`. -/
def STUN_FINGERPRINT_XOR : UInt32 := 0x5354554e

/-- `STUN_HEADER_SIZE`. -/
def STUN_HEADER_SIZE : ℕ := 20

/-- `MAX_STUN_MESSAGE_SIZE`. -/
def MAX_STUN_MESSAGE_SIZE : ℕ := 800

/-- `MAX_STUN_ATTRIBUTE_SIZE`. -/
def MAX_STUN_ATTRIBUTE_SIZE : ℕ := 780

/-- `MAX_STUN_AUTH_STRING_SIZE` of `src/stuncore/stunauth.h`. -/
def MAX_STUN_AUTH_STRING_SIZE : ℕ := 64

/-! ## Messages -/

/-- `StunMessageClass`. -/
inductive StunMessageClass where
  | request
  | indication
  | successResponse
  | failureResponse
  | invalidMessageClass
deriving DecidableEq

/-- The value of a message class. -/
def StunMessageClass.value : StunMessageClass → UInt16
  | .request => 0x00
  | .indication => 0x01
  | .successResponse => 0x02
  | .failureResponse => 0x03
  | .invalidMessageClass => 0xff

/-- `StunMsgTypeBinding`. -/
def StunMsgTypeBinding : UInt16 := 0x0001

/-- `STUN_IS_REQUEST`. -/
def STUN_IS_REQUEST (msg_type : UInt16) : Bool := msg_type &&& 0x0110 == 0x0000

/-- `STUN_IS_INDICATION`. -/
def STUN_IS_INDICATION (msg_type : UInt16) : Bool := msg_type &&& 0x0110 == 0x0010

/-- `STUN_IS_SUCCESS_RESP`. -/
def STUN_IS_SUCCESS_RESP (msg_type : UInt16) : Bool := msg_type &&& 0x0110 == 0x0100

/-- `STUN_IS_ERR_RESP`. -/
def STUN_IS_ERR_RESP (msg_type : UInt16) : Bool := msg_type &&& 0x0110 == 0x0110

/-- `StunAttribute`: the type and size of an attribute, and the position of its value. -/
structure StunAttribute where
  attributeType : UInt16
  size : UInt16
  offset : UInt16
deriving DecidableEq

/-- `StunChangeRequestAttribute`. -/
structure StunChangeRequestAttribute where
  fChangeIP : Bool := false
  fChangePort : Bool := false
deriving DecidableEq

/-- `StunTransactionId`, whose first four octets are usually the cookie. -/
structure StunTransactionId where
  /-- The octets. -/
  id : List UInt8
  /-- There are 16. -/
  length_id : id.length = STUN_TRANSACTION_ID_LENGTH
deriving DecidableEq

/-- The transaction id that `memcpy` fills from octets. -/
def StunTransactionId.ofOctets (bs : List UInt8) : StunTransactionId :=
  ⟨fixedArray STUN_TRANSACTION_ID_LENGTH bs, length_fixedArray _ _⟩

/-- The octets of a transaction id give it back. -/
@[simp]
theorem StunTransactionId.ofOctets_id (t : StunTransactionId) : ofOctets t.id = t := by
  obtain ⟨id, h⟩ := t
  simp only [ofOctets, mk.injEq]
  exact fixedArray_of_length h

/-- The transaction id of zeros. -/
def StunTransactionId.zero : StunTransactionId := ofOctets []

/-! ## Socket roles -/

/-- `SocketRole`: primary or alternate address, primary or alternate port. -/
inductive SocketRole where
  | rolePP
  | rolePA
  | roleAP
  | roleAA
deriving DecidableEq

/-- `SocketRoleSwapPort`, the exclusive or with 1. -/
def socketRoleSwapPort : SocketRole → SocketRole
  | .rolePP => .rolePA
  | .rolePA => .rolePP
  | .roleAP => .roleAA
  | .roleAA => .roleAP

/-- `SocketRoleSwapIP`, the exclusive or with 2. -/
def socketRoleSwapIP : SocketRole → SocketRole
  | .rolePP => .roleAP
  | .rolePA => .roleAA
  | .roleAP => .rolePP
  | .roleAA => .rolePA

/-- The role of the address that a request to the address of a role asks the answer to be sent
from. -/
def answeringRole (change : StunChangeRequestAttribute) (r : SocketRole) : SocketRole :=
  let r := if change.fChangeIP then socketRoleSwapIP r else r
  if change.fChangePort then socketRoleSwapPort r else r

end Stun
