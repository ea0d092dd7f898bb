import StunForAndroid.StunCore.Builder
import StunForAndroid.StunCore.Reader

/-!
# `CStunRequestHandler`

`src/stuncore/messagehandler.cpp` and `src/stuncore/stunauth.h`. `ProcessRequest` answers a message
that a reader has validated: with nothing unless it is a request, and else with a success response
to a binding request or with an error response. An authentication provider may be asked before.

The handler holds pointers to the caller's messages. Here it holds the messages, and the caller
takes the outgoing one back. A pointer that may be null is an `Option`. The builder's stream shares
the buffer of the outgoing message, which is the buffer that the stream was attached to in the end.
A socket role is one of the four, so that `IsValidSocketRole` holds.
-/

namespace Stun

open Fallible CStunMessageBuilder

/-! ## Authentication providers -/

/-- An array of `MAX_STUN_AUTH_STRING_SIZE + 1` characters. -/
structure AuthString where
  /-- The characters of the array. -/
  chars : List UInt8
  /-- All of them. -/
  length_chars : chars.length = MAX_STUN_AUTH_STRING_SIZE + 1

namespace AuthString

/-- The array of zeros with `l` copied to its start. -/
def ofChars (l : List UInt8) : AuthString := ⟨fixedArray _ l, length_fixedArray _ _⟩

/-- The array with a zero for its last character. -/
def terminate (a : AuthString) : AuthString :=
  ⟨a.chars.set MAX_STUN_AUTH_STRING_SIZE 0, by rw [List.length_set, a.length_chars]⟩

/-- The string in the array. -/
def str (a : AuthString) : CString := CString.ofArray a.chars

end AuthString

/-- `AuthAttributes`: what a provider is told about the request. -/
structure AuthAttributes where
  szUser : AuthString := .ofChars []
  szRealm : AuthString := .ofChars []
  szNonce : AuthString := .ofChars []
  szLegacyPassword : AuthString := .ofChars []
  fMessageIntegrityPresent : Bool := false

/-- `AuthCredentialMechanism`. -/
inductive AuthCredentialMechanism where
  | authCredShortTerm
  | authCredLongTerm
deriving DecidableEq

/-- `AuthResponseType`. -/
inductive AuthResponseType where
  | allow
  | allowConditional
  | staleNonce
  | reject
  | unauthorized
deriving DecidableEq

/-- `AuthResponse`: what a provider answers. -/
structure AuthResponse where
  responseType : AuthResponseType := .allow
  authCredMech : AuthCredentialMechanism := .authCredShortTerm
  szPassword : AuthString := .ofChars []
  szRealm : AuthString := .ofChars []
  szNonce : AuthString := .ofChars []

/-- The answer with its strings null terminated, which `ValidateAuth` enforces. -/
def AuthResponse.terminate (authresponse : AuthResponse) : AuthResponse :=
  { authresponse with
    szNonce := authresponse.szNonce.terminate
    szRealm := authresponse.szRealm.terminate
    szPassword := authresponse.szPassword.terminate }

/-- `IStunAuth`: the error code and the response of `DoAuthCheck`. -/
abbrev IStunAuth : Type := AuthAttributes → HRESULT × AuthResponse

/-! ## Messages -/

/-- `StunMessageIn`. -/
structure StunMessageIn where
  socketrole : SocketRole
  addrLocal : CSocketAddress
  addrRemote : CSocketAddress
  pReader : Option CStunMessageReader
  fConnectionOriented : Bool

/-- `StunMessageOut`. -/
structure StunMessageOut where
  socketrole : SocketRole
  addrDest : CSocketAddress
  spBufferOut : Option CBuffer

/-- `StunMessageIntegrity`, with the strings that its arrays hold. -/
structure StunMessageIntegrity where
  fSendWithIntegrity : Bool := false
  fUseLongTerm : Bool := false
  szUser : CString := ⟨[], CString.nul_free_nil⟩
  szRealm : CString := ⟨[], CString.nul_free_nil⟩
  szPassword : CString := ⟨[], CString.nul_free_nil⟩

/-- `TransportAddress`. -/
structure TransportAddress where
  addr : CSocketAddress
  fValid : Bool

/-- `TransportAddressSet`: an address for each role. -/
abbrev TransportAddressSet : Type := SocketRole → TransportAddress

/-- `StunErrorCode`, with the strings that its arrays hold. -/
structure StunErrorCode where
  errorcode : UInt16 := 0
  msgclass : StunMessageClass := .request
  msgtype : UInt16 := 0
  attribUnknown : UInt16 := 0
  szNonce : CString := ⟨[], CString.nul_free_nil⟩
  szRealm : CString := ⟨[], CString.nul_free_nil⟩

/-- The handler. -/
structure CStunRequestHandler where
  pAuth : Option IStunAuth
  pAddrSet : Option TransportAddressSet
  msgIn : StunMessageIn
  msgOut : StunMessageOut
  integrity : StunMessageIntegrity := {}
  error : StunErrorCode := {}
  fRequestHasResponsePort : Bool := false
  transid : StunTransactionId := StunTransactionId.zero
  fLegacyMode : Bool := false

namespace CStunRequestHandler

/-! ## Access to the messages -/

/-- `*(_pMsgIn->pReader)`, which is not null. -/
def reader (h : CStunRequestHandler) : CStunMessageReader := h.msgIn.pReader.getD {}

/-- `_pAddrSet->set[role]`. -/
def address (role : SocketRole) (h : CStunRequestHandler) : TransportAddress :=
  match h.pAddrSet with
  | none => ⟨.zero, false⟩
  | some set => set role

/-- `HasAddress`. -/
def hasAddress (role : SocketRole) (h : CStunRequestHandler) : Bool :=
  h.pAddrSet.isSome && (h.address role).fValid

/-- `IsIPAddressZeroOrInvalid`. -/
def isIPAddressZeroOrInvalid (role : SocketRole) (h : CStunRequestHandler) : Bool :=
  let fValid := h.hasAddress role && (h.address role).addr.isIPAddressZero == false
  !fValid

/-- The handler with `_error.errorcode` set. -/
def withErrorCode (errorcode : UInt16) (h : CStunRequestHandler) : CStunRequestHandler :=
  { h with error.errorcode := errorcode }

/-- The handler after a builder has worked on the buffer of the outgoing message: the buffer is
emptied, a new builder is attached to it, and it is then what the builder's stream has made of it.
The error code of the last call is not looked at. -/
def runBuilder (m : Fallible CStunMessageBuilder Unit) (h : CStunRequestHandler) :
    CStunRequestHandler :=
  let spBufferOut := h.msgOut.spBufferOut.map fun b => (b.setSize 0).2
  let builder := ({} : CStunMessageBuilder).attachStream (spBufferOut.getD {})
  let builder := finalState m (builder.setLegacyMode h.fLegacyMode)
  { h with msgOut.spBufferOut := builder.stream.attachedBuffer }

/-! ## `ProcessBindingRequest` -/

/-- The socket that the response is sent from, unless the request asks for one that is not there. -/
def responseSocket (h : CStunRequestHandler) : Option SocketRole :=
  let socketOutput := h.msgIn.socketrole
  match h.reader.getChangeRequest with
  | .error _ => some socketOutput
  | .ok changerequest =>
    if changerequest.fChangeIP || changerequest.fChangePort then
      let socketOutput :=
        if changerequest.fChangeIP then socketRoleSwapIP socketOutput else socketOutput
      let socketOutput :=
        if changerequest.fChangePort then socketRoleSwapPort socketOutput else socketOutput
      if h.hasAddress socketOutput == false || h.msgIn.fConnectionOriented then none
      else some socketOutput
    else some socketOutput

/-- The address that differs from that of the request in both IP and port, when all four are
there. -/
def otherAddress (h : CStunRequestHandler) : Option CSocketAddress :=
  let fSendOtherAddress := h.hasAddress .rolePP && h.hasAddress .rolePA && h.hasAddress .roleAP &&
    h.hasAddress .roleAA
  let socketOther := socketRoleSwapIP (socketRoleSwapPort h.msgIn.socketrole)
  if fSendOtherAddress && h.isIPAddressZeroOrInvalid socketOther == false then
    some (h.address socketOther).addr
  else none

/-- The address that the response is sent from, when it is known. -/
def originAddress (socketOutput : SocketRole) (h : CStunRequestHandler) : Option CSocketAddress :=
  let addrOrigin := (h.address socketOutput).addr
  let addrOrigin :=
    if addrOrigin.isIPAddressZero && socketOutput == h.msgIn.socketrole then h.msgIn.addrLocal
    else addrOrigin
  if addrOrigin.isIPAddressZero then none else some addrOrigin

/-- Add an address that may be missing. -/
def addIfSome (add : CSocketAddress → Fallible CStunMessageBuilder Unit) :
    Option CSocketAddress → Fallible CStunMessageBuilder Unit
  | some addr => ignore (add addr)
  | none => pure ()

/-- Add the message integrity, if there has to be one. -/
def addIntegrity (D : Digests) (integrity : StunMessageIntegrity) :
    Fallible CStunMessageBuilder Unit :=
  if integrity.fSendWithIntegrity then
    if integrity.fUseLongTerm = false then
      ignore (addMessageIntegrityShortTerm D integrity.szPassword)
    else
      ignore (addMessageIntegrityLongTerm D integrity.szUser integrity.szRealm integrity.szPassword)
  else pure ()

/-- What the builder of `ProcessBindingRequest` writes. -/
def successResponse (D : Digests) (transid : StunTransactionId) (addrRemote : CSocketAddress)
    (addrOrigin addrOther : Option CSocketAddress) (integrity : StunMessageIntegrity) :
    Fallible CStunMessageBuilder Unit := do
  ignore (addHeader StunMsgTypeBinding .successResponse)
  ignore (addTransactionId transid)
  ignore (addMappedAddress addrRemote)
  addIfSome addResponseOriginAddress addrOrigin
  addIfSome addOtherAddress addrOther
  ignore (addXorMappedAddress addrRemote)
  addIntegrity D integrity
  ignore fixLengthField

/-- Set the error code of a bad request and fail. -/
def failBadRequest : Fallible CStunRequestHandler Unit := do
  modify (withErrorCode STUN_ERROR_BADREQUEST)
  throw E_FAIL

/-- Send a success response from a socket. -/
def respond (D : Digests) (socketOutput : SocketRole) (h : CStunRequestHandler) :
    CStunRequestHandler :=
  let h := { h with msgOut.socketrole := socketOutput }
  h.runBuilder (successResponse D h.transid h.msgIn.addrRemote (h.originAddress socketOutput)
    h.otherAddress h.integrity)

/-- `ProcessBindingRequest`. On its way to an error it leaves the buffer empty. -/
def processBindingRequest (D : Digests) : Fallible CStunRequestHandler Unit := do
  modify (runBuilder (pure ()))
  let h ← get
  let fRequestHasPaddingAttribute := h.reader.getPaddingAttributeSize.isOk
  if h.fRequestHasResponsePort && fRequestHasPaddingAttribute then failBadRequest
  else
    match h.responseSocket with
    | none => failBadRequest
    | some socketOutput => modify (respond D socketOutput)

/-! ## `BuildErrorResponse` -/

/-- The reason phrase of every error. -/
def pszReason : CString := ⟨[0x46, 0x41, 0x49, 0x4c, 0x45, 0x44], by decide⟩

/-- Add a string that may be empty. -/
def addIfNotEmpty (attribType : UInt16) (pstr : CString) : Fallible CStunMessageBuilder Unit :=
  if pstr.strlen = 0 then pure () else ignore (addStringAttribute attribType pstr)

/-- Add what some errors are sent with. -/
def addErrorDetails (error : StunErrorCode) : Fallible CStunMessageBuilder Unit :=
  if error.errorcode = STUN_ERROR_UNKNOWNATTRIB ∧ error.attribUnknown ≠ 0 then
    ignore (addUnknownAttributes [error.attribUnknown])
  else if error.errorcode = STUN_ERROR_STALENONCE ∨
    error.errorcode = STUN_ERROR_UNAUTHORIZED then do
    addIfNotEmpty STUN_ATTRIBUTE_NONCE error.szNonce
    addIfNotEmpty STUN_ATTRIBUTE_REALM error.szRealm
  else pure ()

/-- What the builder of `BuildErrorResponse` writes. -/
def errorResponse (error : StunErrorCode) (transid : StunTransactionId) :
    Fallible CStunMessageBuilder Unit := do
  ignore (addHeader error.msgtype error.msgclass)
  ignore (addTransactionId transid)
  ignore (addErrorCode error.errorcode pszReason)
  addErrorDetails error
  ignore fixLengthField
  ignore getResult

/-- `BuildErrorResponse`. -/
def buildErrorResponse (h : CStunRequestHandler) : CStunRequestHandler :=
  h.runBuilder (errorResponse h.error h.transid)

/-! ## `ValidateAuth` -/

/-- A string attribute of the request, in an array of zeros. -/
def stringAttribute (attributeType : UInt16) (reader : CStunMessageReader) : AuthString :=
  match reader.getStringAttributeByType attributeType (MAX_STUN_AUTH_STRING_SIZE + 1) with
  | .ok value => .ofChars value
  | .error _ => .ofChars []

/-- What the provider is told. -/
def authAttributes (reader : CStunMessageReader) : AuthAttributes where
  szUser := stringAttribute STUN_ATTRIBUTE_USERNAME reader
  szRealm := stringAttribute STUN_ATTRIBUTE_REALM reader
  szNonce := stringAttribute STUN_ATTRIBUTE_NONCE reader
  szLegacyPassword := stringAttribute STUN_ATTRIBUTE_LEGACY_PASSWORD reader
  fMessageIntegrityPresent := reader.hasMessageIntegrityAttribute

/-- The branch of `ValidateAuth` for `AllowConditional`. -/
def allowConditional (D : Digests) (authattributes : AuthAttributes) (authresponse : AuthResponse)
    (h : CStunRequestHandler) : CStunRequestHandler :=
  let szUser := authattributes.szUser.str
  let szRealm := authattributes.szRealm.str
  let szPassword := authresponse.szPassword.str
  let hrRet :=
    if authresponse.authCredMech = .authCredLongTerm then
      h.reader.validateMessageIntegrityLong D szUser szRealm szPassword
    else h.reader.validateMessageIntegrityShort D szPassword
  match hrRet with
  | .ok _ =>
    { h with integrity := ⟨true, authresponse.authCredMech = .authCredLongTerm, szUser, szRealm,
      szPassword⟩ }
  | .error _ => h.withErrorCode STUN_ERROR_UNAUTHORIZED

/-- The chain of `ValidateAuth` that decides how to handle the response of the provider. -/
def decideAuth (D : Digests) (authattributes : AuthAttributes) (authresponse : AuthResponse)
    (h : CStunRequestHandler) : CStunRequestHandler :=
  match authresponse.responseType with
  | .staleNonce => h.withErrorCode STUN_ERROR_STALENONCE
  | .unauthorized => h.withErrorCode STUN_ERROR_UNAUTHORIZED
  | .reject => h.withErrorCode STUN_ERROR_BADREQUEST
  | .allow => h
  | .allowConditional => h.allowConditional D authattributes authresponse

/-- The end of `ValidateAuth`: keep the strings for an error response that has them. -/
def keepStrings (authresponse : AuthResponse) (h : CStunRequestHandler) : CStunRequestHandler :=
  if h.error.errorcode = STUN_ERROR_UNAUTHORIZED ∨ h.error.errorcode = STUN_ERROR_STALENONCE then
    { h with
      error.szRealm := authresponse.szRealm.str
      error.szNonce := authresponse.szNonce.str }
  else h

/-- `ValidateAuth`. -/
def validateAuth (D : Digests) : Fallible CStunRequestHandler Unit := do
  let h ← get
  match h.pAuth with
  | none => pure ()
  | some pAuth =>
    let authattributes := authAttributes h.reader
    let (hr, authresponse) := pAuth authattributes
    chkIf (failed hr) hr
    let authresponse := authresponse.terminate
    modify (decideAuth D authattributes authresponse)
    modify (keepStrings authresponse)

/-! ## `ProcessRequest` -/

/-- A step of `ProcessRequestImpl`, which is skipped after an error. When it fails without having
set an error code, the error is a bad request. -/
def stepUnlessError (m : Fallible CStunRequestHandler Unit) (h : CStunRequestHandler) :
    CStunRequestHandler :=
  if h.error.errorcode = 0 then
    match m h with
    | .ok _ h => h
    | .error _ h =>
      if h.error.errorcode = 0 then h.withErrorCode STUN_ERROR_BADREQUEST else h
  else h

/-- Honor the response port. A connection cannot. -/
def honorResponsePort (h : CStunRequestHandler) : CStunRequestHandler :=
  let responseport := match h.reader.getResponsePort with
    | .ok responseport => responseport
    | .error _ => 0
  if responseport ≠ 0 then
    let h := { h with fRequestHasResponsePort := true }
    if h.msgIn.fConnectionOriented then h.withErrorCode STUN_ERROR_BADREQUEST
    else { h with msgOut.addrDest := h.msgOut.addrDest.setPort responseport }
  else h

/-- Refuse requests that are not binding requests. -/
def requireBinding (h : CStunRequestHandler) : CStunRequestHandler :=
  if h.error.errorcode = 0 then
    if h.reader.msgTypeNormalized ≠ StunMsgTypeBinding then h.withErrorCode STUN_ERROR_BADREQUEST
    else h
  else h

/-- Remember what every response needs, and what an error response would say. -/
def rememberRequest (h : CStunRequestHandler) : CStunRequestHandler :=
  { h with
    error.msgtype := h.reader.msgTypeNormalized
    error.msgclass := .failureResponse
    transid := h.reader.transactionid
    fLegacyMode := h.reader.fMessageIsLegacyFormat }

/-- The end of `ProcessRequestImpl`. -/
def reportError (h : CStunRequestHandler) : CStunRequestHandler :=
  if h.error.errorcode ≠ 0 then h.buildErrorResponse else h

/-- `ProcessRequestImpl`. -/
def processRequestImpl (D : Digests) : Fallible CStunRequestHandler Unit := do
  chkIf ((← get).reader.msgClass ≠ .request) E_FAIL
  modify rememberRequest
  modify honorResponsePort
  modify requireBinding
  modify (stepUnlessError (validateAuth D))
  modify (stepUnlessError (processBindingRequest D))
  modify reportError

/-- `ProcessRequestImpl` of a handler, whose outgoing message the caller then has. -/
def runHandler (D : Digests) (handler : CStunRequestHandler) :
    Fallible StunMessageOut Unit := fun _ =>
  match processRequestImpl D handler with
  | .ok _ h => .ok () h.msgOut
  | .error hr h => .error hr h.msgOut

/-- `ProcessRequest`. -/
def processRequest (D : Digests) (msgIn : StunMessageIn) (pAddressSet : Option TransportAddressSet)
    (pAuth : Option IStunAuth) : Fallible StunMessageOut Unit := do
  chkIf msgIn.pReader.isNone E_INVALIDARG
  let msgOut ← get
  chkIf msgOut.spBufferOut.isNone E_INVALIDARG
  let spBufferOut := msgOut.spBufferOut.getD {}
  chkIf (spBufferOut.getAllocatedSize < MAX_STUN_MESSAGE_SIZE) E_INVALIDARG
  chkIf pAddressSet.isNone E_INVALIDARG
  chkIf ((msgIn.pReader.getD {}).state ≠ .bodyValidated) E_UNEXPECTED
  runHandler D
    { pAuth := pAuth
      pAddrSet := pAddressSet
      msgIn := msgIn
      msgOut := ⟨msgIn.socketrole, msgIn.addrRemote, some (spBufferOut.setSize 0).2⟩ }

end CStunRequestHandler

end Stun
