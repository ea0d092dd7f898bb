import StunForAndroid.StunCore.ResponseDraft

/-!
# What the handler decides

`authVerdict` is the outcome of authentication as a function of the request and of the provider's
answer, and `verdict` that of all the checks that come before the binding request is processed: an
error, or the credentials for the response. The handler goes through several steps, each of which
may set an error code that the later ones look at. `Prepared` is the invariant that ties what it has
stored so far to a verdict, with one theorem for each step, and `processRequestImpl_spec` is the
outcome of the run: one of the drafts of `ResponseDraft.lean`, in the caller's buffer.
-/

namespace Stun

open Octets Fallible CDataStream CStunMessageBuilder

namespace CStunRequestHandler

/-! ## The verdict -/

/-- The error with the strings that a provider answered with. -/
def Challenge.ofAnswer (errorcode : UInt16)
    (h : errorcode = STUN_ERROR_UNAUTHORIZED ∨ errorcode = STUN_ERROR_STALENONCE)
    (authresponse : AuthResponse) : Challenge where
  errorcode := errorcode
  szNonce := authresponse.szNonce.terminate.str
  szRealm := authresponse.szRealm.terminate.str
  errorcode_mem := .inr h
  strlen_szNonce := authresponse.szNonce.strlen_terminate_le
  strlen_szRealm := authresponse.szRealm.strlen_terminate_le

/-- The credentials that a provider answers a request with: its own password, and the user and the
realm of the request. -/
def credentials (reader : CStunMessageReader) (authresponse : AuthResponse) : Credentials :=
  match authresponse.authCredMech with
  | .authCredShortTerm => .shortTerm authresponse.szPassword.terminate.str
  | .authCredLongTerm =>
    .longTerm (stringAttribute STUN_ATTRIBUTE_USERNAME reader).str
      (stringAttribute STUN_ATTRIBUTE_REALM reader).str authresponse.szPassword.terminate.str

/-- The error that a provider's answer calls for, if it does not let the request pass. -/
def refusal (D : Digests) (reader : CStunMessageReader) (answer : HRESULT × AuthResponse) :
    Option Challenge :=
  if failed answer.1 then some .badRequest
  else
    match answer.2.responseType with
    | .allow => none
    | .allowConditional =>
      match (credentials reader answer.2).validate D reader with
      | .ok _ => none
      | .error _ => some (.ofAnswer STUN_ERROR_UNAUTHORIZED (.inl rfl) answer.2)
    | .staleNonce => some (.ofAnswer STUN_ERROR_STALENONCE (.inr rfl) answer.2)
    | .reject => some .badRequest
    | .unauthorized => some (.ofAnswer STUN_ERROR_UNAUTHORIZED (.inl rfl) answer.2)

/-- The outcome of authentication: an error, or the credentials for the response. -/
def authVerdict (D : Digests) (pAuth : Option IStunAuth) (reader : CStunMessageReader) :
    Except Challenge (Option Credentials) :=
  match pAuth with
  | none => .ok none
  | some pAuth =>
    let answer := pAuth (authAttributes reader)
    match refusal D reader answer with
    | some c => .error c
    | none =>
      .ok (if answer.2.responseType = .allowConditional then some (credentials reader answer.2)
        else none)

/-- A provider lets a request pass exactly if it answers `Allow`, or `AllowConditional` and the
request's message integrity validates. -/
theorem refusal_eq_none_iff (D : Digests) (reader : CStunMessageReader)
    (answer : HRESULT × AuthResponse) :
    refusal D reader answer = none ↔ succeeded answer.1 ∧ (answer.2.responseType = .allow ∨
      answer.2.responseType = .allowConditional ∧
        (credentials reader answer.2).validate D reader = .ok ()) := by
  unfold refusal succeeded failed
  split_ifs with hfailed
  · simp [not_le.mpr hfailed]
  · have hsucceeded := not_lt.mp hfailed
    cases answer.2.responseType with
    | allowConditional =>
      cases (credentials reader answer.2).validate D reader with
      | ok u => simp [hsucceeded]
      | error hr => simp
    | _ => simp [hsucceeded]

/-- Authentication refuses a request exactly when there is a provider and its answer is refused. -/
theorem authVerdict_eq_error_iff {D : Digests} {pAuth : Option IStunAuth}
    {reader : CStunMessageReader} {c : Challenge} :
    authVerdict D pAuth reader = .error c ↔
      ∃ provider, pAuth = some provider ∧
        refusal D reader (provider (authAttributes reader)) = some c := by
  cases pAuth with
  | none => simp [authVerdict]
  | some provider =>
    cases hrefusal : refusal D reader (provider (authAttributes reader)) <;>
      simp [authVerdict, hrefusal]

/-- What is not refused is let pass by the provider, with the credentials that it asks for. -/
theorem authVerdict_eq_ok {D : Digests} {provider : IStunAuth} {reader : CStunMessageReader}
    {creds : Option Credentials} (h : authVerdict D (some provider) reader = .ok creds) :
    succeeded (provider (authAttributes reader)).1 ∧
      ((provider (authAttributes reader)).2.responseType = .allow ∨
        (provider (authAttributes reader)).2.responseType = .allowConditional ∧
          (credentials reader (provider (authAttributes reader)).2).validate D reader = .ok () ∧
          creds = some (credentials reader (provider (authAttributes reader)).2)) := by
  simp only [authVerdict] at h
  cases hrefusal : refusal D reader (provider (authAttributes reader)) with
  | some c => simp [hrefusal] at h
  | none =>
    obtain ⟨hsucceeded, hallow⟩ := (refusal_eq_none_iff D reader _).mp hrefusal
    refine ⟨hsucceeded, hallow.imp id ?_⟩
    rintro ⟨hconditional, hvalid⟩
    simp only [hrefusal, hconditional, if_true, Except.ok.injEq] at h
    exact ⟨hconditional, hvalid, h.symm⟩

/-- The request asks for a response port, which a connection cannot honor. -/
def responsePortOnConnection (msgIn : StunMessageIn) (reader : CStunMessageReader) : Bool :=
  msgIn.fConnectionOriented &&
    match reader.getResponsePort with
    | .ok responseport => responseport != 0
    | .error _ => false

/-- The outcome of the checks before `ProcessBindingRequest`. -/
def verdict (D : Digests) (pAuth : Option IStunAuth) (msgIn : StunMessageIn)
    (reader : CStunMessageReader) : Except Challenge (Option Credentials) :=
  if responsePortOnConnection msgIn reader ∨ reader.msgTypeNormalized ≠ StunMsgTypeBinding then
    .error .badRequest
  else authVerdict D pAuth reader

/-! ## The outcome -/

/-- The request asks for a response port. -/
def asksResponsePort (reader : CStunMessageReader) : Bool :=
  match reader.getResponsePort with
  | .ok responseport => responseport != 0
  | .error _ => false

/-- The destination of the response: the port that the request asks for, when there is no
connection. -/
def destination (h : CStunRequestHandler) : CSocketAddress :=
  match h.reader.getResponsePort with
  | .ok responseport =>
    if responseport ≠ 0 ∧ h.msgIn.fConnectionOriented = false then
      h.msgIn.addrRemote.setPort responseport
    else h.msgIn.addrRemote
  | .error _ => h.msgIn.addrRemote

/-- The socket of a success response, unless the binding request is a bad one. -/
def acceptedSocket (h : CStunRequestHandler) : Option SocketRole :=
  if asksResponsePort h.reader && h.reader.getPaddingAttributeSize.isOk then none
  else h.responseSocket

/-- What a request is answered with: an error, or a success response from a socket. -/
inductive Outcome where
  | refused (c : Challenge)
  | accepted (socketOutput : SocketRole) (creds : Option Credentials)

/-- The outcome for a handler that has just been built. -/
def outcome (D : Digests) (h : CStunRequestHandler) : Outcome :=
  match verdict D h.pAuth h.msgIn h.reader with
  | .error c => .refused c
  | .ok creds =>
    match h.acceptedSocket with
    | none => .refused .badRequest
    | some socketOutput => .accepted socketOutput creds

namespace Outcome

/-- The draft of the response to an outcome. -/
def draft (D : Digests) (h : CStunRequestHandler) : Outcome → Draft
  | refused c =>
    errorDraft h.reader.msgTypeNormalized h.reader.transactionid h.reader.fMessageIsLegacyFormat c
  | accepted socketOutput creds =>
    successDraft D h.reader.transactionid h.reader.fMessageIsLegacyFormat h.msgIn.addrRemote
      (h.originAddress socketOutput) h.otherAddress creds

/-- The socket that the response of an outcome is sent from. -/
def role (h : CStunRequestHandler) : Outcome → SocketRole
  | refused _ => h.msgIn.socketrole
  | accepted socketOutput _ => socketOutput

/-- Credentials that there are can sign. -/
def Usable : Outcome → Prop
  | refused _ => True
  | accepted _ creds => ∀ c ∈ creds, c.Usable

end Outcome

/-! ## What the checks leave alone -/

/-- A step that changes only what the handler has decided on. -/
def Judges (h h' : CStunRequestHandler) : Prop :=
  h' = { h with error := h'.error, integrity := h'.integrity }

section Judges

variable {D : Digests} {h h' h'' : CStunRequestHandler}

/-- No step changes only what the handler has decided on. -/
theorem Judges.refl (h : CStunRequestHandler) : Judges h h := rfl

/-- Two steps that change only what the handler has decided on do so together. -/
theorem Judges.trans (h₁ : Judges h h') (h₂ : Judges h' h'') : Judges h h'' := by
  unfold Judges at *
  rw [h₂, h₁]

/-- Setting an error code changes only what the handler has decided on. -/
theorem judges_withErrorCode (errorcode : UInt16) : Judges h (h.withErrorCode errorcode) := rfl

/-- A step that is skipped after an error changes only what the handler has decided on if it does so
itself. -/
theorem judges_stepUnlessError {m : Fallible CStunRequestHandler Unit}
    (hm : Judges h (finalState m h)) : Judges h (stepUnlessError m h) := by
  unfold finalState at hm
  unfold stepUnlessError
  split_ifs with hzero
  · cases hrun : m h with
    | ok _ h₁ =>
      rw [hrun] at hm
      exact hm
    | error _ h₁ =>
      rw [hrun] at hm
      dsimp only at hm ⊢
      split_ifs
      · exact hm.trans (judges_withErrorCode _)
      · exact hm
  · exact .refl h

/-- The decision on what a provider has answered. -/
theorem judges_decideAuth (authattributes : AuthAttributes) (authresponse : AuthResponse) :
    Judges h (h.decideAuth D authattributes authresponse) := by
  unfold decideAuth
  cases authresponse.responseType with
  | allow => exact .refl h
  | allowConditional =>
    unfold allowConditional
    dsimp only
    split
    · rfl
    · exact judges_withErrorCode _
  | staleNonce => exact judges_withErrorCode _
  | reject => exact judges_withErrorCode _
  | unauthorized => exact judges_withErrorCode _

/-- Keeping the strings for an error response changes only what the handler has decided on. -/
theorem judges_keepStrings (authresponse : AuthResponse) :
    Judges h (keepStrings authresponse h) := by
  unfold keepStrings
  split_ifs
  · rfl
  · exact .refl h

/-- Authentication changes only what the handler has decided on. -/
theorem judges_validateAuth : Judges h (finalState (validateAuth D) h) := by
  unfold finalState validateAuth
  rw [bind_get]
  cases h.pAuth with
  | none => exact .refl h
  | some provider =>
    dsimp only
    cases hfailed : decide (failed (provider (authAttributes h.reader)).1) with
    | true => exact .refl h
    | false =>
      rw [bind_of_ok (chkIf_false _ _)]
      exact (judges_decideAuth _ _).trans (judges_keepStrings _)

/-- Refusing what is not a binding request. -/
theorem judges_requireBinding : Judges h h.requireBinding := by
  unfold requireBinding
  split_ifs
  · exact judges_withErrorCode _
  · exact .refl h
  · exact .refl h

end Judges

/-! ## The invariant of the run -/

/-- What `_error` is for a verdict. -/
def errorOf (msgtype : UInt16) : Except Challenge (Option Credentials) → StunErrorCode
  | .ok _ => { msgclass := .failureResponse, msgtype := msgtype }
  | .error c => ⟨c.errorcode, .failureResponse, msgtype, 0, c.szNonce, c.szRealm⟩

/-- The handler works on a request, and has come to a verdict. -/
structure Prepared (msgIn : StunMessageIn) (reader : CStunMessageReader) (pAuth : Option IStunAuth)
    (v : Except Challenge (Option Credentials)) (h : CStunRequestHandler) : Prop where
  msgIn_eq : h.msgIn = msgIn
  reader_eq : h.reader = reader
  pAuth_eq : h.pAuth = pAuth
  transid_eq : h.transid = reader.transactionid
  legacy_eq : h.fLegacyMode = reader.fMessageIsLegacyFormat
  error_eq : h.error = errorOf reader.msgTypeNormalized v
  /-- The response is signed with the credentials of the verdict. -/
  integrity_eq : ∀ creds, v = .ok creds → h.integrity.credentials = creds
  /-- They can sign. -/
  usable : ∀ creds, v = .ok (some creds) → creds.Usable
  /-- The buffer is there and large enough. -/
  buffer : ∃ buf, h.msgOut.spBufferOut = some buf ∧ MAX_STUN_MESSAGE_SIZE ≤ buf.getAllocatedSize

section Steps

variable {D : Digests} {msgIn : StunMessageIn} {reader : CStunMessageReader}
  {pAuth : Option IStunAuth} {v : Except Challenge (Option Credentials)} {h : CStunRequestHandler}

/-- The code of an error is not zero. -/
theorem Challenge.errorcode_ne_zero (c : Challenge) : c.errorcode ≠ 0 := by
  rcases c.errorcode_mem with ⟨h, -⟩ | h | h <;> rw [h] <;> decide

/-- The verdict is an error exactly if the error code is set. -/
theorem Prepared.errorcode_ne_zero_iff (hp : Prepared msgIn reader pAuth v h) :
    h.error.errorcode ≠ 0 ↔ ∃ c, v = .error c := by
  rw [hp.error_eq]
  cases v with
  | ok creds => simp [errorOf]
  | error c => simpa [errorOf] using c.errorcode_ne_zero

/-- A step that finds a bad request comes to this verdict. -/
theorem Prepared.badRequest {creds : Option Credentials}
    (hp : Prepared msgIn reader pAuth (.ok creds) h) :
    Prepared msgIn reader pAuth (.error .badRequest) (h.withErrorCode STUN_ERROR_BADREQUEST) where
  msgIn_eq := hp.msgIn_eq
  reader_eq := hp.reader_eq
  pAuth_eq := hp.pAuth_eq
  transid_eq := hp.transid_eq
  legacy_eq := hp.legacy_eq
  error_eq := by
    unfold withErrorCode
    rw [hp.error_eq]
    rfl
  integrity_eq := fun _ h => by cases h
  usable := fun _ h => by cases h
  buffer := hp.buffer

/-- A step that changes what only the response's address depends on keeps the verdict. -/
theorem Prepared.withAddress (hp : Prepared msgIn reader pAuth v h) (b : Bool)
    (socketrole : SocketRole) (addrDest : CSocketAddress) :
    Prepared msgIn reader pAuth v { h with
      fRequestHasResponsePort := b
      msgOut := ⟨socketrole, addrDest, h.msgOut.spBufferOut⟩ } :=
  ⟨hp.msgIn_eq, hp.reader_eq, hp.pAuth_eq, hp.transid_eq, hp.legacy_eq, hp.error_eq,
    hp.integrity_eq, hp.usable, hp.buffer⟩

/-- Another buffer that is large enough keeps the verdict. -/
theorem Prepared.withBuffer (hp : Prepared msgIn reader pAuth v h) {buf : CBuffer}
    (hbuf : MAX_STUN_MESSAGE_SIZE ≤ buf.getAllocatedSize) :
    Prepared msgIn reader pAuth v { h with msgOut.spBufferOut := some buf } :=
  ⟨hp.msgIn_eq, hp.reader_eq, hp.pAuth_eq, hp.transid_eq, hp.legacy_eq, hp.error_eq,
    hp.integrity_eq, hp.usable, buf, rfl, hbuf⟩

/-- Honoring the response port comes to the verdict of a bad request when there is one on a
connection. -/
theorem Prepared.honorResponsePort (hp : Prepared msgIn reader pAuth (.ok none) h) :
    Prepared msgIn reader pAuth
      (if responsePortOnConnection msgIn reader then .error .badRequest else .ok none)
      h.honorResponsePort := by
  unfold CStunRequestHandler.honorResponsePort responsePortOnConnection
  rw [hp.reader_eq, hp.msgIn_eq]
  have hport := hp.withAddress true h.msgOut.socketrole h.msgOut.addrDest
  generalize hresult : reader.getResponsePort = result
  cases result with
  | error hr => simpa using hp
  | ok responseport =>
    by_cases h0 : responseport = 0
    · simpa [h0] using hp
    · simp only [ne_eq, h0, not_false_eq_true, if_true]
      cases hconn : msgIn.fConnectionOriented with
      | true => simpa [h0, hp.msgIn_eq, hconn] using hport.badRequest
      | false =>
        simpa [h0, hp.msgIn_eq, hconn] using hp.withAddress true h.msgOut.socketrole
          (h.msgOut.addrDest.setPort responseport)

/-- `ValidateAuth` decides by the answer when the provider's check succeeds, and keeps its strings.
-/
theorem validateAuth_eq {provider : IStunAuth} (hauth : h.pAuth = some provider)
    {answer : HRESULT × AuthResponse} (hanswer : provider (authAttributes h.reader) = answer)
    (hsucceeded : ¬failed answer.1) :
    validateAuth D h = .ok () (keepStrings answer.2.terminate
      (h.decideAuth D (authAttributes h.reader) answer.2.terminate)) := by
  rw [validateAuth, bind_get, hauth]
  simp only [hanswer]
  rw [decide_eq_false hsucceeded, bind_of_ok (chkIf_false _ _)]
  rfl

/-- A refusal with the strings of the provider is the verdict with its code and these strings. -/
theorem Prepared.ofAnswer (hp : Prepared msgIn reader pAuth (.ok none) h) {errorcode : UInt16}
    (hcode : errorcode = STUN_ERROR_UNAUTHORIZED ∨ errorcode = STUN_ERROR_STALENONCE)
    (authresponse : AuthResponse) :
    Prepared msgIn reader pAuth (.error (.ofAnswer errorcode hcode authresponse))
      (keepStrings authresponse.terminate (h.withErrorCode errorcode)) := by
  have hkeep : keepStrings authresponse.terminate (h.withErrorCode errorcode) =
      { h with error := ⟨errorcode, h.error.msgclass, h.error.msgtype, h.error.attribUnknown,
        authresponse.terminate.szNonce.str, authresponse.terminate.szRealm.str⟩ } :=
    if_pos hcode
  rw [hkeep]
  refine ⟨hp.msgIn_eq, hp.reader_eq, hp.pAuth_eq, hp.transid_eq, hp.legacy_eq, ?_,
    (fun _ h => by cases h), (fun _ h => by cases h), hp.buffer⟩
  rw [hp.error_eq]
  rfl

/-- Strings are kept only for an error that is sent with them. -/
theorem keepStrings_of_ne (authresponse : AuthResponse)
    (h401 : h.error.errorcode ≠ STUN_ERROR_UNAUTHORIZED)
    (h438 : h.error.errorcode ≠ STUN_ERROR_STALENONCE) : keepStrings authresponse h = h :=
  if_neg (by tauto)

/-- Credentials with which a message validates can sign. -/
theorem usable_of_validate {fAllow : Bool} {bs : List UInt8} {ts : List WireAttribute}
    (hread : CStunMessageReader.Parsed fAllow bs ts reader) {authresponse : AuthResponse}
    (hvalid : (credentials reader authresponse).validate D reader = .ok ()) :
    (credentials reader authresponse).Usable := by
  have hkey := Credentials.validate_eq hread ▸ hvalid
  obtain ⟨hne, -⟩ := (hread.validateMessageIntegrity_ok_iff D _).mp hkey
  unfold credentials at hne ⊢
  cases hmech : authresponse.authCredMech with
  | authCredShortTerm =>
    rw [hmech] at hne
    exact hne
  | authCredLongTerm =>
    exact ⟨strlen_stringAttribute_le _ _, strlen_stringAttribute_le _ _,
      AuthString.strlen_terminate_le _⟩

/-- The branch of `ValidateAuth` for `AllowConditional` validates the credentials and keeps them, or
refuses as unauthorized. -/
theorem allowConditional_eq (authresponse : AuthResponse) :
    ∃ integrity : StunMessageIntegrity,
      integrity.credentials = some (credentials h.reader authresponse) ∧
      h.allowConditional D (authAttributes h.reader) authresponse.terminate =
        match (credentials h.reader authresponse).validate D h.reader with
        | .ok _ => { h with integrity := integrity }
        | .error _ => h.withErrorCode STUN_ERROR_UNAUTHORIZED := by
  refine ⟨⟨true, authresponse.authCredMech = .authCredLongTerm,
    (stringAttribute STUN_ATTRIBUTE_USERNAME h.reader).str,
    (stringAttribute STUN_ATTRIBUTE_REALM h.reader).str, authresponse.szPassword.terminate.str⟩,
    ?_, ?_⟩
  · unfold credentials
    cases authresponse.authCredMech <;> rfl
  · unfold allowConditional credentials AuthResponse.terminate
    cases authresponse.authCredMech <;> rfl

/-- Authentication comes to its verdict. -/
theorem Prepared.validateAuth (hp : Prepared msgIn reader pAuth (.ok none) h) {fAllow : Bool}
    {bs : List UInt8} {ts : List WireAttribute}
    (hread : CStunMessageReader.Parsed fAllow bs ts reader) :
    Prepared msgIn reader pAuth (authVerdict D pAuth reader)
      (stepUnlessError (validateAuth D) h) := by
  have hzero : h.error.errorcode = 0 := by
    rw [hp.error_eq]
    rfl
  unfold stepUnlessError authVerdict
  rw [if_pos hzero]
  cases pAuth with
  | none =>
    -- Without a provider everything is allowed.
    have hrun : CStunRequestHandler.validateAuth D h = .ok () h := by
      rw [CStunRequestHandler.validateAuth, bind_get, hp.pAuth_eq]
      rfl
    rw [hrun]
    exact hp
  | some provider =>
    simp only
    generalize hanswer : provider (authAttributes reader) = answer
    rw [← hp.reader_eq] at hanswer
    by_cases hfailed : failed answer.1
    · have hrun : CStunRequestHandler.validateAuth D h = .error answer.1 h := by
        rw [CStunRequestHandler.validateAuth, bind_get, hp.pAuth_eq]
        simp only [hanswer]
        rw [decide_eq_true hfailed]
        rfl
      rw [hrun, refusal, if_pos hfailed]
      simp only [if_pos hzero]
      exact hp.badRequest
    · -- The provider has answered, and its answer decides.
      rw [validateAuth_eq hp.pAuth_eq hanswer hfailed, refusal, if_neg hfailed]
      simp only
      unfold decideAuth
      have hterminate : answer.2.terminate.responseType = answer.2.responseType := rfl
      rw [hterminate]
      have hno : ∀ authresponse, keepStrings authresponse h = h := fun authresponse =>
        keepStrings_of_ne authresponse (by rw [hzero]; decide) (by rw [hzero]; decide)
      cases answer.2.responseType with
      | allow =>
        simp only [hno]
        exact hp
      | allowConditional =>
        obtain ⟨integrity, hcreds, hcond⟩ := @allowConditional_eq D h answer.2
        rw [hp.reader_eq] at hcreds hcond
        rw [hp.reader_eq, hcond]
        -- The message integrity is checked with the key of the answer.
        cases hvalid : (credentials reader answer.2).validate D reader with
        | ok u =>
          simp only [if_true]
          rw [keepStrings_of_ne (h := { h with integrity := integrity }) _ (by rw [hzero]; decide)
            (by rw [hzero]; decide)]
          refine ⟨hp.msgIn_eq, hp.reader_eq, hp.pAuth_eq, hp.transid_eq, hp.legacy_eq, hp.error_eq,
            ?_, ?_, hp.buffer⟩
          · rintro creds ⟨⟩
            exact hcreds
          · rintro creds ⟨⟩
            exact usable_of_validate hread hvalid
        | error hr =>
          simp only
          exact hp.ofAnswer (.inl rfl) answer.2
      | staleNonce => exact hp.ofAnswer (.inr rfl) answer.2
      | reject =>
        have hbad := hp.badRequest
        have hcode : (h.withErrorCode STUN_ERROR_BADREQUEST).error.errorcode =
          STUN_ERROR_BADREQUEST := rfl
        simp only
        rw [keepStrings_of_ne _ (by rw [hcode]; decide) (by rw [hcode]; decide)]
        exact hbad
      | unauthorized => exact hp.ofAnswer (.inl rfl) answer.2

/-- A builder that writes nothing leaves an empty buffer. -/
theorem Prepared.emptied (hp : Prepared msgIn reader pAuth v h) :
    Prepared msgIn reader pAuth v (h.runBuilder (pure ())) := by
  obtain ⟨buf, hbuf, hsize⟩ := hp.buffer
  have hrun : h.runBuilder (pure ()) = { h with msgOut.spBufferOut := some ⟨buf.data, 0⟩ } := by
    unfold runBuilder
    rw [hbuf]
    simp only [Option.map_some, CBuffer.setSize_snd]
    rfl
  rw [hrun]
  exact hp.withBuffer hsize

/-- `ProcessBindingRequest` on a buffer that was emptied. -/
theorem processBindingRequest_eq : CStunRequestHandler.processBindingRequest D h =
    let h₁ := h.runBuilder (pure ())
    if h₁.fRequestHasResponsePort && h₁.reader.getPaddingAttributeSize.isOk then failBadRequest h₁
    else
      match h₁.responseSocket with
      | none => failBadRequest h₁
      | some socketOutput => .ok () (h₁.respond D socketOutput) := by
  unfold CStunRequestHandler.processBindingRequest
  show (if _ then _ else _ : Fallible CStunRequestHandler Unit) (h.runBuilder (pure ())) = _
  dsimp only
  split_ifs with hpad
  · rfl
  · cases (h.runBuilder (pure ())).responseSocket <;> rfl

/-- The socket of the response to a binding request, unless the request is a bad one. -/
def bindingSocket (h : CStunRequestHandler) : Option SocketRole :=
  if h.fRequestHasResponsePort && h.reader.getPaddingAttributeSize.isOk then none
  else h.responseSocket

/-- `ProcessBindingRequest` responds on the socket of the response, or fails as a bad request
without one. -/
theorem processBindingRequest_eq_match : CStunRequestHandler.processBindingRequest D h =
    match h.bindingSocket with
    | none => failBadRequest (h.runBuilder (pure ()))
    | some socketOutput => .ok () ((h.runBuilder (pure ())).respond D socketOutput) := by
  have hsame : (h.runBuilder (pure ())).bindingSocket = h.bindingSocket := rfl
  rw [processBindingRequest_eq, ← hsame]
  unfold bindingSocket
  dsimp only
  split_ifs
  · rfl
  · rfl

/-- Without an error the error code is zero. -/
theorem Prepared.errorcode_eq {creds : Option Credentials}
    (hp : Prepared msgIn reader pAuth (.ok creds) h) : h.error.errorcode = 0 := by
  rw [hp.error_eq]
  rfl

/-- Without a socket the binding request is a bad one. -/
theorem Prepared.processBindingRequest_none {creds : Option Credentials}
    (hp : Prepared msgIn reader pAuth (.ok creds) h) (hsocket : h.bindingSocket = none) :
    stepUnlessError (processBindingRequest D) h =
        (h.runBuilder (pure ())).withErrorCode STUN_ERROR_BADREQUEST ∧
      Prepared msgIn reader pAuth (.error .badRequest)
        ((h.runBuilder (pure ())).withErrorCode STUN_ERROR_BADREQUEST) := by
  refine ⟨?_, hp.emptied.badRequest⟩
  unfold stepUnlessError
  rw [if_pos hp.errorcode_eq, processBindingRequest_eq_match, hsocket]
  rfl

/-- The builder of `ProcessBindingRequest` writes the draft of the success response. -/
theorem Prepared.successResponse_spec {creds : Option Credentials}
    (hp : Prepared msgIn reader pAuth (.ok creds) h) {cap : ℕ} (hcap : MAX_STUN_MESSAGE_SIZE ≤ cap)
    (addrOrigin addrOther : Option CSocketAddress) :
    Succeeds (Attached cap h.fLegacyMode)
      (successResponse D h.transid h.msgIn.addrRemote addrOrigin addrOther h.integrity)
      fun _ => Building cap h.fLegacyMode (successDraft D reader.transactionid
        reader.fMessageIsLegacyFormat msgIn.addrRemote addrOrigin addrOther creds) := by
  have hcreds := hp.integrity_eq creds rfl
  have hwrites := @CStunRequestHandler.successResponse_spec cap h.fLegacyMode
    ((by decide : 200 ≤ MAX_STUN_MESSAGE_SIZE).trans hcap) D h.transid h.msgIn.addrRemote
    addrOrigin addrOther h.integrity
    (by rw [hcreds]; exact fun c hc => hp.usable c (congrArg Except.ok hc))
  rw [hcreds] at hwrites
  rw [← hp.transid_eq, ← hp.legacy_eq, ← hp.msgIn_eq]
  exact hwrites

/-- The builder of `BuildErrorResponse` writes the draft of the error response. -/
theorem Prepared.errorResponse_spec {c : Challenge} (hp : Prepared msgIn reader pAuth (.error c) h)
    {cap : ℕ} (hcap : MAX_STUN_MESSAGE_SIZE ≤ cap) :
    Succeeds (Attached cap h.fLegacyMode) (errorResponse h.error h.transid)
      fun _ => Building cap h.fLegacyMode (errorDraft reader.msgTypeNormalized
        reader.transactionid reader.fMessageIsLegacyFormat c) := by
  have herror := hp.error_eq
  have hwrites := @CStunRequestHandler.errorResponse_spec cap h.fLegacyMode
    ((by decide : 200 ≤ MAX_STUN_MESSAGE_SIZE).trans hcap) h.transid c h.error
    (by rw [herror]; rfl) (by rw [herror]; rfl) (by rw [herror]; rfl) (by rw [herror]; rfl)
    (by rw [herror]; rfl)
  have htype : h.error.msgtype = reader.msgTypeNormalized := by
    rw [herror]
    rfl
  rw [← hp.transid_eq, ← hp.legacy_eq, ← htype]
  exact hwrites

/-- With a socket there is a success response in the buffer. -/
theorem Prepared.processBindingRequest_some {creds : Option Credentials}
    (hp : Prepared msgIn reader pAuth (.ok creds) h) {socketOutput : SocketRole}
    (hsocket : h.bindingSocket = some socketOutput) :
    Prepared msgIn reader pAuth (.ok creds) (stepUnlessError (processBindingRequest D) h) ∧
      ∃ buf, stepUnlessError (CStunRequestHandler.processBindingRequest D) h =
          { h with msgOut := ⟨socketOutput, h.msgOut.addrDest, some buf⟩ } ∧
        buf.contents = (successDraft D reader.transactionid reader.fMessageIsLegacyFormat
          msgIn.addrRemote (h.originAddress socketOutput) h.otherAddress creds).octets := by
  obtain ⟨buf, hbuf, hsize⟩ := hp.emptied.buffer
  obtain ⟨buf', hrespond, hcontents, hsize'⟩ :=
    runBuilder_spec (h := { h.runBuilder (pure ()) with msgOut.socketrole := socketOutput }) hbuf
      ((length_octets_successDraft_le _ _ _ _ _ _ _).trans hsize)
      (hp.successResponse_spec (D := D) hsize (h.originAddress socketOutput) h.otherAddress)
  have hstep : stepUnlessError (CStunRequestHandler.processBindingRequest D) h =
      { h with msgOut := ⟨socketOutput, h.msgOut.addrDest, some buf'⟩ } := by
    unfold stepUnlessError
    rw [if_pos hp.errorcode_eq, processBindingRequest_eq_match, hsocket]
    exact hrespond
  have hp₂ := hp.withAddress h.fRequestHasResponsePort socketOutput h.msgOut.addrDest
  rw [hstep]
  exact ⟨hp₂.withBuffer (hsize'.symm ▸ hsize), buf', rfl, hcontents⟩

/-- The response that is sent for a verdict: an error response for an error, and for a verdict that
lets the request pass a success response or the error response to a bad request. -/
inductive Answers (D : Digests) (msgIn : StunMessageIn) (reader : CStunMessageReader) :
    Except Challenge (Option Credentials) → Draft → Prop
  | refused (c : Challenge) : Answers D msgIn reader (.error c)
      (errorDraft reader.msgTypeNormalized reader.transactionid reader.fMessageIsLegacyFormat c)
  | badRequest (creds : Option Credentials) : Answers D msgIn reader (.ok creds)
      (errorDraft reader.msgTypeNormalized reader.transactionid reader.fMessageIsLegacyFormat
        .badRequest)
  | success (creds : Option Credentials) (addrOrigin addrOther : Option CSocketAddress)
      (usable : ∀ c ∈ creds, c.Usable) : Answers D msgIn reader (.ok creds)
      (successDraft D reader.transactionid reader.fMessageIsLegacyFormat msgIn.addrRemote addrOrigin
        addrOther creds)

/-- After a refusal `ReportError` leaves the error response in the buffer. -/
theorem Prepared.reportError_error {c : Challenge} (hp : Prepared msgIn reader pAuth (.error c) h) :
    ∃ buf, h.reportError = { h with msgOut.spBufferOut := some buf } ∧
      MAX_STUN_MESSAGE_SIZE ≤ buf.getAllocatedSize ∧ buf.contents =
        (errorDraft reader.msgTypeNormalized reader.transactionid reader.fMessageIsLegacyFormat
          c).octets := by
  have hne := hp.errorcode_ne_zero_iff.mpr ⟨c, rfl⟩
  obtain ⟨buf, hbuf, hsize⟩ := hp.buffer
  obtain ⟨buf', hrun, hcontents, hsize'⟩ := runBuilder_spec hbuf
    ((length_octets_errorDraft_le _ _ _ _).trans hsize) (hp.errorResponse_spec hsize)
  refine ⟨buf', ?_, hsize'.symm ▸ hsize, hcontents⟩
  unfold CStunRequestHandler.reportError CStunRequestHandler.buildErrorResponse
  rw [if_pos hne, hrun]

/-- Without an error `ReportError` changes nothing. -/
theorem Prepared.reportError_ok {creds : Option Credentials}
    (hp : Prepared msgIn reader pAuth (.ok creds) h) : h.reportError = h := by
  unfold CStunRequestHandler.reportError
  rw [if_neg (not_not.mpr hp.errorcode_eq)]

/-- An error skips a step. -/
theorem Prepared.stepUnlessError_error {c : Challenge}
    (hp : Prepared msgIn reader pAuth (.error c) h)
    (m : Fallible CStunRequestHandler Unit) : stepUnlessError m h = h := by
  have hne := hp.errorcode_ne_zero_iff.mpr ⟨c, rfl⟩
  exact if_neg hne

/-- The steps before `ProcessBindingRequest` come to the verdict. -/
theorem Prepared.verdict (hp : Prepared msgIn reader pAuth (.ok none) h) {fAllow : Bool}
    {bs : List UInt8} {ts : List WireAttribute}
    (hread : CStunMessageReader.Parsed fAllow bs ts reader) :
    Prepared msgIn reader pAuth (verdict D pAuth msgIn reader)
      (stepUnlessError (CStunRequestHandler.validateAuth D)
        h.honorResponsePort.requireBinding) := by
  have hport := hp.honorResponsePort
  unfold CStunRequestHandler.verdict requireBinding
  rw [hport.reader_eq]
  by_cases hconn : responsePortOnConnection msgIn reader
  · -- The response port has already been refused.
    rw [if_pos hconn] at hport
    have hne := hport.errorcode_ne_zero_iff.mpr ⟨_, rfl⟩
    rw [if_pos (.inl hconn), if_neg hne, hport.stepUnlessError_error]
    exact hport
  · rw [if_neg hconn] at hport
    have hzero : h.honorResponsePort.error.errorcode = 0 := by
      rw [hport.error_eq]
      rfl
    rw [if_pos hzero]
    by_cases htype : reader.msgTypeNormalized = StunMsgTypeBinding
    · rw [if_neg (by tauto), if_neg (not_not.mpr htype)]
      exact hport.validateAuth hread
    · rw [if_pos (.inr htype), if_pos htype, hport.badRequest.stepUnlessError_error]
      exact hport.badRequest

/-- A handler that has just been built. -/
structure Initial (msgIn : StunMessageIn) (reader : CStunMessageReader) (pAuth : Option IStunAuth)
    (h : CStunRequestHandler) : Prop where
  msgIn_eq : h.msgIn = msgIn
  reader_eq : h.reader = reader
  pAuth_eq : h.pAuth = pAuth
  error_eq : h.error = {}
  integrity_eq : h.integrity = {}
  buffer : ∃ buf, h.msgOut.spBufferOut = some buf ∧ MAX_STUN_MESSAGE_SIZE ≤ buf.getAllocatedSize

/-- A handler that remembers its request has not found an error yet. -/
theorem Initial.prepared (hi : Initial msgIn reader pAuth h) :
    Prepared msgIn reader pAuth (.ok none) h.rememberRequest where
  msgIn_eq := hi.msgIn_eq
  reader_eq := hi.reader_eq
  pAuth_eq := hi.pAuth_eq
  transid_eq := congrArg CStunMessageReader.transactionid hi.reader_eq
  legacy_eq := congrArg CStunMessageReader.fMessageIsLegacyFormat hi.reader_eq
  error_eq := by
    unfold rememberRequest
    rw [hi.error_eq, hi.reader_eq]
    rfl
  integrity_eq := by
    rintro creds ⟨⟩
    unfold rememberRequest
    rw [hi.integrity_eq]
    rfl
  usable := by rintro creds ⟨⟩
  buffer := hi.buffer

/-- The steps of `ProcessRequestImpl` for a request. -/
theorem processRequestImpl_eq (hclass : h.reader.msgClass = .request) :
    processRequestImpl D h = .ok () (stepUnlessError (CStunRequestHandler.processBindingRequest D)
      (stepUnlessError (CStunRequestHandler.validateAuth D)
        h.rememberRequest.honorResponsePort.requireBinding)).reportError := by
  unfold processRequestImpl
  rw [bind_get, decide_eq_false (not_not.mpr hclass), bind_of_ok (chkIf_false _ _)]
  rfl

/-- Honoring the response port changes the destination, its flag and what the handler has decided
on, and nothing else. -/
theorem judges_honorResponsePort (hport : h.fRequestHasResponsePort = false)
    (haddr : h.msgOut.addrDest = h.msgIn.addrRemote) :
    Judges { h with
      fRequestHasResponsePort := asksResponsePort h.reader
      msgOut.addrDest := h.destination } h.honorResponsePort := by
  unfold CStunRequestHandler.honorResponsePort asksResponsePort destination Judges
  cases h.reader.getResponsePort with
  | error hr =>
    dsimp only
    rw [if_neg (not_not.mpr rfl), ← hport, ← haddr]
  | ok responseport =>
    dsimp only
    by_cases hzero : responseport = 0
    · subst hzero
      rw [if_neg (not_not.mpr rfl), if_neg (fun hand => hand.1 rfl),
        show (((0 : UInt16) != 0) = false) from rfl, ← hport, ← haddr]
    · have hasks : (responseport != 0) = true := bne_iff_ne.mpr hzero
      cases hconn : h.msgIn.fConnectionOriented with
      | true =>
        simp only [ne_eq, hzero, not_false_eq_true, if_true, hasks, Bool.true_eq_false,
          and_false, if_false, ← haddr]
        rfl
      | false =>
        simp only [ne_eq, hzero, not_false_eq_true, if_true, hasks, and_self, Bool.false_eq_true,
          if_false, ← haddr]

/-- A handler that was given the response's destination and socket of the request, and knows of no
response port. -/
structure Unaimed (h : CStunRequestHandler) : Prop where
  port_eq : h.fRequestHasResponsePort = false
  addrDest_eq : h.msgOut.addrDest = h.msgIn.addrRemote
  socketrole_eq : h.msgOut.socketrole = h.msgIn.socketrole

/-- The steps before `ProcessBindingRequest` change only what the handler has decided on. -/
theorem Unaimed.judges (hu : h.Unaimed) :
    Judges { h.rememberRequest with
        fRequestHasResponsePort := asksResponsePort h.reader
        msgOut.addrDest := h.destination }
      (stepUnlessError (CStunRequestHandler.validateAuth D)
        h.rememberRequest.honorResponsePort.requireBinding) :=
  ((judges_honorResponsePort (h := h.rememberRequest) hu.port_eq hu.addrDest_eq).trans
    judges_requireBinding).trans (judges_stepUnlessError judges_validateAuth)

/-- A request is answered with its outcome. -/
theorem processRequestImpl_spec (hi : Initial msgIn reader pAuth h) (hu : h.Unaimed)
    (hclass : reader.msgClass = .request) {fAllow : Bool} {bs : List UInt8}
    {ts : List WireAttribute} (hread : CStunMessageReader.Parsed fAllow bs ts reader) :
    ∃ h' buf, processRequestImpl D h = .ok () h' ∧
      h'.msgOut = ⟨(outcome D h).role h, h.destination, some buf⟩ ∧
      MAX_STUN_MESSAGE_SIZE ≤ buf.getAllocatedSize ∧
      buf.contents = ((outcome D h).draft D h).octets ∧ (outcome D h).Usable := by
  have hp := hi.prepared.verdict (D := D) hread
  have hframe := hu.judges (D := D)
  obtain ⟨h₁, hh₁⟩ : ∃ h₁, stepUnlessError (CStunRequestHandler.validateAuth D)
    h.rememberRequest.honorResponsePort.requireBinding = h₁ := ⟨_, rfl⟩
  rw [hh₁] at hp hframe
  have hrun := @processRequestImpl_eq D h (by rw [hi.reader_eq, hclass])
  rw [hh₁] at hrun
  -- What decides where the response goes is not touched on the way to it.
  have hout : h₁.msgOut = ⟨h.msgIn.socketrole, h.destination, h₁.msgOut.spBufferOut⟩ := by
    rw [hframe, ← hu.socketrole_eq]
    rfl
  have hsocket : h₁.bindingSocket = h.acceptedSocket := by
    rw [hframe]
    rfl
  have horigin : ∀ socketOutput, h₁.originAddress socketOutput = h.originAddress socketOutput := by
    intro socketOutput
    rw [hframe]
    rfl
  have hother : h₁.otherAddress = h.otherAddress := by
    rw [hframe]
    rfl
  -- An error is reported for the same socket and to the same destination.
  have hreport : ∀ {c : Challenge} {h₂ : CStunRequestHandler},
      Prepared msgIn reader pAuth (.error c) h₂ →
      (∃ buf, h₂.msgOut = ⟨h.msgIn.socketrole, h.destination, buf⟩) →
      outcome D h = .refused c → processRequestImpl D h = .ok () h₂.reportError →
      ∃ h' buf, processRequestImpl D h = .ok () h' ∧
        h'.msgOut = ⟨(outcome D h).role h, h.destination, some buf⟩ ∧
        MAX_STUN_MESSAGE_SIZE ≤ buf.getAllocatedSize ∧
        buf.contents = ((outcome D h).draft D h).octets ∧ (outcome D h).Usable := by
    rintro c h₂ hp₂ ⟨buf₂, hout₂⟩ houtcome hrun
    obtain ⟨buf, hreport, hsize, hcontents⟩ := hp₂.reportError_error
    rw [houtcome]
    refine ⟨_, buf, hrun, ?_, hsize, ?_, trivial⟩
    · rw [hreport, hout₂]
      rfl
    · rw [hcontents, ← hi.reader_eq]
      rfl
  have houtcome : outcome D h = match verdict D pAuth msgIn reader with
      | .error c => .refused c
      | .ok creds =>
        match h.acceptedSocket with
        | none => .refused .badRequest
        | some socketOutput => .accepted socketOutput creds := by
    unfold outcome
    rw [hi.pAuth_eq, hi.msgIn_eq, hi.reader_eq]
  cases hv : CStunRequestHandler.verdict D pAuth msgIn reader with
  | error c =>
    rw [hv] at hp houtcome
    rw [hp.stepUnlessError_error] at hrun
    exact hreport hp ⟨_, hout⟩ houtcome hrun
  | ok creds =>
    rw [hv] at hp houtcome
    dsimp only at houtcome
    cases hs : h.acceptedSocket with
    | none =>
      rw [hs] at hsocket houtcome
      obtain ⟨hstep, hbad⟩ := hp.processBindingRequest_none (D := D) hsocket
      rw [hstep] at hrun
      refine hreport hbad ⟨(h₁.runBuilder (pure ())).msgOut.spBufferOut, ?_⟩ houtcome hrun
      show (h₁.runBuilder (pure ())).msgOut = _
      unfold runBuilder
      rw [hout]
    | some socketOutput =>
      rw [hs] at hsocket houtcome
      obtain ⟨hp₂, buf, hstep, hcontents⟩ := hp.processBindingRequest_some (D := D) hsocket
      rw [hp₂.reportError_ok, hstep] at hrun
      obtain ⟨buf', hbuf', hsize⟩ := hp₂.buffer
      rw [hstep] at hbuf'
      obtain rfl := Option.some.inj hbuf'
      rw [houtcome]
      refine ⟨_, buf, hrun, ?_, hsize, ?_, ?_⟩
      · rw [hout]
        rfl
      · rw [hcontents, horigin, hother, ← hi.reader_eq, ← hi.msgIn_eq]
        rfl
      · intro c hc
        exact hp.usable c (congrArg Except.ok hc)

/-- The outcome's draft answers the verdict. -/
theorem answers_outcome (hi : Initial msgIn reader pAuth h) (husable : (outcome D h).Usable) :
    Answers D msgIn reader (verdict D pAuth msgIn reader) ((outcome D h).draft D h) := by
  unfold outcome at *
  rw [hi.pAuth_eq, hi.msgIn_eq, hi.reader_eq] at *
  cases hv : CStunRequestHandler.verdict D pAuth msgIn reader with
  | error c =>
    dsimp only [Outcome.draft]
    rw [hi.reader_eq]
    exact .refused c
  | ok creds =>
    rw [hv] at husable
    cases hs : h.acceptedSocket with
    | none =>
      dsimp only [Outcome.draft]
      rw [hi.reader_eq]
      exact .badRequest creds
    | some socketOutput =>
      rw [hs] at husable
      dsimp only [Outcome.draft]
      rw [hi.reader_eq, hi.msgIn_eq]
      exact .success creds _ _ husable

end Steps

/-! ## `ProcessRequest` -/

/-- The handler that `ProcessRequest` builds. -/
def newHandler (msgIn : StunMessageIn) (set : TransportAddressSet) (pAuth : Option IStunAuth)
    (buf : CBuffer) : CStunRequestHandler where
  pAuth := pAuth
  pAddrSet := some set
  msgIn := msgIn
  msgOut := ⟨msgIn.socketrole, msgIn.addrRemote, some (buf.setSize 0).2⟩

section ProcessRequest

variable (D : Digests) {reader : CStunMessageReader} (msgIn : StunMessageIn)
  (set : TransportAddressSet) (pAuth : Option IStunAuth) (msgOut : StunMessageOut) {buf : CBuffer}
  (hsize : MAX_STUN_MESSAGE_SIZE ≤ buf.getAllocatedSize)

include hsize

/-- `ProcessRequest` hands a message that a reader has validated to a new handler. -/
theorem processRequest_eq (hstate : reader.state = .bodyValidated) :
    processRequest D { msgIn with pReader := some reader } (some set) pAuth
        { msgOut with spBufferOut := some buf } =
      runHandler D (newHandler { msgIn with pReader := some reader } set pAuth buf)
        { msgOut with spBufferOut := some buf } := by
  unfold processRequest
  rw [Option.isNone_some, bind_of_ok (chkIf_false _ _), bind_get, Option.isNone_some,
    bind_of_ok (chkIf_false _ _), Option.getD_some, Option.getD_some, decide_eq_false (by omega),
    bind_of_ok (chkIf_false _ _), Option.isNone_some, bind_of_ok (chkIf_false _ _),
    decide_eq_false (not_not.mpr hstate), bind_of_ok (chkIf_false _ _)]
  rfl

variable (reader) in
/-- A new handler is in its initial state. -/
theorem initial_newHandler :
    Initial { msgIn with pReader := some reader } reader pAuth
      (newHandler { msgIn with pReader := some reader } set pAuth buf) :=
  ⟨rfl, rfl, rfl, rfl, rfl, _, rfl, by rwa [CBuffer.setSize_snd]⟩

/-- `ProcessRequest` answers a request with its outcome. -/
theorem processRequest_outcome (hclass : reader.msgClass = .request) {fAllow : Bool}
    {bs : List UInt8} {ts : List WireAttribute}
    (hread : CStunMessageReader.Parsed fAllow bs ts reader) :
    let h := newHandler { msgIn with pReader := some reader } set pAuth buf
    ∃ buf', processRequest D { msgIn with pReader := some reader } (some set) pAuth
        { msgOut with spBufferOut := some buf } =
          .ok () ⟨(outcome D h).role h, h.destination, some buf'⟩ ∧
      MAX_STUN_MESSAGE_SIZE ≤ buf'.getAllocatedSize ∧
      buf'.contents = ((outcome D h).draft D h).octets ∧ (outcome D h).Usable := by
  intro h
  obtain ⟨h', buf', himpl, hout, hrest⟩ := processRequestImpl_spec (D := D)
    (initial_newHandler reader msgIn set pAuth hsize) ⟨rfl, rfl, rfl⟩ hclass hread
  refine ⟨buf', ?_, hrest⟩
  rw [processRequest_eq D msgIn set pAuth msgOut hsize hread.state, runHandler, himpl, ← hout]

/-- `ProcessRequest` answers a request by its verdict. -/
theorem processRequest_request (hclass : reader.msgClass = .request) {fAllow : Bool}
    {bs : List UInt8} {ts : List WireAttribute}
    (hread : CStunMessageReader.Parsed fAllow bs ts reader) :
    ∃ msgOut' buf' d, processRequest D { msgIn with pReader := some reader } (some set) pAuth
        { msgOut with spBufferOut := some buf } = .ok () msgOut' ∧
      msgOut'.spBufferOut = some buf' ∧ buf'.contents = Draft.octets d ∧
      Answers D { msgIn with pReader := some reader } reader
        (verdict D pAuth { msgIn with pReader := some reader } reader) d := by
  obtain ⟨buf', hrun, -, hcontents, husable⟩ :=
    processRequest_outcome D msgIn set pAuth msgOut hsize hclass hread
  exact ⟨_, buf', _, hrun, rfl, hcontents,
    answers_outcome (initial_newHandler reader msgIn set pAuth hsize) husable⟩

/-- `ProcessRequest` fails on any other message, and leaves the buffer empty. -/
theorem processRequest_other (hstate : reader.state = .bodyValidated)
    (hclass : reader.msgClass ≠ .request) :
    processRequest D { msgIn with pReader := some reader } (some set) pAuth
        { msgOut with spBufferOut := some buf } =
      .error E_FAIL ⟨msgIn.socketrole, msgIn.addrRemote, some ⟨buf.data, 0⟩⟩ := by
  have hi := initial_newHandler reader msgIn set pAuth hsize
  have himpl : processRequestImpl D
      (newHandler { msgIn with pReader := some reader } set pAuth buf) =
        .error E_FAIL (newHandler { msgIn with pReader := some reader } set pAuth buf) := by
    unfold processRequestImpl
    rw [bind_get, hi.reader_eq, decide_eq_true hclass, bind_of_error (chkIf_true _ _)]
  rw [processRequest_eq D msgIn set pAuth msgOut hsize hstate, runHandler, himpl, newHandler,
    CBuffer.setSize_snd]

/-- `ProcessRequest` does not take a message that was not validated. -/
theorem processRequest_unread (hstate : reader.state ≠ .bodyValidated) :
    processRequest D { msgIn with pReader := some reader } (some set) pAuth
        { msgOut with spBufferOut := some buf } =
      .error E_UNEXPECTED { msgOut with spBufferOut := some buf } := by
  unfold processRequest
  rw [Option.isNone_some, bind_of_ok (chkIf_false _ _), bind_get, Option.isNone_some,
    bind_of_ok (chkIf_false _ _), Option.getD_some, Option.getD_some,
    decide_eq_false (not_lt.mpr hsize), bind_of_ok (chkIf_false _ _), Option.isNone_some,
    bind_of_ok (chkIf_false _ _), decide_eq_true hstate, bind_of_error (chkIf_true _ _)]

end ProcessRequest

end CStunRequestHandler

end Stun
