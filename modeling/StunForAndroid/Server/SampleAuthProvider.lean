import StunForAndroid.Server.Nonces
import StunForAndroid.StunCore.Verdict

/-!
# The sample authentication providers

`src/server/sampleauthprovider.cpp`. `CLongTermAuth::DoAuthCheck` looks the password up with the
nonce of the request where the realm should be, so that it never allows a request
(`not_allowConditional`). `handshake` is what the long-term mechanism asks for, and `challenges_iff`
says for which requests the provider answers so.

The strings that a provider is told are arrays, and what is compared is what they hold before their
first zero character. `time` is called for the new nonce and to check the one of the request.
-/

namespace Stun

namespace AuthString

/-- The first character is the zero character. -/
def IsEmpty (a : AuthString) : Prop := a.chars[0]? = some 0

instance (a : AuthString) : Decidable a.IsEmpty := inferInstanceAs (Decidable (_ = _))

/-- A string is empty exactly when it has no characters. -/
theorem isEmpty_iff {a : AuthString} : a.IsEmpty ↔ a.str.chars = [] := by
  obtain ⟨c, cs, hchars⟩ := List.exists_cons_of_ne_nil (l := a.chars)
    (List.ne_nil_of_length_pos (by rw [a.length_chars]; decide))
  rw [IsEmpty, str, CString.ofArray, hchars]
  by_cases hc : c = 0
  · simp [hc]
  · simp [hc]

/-- A string that fits is read back. -/
theorem str_ofChars {s : CString} (h : s.strlen ≤ MAX_STUN_AUTH_STRING_SIZE) :
    (ofChars s.chars).str = s := by
  obtain ⟨n, hn⟩ : ∃ n, MAX_STUN_AUTH_STRING_SIZE + 1 = s.chars.length + (n + 1) :=
    ⟨MAX_STUN_AUTH_STRING_SIZE - s.strlen, by unfold CString.strlen at *; omega⟩
  have harray : (ofChars s.chars).chars = s.chars ++ 0 :: List.replicate n 0 := by
    show fixedArray (MAX_STUN_AUTH_STRING_SIZE + 1) s.chars = _
    rw [fixedArray, hn, List.take_append, List.take_of_length_le (by omega), List.take_replicate,
      Nat.add_sub_cancel_left, Nat.min_eq_left (by omega), List.replicate_succ]
  rw [str, harray]
  exact CString.ofArray_append_zero s _

end AuthString

/-- `c_szRealm`, `YourRealmNameHere`. -/
def c_szRealm : CString :=
  ⟨[89, 111, 117, 114, 82, 101, 97, 108, 109, 78, 97, 109, 101, 72, 101, 114, 101], by decide⟩

/-- The users and their passwords: `bruce` and `AcesHigh`, `steve` and `2MinToMid`, `nicko` and
`fearofthedark!`, `dave` and `#ofthebeast`, `adrian` and `Run2TheHills`. -/
def users : List (CString × CString) :=
  [(⟨[98, 114, 117, 99, 101], by decide⟩, ⟨[65, 99, 101, 115, 72, 105, 103, 104], by decide⟩),
    (⟨[115, 116, 101, 118, 101], by decide⟩,
      ⟨[50, 77, 105, 110, 84, 111, 77, 105, 100], by decide⟩),
    (⟨[110, 105, 99, 107, 111], by decide⟩,
      ⟨[102, 101, 97, 114, 111, 102, 116, 104, 101, 100, 97, 114, 107, 33], by decide⟩),
    (⟨[100, 97, 118, 101], by decide⟩,
      ⟨[35, 111, 102, 116, 104, 101, 98, 101, 97, 115, 116], by decide⟩),
    (⟨[97, 100, 114, 105, 97, 110], by decide⟩,
      ⟨[82, 117, 110, 50, 84, 104, 101, 72, 105, 108, 108, 115], by decide⟩)]

/-- The password of a user. -/
def passwordOf (user : CString) : Option CString := (users.find? (·.1 = user)).map Prod.snd

/-- `LookupPassword`: the password if it succeeds. -/
def lookupPassword (fWithRealm : Bool) (pszUserName pszRealm : Option CString) : Option CString :=
  if fWithRealm ∧ pszRealm ≠ some c_szRealm then none
  else pszUserName.bind passwordOf

/-- `CShortTermAuth::DoAuthCheck`. -/
def CShortTermAuth.doAuthCheck : IStunAuth := fun pAuthAttributes =>
  let pResponse : AuthResponse := { authCredMech := .authCredShortTerm }
  if pAuthAttributes.fMessageIntegrityPresent = false then
    (S_OK, { pResponse with responseType := .reject })
  else
    match lookupPassword false (some pAuthAttributes.szUser.str) none with
    | some szPassword =>
      (S_OK, { pResponse with
        szPassword := .ofChars szPassword.chars, responseType := .allowConditional })
    | none => (S_OK, { pResponse with responseType := .unauthorized })

namespace CLongTermAuth

/-- `DoAuthCheck`, at the time when the new nonce is made and the time when the nonce of the request
is checked. The third argument of `LookupPassword` is the realm. -/
def doAuthCheck (D : Digests) (timeCreated timeChecked : ℤ) : IStunAuth := fun pAuthAttributes =>
  let pResponse : AuthResponse :=
    { authCredMech := .authCredLongTerm
      szNonce := .ofChars (createNonce D timeCreated).chars
      szRealm := .ofChars c_szRealm.chars }
  if pAuthAttributes.fMessageIntegrityPresent = false ∨ pAuthAttributes.szNonce.IsEmpty ∨
      pAuthAttributes.szUser.IsEmpty then
    (S_OK, { pResponse with responseType := .unauthorized })
  else
    match lookupPassword true (some pAuthAttributes.szUser.str)
      (some pAuthAttributes.szNonce.str) with
    | none => (S_OK, { pResponse with responseType := .unauthorized })
    | some szPassword =>
      let pResponse := { pResponse with szPassword := .ofChars szPassword.chars }
      if failed (validateNonce D timeChecked pAuthAttributes.szNonce.str) then
        (S_OK, { pResponse with responseType := .staleNonce })
      else (S_OK, { pResponse with responseType := .allowConditional })

/-! ## What is looked up -/

/-- The passwords fit into the array that they are copied to. -/
theorem strlen_passwordOf_le {user szPassword : CString} (h : passwordOf user = some szPassword) :
    szPassword.strlen ≤ MAX_STUN_AUTH_STRING_SIZE := by
  have hall : ∀ x ∈ users, x.2.strlen ≤ MAX_STUN_AUTH_STRING_SIZE := by decide
  obtain ⟨x, hx, rfl⟩ := Option.map_eq_some_iff.mp h
  exact hall x (List.mem_of_find?_eq_some hx)

/-- No user has an empty name. -/
theorem passwordOf_empty {user : CString} (h : user.chars = []) : passwordOf user = none := by
  obtain rfl : user = ⟨[], by decide⟩ := by
    obtain ⟨chars, hnul⟩ := user
    exact CString.mk.injEq .. ▸ h
  decide

/-- A nonce fits into its array. -/
theorem strlen_createNonce_le (D : Digests) (t : ℤ) :
    (createNonce D t).strlen ≤ MAX_STUN_AUTH_STRING_SIZE := by
  have hdecimal := length_decimal_le (UInt32.ofInt t)
  show (nonceChars D t).length ≤ 64
  rw [nonceChars_split, List.length_append, List.length_cons, length_hmacToString_sign]
  omega

/-- The realm is no nonce that is accepted: it has no colon. -/
theorem failed_validateNonce_realm (D : Digests) (now : ℤ) :
    failed (validateNonce D now c_szRealm) := by
  have hdrop : (c_szRealm.chars.take 99).dropWhile (· ≠ colon) = [] := by decide
  unfold validateNonce
  rw [hdrop]
  show failed E_FAIL
  decide

/-- `ValidateNonce` fails unless it returns `S_OK`. -/
theorem failed_validateNonce_iff {D : Digests} {now : ℤ} {s : CString} :
    failed (validateNonce D now s) ↔ validateNonce D now s ≠ S_OK := by
  have hfail : failed E_FAIL := by decide
  have hne : E_FAIL ≠ S_OK := by decide
  unfold validateNonce
  split
  · exact iff_of_true hfail hne
  · dsimp only
    split_ifs
    · exact iff_of_true hfail hne
    · exact iff_of_true hfail hne
    · exact iff_of_false (by decide) (not_not_intro rfl)

/-! ## The handshake -/

/-- An attribute that the mechanism needs is missing. -/
def Missing (attrs : AuthAttributes) : Prop :=
  attrs.fMessageIntegrityPresent = false ∨ attrs.szUser.str.chars = [] ∨
    attrs.szRealm.str.chars = [] ∨ attrs.szNonce.str.chars = []

instance (attrs : AuthAttributes) : Decidable (Missing attrs) :=
  inferInstanceAs (Decidable (_ ∨ _ ∨ _ ∨ _))

/-- What the long-term mechanism comes to for a request. -/
def handshake (D : Digests) (now : ℤ) (attrs : AuthAttributes) : AuthResponseType :=
  if Missing attrs ∨ passwordOf attrs.szUser.str = none ∨ attrs.szRealm.str ≠ c_szRealm then
    .unauthorized
  else if validateNonce D now attrs.szNonce.str = S_OK then .allowConditional
  else .staleNonce

/-- An answer is that of the handshake: the right verdict, with the user's password or else with a
new nonce and the realm. -/
structure Challenges (D : Digests) (timeCreated timeChecked : ℤ) (attrs : AuthAttributes)
    (pResponse : AuthResponse) : Prop where
  responseType_eq : pResponse.responseType = handshake D timeChecked attrs
  allows : pResponse.responseType = .allowConditional →
    pResponse.authCredMech = .authCredLongTerm ∧
      passwordOf attrs.szUser.str = some pResponse.szPassword.str
  refuses : pResponse.responseType = .staleNonce ∨ pResponse.responseType = .unauthorized →
    pResponse.szNonce.str = createNonce D timeCreated ∧ pResponse.szRealm.str = c_szRealm

/-- `DoAuthCheck` compares the nonce of the request with the realm, and a nonce that is the realm is
stale. -/
theorem doAuthCheck_eq (D : Digests) (timeCreated timeChecked : ℤ) (attrs : AuthAttributes) :
    ∃ szPassword, doAuthCheck D timeCreated timeChecked attrs =
      (S_OK, {
        responseType :=
          if attrs.fMessageIntegrityPresent = false ∨ attrs.szNonce.str ≠ c_szRealm ∨
            passwordOf attrs.szUser.str = none then .unauthorized else .staleNonce
        authCredMech := .authCredLongTerm
        szPassword := szPassword
        szRealm := .ofChars c_szRealm.chars
        szNonce := .ofChars (createNonce D timeCreated).chars }) := by
  unfold doAuthCheck
  dsimp only
  by_cases hmissing : attrs.fMessageIntegrityPresent = false ∨ attrs.szNonce.IsEmpty ∨
      attrs.szUser.IsEmpty
  · -- An empty nonce is not the realm, and an empty name is no user's.
    have hrefused : attrs.fMessageIntegrityPresent = false ∨ attrs.szNonce.str ≠ c_szRealm ∨
        passwordOf attrs.szUser.str = none := by
      rcases hmissing with h | h | h
      · exact .inl h
      · refine .inr (.inl fun heq => ?_)
        rw [AuthString.isEmpty_iff, heq] at h
        exact absurd h (by decide)
      · exact .inr (.inr (passwordOf_empty (AuthString.isEmpty_iff.mp h)))
    rw [if_pos hmissing, if_pos hrefused]
    exact ⟨_, rfl⟩
  rw [if_neg hmissing]
  have hpresent : ¬attrs.fMessageIntegrityPresent = false := fun h => hmissing (.inl h)
  by_cases hrealm : attrs.szNonce.str = c_szRealm
  · have hlookup : lookupPassword true (some attrs.szUser.str) (some attrs.szNonce.str) =
        passwordOf attrs.szUser.str := by
      rw [lookupPassword, if_neg (by simp [hrealm]), Option.bind_some]
    rw [hlookup]
    cases hpassword : passwordOf attrs.szUser.str with
    | none => exact ⟨_, by simp; rfl⟩
    | some szPassword =>
      have hstale := failed_validateNonce_realm D timeChecked
      exact ⟨.ofChars szPassword.chars, by simp [hstale, hpresent, hrealm]⟩
  · have hlookup : lookupPassword true (some attrs.szUser.str) (some attrs.szNonce.str) = none := by
      rw [lookupPassword, if_pos (by simp [hrealm])]
    rw [hlookup, if_pos (.inr (.inl hrealm))]
    exact ⟨_, rfl⟩

/-- No request is allowed. -/
theorem not_allowConditional (D : Digests) (timeCreated timeChecked : ℤ) (attrs : AuthAttributes) :
    (doAuthCheck D timeCreated timeChecked attrs).2.responseType = .unauthorized ∨
      (doAuthCheck D timeCreated timeChecked attrs).2.responseType = .staleNonce := by
  obtain ⟨szPassword, heq⟩ := doAuthCheck_eq D timeCreated timeChecked attrs
  rw [heq]
  dsimp only
  split_ifs
  · exact .inl rfl
  · exact .inr rfl

/-- The answer is that of the handshake if the verdict is: what goes with it is there. -/
theorem challenges_iff_verdict (D : Digests) (timeCreated timeChecked : ℤ)
    (attrs : AuthAttributes) :
    Challenges D timeCreated timeChecked attrs (doAuthCheck D timeCreated timeChecked attrs).2 ↔
      (if attrs.fMessageIntegrityPresent = false ∨ attrs.szNonce.str ≠ c_szRealm ∨
        passwordOf attrs.szUser.str = none then AuthResponseType.unauthorized else .staleNonce) =
        handshake D timeChecked attrs := by
  have hnot := not_allowConditional D timeCreated timeChecked attrs
  obtain ⟨szPassword, heq⟩ := doAuthCheck_eq D timeCreated timeChecked attrs
  rw [heq] at hnot ⊢
  refine ⟨Challenges.responseType_eq, fun hverdict => ⟨hverdict, fun hallow => ?_,
    fun _ => ⟨?_, ?_⟩⟩⟩
  · rcases hnot with h | h
    · exact absurd (h.symm.trans hallow) (by decide)
    · exact absurd (h.symm.trans hallow) (by decide)
  · exact AuthString.str_ofChars (strlen_createNonce_le D timeCreated)
  · exact AuthString.str_ofChars (by decide)

/-- `DoAuthCheck` answers as the handshake asks for exactly when something is missing, the user is
unknown, or the nonce is the realm just when the realm is. -/
theorem challenges_iff (D : Digests) (timeCreated timeChecked : ℤ) (attrs : AuthAttributes) :
    Challenges D timeCreated timeChecked attrs (doAuthCheck D timeCreated timeChecked attrs).2 ↔
      attrs.fMessageIntegrityPresent = false ∨ attrs.szUser.str.chars = [] ∨
        attrs.szNonce.str.chars = [] ∨ passwordOf attrs.szUser.str = none ∨
        (attrs.szRealm.str = c_szRealm ↔ attrs.szNonce.str = c_szRealm) := by
  have hnil : c_szRealm.chars ≠ [] := by decide
  rw [challenges_iff_verdict]
  by_cases hrefused : attrs.fMessageIntegrityPresent = false ∨ attrs.szUser.str.chars = [] ∨
      passwordOf attrs.szUser.str = none
  · -- Whatever else the request has, it is refused.
    have hunknown : attrs.fMessageIntegrityPresent = false ∨
        passwordOf attrs.szUser.str = none := by
      rcases hrefused with h | h | h
      · exact .inl h
      · exact .inr (passwordOf_empty h)
      · exact .inr h
    unfold handshake Missing
    rcases hunknown with h | h
    · simp [h]
    · simp [h]
  rw [not_or, not_or] at hrefused
  obtain ⟨hpresent, huser, hknown⟩ := hrefused
  by_cases hrealm : attrs.szRealm.str = c_szRealm
  · by_cases hnonce : attrs.szNonce.str = c_szRealm
    · have hstale : validateNonce D timeChecked c_szRealm ≠ S_OK :=
        failed_validateNonce_iff.mp (failed_validateNonce_realm D timeChecked)
      simp [handshake, Missing, hpresent, huser, hknown, hrealm, hnonce, hnil, hstale]
    · by_cases hempty : attrs.szNonce.str.chars = []
      · simp [handshake, Missing, hpresent, huser, hknown, hrealm, hnonce, hempty]
      · have hne : (if validateNonce D timeChecked attrs.szNonce.str = S_OK then
            AuthResponseType.allowConditional else .staleNonce) ≠ .unauthorized := by
          split_ifs <;> decide
        simp [handshake, Missing, hpresent, huser, hknown, hrealm, hnonce, hnil, hempty, hne.symm]
  · by_cases hnonce : attrs.szNonce.str = c_szRealm
    · simp [handshake, Missing, hpresent, huser, hknown, hrealm, hnonce, hnil]
    · simp [handshake, Missing, hpresent, huser, hknown, hrealm, hnonce]

/-- A request of `bruce` with the realm and a nonce that is accepted in the second 1000. -/
def requestOfBruce : AuthAttributes where
  szUser := .ofChars [98, 114, 117, 99, 101]
  szRealm := .ofChars c_szRealm.chars
  szNonce := .ofChars (acceptableNonce readableDigests 1000).chars
  fMessageIntegrityPresent := true

/-- The request of Bruce should be allowed, and is not. -/
theorem requestOfBruce_refused :
    handshake readableDigests 1000 requestOfBruce = .allowConditional ∧
      ¬Challenges readableDigests 1000 1000 requestOfBruce
        (doAuthCheck readableDigests 1000 1000 requestOfBruce).2 := by
  have hallow : handshake readableDigests 1000 requestOfBruce = .allowConditional := by decide
  refine ⟨hallow, fun h => ?_⟩
  have hverdict := h.responseType_eq
  rw [hallow] at hverdict
  rcases not_allowConditional readableDigests 1000 1000 requestOfBruce with hr | hr
  · exact absurd (hr.symm.trans hverdict) (by decide)
  · exact absurd (hr.symm.trans hverdict) (by decide)

end CLongTermAuth

/-! ## What the providers come to -/

/-- With the long-term provider no request gets past `ValidateAuth`: each of them is answered with
an error that asks for other credentials. -/
theorem validateAuth_longTerm (D : Digests) (timeCreated timeChecked : ℤ) (h : CStunRequestHandler)
    (hauth : h.pAuth = some (CLongTermAuth.doAuthCheck D timeCreated timeChecked)) :
    ∃ h', CStunRequestHandler.validateAuth D h = .ok () h' ∧
      (h'.error.errorcode = STUN_ERROR_UNAUTHORIZED ∨
        h'.error.errorcode = STUN_ERROR_STALENONCE) := by
  have hnot := CLongTermAuth.not_allowConditional D timeCreated timeChecked
    (CStunRequestHandler.authAttributes h.reader)
  obtain ⟨szPassword, heq⟩ := CLongTermAuth.doAuthCheck_eq D timeCreated timeChecked
    (CStunRequestHandler.authAttributes h.reader)
  rw [heq] at hnot
  have hkeeps : ∀ (r : AuthResponse) (h : CStunRequestHandler),
      (CStunRequestHandler.keepStrings r h).error.errorcode = h.error.errorcode := by
    intro r h
    unfold CStunRequestHandler.keepStrings
    split_ifs <;> rfl
  refine ⟨_, CStunRequestHandler.validateAuth_eq hauth heq (show ¬failed S_OK by decide), ?_⟩
  rw [hkeeps]
  unfold CStunRequestHandler.decideAuth AuthResponse.terminate
  rcases hnot with hr | hr
  · exact .inl (by rw [hr]; rfl)
  · exact .inr (by rw [hr]; rfl)

/-- The short-term provider allows a request with message integrity of a user that it knows, as far
as the integrity is right for the user's password. -/
theorem shortTerm_allows {attrs : AuthAttributes} {szPassword : CString}
    (hpresent : attrs.fMessageIntegrityPresent = true)
    (hpassword : passwordOf attrs.szUser.str = some szPassword) :
    (CShortTermAuth.doAuthCheck attrs).2.responseType = .allowConditional ∧
      (CShortTermAuth.doAuthCheck attrs).2.authCredMech = .authCredShortTerm ∧
      (CShortTermAuth.doAuthCheck attrs).2.szPassword.str = szPassword := by
  have hlookup : lookupPassword false (some attrs.szUser.str) none = some szPassword := by
    rw [lookupPassword, if_neg (by simp), Option.bind_some, hpassword]
  have hanswer : CShortTermAuth.doAuthCheck attrs = (S_OK, {
      responseType := .allowConditional
      authCredMech := .authCredShortTerm
      szPassword := .ofChars szPassword.chars }) := by
    unfold CShortTermAuth.doAuthCheck
    rw [if_neg (by simp [hpresent]), hlookup]
  rw [hanswer]
  exact ⟨rfl, rfl, AuthString.str_ofChars (CLongTermAuth.strlen_passwordOf_le hpassword)⟩

end Stun
