import StunForAndroid.StunCore.ClientTests
import Mathlib.Logic.Relation

/-!
# `CStunClientLogic`

`src/stuncore/stunclientlogic.cpp`. The client has a list of tests and is at one of them.
`GetNextMessage` goes on from test to test until it has a request to send, has to wait, or has done
all tests, and `ProcessResponse` hands a response to the current test.

The loop of `GetNextMessage` is a recursion on a bound of the number of its rounds, which is never
reached (`getNextMessage_cases`). What a call does is one or several `Round`s, each of which ends
with `continue`, and a last one that returns.
-/

namespace Stun

open Fallible

/-- `E_STUNCLIENT_STILL_WAITING`. -/
def E_STUNCLIENT_STILL_WAITING : HRESULT := failure 0x81010001

/-- `E_STUNCLIENT_RESULTS_READY`. -/
def E_STUNCLIENT_RESULTS_READY : HRESULT := failure 0x81010002

/-- The client, with the values that its constructor sets. -/
structure CStunClientLogic where
  config : StunClientLogicConfig := {}
  results : StunClientResults := {}
  fInitialized : Bool := false
  timeLastMessageSent : UInt32 := 0
  sendCount : UInt32 := 0
  fPreCheckRunOnTest : Bool := false
  /-- `_testlist`, with the tests themselves. -/
  testlist : List StunClientTest := []
  nTestIndex : ℕ := 0

/-- The tests that `Initialize` puts on the list. -/
def StunClientLogicConfig.kinds (config : StunClientLogicConfig) : List TestKind :=
  [.basicBinding] ++
    (if config.fBehaviorTest then [.behavior false, .behavior true] else []) ++
    (if config.fFilteringTest then [.filtering false, .filtering true] else [])

/-- The binding test is the first one, and no other one is. -/
theorem StunClientLogicConfig.kinds_first (config : StunClientLogicConfig) (i : ℕ) (kind : TestKind)
    (h : config.kinds[i]? = some kind) : kind = .basicBinding ↔ i = 0 := by
  unfold kinds at h
  cases i with
  | zero =>
    simp only [List.cons_append, List.nil_append, List.getElem?_cons_zero, Option.some.injEq] at h
    simp [h]
  | succ i =>
    simp only [List.cons_append, List.nil_append, List.getElem?_cons_succ] at h
    have hmem := List.mem_of_getElem? h
    refine ⟨fun hk => absurd hmem ?_, fun h0 => absurd h0 (Nat.succ_ne_zero i)⟩
    subst hk
    cases config.fBehaviorTest <;> cases config.fFilteringTest <;> simp

/-- The configuration with its defaults filled in. -/
def StunClientLogicConfig.withDefaults (config : StunClientLogicConfig) : StunClientLogicConfig :=
  { config with
    timeoutSeconds := if config.fTimeoutIsInstant then 0
      else if config.timeoutSeconds = 0 then 3 else config.timeoutSeconds
    uMaxAttempts := if config.uMaxAttempts = 0 then 2 else config.uMaxAttempts }

namespace CStunClientLogic

/-- `Initialize`. -/
def initializeLogic (config : StunClientLogicConfig) : Fallible CStunClientLogic Unit := do
  chkIf (← get).fInitialized E_UNEXPECTED
  chkIf config.addrServer.isIPAddressZero E_INVALIDARG
  chkIf (config.addrServer.getPort = 0) E_INVALIDARG
  modify fun c => { c with
    config := config.withDefaults
    fInitialized := true
    nTestIndex := 0
    testlist := config.kinds.map fun kind => { kind := kind }
    fPreCheckRunOnTest := false
    timeLastMessageSent := 0 }

/-- A new client that is initialized. -/
def initialized (config : StunClientLogicConfig) : CStunClientLogic where
  config := config.withDefaults
  fInitialized := true
  testlist := config.kinds.map fun kind => { kind := kind }

/-- A new client can be initialized when there is an address of a server to speak of. -/
theorem initializeLogic_eq_ok_iff {config : StunClientLogicConfig} {c : CStunClientLogic} :
    initializeLogic config {} = .ok () c ↔
      config.addrServer.isIPAddressZero = false ∧ config.addrServer.getPort ≠ 0 ∧
        c = initialized config := by
  unfold initializeLogic
  rw [bind_get]
  cases hip : config.addrServer.isIPAddressZero with
  | true => simp [bind, EStateM.bind]
  | false =>
    by_cases hport : config.addrServer.getPort = 0
    · simp [hport, bind, EStateM.bind]
    · simp only [hport, decide_false, bind, EStateM.bind, chkIf_false, true_and, ne_eq,
        not_false_eq_true]
      constructor
      · intro h
        cases h
        rfl
      · rintro rfl
        rfl

/-- A client is not initialized for a server with no address. -/
theorem initializeLogic_zero {config : StunClientLogicConfig}
    (h : config.addrServer.isIPAddressZero = true) :
    initializeLogic config {} = .error E_INVALIDARG {} := by
  unfold initializeLogic
  rw [bind_get]
  simp [h, bind, EStateM.bind]

/-! ## `GetNextMessage` -/

/-- A test in the place of the current one, and results. -/
def withTest (result : StunClientTest × StunClientResults) (c : CStunClientLogic) :
    CStunClientLogic :=
  { c with testlist := c.testlist.set c.nTestIndex result.1, results := result.2 }

/-- The early chance of a test to complete, once for each test. -/
def precheck (pCurrentTest : StunClientTest) (c : CStunClientLogic) :
    StunClientTest × CStunClientLogic :=
  if c.fPreCheckRunOnTest = false then
    let result := pCurrentTest.preRunCheck c.results
    (result.1, { c.withTest result with fPreCheckRunOnTest := true })
  else (pCurrentTest, c)

/-- The client goes on to the next test. -/
def nextTest (c : CStunClientLogic) : CStunClientLogic :=
  { c with nTestIndex := c.nTestIndex + 1, sendCount := 0, fPreCheckRunOnTest := false }

/-- The client is still waiting for a response to the request that it sent last. -/
def stillWaiting (timeCurrentMilliseconds : UInt32) (c : CStunClientLogic) : Bool :=
  (timeCurrentMilliseconds - c.timeLastMessageSent) / 1000 < c.config.timeoutSeconds &&
    c.sendCount != 0

/-- The client after it has fetched a message from the current test, which is then
`pCurrentTest`. -/
def messageFetched (timeCurrentMilliseconds : UInt32) (pCurrentTest : StunClientTest)
    (c : CStunClientLogic) : CStunClientLogic :=
  { c.withTest (pCurrentTest, c.results) with
    sendCount := c.sendCount + 1
    timeLastMessageSent := timeCurrentMilliseconds }

section GetNextMessage

variable (rand : ℕ → UInt8) (stack : StunTransactionId) (spMsg : CBuffer)
  (timeCurrentMilliseconds : UInt32)

/-- A round of the loop after the early chance: the client to `continue` with, or what the loop ends
with. -/
def round (pCurrentTest : StunClientTest) (c : CStunClientLogic) :
    CStunClientLogic ⊕ (Except HRESULT (CBuffer × CSocketAddress) × CStunClientLogic) :=
  if pCurrentTest.fCompleted || pCurrentTest.isReadyToRun c.results == false then
    .inl c.nextTest
  else if c.stillWaiting timeCurrentMilliseconds then
    .inr (.error E_STUNCLIENT_STILL_WAITING, c)
  else if c.sendCount ≥ c.config.uMaxAttempts then
    .inl (c.withTest (pCurrentTest.notifyTimeout c.results))
  else
    let result := pCurrentTest.getMessage c.config c.results rand stack spMsg
    .inr (.ok (result.1.2, result.2), c.messageFetched timeCurrentMilliseconds result.1.1)

/-- The loop, for at most a number of rounds. -/
def getNextMessageLoop : ℕ → CStunClientLogic →
    Except HRESULT (CBuffer × CSocketAddress) × CStunClientLogic
  | 0, c => (.error E_UNEXPECTED, c)
  | fuel + 1, c =>
    match c.testlist[c.nTestIndex]? with
    | none => (.error E_STUNCLIENT_RESULTS_READY, c)
    | some pCurrentTest =>
      let (pCurrentTest, c) := c.precheck pCurrentTest
      match round rand stack spMsg timeCurrentMilliseconds pCurrentTest c with
      | .inl c => getNextMessageLoop fuel c
      | .inr result => result

/-- `GetNextMessage`, with `spMsg` and `*pAddrDest` when there is a message to send. A test takes at
most two rounds. -/
def getNextMessage (c : CStunClientLogic) :
    Except HRESULT (CBuffer × CSocketAddress) × CStunClientLogic :=
  if c.fInitialized = false then (.error E_FAIL, c)
  else if spMsg.getAllocatedSize < MAX_STUN_MESSAGE_SIZE then (.error E_INVALIDARG, c)
  else getNextMessageLoop rand stack spMsg timeCurrentMilliseconds (2 * c.testlist.length + 1) c

end GetNextMessage

/-! ## What a call of `GetNextMessage` does -/

/-- The current test. -/
def CurrentTest (c : CStunClientLogic) (t : StunClientTest) : Prop :=
  c.testlist[c.nTestIndex]? = some t

/-- What a round does that ends with `continue`. -/
inductive Round (timeCurrentMilliseconds : UInt32) : CStunClientLogic → CStunClientLogic → Prop
  /-- The test has had its early chance. -/
  | precheck {c : CStunClientLogic} {t : StunClientTest} (current : c.CurrentTest t)
      (unchecked : c.fPreCheckRunOnTest = false) :
      Round timeCurrentMilliseconds c
        { c.withTest (t.preRunCheck c.results) with fPreCheckRunOnTest := true }
  /-- The test has completed, or cannot run. -/
  | next {c : CStunClientLogic} {t : StunClientTest} (current : c.CurrentTest t)
      (checked : c.fPreCheckRunOnTest = true)
      (ended : t.fCompleted = true ∨ t.isReadyToRun c.results = false) :
      Round timeCurrentMilliseconds c c.nextTest
  /-- The test has timed out. -/
  | timeout {c : CStunClientLogic} {t : StunClientTest} (current : c.CurrentTest t)
      (checked : c.fPreCheckRunOnTest = true) (notCompleted : t.fCompleted = false)
      (ready : t.isReadyToRun c.results = true)
      (late : c.stillWaiting timeCurrentMilliseconds = false)
      (attempts : c.config.uMaxAttempts ≤ c.sendCount) :
      Round timeCurrentMilliseconds c (c.withTest (t.notifyTimeout c.results))

/-- What the last round does, and returns. -/
inductive LastRound (rand : ℕ → UInt8) (stack : StunTransactionId) (spMsg : CBuffer)
    (timeCurrentMilliseconds : UInt32) (c : CStunClientLogic) :
    Except HRESULT (CBuffer × CSocketAddress) × CStunClientLogic → Prop
  /-- All tests are done. -/
  | resultsReady (none : c.testlist[c.nTestIndex]? = none) :
      LastRound rand stack spMsg timeCurrentMilliseconds c (.error E_STUNCLIENT_RESULTS_READY, c)
  /-- The request that was sent last may still be answered. -/
  | stillWaiting {t : StunClientTest} (current : c.CurrentTest t)
      (checked : c.fPreCheckRunOnTest = true) (notCompleted : t.fCompleted = false)
      (ready : t.isReadyToRun c.results = true)
      (waiting : c.stillWaiting timeCurrentMilliseconds = true) :
      LastRound rand stack spMsg timeCurrentMilliseconds c (.error E_STUNCLIENT_STILL_WAITING, c)
  /-- The test has a request to send. -/
  | message {t : StunClientTest} (current : c.CurrentTest t)
      (checked : c.fPreCheckRunOnTest = true) (notCompleted : t.fCompleted = false)
      (ready : t.isReadyToRun c.results = true)
      (late : c.stillWaiting timeCurrentMilliseconds = false)
      (attempts : c.sendCount < c.config.uMaxAttempts) :
      LastRound rand stack spMsg timeCurrentMilliseconds c
        (.ok ((t.getMessage c.config c.results rand stack spMsg).1.2,
            (t.getMessage c.config c.results rand stack spMsg).2),
          c.messageFetched timeCurrentMilliseconds
            (t.getMessage c.config c.results rand stack spMsg).1.1)

/-- A bound of the rounds that are left: two for each test, and one for a test that has
completed. -/
def roundsLeft (c : CStunClientLogic) : ℕ :=
  match c.testlist[c.nTestIndex]? with
  | none => 0
  | some t => 2 * (c.testlist.length - c.nTestIndex) - (if t.fCompleted then 1 else 0)

/-- The next test has fewer rounds left. -/
theorem roundsLeft_nextTest {c : CStunClientLogic} {t : StunClientTest} (h : c.CurrentTest t) :
    c.nextTest.roundsLeft < c.roundsLeft := by
  obtain ⟨hlt, -⟩ := List.getElem?_eq_some_iff.mp h
  unfold CurrentTest at h
  unfold roundsLeft nextTest
  simp only [h]
  split <;> split_ifs <;> omega

/-- The current test after it was replaced. -/
theorem CurrentTest.withTest {c : CStunClientLogic} {t : StunClientTest} (h : c.CurrentTest t)
    (result : StunClientTest × StunClientResults) : (c.withTest result).CurrentTest result.1 := by
  obtain ⟨hlt, -⟩ := List.getElem?_eq_some_iff.mp h
  unfold CurrentTest CStunClientLogic.withTest
  rw [List.getElem?_set_self hlt]

/-- A test that has timed out has fewer rounds left. -/
theorem roundsLeft_timeout {c : CStunClientLogic} {t : StunClientTest} (h : c.CurrentTest t)
    (hopen : t.fCompleted = false) :
    (c.withTest (t.notifyTimeout c.results)).roundsLeft < c.roundsLeft := by
  have h' := h.withTest (t.notifyTimeout c.results)
  obtain ⟨hlt, -⟩ := List.getElem?_eq_some_iff.mp h
  have hlen : (c.withTest (t.notifyTimeout c.results)).testlist.length = c.testlist.length := by
    simp [CStunClientLogic.withTest]
  unfold CurrentTest at h h'
  unfold roundsLeft
  rw [h, h', hlen]
  simp only [StunClientTest.notifyTimeout_fst, hopen]
  show 2 * (c.testlist.length - c.nTestIndex) - 1 < _
  simp only [Bool.false_eq_true, if_false]
  omega

/-- The early chance leaves no more rounds. -/
theorem roundsLeft_precheck {c : CStunClientLogic} {t : StunClientTest} (h : c.CurrentTest t)
    (hopen : t.fCompleted = true → (t.preRunCheck c.results).1.fCompleted = true) :
    ({ c.withTest (t.preRunCheck c.results) with
      fPreCheckRunOnTest := true } : CStunClientLogic).roundsLeft ≤ c.roundsLeft := by
  have h' := h.withTest (t.preRunCheck c.results)
  have hlen : (c.withTest (t.preRunCheck c.results)).testlist.length = c.testlist.length := by
    simp [CStunClientLogic.withTest]
  unfold CurrentTest at h h'
  unfold roundsLeft
  simp only [h, h', hlen]
  show 2 * (c.testlist.length - c.nTestIndex) - _ ≤ _
  split_ifs with h₁ h₂ h₂
  · exact le_rfl
  · omega
  · exact absurd (hopen h₂) h₁
  · exact le_rfl

/-- A test that has completed stays so in its early chance. -/
theorem preRunCheck_fCompleted (results : StunClientResults) (t : StunClientTest)
    (h : t.fCompleted = true) : (t.preRunCheck results).1.fCompleted = true := by
  rcases t.preRunCheck_cases results with hdone | hsame
  · rw [hdone]
  · rw [hsame]
    exact h

section Loop

variable {rand : ℕ → UInt8} {stack : StunTransactionId} {spMsg : CBuffer}
  {timeCurrentMilliseconds : UInt32}

/-- A round after the early chance either goes on with fewer rounds left, or is the last one. -/
theorem round_spec {c : CStunClientLogic} {t : StunClientTest} (h : c.CurrentTest t)
    (hchecked : c.fPreCheckRunOnTest = true) :
    (∃ c', round rand stack spMsg timeCurrentMilliseconds t c = .inl c' ∧
      Round timeCurrentMilliseconds c c' ∧ c'.roundsLeft < c.roundsLeft) ∨
    ∃ result, round rand stack spMsg timeCurrentMilliseconds t c = .inr result ∧
      LastRound rand stack spMsg timeCurrentMilliseconds c result := by
  unfold round
  split_ifs with hover hwaiting hattempts
  · refine .inl ⟨_, rfl, .next h hchecked ?_, roundsLeft_nextTest h⟩
    simpa using hover
  · simp only [Bool.or_eq_true, beq_iff_eq, not_or, Bool.not_eq_true, Bool.not_eq_false] at hover
    exact .inr ⟨_, rfl, .stillWaiting h hchecked hover.1 hover.2 hwaiting⟩
  · simp only [Bool.or_eq_true, beq_iff_eq, not_or, Bool.not_eq_true, Bool.not_eq_false] at hover
    rw [Bool.not_eq_true] at hwaiting
    exact .inl ⟨_, rfl, .timeout h hchecked hover.1 hover.2 hwaiting hattempts,
      roundsLeft_timeout h hover.1⟩
  · simp only [Bool.or_eq_true, beq_iff_eq, not_or, Bool.not_eq_true, Bool.not_eq_false] at hover
    rw [Bool.not_eq_true] at hwaiting
    exact .inr ⟨_, rfl, .message h hchecked hover.1 hover.2 hwaiting (UInt32.not_le.mp hattempts)⟩

/-- The early chance is a round, or has been. -/
theorem precheck_spec {c : CStunClientLogic} {t : StunClientTest} (h : c.CurrentTest t) :
    ∃ t' c', c.precheck t = (t', c') ∧ c'.CurrentTest t' ∧ c'.fPreCheckRunOnTest = true ∧
      Relation.ReflTransGen (Round timeCurrentMilliseconds) c c' ∧
      c'.roundsLeft ≤ c.roundsLeft := by
  unfold precheck
  split_ifs with hunchecked
  · exact ⟨_, _, rfl, h.withTest _, rfl, .single (.precheck h hunchecked),
      roundsLeft_precheck h (preRunCheck_fCompleted _ _)⟩
  · rw [Bool.not_eq_false] at hunchecked
    exact ⟨t, c, rfl, h, hunchecked, .refl, le_rfl⟩

/-- With a bound above the rounds that are left, the loop ends with a last round. -/
theorem getNextMessageLoop_spec (fuel : ℕ) (c : CStunClientLogic) (hfuel : c.roundsLeft < fuel) :
    ∃ c₁, Relation.ReflTransGen (Round timeCurrentMilliseconds) c c₁ ∧
      LastRound rand stack spMsg timeCurrentMilliseconds c₁
        (getNextMessageLoop rand stack spMsg timeCurrentMilliseconds fuel c) := by
  induction fuel generalizing c with
  | zero => omega
  | succ fuel ih =>
    unfold getNextMessageLoop
    cases h : c.testlist[c.nTestIndex]? with
    | none => exact ⟨c, .refl, .resultsReady h⟩
    | some t =>
      obtain ⟨t', c', hpre, h', hchecked, hrounds, hleft⟩ :=
        @precheck_spec timeCurrentMilliseconds c t h
      simp only [hpre]
      rcases @round_spec rand stack spMsg timeCurrentMilliseconds c' t' h' hchecked with
        ⟨c'', hround, hstep, hless⟩ | ⟨result, hround, hlast⟩
      · rw [hround]
        obtain ⟨c₁, hrest, hlast⟩ := ih c'' (by omega)
        exact ⟨c₁, (hrounds.tail hstep).trans hrest, hlast⟩
      · rw [hround]
        exact ⟨c', hrounds, hlast⟩

/-- A call of `GetNextMessage` on a client that is initialized, with a buffer of the expected size,
is some rounds and a last one. -/
theorem getNextMessage_cases {c : CStunClientLogic} (hinit : c.fInitialized = true)
    (hbuf : MAX_STUN_MESSAGE_SIZE ≤ spMsg.getAllocatedSize) :
    ∃ c₁, Relation.ReflTransGen (Round timeCurrentMilliseconds) c c₁ ∧
      LastRound rand stack spMsg timeCurrentMilliseconds c₁
        (c.getNextMessage rand stack spMsg timeCurrentMilliseconds) := by
  unfold getNextMessage
  rw [if_neg (by simp [hinit]), if_neg (not_lt.mpr hbuf)]
  apply getNextMessageLoop_spec
  unfold roundsLeft
  split
  · exact Nat.succ_pos _
  · split_ifs <;> omega

end Loop

/-! ## `ProcessResponse` -/

/-- `ProcessResponse`, with the state that it leaves. -/
def processResponse (spMsg : List UInt8) (addrLocal : CSocketAddress) :
    Fallible CStunClientLogic Unit := fun c =>
  if c.fInitialized = false then .error E_FAIL c
  else if spMsg.length = 0 then .error E_INVALIDARG c
  else
    match c.testlist[c.nTestIndex]? with
    | none => .error E_UNEXPECTED c
    | some pCurrentTest =>
      if pCurrentTest.fCompleted then .error E_UNEXPECTED c
      else
        match pCurrentTest.processResponse c.config c.results spMsg addrLocal with
        | .error hr => .error hr c
        | .ok result => .ok () (c.withTest result)

end CStunClientLogic

end Stun
