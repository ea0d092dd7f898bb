import StunForAndroid.Lib.Trace
import StunForAndroid.StunCore.ClientExchange

/-!
# Retransmission

`GetNextMessage` again, with a trace of what it does: the early chances of the tests, the requests
with the times at which they are sent, the timeouts, and the steps to the next test. Without the
trace it is the function of the client (`runTraced_client`).

`Discipline` says what the trace looks like in every run, whatever the times and the responses are
(`retransmission_disciplined`).
-/

namespace Stun

open CStunClientLogic Trace

/-- What the client does. -/
inductive ClientEvent where
  /-- `PreRunCheck` of a test. -/
  | preRunCheck (test : ℕ)
  /-- A request of a test is handed to the caller. -/
  | sends (test : ℕ) (timeCurrentMilliseconds : UInt32) (octets : List UInt8)
  /-- `NotifyTimeout` of a test. -/
  | timesOut (test : ℕ) (timeCurrentMilliseconds : UInt32)
  /-- The client goes on from a test to the next one. -/
  | leaves (test : ℕ)
deriving DecidableEq

namespace ClientEvent

/-- The index of the test. -/
def test : ClientEvent → ℕ
  | preRunCheck i => i
  | sends i _ _ => i
  | timesOut i _ => i
  | leaves i => i

/-- The test whose `PreRunCheck` runs. -/
def checked? : ClientEvent → Option ℕ
  | preRunCheck i => some i
  | _ => none

/-- The test that is left. -/
def left? : ClientEvent → Option ℕ
  | leaves i => some i
  | _ => none

/-- The time and the octets of a request of a test. -/
def request? (i : ℕ) : ClientEvent → Option (UInt32 × List UInt8)
  | sends j time octets => if j = i then some (time, octets) else none
  | _ => none

end ClientEvent

/-- What a client has done. -/
abbrev ClientTrace : Type := List ClientEvent

namespace ClientTrace

/-- The tests whose `PreRunCheck` has run. -/
def checks (trace : ClientTrace) : List ℕ := trace.filterMap ClientEvent.checked?

/-- The tests that were left. -/
def leavings (trace : ClientTrace) : List ℕ := trace.filterMap ClientEvent.left?

/-- The requests of a test. -/
def requests (i : ℕ) (trace : ClientTrace) : List (UInt32 × List UInt8) :=
  trace.filterMap (ClientEvent.request? i)

/-- The times of the requests of a test. -/
def times (i : ℕ) (trace : ClientTrace) : List UInt32 := (trace.requests i).map Prod.fst

end ClientTrace

/-! ## The functions with a trace -/

namespace CStunClientLogic

section Traced

variable (rand : ℕ → UInt8) (stack : StunTransactionId) (spMsg : CBuffer)
  (timeCurrentMilliseconds : UInt32)

/-- What is done of the early chance. -/
def precheckTrace (c : CStunClientLogic) : ClientTrace :=
  if c.fPreCheckRunOnTest = false then [.preRunCheck c.nTestIndex] else []

/-- What a round of the loop does after the early chance. -/
def roundTrace (pCurrentTest : StunClientTest) (c : CStunClientLogic) : ClientTrace :=
  if pCurrentTest.fCompleted || pCurrentTest.isReadyToRun c.results == false then
    [.leaves c.nTestIndex]
  else if c.stillWaiting timeCurrentMilliseconds then []
  else if c.sendCount ≥ c.config.uMaxAttempts then [.timesOut c.nTestIndex timeCurrentMilliseconds]
  else [.sends c.nTestIndex timeCurrentMilliseconds
    (pCurrentTest.getMessage c.config c.results rand stack spMsg).1.2.contents]

/-- The loop of `GetNextMessage`. -/
def getNextMessageLoopTraced : ℕ → ClientTrace → CStunClientLogic →
    (Except HRESULT (CBuffer × CSocketAddress) × CStunClientLogic) × ClientTrace
  | 0, trace, c => ((.error E_UNEXPECTED, c), trace)
  | fuel + 1, trace, c =>
    match c.testlist[c.nTestIndex]? with
    | none => ((.error E_STUNCLIENT_RESULTS_READY, c), trace)
    | some pCurrentTest =>
      let trace := trace ++ c.precheckTrace
      let (pCurrentTest, c) := c.precheck pCurrentTest
      let trace := trace ++ c.roundTrace rand stack spMsg timeCurrentMilliseconds pCurrentTest
      match round rand stack spMsg timeCurrentMilliseconds pCurrentTest c with
      | .inl c => getNextMessageLoopTraced fuel trace c
      | .inr result => (result, trace)

/-- `GetNextMessage`. -/
def getNextMessageTraced (trace : ClientTrace) (c : CStunClientLogic) :
    (Except HRESULT (CBuffer × CSocketAddress) × CStunClientLogic) × ClientTrace :=
  if c.fInitialized = false then ((.error E_FAIL, c), trace)
  else if spMsg.getAllocatedSize < MAX_STUN_MESSAGE_SIZE then ((.error E_INVALIDARG, c), trace)
  else getNextMessageLoopTraced rand stack spMsg timeCurrentMilliseconds (2 * c.testlist.length + 1)
    trace c

/-- Without the trace the loop is the loop. -/
theorem getNextMessageLoopTraced_fst (fuel : ℕ) (trace : ClientTrace) (c : CStunClientLogic) :
    (getNextMessageLoopTraced rand stack spMsg timeCurrentMilliseconds fuel trace c).1 =
      getNextMessageLoop rand stack spMsg timeCurrentMilliseconds fuel c := by
  induction fuel generalizing trace c with
  | zero => rfl
  | succ fuel ih =>
    unfold getNextMessageLoopTraced getNextMessageLoop
    cases c.testlist[c.nTestIndex]? with
    | none => rfl
    | some t =>
      dsimp only
      cases round rand stack spMsg timeCurrentMilliseconds (c.precheck t).1 (c.precheck t).2 with
      | inl c' => exact ih _ c'
      | inr result => rfl

/-- Without the trace a call of `GetNextMessage` is one. -/
theorem getNextMessageTraced_fst (trace : ClientTrace) (c : CStunClientLogic) :
    (getNextMessageTraced rand stack spMsg timeCurrentMilliseconds trace c).1 =
      c.getNextMessage rand stack spMsg timeCurrentMilliseconds := by
  unfold getNextMessageTraced getNextMessage
  split_ifs
  · rfl
  · rfl
  · exact getNextMessageLoopTraced_fst rand stack spMsg timeCurrentMilliseconds _ trace c

end Traced

end CStunClientLogic

/-- A call to the client. -/
inductive ClientCall where
  | getNextMessage (rand : ℕ → UInt8) (stack : StunTransactionId) (spMsg : CBuffer)
    (timeCurrentMilliseconds : UInt32)
  | processResponse (d : Datagram)

/-- The client after a call. -/
def ClientCall.apply (c : CStunClientLogic) : ClientCall → CStunClientLogic
  | getNextMessage rand stack spMsg timeCurrentMilliseconds =>
    (c.getNextMessage rand stack spMsg timeCurrentMilliseconds).2
  | processResponse d =>
    Fallible.finalState (CStunClientLogic.processResponse d.octets d.addrLocal) c

/-- The client after calls, with the trace of what it has done. -/
def runTraced (calls : List ClientCall) (trace : ClientTrace) (c : CStunClientLogic) :
    CStunClientLogic × ClientTrace :=
  match calls with
  | [] => (c, trace)
  | .getNextMessage rand stack spMsg timeCurrentMilliseconds :: calls =>
    let result := c.getNextMessageTraced rand stack spMsg timeCurrentMilliseconds trace
    runTraced calls result.2 result.1.2
  | .processResponse d :: calls => runTraced calls trace ((ClientCall.processResponse d).apply c)

/-- Without the trace the calls are made one after the other. -/
theorem runTraced_client (calls : List ClientCall) (trace : ClientTrace) (c : CStunClientLogic) :
    (runTraced calls trace c).1 = calls.foldl ClientCall.apply c := by
  induction calls generalizing trace c with
  | nil => rfl
  | cons call calls ih =>
    cases call with
    | getNextMessage rand stack spMsg time =>
      unfold runTraced
      rw [ih, getNextMessageTraced_fst]
      rfl
    | processResponse d => exact ih trace _

/-! ## What a call adds to the trace -/

namespace CStunClientLogic

/-- A step of a call of `GetNextMessage`, and what it adds to the trace. -/
inductive Act (timeCurrentMilliseconds : UInt32) :
    CStunClientLogic × ClientTrace → CStunClientLogic × ClientTrace → Prop
  /-- The test has had its early chance. -/
  | precheck {c : CStunClientLogic} {trace : ClientTrace} {t : StunClientTest}
      (current : c.CurrentTest t) (unchecked : c.fPreCheckRunOnTest = false) :
      Act timeCurrentMilliseconds (c, trace)
        ({ c.withTest (t.preRunCheck c.results) with fPreCheckRunOnTest := true },
          trace ++ [.preRunCheck c.nTestIndex])
  /-- The test has completed, or cannot run. -/
  | next {c : CStunClientLogic} {trace : ClientTrace} {t : StunClientTest}
      (current : c.CurrentTest t) (checked : c.fPreCheckRunOnTest = true)
      (ended : t.fCompleted = true ∨ t.isReadyToRun c.results = false) :
      Act timeCurrentMilliseconds (c, trace) (c.nextTest, trace ++ [.leaves c.nTestIndex])
  /-- The test has timed out. -/
  | timeout {c : CStunClientLogic} {trace : ClientTrace} {t : StunClientTest}
      (current : c.CurrentTest t) (checked : c.fPreCheckRunOnTest = true)
      (notCompleted : t.fCompleted = false) (ready : t.isReadyToRun c.results = true)
      (late : c.stillWaiting timeCurrentMilliseconds = false)
      (attempts : c.config.uMaxAttempts ≤ c.sendCount) :
      Act timeCurrentMilliseconds (c, trace)
        (c.withTest (t.notifyTimeout c.results),
          trace ++ [.timesOut c.nTestIndex timeCurrentMilliseconds])
  /-- The test has a request to send. -/
  | message {c : CStunClientLogic} {trace : ClientTrace} {t : StunClientTest} {rand : ℕ → UInt8}
      {stack : StunTransactionId} {spMsg : CBuffer} (current : c.CurrentTest t)
      (checked : c.fPreCheckRunOnTest = true) (notCompleted : t.fCompleted = false)
      (size : MAX_STUN_MESSAGE_SIZE ≤ spMsg.getAllocatedSize)
      (late : c.stillWaiting timeCurrentMilliseconds = false)
      (attempts : c.sendCount < c.config.uMaxAttempts) :
      Act timeCurrentMilliseconds (c, trace)
        (c.messageFetched timeCurrentMilliseconds
            (t.getMessage c.config c.results rand stack spMsg).1.1,
          trace ++ [.sends c.nTestIndex timeCurrentMilliseconds
            (t.getMessage c.config c.results rand stack spMsg).1.2.contents])

/-- A call makes steps of the client only. -/
theorem Act.keeps {time : UInt32} {c c' : CStunClientLogic} {trace trace' : ClientTrace}
    (h : Act time (c, trace) (c', trace')) : Keeps c c' := by
  cases h with
  | precheck hcurrent hunchecked =>
    have hround : Round time c _ := .precheck hcurrent hunchecked
    exact Step.keeps (.round hround)
  | next hcurrent hchecked hended =>
    have hround : Round time c _ := .next hcurrent hchecked hended
    exact Step.keeps (.round hround)
  | timeout hcurrent hchecked hopen hready hlate hattempts =>
    exact Step.keeps (.round (.timeout hcurrent hchecked hopen hready hlate hattempts))
  | message hcurrent _ hopen hsize _ _ => exact Step.keeps (.message hcurrent hopen hsize)

section Acts

variable {rand : ℕ → UInt8} {stack : StunTransactionId} {spMsg : CBuffer}
  {timeCurrentMilliseconds : UInt32}

/-- The early chance adds to the trace what it is. -/
theorem precheck_acts {c : CStunClientLogic} {t : StunClientTest} (h : c.CurrentTest t)
    (trace : ClientTrace) :
    Relation.ReflTransGen (Act timeCurrentMilliseconds) (c, trace)
      ((c.precheck t).2, trace ++ c.precheckTrace) := by
  unfold precheck precheckTrace
  split_ifs with hunchecked
  · exact .single (.precheck h hunchecked)
  · rw [List.append_nil]

/-- A round after the early chance adds to the trace what it is. -/
theorem round_acts {c : CStunClientLogic} {t : StunClientTest} (h : c.CurrentTest t)
    (hchecked : c.fPreCheckRunOnTest = true) (hbuf : MAX_STUN_MESSAGE_SIZE ≤ spMsg.getAllocatedSize)
    (trace : ClientTrace) :
    Relation.ReflTransGen (Act timeCurrentMilliseconds) (c, trace)
      (match round rand stack spMsg timeCurrentMilliseconds t c with
        | .inl c' => c'
        | .inr result => result.2,
        trace ++ c.roundTrace rand stack spMsg timeCurrentMilliseconds t) := by
  unfold round roundTrace
  split_ifs with hover hwaiting hattempts
  · refine .single (.next h hchecked ?_)
    simpa using hover
  · rw [List.append_nil]
  · simp only [Bool.or_eq_true, beq_iff_eq, not_or, Bool.not_eq_true, Bool.not_eq_false] at hover
    rw [Bool.not_eq_true] at hwaiting
    exact .single (.timeout h hchecked hover.1 hover.2 hwaiting hattempts)
  · simp only [Bool.or_eq_true, beq_iff_eq, not_or, Bool.not_eq_true, Bool.not_eq_false] at hover
    rw [Bool.not_eq_true] at hwaiting
    exact .single (.message h hchecked hover.1 hbuf hwaiting (UInt32.not_le.mp hattempts))

/-- The loop adds to the trace what it does. -/
theorem getNextMessageLoopTraced_acts (hbuf : MAX_STUN_MESSAGE_SIZE ≤ spMsg.getAllocatedSize)
    (fuel : ℕ) (trace : ClientTrace) (c : CStunClientLogic) :
    let result := getNextMessageLoopTraced rand stack spMsg timeCurrentMilliseconds fuel trace c
    Relation.ReflTransGen (Act timeCurrentMilliseconds) (c, trace) (result.1.2, result.2) := by
  induction fuel generalizing trace c with
  | zero => exact .refl
  | succ fuel ih =>
    unfold getNextMessageLoopTraced
    cases h : c.testlist[c.nTestIndex]? with
    | none => exact .refl
    | some t =>
      obtain ⟨t', c', hpre, h', hchecked, -, -⟩ := @precheck_spec timeCurrentMilliseconds c t h
      have hearly := @precheck_acts timeCurrentMilliseconds c t h trace
      rw [hpre] at hearly
      have hround := @round_acts rand stack spMsg timeCurrentMilliseconds c' t' h' hchecked hbuf
        (trace ++ c.precheckTrace)
      dsimp only
      rw [hpre]
      dsimp only
      cases hresult : round rand stack spMsg timeCurrentMilliseconds t' c' with
      | inl c'' =>
        rw [hresult] at hround
        exact (hearly.trans hround).trans (ih _ c'')
      | inr result =>
        rw [hresult] at hround
        exact hearly.trans hround

/-- A call of `GetNextMessage` adds to the trace what it does. -/
theorem getNextMessageTraced_acts (trace : ClientTrace) (c : CStunClientLogic) :
    let result := c.getNextMessageTraced rand stack spMsg timeCurrentMilliseconds trace
    Relation.ReflTransGen (Act timeCurrentMilliseconds) (c, trace) (result.1.2, result.2) := by
  unfold getNextMessageTraced
  split_ifs with hinit hbuf
  · exact .refl
  · exact .refl
  · exact getNextMessageLoopTraced_acts (not_lt.mp hbuf) _ trace c

end Acts

end CStunClientLogic

/-! ## The discipline -/

/-- How long the client waits for a response, in milliseconds. -/
def StunClientLogicConfig.timeoutMilliseconds (config : StunClientLogicConfig) : ℕ :=
  config.timeoutSeconds.toNat * 1000

/-- The discipline of a trace, for a configuration that has its defaults filled in. -/
structure Discipline (config : StunClientLogicConfig) (trace : ClientTrace) : Prop where
  /-- `PreRunCheck` runs once for each test, in the order of the list. -/
  checked : ∃ n, trace.checks = List.range n
  /-- The tests are taken in the order of the list. -/
  ordered : (trace.map ClientEvent.test).Pairwise (· ≤ ·)
  /-- Whatever else is done for a test is done after its `PreRunCheck`. -/
  checkedFirst : Each (fun before e => e ≠ .preRunCheck e.test → .preRunCheck e.test ∈ before) trace
  /-- A test is begun when all tests before it were left, and nothing is done for one that was
  left. -/
  leftFirst : Each (fun before e => ∀ i, .leaves i ∈ before ↔ i < e.test) trace
  /-- A test sends no more than the allowed number of requests. -/
  attempts : ∀ i, (trace.requests i).length ≤ config.uMaxAttempts.toNat
  /-- The requests of a test are the same octets, with one transaction id. -/
  identical : ∀ i, ∃ transid change, ∀ request ∈ trace.requests i,
    request.2 = (requestDraft transid change).octets
  /-- A full timeout passes from each request of a test to the next one. -/
  paced : ∀ i, Paced config.timeoutMilliseconds (trace.times i)
  /-- A test times out after all its requests, when another full timeout has passed. -/
  timesOut : Each (fun before e => ∀ i time, e = .timesOut i time →
    (ClientTrace.requests i before).length = config.uMaxAttempts.toNat ∧
      ∃ last, (ClientTrace.times i before).getLast? = some last ∧
        config.timeoutMilliseconds ≤ (time - last).toNat) trace

namespace ClientTrace

variable {trace : ClientTrace} {e : ClientEvent}

/-- One more entry of the trace adds the test that it has checked, if any. -/
theorem checks_concat : checks (trace ++ [e]) = trace.checks ++ e.checked?.toList := by
  unfold checks
  rw [List.filterMap_append]
  cases h : e.checked? <;> simp [h]

/-- One more entry of the trace adds the test that it has left, if any. -/
theorem leavings_concat : leavings (trace ++ [e]) = trace.leavings ++ e.left?.toList := by
  unfold leavings
  rw [List.filterMap_append]
  cases h : e.left? <;> simp [h]

/-- One more entry of the trace adds the request that it has of the test, if any. -/
theorem requests_concat (i : ℕ) :
    requests i (trace ++ [e]) = trace.requests i ++ (e.request? i).toList := by
  unfold requests
  rw [List.filterMap_append]
  cases h : e.request? i <;> simp [h]

/-- One more entry of the trace adds the time of the request that it has of the test, if any. -/
theorem times_concat (i : ℕ) :
    times i (trace ++ [e]) = trace.times i ++ ((e.request? i).map Prod.fst).toList := by
  unfold times
  rw [requests_concat, List.map_append]
  cases e.request? i <;> rfl

/-- An entry that is no request of a test leaves its requests as they are. -/
theorem requests_concat_of_none {i : ℕ} (h : e.request? i = none) :
    requests i (trace ++ [e]) = trace.requests i := by
  rw [requests_concat, h]
  exact List.append_nil _

/-- An entry that is no request of a test leaves their times as they are. -/
theorem times_concat_of_none {i : ℕ} (h : e.request? i = none) :
    times i (trace ++ [e]) = trace.times i := by
  unfold times
  rw [requests_concat_of_none h]

/-- A test was checked when its check is in the trace. -/
theorem mem_checks {i : ℕ} : i ∈ trace.checks ↔ .preRunCheck i ∈ trace := by
  unfold checks
  rw [List.mem_filterMap]
  constructor
  · rintro ⟨e, he, hi⟩
    cases e <;> simp_all [ClientEvent.checked?]
  · exact fun h => ⟨_, h, rfl⟩

/-- A test was left when its leaving is in the trace. -/
theorem mem_leavings {i : ℕ} : i ∈ trace.leavings ↔ .leaves i ∈ trace := by
  unfold leavings
  rw [List.mem_filterMap]
  constructor
  · rintro ⟨e, he, hi⟩
    cases e <;> simp_all [ClientEvent.left?]
  · exact fun h => ⟨_, h, rfl⟩

/-- A test of which there is nothing in the trace has no requests in it. -/
theorem requests_eq_nil {i : ℕ} (h : ∀ e ∈ trace, e.test ≠ i) : trace.requests i = [] := by
  unfold requests
  rw [List.filterMap_eq_nil_iff]
  intro e he
  have htest := h e he
  cases e with
  | sends j time octets => exact if_neg htest
  | preRunCheck j => rfl
  | timesOut j time => rfl
  | leaves j => rfl

end ClientTrace

namespace CStunClientLogic

/-- The number of tests that have had their early chance. -/
def begun (c : CStunClientLogic) : ℕ :=
  if c.fPreCheckRunOnTest then c.nTestIndex + 1 else c.nTestIndex

/-- The client has done what the trace says, with discipline. -/
structure Accounts (c : CStunClientLogic) (trace : ClientTrace) : Prop where
  discipline : Discipline c.config trace
  attempts_ne : c.config.uMaxAttempts ≠ 0
  checks_eq : trace.checks = List.range c.begun
  leavings_eq : trace.leavings = List.range c.nTestIndex
  within : ∀ e ∈ trace, e.test < c.begun
  count : (trace.requests c.nTestIndex).length = c.sendCount.toNat
  last : ∀ last ∈ (trace.times c.nTestIndex).getLast?, last = c.timeLastMessageSent
  /-- The requests of a test are those that it would send now. -/
  octets : ∀ i, ∀ request ∈ trace.requests i, ∃ t, c.testlist[i]? = some t ∧
    isTransactionIdValid t.transid = true ∧
    request.2 = (requestDraft t.transid t.changeOf).octets

/-- When the client no longer waits for a response to a request, a full timeout has passed. -/
theorem timeout_le_of_late {c : CStunClientLogic} {time : UInt32}
    (h : c.stillWaiting time = false) (hsent : c.sendCount ≠ 0) :
    c.config.timeoutMilliseconds ≤ (time - c.timeLastMessageSent).toNat := by
  unfold stillWaiting at h
  have hdiff : ¬(time - c.timeLastMessageSent) / 1000 < c.config.timeoutSeconds := by
    simpa [hsent] using h
  rw [UInt32.not_lt, UInt32.le_iff_toNat_le, UInt32.toNat_div] at hdiff
  have hthousand : (1000 : UInt32).toNat = 1000 := rfl
  rw [hthousand] at hdiff
  unfold StunClientLogicConfig.timeoutMilliseconds
  omega

/-- A test that has sent a request has sent it at some time, and no other is the current one. -/
theorem Accounts.late {c : CStunClientLogic} {trace : ClientTrace} (h : c.Accounts trace)
    {time : UInt32} (hlate : c.stillWaiting time = false) :
    ∀ last ∈ (trace.times c.nTestIndex).getLast?,
      c.config.timeoutMilliseconds ≤ (time - last).toNat := by
  intro last hlast
  have hsent : c.sendCount ≠ 0 := by
    intro h0
    have hnil : trace.requests c.nTestIndex = [] := by
      rw [← List.length_eq_zero_iff, h.count, h0]
      rfl
    unfold ClientTrace.times at hlast
    rw [hnil] at hlast
    cases hlast
  rw [h.last last hlast]
  exact timeout_le_of_late hlate hsent

/-- A client that has made all attempts and no longer waits has waited for a full timeout after the
last one. -/
theorem Accounts.exhausted {c : CStunClientLogic} {trace : ClientTrace} (h : c.Accounts trace)
    {time : UInt32} (hlate : c.stillWaiting time = false)
    (hattempts : c.config.uMaxAttempts ≤ c.sendCount) :
    (trace.requests c.nTestIndex).length = c.config.uMaxAttempts.toNat ∧
      ∃ last, (trace.times c.nTestIndex).getLast? = some last ∧
        c.config.timeoutMilliseconds ≤ (time - last).toNat := by
  have hlength : (trace.requests c.nTestIndex).length = c.config.uMaxAttempts.toNat := by
    have hle := h.discipline.attempts c.nTestIndex
    have hge := UInt32.le_iff_toNat_le.mp hattempts
    have hcount := h.count
    omega
  -- There is at least one attempt, and so a last one.
  have hne : trace.times c.nTestIndex ≠ [] := by
    intro hnil
    have hzero : (trace.times c.nTestIndex).length = 0 := by rw [hnil]; rfl
    unfold ClientTrace.times at hzero
    rw [List.length_map, hlength] at hzero
    exact h.attempts_ne (UInt32.toNat_inj.mp hzero)
  exact ⟨hlength, _, List.getLast?_eq_some_getLast hne,
    h.late hlate _ (List.getLast?_eq_some_getLast hne)⟩

/-- After its early chance the current test is begun. -/
theorem begun_of_checked {c : CStunClientLogic} (h : c.fPreCheckRunOnTest = true) :
    c.begun = c.nTestIndex + 1 := by
  unfold begun
  rw [h]
  rfl

/-- Before its early chance the current test is not begun. -/
theorem begun_of_unchecked {c : CStunClientLogic} (h : c.fPreCheckRunOnTest = false) :
    c.begun = c.nTestIndex := by
  unfold begun
  rw [h]
  rfl

/-- What is added for a test that is begun is an entry of a test that is begun. -/
theorem Accounts.within_concat {c : CStunClientLogic} {trace : ClientTrace} {e : ClientEvent}
    (h : c.Accounts trace) (hchecked : c.fPreCheckRunOnTest = true) (he : e.test = c.nTestIndex) :
    ∀ e' ∈ trace ++ [e], e'.test < c.begun := by
  intro e' hmem
  rcases List.mem_append.mp hmem with hold | hnew
  · exact h.within e' hold
  · obtain rfl := List.mem_singleton.mp hnew
    rw [he, begun_of_checked hchecked]
    exact Nat.lt_succ_self _

/-- What a client may add to its trace. -/
structure Adds (c : CStunClientLogic) (e : ClientEvent) : Prop where
  test : e.test = c.nTestIndex
  check : e.checked? = if c.fPreCheckRunOnTest then none else some c.nTestIndex
  request : ∀ request, e.request? c.nTestIndex = some request →
    c.stillWaiting request.1 = false ∧ c.sendCount < c.config.uMaxAttempts
  timesOut : ∀ i time, e = .timesOut i time →
    c.stillWaiting time = false ∧ c.config.uMaxAttempts ≤ c.sendCount

/-- A request is one of the test of the entry. -/
theorem request?_eq_some {e : ClientEvent} {i : ℕ} {request : UInt32 × List UInt8}
    (h : e.request? i = some request) : i = e.test := by
  cases e with
  | sends j time octets =>
    simp only [ClientEvent.request?] at h
    split_ifs at h with hj
    exact hj.symm
  | preRunCheck j => cases h
  | timesOut j time => cases h
  | leaves j => cases h

/-- What the client adds keeps the discipline. -/
theorem Accounts.concat {c : CStunClientLogic} {trace : ClientTrace} {e : ClientEvent}
    (h : c.Accounts trace) (he : c.Adds e)
    (hsame : ∀ i, ∃ transid change, ∀ request ∈ ClientTrace.requests i (trace ++ [e]),
      request.2 = (requestDraft transid change).octets) : Discipline c.config (trace ++ [e]) where
  checked := by
    rw [ClientTrace.checks_concat, h.checks_eq, he.check]
    unfold begun
    cases c.fPreCheckRunOnTest with
    | true => exact ⟨c.nTestIndex + 1, List.append_nil _⟩
    | false => exact ⟨c.nTestIndex + 1, List.range_succ.symm⟩
  ordered := by
    rw [List.map_append, List.pairwise_append]
    refine ⟨h.discipline.ordered, List.pairwise_singleton _ _, ?_⟩
    intro i hi j hj
    obtain ⟨e', he', rfl⟩ := List.mem_map.mp hi
    obtain rfl : j = e.test := List.mem_singleton.mp hj
    have hwithin := h.within e' he'
    rw [he.test]
    unfold begun at hwithin
    split_ifs at hwithin <;> omega
  checkedFirst := by
    refine each_concat.mpr ⟨h.discipline.checkedFirst, fun hne => ?_⟩
    rw [← ClientTrace.mem_checks, h.checks_eq, List.mem_range, he.test]
    have hcheck := he.check
    unfold begun
    cases hflag : c.fPreCheckRunOnTest with
    | true => exact Nat.lt_succ_self _
    | false =>
      -- Only `PreRunCheck` comes before `PreRunCheck`.
      rw [hflag] at hcheck
      cases e with
      | preRunCheck i => exact absurd rfl hne
      | sends i time octets => cases hcheck
      | timesOut i time => cases hcheck
      | leaves i => cases hcheck
  leftFirst := by
    refine each_concat.mpr ⟨h.discipline.leftFirst, fun i => ?_⟩
    rw [← ClientTrace.mem_leavings, h.leavings_eq, List.mem_range, he.test]
  attempts i := by
    rw [ClientTrace.requests_concat]
    cases hrequest : e.request? i with
    | none => simpa using h.discipline.attempts i
    | some request =>
      obtain rfl : i = c.nTestIndex := (request?_eq_some hrequest).trans he.test
      have hless := UInt32.lt_iff_toNat_lt.mp (he.request request hrequest).2
      rw [List.length_append, h.count]
      exact hless
  identical := hsame
  paced i := by
    rw [ClientTrace.times_concat]
    cases hrequest : e.request? i with
    | none => simpa using h.discipline.paced i
    | some request =>
      obtain rfl : i = c.nTestIndex := (request?_eq_some hrequest).trans he.test
      exact paced_concat.mpr ⟨h.discipline.paced _, h.late (he.request request hrequest).1⟩
  timesOut := by
    refine each_concat.mpr ⟨h.discipline.timesOut, ?_⟩
    rintro i time rfl
    obtain rfl : i = c.nTestIndex := he.test
    obtain ⟨hlate, hattempts⟩ := he.timesOut _ time rfl
    exact h.exhausted hlate hattempts

/-- Requests that the tests would send now are, for each test, the same octets. -/
theorem identical_of_octets {c : CStunClientLogic} {trace : ClientTrace}
    (h : ∀ i, ∀ request ∈ trace.requests i, ∃ t, c.testlist[i]? = some t ∧
      isTransactionIdValid t.transid = true ∧
      request.2 = (requestDraft t.transid t.changeOf).octets) (i : ℕ) :
    ∃ transid change, ∀ request ∈ trace.requests i,
      request.2 = (requestDraft transid change).octets := by
  cases htest : c.testlist[i]? with
  | none =>
    refine ⟨StunTransactionId.zero, {}, fun request hrequest => ?_⟩
    obtain ⟨t, ht, -⟩ := h i request hrequest
    rw [htest] at ht
    cases ht
  | some t =>
    refine ⟨t.transid, t.changeOf, fun request hrequest => ?_⟩
    obtain ⟨t', ht', -, hoctets⟩ := h i request hrequest
    rw [htest] at ht'
    cases ht'
    exact hoctets

/-- Every step keeps what a test would send, once it has sent a request. -/
theorem Accounts.octets_keeps {c c' : CStunClientLogic} {trace : ClientTrace}
    (h : c.Accounts trace) (hkeeps : Keeps c c') :
    ∀ i, ∀ request ∈ trace.requests i, ∃ t, c'.testlist[i]? = some t ∧
      isTransactionIdValid t.transid = true ∧
      request.2 = (requestDraft t.transid t.changeOf).octets := by
  intro i request hrequest
  obtain ⟨t, ht, hvalid, hoctets⟩ := h.octets i request hrequest
  obtain ⟨t', ht', hkind, htransid⟩ := hkeeps.transid i t ht hvalid
  have hchange : t'.changeOf = t.changeOf := by
    unfold StunClientTest.changeOf
    rw [hkind]
  exact ⟨t', ht', htransid ▸ hvalid, by rw [hoctets, htransid, hchange]⟩

/-- A response that is accepted changes nothing of the account. -/
theorem Accounts.withTest {c : CStunClientLogic} {trace : ClientTrace} (h : c.Accounts trace)
    {result : StunClientTest × StunClientResults} (hkeeps : Keeps c (c.withTest result)) :
    (c.withTest result).Accounts trace where
  discipline := h.discipline
  attempts_ne := h.attempts_ne
  checks_eq := h.checks_eq
  leavings_eq := h.leavings_eq
  within := h.within
  count := h.count
  last := h.last
  octets := h.octets_keeps hkeeps

/-- The octets of the requests stay those of their tests when an entry without a request is added.
-/
theorem Accounts.octets_concat {c c' : CStunClientLogic} {trace : ClientTrace} {e : ClientEvent}
    (h : c.Accounts trace) (hkeeps : Keeps c c') (he : ∀ i, e.request? i = none) :
    ∀ i, ∀ request ∈ ClientTrace.requests i (trace ++ [e]), ∃ t, c'.testlist[i]? = some t ∧
      isTransactionIdValid t.transid = true ∧
      request.2 = (requestDraft t.transid t.changeOf).octets := by
  intro i request hrequest
  rw [ClientTrace.requests_concat_of_none (he i)] at hrequest
  exact h.octets_keeps hkeeps i request hrequest

/-- The early chance is accounted for. -/
theorem Accounts.precheck {c : CStunClientLogic} {trace : ClientTrace} (h : c.Accounts trace)
    (hunchecked : c.fPreCheckRunOnTest = false) {result : StunClientTest × StunClientResults}
    (hkeeps : Keeps c { c.withTest result with fPreCheckRunOnTest := true }) :
    ({ c.withTest result with fPreCheckRunOnTest := true } : CStunClientLogic).Accounts
      (trace ++ [.preRunCheck c.nTestIndex]) := by
  have hoctets := h.octets_concat (e := .preRunCheck c.nTestIndex) hkeeps fun _ => rfl
  -- The check is the first thing of its test, and sends nothing.
  have hbegun := begun_of_unchecked hunchecked
  have hadds : c.Adds (.preRunCheck c.nTestIndex) :=
    ⟨rfl, by rw [hunchecked]; rfl, fun _ hrequest => (Option.some_ne_none _ hrequest.symm).elim,
      fun _ _ htimeout => by cases htimeout⟩
  exact {
    discipline := h.concat hadds (identical_of_octets hoctets)
    attempts_ne := h.attempts_ne
    checks_eq := by
      rw [ClientTrace.checks_concat, h.checks_eq, hbegun]
      exact List.range_succ.symm
    leavings_eq := by
      rw [ClientTrace.leavings_concat, h.leavings_eq]
      exact List.append_nil _
    within := by
      intro e he
      rcases List.mem_append.mp he with he | he
      · have hlt := h.within e he
        rw [hbegun] at hlt
        exact hlt.trans (Nat.lt_succ_self _)
      · obtain rfl := List.mem_singleton.mp he
        exact Nat.lt_succ_self _
    count := by
      rw [ClientTrace.requests_concat_of_none rfl]
      exact h.count
    last := by
      rw [ClientTrace.times_concat_of_none rfl]
      exact h.last
    octets := hoctets }

/-- The step to the next test is accounted for. -/
theorem Accounts.next {c : CStunClientLogic} {trace : ClientTrace} (h : c.Accounts trace)
    (hchecked : c.fPreCheckRunOnTest = true) (hkeeps : Keeps c c.nextTest) :
    c.nextTest.Accounts (trace ++ [.leaves c.nTestIndex]) := by
  have hoctets := h.octets_concat (e := .leaves c.nTestIndex) hkeeps fun _ => rfl
  have hbegun := begun_of_checked hchecked
  have hadds : c.Adds (.leaves c.nTestIndex) :=
    ⟨rfl, by rw [hchecked]; rfl, fun _ hrequest => (Option.some_ne_none _ hrequest.symm).elim,
      fun _ _ htimeout => by cases htimeout⟩
  have hwithin : ∀ e ∈ trace ++ [ClientEvent.leaves c.nTestIndex], e.test < c.nTestIndex + 1 := by
    rw [← hbegun]
    exact h.within_concat hchecked rfl
  -- Nothing was done for the next test yet.
  have hnone : ClientTrace.requests (c.nTestIndex + 1) (trace ++ [.leaves c.nTestIndex]) = [] :=
    ClientTrace.requests_eq_nil fun e he => Nat.ne_of_lt (hwithin e he)
  exact {
    discipline := h.concat hadds (identical_of_octets hoctets)
    attempts_ne := h.attempts_ne
    checks_eq := by
      rw [ClientTrace.checks_concat, h.checks_eq, hbegun]
      exact List.append_nil _
    leavings_eq := by
      rw [ClientTrace.leavings_concat, h.leavings_eq]
      exact List.range_succ.symm
    within := hwithin
    count := by
      show (ClientTrace.requests (c.nTestIndex + 1) _).length = 0
      rw [hnone]
      rfl
    last := by
      show ∀ last ∈ (ClientTrace.times (c.nTestIndex + 1) _).getLast?, _
      unfold ClientTrace.times
      rw [hnone]
      intro last hlast
      cases hlast
    octets := hoctets }

/-- A timeout is accounted for. -/
theorem Accounts.timeout {c : CStunClientLogic} {trace : ClientTrace} {time : UInt32}
    (h : c.Accounts trace) (hchecked : c.fPreCheckRunOnTest = true)
    (hlate : c.stillWaiting time = false) (hattempts : c.config.uMaxAttempts ≤ c.sendCount)
    {result : StunClientTest × StunClientResults} (hkeeps : Keeps c (c.withTest result)) :
    (c.withTest result).Accounts (trace ++ [.timesOut c.nTestIndex time]) := by
  have hoctets := h.octets_concat (e := .timesOut c.nTestIndex time) hkeeps fun _ => rfl
  have hadds : c.Adds (.timesOut c.nTestIndex time) := by
    refine ⟨rfl, by rw [hchecked]; rfl,
      fun _ hrequest => (Option.some_ne_none _ hrequest.symm).elim, ?_⟩
    rintro i time' htimeout
    cases htimeout
    exact ⟨hlate, hattempts⟩
  exact {
    discipline := h.concat hadds (identical_of_octets hoctets)
    attempts_ne := h.attempts_ne
    checks_eq := by
      rw [ClientTrace.checks_concat, h.checks_eq]
      exact List.append_nil _
    leavings_eq := by
      rw [ClientTrace.leavings_concat, h.leavings_eq]
      exact List.append_nil _
    within := h.within_concat hchecked rfl
    count := by
      rw [ClientTrace.requests_concat_of_none rfl]
      exact h.count
    last := by
      rw [ClientTrace.times_concat_of_none rfl]
      exact h.last
    octets := hoctets }

/-- A request is accounted for. -/
theorem Accounts.message {c : CStunClientLogic} {trace : ClientTrace} {time : UInt32}
    (h : c.Accounts trace) {t : StunClientTest} (hlt : c.nTestIndex < c.testlist.length)
    (hchecked : c.fPreCheckRunOnTest = true) (hlate : c.stillWaiting time = false)
    (hattempts : c.sendCount < c.config.uMaxAttempts)
    (hvalid : isTransactionIdValid t.transid = true)
    (hkeeps : Keeps c (c.messageFetched time t)) :
    (c.messageFetched time t).Accounts
      (trace ++ [.sends c.nTestIndex time (requestDraft t.transid t.changeOf).octets]) := by
  have hrequest : ClientEvent.request? c.nTestIndex
      (.sends c.nTestIndex time (requestDraft t.transid t.changeOf).octets) =
      some (time, (requestDraft t.transid t.changeOf).octets) := if_pos rfl
  have hadds : c.Adds (.sends c.nTestIndex time (requestDraft t.transid t.changeOf).octets) := by
    refine ⟨rfl, by rw [hchecked]; rfl, ?_, fun _ _ htimeout => by cases htimeout⟩
    intro request hsent
    obtain rfl := Option.some.inj (hrequest.symm.trans hsent)
    exact ⟨hlate, hattempts⟩
  -- An old request is kept by the step, and the new one is that of the test in the list.
  have hoctets : ∀ i, ∀ request ∈ ClientTrace.requests i
      (trace ++ [.sends c.nTestIndex time (requestDraft t.transid t.changeOf).octets]),
      ∃ t', (c.messageFetched time t).testlist[i]? = some t' ∧
        isTransactionIdValid t'.transid = true ∧
        request.2 = (requestDraft t'.transid t'.changeOf).octets := by
    intro i request hsent
    rw [ClientTrace.requests_concat, List.mem_append, Option.mem_toList] at hsent
    rcases hsent with hold | hnew
    · exact h.octets_keeps hkeeps i request hold
    · obtain rfl : i = c.nTestIndex := request?_eq_some hnew
      obtain rfl := Option.some.inj (hrequest.symm.trans hnew)
      exact ⟨t, List.getElem?_set_self hlt, hvalid, rfl⟩
  exact {
    discipline := h.concat hadds (identical_of_octets hoctets)
    attempts_ne := h.attempts_ne
    checks_eq := by
      rw [ClientTrace.checks_concat, h.checks_eq]
      exact List.append_nil _
    leavings_eq := by
      rw [ClientTrace.leavings_concat, h.leavings_eq]
      exact List.append_nil _
    within := h.within_concat hchecked rfl
    count := by
      have hmax := c.config.uMaxAttempts.toNat_lt
      have hless := UInt32.lt_iff_toNat_lt.mp hattempts
      have hcount := h.count
      rw [ClientTrace.requests_concat]
      show (trace.requests c.nTestIndex ++ (ClientEvent.request? c.nTestIndex _).toList).length =
        (c.sendCount + 1).toNat
      rw [hrequest, UInt32.toNat_add, List.length_append, hcount]
      show _ + 1 = (_ + 1) % _
      omega
    last := by
      rw [ClientTrace.times_concat]
      show ∀ last ∈ (trace.times c.nTestIndex ++
        ((ClientEvent.request? c.nTestIndex _).map Prod.fst).toList).getLast?, last = time
      rw [hrequest]
      intro last hlast
      simpa using hlast.symm
    octets := hoctets }

/-- What a call does is accounted for. -/
theorem Accounts.act {c c' : CStunClientLogic} {trace trace' : ClientTrace} {time : UInt32}
    (h : c.Accounts trace) (hact : Act time (c, trace) (c', trace')) : c'.Accounts trace' := by
  have hkeeps := hact.keeps
  cases hact with
  | precheck _ hunchecked => exact h.precheck hunchecked hkeeps
  | next _ hchecked _ => exact h.next hchecked hkeeps
  | timeout _ hchecked _ _ hlate hattempts => exact h.timeout hchecked hlate hattempts hkeeps
  | @message _ _ t rand stack spMsg hcurrent hchecked _ hsize hlate hattempts =>
    obtain ⟨hlt, -⟩ := List.getElem?_eq_some_iff.mp hcurrent
    obtain ⟨buf, hmessage, hcontents⟩ := t.getMessage_spec hsize c.config c.results rand stack
    rw [hmessage] at hkeeps ⊢
    rw [hcontents]
    exact h.message hlt hchecked hlate hattempts (t.isTransactionIdValid_requestTransid rand stack)
      hkeeps

/-- A new client has done nothing yet. -/
theorem accounts_initialized (config : StunClientLogicConfig) :
    (initialized config).Accounts [] where
  discipline := {
    checked := ⟨0, rfl⟩
    ordered := List.Pairwise.nil
    checkedFirst := each_nil _
    leftFirst := each_nil _
    attempts := fun _ => Nat.zero_le _
    identical := fun _ => ⟨StunTransactionId.zero, {}, fun _ hrequest => by cases hrequest⟩
    paced := fun _ => List.IsChain.nil
    timesOut := each_nil _ }
  attempts_ne := by
    show (if config.uMaxAttempts = 0 then (2 : UInt32) else config.uMaxAttempts) ≠ 0
    split_ifs with h0
    · decide
    · exact h0
  checks_eq := rfl
  leavings_eq := rfl
  within _ he := by cases he
  count := rfl
  last _ hlast := by cases hlast
  octets _ _ hrequest := by cases hrequest

end CStunClientLogic

/-- The steps of a call are accounted for. -/
theorem accounts_acts {p p' : CStunClientLogic × ClientTrace} {time : UInt32}
    (hacts : Relation.ReflTransGen (Act time) p p') (h : p.1.Accounts p.2) :
    p'.1.Accounts p'.2 := by
  induction hacts with
  | refl => exact h
  | tail _ hact ih => exact ih.act hact

/-- The steps of a call keep what every step keeps. -/
theorem keeps_acts {p p' : CStunClientLogic × ClientTrace} {time : UInt32}
    (hacts : Relation.ReflTransGen (Act time) p p') : Keeps p.1 p'.1 := by
  induction hacts with
  | refl => exact .refl _
  | tail _ hact ih => exact ih.trans hact.keeps

/-- A call of `GetNextMessage` keeps what every step keeps. -/
theorem keeps_getNextMessage (rand : ℕ → UInt8) (stack : StunTransactionId) (spMsg : CBuffer)
    (time : UInt32) (c : CStunClientLogic) :
    Keeps c (c.getNextMessage rand stack spMsg time).2 := by
  have hkeeps := keeps_acts (@getNextMessageTraced_acts rand stack spMsg time [] c)
  rwa [getNextMessageTraced_fst] at hkeeps

/-- A call of `ProcessResponse` changes nothing of the account. -/
theorem accounts_processResponse {c : CStunClientLogic} {trace : ClientTrace}
    (h : c.Accounts trace) (d : Datagram) :
    ((ClientCall.processResponse d).apply c).Accounts trace := by
  have happly : (ClientCall.processResponse d).apply c =
      (({ client := c } : Exchange).receive d).client := rfl
  rw [happly]
  rcases ({ client := c } : Exchange).receive_cases d with
    hsame | ⟨t, result, hcurrent, hopen, haccepted, hresult⟩
  · rw [hsame]
    exact h
  · rw [hresult]
    exact h.withTest (Step.keeps (.response hcurrent hopen haccepted))

/-- In every run the client accounts for what it has done. -/
theorem accounts_runTraced (calls : List ClientCall) {trace : ClientTrace} {c : CStunClientLogic}
    (h : c.Accounts trace) :
    (runTraced calls trace c).1.Accounts (runTraced calls trace c).2 := by
  induction calls generalizing trace c with
  | nil => exact h
  | cons call calls ih =>
    cases call with
    | getNextMessage rand stack spMsg time =>
      exact ih (accounts_acts (getNextMessageTraced_acts trace c) h)
    | processResponse d => exact ih (accounts_processResponse h d)

/-- Calls keep what every step keeps. -/
theorem keeps_runTraced (calls : List ClientCall) (trace : ClientTrace) (c : CStunClientLogic) :
    Keeps c (runTraced calls trace c).1 := by
  induction calls generalizing trace c with
  | nil => exact .refl c
  | cons call calls ih =>
    cases call with
    | getNextMessage rand stack spMsg time =>
      exact (keeps_acts (getNextMessageTraced_acts trace c)).trans (ih _ _)
    | processResponse d =>
      exact (keeps_of_steps (({ client := c } : Exchange).receive_steps d)).trans (ih _ _)

/-! ## The end of the loop, and of the run -/

namespace CStunClientLogic

variable {rand : ℕ → UInt8} {stack : StunTransactionId} {spMsg : CBuffer}
  {timeCurrentMilliseconds : UInt32}

/-- Above the rounds that are left, the bound of the loop makes no difference. -/
theorem getNextMessageLoop_succ (fuel : ℕ) (c : CStunClientLogic) (hfuel : c.roundsLeft < fuel) :
    getNextMessageLoop rand stack spMsg timeCurrentMilliseconds (fuel + 1) c =
      getNextMessageLoop rand stack spMsg timeCurrentMilliseconds fuel c := by
  induction fuel generalizing c with
  | zero => exact absurd hfuel (Nat.not_lt_zero _)
  | succ fuel ih =>
    unfold getNextMessageLoop
    cases h : c.testlist[c.nTestIndex]? with
    | none => rfl
    | some t =>
      obtain ⟨t', c', hpre, h', hchecked, -, hleft⟩ :=
        @precheck_spec timeCurrentMilliseconds c t h
      simp only [hpre]
      rcases @round_spec rand stack spMsg timeCurrentMilliseconds c' t' h' hchecked with
        ⟨c'', hround, -, hless⟩ | ⟨result, hround, -⟩
      · rw [hround]
        exact ih c'' (by omega)
      · rw [hround]

/-- The rounds that are left are fewer than the bound of the loop. -/
theorem roundsLeft_lt (c : CStunClientLogic) : c.roundsLeft < 2 * c.testlist.length + 1 := by
  unfold roundsLeft
  split
  · exact Nat.succ_pos _
  · split_ifs <;> omega

/-- The loop ends: every bound from some on gives the same, and it is not that the bound is
reached. -/
theorem getNextMessageLoop_ends (c : CStunClientLogic) (fuel : ℕ)
    (hfuel : 2 * c.testlist.length + 1 ≤ fuel) :
    getNextMessageLoop rand stack spMsg timeCurrentMilliseconds fuel c =
        getNextMessageLoop rand stack spMsg timeCurrentMilliseconds (2 * c.testlist.length + 1) c ∧
      (getNextMessageLoop rand stack spMsg timeCurrentMilliseconds fuel c).1 ≠
        .error E_UNEXPECTED := by
  have hleft := c.roundsLeft_lt
  constructor
  · induction fuel, hfuel using Nat.le_induction with
    | base => rfl
    | succ fuel hfuel ih => rw [getNextMessageLoop_succ fuel c (by omega), ih]
  · obtain ⟨c₁, -, hlast⟩ :=
      @getNextMessageLoop_spec rand stack spMsg timeCurrentMilliseconds fuel c
      (by omega)
    generalize getNextMessageLoop rand stack spMsg timeCurrentMilliseconds fuel c = result at hlast
    cases hlast with
    | resultsReady _ => exact fun h => absurd (Except.error.inj h) (by decide)
    | stillWaiting _ _ _ _ _ => exact fun h => absurd (Except.error.inj h) (by decide)
    | message _ _ _ _ _ _ => exact fun h => by cases h

/-- When the results are ready, all tests are done. -/
theorem finished_of_resultsReady {c : CStunClientLogic}
    (h : (c.getNextMessage rand stack spMsg timeCurrentMilliseconds).1 =
      .error E_STUNCLIENT_RESULTS_READY) :
    let c' := (c.getNextMessage rand stack spMsg timeCurrentMilliseconds).2
    c'.testlist[c'.nTestIndex]? = none := by
  by_cases hinit : c.fInitialized = true
  · by_cases hbuf : MAX_STUN_MESSAGE_SIZE ≤ spMsg.getAllocatedSize
    · obtain ⟨c₁, -, hlast⟩ := @getNextMessage_cases rand stack spMsg timeCurrentMilliseconds c
        hinit hbuf
      generalize c.getNextMessage rand stack spMsg timeCurrentMilliseconds = result at h hlast
      cases hlast with
      | resultsReady hnone => exact hnone
      | stillWaiting _ _ _ _ _ => exact absurd (Except.error.inj h) (by decide)
      | message _ _ _ _ _ _ => cases h
    · unfold getNextMessage at h
      rw [if_neg (by simp [hinit]), if_pos (not_le.mp hbuf)] at h
      exact absurd (Except.error.inj h) (by decide)
  · unfold getNextMessage at h
    rw [if_pos (Bool.not_eq_true _ ▸ hinit)] at h
    exact absurd (Except.error.inj h) (by decide)

/-- A client that has done all tests says so again, and does nothing. -/
theorem getNextMessage_of_finished {c : CStunClientLogic} (hinit : c.fInitialized = true)
    (hdone : c.testlist[c.nTestIndex]? = none) :
    c.getNextMessage rand stack spMsg timeCurrentMilliseconds =
      (.error (if spMsg.getAllocatedSize < MAX_STUN_MESSAGE_SIZE then E_INVALIDARG
        else E_STUNCLIENT_RESULTS_READY), c) := by
  unfold getNextMessage
  rw [if_neg (by simp [hinit])]
  split_ifs with hbuf
  · rfl
  · unfold getNextMessageLoop
    simp only [hdone]

/-- No call makes a client that has done all tests do anything more. -/
theorem apply_of_finished {c : CStunClientLogic} (hinit : c.fInitialized = true)
    (hdone : c.testlist[c.nTestIndex]? = none) (calls : List ClientCall) :
    calls.foldl ClientCall.apply c = c := by
  induction calls with
  | nil => rfl
  | cons call calls ih =>
    have hcall : call.apply c = c := by
      cases call with
      | getNextMessage rand stack spMsg time =>
        exact congrArg Prod.snd (getNextMessage_of_finished hinit hdone)
      | processResponse d =>
        rcases ({ client := c } : Exchange).receive_cases d with hsame | ⟨t, _, hcurrent, -⟩
        · exact hsame
        · unfold CurrentTest at hcurrent
          rw [hdone] at hcurrent
          cases hcurrent
    rw [List.foldl_cons, hcall, ih]

end CStunClientLogic

/-- In every run the client keeps its discipline: the trace shows it, every call ends, and what is
reported when the results are ready stays so. -/
theorem retransmission_disciplined {config : StunClientLogicConfig} {new : CStunClientLogic}
    (h : initializeLogic config {} = .ok () new) (calls : List ClientCall) :
    let c := calls.foldl ClientCall.apply new
    let trace := (runTraced calls [] new).2
    (runTraced calls [] new).1 = c ∧
      -- The requests, the timeouts and the order of the tests.
      Discipline config.withDefaults trace ∧
      -- Any two requests of a test are a timeout apart, on any clock whose last 32 bits are these
      -- times.
      (∀ i (clock : List ℕ), trace.times i = clock.map UInt32.ofNat → clock.Pairwise (· ≤ ·) →
        clock.Pairwise fun t t' => t + config.withDefaults.timeoutMilliseconds ≤ t') ∧
      -- The loop ends, whatever its bound is.
      (∀ rand stack spMsg time fuel, 2 * c.testlist.length + 1 ≤ fuel →
        getNextMessageLoop rand stack spMsg time fuel c =
            getNextMessageLoop rand stack spMsg time (2 * c.testlist.length + 1) c ∧
          (getNextMessageLoop rand stack spMsg time fuel c).1 ≠ .error E_UNEXPECTED) ∧
      -- The results are ready for good.
      ∀ rand stack spMsg time,
        (c.getNextMessage rand stack spMsg time).1 = .error E_STUNCLIENT_RESULTS_READY →
        ∀ later : List ClientCall,
          let c' := (c.getNextMessage rand stack spMsg time).2
          let c'' := later.foldl ClientCall.apply c'
          c''.results = c'.results ∧ ∀ rand stack spMsg time,
            (c''.getNextMessage rand stack spMsg time).1 =
              .error (if spMsg.getAllocatedSize < MAX_STUN_MESSAGE_SIZE then E_INVALIDARG
                else E_STUNCLIENT_RESULTS_READY) := by
  obtain ⟨-, -, rfl⟩ := initializeLogic_eq_ok_iff.mp h
  have hrun := runTraced_client calls [] (initialized config)
  have haccounts := accounts_runTraced calls (accounts_initialized config)
  have hkeeps := keeps_runTraced calls [] (initialized config)
  rw [hrun] at haccounts hkeeps
  have hconfig : (calls.foldl ClientCall.apply (initialized config)).config = config.withDefaults :=
    hkeeps.config_eq
  have hdiscipline : Discipline config.withDefaults (runTraced calls [] (initialized config)).2 :=
    hconfig ▸ haccounts.discipline
  refine ⟨hrun, hdiscipline, ?_, fun rand stack spMsg time fuel hfuel =>
    getNextMessageLoop_ends _ fuel hfuel, ?_⟩
  · intro i clock hclock hsorted
    exact Paced.of_clock (hclock ▸ hdiscipline.paced i) hsorted
  · intro rand stack spMsg time hready later
    have hdone := finished_of_resultsReady hready
    have hinit : ((calls.foldl ClientCall.apply (initialized config)).getNextMessage
        rand stack spMsg time).2.fInitialized = true :=
      (keeps_getNextMessage rand stack spMsg time _).init_eq.trans hkeeps.init_eq
    dsimp only
    rw [apply_of_finished hinit hdone later]
    exact ⟨rfl, fun _ _ _ _ => congrArg Prod.fst (getNextMessage_of_finished hinit hdone)⟩

/-- A client that does the binding test only. -/
def bindingConfig : StunClientLogicConfig where
  addrServer := CSocketAddress.ofHostByteOrder 0x01010101 3478

/-- The calls of a client that gets no response, at some times. -/
def unansweredAt (times : List UInt32) : List ClientCall :=
  times.map fun time =>
    .getNextMessage (fun _ => 1) StunTransactionId.zero (CBuffer.initWithAllocation 800) time

/-- On a clock that wraps after the first of them. -/
def unanswered : List ClientCall := unansweredAt [4294967000, 2704, 5704, 5705]

/-- `retransmission_disciplined` for a client that is never answered. -/
theorem retransmission_disciplined_unanswered :
    initializeLogic bindingConfig {} = .ok () (initialized bindingConfig) ∧
      Discipline bindingConfig.withDefaults
        (runTraced unanswered [] (initialized bindingConfig)).2 := by
  have hinit : initializeLogic bindingConfig {} = .ok () (initialized bindingConfig) :=
    initializeLogic_eq_ok_iff.mpr ⟨by decide, by decide, rfl⟩
  exact ⟨hinit, (retransmission_disciplined hinit unanswered).2.1⟩

/-- With three requests at times of which each is half the range of the clock from the one before,
the last one is at the time of the first: it is not any two requests of a test that are a timeout
apart. -/
theorem not_pairwise_separated :
    ¬∀ (config : StunClientLogicConfig) (new : CStunClientLogic),
      initializeLogic config {} = .ok () new → ∀ (calls : List ClientCall) (i : ℕ),
        ((runTraced calls [] new).2.times i).Pairwise fun t t' =>
          config.withDefaults.timeoutMilliseconds ≤ (t' - t).toNat := by
  intro h
  have hinit : initializeLogic { bindingConfig with uMaxAttempts := 3 } {} =
      .ok () (initialized { bindingConfig with uMaxAttempts := 3 }) :=
    initializeLogic_eq_ok_iff.mpr ⟨by decide, by decide, rfl⟩
  have htimes : (runTraced (unansweredAt [0, 2147483648, 0]) []
      (initialized { bindingConfig with uMaxAttempts := 3 })).2.times 0 = [0, 2147483648, 0] := by
    decide +kernel
  have hpairwise := h _ _ hinit (unansweredAt [0, 2147483648, 0]) 0
  rw [htimes] at hpairwise
  exact absurd hpairwise (by decide)

end Stun
