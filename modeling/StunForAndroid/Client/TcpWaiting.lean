import StunForAndroid.Client.TcpClientLoop

/-!
# Waiting in `TcpClientLoop`

The loop takes for granted that `GetNextMessage` never reports `E_STUNCLIENT_STILL_WAITING`, because
the timeout is zero. It is not: `CreateConfigFromCommandLine` leaves it to the default, which
`Initialize` makes three seconds. So the loop is left without any results when an answer does not
complete a test and has not taken three seconds. Otherwise it ends with the results, or where a call
on a socket fails or does not return (`tcpClientLoop_clean_iff`).
-/

namespace Stun

open Octets Fallible CStunClientLogic

namespace CStunClientLogic

/-! ## When `GetNextMessage` waits -/

/-- Before its early chance a test has sent nothing. -/
def Idle (c : CStunClientLogic) : Prop := c.fPreCheckRunOnTest = false → c.sendCount = 0

/-- A client that has sent nothing for the current test does not wait. -/
theorem stillWaiting_of_sendCount {c : CStunClientLogic} (h : c.sendCount = 0) (time : UInt32) :
    c.stillWaiting time = false := by
  unfold stillWaiting
  simp [h]

variable {rand : ℕ → UInt8} {stack : StunTransactionId} {spMsg : CBuffer} {time : UInt32}

/-- After a round that ends with `continue` the client does not wait. -/
theorem Round.not_waiting {c c' : CStunClientLogic} (h : Round time c c') (hidle : c.Idle) :
    c'.stillWaiting time = false ∧ c'.Idle := by
  cases h with
  | precheck _ hunchecked =>
    exact ⟨stillWaiting_of_sendCount (hidle hunchecked) time, fun hfalse => by cases hfalse⟩
  | next _ _ _ => exact ⟨stillWaiting_of_sendCount rfl time, fun _ => rfl⟩
  | timeout _ _ _ _ hlate _ => exact ⟨hlate, hidle⟩

/-- After some rounds the client is as it was, or does not wait. -/
theorem rounds_not_waiting {c c' : CStunClientLogic}
    (h : Relation.ReflTransGen (Round time) c c') (hidle : c.Idle) :
    (c' = c ∨ c'.stillWaiting time = false) ∧ c'.Idle := by
  induction h with
  | refl => exact ⟨.inl rfl, hidle⟩
  | tail _ hround ih =>
    obtain ⟨hlate, hidle'⟩ := hround.not_waiting ih.2
    exact ⟨.inr hlate, hidle'⟩

/-- A client that waits does so for the test that was the current one when it was asked. -/
theorem waits_for_current {c : CStunClientLogic} (hidle : c.Idle)
    (h : (c.getNextMessage rand stack spMsg time).1 = .error E_STUNCLIENT_STILL_WAITING) :
    ∃ t, c.CurrentTest t ∧ t.fCompleted = false ∧ c.stillWaiting time = true := by
  by_cases hinit : c.fInitialized = true
  · by_cases hbuf : MAX_STUN_MESSAGE_SIZE ≤ spMsg.getAllocatedSize
    · obtain ⟨c₁, hrounds, hlast⟩ := @getNextMessage_cases rand stack spMsg time c hinit hbuf
      generalize c.getNextMessage rand stack spMsg time = result at h hlast
      cases hlast with
      | resultsReady _ => exact absurd (Except.error.inj h) (by decide)
      | message _ _ _ _ _ _ => cases h
      | @stillWaiting t hcurrent _ hopen _ hwaiting =>
        rcases (rounds_not_waiting hrounds hidle).1 with rfl | hlate
        · exact ⟨t, hcurrent, hopen, hwaiting⟩
        · rw [hlate] at hwaiting
          cases hwaiting
    · unfold getNextMessage at h
      rw [if_neg (by simp [hinit]), if_pos (not_le.mp hbuf)] at h
      exact absurd (Except.error.inj h) (by decide)
  · unfold getNextMessage at h
    rw [if_pos (Bool.not_eq_true _ ▸ hinit)] at h
    exact absurd (Except.error.inj h) (by decide)

/-- A client has sent the request of a test, and the test is still the current one. -/
structure Pending (c : CStunClientLogic) (t : StunClientTest) (sentAt : UInt32) : Prop where
  init : c.fInitialized = true
  current : c.CurrentTest t
  checked : c.fPreCheckRunOnTest = true
  notCompleted : t.fCompleted = false
  ready : t.isReadyToRun c.results = true
  count : c.sendCount ≠ 0
  time : c.timeLastMessageSent = sentAt

/-- After the early chance of a test, `GetNextMessage` answers that it is still waiting exactly
until the timeout. -/
theorem Pending.idle {c : CStunClientLogic} {t : StunClientTest} {sentAt : UInt32}
    (h : c.Pending t sentAt) :
    c.Idle := fun hfalse => by
  rw [h.checked] at hfalse
  cases hfalse

/-- A client that has sent a request waits as long as its timeout has not passed. -/
theorem Pending.waits_iff {c : CStunClientLogic} {t : StunClientTest} {sentAt : UInt32}
    (h : c.Pending t sentAt) (hbuf : MAX_STUN_MESSAGE_SIZE ≤ spMsg.getAllocatedSize) :
    (c.getNextMessage rand stack spMsg time).1 = .error E_STUNCLIENT_STILL_WAITING ↔
      (time - sentAt) / 1000 < c.config.timeoutSeconds := by
  have hwaiting : c.stillWaiting time = true ↔
      (time - sentAt) / 1000 < c.config.timeoutSeconds := by
    unfold stillWaiting
    simp [h.count, h.time]
  rw [← hwaiting]
  constructor
  · intro hresult
    obtain ⟨_, -, -, hwait⟩ := waits_for_current h.idle hresult
    exact hwait
  · intro hwait
    have hcurrent : c.testlist[c.nTestIndex]? = some t := h.current
    have hpre : c.precheck t = (t, c) := by
      unfold precheck
      rw [if_neg (by simp [h.checked])]
    unfold getNextMessage
    rw [if_neg (by simp [h.init]), if_neg (not_lt.mpr hbuf)]
    unfold getNextMessageLoop round
    simp only [hcurrent, hpre]
    rw [if_neg (by simp [h.notCompleted, h.ready]), if_pos hwait]

/-- `GetNextMessage` gives a message for a test that is ready and has attempts left, and counts the
attempt. -/
theorem exists_message {c c' : CStunClientLogic} {msg : CBuffer × CSocketAddress}
    (h : c.getNextMessage rand stack spMsg time = (.ok msg, c')) :
    ∃ c₁ t, c.fInitialized = true ∧ MAX_STUN_MESSAGE_SIZE ≤ spMsg.getAllocatedSize ∧
      Relation.ReflTransGen (Round time) c c₁ ∧
      LastRound rand stack spMsg time c₁ (.ok msg, c') ∧ c₁.CurrentTest t ∧
      c₁.fPreCheckRunOnTest = true ∧ t.fCompleted = false ∧ t.isReadyToRun c₁.results = true ∧
      c₁.sendCount < c₁.config.uMaxAttempts ∧
      msg.1 = (t.getMessage c₁.config c₁.results rand stack spMsg).1.2 ∧
      c' = c₁.messageFetched time (t.getMessage c₁.config c₁.results rand stack spMsg).1.1 := by
  by_cases hinit : c.fInitialized = true
  · by_cases hbuf : MAX_STUN_MESSAGE_SIZE ≤ spMsg.getAllocatedSize
    · obtain ⟨c₁, hrounds, hlast⟩ := @getNextMessage_cases rand stack spMsg time c hinit hbuf
      rw [h] at hlast
      refine ⟨c₁, ?_⟩
      cases hlast with
      | @message t hcurrent hchecked hopen hready hlate hattempts =>
        exact ⟨t, hinit, hbuf, hrounds, .message hcurrent hchecked hopen hready hlate hattempts,
          hcurrent, hchecked, hopen, hready, hattempts, rfl, rfl⟩
    · unfold getNextMessage at h
      rw [if_neg (by simp [hinit]), if_pos (not_le.mp hbuf)] at h
      cases h
  · unfold getNextMessage at h
    rw [if_pos (Bool.not_eq_true _ ▸ hinit)] at h
    cases h

/-- After it has handed out a message, the client has sent the request of a test. -/
theorem pending_of_message {c c' : CStunClientLogic} {msg : CBuffer × CSocketAddress}
    (h : c.getNextMessage rand stack spMsg time = (.ok msg, c')) :
    ∃ t, c'.Pending t time ∧ msg.1.contents = (requestDraft t.transid t.changeOf).octets := by
  obtain ⟨c₁, t, hinit, hbuf, hrounds, -, hcurrent, hchecked, hopen, hready,
    hattempts, hmsg, hc'⟩ :=
    exists_message h
  obtain ⟨buf, hmessage, hcontents⟩ := t.getMessage_spec hbuf c₁.config c₁.results rand stack
  obtain ⟨hlt, -⟩ := List.getElem?_eq_some_iff.mp hcurrent
  rw [hmessage] at hmsg hc'
  subst hc'
  refine ⟨{ t with transid := t.requestTransid rand stack }, ?_, by rw [hmsg, hcontents]; rfl⟩
  exact {
    init := (keeps_of_steps (steps_of_rounds hrounds)).init_eq.trans hinit
    current := List.getElem?_set_self hlt
    checked := hchecked
    notCompleted := hopen
    ready := hready
    count := by
      have hless := UInt32.lt_iff_toNat_lt.mp hattempts
      have hmax := c₁.config.uMaxAttempts.toNat_lt
      intro h0
      have hsum : (c₁.sendCount.toNat + 1) % 2 ^ 32 = 0 := congrArg UInt32.toNat h0
      omega
    time := rfl }

/-- How many tests have yet to send a request, when each sends one. -/
def testsAhead (c : CStunClientLogic) : ℕ :=
  c.testlist.length - c.nTestIndex - (if c.sendCount = 0 then 0 else 1)

/-- A round that ends with `continue` adds no tests. -/
theorem Round.testsAhead_le {c c' : CStunClientLogic} (h : Round time c c') :
    c'.testsAhead ≤ c.testsAhead := by
  cases h with
  | precheck _ _ =>
    unfold testsAhead CStunClientLogic.withTest
    rw [List.length_set]
  | next _ _ _ =>
    unfold testsAhead nextTest
    dsimp only
    rw [if_pos rfl]
    split_ifs <;> omega
  | timeout _ _ _ _ _ _ =>
    unfold testsAhead CStunClientLogic.withTest
    rw [List.length_set]

/-- A message is one of a test that had not sent any. -/
theorem testsAhead_of_message {c c' : CStunClientLogic} {msg : CBuffer × CSocketAddress}
    (hone : c.config.uMaxAttempts = 1)
    (h : c.getNextMessage rand stack spMsg time = (.ok msg, c')) :
    c'.testsAhead < c.testsAhead := by
  obtain ⟨c₁, t, hinit, hbuf, hrounds, -, hcurrent, -, -, -, hattempts, -, rfl⟩ := exists_message h
  obtain ⟨hlt, -⟩ := List.getElem?_eq_some_iff.mp hcurrent
  have hle : c₁.testsAhead ≤ c.testsAhead := by
    clear hcurrent hattempts hlt h
    induction hrounds with
    | refl => exact le_rfl
    | tail _ hround ih => exact hround.testsAhead_le.trans ih
  have hconfig : c₁.config = c.config := (keeps_of_steps (steps_of_rounds hrounds)).config_eq
  have hzero : c₁.sendCount = 0 := by
    rw [hconfig, hone] at hattempts
    have hless : c₁.sendCount.toNat < 1 := UInt32.lt_iff_toNat_lt.mp hattempts
    exact UInt32.toNat_inj.mp (Nat.lt_one_iff.mp hless)
  refine lt_of_lt_of_le ?_ hle
  unfold testsAhead messageFetched CStunClientLogic.withTest
  dsimp only
  rw [List.length_set, hzero, if_pos rfl, if_neg (by decide)]
  omega

end CStunClientLogic

/-! ## Answers -/

/-- A message that is an answer to a request, with a mapped address in it. -/
def AcceptableAnswer (request answer : List UInt8) : Prop :=
  (readerOf answer).state = .bodyValidated ∧
    (readerOf answer).transactionid = (readerOf request).transactionid ∧
    ∃ addrMapped, StunClientTest.mappedAddressOf (readerOf answer) = .ok addrMapped

/-- The binding test and the behavior tests accept such messages, and no others. -/
theorem processResponse_iff_acceptable {t : StunClientTest} {config : StunClientLogicConfig}
    {results : StunClientResults} {answer : List UInt8} {addrLocal : CSocketAddress}
    (hkind : ∀ fIsTest3, t.kind ≠ .filtering fIsTest3) :
    (∃ result, t.processResponse config results answer addrLocal = .ok result) ↔
      AcceptableAnswer (requestDraft t.transid t.changeOf).octets answer := by
  -- Both tests begin with the validation that the base class does.
  have hvalid : ∀ reader, t.basicReaderValidation answer = .ok reader ↔
      (readerOf answer).state = .bodyValidated ∧ (readerOf answer).transactionid = t.transid ∧
        readerOf answer = reader := by
    intro reader
    rw [StunClientTest.basicReaderValidation_eq_ok_iff, addBytes_fst]
    rfl
  unfold AcceptableAnswer StunClientTest.processResponse
  rw [(reads_request t.transid t.changeOf).transid]
  cases hk : t.kind with
  | filtering fIsTest3 => exact absurd hk (hkind fIsTest3)
  | basicBinding =>
    simp only [CBasicBindingTest.processResponse_eq_ok_iff, hvalid]
    constructor
    · rintro ⟨_, _, ⟨hstate, htransid, rfl⟩, addrMapped, hmapped, -⟩
      exact ⟨hstate, htransid, addrMapped, hmapped⟩
    · rintro ⟨hstate, htransid, addrMapped, hmapped⟩
      exact ⟨_, _, ⟨hstate, htransid, rfl⟩, addrMapped, hmapped, rfl⟩
  | behavior fIsTest3 =>
    simp only [CBehaviorTest.processResponse_eq_ok_iff, hvalid]
    constructor
    · rintro ⟨_, _, ⟨hstate, htransid, rfl⟩, addrMapped, hmapped, -⟩
      exact ⟨hstate, htransid, addrMapped, hmapped⟩
    · rintro ⟨hstate, htransid, addrMapped, hmapped⟩
      exact ⟨_, _, ⟨hstate, htransid, rfl⟩, addrMapped, hmapped, rfl⟩

/-! ## A round of the loop -/

/-- The message that the client sends in a round. -/
def tcpRequest (x : TcpExchange) (s : TcpLoopState) : List UInt8 :=
  match s.clientlogic.getNextMessage x.rand x.stack s.spMsg x.timeCurrentMilliseconds with
  | (.ok (spMsg, _), _) => spMsg.contents
  | (.error _, _) => []

/-- A round that does not leave the loop has sent a message and processed what has come. -/
theorem tcpClientRound_eq_inl {x : TcpExchange} {s s' : TcpLoopState}
    (h : tcpClientRound x s = .inl s') :
    ∃ spMsg addrDest clientlogic received, ¬failed x.tcpInit ∧
      s.clientlogic.getNextMessage x.rand x.stack s.spMsg x.timeCurrentMilliseconds =
        (.ok (spMsg, addrDest), clientlogic) ∧
      s'.spMsg = spMsg.receive received ∧
      s'.clientlogic = finalState
        (CStunClientLogic.processResponse s'.spMsg.contents x.addrLocal) clientlogic := by
  unfold tcpClientRound at h
  split_ifs at h with hinit
  split at h
  · split_ifs at h
  · rename_i spMsg addrDest clientlogic hmessage
    split at h
    · cases h
    · cases h
      exact ⟨spMsg, addrDest, clientlogic, _, hinit, hmessage, rfl, rfl⟩

/-- The loop has stopped at a socket that is connected, or waits for it. -/
def TcpOutcome.AtSocket : TcpOutcome → Prop
  | connectFailed _ | sendFailed _ | recvFailed _ | blocked => True
  | _ => False

/-- What the sockets answer may stop the loop there. -/
theorem atSocket_of_tcpConverse {x : TcpExchange} {spMsg : CBuffer} {reader : CStunMessageReader}
    {outcome : TcpOutcome} (h : tcpConverse x spMsg reader = .inr outcome) : outcome.AtSocket := by
  unfold tcpConverse at h
  split at h
  · cases h
    trivial
  · split at h
    · cases h
      trivial
    · cases h
      trivial
    · split at h
      · cases h
        trivial
      · cases h
        trivial
      · cases h

/-- A round leaves the loop with a failure of `GetNextMessage` exactly when that fails otherwise
than with the results. -/
theorem tcpClientRound_eq_nextMessageFailed_iff {x : TcpExchange} {s : TcpLoopState}
    {hr : HRESULT} :
    tcpClientRound x s = .inr (.nextMessageFailed hr) ↔
      ¬failed x.tcpInit ∧ hr ≠ E_STUNCLIENT_RESULTS_READY ∧
        (s.clientlogic.getNextMessage x.rand x.stack s.spMsg x.timeCurrentMilliseconds).1 =
          .error hr := by
  unfold tcpClientRound
  split_ifs with hinit
  · simp [hinit]
  · split
    · rename_i hrRet clientlogic hmessage
      rw [hmessage]
      split_ifs with hready
      · subst hready
        simp [eq_comm]
      · constructor
        · intro h
          cases h
          exact ⟨hinit, hready, rfl⟩
        · rintro ⟨-, -, h⟩
          rw [Except.error.inj h]
    · -- With a message the round ends at a socket, or goes on.
      rename_i spMsg addrDest clientlogic hmessage
      rw [hmessage]
      constructor
      · intro h
        split at h
        · rename_i outcome hconverse
          cases h
          exact (atSocket_of_tcpConverse hconverse).elim
        · cases h
      · rintro ⟨-, -, h⟩
        cases h

/-- What is so at the head of the loop: the client has been initialized for one attempt with a
timeout of three seconds, and does no filtering test. -/
structure TcpReady (s : TcpLoopState) : Prop where
  init : s.clientlogic.fInitialized = true
  timeout : s.clientlogic.config.timeoutSeconds = 3
  attempts : s.clientlogic.config.uMaxAttempts = 1
  kinds : ∀ kind ∈ s.clientlogic.testlist.map StunClientTest.kind,
    ∀ fIsTest3, kind ≠ .filtering fIsTest3
  idle : s.clientlogic.Idle
  size : MAX_STUN_MESSAGE_SIZE ≤ s.spMsg.getAllocatedSize

/-- The buffer stays as large as it was. -/
theorem getAllocatedSize_receive (received : List UInt8) (spMsg : CBuffer) :
    spMsg.getAllocatedSize ≤ (spMsg.receive received).getAllocatedSize := by
  unfold CBuffer.receive
  split_ifs
  · exact le_rfl
  · unfold CBuffer.getAllocatedSize
    rw [length_overwrite _ _ _ (Nat.zero_le _)]
    exact le_max_left _ _

/-- `ProcessResponse` completes the test when the message is an acceptable answer, and otherwise
changes nothing. -/
theorem processResponse_of_pending {c : CStunClientLogic} {t : StunClientTest} {sentAt : UInt32}
    (h : c.Pending t sentAt) (hkind : ∀ fIsTest3, t.kind ≠ .filtering fIsTest3)
    (answer : List UInt8) (addrLocal : CSocketAddress) :
    let c' := finalState (CStunClientLogic.processResponse answer addrLocal) c
    AcceptableAnswer (requestDraft t.transid t.changeOf).octets answer ∧
        (∃ result : StunClientTest × StunClientResults, result.1.fCompleted = true ∧
          c' = c.withTest result) ∨
      ¬AcceptableAnswer (requestDraft t.transid t.changeOf).octets answer ∧ c' = c := by
  have hreceive : finalState (CStunClientLogic.processResponse answer addrLocal) c =
      (({ client := c } : Exchange).receive ⟨answer, addrLocal, addrLocal⟩).client := rfl
  rw [hreceive]
  by_cases haccept : AcceptableAnswer (requestDraft t.transid t.changeOf).octets answer
  · obtain ⟨result, haccepted⟩ := (processResponse_iff_acceptable hkind).mpr haccept
    refine .inl ⟨haccept, result, ?_,
      Exchange.receive_of_accepted h.init h.current h.notCompleted haccepted⟩
    rw [(StunClientTest.processResponse_eq_ok haccepted).1]
  · refine .inr ⟨haccept, ?_⟩
    rcases Exchange.receive_cases ⟨c, [], []⟩ ⟨answer, addrLocal, addrLocal⟩ with
      hsame | ⟨t', result, hcurrent, -, haccepted, -⟩
    · exact hsame
    · obtain rfl : t' = t := Option.some.inj (hcurrent.symm.trans h.current)
      exact absurd ((processResponse_iff_acceptable hkind).mp ⟨result, haccepted⟩) haccept

/-- Three whole seconds have not passed exactly when less than 3000 milliseconds have. -/
theorem div_lt_three_iff (diff : UInt32) : diff / 1000 < 3 ↔ diff.toNat < 3000 := by
  rw [UInt32.lt_iff_toNat_lt, UInt32.toNat_div]
  show diff.toNat / 1000 < 3 ↔ _
  omega

/-- After an answer the client waits if and only if the answer is not acceptable and three seconds
have not passed since the request. -/
theorem waits_after_answer {c : CStunClientLogic} {t : StunClientTest} {sentAt : UInt32}
    {spMsg : CBuffer} (h : c.Pending t sentAt) (hkind : ∀ fIsTest3, t.kind ≠ .filtering fIsTest3)
    (htimeout : c.config.timeoutSeconds = 3)
    (hsize : MAX_STUN_MESSAGE_SIZE ≤ spMsg.getAllocatedSize)
    (answer : List UInt8) (addrLocal : CSocketAddress) :
    let c' := finalState (CStunClientLogic.processResponse answer addrLocal) c
    c'.testsAhead = c.testsAhead ∧ c'.Idle ∧ ∀ rand stack time,
      (c'.getNextMessage rand stack spMsg time).1 = .error E_STUNCLIENT_STILL_WAITING ↔
        ¬AcceptableAnswer (requestDraft t.transid t.changeOf).octets answer ∧
          (time - sentAt).toNat < 3000 := by
  intro c'
  -- The test has been answered, and is over, or it has not, and the client is as it was.
  rcases processResponse_of_pending h hkind answer addrLocal with
    ⟨haccept, result, hdone, hresult⟩ | ⟨hrefuse, hsame⟩
  · have hidle : (c.withTest result).Idle := h.idle
    rw [show c' = c.withTest result from hresult]
    refine ⟨?_, hidle, fun rand stack time => ⟨fun hwaits => ?_, fun hwait => ?_⟩⟩
    · unfold testsAhead CStunClientLogic.withTest
      rw [List.length_set]
    · obtain ⟨t', hcurrent, hopen, -⟩ := waits_for_current hidle hwaits
      obtain rfl := Option.some.inj ((h.current.withTest result).symm.trans hcurrent)
      rw [hdone] at hopen
      cases hopen
    · exact absurd haccept hwait.1
  · rw [show c' = c from hsame]
    refine ⟨rfl, h.idle, fun rand stack time => ?_⟩
    rw [h.waits_iff hsize, htimeout, div_lt_three_iff]
    exact (and_iff_right hrefuse).symm

/-- What a round that does not leave the loop leaves for the next one: `GetNextMessage` then waits
if and only if the answer is not acceptable and three seconds have not passed. -/
theorem TcpReady.round {x : TcpExchange} {s s' : TcpLoopState} (h : TcpReady s)
    (hround : tcpClientRound x s = .inl s') :
    TcpReady s' ∧ s'.clientlogic.testsAhead < s.clientlogic.testsAhead ∧
      ∀ rand stack time,
        (s'.clientlogic.getNextMessage rand stack s'.spMsg time).1 =
            .error E_STUNCLIENT_STILL_WAITING ↔
          ¬AcceptableAnswer (tcpRequest x s) s'.spMsg.contents ∧
            (time - x.timeCurrentMilliseconds).toNat < 3000 := by
  obtain ⟨spMsg, addrDest, c, received, -, hmessage, hbuffer, hc'⟩ := tcpClientRound_eq_inl hround
  obtain ⟨t, hpending, hoctets⟩ := pending_of_message hmessage
  obtain ⟨c₁, t₁, -, hbuf, hrounds, -, hcurrent₁, -, hopen₁, -, -, hmsg, hfetched⟩ :=
    exists_message hmessage
  -- The message is in a buffer of the same size.
  have hsize : spMsg.getAllocatedSize = s.spMsg.getAllocatedSize := by
    show (spMsg, addrDest).1.getAllocatedSize = _
    rw [hmsg]
    exact t₁.getAllocatedSize_getMessage hbuf _ _ _ _
  have hsize' : MAX_STUN_MESSAGE_SIZE ≤ s'.spMsg.getAllocatedSize := by
    rw [hbuffer]
    exact h.size.trans (hsize ▸ getAllocatedSize_receive received spMsg)
  have hkeeps : Keeps s.clientlogic c := by
    refine (keeps_of_steps (steps_of_rounds hrounds)).trans ?_
    rw [hfetched]
    exact Step.keeps (.message hcurrent₁ hopen₁ hbuf)
  have hkind : ∀ fIsTest3, t.kind ≠ .filtering fIsTest3 := by
    refine h.kinds _ ?_
    rw [← hkeeps.kinds_eq]
    exact List.mem_map_of_mem (List.mem_of_getElem? hpending.current)
  have hrequest : tcpRequest x s = (requestDraft t.transid t.changeOf).octets := by
    unfold tcpRequest
    rw [hmessage]
    exact hoctets
  have htimeout : c.config.timeoutSeconds = 3 := by rw [hkeeps.config_eq, h.timeout]
  obtain ⟨hsame, hidle, hwaits⟩ :=
    waits_after_answer hpending hkind htimeout hsize' s'.spMsg.contents x.addrLocal
  rw [← hc', ← hrequest] at hwaits
  rw [← hc'] at hsame hidle
  have hkeeps' : Keeps c s'.clientlogic := by
    rw [hc']
    exact keeps_of_steps (({ client := c } : Exchange).receive_steps
      ⟨s'.spMsg.contents, x.addrLocal, x.addrLocal⟩)
  have hall := hkeeps.trans hkeeps'
  have hahead := testsAhead_of_message h.attempts hmessage
  refine ⟨⟨hall.init_eq.trans h.init, ?_, ?_, ?_, hidle, hsize'⟩, hsame ▸ hahead, hwaits⟩
  · rw [hall.config_eq]
    exact h.timeout
  · rw [hall.config_eq]
    exact h.attempts
  · rw [hall.kinds_eq]
    exact h.kinds

/-- A round that leaves the loop has not failed to initialize the client, and has no more rounds to
come. -/
theorem tcpClientRound_ne {x : TcpExchange} {s : TcpLoopState} {outcome : TcpOutcome}
    (h : tcpClientRound x s = .inr outcome) :
    outcome ≠ .running ∧ ∀ hr, outcome ≠ .initializeFailed hr := by
  unfold tcpClientRound at h
  split at h
  · cases h
    exact ⟨nofun, nofun⟩
  · split at h
    · split at h
      · cases h
        exact ⟨nofun, nofun⟩
      · cases h
        exact ⟨nofun, nofun⟩
    · split at h
      · rename_i hconverse
        cases h
        have hsocket := atSocket_of_tcpConverse hconverse
        exact ⟨fun heq => by rw [heq] at hsocket; exact hsocket,
          fun hr heq => by rw [heq] at hsocket; exact hsocket⟩
      · cases h

/-! ## Calls that do not return -/

/-- The answers to `send` run out before the whole message is taken. -/
def SendStalls (bytes_to_send : ℕ) (sends : List (Except ℤ ℕ)) : Prop :=
  ∃ taken : List ℕ, sends = taken.map .ok ∧ taken.sum < bytes_to_send

/-- The calls of `send` take the whole message. -/
def SendsAll (bytes_to_send : ℕ) (sends : List (Except ℤ ℕ)) : Prop :=
  ∃ (taken : List ℕ) (rest : List (Except ℤ ℕ)),
    sends = taken.map .ok ++ rest ∧ bytes_to_send ≤ taken.sum

/-- The reader asks for octets that there is room for. -/
def AsksForMore (max_bytes_recv : ℕ) (p : List UInt8 × CStunMessageReader) : Prop :=
  0 < p.2.howManyBytesNeeded.toNat ∧ p.1.length + p.2.howManyBytesNeeded.toNat ≤ max_bytes_recv

instance (max_bytes_recv : ℕ) (p : List UInt8 × CStunMessageReader) :
    Decidable (AsksForMore max_bytes_recv p) :=
  inferInstanceAs (Decidable (_ ∧ _))

/-- The octets that have come and the reader, when `recv` gives some of what the reader asks for. -/
def recvPiece (p : List UInt8 × CStunMessageReader) (bs : List UInt8) :
    List UInt8 × CStunMessageReader :=
  let piece := bs.take p.2.howManyBytesNeeded.toNat
  (p.1 ++ piece, (p.2.addBytes piece).2)

/-- The answers to `recv` run out while the reader asks for more: all of them are octets, and the
server has not closed the connection. -/
def RecvStalls (max_bytes_recv : ℕ) (p : List UInt8 × CStunMessageReader)
    (recvs : List (Except ℤ (List UInt8))) : Prop :=
  ∃ pieces : List (List UInt8), recvs = pieces.map .ok ∧ [] ∉ pieces ∧
    ∀ pre, pre <+: pieces → AsksForMore max_bytes_recv (pre.foldl recvPiece p)

/-- The loop that sends blocks exactly when the answers run out. -/
theorem tcpSendLoop_eq_blocked_iff {bytes_to_send : ℕ} (sends : List (Except ℤ ℕ))
    (bytes_sent : ℕ) :
    tcpSendLoop bytes_to_send bytes_sent sends = .blocked ↔
      SendStalls (bytes_to_send - bytes_sent) sends := by
  induction sends generalizing bytes_sent with
  | nil =>
    unfold tcpSendLoop SendStalls
    split_ifs with hlt
    · exact iff_of_true rfl ⟨[], rfl, by simpa using Nat.sub_pos_of_lt hlt⟩
    · exact iff_of_false nofun fun ⟨_, _, hsum⟩ => by omega
  | cons answer sends ih =>
    unfold tcpSendLoop
    split_ifs with hlt
    · cases answer with
      | error errno =>
        refine iff_of_false nofun fun ⟨taken, heq, _⟩ => ?_
        cases taken <;> cases heq
      | ok n =>
        -- What this call takes counts towards the message.
        show tcpSendLoop bytes_to_send _ sends = .blocked ↔ _
        rw [ih]
        constructor
        · rintro ⟨taken, rfl, hsum⟩
          exact ⟨n :: taken, rfl, by rw [List.sum_cons]; omega⟩
        · rintro ⟨taken, heq, hsum⟩
          cases taken with
          | nil => cases heq
          | cons m taken =>
            cases heq
            rw [List.sum_cons] at hsum
            exact ⟨taken, rfl, by omega⟩
    · exact iff_of_false nofun fun ⟨_, _, hsum⟩ => by omega

/-- The loop that sends is done exactly when the calls have taken the whole message. -/
theorem tcpSendLoop_eq_done_iff {bytes_to_send : ℕ} (sends : List (Except ℤ ℕ))
    (bytes_sent : ℕ) :
    tcpSendLoop bytes_to_send bytes_sent sends = .done () ↔
      SendsAll (bytes_to_send - bytes_sent) sends := by
  induction sends generalizing bytes_sent with
  | nil =>
    unfold tcpSendLoop
    split_ifs with hlt
    · refine iff_of_false nofun fun ⟨taken, rest, heq, hsum⟩ => ?_
      obtain ⟨htaken, -⟩ := List.append_eq_nil_iff.mp heq.symm
      rw [List.map_eq_nil_iff.mp htaken, List.sum_nil] at hsum
      omega
    · exact iff_of_true rfl ⟨[], [], rfl, by omega⟩
  | cons answer sends ih =>
    unfold tcpSendLoop
    split_ifs with hlt
    · cases answer with
      | error errno =>
        refine iff_of_false nofun fun ⟨taken, rest, heq, hsum⟩ => ?_
        cases taken with
        | nil => rw [List.sum_nil] at hsum; omega
        | cons _ _ => cases heq
      | ok n =>
        -- What this call takes counts towards the message.
        show tcpSendLoop bytes_to_send _ sends = .done () ↔ _
        rw [ih]
        constructor
        · rintro ⟨taken, rest, rfl, hsum⟩
          exact ⟨n :: taken, rest, rfl, by rw [List.sum_cons]; omega⟩
        · rintro ⟨taken, rest, heq, hsum⟩
          cases taken with
          | nil => rw [List.sum_nil] at hsum; omega
          | cons m taken =>
            cases heq
            rw [List.sum_cons] at hsum
            exact ⟨taken, rest, rfl, by omega⟩
    · exact iff_of_true rfl ⟨[], answer :: sends, rfl, by omega⟩

/-- `recv` has given some octets: the answers after it run out exactly when these do. -/
theorem recvStalls_cons_iff {max_bytes_recv : ℕ} {p : List UInt8 × CStunMessageReader}
    (hask : AsksForMore max_bytes_recv p) {bs : List UInt8} (hbs : bs ≠ [])
    (recvs : List (Except ℤ (List UInt8))) :
    RecvStalls max_bytes_recv p (.ok bs :: recvs) ↔
      RecvStalls max_bytes_recv (recvPiece p bs) recvs := by
  constructor
  · rintro ⟨pieces, heq, hne, hall⟩
    cases pieces with
    | nil => cases heq
    | cons piece pieces =>
      cases heq
      exact ⟨pieces, rfl, fun hmem => hne (List.mem_cons_of_mem _ hmem), fun pre hpre =>
        hall (bs :: pre) (List.cons_prefix_cons.mpr ⟨rfl, hpre⟩)⟩
  · rintro ⟨pieces, rfl, hne, hall⟩
    refine ⟨bs :: pieces, rfl, List.not_mem_cons_of_ne_of_not_mem hbs.symm hne, fun pre hpre => ?_⟩
    rcases List.prefix_cons_iff.mp hpre with rfl | ⟨pre', rfl, hpre'⟩
    · exact hask
    · exact hall pre' hpre'

/-- The loop that reads calls `recv` exactly as long as the reader asks for more. -/
theorem tcpRecvLoop_eq {max_bytes_recv : ℕ} (p : List UInt8 × CStunMessageReader)
    (recvs : List (Except ℤ (List UInt8))) :
    tcpRecvLoop max_bytes_recv p.1 p.2 recvs =
      if AsksForMore max_bytes_recv p then
        match recvs with
        | [] => .blocked
        | .error errno :: _ => .failed errno
        | .ok bs :: recvs =>
          if bs = [] then .done p
          else tcpRecvLoop max_bytes_recv (recvPiece p bs).1 (recvPiece p bs).2 recvs
      else .done p := by
  conv_lhs => unfold tcpRecvLoop
  dsimp only
  by_cases hask : AsksForMore max_bytes_recv p
  · obtain ⟨hneeded, hroom⟩ := id hask
    rw [if_pos hask, if_pos (by omega), if_neg (by omega), if_neg (by omega)]
    cases recvs with
    | nil => rfl
    | cons answer recvs =>
      cases answer with
      | error errno => rfl
      | ok bs =>
        -- The reader asks for something, so what `recv` gives of it is empty only at the end.
        have htake : bs.take p.2.howManyBytesNeeded.toNat = [] ↔ bs = [] := by
          rw [List.take_eq_nil_iff]
          exact or_iff_right (by omega)
        simp only [htake]
        rfl
  · rw [if_neg hask]
    unfold AsksForMore at hask
    split_ifs
    · rfl
    · rfl
    · omega
    · rfl

/-- The loop that reads blocks exactly when the answers run out. -/
theorem tcpRecvLoop_eq_blocked_iff {max_bytes_recv : ℕ} (recvs : List (Except ℤ (List UInt8)))
    (p : List UInt8 × CStunMessageReader) :
    tcpRecvLoop max_bytes_recv p.1 p.2 recvs = .blocked ↔ RecvStalls max_bytes_recv p recvs := by
  induction recvs generalizing p with
  | nil =>
    rw [tcpRecvLoop_eq]
    split_ifs with hask
    · refine iff_of_true rfl ⟨[], rfl, List.not_mem_nil, fun pre hpre => ?_⟩
      rw [List.prefix_nil.mp hpre]
      exact hask
    · exact iff_of_false nofun fun ⟨_, _, _, hall⟩ => hask (hall [] List.nil_prefix)
  | cons answer recvs ih =>
    rw [tcpRecvLoop_eq]
    split_ifs with hask
    · cases answer with
      | error errno =>
        refine iff_of_false nofun fun ⟨pieces, heq, _⟩ => ?_
        cases pieces <;> cases heq
      | ok bs =>
        dsimp only
        split_ifs with hbs
        · -- The server has closed the connection.
          refine iff_of_false nofun fun ⟨pieces, heq, hne, _⟩ => ?_
          cases pieces with
          | nil => cases heq
          | cons piece pieces =>
            cases heq
            exact hne (hbs ▸ List.mem_cons_self)
        · rw [ih, recvStalls_cons_iff hask hbs]
    · exact iff_of_false nofun fun ⟨_, _, _, hall⟩ => hask (hall [] List.nil_prefix)

/-- Connecting and talking blocks exactly when the server takes nothing more of the message, or
gives nothing more of what the reader asks for, and does not close the connection. -/
theorem tcpConverse_eq_blocked_iff {x : TcpExchange} {spMsg : CBuffer}
    {reader : CStunMessageReader} :
    tcpConverse x spMsg reader = .inr .blocked ↔ x.connect = none ∧
      (SendStalls spMsg.contents.length x.sends ∨ SendsAll spMsg.contents.length x.sends ∧
        RecvStalls spMsg.getAllocatedSize ([], reader) x.recvs) := by
  have hblocked := @tcpSendLoop_eq_blocked_iff spMsg.contents.length x.sends 0
  have hdone := @tcpSendLoop_eq_done_iff spMsg.contents.length x.sends 0
  rw [Nat.sub_zero] at hblocked hdone
  rw [← hblocked, ← hdone, ← tcpRecvLoop_eq_blocked_iff]
  unfold tcpConverse
  cases x.connect with
  | some errno => exact iff_of_false nofun fun h => nomatch h.1
  | none =>
    rw [and_iff_right rfl]
    cases tcpSendLoop spMsg.contents.length 0 x.sends with
    | failed errno => simp
    | blocked => simp
    | done _ =>
      cases tcpRecvLoop spMsg.getAllocatedSize [] reader x.recvs <;> simp

/-- A call on a socket does not return in the exchange: the server takes nothing more of the
request, or it sends nothing more of what the reader asks for, and leaves the connection open. -/
def TcpExchange.Hangs (x : TcpExchange) (s : TcpLoopState) : Prop :=
  ¬failed x.tcpInit ∧ ∃ spMsg addrDest clientlogic,
    s.clientlogic.getNextMessage x.rand x.stack s.spMsg x.timeCurrentMilliseconds =
      (.ok (spMsg, addrDest), clientlogic) ∧
    x.connect = none ∧ (SendStalls spMsg.contents.length x.sends ∨
      SendsAll spMsg.contents.length x.sends ∧ RecvStalls spMsg.getAllocatedSize
        ([], s.reader.reset.attachStream s.spMsgReader) x.recvs)

/-- A round blocks exactly when a call in it does not return. -/
theorem tcpClientRound_eq_blocked_iff {x : TcpExchange} {s : TcpLoopState} :
    tcpClientRound x s = .inr .blocked ↔ x.Hangs s := by
  unfold tcpClientRound TcpExchange.Hangs
  simp only [← tcpConverse_eq_blocked_iff]
  split_ifs with hinit
  · exact iff_of_false nofun fun h => h.1 hinit
  · rw [and_iff_right hinit]
    split
    · rename_i hmessage
      refine iff_of_false (fun h => ?_) fun ⟨_, _, _, heq, _⟩ => ?_
      · split_ifs at h <;> cases h
      · rw [hmessage] at heq
        cases heq
    · rename_i spMsg addrDest clientlogic hmessage
      constructor
      · intro h
        refine ⟨spMsg, addrDest, clientlogic, hmessage, ?_⟩
        split at h
        · rename_i outcome hconverse
          cases h
          exact hconverse
        · cases h
      · rintro ⟨_, _, _, heq, hconverse⟩
        rw [hmessage] at heq
        cases heq
        rw [hconverse]

/-! ## The loop -/

/-- Every answer that is not the last one is acceptable, or the client takes three seconds until it
asks for the next message, or it does not come to ask for one. -/
def AnsweredInTime : List TcpExchange → TcpLoopState → Prop
  | x :: x' :: xs, s =>
    ∀ s', tcpClientRound x s = .inl s' →
      (failed x'.tcpInit ∨ AcceptableAnswer (tcpRequest x s) s'.spMsg.contents ∨
        3000 ≤ (x'.timeCurrentMilliseconds - x.timeCurrentMilliseconds).toNat) ∧
      AnsweredInTime (x' :: xs) s'
  | _, _ => True

/-- A round that does not leave the loop hands its state to the rest. -/
theorem tcpClientRounds_of_inl {x : TcpExchange} {s s' : TcpLoopState}
    (hround : tcpClientRound x s = .inl s') (xs : List TcpExchange) :
    tcpClientRounds (x :: xs) s = tcpClientRounds xs s' := by
  conv_lhs => unfold tcpClientRounds
  rw [hround]

/-- A round that leaves the loop is the last one. -/
theorem tcpClientRounds_of_inr {x : TcpExchange} {s : TcpLoopState} {outcome : TcpOutcome}
    (hround : tcpClientRound x s = .inr outcome) (xs : List TcpExchange) :
    tcpClientRounds (x :: xs) s = outcome := by
  unfold tcpClientRounds
  rw [hround]

/-- When the first round leaves the loop no answer is late. -/
theorem answeredInTime_of_inr {x : TcpExchange} {s : TcpLoopState} {outcome : TcpOutcome}
    (hround : tcpClientRound x s = .inr outcome) (xs : List TcpExchange) :
    AnsweredInTime (x :: xs) s := by
  cases xs with
  | nil => trivial
  | cons x' xs =>
    intro s' hs'
    rw [hround] at hs'
    cases hs'

/-- After a round that does not leave the loop the answers are in time when its own is and those of
the rest are. -/
theorem answeredInTime_of_inl {x : TcpExchange} {s s' : TcpLoopState}
    (hround : tcpClientRound x s = .inl s') (x' : TcpExchange) (xs : List TcpExchange) :
    AnsweredInTime (x :: x' :: xs) s ↔
      (failed x'.tcpInit ∨ AcceptableAnswer (tcpRequest x s) s'.spMsg.contents ∨
        3000 ≤ (x'.timeCurrentMilliseconds - x.timeCurrentMilliseconds).toNat) ∧
      AnsweredInTime (x' :: xs) s' := by
  constructor
  · exact fun hall => hall s' hround
  · rintro hboth s'' hs''
    rw [hround] at hs''
    cases hs''
    exact hboth

/-- The rounds end with the results, at a socket, or not yet, if and only if every answer comes in
time. -/
theorem tcpClientRounds_waits_iff {s : TcpLoopState} (h : TcpReady s) (exchanges : List TcpExchange)
    (hfirst : ∀ x ∈ exchanges.head?, tcpClientRound x s ≠
      .inr (.nextMessageFailed E_STUNCLIENT_STILL_WAITING)) :
    tcpClientRounds exchanges s = .nextMessageFailed E_STUNCLIENT_STILL_WAITING ↔
      ¬AnsweredInTime exchanges s := by
  induction exchanges generalizing s with
  | nil => simp [tcpClientRounds, AnsweredInTime]
  | cons x xs ih =>
    have hx := hfirst x rfl
    cases hround : tcpClientRound x s with
    | inr outcome =>
      have hne : outcome ≠ .nextMessageFailed E_STUNCLIENT_STILL_WAITING := fun heq =>
        hx (heq ▸ hround)
      rw [tcpClientRounds_of_inr hround xs]
      exact ⟨fun heq => absurd heq hne, fun hnot => absurd (answeredInTime_of_inr hround xs) hnot⟩
    | inl s' =>
      obtain ⟨hready, -, hwaits⟩ := h.round hround
      rw [tcpClientRounds_of_inl hround xs]
      cases xs with
      | nil => simp [tcpClientRounds, AnsweredInTime]
      | cons x' xs =>
        have hstep : tcpClientRound x' s' = .inr (.nextMessageFailed E_STUNCLIENT_STILL_WAITING) ↔
            ¬(failed x'.tcpInit ∨ AcceptableAnswer (tcpRequest x s) s'.spMsg.contents ∨
              3000 ≤ (x'.timeCurrentMilliseconds - x.timeCurrentMilliseconds).toNat) := by
          rw [tcpClientRound_eq_nextMessageFailed_iff, hwaits, not_or, not_or, not_le]
          exact and_congr_right fun _ => and_iff_right (by decide)
        rw [answeredInTime_of_inl hround x' xs]
        -- Either the next round does not wait, and the rest decides, or it is where the loop ends.
        by_cases hcond : failed x'.tcpInit ∨
            AcceptableAnswer (tcpRequest x s) s'.spMsg.contents ∨
            3000 ≤ (x'.timeCurrentMilliseconds - x.timeCurrentMilliseconds).toNat
        · rw [and_iff_right hcond]
          refine ih hready fun y hy => ?_
          obtain rfl := Option.some.inj hy
          exact fun hwait => (hstep.mp hwait) hcond
        · have hresult := tcpClientRounds_of_inr (hstep.mpr hcond) xs
          exact iff_of_true hresult fun hboth => hcond hboth.1

/-- No call on a socket fails to return. -/
def NeverHangs : List TcpExchange → TcpLoopState → Prop
  | [], _ => True
  | x :: xs, s => ¬x.Hangs s ∧ ∀ s', tcpClientRound x s = .inl s' → NeverHangs xs s'

/-- The rounds come to an exchange in which a call does not return, unless there is none. -/
theorem tcpClientRounds_eq_blocked_iff (exchanges : List TcpExchange) (s : TcpLoopState) :
    tcpClientRounds exchanges s = .blocked ↔ ¬NeverHangs exchanges s := by
  induction exchanges generalizing s with
  | nil => simp [tcpClientRounds, NeverHangs]
  | cons x xs ih =>
    unfold NeverHangs
    cases hround : tcpClientRound x s with
    | inr outcome =>
      rw [tcpClientRounds_of_inr hround xs, ← tcpClientRound_eq_blocked_iff, hround, Sum.inr.injEq]
      simp
    | inl s' =>
      have hreturns : ¬x.Hangs s := by
        rw [← tcpClientRound_eq_blocked_iff, hround]
        exact nofun
      rw [tcpClientRounds_of_inl hround xs, ih, and_iff_right hreturns]
      simp

/-- Every round that does not leave the loop is one for another test. -/
theorem length_le_of_running {s : TcpLoopState} (h : TcpReady s) {exchanges : List TcpExchange}
    (hrunning : tcpClientRounds exchanges s = .running) :
    exchanges.length ≤ s.clientlogic.testsAhead := by
  induction exchanges generalizing s with
  | nil => exact Nat.zero_le _
  | cons x xs ih =>
    unfold tcpClientRounds at hrunning
    split at hrunning
    · rename_i s' hround
      obtain ⟨hready, hless, -⟩ := h.round hround
      exact (ih hready hrunning).trans_lt hless
    · rename_i outcome hround
      subst hrunning
      exact absurd rfl (tcpClientRound_ne hround).1

/-- The rounds begin with a client that is initialized. -/
theorem tcpClientRounds_ne_initializeFailed (exchanges : List TcpExchange) (s : TcpLoopState)
    (hr : HRESULT) : tcpClientRounds exchanges s ≠ .initializeFailed hr := by
  induction exchanges generalizing s with
  | nil => exact nofun
  | cons x xs ih =>
    cases hround : tcpClientRound x s with
    | inr outcome =>
      rw [tcpClientRounds_of_inr hround xs]
      exact (tcpClientRound_ne hround).2 hr
    | inl s' =>
      rw [tcpClientRounds_of_inl hround xs]
      exact ih s'

/-- `GetNextMessage` does not fail in the loop but for a reason that the client has. -/
theorem waits_of_nextMessageFailed {s : TcpLoopState} (h : TcpReady s)
    {exchanges : List TcpExchange} {hr : HRESULT}
    (hfailed : tcpClientRounds exchanges s = .nextMessageFailed hr) :
    hr = E_STUNCLIENT_STILL_WAITING := by
  induction exchanges generalizing s with
  | nil => cases hfailed
  | cons x xs ih =>
    unfold tcpClientRounds at hfailed
    split at hfailed
    · rename_i s' hround
      exact ih (h.round hround).1 hfailed
    · rename_i outcome hround
      subst hfailed
      obtain ⟨-, hready, hmessage⟩ := tcpClientRound_eq_nextMessageFailed_iff.mp hround
      obtain ⟨c₁, -, hlast⟩ := @getNextMessage_cases x.rand x.stack s.spMsg
        x.timeCurrentMilliseconds s.clientlogic h.init h.size
      generalize s.clientlogic.getNextMessage x.rand x.stack s.spMsg x.timeCurrentMilliseconds =
        result at hmessage hlast
      cases hlast with
      | resultsReady _ => exact absurd (Except.error.inj hmessage).symm hready
      | stillWaiting _ _ _ _ _ => exact (Except.error.inj hmessage).symm
      | message _ _ _ _ _ _ => cases hmessage

/-- The loop has ended with the results reported, or with a failure at a socket. -/
def TcpOutcome.Clean : TcpOutcome → Prop
  | reported _ | tcpInitFailed _ | connectFailed _ | sendFailed _ | recvFailed _ => True
  | _ => False

/-- The rounds end with the results or with a failure at a socket, or there are more to come, unless
the client waits or a call does not return. -/
theorem tcpClientRounds_clean_iff {s : TcpLoopState} (h : TcpReady s)
    (exchanges : List TcpExchange) :
    (tcpClientRounds exchanges s).Clean ∨ tcpClientRounds exchanges s = .running ↔
      tcpClientRounds exchanges s ≠ .nextMessageFailed E_STUNCLIENT_STILL_WAITING ∧
        tcpClientRounds exchanges s ≠ .blocked := by
  have hwaits : ∀ hr, tcpClientRounds exchanges s = .nextMessageFailed hr →
      hr = E_STUNCLIENT_STILL_WAITING := fun _ => waits_of_nextMessageFailed h
  have hinit := tcpClientRounds_ne_initializeFailed exchanges s
  generalize tcpClientRounds exchanges s = outcome at hwaits hinit
  cases outcome with
  | initializeFailed hr => exact absurd rfl (hinit hr)
  | nextMessageFailed hr =>
    rw [hwaits hr rfl]
    simp [TcpOutcome.Clean]
  | _ => simp [TcpOutcome.Clean]

/-- The loop is ready when the client is new. -/
theorem tcpReady_initialized {config : StunClientLogicConfig}
    (hinstant : config.fTimeoutIsInstant = false)
    (htimeout : config.timeoutSeconds = 0) (hattempts : config.uMaxAttempts = 1)
    (hfiltering : config.fFilteringTest = false) :
    TcpReady { clientlogic := initialized config } ∧
      (initialized config).testsAhead ≤ 3 := by
  have hkinds : (initialized config).testlist.map StunClientTest.kind = config.kinds := by
    unfold initialized
    rw [List.map_map]
    exact List.map_id _
  constructor
  · exact {
      init := rfl
      timeout := by
        unfold initialized StunClientLogicConfig.withDefaults
        simp [hinstant, htimeout]
      attempts := by
        unfold initialized StunClientLogicConfig.withDefaults
        simp [hattempts]
      kinds := by
        rw [hkinds]
        unfold StunClientLogicConfig.kinds
        rw [hfiltering]
        cases config.fBehaviorTest <;> simp
      idle := fun _ => rfl
      size := by
        show 800 ≤ (List.replicate 1500 (0 : UInt8)).length
        rw [List.length_replicate]
        decide }
  · -- There are the binding test and, in the other modes, the two behavior tests.
    have hlength : (initialized config).testlist.length = config.kinds.length := by
      rw [← hkinds, List.length_map]
    unfold testsAhead
    rw [hlength]
    unfold StunClientLogicConfig.kinds
    rw [hfiltering]
    cases config.fBehaviorTest <;> simp [initialized]

/-- A configuration from the command line for TCP: the loop ends with the results reported or with a
failure at a socket, in four rounds at most, if and only if the server has an address that is not
zero, no call on a socket fails to return and every answer comes in time. Otherwise the client is
not initialized, a call does not return, or the loop is left because the client would have to
wait. -/
theorem tcpClientLoop_clean_iff
    {resolveHostName : CString → Family → Except HRESULT CSocketAddress}
    {getSocketAddressForAdapter : Family → CString → UInt16 → Except HRESULT CSocketAddress}
    {args : ClientCmdLineArgs} {config : StunClientLogicConfig} {socketconfig : ClientSocketConfig}
    (h : createConfigFromCommandLine resolveHostName getSocketAddressForAdapter args =
      .ok (config, socketconfig))
    (htcp : socketconfig.socktype = .stream) (exchanges : List TcpExchange) :
    ((tcpClientLoop config exchanges).Clean ∨
        tcpClientLoop config exchanges = .running ∧ exchanges.length ≤ 3 ↔
      config.addrServer.isIPAddressZero = false ∧
        NeverHangs exchanges { clientlogic := initialized config } ∧
        AnsweredInTime exchanges { clientlogic := initialized config }) ∧
    (tcpClientLoop config exchanges = .initializeFailed E_INVALIDARG ↔
      config.addrServer.isIPAddressZero = true) ∧
    (config.addrServer.isIPAddressZero = false →
      (tcpClientLoop config exchanges = .blocked ↔
        ¬NeverHangs exchanges { clientlogic := initialized config }) ∧
      (tcpClientLoop config exchanges = .nextMessageFailed E_STUNCLIENT_STILL_WAITING ↔
        ¬AnsweredInTime exchanges { clientlogic := initialized config })) := by
  have hport := createConfigFromCommandLine_port h
  obtain ⟨hinstant, htimeout, hstream, -⟩ := createConfigFromCommandLine_eq_ok h
  obtain ⟨hattempts, hfiltering⟩ := hstream htcp
  obtain ⟨hready, hahead⟩ := tcpReady_initialized hinstant htimeout hattempts hfiltering
  cases hzero : config.addrServer.isIPAddressZero with
  | true =>
    have hloop : tcpClientLoop config exchanges = .initializeFailed E_INVALIDARG := by
      unfold tcpClientLoop
      rw [initializeLogic_zero hzero]
    rw [hloop]
    refine ⟨iff_of_false ?_ fun hall => Bool.noConfusion hall.1, iff_of_true rfl rfl, nofun⟩
    rintro (hclean | ⟨hrunning, -⟩)
    · exact hclean
    · cases hrunning
  | false =>
    have hloop : tcpClientLoop config exchanges =
        tcpClientRounds exchanges { clientlogic := initialized config } := by
      unfold tcpClientLoop
      rw [initializeLogic_eq_ok_iff.mpr ⟨hzero, hport, rfl⟩]
    rw [hloop]
    -- A new client has sent nothing that it could wait for.
    have hfirst : ∀ x ∈ exchanges.head?, tcpClientRound x { clientlogic := initialized config } ≠
        .inr (.nextMessageFailed E_STUNCLIENT_STILL_WAITING) := by
      intro x _ hwaits
      obtain ⟨-, -, hmessage⟩ := tcpClientRound_eq_nextMessageFailed_iff.mp hwaits
      obtain ⟨_, -, -, hwaiting⟩ := waits_for_current hready.idle hmessage
      rw [stillWaiting_of_sendCount rfl] at hwaiting
      cases hwaiting
    have hwaits := tcpClientRounds_waits_iff hready exchanges hfirst
    have hblocked := tcpClientRounds_eq_blocked_iff exchanges { clientlogic := initialized config }
    refine ⟨?_, iff_of_false (tcpClientRounds_ne_initializeFailed _ _ _) nofun,
      fun _ => ⟨hblocked, hwaits⟩⟩
    -- As long as there are more rounds to come, there have not been more than there are tests.
    have hrunning :
        ∀ {p : Prop}, (p ∨ tcpClientRounds exchanges { clientlogic := initialized config } =
          .running ∧ exchanges.length ≤ 3 ↔
        p ∨ tcpClientRounds exchanges { clientlogic := initialized config } = .running) :=
      or_congr_right (and_iff_left_of_imp fun heq => (length_le_of_running hready heq).trans hahead)
    rw [hrunning, tcpClientRounds_clean_iff hready, and_iff_right rfl, ne_eq, hwaits,
      ne_eq, hblocked, not_not, not_not, and_comm]

/-! ## A server that closes the connection -/

/-- `stun` as a host, over TCP. -/
def tcpArgs : ClientCmdLineArgs where
  strRemoteServer := ⟨[115, 116, 117, 110], by decide⟩
  strProtocol := OptionValue.tcp

/-- Every host is 1.1.1.1. -/
def oneHost : CString → Family → Except HRESULT CSocketAddress := fun _ _ =>
  .ok (CSocketAddress.ofHostByteOrder 0x01010101 0)

/-- The machine has no adapters. -/
def noAdapters : Family → CString → UInt16 → Except HRESULT CSocketAddress := fun _ _ _ =>
  .error E_FAIL

/-- The configuration of these arguments. -/
def tcpConfig : StunClientLogicConfig where
  addrServer := CSocketAddress.ofHostByteOrder 0x01010101 3478
  uMaxAttempts := 1

/-- An exchange at a time, in which the server closes the connection when it has the request. -/
def closedExchange (time : UInt32) : TcpExchange where
  timeCurrentMilliseconds := time
  rand := fun _ => 1
  stack := StunTransactionId.zero
  sends := [.ok 28]
  recvs := [.ok []]
  addrLocal := CSocketAddress.ofHostByteOrder 0x0A000001 5000

/-- The arguments make the configuration. -/
theorem createConfig_tcpArgs : createConfigFromCommandLine oneHost noAdapters tcpArgs =
    .ok (tcpConfig, ⟨.inet, .stream, CSocketAddress.zero⟩) := rfl

/-- The client is over TCP, and the loop is left because it would have to wait. -/
theorem closed_waits :
    ∃ config socketconfig, createConfigFromCommandLine oneHost noAdapters tcpArgs =
        .ok (config, socketconfig) ∧ socketconfig.socktype = .stream ∧
      tcpClientLoop config [closedExchange 0, closedExchange 100] =
        .nextMessageFailed E_STUNCLIENT_STILL_WAITING :=
  ⟨tcpConfig, _, createConfig_tcpArgs, rfl, by decide +kernel⟩

/-- With three seconds between the two messages the test times out, and the results are reported. -/
theorem tcpClientLoop_clean_iff_closed :
    NeverHangs [closedExchange 0, closedExchange 3000] { clientlogic := initialized tcpConfig } ∧
    AnsweredInTime [closedExchange 0, closedExchange 3000]
      { clientlogic := initialized tcpConfig } ∧
    (tcpClientLoop tcpConfig [closedExchange 0, closedExchange 3000]).Clean := by
  obtain ⟨hiff, -, hrest⟩ := tcpClientLoop_clean_iff createConfig_tcpArgs rfl
    [closedExchange 0, closedExchange 3000]
  have haddress : tcpConfig.addrServer.isIPAddressZero = false := by decide +kernel
  obtain ⟨hblocked, -⟩ := hrest haddress
  have hlate : 3000 ≤ ((closedExchange 3000).timeCurrentMilliseconds -
      (closedExchange 0).timeCurrentMilliseconds).toNat := by decide +kernel
  have hanswered : AnsweredInTime [closedExchange 0, closedExchange 3000]
      { clientlogic := initialized tcpConfig } := by
    intro s' _
    exact ⟨.inr (.inr hlate), trivial⟩
  have hreturns : tcpClientLoop tcpConfig [closedExchange 0, closedExchange 3000] ≠ .blocked ∧
      tcpClientLoop tcpConfig [closedExchange 0, closedExchange 3000] ≠ .running := by
    decide +kernel
  have hnever := not_not.mp fun hhangs => hreturns.1 (hblocked.mpr hhangs)
  have hclean := hiff.mpr ⟨haddress, hnever, hanswered⟩
  refine ⟨hnever, hanswered, ?_⟩
  generalize tcpClientLoop tcpConfig [closedExchange 0, closedExchange 3000] = outcome
    at hclean hreturns ⊢
  exact hclean.resolve_right fun hrunning => hreturns.2 hrunning.1

end Stun
