import StunForAndroid.StunCore.ClientHistory

/-!
# Runs with an honest server

A run of the client follows a `History`: `Phase` says where the client is with the current test,
what has been sent and received for the tests before it, and that the results are those of the
history. Each round of `GetNextMessage` and each answer that is delivered keeps a phase
(`Phase.round`, `Phase.message`, `Phase.receive_own`, `Phase.receive_other`).
-/

namespace Stun

open CStunClientLogic CStunMessageReader

/-! ## What has been sent and received -/

/-- A request was sent for a test. -/
def Asked (sent : List Sent) (i : ℕ) : Prop := ∃ request ∈ sent, request.test = i

/-- A test was answered: while it was the current one, an answer to a request was delivered that had
been sent for it. -/
def Answered (net : Network) (sent : List Sent) (received : List Received) (i : ℕ) : Prop :=
  ∃ d ∈ received, d.test = i ∧
    ∃ request ∈ sent.take d.sentBefore, request.test = i ∧ net.Answers request d.octets

/-- The outcomes agree with what has been sent and received. -/
def Agrees (net : Network) (sent : List Sent) (received : List Received) (hist : List Outcome) :
    Prop :=
  ∀ (i : ℕ) (o : Outcome), hist[i]? = some o →
    (o = .skipped ↔ ¬Asked sent i) ∧ (o = .answered ↔ Answered net sent received i)

/-- What is so at any time: the client is initialized, has the tests of the configuration, and has
sent the requests of these tests to the addresses of the server. -/
structure Running (net : Network) (config : StunClientLogicConfig) (c : CStunClientLogic)
    (sent : List Sent) (received : List Received) : Prop where
  init : c.fInitialized = true
  config_eq : c.config = config.withDefaults
  kinds_eq : c.testlist.map StunClientTest.kind = config.kinds
  /-- A request is one of a test that the client has come to. -/
  requests : ∀ request ∈ sent, request.test ≤ c.nTestIndex ∧
    ∃ t, c.testlist[request.test]? = some t ∧ isTransactionIdValid t.transid = true ∧
      request.octets = (requestDraft t.transid t.changeOf).octets ∧
      request.addrDest = net.server.addr (net.destination t.kind)
  sentBefore_le : ∀ d ∈ received, d.sentBefore ≤ sent.length

/-- The tests from an index on are as `Initialize` has made them. -/
def Ahead (c : CStunClientLogic) (i : ℕ) : Prop :=
  ∀ j, i ≤ j → ∀ t, c.testlist[j]? = some t → t = { kind := t.kind }

/-- Where the client is with the current test. A test that has timed out is the current one only
when `late`: no longer between two calls. -/
inductive Phase (net : Network) (config : StunClientLogicConfig) (late : Prop)
    (c : CStunClientLogic) (sent : List Sent) (received : List Received) : Prop
  /-- The test has not had its early chance, or there is no test left. -/
  | unchecked (running : Running net config c sent received) (hist : List Outcome)
      (history : History net config hist c.results) (agrees : Agrees net sent received hist)
      (length : hist.length = c.nTestIndex) (check : c.fPreCheckRunOnTest = false)
      (count : c.sendCount = 0) (ahead : Ahead c c.nTestIndex) (notAsked : ¬Asked sent c.nTestIndex)
  /-- The test can send requests, or has sent some, and was not answered. -/
  | pending (running : Running net config c sent received) (hist : List Outcome)
      (history : History net config hist c.results) (agrees : Agrees net sent received hist)
      (length : hist.length = c.nTestIndex) (check : c.fPreCheckRunOnTest = true)
      (ahead : Ahead c (c.nTestIndex + 1)) (t : StunClientTest) (current : c.CurrentTest t)
      (notCompleted : t.fCompleted = false) (asks : t.kind.asks c.results = true)
      (asked : Asked sent c.nTestIndex ↔ isTransactionIdValid t.transid = true)
      (count : c.sendCount ≠ 0 → Asked sent c.nTestIndex)
      (notAnswered : ¬Answered net sent received c.nTestIndex)
  /-- The test has ended. -/
  | closed (running : Running net config c sent received) (hist : List Outcome) (o : Outcome)
      (history : History net config (hist ++ [o]) c.results)
      (agrees : Agrees net sent received (hist ++ [o]))
      (length : hist.length = c.nTestIndex) (check : c.fPreCheckRunOnTest = true)
      (ahead : Ahead c (c.nTestIndex + 1)) (t : StunClientTest) (current : c.CurrentTest t)
      (ended : t.fCompleted = true ∨
        t.isReadyToRun c.results = false ∧ isTransactionIdValid t.transid = false)
      (timedOut : o = .timedOut → late)

/-! ## The tests -/

/-- Whether a test is ready depends on its kind and on whether it has completed. -/
theorem StunClientTest.isReadyToRun_eq {t : StunClientTest} (h : t.fCompleted = false)
    (results : StunClientResults) :
    t.isReadyToRun results = ({ kind := t.kind } : StunClientTest).isReadyToRun results := by
  obtain ⟨kind, fCompleted, transid⟩ := t
  obtain rfl : fCompleted = false := h
  cases kind <;> rfl

/-- A test that asks is ready, and its early chance changes nothing. -/
theorem TestKind.asks_iff {kind : TestKind} {results : StunClientResults} :
    kind.asks results = true ↔
      ({ kind := kind } : StunClientTest).preRunCheck results = ({ kind := kind }, results) ∧
        ({ kind := kind } : StunClientTest).isReadyToRun results = true := by
  unfold asks prechecked
  rcases ({ kind := kind } : StunClientTest).preRunCheck_cases results with hdone | hsame
  · constructor
    · intro h
      rw [hdone] at h
      simp at h
    · rintro ⟨hsame, -⟩
      rw [hsame] at hdone
      cases hdone
  · rw [hsame]
    simp

/-- The transaction id of zeros is the one of a test that has sent nothing. -/
theorem isTransactionIdValid_zero : isTransactionIdValid StunTransactionId.zero = false := by decide

section Steps

variable {net : Network} {config : StunClientLogicConfig} {behavior : NatBehavior}
  {c c' : CStunClientLogic} {sent : List Sent} {received : List Received} {late : Prop}

/-- A step keeps what is so at any time. -/
theorem Running.keeps (h : Running net config c sent received) (hkeeps : Keeps c c') :
    Running net config c' sent received where
  init := hkeeps.init_eq.trans h.init
  config_eq := hkeeps.config_eq.trans h.config_eq
  kinds_eq := hkeeps.kinds_eq.trans h.kinds_eq
  requests request hrequest := by
    obtain ⟨hle, t, ht, hvalid, hoctets, hdest⟩ := h.requests request hrequest
    obtain ⟨t', ht', hkind, htransid⟩ := hkeeps.transid _ t ht hvalid
    have hchange : t'.changeOf = t.changeOf := by
      unfold StunClientTest.changeOf
      rw [hkind]
    exact ⟨hle.trans hkeeps.index_le, t', ht', by rw [htransid, hvalid],
      by rw [hoctets, htransid, hchange], by rw [hdest, hkind]⟩
  sentBefore_le := h.sentBefore_le

/-- The kind of the current test is that of the configuration. -/
theorem Running.kind_current (h : Running net config c sent received) {t : StunClientTest}
    (hcurrent : c.CurrentTest t) : config.kinds[c.nTestIndex]? = some t.kind := by
  unfold CurrentTest at hcurrent
  rw [← h.kinds_eq, List.getElem?_map, hcurrent, Option.map_some]

/-- Tests that the client has not come to are not asked. -/
theorem Running.not_asked (h : Running net config c sent received) {i : ℕ}
    (hi : c.nTestIndex < i) : ¬Asked sent i := by
  rintro ⟨request, hrequest, rfl⟩
  have hle := (h.requests request hrequest).1
  omega

/-- A test that was not asked was not answered. -/
theorem not_answered_of_not_asked {i : ℕ} (h : ¬Asked sent i) : ¬Answered net sent received i := by
  rintro ⟨d, -, -, request, hrequest, htest, -⟩
  exact h ⟨request, List.mem_of_mem_take hrequest, htest⟩

/-- One more outcome agrees when it says what was sent and received for its test. -/
theorem Agrees.append {hist : List Outcome} {o : Outcome} (h : Agrees net sent received hist)
    (hskipped : o = .skipped ↔ ¬Asked sent hist.length)
    (hanswered : o = .answered ↔ Answered net sent received hist.length) :
    Agrees net sent received (hist ++ [o]) := by
  intro i o' hi
  rcases lt_trichotomy i hist.length with hlt | rfl | hgt
  · rw [List.getElem?_append_left hlt] at hi
    exact h i o' hi
  · obtain rfl : o = o' := by simpa using hi
    exact ⟨hskipped, hanswered⟩
  · rw [List.getElem?_eq_none (by simp; omega)] at hi
    cases hi

/-- Tests ahead stay so when the current test is replaced. -/
theorem Ahead.withTest {result : StunClientTest × StunClientResults} {i : ℕ} (h : Ahead c i)
    (hi : c.nTestIndex < i) : Ahead (c.withTest result) i := by
  intro j hj t ht
  rw [show (c.withTest result).testlist = c.testlist.set c.nTestIndex result.1 from rfl,
    List.getElem?_set_ne (by omega)] at ht
  exact h j hj t ht

/-- When the tests from an index on are still ahead, so are those after it. -/
theorem Ahead.succ {i : ℕ} (h : Ahead c i) : Ahead c (i + 1) := fun j hj => h j (by omega)

/-- The early chance of a test keeps the client in its phase. -/
theorem Phase.precheck (h : Phase net config late c sent received) {t : StunClientTest}
    (hcurrent : c.CurrentTest t) (hcheck : c.fPreCheckRunOnTest = false) :
    Phase net config late { c.withTest (t.preRunCheck c.results) with fPreCheckRunOnTest := true }
      sent received := by
  have hkeeps := (Step.round (@Round.precheck 0 c t hcurrent hcheck)).keeps
  have hcurrent' := hcurrent.withTest (t.preRunCheck c.results)
  cases h with
  | pending _ _ _ _ _ hcheck' => rw [hcheck] at hcheck'; cases hcheck'
  | closed _ _ _ _ _ _ hcheck' => rw [hcheck] at hcheck'; cases hcheck'
  | unchecked hrunning hist hhistory hagrees hlength _ hcount hahead hnotAsked =>
    have hfresh : t = { kind := t.kind } := hahead _ le_rfl t hcurrent
    have hahead' := @Ahead.withTest c (t.preRunCheck c.results) _ hahead.succ (Nat.lt_succ_self _)
    have hkind := hrunning.kind_current hcurrent
    rw [← hlength] at hkind
    have hprechecked : (t.preRunCheck c.results).2 = t.kind.prechecked c.results := by
      rw [hfresh]
      rfl
    cases hasks : t.kind.asks c.results with
    | true =>
      -- The test goes on as it is.
      have hsame : t.preRunCheck c.results = (t, c.results) := by
        rw [hfresh]
        exact (TestKind.asks_iff.mp hasks).1
      rw [hsame] at hkeeps hcurrent' hahead' ⊢
      refine .pending (hrunning.keeps hkeeps) hist hhistory hagrees hlength rfl
        hahead' t hcurrent' ?_
        hasks ?_ (fun hne => absurd hcount hne) (not_answered_of_not_asked hnotAsked)
      · rw [hfresh]
      · rw [hfresh]
        exact iff_of_false hnotAsked (by rw [isTransactionIdValid_zero]; simp)
    | false =>
      -- The test is skipped.
      refine .closed (hrunning.keeps hkeeps) hist .skipped ?_ ?_ hlength rfl hahead'
        (t.preRunCheck c.results).1 hcurrent' ?_ (fun hf => by cases hf)
      · show History net config _ (t.preRunCheck c.results).2
        rw [hprechecked]
        exact hhistory.skipped hkind hasks
      · rw [← hlength] at hnotAsked
        exact hagrees.append (iff_of_true rfl hnotAsked)
          (iff_of_false (by simp) (not_answered_of_not_asked hnotAsked))
      · rcases t.preRunCheck_cases c.results with hdone | hsame
        · exact .inl (by rw [hdone])
        · right
          have hpre : ({ kind := t.kind } : StunClientTest).preRunCheck c.results =
              ({ kind := t.kind }, c.results) := by
            rw [← hfresh]
            exact hsame
          show (t.preRunCheck c.results).1.isReadyToRun (t.preRunCheck c.results).2 = false ∧ _
          rw [hsame, hfresh]
          refine ⟨?_, isTransactionIdValid_zero⟩
          by_contra hready
          rw [Bool.not_eq_false] at hready
          rw [TestKind.asks_iff.mpr ⟨hpre, hready⟩] at hasks
          cases hasks

/-- Going on to the next test, once one is completed or not ready to run, keeps the client in its
phase. -/
theorem Phase.next (h : Phase net config late c sent received) {t : StunClientTest}
    (hcurrent : c.CurrentTest t) (hcheck : c.fPreCheckRunOnTest = true)
    (hover : t.fCompleted = true ∨ t.isReadyToRun c.results = false) :
    Phase net config late c.nextTest sent received := by
  have hkeeps := (Step.round (@Round.next 0 c t hcurrent hcheck hover)).keeps
  cases h with
  | unchecked _ _ _ _ _ hcheck' => rw [hcheck] at hcheck'; cases hcheck'
  | pending _ _ _ _ _ _ _ t' hcurrent' hopen hasks =>
    -- A test that has asked goes on asking until it has completed.
    obtain rfl : t = t' := Option.some.inj (hcurrent.symm.trans hcurrent')
    have hready := (TestKind.asks_iff.mp hasks).2
    rw [← StunClientTest.isReadyToRun_eq hopen] at hready
    rcases hover with hdone | hnot
    · rw [hopen] at hdone
      cases hdone
    · rw [hready] at hnot
      cases hnot
  | closed hrunning hist o hhistory hagrees hlength _ hahead =>
    refine .unchecked (hrunning.keeps hkeeps) (hist ++ [o]) hhistory hagrees ?_ rfl rfl hahead
      (hrunning.not_asked (Nat.lt_succ_self _))
    rw [List.length_append, hlength]
    rfl

/-- A test that is not over, when the client is at it, is pending. -/
theorem Phase.exists_pending (h : Phase net config late c sent received) {t : StunClientTest}
    (hcurrent : c.CurrentTest t) (hcheck : c.fPreCheckRunOnTest = true)
    (hopen : t.fCompleted = false) (hready : t.isReadyToRun c.results = true) :
    Running net config c sent received ∧ t.kind.asks c.results = true ∧
      (Asked sent c.nTestIndex ↔ isTransactionIdValid t.transid = true) ∧
      (c.sendCount ≠ 0 → Asked sent c.nTestIndex) ∧
      ¬Answered net sent received c.nTestIndex ∧ Ahead c (c.nTestIndex + 1) ∧
      ∃ hist, History net config hist c.results ∧ Agrees net sent received hist ∧
        hist.length = c.nTestIndex := by
  cases h with
  | unchecked _ _ _ _ _ hcheck' => rw [hcheck] at hcheck'; cases hcheck'
  | pending hrunning hist hhistory hagrees hlength _ hahead t' hcurrent' _ hasks
      hasked hcount hnot =>
    obtain rfl : t = t' := Option.some.inj (hcurrent.symm.trans hcurrent')
    exact ⟨hrunning, hasks, hasked, hcount, hnot, hahead, hist, hhistory, hagrees, hlength⟩
  | closed _ _ _ _ _ _ _ _ t' hcurrent' hended =>
    obtain rfl : t = t' := Option.some.inj (hcurrent.symm.trans hcurrent')
    rcases hended with hdone | ⟨hnot, -⟩
    · rw [hopen] at hdone
      cases hdone
    · rw [hready] at hnot
      cases hnot

/-- The timeout of a test keeps the client in its phase. -/
theorem Phase.timeout (h : Phase net config True c sent received) {t : StunClientTest}
    (hcurrent : c.CurrentTest t) (hcheck : c.fPreCheckRunOnTest = true)
    (hopen : t.fCompleted = false) (hready : t.isReadyToRun c.results = true)
    (hattempts : c.config.uMaxAttempts ≤ c.sendCount) :
    Phase net config True (c.withTest (t.notifyTimeout c.results)) sent received := by
  obtain ⟨hrunning, hasks, -, hcount, hnotAnswered, hahead, hist, hhistory, hagrees, hlength⟩ :=
    h.exists_pending hcurrent hcheck hopen hready
  have hkeeps : Keeps c (c.withTest (t.notifyTimeout c.results)) := by
    refine .withTest hcurrent (by rw [t.notifyTimeout_fst]) (fun _ => by rw [t.notifyTimeout_fst])
      fun ht => ?_
    rw [hopen] at ht
    cases ht
  -- There is at least one attempt.
  have hcount' : c.sendCount ≠ 0 := by
    intro h0
    rw [hrunning.config_eq, h0] at hattempts
    have hzero : config.withDefaults.uMaxAttempts = 0 := UInt32.le_zero_iff.mp hattempts
    unfold StunClientLogicConfig.withDefaults at hzero
    dsimp only at hzero
    split_ifs at hzero with hu
    · cases hzero
    · exact hu hzero
  have hasked := hcount hcount'
  have hkind := hrunning.kind_current hcurrent
  rw [← hlength] at hkind hasked hnotAnswered
  refine .closed (hrunning.keeps hkeeps) hist .timedOut ?_ ?_ hlength hcheck
    (hahead.withTest (Nat.lt_succ_self _)) _ (hcurrent.withTest _) ?_ fun _ => trivial
  · have hresults : (t.notifyTimeout c.results).2 = t.kind.timedOut c.results := by
      obtain ⟨kind, fCompleted, transid⟩ := t
      cases kind <;> rfl
    show History net config _ (t.notifyTimeout c.results).2
    rw [hresults]
    exact hhistory.timedOut hkind hasks
  · exact hagrees.append (iff_of_false (by simp) (not_not.mpr hasked))
      (iff_of_false (by simp) hnotAnswered)
  · exact .inl (by rw [t.notifyTimeout_fst])

/-- A round keeps a phase. -/
theorem Phase.round (h : Phase net config True c sent received) {time : UInt32}
    (hround : Round time c c') : Phase net config True c' sent received := by
  cases hround with
  | precheck hcurrent hcheck => exact h.precheck hcurrent hcheck
  | next hcurrent hcheck hover => exact h.next hcurrent hcheck hover
  | timeout hcurrent hcheck hopen hready _ hattempts =>
    exact h.timeout hcurrent hcheck hopen hready hattempts

/-- Some rounds keep a phase. -/
theorem Phase.rounds (h : Phase net config True c sent received) {time : UInt32}
    (hrounds : Relation.ReflTransGen (Round time) c c') :
    Phase net config True c' sent received := by
  induction hrounds with
  | refl => exact h
  | tail _ hround ih => exact ih.round hround

/-- A test that is pending goes to an address of the server. -/
theorem destinationOf_eq (hb : net.Behaves behavior)
    (hserver : config.addrServer = net.server.addr net.role)
    (hrunning : Running net config c sent received) {hist : List Outcome}
    (hhistory : History net config hist c.results) {t : StunClientTest}
    (hasks : t.kind.asks c.results = true) :
    t.destinationOf c.config c.results = net.server.addr (net.destination t.kind) := by
  have hsound := hhistory.sound hb hserver
  have hconfig : c.config.addrServer = net.server.addr net.role := by
    rw [hrunning.config_eq]
    exact hserver
  unfold StunClientTest.destinationOf Network.destination
  cases hkind : t.kind with
  | basicBinding => exact hconfig
  | behavior fIsTest3 =>
    rw [hkind] at hasks
    obtain ⟨-, hbinding, -⟩ := TestKind.asks_behavior.mp hasks
    cases fIsTest3 with
    | false => exact hsound.addrAP hbinding
    | true => exact hsound.addrAA hbinding
  | filtering _ => exact hconfig

/-- Sending one more request changes nothing about what was answered. -/
theorem answered_append_sent (h : Running net config c sent received) (request : Sent) (i : ℕ) :
    Answered net (sent ++ [request]) received i ↔ Answered net sent received i := by
  unfold Answered
  refine exists_congr fun d => and_congr_right fun hd => ?_
  rw [List.take_append_of_le_length (h.sentBefore_le d hd)]

/-- Sending one more request for the current test agrees with the outcomes before it. -/
theorem Agrees.append_sent {hist : List Outcome} (h : Agrees net sent received hist)
    (hrunning : Running net config c sent received) {request : Sent}
    (hrequest : request.test = hist.length) : Agrees net (sent ++ [request]) received hist := by
  intro i o hi
  have hlt := (List.getElem?_eq_some_iff.mp hi).1
  obtain ⟨hskipped, hanswered⟩ := h i o hi
  refine ⟨hskipped.trans (not_congr ?_), hanswered.trans (answered_append_sent hrunning _ i).symm⟩
  unfold Asked
  simp only [List.mem_append, List.mem_singleton, or_and_right, exists_or, exists_eq_left]
  exact ⟨.inl, fun hor => hor.resolve_right (by omega)⟩

/-- A request that is sent keeps the client in its phase. -/
theorem Phase.message (h : Phase net config late c sent received) (hb : net.Behaves behavior)
    (hserver : config.addrServer = net.server.addr net.role) {rand : ℕ → UInt8}
    {stack : StunTransactionId} {spMsg : CBuffer} {time : UInt32} {t : StunClientTest}
    (hcurrent : c.CurrentTest t) (hcheck : c.fPreCheckRunOnTest = true)
    (hopen : t.fCompleted = false) (hready : t.isReadyToRun c.results = true)
    (hsize : MAX_STUN_MESSAGE_SIZE ≤ spMsg.getAllocatedSize) :
    let result := t.getMessage c.config c.results rand stack spMsg
    Phase net config False (c.messageFetched time result.1.1)
      (sent ++ [⟨c.nTestIndex, result.1.2.contents, result.2⟩]) received := by
  obtain ⟨hrunning, hasks, hasked, -, hnotAnswered, hahead, hist, hhistory, hagrees, hlength⟩ :=
    h.exists_pending hcurrent hcheck hopen hready
  have hkeeps := (@Step.message rand stack spMsg time c t hcurrent hopen hsize).keeps
  obtain ⟨buf, hmessage, hcontents⟩ := t.getMessage_spec hsize c.config c.results rand stack
  have hdest := destinationOf_eq hb hserver hrunning hhistory hasks
  have hvalid := t.isTransactionIdValid_requestTransid rand stack
  rw [hmessage] at hkeeps ⊢
  intro result
  set t' : StunClientTest := { t with transid := t.requestTransid rand stack } with ht'
  have hcurrent' : (c.messageFetched time t').CurrentTest t' :=
    hcurrent.withTest (t', c.results)
  -- The test has now been asked, under the transaction id that it keeps.
  have hasked' : Asked (sent ++ [⟨c.nTestIndex, buf.contents, t.destinationOf c.config c.results⟩])
      c.nTestIndex :=
    ⟨_, List.mem_append_right _ (List.mem_singleton_self _), rfl⟩
  have hrunning' := hrunning.keeps hkeeps
  refine .pending ⟨hrunning'.init, hrunning'.config_eq, hrunning'.kinds_eq, ?_, ?_⟩ hist hhistory
    (hagrees.append_sent hrunning hlength.symm) hlength hcheck
    (@Ahead.withTest c (t', c.results) _ hahead (Nat.lt_succ_self _)) t' hcurrent' hopen hasks
    (iff_of_true hasked' hvalid) (fun _ => hasked')
    (fun hnew => hnotAnswered ((answered_append_sent hrunning _ _).mp hnew))
  · intro request hrequest
    rcases List.mem_append.mp hrequest with hold | hnew
    · exact hrunning'.requests request hold
    · obtain rfl := List.mem_singleton.mp hnew
      exact ⟨le_rfl, t', hcurrent', hvalid, hcontents, hdest⟩
  · intro d hd
    rw [List.length_append]
    exact (hrunning.sentBefore_le d hd).trans (Nat.le_add_right _ _)

/-- Between two calls no test is the current one that has timed out: a phase after the last
round. -/
theorem Phase.of_not_over (h : Phase net config late c sent received)
    (hnot : ∀ t, c.CurrentTest t → c.fPreCheckRunOnTest = true →
      t.fCompleted = false ∧ t.isReadyToRun c.results = true) :
    Phase net config False c sent received := by
  cases h with
  | unchecked hrunning hist hhistory hagrees hlength hcheck hcount hahead hnotAsked =>
    exact .unchecked hrunning hist hhistory hagrees hlength hcheck hcount hahead hnotAsked
  | pending hrunning hist hhistory hagrees hlength hcheck hahead t hcurrent hopen
      hasks hasked hcount
      hnotAnswered =>
    exact .pending hrunning hist hhistory hagrees hlength hcheck hahead t hcurrent
      hopen hasks hasked
      hcount hnotAnswered
  | closed _ _ _ _ _ _ hcheck _ t hcurrent hended =>
    obtain ⟨hopen, hready⟩ := hnot t hcurrent hcheck
    rcases hended with hdone | ⟨hnotReady, -⟩
    · rw [hopen] at hdone
      cases hdone
    · rw [hready] at hnotReady
      cases hnotReady

/-- Between two calls a phase is one in which it does not matter what happens within a call. -/
theorem Phase.within (h : Phase net config False c sent received) :
    Phase net config True c sent received := by
  cases h with
  | unchecked hrunning hist hhistory hagrees hlength hcheck hcount hahead hnotAsked =>
    exact .unchecked hrunning hist hhistory hagrees hlength hcheck hcount hahead hnotAsked
  | pending hrunning hist hhistory hagrees hlength hcheck hahead t hcurrent hopen
      hasks hasked hcount
      hnotAnswered =>
    exact .pending hrunning hist hhistory hagrees hlength hcheck hahead t hcurrent
      hopen hasks hasked
      hcount hnotAnswered
  | closed hrunning hist o hhistory hagrees hlength hcheck hahead t hcurrent hended _ =>
    exact .closed hrunning hist o hhistory hagrees hlength hcheck hahead t hcurrent hended
      fun _ => trivial

end Steps

/-! ## The calls -/

section Calls

variable {net : Network} {config : StunClientLogicConfig} {behavior : NatBehavior} {w : Exchange}

/-- The phase of an exchange between two calls. -/
abbrev Exchange.Rests (net : Network) (config : StunClientLogicConfig) (w : Exchange) : Prop :=
  Phase net config False w.client w.sent w.received

/-- A call of `GetNextMessage` keeps a phase. -/
theorem Exchange.Rests.poll (h : w.Rests net config) (hb : net.Behaves behavior)
    (hserver : config.addrServer = net.server.addr net.role) (rand : ℕ → UInt8)
    (stack : StunTransactionId) (spMsg : CBuffer) (time : UInt32) :
    (w.poll rand stack spMsg time).Rests net config := by
  rcases w.poll_cases rand stack spMsg time with
    hsame | ⟨c₁, result, hbuf, hrounds, hlast, hresult⟩
  · rw [hsame]
    exact h
  · have h₁ := h.within.rounds hrounds
    unfold Exchange.poll
    rw [hresult]
    cases hlast with
    | resultsReady hnone =>
      refine h₁.of_not_over fun t ht _ => ?_
      rw [ht] at hnone
      cases hnone
    | stillWaiting hcurrent hcheck hopen hready _ =>
      refine h₁.of_not_over fun t ht _ => ?_
      obtain rfl := Option.some.inj (hcurrent.symm.trans ht)
      exact ⟨hopen, hready⟩
    | message hcurrent hcheck hopen hready _ _ =>
      exact h₁.message hb hserver hcurrent hcheck hopen hready hbuf

/-- One more datagram is added to what the client has been handed, with the current test and the
number of requests. -/
theorem Exchange.received_receive (w : Exchange) (d : Datagram) : (w.receive d).received =
    w.received ++ [{ d with test := w.client.nTestIndex, sentBefore := w.sent.length }] := rfl

/-- An answer that has just been delivered answers the tests whose requests it answers. -/
theorem answered_receive (d : Datagram) (i : ℕ) :
    Answered net w.sent (w.receive d).received i ↔ Answered net w.sent w.received i ∨
      (i = w.client.nTestIndex ∧
        ∃ request ∈ w.sent, request.test = i ∧ net.Answers request d.octets) := by
  unfold Answered
  rw [w.received_receive d]
  constructor
  · rintro ⟨d', hd', htest, hrequest⟩
    rcases List.mem_append.mp hd' with hold | hnew
    · exact .inl ⟨d', hold, htest, hrequest⟩
    · obtain rfl := List.mem_singleton.mp hnew
      rw [List.take_length] at hrequest
      exact .inr ⟨htest.symm, hrequest⟩
  · rintro (⟨d', hd', h⟩ | ⟨rfl, hrequest⟩)
    · exact ⟨d', List.mem_append_left _ hd', h⟩
    · refine ⟨_, List.mem_append_right _ (List.mem_singleton_self _), rfl, ?_⟩
      rwa [List.take_length]

/-- The transaction id of a request is that of its test. -/
theorem Running.transid_request (h : Running net config w.client w.sent w.received) {request : Sent}
    (hrequest : request ∈ w.sent) : ∃ t, w.client.testlist[request.test]? = some t ∧
      isTransactionIdValid t.transid = true ∧
      (readerOf request.octets).transactionid = t.transid ∧
      request.addrDest = net.server.addr (net.destination t.kind) := by
  obtain ⟨-, t, ht, hvalid, hoctets, hdest⟩ := h.requests request hrequest
  refine ⟨t, ht, hvalid, ?_, hdest⟩
  rw [hoctets]
  exact (reads_request t.transid t.changeOf).transid

/-- A run stays running whatever is received, as long as the client is the same. -/
theorem Running.receive (h : Running net config w.client w.sent w.received) (d : Datagram) :
    Running net config w.client w.sent (w.receive d).received := by
  refine ⟨h.init, h.config_eq, h.kinds_eq, h.requests, fun d' hd' => ?_⟩
  rcases List.mem_append.mp hd' with hold | hnew
  · exact h.sentBefore_le d' hold
  · obtain rfl := List.mem_singleton.mp hnew
    exact le_rfl

/-- A datagram with another transaction id changes nothing about the client. -/
theorem Exchange.receive_client_eq {d : Datagram}
    (hnot : ∀ t, w.client.CurrentTest t → t.fCompleted = false →
      (readerOf d.octets).transactionid ≠ t.transid) : (w.receive d).client = w.client := by
  rcases w.receive_cases d with hsame | ⟨t, result, hcurrent, hopen, haccepted, -⟩
  · exact hsame
  · obtain ⟨-, reader, hreader⟩ := StunClientTest.processResponse_eq_ok haccepted
    obtain ⟨-, htransid, -⟩ := StunClientTest.basicReaderValidation_eq_ok_iff.mp hreader
    exact absurd htransid (hnot t hcurrent hopen)

/-- A test that is sent an honest answer to its request completes with the results of the answer. -/
theorem processResponse_of_answers {c : CStunClientLogic} {results : StunClientResults}
    {t : StunClientTest} {request : Sent} {d : Datagram} (hanswers : net.Answers request d.octets)
    (hlocal : d.addrLocal = net.addrLocal)
    (htransid : (readerOf request.octets).transactionid = t.transid)
    (hdest : request.addrDest = net.server.addr (net.destination t.kind)) :
    t.processResponse c.config results d.octets d.addrLocal =
      .ok ({ t with fCompleted := true }, t.kind.answered net c.config results) := by
  -- The answer is valid and has the transaction id of the test.
  have hreader : t.basicReaderValidation d.octets = .ok (readerOf d.octets) := by
    refine StunClientTest.basicReaderValidation_eq_ok_iff.mpr ⟨?_, ?_, rfl⟩
    · rw [addBytes_fst]
      exact hanswers.state
    · exact hanswers.transid.trans htransid
  have hmapped := hanswers.mappedAddressOf
  have hother := hanswers.other _ hdest
  rw [hdest] at hmapped
  unfold StunClientTest.processResponse TestKind.answered
  obtain ⟨kind, fCompleted, transid⟩ := t
  cases kind with
  | basicBinding =>
    rw [show net.destination .basicBinding = net.role from rfl] at hother
    refine CBasicBindingTest.processResponse_eq_ok_iff.mpr ⟨_, hreader, _, hmapped, ?_⟩
    rw [hother, hlocal]
    rfl
  | behavior fIsTest3 =>
    exact CBehaviorTest.processResponse_eq_ok_iff.mpr ⟨_, hreader, _, hmapped, rfl⟩
  | filtering fIsTest3 =>
    exact CFilteringTest.processResponse_eq_ok_iff.mpr ⟨⟨_, hreader⟩, rfl⟩

/-- A datagram that changes neither the client nor what was answered leaves the run at rest. -/
theorem Exchange.Rests.receive_unchanged (h : w.Rests net config) {d : Datagram}
    (hclient : (w.receive d).client = w.client)
    (hanswered : ∀ i, Answered net w.sent (w.receive d).received i ↔
      Answered net w.sent w.received i) : (w.receive d).Rests net config := by
  have hagree : ∀ {hist : List Outcome}, Agrees net w.sent w.received hist →
      Agrees net w.sent (w.receive d).received hist := fun hagrees i o hi =>
    ⟨(hagrees i o hi).1, (hagrees i o hi).2.trans (hanswered i).symm⟩
  unfold Exchange.Rests
  rw [hclient]
  cases h with
  | unchecked hrunning hist hhistory hagrees hlength hcheck hcount hahead hnotAsked =>
    exact .unchecked (hrunning.receive d) hist hhistory (hagree hagrees) hlength
      hcheck hcount hahead
      hnotAsked
  | pending hrunning hist hhistory hagrees hlength hcheck hahead t hcurrent hopen
      hasks hasked hcount
      hnotAnswered =>
    exact .pending (hrunning.receive d) hist hhistory (hagree hagrees) hlength hcheck
      hahead t hcurrent
      hopen hasks hasked hcount fun hnew => hnotAnswered ((hanswered _).mp hnew)
  | closed hrunning hist o hhistory hagrees hlength hcheck hahead t hcurrent hended hlate =>
    exact .closed (hrunning.receive d) hist o hhistory (hagree hagrees) hlength hcheck
      hahead t hcurrent
      hended hlate

/-- An answer to a request of the current test. -/
theorem Exchange.Rests.receive_own (h : w.Rests net config) {d : Datagram}
    (hlocal : d.addrLocal = net.addrLocal) {request : Sent} (hrequest : request ∈ w.sent)
    (htest : request.test = w.client.nTestIndex) (hanswers : net.Answers request d.octets) :
    (w.receive d).Rests net config := by
  have hasked : Asked w.sent w.client.nTestIndex := ⟨request, hrequest, htest⟩
  have hanswered : Answered net w.sent (w.receive d).received w.client.nTestIndex :=
    (answered_receive d _).mpr (.inr ⟨rfl, request, hrequest, htest, hanswers⟩)
  have hbefore : ∀ i, i ≠ w.client.nTestIndex → (Answered net w.sent (w.receive d).received i ↔
      Answered net w.sent w.received i) := fun i hi =>
    (answered_receive d i).trans (or_iff_left fun hnew => hi hnew.1)
  cases hphase : h with
  | unchecked _ _ _ _ _ _ _ _ hnotAsked => exact absurd hasked hnotAsked
  | pending hrunning hist hhistory hagrees hlength hcheck hahead t hcurrent hopen hasks =>
    -- The current test accepts the answer.
    obtain ⟨t', ht', -, htransid, hdest⟩ := hrunning.transid_request hrequest
    rw [htest] at ht'
    obtain rfl : t = t' := Option.some.inj (hcurrent.symm.trans ht')
    have haccepted := @processResponse_of_answers net w.client w.client.results t request d hanswers
      hlocal htransid hdest
    set result := (({ t with fCompleted := true } : StunClientTest),
      t.kind.answered net w.client.config w.client.results) with hresult
    have hclient : (w.receive d).client = w.client.withTest result :=
      Exchange.receive_of_accepted hrunning.init hcurrent hopen haccepted
    have hkeeps := (Step.response hcurrent hopen haccepted).keeps
    have hkind := hrunning.kind_current hcurrent
    unfold Exchange.Rests
    rw [hclient]
    rw [← hlength] at hkind
    refine .closed ((hrunning.receive d).keeps hkeeps) hist .answered ?_ ?_ hlength hcheck
      (hahead.withTest (Nat.lt_succ_self _)) _ (hcurrent.withTest _) (.inl rfl)
      fun hf => by cases hf
    · show History net config _ (t.kind.answered net w.client.config w.client.results)
      rw [hrunning.config_eq]
      exact hhistory.answered hkind hasks
    · have hagrees' : Agrees net w.sent (w.receive d).received hist := fun i o hi =>
        ⟨(hagrees i o hi).1, (hagrees i o hi).2.trans
          (hbefore i (by have := (List.getElem?_eq_some_iff.mp hi).1; omega)).symm⟩
      rw [← hlength] at hasked hanswered
      exact hagrees'.append (iff_of_false (by simp) (not_not.mpr hasked))
        (iff_of_true rfl hanswered)
  | closed hrunning hist o hhistory hagrees hlength hcheck hahead t hcurrent hended hlate =>
    -- The current test has been answered before.
    obtain ⟨t', ht', hvalid, -, -⟩ := hrunning.transid_request hrequest
    rw [htest] at ht'
    obtain rfl : t = t' := Option.some.inj (hcurrent.symm.trans ht')
    have hdone : t.fCompleted = true := by
      refine hended.resolve_right fun ⟨_, hinvalid⟩ => ?_
      rw [hvalid] at hinvalid
      cases hinvalid
    obtain ⟨hskipped, hans⟩ := hagrees hist.length o (by simp)
    rw [hlength] at hskipped hans
    have hold : Answered net w.sent w.received w.client.nTestIndex := by
      refine hans.mp ?_
      cases o with
      | skipped => exact absurd hasked (hskipped.mp rfl)
      | answered => rfl
      | timedOut => exact (hlate rfl).elim
    refine h.receive_unchanged (Exchange.receive_client_eq fun t' ht' hopen => ?_) fun i => ?_
    · obtain rfl : t = t' := Option.some.inj (hcurrent.symm.trans ht')
      rw [hdone] at hopen
      cases hopen
    · by_cases hi : i = w.client.nTestIndex
      · subst hi
        exact iff_of_true hanswered hold
      · exact hbefore i hi

/-- The transaction ids of different tests are different. -/
def DistinctTransids (sent : List Sent) : Prop :=
  ∀ request ∈ sent, ∀ request' ∈ sent, request.test ≠ request'.test →
    (readerOf request.octets).transactionid ≠ (readerOf request'.octets).transactionid

/-- A test that has a transaction id has sent a request. -/
theorem Exchange.Rests.asked_of_valid (h : w.Rests net config) {t : StunClientTest}
    (hcurrent : w.client.CurrentTest t) (hopen : t.fCompleted = false)
    (hvalid : isTransactionIdValid t.transid = true) : Asked w.sent w.client.nTestIndex := by
  cases h with
  | unchecked _ _ _ _ _ _ _ hahead =>
    rw [hahead _ le_rfl t hcurrent, isTransactionIdValid_zero] at hvalid
    cases hvalid
  | pending _ _ _ _ _ _ _ t' hcurrent' _ _ hasked =>
    obtain rfl : t = t' := Option.some.inj (hcurrent.symm.trans hcurrent')
    exact hasked.mpr hvalid
  | closed _ _ _ _ _ _ _ _ t' hcurrent' hended =>
    obtain rfl : t = t' := Option.some.inj (hcurrent.symm.trans hcurrent')
    rcases hended with hdone | ⟨-, hinvalid⟩
    · rw [hopen] at hdone
      cases hdone
    · rw [hvalid] at hinvalid
      cases hinvalid

/-- A run at rest is running. -/
theorem Exchange.Rests.running (h : w.Rests net config) :
    Running net config w.client w.sent w.received := by
  cases h with
  | unchecked hrunning => exact hrunning
  | pending hrunning => exact hrunning
  | closed hrunning => exact hrunning

/-- A test that has a transaction id has it from a request that was sent. -/
theorem Exchange.Rests.request_of_valid (h : w.Rests net config) {t : StunClientTest}
    (hcurrent : w.client.CurrentTest t) (hopen : t.fCompleted = false)
    (hvalid : isTransactionIdValid t.transid = true) :
    ∃ request ∈ w.sent, request.test = w.client.nTestIndex ∧
      (readerOf request.octets).transactionid = t.transid := by
  obtain ⟨request, hrequest, htest⟩ := h.asked_of_valid hcurrent hopen hvalid
  obtain ⟨t', ht', -, htransid, -⟩ := h.running.transid_request hrequest
  rw [htest] at ht'
  obtain rfl : t = t' := Option.some.inj (hcurrent.symm.trans ht')
  exact ⟨request, hrequest, htest, htransid⟩

/-- Transaction ids that are not zero and that no request has. -/
def Unused (sent : List Sent) (foreign : Set StunTransactionId) : Prop :=
  ∀ id ∈ foreign, isTransactionIdValid id = true ∧
    ∀ request ∈ sent, (readerOf request.octets).transactionid ≠ id

/-- What no request has, none had before. -/
theorem Unused.mono {sent sent' : List Sent} {foreign : Set StunTransactionId}
    (h : Unused sent' foreign) (hsub : ∀ request ∈ sent, request ∈ sent') : Unused sent foreign :=
  fun id hid => ⟨(h id hid).1, fun request hrequest => (h id hid).2 request (hsub request hrequest)⟩

/-- Distinct transaction ids were distinct before. -/
theorem DistinctTransids.mono {sent sent' : List Sent} (h : DistinctTransids sent')
    (hsub : ∀ request ∈ sent, request ∈ sent') : DistinctTransids sent :=
  fun request hrequest request' hrequest' =>
    h request (hsub request hrequest) request' (hsub request' hrequest')

/-- An answer to a request of another test changes nothing. -/
theorem Exchange.Rests.receive_other (h : w.Rests net config) {d : Datagram} {request : Sent}
    (hrequest : request ∈ w.sent) (htest : request.test ≠ w.client.nTestIndex)
    (hanswers : net.Answers request d.octets) (hdistinct : DistinctTransids w.sent) :
    (w.receive d).Rests net config := by
  refine h.receive_unchanged (Exchange.receive_client_eq fun t hcurrent hopen htransid => ?_)
    fun i => (answered_receive d i).trans (or_iff_left ?_)
  · -- The current test has another transaction id, or none yet.
    obtain ⟨t₀, -, hvalid₀, htransid₀, -⟩ := h.running.transid_request hrequest
    have hsame : (readerOf request.octets).transactionid = t.transid :=
      hanswers.transid.symm.trans htransid
    have hvalid : isTransactionIdValid t.transid = true := by
      rw [← hsame, htransid₀, hvalid₀]
    obtain ⟨request', hrequest', htest', htransid'⟩ := h.request_of_valid hcurrent hopen hvalid
    exact hdistinct request hrequest request' hrequest' (by rw [htest']; exact htest)
      (hsame.trans htransid'.symm)
  · rintro ⟨rfl, request', hrequest', htest', hanswers'⟩
    exact hdistinct request hrequest request' hrequest' (by rw [htest']; exact htest)
      (hanswers.transid.symm.trans hanswers'.transid)

/-- What has a transaction id that others use changes nothing. -/
theorem Exchange.Rests.receive_foreign (h : w.Rests net config) {d : Datagram}
    {foreign : Set StunTransactionId} (hd : (readerOf d.octets).transactionid ∈ foreign)
    (hunused : Unused w.sent foreign) : (w.receive d).Rests net config := by
  obtain ⟨hvalid, hnone⟩ := hunused _ hd
  refine h.receive_unchanged (Exchange.receive_client_eq fun t hcurrent hopen htransid => ?_)
    fun i => (answered_receive d i).trans (or_iff_left ?_)
  · rw [htransid] at hvalid
    obtain ⟨request, hrequest, -, hsame⟩ := h.request_of_valid hcurrent hopen hvalid
    exact hnone request hrequest (hsame.trans htransid.symm)
  · rintro ⟨rfl, request, hrequest, -, hanswers⟩
    exact hnone request hrequest hanswers.transid.symm

end Calls

end Stun
