import StunForAndroid.Client.ClientConfig
import StunForAndroid.StunCore.ClientMapping

/-!
# `UdpClientLoop`

`src/client/clientmain.cpp`, until the results are ready. What the clock and the socket answer are
parameters: one `UdpExchange` for each round of the loop.

After the loop the client registers at the address that the last request went to, one port further.
The behavior tests send to the other addresses of the server, so it has to be shown that none of
them is the last one (`udpClientLoop_registers`): a behavior test sends a request only when
filtering test 2 will, and that goes to the server that was configured.
-/

namespace Stun

open Octets Fallible CStunClientLogic

/-- What the clock and the socket answer in a round of the loop. -/
structure UdpExchange where
  /-- `GetMillisecondCounter`. -/
  timeCurrentMilliseconds : UInt32
  /-- What makes a transaction id. -/
  rand : ℕ → UInt8
  stack : StunTransactionId
  /-- What comes within half a second, and `recvfromex` gives, if anything. -/
  received : Option Datagram

/-- What has become of the loop. -/
inductive UdpOutcome where
  | initializeFailed (hr : HRESULT)
  | udpInitFailed (hr : HRESULT)
  /-- `GetNextMessage` has failed for another reason than that the results are ready. -/
  | fatal (hr : HRESULT)
  /-- The results are ready. `addrDest` is the variable of that name. -/
  | finished (results : StunClientResults) (addrDest : CSocketAddress)
  /-- There are more rounds to come. -/
  | running
deriving DecidableEq

/-- The variables of the loop. -/
structure UdpLoopState where
  clientlogic : CStunClientLogic
  spMsg : CBuffer := CBuffer.initWithAllocation MAX_STUN_MESSAGE_SIZE
  addrDest : CSocketAddress := CSocketAddress.zero

/-- The second half of a round: wait for a response and process it. -/
def UdpLoopState.awaitResponse (received : Option Datagram) (s : UdpLoopState) : UdpLoopState :=
  let spMsg := (s.spMsg.setSize 0).2
  match received with
  | none => { s with spMsg := spMsg }
  | some d =>
    -- `recvfromex` gives as much of the datagram as the buffer can hold.
    let octets := d.octets.take spMsg.getAllocatedSize
    if octets.length > 0 then
      { s with
        spMsg := { data := overwrite spMsg.data 0 octets, size := octets.length }
        clientlogic := finalState (processResponse octets d.addrLocal) s.clientlogic }
    else { s with spMsg := spMsg }

/-- A round of the loop. -/
def udpClientRound (x : UdpExchange) (s : UdpLoopState) : UdpLoopState ⊕ UdpOutcome :=
  let spMsg := (s.spMsg.setSize 0).2
  match s.clientlogic.getNextMessage x.rand x.stack spMsg x.timeCurrentMilliseconds with
  | (.ok (spMsg, addrDest), clientlogic) =>
    .inl (UdpLoopState.awaitResponse x.received ⟨clientlogic, spMsg, addrDest⟩)
  | (.error hrRet, clientlogic) =>
    if hrRet = E_STUNCLIENT_STILL_WAITING then
      .inl (UdpLoopState.awaitResponse x.received ⟨clientlogic, spMsg, s.addrDest⟩)
    else if hrRet = E_STUNCLIENT_RESULTS_READY then .inr (.finished clientlogic.results s.addrDest)
    else .inr (.fatal hrRet)

/-- The rounds of the loop. -/
def udpClientRounds : List UdpExchange → UdpLoopState → UdpOutcome
  | [], _ => .running
  | x :: xs, s =>
    match udpClientRound x s with
    | .inl s => udpClientRounds xs s
    | .inr outcome => outcome

/-- The loop of `UdpClientLoop`, with what `UDPInit` answers. -/
def udpClientLoop (config : StunClientLogicConfig) (udpInit : HRESULT)
    (exchanges : List UdpExchange) : UdpOutcome :=
  match initializeLogic config {} with
  | .error hr _ => .initializeFailed hr
  | .ok _ clientlogic =>
    if failed udpInit then .udpInitFailed udpInit
    else udpClientRounds exchanges { clientlogic := clientlogic }

/-- Where `registerToServerRequest`, `fetchP2pServerRequest` and the connect request are sent. -/
def appServerAddr (addrDest : CSocketAddress) : CSocketAddress :=
  addrDest.setPort (addrDest.getPort + 1)

/-! ## The tests -/

/-- The number of a test says which one it is, when the filtering tests are done with the behavior
tests. -/
theorem kind_of_both {config : StunClientLogicConfig}
    (h : config.fFilteringTest = config.fBehaviorTest) {n : ℕ} {kind : TestKind}
    (hkind : config.kinds[n]? = some kind) :
    (n = 0 ∧ kind = .basicBinding) ∨
      config.kinds.length = 5 ∧
        ((n = 1 ∧ kind = .behavior false) ∨ (n = 2 ∧ kind = .behavior true) ∨
        (n = 3 ∧ kind = .filtering false) ∨ (n = 4 ∧ kind = .filtering true)) := by
  unfold StunClientLogicConfig.kinds at hkind ⊢
  rw [h] at hkind ⊢
  cases hb : config.fBehaviorTest with
  | false =>
    rw [hb] at hkind
    match n with
    | 0 => simpa using hkind.symm
    | n + 1 => simp at hkind
  | true =>
    rw [hb] at hkind
    match n with
    | 0 | 1 | 2 | 3 | 4 => simpa using hkind.symm
    | n + 5 => simp at hkind

/-- What the binding test finds out is the same. -/
structure SameBinding (results results' : StunClientResults) : Prop where
  success : results'.fBindingTestSuccess = results.fBindingTestSuccess
  direct : results'.fIsDirect = results.fIsDirect
  other : results'.fHasOtherAddress = results.fHasOtherAddress

/-- What the filtering tests find out is the same. -/
structure SameFiltering (results results' : StunClientResults) : Prop where
  success : results'.fFilteringTestSuccess = results.fFilteringTestSuccess
  gotTest2 : results'.fGotTest2Response = results.fGotTest2Response

section Frames

variable {t : StunClientTest} {config : StunClientLogicConfig} {results : StunClientResults}

/-- The early chance of a test leaves the binding test alone. -/
theorem sameBinding_preRunCheck (t : StunClientTest) (results : StunClientResults) :
    SameBinding results (t.preRunCheck results).2 := by
  unfold StunClientTest.preRunCheck CBehaviorTest.preRunCheck CFilteringTest.preRunCheck
  split
  · exact ⟨rfl, rfl, rfl⟩
  · split_ifs <;> exact ⟨rfl, rfl, rfl⟩
  · split_ifs <;> exact ⟨rfl, rfl, rfl⟩

/-- The early chance of another test leaves the filtering tests alone. -/
theorem sameFiltering_preRunCheck (hkind : ∀ fIsTest3, t.kind ≠ .filtering fIsTest3) :
    SameFiltering results (t.preRunCheck results).2 := by
  unfold StunClientTest.preRunCheck CBehaviorTest.preRunCheck
  split
  · exact ⟨rfl, rfl⟩
  · split_ifs <;> exact ⟨rfl, rfl⟩
  · exact absurd ‹_› (hkind _)

/-- A timeout of another test leaves the binding test alone. -/
theorem sameBinding_notifyTimeout (hkind : t.kind ≠ .basicBinding) :
    SameBinding results (t.notifyTimeout results).2 := by
  unfold StunClientTest.notifyTimeout
  split
  · exact absurd ‹_› hkind
  · exact ⟨rfl, rfl, rfl⟩
  · unfold CFilteringTest.notifyTimeout
    dsimp only
    split_ifs <;> exact ⟨rfl, rfl, rfl⟩

/-- A timeout of another test leaves the filtering tests alone. -/
theorem sameFiltering_notifyTimeout (hkind : ∀ fIsTest3, t.kind ≠ .filtering fIsTest3) :
    SameFiltering results (t.notifyTimeout results).2 := by
  unfold StunClientTest.notifyTimeout
  split
  · exact ⟨rfl, rfl⟩
  · exact ⟨rfl, rfl⟩
  · exact absurd ‹_› (hkind _)

/-- A response to another test leaves the binding test alone. -/
theorem sameBinding_processResponse (hkind : t.kind ≠ .basicBinding) {spMsg : List UInt8}
    {addrLocal : CSocketAddress} {result : StunClientTest × StunClientResults}
    (h : t.processResponse config results spMsg addrLocal = .ok result) :
    SameBinding results result.2 := by
  unfold StunClientTest.processResponse at h
  split at h
  · exact absurd ‹_› hkind
  · obtain ⟨_, -, addrMapped, -, rfl⟩ := CBehaviorTest.processResponse_eq_ok_iff.mp h
    unfold CBehaviorTest.storeResponse
    dsimp only
    split_ifs <;> exact ⟨rfl, rfl, rfl⟩
  · obtain ⟨-, rfl⟩ := CFilteringTest.processResponse_eq_ok_iff.mp h
    unfold CFilteringTest.storeResponse
    dsimp only
    split_ifs <;> exact ⟨rfl, rfl, rfl⟩

/-- A response to another test leaves the filtering tests alone. -/
theorem sameFiltering_processResponse (hkind : ∀ fIsTest3, t.kind ≠ .filtering fIsTest3)
    {spMsg : List UInt8} {addrLocal : CSocketAddress} {result : StunClientTest × StunClientResults}
    (h : t.processResponse config results spMsg addrLocal = .ok result) :
    SameFiltering results result.2 := by
  unfold StunClientTest.processResponse at h
  split at h
  · obtain ⟨reader, -, addrMapped, -, rfl⟩ := CBasicBindingTest.processResponse_eq_ok_iff.mp h
    unfold CBasicBindingTest.storeResponse
    dsimp only
    split <;> exact ⟨rfl, rfl⟩
  · obtain ⟨_, -, addrMapped, -, rfl⟩ := CBehaviorTest.processResponse_eq_ok_iff.mp h
    unfold CBehaviorTest.storeResponse
    dsimp only
    split_ifs <;> exact ⟨rfl, rfl⟩
  · exact absurd ‹_› (hkind _)

end Frames

/-! ## The invariant -/

/-- What is so of the client at any time. -/
structure Regular (config : StunClientLogicConfig) (c : CStunClientLogic) : Prop where
  addrServer : c.config.addrServer = config.addrServer
  attempts : c.config.uMaxAttempts ≠ 0
  kinds_eq : c.testlist.map StunClientTest.kind = config.kinds
  /-- The filtering tests have not begun before their turn. -/
  filtering : c.nTestIndex ≤ 2 → c.results.fFilteringTestSuccess = false ∧
    c.results.fGotTest2Response = false ∧ ∀ t, c.testlist[3]? = some t → t.fCompleted = false
  /-- Without a NAT there is a behavior result as soon as behavior test 2 has had its early
  chance. -/
  direct : 1 ≤ c.nTestIndex → c.results.fBindingTestSuccess = true → c.results.fIsDirect = true →
    (c.nTestIndex = 1 ∧ c.fPreCheckRunOnTest = false) ∨ c.results.fBehaviorTestSuccess = true

/-- Filtering test 2 is still to come, and will send a request. -/
structure Owes (c : CStunClientLogic) : Prop where
  length : c.testlist.length = 5
  behind : 1 ≤ c.nTestIndex
  ahead : c.nTestIndex ≤ 3
  fresh : c.nTestIndex = 3 → c.sendCount = 0
  binding : c.results.fBindingTestSuccess = true
  direct : c.results.fIsDirect = false
  other : c.results.fHasOtherAddress = true
  success : c.results.fFilteringTestSuccess = false
  gotTest2 : c.results.fGotTest2Response = false
  notCompleted : ∀ t, c.testlist[3]? = some t → t.fCompleted = false

/-- The client has not sent anything yet. -/
structure Unsent (c : CStunClientLogic) : Prop where
  index : c.nTestIndex = 0
  count : c.sendCount = 0
  current : ∃ t, c.CurrentTest t ∧ t.kind = .basicBinding ∧ t.fCompleted = false

/-- The last request went to the server, or a later one will. -/
def Registers (config : StunClientLogicConfig) (c : CStunClientLogic) (addrDest : CSocketAddress) :
    Prop :=
  addrDest = config.addrServer ∨ Owes c ∨ Unsent c

section Invariant

variable {config : StunClientLogicConfig} {c c' : CStunClientLogic} {t : StunClientTest}
  {result : StunClientTest × StunClientResults} {time : UInt32} {addrDest : CSocketAddress}

/-- The index of the current test says of which kind it is. -/
theorem Regular.kind_current (h : Regular config c)
    (hboth : config.fFilteringTest = config.fBehaviorTest) (hcurrent : c.CurrentTest t) :
    (c.nTestIndex = 0 ∧ t.kind = .basicBinding) ∨
      config.kinds.length = 5 ∧ ((c.nTestIndex = 1 ∧ t.kind = .behavior false) ∨
        (c.nTestIndex = 2 ∧ t.kind = .behavior true) ∨
        (c.nTestIndex = 3 ∧ t.kind = .filtering false) ∨
        (c.nTestIndex = 4 ∧ t.kind = .filtering true)) := by
  refine kind_of_both hboth ?_
  rw [← h.kinds_eq, List.getElem?_map, show c.testlist[c.nTestIndex]? = some t from hcurrent]
  rfl

/-- The first tests are no filtering tests. -/
theorem Regular.kind_early (h : Regular config c)
    (hboth : config.fFilteringTest = config.fBehaviorTest) (hcurrent : c.CurrentTest t)
    (hindex : c.nTestIndex ≤ 2) : ∀ fIsTest3, t.kind ≠ .filtering fIsTest3 := by
  intro fIsTest3 hfiltering
  rcases h.kind_current hboth hcurrent with ⟨-, hk⟩ | ⟨-, ⟨-, hk⟩ | ⟨-, hk⟩ | ⟨hi, -⟩ | ⟨hi, -⟩⟩
  · rw [hfiltering] at hk
    cases hk
  · rw [hfiltering] at hk
    cases hk
  · rw [hfiltering] at hk
    cases hk
  · omega
  · omega

/-- Only the first test is the binding test. -/
theorem Regular.kind_late (h : Regular config c)
    (hboth : config.fFilteringTest = config.fBehaviorTest) (hcurrent : c.CurrentTest t)
    (hindex : 1 ≤ c.nTestIndex) : t.kind ≠ .basicBinding := by
  intro hbinding
  rcases h.kind_current hboth hcurrent with ⟨hi, -⟩ | ⟨-, ⟨-, hk⟩ | ⟨-, hk⟩ | ⟨-, hk⟩ | ⟨-, hk⟩⟩
  · omega
  all_goals
    rw [hbinding] at hk
    cases hk

/-- Writing a test that is not filtering test 2 leaves that one alone. -/
theorem withTest_three (hindex : c.nTestIndex ≠ 3) :
    (c.withTest result).testlist[3]? = c.testlist[3]? :=
  List.getElem?_set_ne hindex

/-- A client stays regular when a test is written with results that leave the binding alone and give
a behavior to a direct client. -/
theorem Regular.withTest (h : Regular config c) (hkeeps : Keeps c (c.withTest result))
    (hfiltering : c.nTestIndex ≤ 2 → SameFiltering c.results result.2)
    (hbinding : 1 ≤ c.nTestIndex → SameBinding c.results result.2)
    (hbehavior : 1 ≤ c.nTestIndex → c.results.fBehaviorTestSuccess = true →
      c.results.fIsDirect = true → result.2.fBehaviorTestSuccess = true) :
    Regular config (c.withTest result) where
  addrServer := h.addrServer
  attempts := h.attempts
  kinds_eq := hkeeps.kinds_eq.trans h.kinds_eq
  filtering hindex := by
    have hle : c.nTestIndex ≤ 2 := hindex
    obtain ⟨hsuccess, hgot, hopen⟩ := h.filtering hle
    refine ⟨(hfiltering hle).success.trans hsuccess, (hfiltering hle).gotTest2.trans hgot, ?_⟩
    rw [withTest_three (by omega)]
    exact hopen
  direct hindex hsuccess hdirect := by
    have hle : 1 ≤ c.nTestIndex := hindex
    have hsame := hbinding hle
    have hdirect' : c.results.fIsDirect = true := hsame.direct.symm.trans hdirect
    rcases h.direct hle (hsame.success.symm.trans hsuccess) hdirect' with hleft | hright
    · exact .inl hleft
    · exact .inr (hbehavior hle hright hdirect')

/-- The early chance of a test is regular. -/
theorem Regular.precheck (h : Regular config c)
    (hboth : config.fFilteringTest = config.fBehaviorTest) (hcurrent : c.CurrentTest t)
    (hunchecked : c.fPreCheckRunOnTest = false) :
    Regular config { c.withTest (t.preRunCheck c.results) with fPreCheckRunOnTest := true } := by
  have hround : Round 0 c _ := .precheck hcurrent hunchecked
  have hkeeps := Step.keeps (.round hround)
  have hsame := sameBinding_preRunCheck t c.results
  refine ⟨h.addrServer, h.attempts, hkeeps.kinds_eq.trans h.kinds_eq, ?_, ?_⟩
  · intro hindex
    have hle : c.nTestIndex ≤ 2 := hindex
    obtain ⟨hsuccess, hgot, hopen⟩ := h.filtering hle
    have hframe : SameFiltering c.results (t.preRunCheck c.results).2 :=
      sameFiltering_preRunCheck (h.kind_early hboth hcurrent hle)
    refine ⟨hframe.success.trans hsuccess, hframe.gotTest2.trans hgot, ?_⟩
    show ∀ t', (c.withTest (t.preRunCheck c.results)).testlist[3]? = some t' → _
    rw [withTest_three (by omega)]
    exact hopen
  · intro hindex hsuccess hdirect
    right
    have hsuccess' : c.results.fBindingTestSuccess = true := hsame.success.symm.trans hsuccess
    have hdirect' : c.results.fIsDirect = true := hsame.direct.symm.trans hdirect
    show (t.preRunCheck c.results).2.fBehaviorTestSuccess = true
    rcases h.direct hindex hsuccess' hdirect' with ⟨hone, -⟩ | hright
    · -- Behavior test 2 finds out here that there is no NAT.
      have hk : t.kind = .behavior false := by
        rcases h.kind_current hboth hcurrent with
          ⟨hi, -⟩ | ⟨-, ⟨-, hk⟩ | ⟨hi, -⟩ | ⟨hi, -⟩ | ⟨hi, -⟩⟩
        · omega
        · exact hk
        all_goals omega
      unfold StunClientTest.preRunCheck CBehaviorTest.preRunCheck
      rw [hk]
      dsimp only
      rw [if_pos ⟨rfl, hsuccess', hdirect'⟩]
    · unfold StunClientTest.preRunCheck CBehaviorTest.preRunCheck CFilteringTest.preRunCheck
      split
      · exact hright
      · split_ifs
        · rfl
        · exact hright
      · split_ifs <;> exact hright

/-- The step to the next test is regular. -/
theorem Regular.next (h : Regular config c) (hchecked : c.fPreCheckRunOnTest = true) :
    Regular config c.nextTest where
  addrServer := h.addrServer
  attempts := h.attempts
  kinds_eq := h.kinds_eq
  filtering hindex := h.filtering (Nat.le_of_succ_le hindex)
  direct _ hsuccess hdirect := by
    by_cases hzero : c.nTestIndex = 0
    · exact .inl ⟨congrArg (· + 1) hzero, rfl⟩
    · rcases h.direct (Nat.one_le_iff_ne_zero.mpr hzero) hsuccess hdirect with ⟨-, hfalse⟩ | hright
      · rw [hchecked] at hfalse
        cases hfalse
      · exact .inr hright

/-- A timeout is regular. -/
theorem Regular.timeout (h : Regular config c)
    (hboth : config.fFilteringTest = config.fBehaviorTest) (hcurrent : c.CurrentTest t)
    (hready : t.isReadyToRun c.results = true)
    (hkeeps : Keeps c (c.withTest (t.notifyTimeout c.results))) :
    Regular config (c.withTest (t.notifyTimeout c.results)) := by
  refine h.withTest hkeeps
    (fun hindex => sameFiltering_notifyTimeout (h.kind_early hboth hcurrent hindex))
    (fun hindex => sameBinding_notifyTimeout (h.kind_late hboth hcurrent hindex)) ?_
  intro hindex hsuccess _
  cases hk : t.kind with
  | basicBinding => exact absurd hk (h.kind_late hboth hcurrent hindex)
  | behavior fIsTest3 =>
    -- A behavior test runs only as long as there is no behavior result.
    unfold StunClientTest.isReadyToRun CBehaviorTest.isReadyToRun at hready
    rw [hk] at hready
    simp [hsuccess] at hready
  | filtering fIsTest3 =>
    unfold StunClientTest.notifyTimeout CFilteringTest.notifyTimeout
    rw [hk]
    dsimp only
    split_ifs <;> exact hsuccess

/-- A response that is accepted is regular. -/
theorem Regular.response (h : Regular config c)
    (hboth : config.fFilteringTest = config.fBehaviorTest) (hcurrent : c.CurrentTest t)
    (hkeeps : Keeps c (c.withTest result)) {spMsg : List UInt8} {addrLocal : CSocketAddress}
    (haccepted : t.processResponse c.config c.results spMsg addrLocal = .ok result) :
    Regular config (c.withTest result) := by
  refine h.withTest hkeeps
    (fun hindex => sameFiltering_processResponse (h.kind_early hboth hcurrent hindex) haccepted)
    (fun hindex => sameBinding_processResponse (h.kind_late hboth hcurrent hindex) haccepted) ?_
  intro hindex hsuccess _
  unfold StunClientTest.processResponse at haccepted
  split at haccepted
  · exact absurd ‹_› (h.kind_late hboth hcurrent hindex)
  · obtain ⟨_, -, addrMapped, -, rfl⟩ := CBehaviorTest.processResponse_eq_ok_iff.mp haccepted
    unfold CBehaviorTest.storeResponse
    dsimp only
    split_ifs <;> first
      | rfl
      | exact hsuccess
  · obtain ⟨-, rfl⟩ := CFilteringTest.processResponse_eq_ok_iff.mp haccepted
    unfold CFilteringTest.storeResponse
    dsimp only
    split_ifs <;> exact hsuccess

/-- A round that ends with `continue` is regular. -/
theorem Regular.round (h : Regular config c)
    (hboth : config.fFilteringTest = config.fBehaviorTest) {time : UInt32}
    (hround : Round time c c') : Regular config c' := by
  have hkeeps := Step.keeps (.round hround)
  cases hround with
  | precheck hcurrent hunchecked => exact h.precheck hboth hcurrent hunchecked
  | next _ hchecked _ => exact h.next hchecked
  | timeout hcurrent _ _ hready _ _ => exact h.timeout hboth hcurrent hready hkeeps

/-- A message that is sent is regular. -/
theorem Regular.message (h : Regular config c) {time : UInt32}
    (hkeeps : Keeps c (c.messageFetched time t)) : Regular config (c.messageFetched time t) := by
  have hsame : Regular config (c.withTest (t, c.results)) :=
    h.withTest ⟨hkeeps.init_eq, hkeeps.config_eq, hkeeps.index_le, hkeeps.kinds_eq,
      hkeeps.completed, hkeeps.transid⟩ (fun _ => ⟨rfl, rfl⟩) (fun _ => ⟨rfl, rfl, rfl⟩)
      fun _ hsuccess _ => hsuccess
  exact ⟨hsame.addrServer, hsame.attempts, hsame.kinds_eq, hsame.filtering, hsame.direct⟩

/-! ## What is still to come -/

/-- Filtering test 2 is still to come when another test is written with its results. -/
theorem Owes.withTest (howes : Owes c) (hindex : c.nTestIndex ≤ 2)
    (hbinding : SameBinding c.results result.2) (hfiltering : SameFiltering c.results result.2) :
    Owes (c.withTest result) where
  length := by
    show (c.testlist.set _ _).length = 5
    rw [List.length_set, howes.length]
  behind := howes.behind
  ahead := howes.ahead
  fresh := howes.fresh
  binding := hbinding.success.trans howes.binding
  direct := hbinding.direct.trans howes.direct
  other := hbinding.other.trans howes.other
  success := hfiltering.success.trans howes.success
  gotTest2 := hfiltering.gotTest2.trans howes.gotTest2
  notCompleted := by
    rw [withTest_three (by omega)]
    exact howes.notCompleted

/-- The test at index 3 is filtering test 2. -/
theorem Regular.kind_three (h : Regular config c)
    (hboth : config.fFilteringTest = config.fBehaviorTest) (hcurrent : c.CurrentTest t)
    (hindex : c.nTestIndex = 3) : t.kind = .filtering false := by
  rcases h.kind_current hboth hcurrent with ⟨hi, -⟩ | ⟨-, ⟨hi, -⟩ | ⟨hi, -⟩ | ⟨-, hk⟩ | ⟨hi, -⟩⟩
  · omega
  · omega
  · omega
  · exact hk
  · omega

/-- Filtering test 2 is still to come after a round that ends with `continue`. -/
theorem Owes.round (howes : Owes c) (h : Regular config c)
    (hboth : config.fFilteringTest = config.fBehaviorTest) {time : UInt32}
    (hround : Round time c c') : Owes c' := by
  have hahead := howes.ahead
  cases hround with
  | @precheck t hcurrent _ =>
    rcases Nat.lt_or_eq_of_le hahead with hlt | hthree
    · have hwrite := howes.withTest (Nat.le_of_lt_succ hlt) (sameBinding_preRunCheck t c.results)
        (sameFiltering_preRunCheck (h.kind_early hboth hcurrent (Nat.le_of_lt_succ hlt)))
      exact ⟨hwrite.length, hwrite.behind, hwrite.ahead, hwrite.fresh, hwrite.binding,
        hwrite.direct, hwrite.other, hwrite.success, hwrite.gotTest2, hwrite.notCompleted⟩
    · -- Filtering test 2 has nothing to find out early, since there is a NAT.
      have hsame : t.preRunCheck c.results = (t, c.results) := by
        unfold StunClientTest.preRunCheck CFilteringTest.preRunCheck
        rw [h.kind_three hboth hcurrent hthree]
        dsimp only
        rw [if_neg (by simp [howes.direct])]
      have hlist : (c.withTest (t, c.results)).testlist = c.testlist := by
        obtain ⟨hlt, ht⟩ := List.getElem?_eq_some_iff.mp hcurrent
        subst ht
        exact List.set_getElem_self hlt
      rw [hsame]
      exact ⟨(congrArg List.length hlist).trans howes.length, howes.behind, hahead, howes.fresh,
        howes.binding, howes.direct, howes.other, howes.success, howes.gotTest2,
        fun t' ht' => howes.notCompleted t' (hlist ▸ ht')⟩
  | @next t hcurrent _ hended =>
    have hne : c.nTestIndex ≠ 3 := by
      intro hthree
      have hopen := howes.notCompleted t (hthree ▸ hcurrent)
      have hready : t.isReadyToRun c.results = true := by
        unfold StunClientTest.isReadyToRun CFilteringTest.isReadyToRun
        rw [h.kind_three hboth hcurrent hthree]
        simp [hopen, howes.binding, howes.other, howes.success, howes.gotTest2]
      rcases hended with hdone | hnot
      · rw [hopen] at hdone
        cases hdone
      · rw [hready] at hnot
        cases hnot
    have hlt := lt_of_le_of_ne hahead hne
    exact ⟨howes.length, Nat.le_succ_of_le howes.behind, hlt, fun _ => rfl,
      howes.binding, howes.direct, howes.other, howes.success, howes.gotTest2, howes.notCompleted⟩
  | @timeout t hcurrent _ _ _ _ hattempts =>
    have hne : c.nTestIndex ≠ 3 := by
      intro hthree
      rw [howes.fresh hthree] at hattempts
      exact h.attempts (UInt32.le_zero_iff.mp hattempts)
    have hle : c.nTestIndex ≤ 2 := Nat.le_of_lt_succ (lt_of_le_of_ne hahead hne)
    exact howes.withTest hle
      (sameBinding_notifyTimeout (h.kind_late hboth hcurrent howes.behind))
      (sameFiltering_notifyTimeout (h.kind_early hboth hcurrent hle))

/-- A client that has not sent anything still has not after a round that ends with `continue`. -/
theorem Unsent.round (hunsent : Unsent c) (h : Regular config c) {time : UInt32}
    (hround : Round time c c') : Unsent c' := by
  obtain ⟨hindex, hcount, t, hcurrent, hkind, hopen⟩ := hunsent
  have hready : t.isReadyToRun c.results = true := by
    unfold StunClientTest.isReadyToRun CBasicBindingTest.isReadyToRun
    rw [hkind]
    simp [hopen]
  cases hround with
  | @precheck t' hcurrent' _ =>
    obtain rfl := Option.some.inj (hcurrent.symm.trans hcurrent')
    have hsame : t.preRunCheck c.results = (t, c.results) := by
      unfold StunClientTest.preRunCheck
      rw [hkind]
    rw [hsame]
    exact ⟨hindex, hcount, t, hcurrent.withTest (t, c.results), hkind, hopen⟩
  | @next t' hcurrent' _ hended =>
    obtain rfl := Option.some.inj (hcurrent.symm.trans hcurrent')
    rw [hopen, hready] at hended
    rcases hended with hfalse | hfalse <;> cases hfalse
  | timeout _ _ _ _ _ hattempts =>
    rw [hcount] at hattempts
    exact absurd (UInt32.le_zero_iff.mp hattempts) h.attempts

/-- The last request went to the server, or a later one will, after rounds that end with
`continue`. -/
theorem Registers.rounds (h : Regular config c) (hregisters : Registers config c addrDest)
    (hboth : config.fFilteringTest = config.fBehaviorTest) {time : UInt32}
    (hrounds : Relation.ReflTransGen (Round time) c c') :
    Regular config c' ∧ Registers config c' addrDest := by
  induction hrounds with
  | refl => exact ⟨h, hregisters⟩
  | tail _ hround ih =>
    obtain ⟨hregular, hdest | howes | hunsent⟩ := ih
    · exact ⟨hregular.round hboth hround, .inl hdest⟩
    · exact ⟨hregular.round hboth hround, .inr (.inl (howes.round hregular hboth hround))⟩
    · exact ⟨hregular.round hboth hround, .inr (.inr (hunsent.round hregular hround))⟩

/-- Between two calls filtering test 2 has not begun as long as it is still to come. -/
def Rests (config : StunClientLogicConfig) (c : CStunClientLogic)
    (addrDest : CSocketAddress) : Prop :=
  addrDest = config.addrServer ∨ Owes c ∧ c.nTestIndex ≤ 2

/-- A regular client that has handed out a message of the current test rests. -/
theorem Regular.rests_message (h : Regular config c)
    (hboth : config.fFilteringTest = config.fBehaviorTest) {time : UInt32}
    (hcurrent : c.CurrentTest t) (hchecked : c.fPreCheckRunOnTest = true)
    (hready : t.isReadyToRun c.results = true) (t' : StunClientTest) :
    Rests config (c.messageFetched time t') (t.destinationOf c.config c.results) := by
  rcases h.kind_current hboth hcurrent with ⟨-, hk⟩ | ⟨hlength, hcases⟩
  · left
    unfold StunClientTest.destinationOf
    rw [hk]
    exact h.addrServer
  · -- A behavior test goes elsewhere, and is followed by filtering test 2.
    have hbehavior : ∀ fIsTest3, t.kind = .behavior fIsTest3 → 1 ≤ c.nTestIndex →
        c.nTestIndex ≤ 2 →
        Rests config (c.messageFetched time t') (t.destinationOf c.config c.results) := by
      intro fIsTest3 hk hbehind hahead
      right
      unfold StunClientTest.isReadyToRun CBehaviorTest.isReadyToRun at hready
      rw [hk] at hready
      have hfacts : c.results.fBindingTestSuccess = true ∧ c.results.fHasOtherAddress = true ∧
          c.results.fBehaviorTestSuccess = false := by
        cases fIsTest3 <;> simp at hready <;> simp [hready]
      obtain ⟨hbinding, hother, hnone⟩ := hfacts
      obtain ⟨hsuccess, hgot, hopen⟩ := h.filtering hahead
      have hdirect : c.results.fIsDirect = false := by
        cases hd : c.results.fIsDirect with
        | false => rfl
        | true =>
          rcases h.direct hbehind hbinding hd with ⟨-, hfalse⟩ | htrue
          · rw [hchecked] at hfalse
            cases hfalse
          · rw [hnone] at htrue
            cases htrue
      have hlist : c.testlist.length = 5 := by
        rw [← hlength, ← h.kinds_eq, List.length_map]
      refine ⟨⟨?_, hbehind, ?_, ?_, hbinding, hdirect, hother, hsuccess, hgot, ?_⟩, hahead⟩
      · show (c.testlist.set _ _).length = 5
        rw [List.length_set, hlist]
      · exact hahead.trans (by decide)
      · intro hthree
        have hthree' : c.nTestIndex = 3 := hthree
        omega
      · show ∀ t'', (c.withTest (t', c.results)).testlist[3]? = some t'' → _
        rw [withTest_three (by omega)]
        exact hopen
    rcases hcases with ⟨hi, hk⟩ | ⟨hi, hk⟩ | ⟨-, hk⟩ | ⟨-, hk⟩
    · exact hbehavior false hk (by omega) (by omega)
    · exact hbehavior true hk (by omega) (by omega)
    all_goals
      left
      unfold StunClientTest.destinationOf
      rw [hk]
      exact h.addrServer

/-- What a call of `GetNextMessage` leaves, with the last address that was stored before it. -/
def Leaves (config : StunClientLogicConfig) (addrDest : CSocketAddress) :
    Except HRESULT (CBuffer × CSocketAddress) × CStunClientLogic → Prop
  | (.ok (_, addrDest), c) => Regular config c ∧ Rests config c addrDest
  | (.error hr, c) =>
    (hr = E_STUNCLIENT_STILL_WAITING → Regular config c ∧ Rests config c addrDest) ∧
      (hr = E_STUNCLIENT_RESULTS_READY → addrDest = config.addrServer)

/-- The last round leaves the destination registered. -/
theorem Registers.lastRound (h : Regular config c) (hregisters : Registers config c addrDest)
    (hboth : config.fFilteringTest = config.fBehaviorTest) {rand : ℕ → UInt8}
    {stack : StunTransactionId} {spMsg : CBuffer} {time : UInt32}
    (hbuf : MAX_STUN_MESSAGE_SIZE ≤ spMsg.getAllocatedSize)
    {answer : Except HRESULT (CBuffer × CSocketAddress) × CStunClientLogic}
    (hlast : LastRound rand stack spMsg time c answer) : Leaves config addrDest answer := by
  cases hlast with
  | resultsReady hnone =>
    -- There is no test left, so none that owes the destination can be ahead.
    refine ⟨fun heq => absurd heq (by decide), fun _ => ?_⟩
    rcases hregisters with hdest | howes | hunsent
    · exact hdest
    · have hlength := howes.length
      have hahead := howes.ahead
      have hover := List.getElem?_eq_none_iff.mp hnone
      omega
    · obtain ⟨t, hcurrent, -⟩ := hunsent.current
      rw [show c.testlist[c.nTestIndex]? = some t from hcurrent] at hnone
      cases hnone
  | stillWaiting _ _ _ _ hwaiting =>
    refine ⟨fun _ => ⟨h, ?_⟩, fun heq => absurd heq (by decide)⟩
    -- The client waits only for what it has sent.
    have hcount : c.sendCount ≠ 0 := by
      intro hzero
      unfold stillWaiting at hwaiting
      simp [hzero] at hwaiting
    rcases hregisters with hdest | howes | hunsent
    · exact .inl hdest
    · have hne : c.nTestIndex ≠ 3 := fun hthree => hcount (howes.fresh hthree)
      exact .inr ⟨howes, Nat.le_of_lt_succ (lt_of_le_of_ne howes.ahead hne)⟩
    · exact absurd hunsent.count hcount
  | @message t hcurrent hchecked hopen hready _ _ =>
    obtain ⟨buf, hmessage, -⟩ := t.getMessage_spec hbuf c.config c.results rand stack
    have hkeeps : Keeps c (c.messageFetched time
        (t.getMessage c.config c.results rand stack spMsg).1.1) :=
      Step.keeps (.message hcurrent hopen hbuf)
    rw [hmessage] at hkeeps ⊢
    exact ⟨h.message hkeeps, h.rests_message hboth hcurrent hchecked hready _⟩

/-- A call of `GetNextMessage` leaves the destination registered. -/
theorem Registers.getNextMessage (h : Regular config c) (hregisters : Registers config c addrDest)
    (hboth : config.fFilteringTest = config.fBehaviorTest) (rand : ℕ → UInt8)
    (stack : StunTransactionId) (spMsg : CBuffer) (time : UInt32) :
    Leaves config addrDest (c.getNextMessage rand stack spMsg time) := by
  by_cases hinit : c.fInitialized = true
  · by_cases hbuf : MAX_STUN_MESSAGE_SIZE ≤ spMsg.getAllocatedSize
    · obtain ⟨c₁, hrounds, hlast⟩ := @getNextMessage_cases rand stack spMsg time c hinit hbuf
      obtain ⟨hregular, hregisters'⟩ := Registers.rounds h hregisters hboth hrounds
      exact Registers.lastRound hregular hregisters' hboth hbuf hlast
    · unfold CStunClientLogic.getNextMessage
      rw [if_neg (by simp [hinit]), if_pos (not_le.mp hbuf)]
      exact ⟨fun heq => absurd heq (by decide), fun heq => absurd heq (by decide)⟩
  · unfold CStunClientLogic.getNextMessage
    rw [if_pos (Bool.not_eq_true _ ▸ hinit)]
    exact ⟨fun heq => absurd heq (by decide), fun heq => absurd heq (by decide)⟩

/-- A response leaves a client regular and its destination registered. -/
theorem Rests.processResponse (h : Regular config c) (hrests : Rests config c addrDest)
    (hboth : config.fFilteringTest = config.fBehaviorTest) (spMsg : List UInt8)
    (addrLocal : CSocketAddress) :
    let c' := finalState (CStunClientLogic.processResponse spMsg addrLocal) c
    Regular config c' ∧ Registers config c' addrDest := by
  have hreceive : finalState (CStunClientLogic.processResponse spMsg addrLocal) c =
      (({ client := c } : Exchange).receive ⟨spMsg, addrLocal, addrLocal⟩).client := rfl
  dsimp only
  rw [hreceive]
  rcases Exchange.receive_cases ⟨c, [], []⟩ ⟨spMsg, addrLocal, addrLocal⟩ with
    hsame | ⟨t, result, hcurrent, hopen, haccepted, hresult⟩
  · rw [hsame]
    exact ⟨h, hrests.imp_right fun howes => .inl howes.1⟩
  · rw [hresult]
    have hkeeps : Keeps c (c.withTest result) := Step.keeps (.response hcurrent hopen haccepted)
    refine ⟨h.response hboth hcurrent hkeeps haccepted, hrests.imp_right ?_⟩
    rintro ⟨howes, hindex⟩
    exact .inl (howes.withTest hindex
      (sameBinding_processResponse (h.kind_late hboth hcurrent howes.behind) haccepted)
      (sameFiltering_processResponse (h.kind_early hboth hcurrent hindex) haccepted))

end Invariant

/-! ## The loop -/

/-- Waiting for a response changes nothing of this either. -/
theorem Rests.awaitResponse {config : StunClientLogicConfig} {s : UdpLoopState}
    (h : Regular config s.clientlogic) (hrests : Rests config s.clientlogic s.addrDest)
    (hboth : config.fFilteringTest = config.fBehaviorTest) (received : Option Datagram) :
    Regular config (s.awaitResponse received).clientlogic ∧
      Registers config (s.awaitResponse received).clientlogic
      (s.awaitResponse received).addrDest := by
  have hregisters : Registers config s.clientlogic s.addrDest :=
    hrests.imp_right fun howes => .inl howes.1
  unfold UdpLoopState.awaitResponse
  cases received with
  | none => exact ⟨h, hregisters⟩
  | some d =>
    dsimp only
    split_ifs
    · exact hrests.processResponse h hboth _ d.addrLocal
    · exact ⟨h, hregisters⟩

/-- A round leaves the destination registered, and ends the loop only with that of the server. -/
theorem udpClientRound_registers {config : StunClientLogicConfig} {s : UdpLoopState}
    (h : Regular config s.clientlogic) (hregisters : Registers config s.clientlogic s.addrDest)
    (hboth : config.fFilteringTest = config.fBehaviorTest) (x : UdpExchange) :
    (∀ s', udpClientRound x s = .inl s' →
      Regular config s'.clientlogic ∧ Registers config s'.clientlogic s'.addrDest) ∧
    ∀ results addrDest, udpClientRound x s = .inr (.finished results addrDest) →
      addrDest = config.addrServer := by
  have hleaves := hregisters.getNextMessage h hboth x.rand x.stack (s.spMsg.setSize 0).2
    x.timeCurrentMilliseconds
  unfold udpClientRound
  dsimp only
  split
  · -- The client sends a request, and then awaits a response.
    rename_i spMsg addrDest clientlogic hmessage
    rw [hmessage] at hleaves
    refine ⟨fun s' hs' => ?_, fun _ _ hfinished => by cases hfinished⟩
    cases hs'
    exact Rests.awaitResponse (s := ⟨clientlogic, spMsg, addrDest⟩) hleaves.1 hleaves.2 hboth _
  · rename_i hrRet clientlogic hmessage
    rw [hmessage] at hleaves
    -- The client waits, or the loop is left.
    split_ifs with hwaiting hready
    · refine ⟨fun s' hs' => ?_, fun _ _ hfinished => by cases hfinished⟩
      cases hs'
      obtain ⟨hregular, hrests⟩ := hleaves.1 hwaiting
      exact Rests.awaitResponse (s := ⟨clientlogic, (s.spMsg.setSize 0).2, s.addrDest⟩)
        hregular hrests hboth _
    · refine ⟨fun s' hs' => (by cases hs'), fun results addrDest hfinished => ?_⟩
      cases hfinished
      exact hleaves.2 hready
    · exact ⟨fun s' hs' => (by cases hs'), fun _ _ hfinished => by cases hfinished⟩

/-- In every run of the rounds the results are ready only when the last request went to the
server. -/
theorem udpClientRounds_registers {config : StunClientLogicConfig} {s : UdpLoopState}
    (h : Regular config s.clientlogic) (hregisters : Registers config s.clientlogic s.addrDest)
    (hboth : config.fFilteringTest = config.fBehaviorTest) {exchanges : List UdpExchange}
    {results : StunClientResults} {addrDest : CSocketAddress}
    (hfinished : udpClientRounds exchanges s = .finished results addrDest) :
    addrDest = config.addrServer := by
  induction exchanges generalizing s with
  | nil => cases hfinished
  | cons x xs ih =>
    obtain ⟨hgoes, hends⟩ := udpClientRound_registers h hregisters hboth x
    unfold udpClientRounds at hfinished
    split at hfinished
    · rename_i s' hround
      obtain ⟨hregular, hregisters'⟩ := hgoes s' hround
      exact ih hregular hregisters' hfinished
    · rename_i outcome hround
      subst hfinished
      exact hends results addrDest hround

/-- A new client is regular, and has sent nothing. -/
theorem regular_initialized (config : StunClientLogicConfig) :
    Regular config (initialized config) ∧ Unsent (initialized config) := by
  have hkinds : (initialized config).testlist.map StunClientTest.kind = config.kinds := by
    unfold initialized
    rw [List.map_map]
    exact List.map_id _
  constructor
  · exact {
      addrServer := rfl
      attempts := by
        show (if config.uMaxAttempts = 0 then (2 : UInt32) else config.uMaxAttempts) ≠ 0
        split_ifs with h0
        · decide
        · exact h0
      kinds_eq := hkinds
      filtering := by
        refine fun _ => ⟨rfl, rfl, fun t ht => ?_⟩
        obtain ⟨kind, -, rfl⟩ := List.mem_map.mp (List.mem_of_getElem? ht)
        rfl
      direct := fun hindex => absurd hindex (Nat.not_succ_le_zero 0) }
  · exact ⟨rfl, rfl, { kind := .basicBinding }, rfl, rfl, rfl⟩

/-- A configuration from the command line for UDP: when the results are ready, the last request went
to the server of the configuration, so that the client registers there, one port further. -/
theorem udpClientLoop_registers
    {resolveHostName : CString → Family → Except HRESULT CSocketAddress}
    {getSocketAddressForAdapter : Family → CString → UInt16 → Except HRESULT CSocketAddress}
    {args : ClientCmdLineArgs} {config : StunClientLogicConfig} {socketconfig : ClientSocketConfig}
    (h : createConfigFromCommandLine resolveHostName getSocketAddressForAdapter args =
      .ok (config, socketconfig))
    (hudp : socketconfig.socktype = .dgram) {udpInit : HRESULT} {exchanges : List UdpExchange}
    {results : StunClientResults} {addrDest : CSocketAddress}
    (hfinished : udpClientLoop config udpInit exchanges = .finished results addrDest) :
    addrDest = config.addrServer ∧
      appServerAddr addrDest = config.addrServer.setPort (config.addrServer.getPort + 1) := by
  obtain ⟨-, -, -, hdgram⟩ := createConfigFromCommandLine_eq_ok h
  have hdest : addrDest = config.addrServer := by
    unfold udpClientLoop at hfinished
    cases hnew : initializeLogic config {} with
    | error hr c =>
      rw [hnew] at hfinished
      cases hfinished
    | ok _ new =>
      obtain ⟨-, -, rfl⟩ := initializeLogic_eq_ok_iff.mp hnew
      rw [hnew] at hfinished
      dsimp only at hfinished
      split_ifs at hfinished
      obtain ⟨hregular, hunsent⟩ := regular_initialized config
      exact udpClientRounds_registers hregular (.inr (.inr hunsent)) (hdgram hudp).2 hfinished
  exact ⟨hdest, by rw [hdest]; rfl⟩

/-- `stun` is a string. -/
theorem nul_free_stun : (0 : UInt8) ∉ [115, 116, 117, 110] := by decide

/-- `stun` as a host, in full mode. -/
def udpArgs : ClientCmdLineArgs where
  strRemoteServer := ⟨[115, 116, 117, 110], nul_free_stun⟩
  strMode := OptionValue.full

/-- Every host is 1.1.1.1, and there are no adapters. -/
def udpConfigOf (args : ClientCmdLineArgs) :
    Except HRESULT (StunClientLogicConfig × ClientSocketConfig) :=
  createConfigFromCommandLine (fun _ _ => .ok (CSocketAddress.ofHostByteOrder 0x01010101 0))
    (fun _ _ _ => .error E_FAIL) args

/-- The configuration of these arguments. -/
def udpConfig : StunClientLogicConfig where
  addrServer := CSocketAddress.ofHostByteOrder 0x01010101 3478
  fBehaviorTest := true
  fFilteringTest := true

/-- A round in which nothing comes back. -/
def lostExchange (time : UInt32) : UdpExchange where
  timeCurrentMilliseconds := time
  rand := fun _ => 1
  stack := StunTransactionId.zero
  received := none

/-- `addrDest` after each of the rounds. -/
def addrDests : List UdpExchange → UdpLoopState → List CSocketAddress
  | [], _ => []
  | x :: xs, s =>
    match udpClientRound x s with
    | .inl s => s.addrDest :: addrDests xs s
    | .inr _ => []

/-- The binding test is answered, with 2.2.2.2:3479 as the other address, and no other test is. -/
def bindingAnswered : List UdpExchange :=
  [{ lostExchange 0 with received := some Exchange.answerFromPP }, lostExchange 0,
    lostExchange 3000, lostExchange 6000, lostExchange 9000, lostExchange 12000, lostExchange 15000,
    lostExchange 18000]

/-- What the client finds out when only the binding test is answered: it is behind a NAT, which has
let nothing else through. -/
def bindingResults : StunClientResults where
  fBindingTestSuccess := true
  addrLocal := CSocketAddress.ofHostByteOrder 0x0A000001 5000
  addrMapped := CSocketAddress.ofHostByteOrder 0x07070707 5000
  fHasOtherAddress := true
  addrPA := CSocketAddress.ofHostByteOrder 0x01010101 3479
  addrAP := CSocketAddress.ofHostByteOrder 0x02020202 3478
  addrAA := CSocketAddress.ofHostByteOrder 0x02020202 3479
  fFilteringTestSuccess := true
  filtering := .addressAndPortDependentFiltering

/-- A client that has sent the requests of behavior test 2 to 2.2.2.2:3478, and then those of the
filtering tests, registers at the server. -/
theorem udpClientLoop_registers_bindingAnswered :
    udpConfigOf udpArgs = .ok (udpConfig, ⟨.inet, .dgram, CSocketAddress.zero⟩) ∧
    addrDests bindingAnswered { clientlogic := initialized udpConfig } =
      [udpConfig.addrServer, CSocketAddress.ofHostByteOrder 0x02020202 3478,
        CSocketAddress.ofHostByteOrder 0x02020202 3478, udpConfig.addrServer, udpConfig.addrServer,
        udpConfig.addrServer, udpConfig.addrServer] ∧
    udpClientLoop udpConfig S_OK bindingAnswered =
      .finished bindingResults udpConfig.addrServer ∧
    appServerAddr udpConfig.addrServer = CSocketAddress.ofHostByteOrder 0x01010101 3479 := by
  have hconfig : udpConfigOf udpArgs = .ok (udpConfig, ⟨.inet, .dgram, CSocketAddress.zero⟩) := rfl
  have hrun : udpClientLoop udpConfig S_OK bindingAnswered =
      .finished bindingResults udpConfig.addrServer := by decide +kernel
  refine ⟨hconfig, by decide +kernel, hrun, ?_⟩
  rw [(udpClientLoop_registers hconfig rfl hrun).2]
  decide +kernel

end Stun
