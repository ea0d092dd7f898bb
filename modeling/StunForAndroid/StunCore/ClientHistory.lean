import StunForAndroid.StunCore.ClientNetwork

/-!
# The tests as a sequence of outcomes

What the client finds out does not depend on the times and the datagrams themselves, but only on how
each test has ended: it was skipped, since it has completed early or cannot run, or it was answered,
or it has timed out. `History` gives the results after a sequence of outcomes.

The behavior result is right after every sequence (`History.sound`), and there is one when no test
has timed out (`History.progress`).
-/

namespace Stun

/-- How a test ends. -/
inductive Outcome where
  /-- The test has sent no request. -/
  | skipped
  /-- The test was answered. -/
  | answered
  /-- The test was not answered. -/
  | timedOut
deriving DecidableEq

namespace TestKind

/-- The results after the early chance of a test. -/
def prechecked (kind : TestKind) (results : StunClientResults) : StunClientResults :=
  (({ kind := kind } : StunClientTest).preRunCheck results).2

/-- A test sends a request: it has not completed early, and can run. -/
def asks (kind : TestKind) (results : StunClientResults) : Bool :=
  (({ kind := kind } : StunClientTest).preRunCheck results).1.fCompleted == false &&
    ({ kind := kind } : StunClientTest).isReadyToRun (kind.prechecked results)

/-- The results after a test has timed out. -/
def timedOut (kind : TestKind) (results : StunClientResults) : StunClientResults :=
  (({ kind := kind } : StunClientTest).notifyTimeout results).2

/-- The results after an honest answer to a test. -/
def answered (net : Network) (config : StunClientLogicConfig) (kind : TestKind)
    (results : StunClientResults) : StunClientResults :=
  let addrMapped := net.mapped (net.server.addr (net.destination kind))
  match kind with
  | .basicBinding => CBasicBindingTest.storeResponse config net.addrLocal addrMapped
      (some (net.server.addr (FourAddressServer.opposite net.role))) results
  | .behavior fIsTest3 => CBehaviorTest.storeResponse fIsTest3 addrMapped results
  | .filtering fIsTest3 => CFilteringTest.storeResponse fIsTest3 results

/-- A behavior test asks when the binding test has found an other address, there is no behavior
result, and the part of the test before has found what it needs. -/
theorem asks_behavior {fIsTest3 : Bool} {results : StunClientResults} :
    asks (.behavior fIsTest3) results = true ↔
      (fIsTest3 = false → results.fIsDirect = false) ∧ results.fBindingTestSuccess = true ∧
        results.fHasOtherAddress = true ∧ results.fBehaviorTestSuccess = false ∧
        (fIsTest3 = true → results.addrMappingAP.isIPAddressZero = false) := by
  unfold asks prechecked StunClientTest.preRunCheck StunClientTest.isReadyToRun
    CBehaviorTest.preRunCheck CBehaviorTest.isReadyToRun
  cases fIsTest3 <;> cases hb : results.fBindingTestSuccess <;> cases hd : results.fIsDirect <;>
    simp [hb, and_assoc]

/-- A filtering test asks when the binding test has found an other address, there is no filtering
result, and no response to the second filtering test has come. -/
theorem asks_filtering {fIsTest3 : Bool} {results : StunClientResults} :
    asks (.filtering fIsTest3) results = true ↔
      (fIsTest3 = false → results.fIsDirect = false) ∧ results.fBindingTestSuccess = true ∧
        results.fHasOtherAddress = true ∧ results.fFilteringTestSuccess = false ∧
        results.fGotTest2Response = false := by
  unfold asks prechecked StunClientTest.preRunCheck StunClientTest.isReadyToRun
    CFilteringTest.preRunCheck CFilteringTest.isReadyToRun
  cases fIsTest3 <;> cases hb : results.fBindingTestSuccess <;> cases hd : results.fIsDirect <;>
    simp [hb, and_assoc]

/-- The early chance of a test changes nothing, or settles behavior or filtering of a direct client.
-/
theorem prechecked_cases (kind : TestKind) (results : StunClientResults) :
    kind.prechecked results = results ∨
    (kind = .behavior false ∧ results.fBindingTestSuccess = true ∧ results.fIsDirect = true ∧
      kind.prechecked results =
        { results with behavior := .directMapping, fBehaviorTestSuccess := true }) ∨
    (kind = .filtering false ∧ results.fBindingTestSuccess = true ∧ results.fIsDirect = true ∧
      kind.prechecked results =
        { results with
          filtering := .endpointIndependentFiltering, fFilteringTestSuccess := true }) := by
  unfold prechecked StunClientTest.preRunCheck CBehaviorTest.preRunCheck CFilteringTest.preRunCheck
  cases kind with
  | basicBinding => exact .inl rfl
  | behavior fIsTest3 =>
    dsimp only
    split_ifs with h
    · obtain ⟨rfl, hb, hd⟩ := h
      exact .inr (.inl ⟨rfl, hb, hd, rfl⟩)
    · exact .inl rfl
  | filtering fIsTest3 =>
    dsimp only
    split_ifs with h
    · obtain ⟨rfl, hb, hd⟩ := h
      exact .inr (.inr ⟨rfl, hb, hd, rfl⟩)
    · exact .inl rfl

end TestKind

/-- The results after a sequence of outcomes of the tests on the client's list. -/
inductive History (net : Network) (config : StunClientLogicConfig) :
    List Outcome → StunClientResults → Prop
  /-- No test has ended. -/
  | start : History net config [] {}
  /-- A test is skipped. -/
  | skipped {hist : List Outcome} {results : StunClientResults} {kind : TestKind}
      (h : History net config hist results) (hkind : config.kinds[hist.length]? = some kind)
      (hasks : kind.asks results = false) :
      History net config (hist ++ [.skipped]) (kind.prechecked results)
  /-- A test is answered. -/
  | answered {hist : List Outcome} {results : StunClientResults} {kind : TestKind}
      (h : History net config hist results) (hkind : config.kinds[hist.length]? = some kind)
      (hasks : kind.asks results = true) :
      History net config (hist ++ [.answered]) (kind.answered net config results)
  /-- A test times out. -/
  | timedOut {hist : List Outcome} {results : StunClientResults} {kind : TestKind}
      (h : History net config hist results) (hkind : config.kinds[hist.length]? = some kind)
      (hasks : kind.asks results = true) :
      History net config (hist ++ [.timedOut]) (kind.timedOut results)

namespace Network.Behaves

variable {net : Network} {behavior : NatBehavior}

/-- A client that is seen at its own address has no NAT. -/
theorem eq_direct (h : net.Behaves behavior)
    (hmapped : net.addrLocal = net.mapped (net.server.addr net.role)) :
    behavior = .directMapping := by
  cases h with
  | direct _ => rfl
  | endpointIndependent htranslates _ => exact absurd hmapped.symm (htranslates _)
  | addressDependent htranslates _ => exact absurd hmapped.symm (htranslates _)
  | addressAndPortDependent htranslates _ => exact absurd hmapped.symm (htranslates _)

/-- A NAT that maps alike for two IP addresses does so for all destinations. -/
theorem eq_endpointIndependent (h : net.Behaves behavior)
    (hnat : net.addrLocal ≠ net.mapped (net.server.addr net.role))
    (hsame : net.mapped (net.server.addr (socketRoleSwapIP net.role)) =
      net.mapped (net.server.addr net.role)) : behavior = .endpointIndependentMapping := by
  cases h with
  | direct hdirect => exact absurd (hdirect _).symm hnat
  | endpointIndependent _ _ => rfl
  | addressDependent _ hinj => exact absurd ((hinj _ _).mp hsame) (net.server.ip_swapIP _)
  | addressAndPortDependent _ hinj =>
    exact absurd ((hinj _ _).mp hsame) (net.server.addr_swapIP_ne _)

/-- A NAT that maps differently for two IP addresses, and alike for two ports, is address dependent.
-/
theorem eq_addressDependent (h : net.Behaves behavior)
    (hnat : net.addrLocal ≠ net.mapped (net.server.addr net.role))
    (hother : net.mapped (net.server.addr (socketRoleSwapIP net.role)) ≠
      net.mapped (net.server.addr net.role))
    (hsame : net.mapped (net.server.addr (FourAddressServer.opposite net.role)) =
      net.mapped (net.server.addr (socketRoleSwapIP net.role))) :
    behavior = .addressDependentMapping := by
  have hswap : FourAddressServer.opposite net.role =
      socketRoleSwapPort (socketRoleSwapIP net.role) := by cases net.role <;> rfl
  cases h with
  | direct hdirect => exact absurd (hdirect _).symm hnat
  | endpointIndependent _ hall => exact absurd (hall _ _) hother
  | addressDependent _ _ => rfl
  | addressAndPortDependent _ hinj =>
    rw [hswap] at hsame
    exact absurd ((hinj _ _).mp hsame) (net.server.addr_swapPort_ne _)

/-- A NAT that maps differently for two IP addresses, and for two ports, is address and port
dependent. -/
theorem eq_addressAndPortDependent (h : net.Behaves behavior)
    (hnat : net.addrLocal ≠ net.mapped (net.server.addr net.role))
    (hother : net.mapped (net.server.addr (socketRoleSwapIP net.role)) ≠
      net.mapped (net.server.addr net.role))
    (hdifferent : net.mapped (net.server.addr (FourAddressServer.opposite net.role)) ≠
      net.mapped (net.server.addr (socketRoleSwapIP net.role))) :
    behavior = .addressAndPortDependentMapping := by
  have hswap : FourAddressServer.opposite net.role =
      socketRoleSwapPort (socketRoleSwapIP net.role) := by cases net.role <;> rfl
  cases h with
  | direct hdirect => exact absurd (hdirect _).symm hnat
  | endpointIndependent _ hall => exact absurd (hall _ _) hother
  | addressDependent _ hinj =>
    rw [hswap] at hdifferent
    exact absurd ((hinj _ _).mpr (net.server.ip_swapPort _)) hdifferent
  | addressAndPortDependent _ _ => rfl

end Network.Behaves

/-! ## The behavior result is right -/

section Behavior

variable {net : Network} {config : StunClientLogicConfig} {behavior : NatBehavior}

/-- What the results of the binding test and the behavior tests are. -/
structure Sound (net : Network) (behavior : NatBehavior) (results : StunClientResults) : Prop where
  /-- The direct connection is recognized. -/
  direct : results.fBindingTestSuccess = true →
    (results.fIsDirect = true ↔ net.addrLocal = net.mapped (net.server.addr net.role))
  addrMapped : results.fBindingTestSuccess = true →
    results.addrMapped = net.mapped (net.server.addr net.role)
  hasOther : results.fBindingTestSuccess = true → results.fHasOtherAddress = true
  addrAP : results.fBindingTestSuccess = true →
    results.addrAP = net.server.addr (socketRoleSwapIP net.role)
  addrAA : results.fBindingTestSuccess = true →
    results.addrAA = net.server.addr (FourAddressServer.opposite net.role)
  /-- Behavior test 2 was answered. -/
  mappingAP : results.addrMappingAP.isIPAddressZero = false →
    results.addrMappingAP = net.mapped (net.server.addr (socketRoleSwapIP net.role)) ∧
      net.addrLocal ≠ net.mapped (net.server.addr net.role) ∧
      (results.fBehaviorTestSuccess = false →
        results.addrMappingAP ≠ net.mapped (net.server.addr net.role))
  /-- The result is right. -/
  behavior_eq : results.fBehaviorTestSuccess = true → behavior = results.behavior

/-- A new client has no results. -/
theorem sound_init : Sound net behavior {} :=
  ⟨by simp, by simp, by simp, by simp, by simp,
    fun hzero => absurd (show CSocketAddress.zero.isIPAddressZero = false from hzero) (by decide),
    by simp⟩

/-- The early chance of a test keeps the results sound. -/
theorem Sound.prechecked {results : StunClientResults} (h : Sound net behavior results)
    (hb : net.Behaves behavior) (kind : TestKind) :
    Sound net behavior (kind.prechecked results) := by
  rcases kind.prechecked_cases results with hsame | ⟨-, hbinding, hdirect, hnew⟩ |
    ⟨-, -, -, hnew⟩
  · rwa [hsame]
  · rw [hnew]
    exact ⟨h.direct, h.addrMapped, h.hasOther, h.addrAP, h.addrAA,
      fun hzero => ⟨(h.mappingAP hzero).1, (h.mappingAP hzero).2.1, by simp⟩,
      fun _ => hb.eq_direct ((h.direct hbinding).mp hdirect)⟩
  · rw [hnew]
    exact ⟨h.direct, h.addrMapped, h.hasOther, h.addrAP, h.addrAA, h.mappingAP, h.behavior_eq⟩

/-- The answer to the binding test gives sound results. -/
theorem sound_answered_basicBinding
    (hserver : config.addrServer = net.server.addr net.role) :
    Sound net behavior (TestKind.answered net config .basicBinding {}) := by
  refine ⟨fun _ => ?_, fun _ => rfl, fun _ => rfl, fun _ => ?_, fun _ => rfl, ?_, ?_⟩
  · exact CSocketAddress.isSameIP_and_Port_iff
  · show (net.server.addr (FourAddressServer.opposite net.role)).setPort
      config.addrServer.getPort = _
    rw [hserver]
    exact net.server.addr_opposite_setPort net.role
  · intro hzero
    exact absurd (show CSocketAddress.zero.isIPAddressZero = false from hzero) (by decide)
  · intro hf
    cases hf

/-- An answer to a behavior test keeps the results sound. -/
theorem Sound.answered_behavior {results : StunClientResults} (h : Sound net behavior results)
    (hb : net.Behaves behavior) {fIsTest3 : Bool}
    (hasks : (TestKind.behavior fIsTest3).asks results = true) :
    Sound net behavior (TestKind.answered net config (.behavior fIsTest3) results) := by
  obtain ⟨hdirect, hbinding, hother, hsuccess, hzero⟩ := TestKind.asks_behavior.mp hasks
  cases fIsTest3 with
  | false =>
    -- The second test asks only behind a NAT.
    have hnat : net.addrLocal ≠ net.mapped (net.server.addr net.role) := by
      intro hlocal
      have htrue := (h.direct hbinding).mpr hlocal
      rw [hdirect rfl] at htrue
      cases htrue
    have hmapped := h.addrMapped hbinding
    simp only [TestKind.answered, Network.destination, CBehaviorTest.storeResponse, if_true,
      Bool.false_eq_true, if_false, CSocketAddress.isSameIP_and_Port_iff, hmapped]
    split_ifs with hsame
    · exact ⟨h.direct, fun _ => rfl, h.hasOther, h.addrAP, h.addrAA,
        fun _ => ⟨rfl, hnat, by simp⟩, fun _ => hb.eq_endpointIndependent hnat hsame⟩
    · exact ⟨h.direct, fun _ => rfl, h.hasOther, h.addrAP, h.addrAA,
        fun _ => ⟨rfl, hnat, fun _ => hsame⟩, h.behavior_eq⟩
  | true =>
    obtain ⟨hAP, hnat, hne⟩ := h.mappingAP (hzero rfl)
    have hne' := hne hsuccess
    rw [hAP] at hne'
    simp only [TestKind.answered, Network.destination, CBehaviorTest.storeResponse, if_true,
      Bool.true_eq_false, if_false, CSocketAddress.isSameIP_and_Port_iff, hAP]
    refine ⟨h.direct, h.addrMapped, h.hasOther, h.addrAP, h.addrAA,
      fun _ => ⟨rfl, hnat, by simp⟩, fun _ => ?_⟩
    show behavior = if _ then _ else _
    split_ifs with hsame
    · exact hb.eq_addressDependent hnat hne' hsame
    · exact hb.eq_addressAndPortDependent hnat hne' hsame

/-- A timeout keeps the results sound, since a test that has asked had no result yet. -/
theorem Sound.timedOut {results : StunClientResults} (h : Sound net behavior results)
    {kind : TestKind} (hasks : kind.asks results = true) (hkind : kind ≠ .basicBinding) :
    Sound net behavior (kind.timedOut results) := by
  cases kind with
  | basicBinding => exact absurd rfl hkind
  | behavior fIsTest3 =>
    obtain ⟨-, -, -, hsuccess, -⟩ := TestKind.asks_behavior.mp hasks
    exact ⟨h.direct, h.addrMapped, h.hasOther, h.addrAP, h.addrAA,
      fun hzero => ⟨(h.mappingAP hzero).1, (h.mappingAP hzero).2.1,
        fun _ => (h.mappingAP hzero).2.2 hsuccess⟩, fun hf => by cases hf⟩
  | filtering fIsTest3 =>
    cases fIsTest3 <;>
      exact ⟨h.direct, h.addrMapped, h.hasOther, h.addrAP, h.addrAA, h.mappingAP, h.behavior_eq⟩

/-- Before the first test has ended there are no results. -/
theorem History.eq_init {hist : List Outcome} {results : StunClientResults}
    (h : History net config hist results) (hlen : hist.length = 0) : results = {} := by
  cases h with
  | start => rfl
  | skipped _ _ _ => simp at hlen
  | answered _ _ _ => simp at hlen
  | timedOut _ _ _ => simp at hlen

/-- The results are sound after every sequence of outcomes. -/
theorem History.sound {hist : List Outcome} {results : StunClientResults}
    (h : History net config hist results) (hb : net.Behaves behavior)
    (hserver : config.addrServer = net.server.addr net.role) : Sound net behavior results := by
  induction h with
  | start => exact sound_init
  | skipped _ _ _ ih => exact ih.prechecked hb _
  | @answered hist results kind h hkind hasks ih =>
    cases kind with
    | basicBinding =>
      rw [h.eq_init ((config.kinds_first _ _ hkind).mp rfl)]
      exact sound_answered_basicBinding hserver
    | behavior fIsTest3 => exact ih.answered_behavior hb hasks
    | filtering fIsTest3 =>
      cases fIsTest3 <;>
        exact ⟨ih.direct, ih.addrMapped, ih.hasOther, ih.addrAP, ih.addrAA, ih.mappingAP,
          ih.behavior_eq⟩
  | @timedOut hist results kind h hkind hasks ih =>
    by_cases hbasic : kind = .basicBinding
    · subst hbasic
      rw [h.eq_init ((config.kinds_first _ _ hkind).mp rfl)]
      exact sound_init
    · exact ih.timedOut hasks hbasic

/-! ## There is a behavior result -/

/-- How far the behavior tests have come when none of the first three tests has timed out. -/
def Progress (results : StunClientResults) : ℕ → Prop
  | 0 => results = {}
  | 1 => results.fBindingTestSuccess = true ∧ results.fBehaviorTestSuccess = false
  | 2 => results.fBehaviorTestSuccess = true ∨
      (results.fBindingTestSuccess = true ∧ results.fBehaviorTestSuccess = false ∧
        results.addrMappingAP.isIPAddressZero = false)
  | _ + 3 => results.fBehaviorTestSuccess = true

/-- The kinds of the first three tests. -/
theorem StunClientLogicConfig.kinds_behavior (hconfig : config.fBehaviorTest = true) :
    config.kinds = [.basicBinding, .behavior false, .behavior true] ++
      (if config.fFilteringTest then [.filtering false, .filtering true] else []) := by
  unfold kinds
  rw [hconfig]
  rfl

/-- A test after the third one is a filtering test. -/
theorem StunClientLogicConfig.kinds_add_three (hconfig : config.fBehaviorTest = true) {n : ℕ}
    {kind : TestKind} (h : config.kinds[n + 3]? = some kind) :
    ∃ fIsTest3, kind = .filtering fIsTest3 := by
  rw [kinds_behavior hconfig] at h
  have hmem := List.mem_of_getElem? (show (if config.fFilteringTest then
    [TestKind.filtering false, .filtering true] else [])[n]? = some kind from h)
  split_ifs at hmem with hf
  · simp only [List.mem_cons, List.not_mem_nil, or_false] at hmem
    rcases hmem with rfl | rfl
    · exact ⟨false, rfl⟩
    · exact ⟨true, rfl⟩
  · cases hmem

/-- A filtering test leaves the behavior result alone. -/
theorem fBehaviorTestSuccess_filtering (fIsTest3 : Bool) (results : StunClientResults) :
    (TestKind.prechecked (.filtering fIsTest3) results).fBehaviorTestSuccess =
        results.fBehaviorTestSuccess ∧
      (TestKind.answered net config (.filtering fIsTest3) results).fBehaviorTestSuccess =
        results.fBehaviorTestSuccess ∧
      (TestKind.timedOut (.filtering fIsTest3) results).fBehaviorTestSuccess =
        results.fBehaviorTestSuccess := by
  refine ⟨?_, ?_, ?_⟩
  · rcases TestKind.prechecked_cases (.filtering fIsTest3) results with h | ⟨h, -⟩ | ⟨-, -, -, h⟩
    · rw [h]
    · cases h
    · rw [h]
  · cases fIsTest3 <;> rfl
  · cases fIsTest3 <;> rfl

/-- A test that is skipped keeps the progress. -/
theorem progress_skipped {results : StunClientResults} {n : ℕ} {kind : TestKind}
    (hkind : config.kinds[n]? = some kind) (hasks : kind.asks results = false)
    (hsound : Sound net behavior results) (hconfig : config.fBehaviorTest = true)
    (ih : Progress results n) : Progress (kind.prechecked results) (n + 1) := by
  have hkinds := StunClientLogicConfig.kinds_behavior hconfig
  match n with
  | 0 =>
    obtain rfl : TestKind.basicBinding = kind := by simpa [hkinds] using hkind
    cases hasks
  | 1 =>
    obtain rfl : TestKind.behavior false = kind := by simpa [hkinds] using hkind
    obtain ⟨hbinding, hsuccess⟩ := ih
    -- The test can run, so that only the direct connection is a reason to skip it.
    have hdirect : results.fIsDirect = true := by
      by_contra hd
      rw [TestKind.asks_behavior.mpr ⟨fun _ => by simpa using hd, hbinding,
        hsound.hasOther hbinding, hsuccess, by simp⟩] at hasks
      cases hasks
    left
    simp [TestKind.prechecked, StunClientTest.preRunCheck, CBehaviorTest.preRunCheck, hbinding,
      hdirect]
  | 2 =>
    obtain rfl : TestKind.behavior true = kind := by simpa [hkinds] using hkind
    have hsame : (TestKind.behavior true).prechecked results = results := rfl
    show Progress _ 3
    rw [hsame]
    refine ih.resolve_right fun ⟨hbinding, hsuccess, hzero⟩ => ?_
    rw [TestKind.asks_behavior.mpr ⟨by simp, hbinding, hsound.hasOther hbinding, hsuccess,
      fun _ => hzero⟩] at hasks
    cases hasks
  | n + 3 =>
    obtain ⟨fIsTest3, rfl⟩ := StunClientLogicConfig.kinds_add_three hconfig hkind
    exact (@fBehaviorTestSuccess_filtering net config fIsTest3 results).1.trans ih

/-- A test that is answered keeps the progress. -/
theorem progress_answered {results : StunClientResults} {n : ℕ} {kind : TestKind}
    (hkind : config.kinds[n]? = some kind) (hasks : kind.asks results = true)
    (hconfig : config.fBehaviorTest = true) (ih : Progress results n) :
    Progress (kind.answered net config results) (n + 1) := by
  have hkinds := StunClientLogicConfig.kinds_behavior hconfig
  match n with
  | 0 =>
    obtain rfl : TestKind.basicBinding = kind := by simpa [hkinds] using hkind
    obtain rfl : results = {} := ih
    exact ⟨rfl, rfl⟩
  | 1 =>
    obtain rfl : TestKind.behavior false = kind := by simpa [hkinds] using hkind
    obtain ⟨hbinding, hsuccess⟩ := ih
    show Progress (CBehaviorTest.storeResponse false _ results) 2
    unfold CBehaviorTest.storeResponse
    simp only [Bool.false_eq_true, if_false]
    split_ifs with hsame
    · exact .inl rfl
    · exact .inr ⟨hbinding, hsuccess, net.mapped_ip _⟩
  | 2 =>
    obtain rfl : TestKind.behavior true = kind := by simpa [hkinds] using hkind
    rfl
  | n + 3 =>
    obtain ⟨fIsTest3, rfl⟩ := StunClientLogicConfig.kinds_add_three hconfig hkind
    exact (@fBehaviorTestSuccess_filtering net config fIsTest3 results).2.1.trans ih

/-- When none of the first three tests times out, there is a behavior result after them. -/
theorem History.progress {hist : List Outcome} {results : StunClientResults}
    (h : History net config hist results) (hb : net.Behaves behavior)
    (hserver : config.addrServer = net.server.addr net.role)
    (hconfig : config.fBehaviorTest = true)
    (hanswered : ∀ j < 3, hist[j]? ≠ some .timedOut) : Progress results hist.length := by
  have hbefore : ∀ {hist : List Outcome} {o : Outcome},
      (∀ j < 3, (hist ++ [o])[j]? ≠ some .timedOut) → ∀ j < 3, hist[j]? ≠ some .timedOut := by
    intro hist o hall j hj hout
    have hlt := (List.getElem?_eq_some_iff.mp hout).1
    exact hall j hj (by rw [List.getElem?_append_left hlt, hout])
  -- A history only grows, so none of its beginnings has such a timeout either.
  induction h with
  | start => rfl
  | @skipped hist results kind h hkind hasks ih =>
    rw [List.length_append]
    exact progress_skipped hkind hasks (h.sound hb hserver) hconfig (ih (hbefore hanswered))
  | @answered hist results kind h hkind hasks ih =>
    rw [List.length_append]
    exact progress_answered hkind hasks hconfig (ih (hbefore hanswered))
  | @timedOut hist results kind h hkind hasks ih =>
    rw [List.length_append]
    by_cases hlen : hist.length < 3
    · exact absurd (by simp) (hanswered hist.length hlen)
    · -- A filtering test that times out leaves the mapping as it is.
      obtain ⟨n, hn⟩ : ∃ n, hist.length = n + 3 := ⟨hist.length - 3, by omega⟩
      have ih' := ih (hbefore hanswered)
      rw [hn] at hkind ih' ⊢
      obtain ⟨fIsTest3, rfl⟩ := StunClientLogicConfig.kinds_add_three hconfig hkind
      exact (@fBehaviorTestSuccess_filtering net config fIsTest3 results).2.2.trans ih'

end Behavior

end Stun
