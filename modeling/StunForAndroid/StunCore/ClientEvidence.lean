import StunForAndroid.StunCore.ClientExchange

/-!
# What a filtering verdict rests on

`CFilteringTest::ProcessResponse` takes any message with the transaction id of the test for a
response that has come through the NAT. The verdict of a run rests on such a message
(`filtering_evidence`), which may be of any class, and from any address.
-/

namespace Stun

namespace Exchange

open CStunClientLogic CStunMessageReader

/-- A message was received that the reader validates and that has the transaction id of the test of
a kind, while this test was the current one. -/
def Evidence (kind : TestKind) (c : CStunClientLogic) (received : List Received) : Prop :=
  ∃ d ∈ received, ∃ t, c.testlist[d.test]? = some t ∧ t.kind = kind ∧ t.fCompleted = true ∧
    (readerOf d.octets).state = .bodyValidated ∧ (readerOf d.octets).transactionid = t.transid

/-- Evidence stays, since the test has completed. -/
theorem Evidence.keeps {kind : TestKind} {c c' : CStunClientLogic} {received : List Received}
    (h : Evidence kind c received) (hkeeps : Keeps c c') : Evidence kind c' received := by
  obtain ⟨d, hd, t, ht, hkind, hdone, hstate, htransid⟩ := h
  exact ⟨d, hd, t, hkeeps.completed d.test t ht hdone, hkind, hdone, hstate, htransid⟩

/-- Evidence stays when more is received. -/
theorem Evidence.append {kind : TestKind} {c : CStunClientLogic} {received : List Received}
    (h : Evidence kind c received) (d : Received) : Evidence kind c (received ++ [d]) := by
  obtain ⟨d', hd', ht⟩ := h
  exact ⟨d', by simp [hd'], ht⟩

/-- The filtering result has evidence, or is that of a client without NAT. -/
structure Supported (c : CStunClientLogic) (received : List Received) : Prop where
  /-- Test 2, or the direct connection, is behind this result. -/
  independent : c.results.filtering = .endpointIndependentFiltering →
    (c.results.fBindingTestSuccess = true ∧ c.results.fIsDirect = true) ∨
      Evidence (.filtering false) c received
  /-- Test 3 is behind this result. -/
  addressDependent : c.results.filtering = .addressDependentFiltering →
    Evidence (.filtering true) c received

/-- The invariant: the binding test comes first, before there is a filtering result, and the
filtering result is supported. -/
structure Inv (c : CStunClientLogic) (received : List Received) : Prop extends
    Supported c received where
  /-- The binding test is the first one, and no other one is. -/
  first : ∀ (i : ℕ) (t : StunClientTest), c.testlist[i]? = some t →
    (t.kind = .basicBinding ↔ i = 0)
  /-- There is no filtering result before the second test. -/
  unknown : c.nTestIndex = 0 → c.results.filtering = .unknownFiltering

section Step

variable {c : CStunClientLogic} {received : List Received} {t : StunClientTest}
  {result : StunClientTest × StunClientResults}

/-- What a change of the results by the current test has to be for the invariant: the binding test
leaves the filtering result alone, and the others leave the binding result alone and support what
they add. -/
structure Justified (c : CStunClientLogic) (received : List Received) (t : StunClientTest)
    (result : StunClientTest × StunClientResults) : Prop where
  binding : t.kind = .basicBinding → result.2.filtering = c.results.filtering
  other : t.kind ≠ .basicBinding →
    result.2.fBindingTestSuccess = c.results.fBindingTestSuccess ∧
      result.2.fIsDirect = c.results.fIsDirect
  supported : result.2.filtering = c.results.filtering ∨ Supported (c.withTest result) received

/-- A justified change keeps the invariant. -/
theorem Inv.withTest (h : Inv c received) (hcurrent : c.CurrentTest t)
    (hkeeps : Keeps c (c.withTest result)) (hj : Justified c received t result) :
    Inv (c.withTest result) received := by
  have hfirst : ∀ (i : ℕ) (u : StunClientTest), (c.withTest result).testlist[i]? = some u →
      (u.kind = .basicBinding ↔ i = 0) := by
    intro i u hu
    have hkinds := congrArg (fun l => l[i]?) hkeeps.kinds_eq
    simp only [List.getElem?_map, hu, Option.map_some] at hkinds
    obtain ⟨v, hv, hkind⟩ := Option.map_eq_some_iff.mp hkinds.symm
    rw [← hkind]
    exact h.first i v hv
  by_cases hbinding : t.kind = .basicBinding
  · -- The binding test is the current one only before there is a filtering result.
    have hunknown : result.2.filtering = .unknownFiltering := by
      rw [hj.binding hbinding]
      exact h.unknown ((h.first _ _ hcurrent).mp hbinding)
    refine ⟨⟨fun hf => ?_, fun hf => ?_⟩, hfirst, fun _ => hunknown⟩
    · exact absurd (hunknown.symm.trans hf) (by decide)
    · exact absurd (hunknown.symm.trans hf) (by decide)
  · have hindex : c.nTestIndex ≠ 0 := fun h0 => hbinding ((h.first _ _ hcurrent).mpr h0)
    refine ⟨?_, hfirst, fun h0 => absurd h0 hindex⟩
    rcases hj.supported with hsame | hnew
    · obtain ⟨hsuccess, hdirect⟩ := hj.other hbinding
      constructor
      · intro hf
        rcases h.independent (hsame ▸ hf) with ⟨h₁, h₂⟩ | hev
        · exact .inl ⟨hsuccess.trans h₁, hdirect.trans h₂⟩
        · exact .inr (hev.keeps hkeeps)
      · exact fun hf => (h.addressDependent (hsame ▸ hf)).keeps hkeeps
    · exact hnew

/-- The early chance of a test is justified. -/
theorem justified_preRunCheck (c : CStunClientLogic) (received : List Received)
    (t : StunClientTest) : Justified c received t (t.preRunCheck c.results) := by
  obtain ⟨kind, fCompleted, transid⟩ := t
  unfold StunClientTest.preRunCheck CBehaviorTest.preRunCheck CFilteringTest.preRunCheck
  cases kind with
  | basicBinding => exact ⟨fun _ => rfl, fun _ => ⟨rfl, rfl⟩, .inl rfl⟩
  | behavior fIsTest3 =>
    dsimp only
    split_ifs
    · exact ⟨fun _ => rfl, fun _ => ⟨rfl, rfl⟩, .inl rfl⟩
    · exact ⟨fun _ => rfl, fun _ => ⟨rfl, rfl⟩, .inl rfl⟩
  | filtering fIsTest3 =>
    dsimp only
    split_ifs with hdirect
    · exact ⟨fun hk => absurd hk (by simp), fun _ => ⟨rfl, rfl⟩,
        .inr ⟨fun _ => .inl hdirect.2, fun hf => absurd hf (by simp [CStunClientLogic.withTest])⟩⟩
    · exact ⟨fun _ => rfl, fun _ => ⟨rfl, rfl⟩, .inl rfl⟩

/-- The timeout of a test is justified. -/
theorem justified_notifyTimeout (c : CStunClientLogic) (received : List Received)
    (t : StunClientTest) : Justified c received t (t.notifyTimeout c.results) := by
  obtain ⟨kind, fCompleted, transid⟩ := t
  cases kind with
  | basicBinding => exact ⟨fun _ => rfl, fun hk => absurd rfl hk, .inl rfl⟩
  | behavior _ => exact ⟨fun _ => rfl, fun _ => ⟨rfl, rfl⟩, .inl rfl⟩
  | filtering fIsTest3 =>
    cases fIsTest3 with
    | false => exact ⟨fun _ => rfl, fun _ => ⟨rfl, rfl⟩, .inl rfl⟩
    | true =>
      refine ⟨fun hk => absurd hk (by simp), fun _ => ⟨rfl, rfl⟩, .inr ⟨fun hf => ?_, fun hf => ?_⟩⟩
      · cases hf
      · cases hf

/-- A response that is accepted is evidence for the test. -/
theorem evidence_of_accepted {config : StunClientLogicConfig} {results : StunClientResults}
    {d : Received} (hd : d ∈ received) (hindex : d.test = c.nTestIndex) (hcurrent : c.CurrentTest t)
    (haccepted : t.processResponse config results d.octets d.addrLocal = .ok result) :
    Evidence t.kind (c.withTest result) received := by
  obtain ⟨hdone, reader, hreader⟩ := StunClientTest.processResponse_eq_ok haccepted
  obtain ⟨hstate, htransid, -⟩ := StunClientTest.basicReaderValidation_eq_ok_iff.mp hreader
  refine ⟨d, hd, result.1, ?_, by rw [hdone], by rw [hdone], ?_, ?_⟩
  · rw [hindex]
    exact hcurrent.withTest result
  · exact (addBytes_fst d.octets).symm.trans hstate
  · rw [hdone]
    exact htransid

/-- A response that is accepted is justified, by itself. -/
theorem justified_processResponse {config : StunClientLogicConfig} {d : Received}
    (hd : d ∈ received) (hindex : d.test = c.nTestIndex) (hcurrent : c.CurrentTest t)
    (haccepted : t.processResponse config c.results d.octets d.addrLocal = .ok result) :
    Justified c received t result := by
  have hevidence := evidence_of_accepted hd hindex hcurrent haccepted
  obtain ⟨kind, fCompleted, transid⟩ := t
  unfold StunClientTest.processResponse at haccepted
  cases kind with
  | basicBinding =>
    obtain ⟨reader, -, addrMapped, -, rfl⟩ :=
      CBasicBindingTest.processResponse_eq_ok_iff.mp haccepted
    have hsame := CBasicBindingTest.storeResponse_filtering config d.addrLocal addrMapped
      reader.getOtherAddress.toOption c.results
    exact ⟨fun _ => hsame, fun hk => absurd rfl hk, .inl hsame⟩
  | behavior fIsTest3 =>
    obtain ⟨reader, -, addrMapped, -, rfl⟩ := CBehaviorTest.processResponse_eq_ok_iff.mp haccepted
    obtain ⟨hsame, hother⟩ := CBehaviorTest.storeResponse_frame fIsTest3 addrMapped c.results
    exact ⟨fun hk => absurd hk (by simp), fun _ => hother, .inl hsame⟩
  | filtering fIsTest3 =>
    obtain ⟨-, rfl⟩ := CFilteringTest.processResponse_eq_ok_iff.mp haccepted
    -- The response that was accepted is the evidence for what it is stored as.
    have hfiltering := CFilteringTest.storeResponse_filtering fIsTest3 c.results
    cases fIsTest3 with
    | false =>
      exact ⟨fun hk => absurd hk (by simp), fun _ => ⟨rfl, rfl⟩,
        .inr ⟨fun _ => .inr hevidence, fun hf => absurd (hfiltering.symm.trans hf) (by decide)⟩⟩
    | true =>
      exact ⟨fun hk => absurd hk (by simp), fun _ => ⟨rfl, rfl⟩,
        .inr ⟨fun hf => absurd (hfiltering.symm.trans hf) (by decide), fun _ => hevidence⟩⟩

end Step

/-- A round keeps the invariant. -/
theorem Inv.round {time : UInt32} {c c' : CStunClientLogic} {received : List Received}
    (h : Inv c received) (hround : Round time c c') : Inv c' received := by
  have hkeeps := (Step.round hround).keeps
  cases hround with
  | @precheck t hcurrent _ =>
    have hkeeps' : Keeps c (c.withTest (t.preRunCheck c.results)) :=
      ⟨rfl, rfl, le_rfl, hkeeps.kinds_eq, hkeeps.completed, hkeeps.transid⟩
    have h' := h.withTest hcurrent hkeeps' (justified_preRunCheck c received t)
    exact ⟨⟨h'.independent, h'.addressDependent⟩, h'.first, h'.unknown⟩
  | next _ _ _ =>
    exact ⟨⟨h.independent, h.addressDependent⟩, h.first, fun h0 => absurd h0 (Nat.succ_ne_zero _)⟩
  | @timeout t hcurrent _ _ _ _ _ =>
    exact h.withTest hcurrent hkeeps (justified_notifyTimeout c received t)

/-- Some rounds keep the invariant. -/
theorem Inv.rounds {time : UInt32} {c c' : CStunClientLogic} {received : List Received}
    (h : Inv c received) (hrounds : Relation.ReflTransGen (Round time) c c') : Inv c' received := by
  induction hrounds with
  | refl => exact h
  | tail _ hround ih => exact ih.round hround

/-- Sending a request keeps the invariant. -/
theorem Inv.message {rand : ℕ → UInt8} {stack : StunTransactionId} {spMsg : CBuffer} {time : UInt32}
    {c : CStunClientLogic} {t : StunClientTest} {received : List Received} (h : Inv c received)
    (hcurrent : c.CurrentTest t) (hopen : t.fCompleted = false)
    (hsize : MAX_STUN_MESSAGE_SIZE ≤ spMsg.getAllocatedSize) :
    Inv (c.messageFetched time (t.getMessage c.config c.results rand stack spMsg).1.1)
      received := by
  have hkeeps := (@Step.message rand stack spMsg time c t hcurrent hopen hsize).keeps
  have hkeeps' : Keeps c (c.withTest
      ((t.getMessage c.config c.results rand stack spMsg).1.1, c.results)) :=
    ⟨rfl, rfl, le_rfl, hkeeps.kinds_eq, hkeeps.completed, hkeeps.transid⟩
  have h' := h.withTest hcurrent hkeeps' ⟨fun _ => rfl, fun _ => ⟨rfl, rfl⟩, .inl rfl⟩
  exact ⟨⟨h'.independent, h'.addressDependent⟩, h'.first, h'.unknown⟩

/-- The invariant holds throughout a run. -/
theorem Reachable.inv {config : StunClientLogicConfig} {Delivers : Exchange → Datagram → Prop}
    {w : Exchange} (h : Reachable config Delivers w) : Inv w.client w.received := by
  induction h with
  | initialized h =>
    obtain ⟨-, -, rfl⟩ := initializeLogic_eq_ok_iff.mp h
    refine ⟨⟨fun hf => ?_, fun hf => ?_⟩, fun i t ht => ?_, fun _ => rfl⟩
    · cases hf
    · cases hf
    simp only [CStunClientLogic.initialized, List.getElem?_map, Option.map_eq_some_iff] at ht
    obtain ⟨kind, hkind, rfl⟩ := ht
    exact config.kinds_first i kind hkind
  | @poll w _ rand stack spMsg time ih =>
    rcases w.poll_cases rand stack spMsg time with
      hsame | ⟨c₁, result, hbuf, hrounds, hlast, hresult⟩
    · rw [hsame]
      exact ih
    · -- The rounds keep the invariant, and the last one adds a message at most.
      have h₁ := ih.rounds hrounds
      unfold Exchange.poll
      rw [hresult]
      cases hlast with
      | resultsReady _ => exact h₁
      | stillWaiting _ _ _ _ _ => exact h₁
      | message hcurrent _ hopen _ _ _ => exact h₁.message hcurrent hopen hbuf
  | @receive w _ d _ ih =>
    have h' : Inv w.client (w.receive d).received :=
      ⟨⟨fun hf => (ih.independent hf).imp_right fun hev => hev.append _,
        fun hf => (ih.addressDependent hf).append _⟩, ih.first, ih.unknown⟩
    rcases w.receive_cases d with hsame | ⟨t, result, hcurrent, hopen, haccepted, hresult⟩
    · rw [hsame]
      exact h'
    · rw [hresult]
      have hmem : ({ d with test := w.client.nTestIndex, sentBefore := w.sent.length } : Received) ∈
          (w.receive d).received := by
        simp [Exchange.receive]
      exact h'.withTest hcurrent (Step.response hcurrent hopen haccepted).keeps
        (justified_processResponse hmem rfl hcurrent haccepted)

/-- A run that reports endpoint independent filtering has been handed a message with the transaction
id of filtering test 2 while this test was running, unless the client has found out that there is no
NAT. A run that reports address dependent filtering has been handed one with that of test 3. -/
theorem filtering_evidence {config : StunClientLogicConfig} {Delivers : Exchange → Datagram → Prop}
    {w : Exchange} (h : Reachable config Delivers w) :
    (w.client.results.filtering = .endpointIndependentFiltering →
      (w.client.results.fBindingTestSuccess = true ∧ w.client.results.fIsDirect = true) ∨
        Evidence (.filtering false) w.client w.received) ∧
    (w.client.results.filtering = .addressDependentFiltering →
      Evidence (.filtering true) w.client w.received) :=
  ⟨h.inv.independent, h.inv.addressDependent⟩

/-! ## An error response from the primary address -/

/-- A client that does the filtering tests. -/
def filteringConfig : StunClientLogicConfig where
  addrServer := CSocketAddress.ofHostByteOrder 0x01010101 3478
  fFilteringTest := true

/-- A datagram from the server to a client at 10.0.0.1. -/
def fromServer (octets : List UInt8) : Datagram where
  octets := octets
  addrRemote := filteringConfig.addrServer
  addrLocal := CSocketAddress.ofHostByteOrder 0x0A000001 5000

/-- The response to the binding test: the mapped address 7.7.7.7:5000 and the other address
2.2.2.2:3479. -/
def bindingResponse : List UInt8 :=
  [0x01, 0x01, 0, 24, 0x21, 0x12, 0xA4, 0x42, 1, 1, 1, 1, 1, 1, 1, 1, 0, 0, 0, 0,
    0, 1, 0, 8, 0, 1, 0x13, 0x88, 7, 7, 7, 7, 0x80, 0x2c, 0, 8, 0, 1, 0x0D, 0x97, 2, 2, 2, 2]

/-- An error response to filtering test 2, without any attribute. -/
def errorToTest2 : List UInt8 :=
  [0x01, 0x11, 0, 0, 0x21, 0x12, 0xA4, 0x42, 2, 2, 2, 2, 2, 2, 2, 2, 0, 0, 0, 0]

/-- The run in which the server refuses filtering test 2. -/
def refused : Exchange :=
  ((pollWith 2 ((pollWith 1 { client := CStunClientLogic.initialized filteringConfig }).receive
    (fromServer bindingResponse))).receive (fromServer errorToTest2))

/-- The refused run is one of the client. -/
theorem refused_reachable : Reachable filteringConfig (fun _ _ => True) refused := by
  have hinit : initializeLogic filteringConfig {} =
      .ok () (CStunClientLogic.initialized filteringConfig) :=
    initializeLogic_eq_ok_iff.mpr ⟨by decide, by decide, rfl⟩
  have h₁ := (@Reachable.initialized _ (fun _ _ => True) _ hinit).poll (fun _ => 1)
    StunTransactionId.zero (CBuffer.initWithAllocation 800) 0
  have h₂ := (@Reachable.receive _ _ _ h₁ (fromServer bindingResponse) trivial).poll (fun _ => 2)
    StunTransactionId.zero (CBuffer.initWithAllocation 800) 0
  exact h₂.receive trivial

/-- The client reports endpoint independent filtering after this run: it has not received a success
response from the other address. -/
theorem refused_endpointIndependent :
    Reachable filteringConfig (fun _ _ => True) refused ∧
      refused.client.results.fGotTest2Response = true ∧
      refused.client.results.filtering = .endpointIndependentFiltering ∧
      ∀ d ∈ refused.received, ¬((readerOf d.octets).msgClass = .successResponse ∧
        d.addrRemote = refused.client.results.addrAA) :=
  ⟨refused_reachable, by decide +kernel, by decide +kernel, by decide +kernel⟩

/-- `filtering_evidence` for the refused run. -/
theorem filtering_evidence_refused :
    Evidence (.filtering false) refused.client refused.received := by
  refine ((filtering_evidence refused_reachable).1 (by decide +kernel)).resolve_left ?_
  decide +kernel

end Exchange

end Stun
