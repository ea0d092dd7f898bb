import StunForAndroid.StunCore.ClientMapping

/-!
# The filtering of the NAT

A NAT with one mapping for all destinations lets an answer in according to its policy, which looks
at where the client has sent requests from the same socket. Nothing else is lost (`FilteredRun`).

Behavior test 2 sends a request to the alternate IP address before filtering test 2 asks for an
answer from there. An address dependent policy then lets this answer in, and the client reports
endpoint independent filtering. `filtering_classified_iff` says when the report is right.
-/

namespace Stun

open CStunClientLogic CStunMessageReader

/-! ## The policies -/

/-- Which packets a NAT lets in. -/
inductive FilteringPolicy where
  | endpointIndependent
  | addressDependent
  | addressAndPortDependent
deriving DecidableEq

namespace FilteringPolicy

/-- The name that the client has for a policy. -/
def filtering : FilteringPolicy → NatFiltering
  | .endpointIndependent => .endpointIndependentFiltering
  | .addressDependent => .addressDependentFiltering
  | .addressAndPortDependent => .addressAndPortDependentFiltering

/-- The NAT lets a packet from `X` in, when the client has sent packets to the addresses
`contacted`. -/
def Admits (contacted : List CSocketAddress) (X : CSocketAddress) : FilteringPolicy → Prop
  | .endpointIndependent => contacted ≠ []
  | .addressDependent => ∃ Y ∈ contacted, Y.ip = X.ip
  | .addressAndPortDependent => X ∈ contacted

/-- The answer to a test of a kind comes through. -/
def Passes (p : FilteringPolicy) : TestKind → Prop
  | .filtering _ => p ≠ .addressAndPortDependent
  | _ => True

/-- Every policy lets a packet in from an address that the client has sent packets to. -/
theorem admits_of_mem {contacted : List CSocketAddress} {X : CSocketAddress} (h : X ∈ contacted)
    (p : FilteringPolicy) : p.Admits contacted X := by
  cases p with
  | endpointIndependent => exact List.ne_nil_of_mem h
  | addressDependent => exact ⟨X, h, rfl⟩
  | addressAndPortDependent => exact h

/-- The two wider policies let a packet in from another port of an IP address that the client has
sent packets to, and the narrowest does not. -/
theorem admits_iff_of_notMem {contacted : List CSocketAddress} {X Y : CSocketAddress}
    (hY : Y ∈ contacted) (hip : Y.ip = X.ip) (hX : X ∉ contacted) (p : FilteringPolicy) :
    p.Admits contacted X ↔ p ≠ .addressAndPortDependent := by
  cases p with
  | endpointIndependent => exact iff_of_true (List.ne_nil_of_mem hY) (by decide)
  | addressDependent => exact iff_of_true ⟨Y, hY, hip⟩ (by decide)
  | addressAndPortDependent => exact iff_of_false hX (by simp)

end FilteringPolicy

/-- Swapping the port of an address with the configured port gives none with it. -/
theorem swapPort_ne {r r' : SocketRole} (h : r' = r ∨ r' = socketRoleSwapIP r) :
    ¬(socketRoleSwapPort r' = r ∨ socketRoleSwapPort r' = socketRoleSwapIP r) := by
  rcases h with rfl | rfl
  · cases r' <;> decide
  · cases r <;> decide

/-- Where the client has sent requests. -/
def contacted (sent : List Sent) : List CSocketAddress := sent.map Sent.addrDest

/-- An answer of an honest server that comes from the address that the CHANGE-REQUEST asks for. -/
structure AnswersFrom (net : Network) (request : Sent) (d : Datagram) : Prop where
  answers : net.Answers request d.octets
  addrLocal : d.addrLocal = net.addrLocal
  addrRemote : ∃ change r, (readerOf request.octets).getChangeRequest = .ok change ∧
    request.addrDest = net.server.addr r ∧
    d.addrRemote = net.server.addr (answeringRole change r)

/-- The runs of a client behind a NAT with a policy, with the answer that is on its way to the
client, if there is one. The server answers each request. The answer is lost when the NAT does not
let it in, and reaches the client before it does anything but wait otherwise. -/
inductive FilteredRun (net : Network) (p : FilteringPolicy) (config : StunClientLogicConfig) :
    Exchange → Option Datagram → Prop
  /-- `Initialize` succeeds. -/
  | initialized {c : CStunClientLogic} (h : CStunClientLogic.initializeLogic config {} = .ok () c) :
      FilteredRun net p config { client := c } none
  /-- `GetNextMessage` has no message. -/
  | silent {w : Exchange} (h : FilteredRun net p config w none) (rand : ℕ → UInt8)
      (stack : StunTransactionId) (spMsg : CBuffer) (time : UInt32)
      (hsent : (w.poll rand stack spMsg time).sent = w.sent) :
      FilteredRun net p config (w.poll rand stack spMsg time) none
  /-- The NAT lets the answer to the message of `GetNextMessage` in. -/
  | admitted {w : Exchange} (h : FilteredRun net p config w none) (rand : ℕ → UInt8)
      (stack : StunTransactionId) (spMsg : CBuffer) (time : UInt32) {request : Sent} {d : Datagram}
      (hsent : (w.poll rand stack spMsg time).sent = w.sent ++ [request])
      (hanswers : AnswersFrom net request d)
      (hadmits : p.Admits (contacted (w.poll rand stack spMsg time).sent) d.addrRemote) :
      FilteredRun net p config (w.poll rand stack spMsg time) (some d)
  /-- The NAT drops the answer. -/
  | dropped {w : Exchange} (h : FilteredRun net p config w none) (rand : ℕ → UInt8)
      (stack : StunTransactionId) (spMsg : CBuffer) (time : UInt32) {request : Sent} {d : Datagram}
      (hsent : (w.poll rand stack spMsg time).sent = w.sent ++ [request])
      (hanswers : AnswersFrom net request d)
      (hadmits : ¬p.Admits (contacted (w.poll rand stack spMsg time).sent) d.addrRemote) :
      FilteredRun net p config (w.poll rand stack spMsg time) none
  /-- The client waits for the answer. -/
  | waiting {w : Exchange} {d : Datagram} (h : FilteredRun net p config w (some d))
      (rand : ℕ → UInt8) (stack : StunTransactionId) (spMsg : CBuffer) (time : UInt32)
      (hwaiting : (w.client.getNextMessage rand stack spMsg time).1 =
        .error E_STUNCLIENT_STILL_WAITING) :
      FilteredRun net p config (w.poll rand stack spMsg time) (some d)
  /-- The answer reaches the client. -/
  | delivered {w : Exchange} {d : Datagram} (h : FilteredRun net p config w (some d)) :
      FilteredRun net p config (w.receive d) none

/-! ## The outcomes of the tests -/

section Stages

variable {net : Network} {p : FilteringPolicy} {config : StunClientLogicConfig}
  {behavior : NatBehavior}

/-- There is no NAT, or the answer to filtering test 2 comes through. -/
def LetsIn (net : Network) (p : FilteringPolicy) : Prop :=
  net.addrLocal = net.mapped (net.server.addr net.role) ∨ p ≠ .addressAndPortDependent

/-- The results say nothing of the filtering. -/
def Unset (results : StunClientResults) : Prop :=
  results.fFilteringTestSuccess = false ∧ results.fGotTest2Response = false

/-- The results report how the NAT filters. -/
def Reports (filtering : NatFiltering) (results : StunClientResults) : Prop :=
  results.fFilteringTestSuccess = true ∧ results.filtering = filtering

/-- The results after a number of tests. -/
def Stage (net : Network) (p : FilteringPolicy) (results : StunClientResults) : ℕ → Prop
  | 0 => results = {}
  | 1 => results.fBindingTestSuccess = true ∧ results.fBehaviorTestSuccess = false ∧ Unset results
  | 2 | 3 => results.fBindingTestSuccess = true ∧ results.fBehaviorTestSuccess = true ∧
    Unset results
  | 4 => results.fBindingTestSuccess = true ∧
      (LetsIn net p → Reports .endpointIndependentFiltering results) ∧
      (¬LetsIn net p → Unset results)
  | _ + 5 => (LetsIn net p → Reports .endpointIndependentFiltering results) ∧
      (¬LetsIn net p → Reports .addressAndPortDependentFiltering results)

/-- The tests that ask when there are all five: the first, and but for the third the others behind a
NAT. -/
def MayAsk (net : Network) (i : ℕ) : Prop :=
  i = 0 ∨ (net.addrLocal ≠ net.mapped (net.server.addr net.role) ∧ i ≠ 2)

/-- The outcomes are those of the policy. -/
def Expected (p : FilteringPolicy) (config : StunClientLogicConfig) (hist : List Outcome) : Prop :=
  ∀ (i : ℕ) (kind : TestKind), config.kinds[i]? = some kind →
    (hist[i]? = some .answered → p.Passes kind) ∧ (hist[i]? = some .timedOut → ¬p.Passes kind)

/-- When some outcomes are expected, the first of them are. -/
theorem Expected.of_append {hist : List Outcome} {o : Outcome}
    (h : Expected p config (hist ++ [o])) : Expected p config hist := by
  have hbefore : ∀ {i : ℕ} {o' : Outcome}, hist[i]? = some o' → (hist ++ [o])[i]? = some o' :=
    fun hi => (List.getElem?_append_left (List.getElem?_eq_some_iff.mp hi).1).trans hi
  exact fun i kind hkind => ⟨fun hi => (h i kind hkind).1 (hbefore hi),
    fun hi => (h i kind hkind).2 (hbefore hi)⟩

/-- A configuration of both tests lists all five. -/
theorem StunClientLogicConfig.kinds_full (hbehavior : config.fBehaviorTest = true)
    (hfiltering : config.fFilteringTest = true) : config.kinds =
      [.basicBinding, .behavior false, .behavior true, .filtering false, .filtering true] := by
  unfold kinds
  rw [hbehavior, hfiltering]
  rfl

/-- The number of a test says which one it is. -/
theorem kind_of_full (hbehavior : config.fBehaviorTest = true)
    (hfiltering : config.fFilteringTest = true) {n : ℕ} {kind : TestKind}
    (hkind : config.kinds[n]? = some kind) :
    (n = 0 ∧ kind = .basicBinding) ∨ (n = 1 ∧ kind = .behavior false) ∨
      (n = 2 ∧ kind = .behavior true) ∨ (n = 3 ∧ kind = .filtering false) ∨
      (n = 4 ∧ kind = .filtering true) := by
  rw [StunClientLogicConfig.kinds_full hbehavior hfiltering] at hkind
  match n with
  | 0 | 1 | 2 | 3 | 4 => simpa using hkind.symm
  | n + 5 => simp at hkind

/-- A result of the binding test says whether there is a NAT. -/
theorem Sound.not_direct {results : StunClientResults} (h : Sound net behavior results)
    (hbinding : results.fBindingTestSuccess = true) (hdirect : results.fIsDirect = false) :
    net.addrLocal ≠ net.mapped (net.server.addr net.role) := by
  intro hlocal
  rw [(h.direct hbinding).mpr hlocal] at hdirect
  cases hdirect

/-- A test that asks at its stage may ask. -/
theorem asks_of_stage (hbehavior : config.fBehaviorTest = true)
    (hfiltering : config.fFilteringTest = true) {results : StunClientResults} {n : ℕ}
    {kind : TestKind} (hkind : config.kinds[n]? = some kind) (hsound : Sound net behavior results)
    (hstage : Stage net p results n) (hasks : kind.asks results = true) : MayAsk net n := by
  rcases kind_of_full hbehavior hfiltering hkind with
    ⟨rfl, rfl⟩ | ⟨rfl, rfl⟩ | ⟨rfl, rfl⟩ | ⟨rfl, rfl⟩ | ⟨rfl, rfl⟩
  · exact .inl rfl
  · obtain ⟨hdirect, hbinding, -⟩ := TestKind.asks_behavior.mp hasks
    exact .inr ⟨hsound.not_direct hbinding (hdirect rfl), by decide⟩
  · -- There is a behavior result.
    obtain ⟨-, -, -, hnone, -⟩ := TestKind.asks_behavior.mp hasks
    rw [hstage.2.1] at hnone
    cases hnone
  · obtain ⟨hdirect, hbinding, -⟩ := TestKind.asks_filtering.mp hasks
    exact .inr ⟨hsound.not_direct hbinding (hdirect rfl), by decide⟩
  · -- There is no filtering result, and so there is a NAT.
    obtain ⟨-, -, -, hnone, -⟩ := TestKind.asks_filtering.mp hasks
    refine .inr ⟨fun hlocal => ?_, by decide⟩
    rw [(hstage.2.1 (.inl hlocal)).1] at hnone
    cases hnone

/-- A test that does not ask at its stage is skipped for its reason, and leads to the next stage. -/
theorem skipped_of_stage (hbehavior : config.fBehaviorTest = true)
    (hfiltering : config.fFilteringTest = true) {results : StunClientResults} {n : ℕ}
    {kind : TestKind} (hkind : config.kinds[n]? = some kind) (hsound : Sound net behavior results)
    (hstage : Stage net p results n) (hasks : kind.asks results = false) :
    n ≠ 0 ∧ (n = 1 → net.addrLocal = net.mapped (net.server.addr net.role)) ∧
      Stage net p (kind.prechecked results) (n + 1) := by
  rcases kind_of_full hbehavior hfiltering hkind with
    ⟨rfl, rfl⟩ | ⟨rfl, rfl⟩ | ⟨rfl, rfl⟩ | ⟨rfl, rfl⟩ | ⟨rfl, rfl⟩
  · cases hasks
  · obtain ⟨hbinding, hsuccess, hunset⟩ := hstage
    have hdirect : results.fIsDirect = true := by
      by_contra hd
      rw [TestKind.asks_behavior.mpr ⟨fun _ => by simpa using hd, hbinding,
        hsound.hasOther hbinding, hsuccess, by simp⟩] at hasks
      cases hasks
    refine ⟨by decide, fun _ => (hsound.direct hbinding).mp hdirect, ?_⟩
    have hnew : (TestKind.behavior false).prechecked results =
        { results with behavior := .directMapping, fBehaviorTestSuccess := true } := by
      simp [TestKind.prechecked, StunClientTest.preRunCheck, CBehaviorTest.preRunCheck, hbinding,
        hdirect]
    rw [hnew]
    exact ⟨hbinding, rfl, hunset⟩
  · exact ⟨by decide, by simp, hstage⟩
  · obtain ⟨hbinding, hsuccess, hnone, htest2⟩ := hstage
    have hdirect : results.fIsDirect = true := by
      by_contra hd
      rw [TestKind.asks_filtering.mpr ⟨fun _ => by simpa using hd, hbinding,
        hsound.hasOther hbinding, hnone, htest2⟩] at hasks
      cases hasks
    have hlocal := (hsound.direct hbinding).mp hdirect
    have hnew : (TestKind.filtering false).prechecked results =
        { results with
          filtering := .endpointIndependentFiltering, fFilteringTestSuccess := true } := by
      simp [TestKind.prechecked, StunClientTest.preRunCheck, CFilteringTest.preRunCheck, hbinding,
        hdirect]
    rw [hnew]
    exact ⟨by decide, by simp, hbinding, fun _ => ⟨rfl, rfl⟩, fun hnot => absurd (.inl hlocal) hnot⟩
  · refine ⟨by decide, by simp, hstage.2.1, fun hnot => ?_⟩
    -- Without a result the test would ask.
    obtain ⟨hnone, htest2⟩ := hstage.2.2 hnot
    rw [TestKind.asks_filtering.mpr ⟨by simp, hstage.1, hsound.hasOther hstage.1, hnone,
      htest2⟩] at hasks
    cases hasks

/-- An answer that comes through goes on to the next stage. -/
theorem stage_answered (hbehavior : config.fBehaviorTest = true)
    (hfiltering : config.fFilteringTest = true)
    (hcone : ∀ r r', net.mapped (net.server.addr r) = net.mapped (net.server.addr r'))
    {results : StunClientResults} {n : ℕ} {kind : TestKind}
    (hkind : config.kinds[n]? = some kind) (hsound : Sound net behavior results)
    (hstage : Stage net p results n) (hasks : kind.asks results = true) (hpasses : p.Passes kind) :
    Stage net p (kind.answered net config results) (n + 1) := by
  rcases kind_of_full hbehavior hfiltering hkind with
    ⟨rfl, rfl⟩ | ⟨rfl, rfl⟩ | ⟨rfl, rfl⟩ | ⟨rfl, rfl⟩ | ⟨rfl, rfl⟩
  · obtain rfl : results = {} := hstage
    exact ⟨rfl, rfl, rfl, rfl⟩
  · obtain ⟨hbinding, -, hunset⟩ := hstage
    have hsame : (net.mapped (net.server.addr (socketRoleSwapIP net.role))).isSameIP_and_Port
        results.addrMapped = true := by
      rw [CSocketAddress.isSameIP_and_Port_iff, hsound.addrMapped hbinding]
      exact hcone _ _
    show Stage net p (CBehaviorTest.storeResponse false _ results) 2
    unfold CBehaviorTest.storeResponse
    simp only [Bool.false_eq_true, if_false]
    rw [show net.destination (.behavior false) = socketRoleSwapIP net.role from rfl, if_pos hsame]
    exact ⟨hbinding, rfl, hunset⟩
  · rcases asks_of_stage hbehavior hfiltering hkind hsound hstage hasks with h | ⟨-, h⟩
    · cases h
    · exact absurd rfl h
  · exact ⟨hstage.1, fun _ => ⟨rfl, rfl⟩, fun hnot => absurd (.inr hpasses) hnot⟩
  · -- The answer to filtering test 2 would have come through.
    obtain ⟨-, -, -, hnone, -⟩ := TestKind.asks_filtering.mp hasks
    rw [(hstage.2.1 (.inr hpasses)).1] at hnone
    cases hnone

/-- An answer that does not come through goes on to the next stage. -/
theorem stage_timedOut (hbehavior : config.fBehaviorTest = true)
    (hfiltering : config.fFilteringTest = true) {results : StunClientResults} {n : ℕ}
    {kind : TestKind} (hkind : config.kinds[n]? = some kind) (hsound : Sound net behavior results)
    (hstage : Stage net p results n) (hasks : kind.asks results = true)
    (hdropped : ¬p.Passes kind) : Stage net p (kind.timedOut results) (n + 1) := by
  have hmay := asks_of_stage hbehavior hfiltering hkind hsound hstage hasks
  rcases kind_of_full hbehavior hfiltering hkind with
    ⟨rfl, rfl⟩ | ⟨rfl, rfl⟩ | ⟨rfl, rfl⟩ | ⟨rfl, rfl⟩ | ⟨rfl, rfl⟩
  · exact absurd trivial hdropped
  · exact absurd trivial hdropped
  · exact absurd trivial hdropped
  · have hnot : ¬LetsIn net p := not_or.mpr ⟨(hmay.resolve_left (by decide)).1, hdropped⟩
    exact ⟨hstage.1, fun h => absurd h hnot, fun _ => hstage.2.2⟩
  · have hnot : ¬LetsIn net p := not_or.mpr ⟨(hmay.resolve_left (by decide)).1, hdropped⟩
    exact ⟨fun h => absurd h hnot, fun _ => ⟨rfl, rfl⟩⟩

/-- The tests that have asked may have, and the first two have, when there is a NAT. -/
structure Trail (net : Network) (hist : List Outcome) : Prop where
  mayAsk : ∀ (i : ℕ) (o : Outcome), hist[i]? = some o → o ≠ .skipped → MayAsk net i
  first : hist[0]? ≠ some .skipped
  second : hist[1]? = some .skipped → net.addrLocal = net.mapped (net.server.addr net.role)

/-- One more outcome goes on with a trail when its test may ask after those before, or is skipped
for its reason. -/
theorem Trail.append {hist : List Outcome} {o : Outcome} (h : Trail net hist)
    (hasks : o ≠ .skipped → MayAsk net hist.length)
    (hskipped : o = .skipped → hist.length ≠ 0 ∧
      (hist.length = 1 → net.addrLocal = net.mapped (net.server.addr net.role))) :
    Trail net (hist ++ [o]) := by
  have hlast : ∀ {i : ℕ} {o' : Outcome}, (hist ++ [o])[i]? = some o' →
      hist[i]? = some o' ∨ (i = hist.length ∧ o = o') := by
    intro i o' hi
    rcases lt_trichotomy i hist.length with hlt | rfl | hgt
    · exact .inl (by rwa [List.getElem?_append_left hlt] at hi)
    · exact .inr ⟨rfl, by simpa using hi⟩
    · rw [List.getElem?_eq_none (by simp; omega)] at hi
      cases hi
  refine ⟨fun i o' hi ho => ?_, fun hi => ?_, fun hi => ?_⟩
  · rcases hlast hi with hold | ⟨rfl, rfl⟩
    · exact h.mayAsk i o' hold ho
    · exact hasks ho
  · rcases hlast hi with hold | ⟨hlen, rfl⟩
    · exact h.first hold
    · exact (hskipped rfl).1 hlen.symm
  · rcases hlast hi with hold | ⟨hlen, rfl⟩
    · exact h.second hold
    · exact (hskipped rfl).2 hlen.symm

/-- After the outcomes of a policy the results are at its stage. -/
theorem History.stage {hist : List Outcome} {results : StunClientResults}
    (h : History net config hist results) (hb : net.Behaves behavior)
    (hserver : config.addrServer = net.server.addr net.role)
    (hbehavior : config.fBehaviorTest = true) (hfiltering : config.fFilteringTest = true)
    (hcone : ∀ r r', net.mapped (net.server.addr r) = net.mapped (net.server.addr r'))
    (hexpected : Expected p config hist) :
    Stage net p results hist.length ∧ Trail net hist := by
  -- A test that asks may ask at the stage that it finds, and leaves the next one.
  have hmay := @asks_of_stage net p config behavior hbehavior hfiltering
  have hlast : ∀ (hist : List Outcome) (o : Outcome), (hist ++ [o])[hist.length]? = some o :=
    fun hist o => by simp
  induction h with
  | start => exact ⟨rfl, ⟨fun i o hi => by simp at hi, by simp, by simp⟩⟩
  | skipped h hkind hasks ih =>
    obtain ⟨hstage, htrail⟩ := ih hexpected.of_append
    obtain ⟨hzero, hone, hnext⟩ := skipped_of_stage hbehavior hfiltering hkind (h.sound hb hserver)
      hstage hasks
    rw [List.length_append]
    exact ⟨hnext, htrail.append (absurd rfl) fun _ => ⟨hzero, hone⟩⟩
  | @answered hist _ kind h hkind hasks ih =>
    obtain ⟨hstage, htrail⟩ := ih hexpected.of_append
    have hsound := h.sound hb hserver
    have hpasses := (hexpected _ _ hkind).1 (hlast hist _)
    rw [List.length_append]
    exact ⟨stage_answered hbehavior hfiltering hcone hkind hsound hstage hasks hpasses,
      htrail.append (fun _ => hmay hkind hsound hstage hasks) fun ho => by cases ho⟩
  | @timedOut hist _ kind h hkind hasks ih =>
    obtain ⟨hstage, htrail⟩ := ih hexpected.of_append
    have hsound := h.sound hb hserver
    have hdropped := (hexpected _ _ hkind).2 (hlast hist _)
    rw [List.length_append]
    exact ⟨stage_timedOut hbehavior hfiltering hkind hsound hstage hasks hdropped,
      htrail.append (fun _ => hmay hkind hsound hstage hasks) fun ho => by cases ho⟩

/-- The mapping is that of a direct connection or of a NAT. -/
theorem Network.exists_behaves
    (hcone : ∀ r r', net.mapped (net.server.addr r) = net.mapped (net.server.addr r')) :
    ∃ behavior, net.Behaves behavior := by
  by_cases hlocal : net.mapped (net.server.addr net.role) = net.addrLocal
  · exact ⟨_, .direct fun r => (hcone r net.role).trans hlocal⟩
  · exact ⟨_, .endpointIndependent (fun r h => hlocal ((hcone net.role r).trans h)) hcone⟩

end Stages

/-! ## What the NAT lets in -/

section Filtered

variable {net : Network} {p : FilteringPolicy} {config : StunClientLogicConfig}
  {behavior : NatBehavior} {w : Exchange}

/-- What has become of the tests that are not the current one is what the policy makes of them, and
the current one is not answered against the policy. -/
structure Exchange.Settled (net : Network) (p : FilteringPolicy) (config : StunClientLogicConfig)
    (w : Exchange) : Prop where
  rests : w.Rests net config
  answered : ∀ (i : ℕ) (kind : TestKind), config.kinds[i]? = some kind →
    Answered net w.sent w.received i → p.Passes kind
  asked : ∀ (i : ℕ) (kind : TestKind), config.kinds[i]? = some kind → i ≠ w.client.nTestIndex →
    Asked w.sent i → Answered net w.sent w.received i ∨ ¬p.Passes kind

/-- No answer to the current test is on its way. -/
def Exchange.NoneDue (net : Network) (p : FilteringPolicy) (config : StunClientLogicConfig)
    (w : Exchange) : Prop :=
  ∀ kind : TestKind, config.kinds[w.client.nTestIndex]? = some kind →
    Asked w.sent w.client.nTestIndex →
      Answered net w.sent w.received w.client.nTestIndex ∨ ¬p.Passes kind

/-- An answer to the current test is on its way, and the policy is to let it in. -/
structure Exchange.Due (net : Network) (p : FilteringPolicy) (config : StunClientLogicConfig)
    (w : Exchange) (d : Datagram) : Prop where
  addrLocal : d.addrLocal = net.addrLocal
  answers : ∃ request ∈ w.sent, request.test = w.client.nTestIndex ∧ net.Answers request d.octets
  passes : ∀ kind : TestKind, config.kinds[w.client.nTestIndex]? = some kind → p.Passes kind

namespace Exchange

/-- The outcomes are those of the policy. -/
theorem Settled.expected (h : w.Settled net p config) {hist : List Outcome}
    (hagrees : Agrees net w.sent w.received hist)
    (hcurrent : hist[w.client.nTestIndex]? ≠ some .timedOut) : Expected p config hist := by
  refine fun i kind hkind => ⟨fun hi => ?_, fun hi => ?_⟩
  · exact h.answered i kind hkind ((hagrees i _ hi).2.mp rfl)
  · obtain ⟨hskipped, hanswered⟩ := hagrees i _ hi
    have hne : i ≠ w.client.nTestIndex := by
      rintro rfl
      exact hcurrent hi
    have hasked : Asked w.sent i := by
      by_contra hnot
      cases hskipped.mpr hnot
    refine (h.asked i kind hkind hne hasked).resolve_left fun hnew => ?_
    cases hanswered.mpr hnew

/-- The outcomes of the tests before the current one, and the results after them. -/
theorem Settled.exists_outcomes (h : w.Settled net p config) (hb : net.Behaves behavior)
    (hserver : config.addrServer = net.server.addr net.role)
    (hbehavior : config.fBehaviorTest = true) (hfiltering : config.fFilteringTest = true)
    (hcone : ∀ r r', net.mapped (net.server.addr r) = net.mapped (net.server.addr r')) :
    ∃ hist, Agrees net w.sent w.received hist ∧ Trail net hist ∧
      Stage net p w.client.results hist.length ∧ w.client.nTestIndex ≤ hist.length ∧
      (Asked w.sent w.client.nTestIndex → MayAsk net w.client.nTestIndex) := by
  cases h.rests with
  | unchecked hrunning hist hhistory hagrees hlength _ _ _ hnotAsked =>
    have hcurrent : hist[w.client.nTestIndex]? ≠ some .timedOut := by
      rw [List.getElem?_eq_none hlength.le]
      simp
    obtain ⟨hstage, htrail⟩ := hhistory.stage hb hserver hbehavior hfiltering hcone
      (h.expected hagrees hcurrent)
    exact ⟨hist, hagrees, htrail, hstage, hlength.ge, fun hasked => absurd hasked hnotAsked⟩
  | pending hrunning hist hhistory hagrees hlength _ _ t hcurrent _ hasks =>
    -- The current test has no outcome yet, and asks at the stage that those before it have led to.
    have hnone : hist[w.client.nTestIndex]? ≠ some .timedOut := by
      rw [List.getElem?_eq_none hlength.le]
      simp
    obtain ⟨hstage, htrail⟩ := hhistory.stage hb hserver hbehavior hfiltering hcone
      (h.expected hagrees hnone)
    refine ⟨hist, hagrees, htrail, hstage, hlength.ge, fun _ => ?_⟩
    rw [hlength] at hstage
    exact asks_of_stage hbehavior hfiltering (hrunning.kind_current hcurrent)
      (hhistory.sound hb hserver) hstage hasks
  | closed hrunning hist o hhistory hagrees hlength _ _ t hcurrent _ hlate =>
    have hlast : (hist ++ [o])[w.client.nTestIndex]? = some o := by
      rw [← hlength]
      simp
    obtain ⟨hstage, htrail⟩ := hhistory.stage hb hserver hbehavior hfiltering hcone
      (h.expected hagrees fun hi => hlate (Option.some.inj (hlast.symm.trans hi)))
    refine ⟨hist ++ [o], hagrees, htrail, hstage, ?_, fun hasked => ?_⟩
    · rw [List.length_append]
      omega
    · exact htrail.mayAsk _ o hlast fun hskipped => (hagrees _ _ hlast).1.mp hskipped hasked

/-- The destination and the CHANGE-REQUEST of a request are those of its test. -/
theorem Rests.request_eq (h : w.Rests net config) {request : Sent} (hrequest : request ∈ w.sent) :
    request.test ≤ w.client.nTestIndex ∧ ∃ t : StunClientTest,
      config.kinds[request.test]? = some t.kind ∧
      (readerOf request.octets).getChangeRequest = .ok t.changeOf ∧
      request.addrDest = net.server.addr (net.destination t.kind) := by
  obtain ⟨hle, t, ht, -, hoctets, hdest⟩ := h.running.requests request hrequest
  refine ⟨hle, t, ?_, ?_, hdest⟩
  · rw [← h.running.kinds_eq, List.getElem?_map, ht, Option.map_some]
  · rw [hoctets]
    exact (reads_request t.transid t.changeOf).change

/-- The tests that have asked: none is the third one, and the first two have when one after them
has. -/
theorem Settled.asked_cases (h : w.Settled net p config) (hb : net.Behaves behavior)
    (hserver : config.addrServer = net.server.addr net.role)
    (hbehavior : config.fBehaviorTest = true) (hfiltering : config.fFilteringTest = true)
    (hcone : ∀ r r', net.mapped (net.server.addr r) = net.mapped (net.server.addr r')) {i : ℕ}
    (hasked : Asked w.sent i) :
    i ≠ 2 ∧ (2 < i → Asked w.sent 0 ∧ Asked w.sent 1) := by
  obtain ⟨hist, hagrees, htrail, -, hle, hcurrent⟩ :=
    h.exists_outcomes hb hserver hbehavior hfiltering hcone
  -- No test after the current one has asked.
  have hi : i ≤ w.client.nTestIndex := by
    by_contra hlt
    exact h.rests.running.not_asked (not_le.mp hlt) hasked
  have hmay : MayAsk net i := by
    by_cases hlt : i < hist.length
    · have ho := List.getElem?_eq_getElem hlt
      exact htrail.mayAsk i _ ho fun hskipped => (hagrees i _ ho).1.mp hskipped hasked
    · obtain rfl : i = w.client.nTestIndex := by omega
      exact hcurrent hasked
  refine ⟨?_, fun hlt => ⟨?_, ?_⟩⟩
  · rcases hmay with rfl | ⟨-, hne⟩
    · decide
    · exact hne
  · have ho := List.getElem?_eq_getElem (show 0 < hist.length by omega)
    by_contra hnot
    exact htrail.first (ho.trans (congrArg some ((hagrees 0 _ ho).1.mpr hnot)))
  · have ho := List.getElem?_eq_getElem (show 1 < hist.length by omega)
    by_contra hnot
    have hlocal := htrail.second (ho.trans (congrArg some ((hagrees 1 _ ho).1.mpr hnot)))
    rcases hmay with rfl | ⟨hnat, -⟩
    · omega
    · exact hnat hlocal

/-- The client has sent nothing but to the two addresses of the server with the port that it is
configured with. -/
theorem Settled.eq_of_contacted (h : w.Settled net p config) (hb : net.Behaves behavior)
    (hserver : config.addrServer = net.server.addr net.role)
    (hbehavior : config.fBehaviorTest = true) (hfiltering : config.fFilteringTest = true)
    (hcone : ∀ r r', net.mapped (net.server.addr r) = net.mapped (net.server.addr r'))
    {Y : CSocketAddress} (hY : Y ∈ contacted w.sent) :
    Y = net.server.addr net.role ∨ Y = net.server.addr (socketRoleSwapIP net.role) := by
  obtain ⟨request, hrequest, rfl⟩ := List.mem_map.mp hY
  obtain ⟨-, t, hkind, -, hdest⟩ := h.rests.request_eq hrequest
  obtain ⟨hne, -⟩ := h.asked_cases hb hserver hbehavior hfiltering hcone
    ⟨request, hrequest, rfl⟩
  rw [hdest]
  rcases kind_of_full hbehavior hfiltering hkind with
    ⟨-, ht⟩ | ⟨-, ht⟩ | ⟨htest, -⟩ | ⟨-, ht⟩ | ⟨-, ht⟩
  · exact .inl (by rw [ht]; rfl)
  · exact .inr (by rw [ht]; rfl)
  · exact absurd htest hne
  · exact .inl (by rw [ht]; rfl)
  · exact .inl (by rw [ht]; rfl)

/-- The destination of the requests of a test that has asked was contacted. -/
theorem Rests.mem_contacted (h : w.Rests net config) {i : ℕ} {kind : TestKind}
    (hkind : config.kinds[i]? = some kind) (hasked : Asked w.sent i) :
    net.server.addr (net.destination kind) ∈ contacted w.sent := by
  obtain ⟨request, hrequest, rfl⟩ := hasked
  obtain ⟨-, t, hkind', -, hdest⟩ := h.request_eq hrequest
  obtain rfl : kind = t.kind := Option.some.inj (hkind.symm.trans hkind')
  exact List.mem_map.mpr ⟨request, hrequest, hdest⟩

/-- The NAT lets the answer to the request of the current test in that was sent last when its policy
is to let the answers to the test in. -/
theorem Settled.admits_iff (h : w.Settled net p config) (hb : net.Behaves behavior)
    (hserver : config.addrServer = net.server.addr net.role)
    (hbehavior : config.fBehaviorTest = true) (hfiltering : config.fFilteringTest = true)
    (hcone : ∀ r r', net.mapped (net.server.addr r) = net.mapped (net.server.addr r'))
    {request : Sent} (hrequest : request ∈ w.sent) {d : Datagram} (hd : AnswersFrom net request d)
    {kind : TestKind} (hkind : config.kinds[request.test]? = some kind) :
    p.Admits (contacted w.sent) d.addrRemote ↔ p.Passes kind := by
  obtain ⟨-, t, hkind', hchange, hdest⟩ := h.rests.request_eq hrequest
  obtain rfl : kind = t.kind := Option.some.inj (hkind.symm.trans hkind')
  obtain ⟨change, r, hchange', hdest', hremote⟩ := hd.addrRemote
  obtain rfl : t.changeOf = change := Except.ok.inj (hchange.symm.trans hchange')
  obtain rfl : net.destination t.kind = r := net.server.addr_injective (hdest.symm.trans hdest')
  have hasked : Asked w.sent request.test := ⟨request, hrequest, rfl⟩
  obtain ⟨hne, hfirst⟩ := h.asked_cases hb hserver hbehavior hfiltering hcone hasked
  have hmem := h.rests.mem_contacted hkind hasked
  have hkinds := StunClientLogicConfig.kinds_full hbehavior hfiltering
  have honly : ∀ r, net.server.addr r ∈ contacted w.sent → r = net.role ∨
      r = socketRoleSwapIP net.role := fun r hr =>
    (h.eq_of_contacted hb hserver hbehavior hfiltering hcone hr).imp net.server.addr_injective
      net.server.addr_injective
  rw [hremote]
  unfold StunClientTest.changeOf
  rcases kind_of_full hbehavior hfiltering hkind with
    ⟨-, ht⟩ | ⟨-, ht⟩ | ⟨htest, -⟩ | ⟨htest, ht⟩ | ⟨htest, ht⟩
  · -- The answer comes from where the request went.
    rw [ht] at hmem ⊢
    exact iff_of_true (p.admits_of_mem hmem) trivial
  · rw [ht] at hmem ⊢
    exact iff_of_true (p.admits_of_mem hmem) trivial
  · exact absurd htest hne
  · -- Behavior test 2 has contacted the alternate IP address.
    obtain ⟨-, hbehaviorTest⟩ := hfirst (by omega)
    have hone : config.kinds[1]? = some (.behavior false) := by rw [hkinds]; rfl
    have hY := h.rests.mem_contacted hone hbehaviorTest
    rw [ht]
    exact p.admits_iff_of_notMem hY (net.server.ip_swapPort _).symm fun hX =>
      swapPort_ne (.inr rfl) (honly _ hX)
  · obtain ⟨hbinding, -⟩ := hfirst (by omega)
    have hzero : config.kinds[0]? = some .basicBinding := by rw [hkinds]; rfl
    have hY := h.rests.mem_contacted hzero hbinding
    rw [ht]
    exact p.admits_iff_of_notMem hY (net.server.ip_swapPort _).symm fun hX =>
      swapPort_ne (.inl rfl) (honly _ hX)

/-! ## The steps of a run -/

/-- A call of `GetNextMessage` receives nothing, and sends nothing or one request of the current
test. -/
theorem poll_sent (w : Exchange) (rand : ℕ → UInt8) (stack : StunTransactionId) (spMsg : CBuffer)
    (time : UInt32) : (w.poll rand stack spMsg time).received = w.received ∧
      ((w.poll rand stack spMsg time).sent = w.sent ∨
        ∃ request : Sent, (w.poll rand stack spMsg time).sent = w.sent ++ [request] ∧
          request.test = (w.poll rand stack spMsg time).client.nTestIndex) := by
  unfold poll
  split
  · exact ⟨rfl, .inr ⟨_, rfl, rfl⟩⟩
  · exact ⟨rfl, .inl rfl⟩

/-- The request that a call of `GetNextMessage` gives is one of the current test. -/
theorem test_of_sent_poll {rand : ℕ → UInt8} {stack : StunTransactionId} {spMsg : CBuffer}
    {time : UInt32} {request : Sent}
    (hsent : (w.poll rand stack spMsg time).sent = w.sent ++ [request]) :
    request.test = (w.poll rand stack spMsg time).client.nTestIndex := by
  obtain ⟨-, hsame | ⟨request', hnew, htest⟩⟩ := w.poll_sent rand stack spMsg time
  · rw [hsame] at hsent
    exact absurd (congrArg List.length hsent) (by simp)
  · rw [hsent] at hnew
    obtain rfl : request = request' := by simpa using hnew
    exact htest

/-- The request that a call of `GetNextMessage` hands out has been sent after it. -/
theorem request_mem_sent_poll {rand : ℕ → UInt8} {stack : StunTransactionId} {spMsg : CBuffer}
    {time : UInt32}
    {request : Sent} (hsent : (w.poll rand stack spMsg time).sent = w.sent ++ [request]) :
    request ∈ (w.poll rand stack spMsg time).sent := by
  rw [hsent]
  exact List.mem_append_right _ (List.mem_singleton_self _)

/-- Whether a test was answered does not change when the client sends a request. -/
theorem Rests.answered_poll (h : w.Rests net config) {rand : ℕ → UInt8}
    {stack : StunTransactionId} {spMsg : CBuffer} {time : UInt32} (i : ℕ) :
    Answered net (w.poll rand stack spMsg time).sent (w.poll rand stack spMsg time).received i ↔
      Answered net w.sent w.received i := by
  obtain ⟨hreceived, hsame | ⟨request, hnew, -⟩⟩ := w.poll_sent rand stack spMsg time
  · rw [hreceived, hsame]
  · rw [hreceived, hnew]
    exact answered_append_sent h.running request i

/-- A test that has asked after a call of `GetNextMessage` had asked before, or is the current one.
-/
theorem asked_poll {rand : ℕ → UInt8} {stack : StunTransactionId} {spMsg : CBuffer}
    {time : UInt32} {i : ℕ} (hasked : Asked (w.poll rand stack spMsg time).sent i) :
    Asked w.sent i ∨ i = (w.poll rand stack spMsg time).client.nTestIndex := by
  obtain ⟨-, hsame | ⟨request, hnew, htest⟩⟩ := w.poll_sent rand stack spMsg time
  · rw [hsame] at hasked
    exact .inl hasked
  · rw [hnew] at hasked
    obtain ⟨request', hrequest', rfl⟩ := hasked
    rcases List.mem_append.mp hrequest' with hold | hlast
    · exact .inl ⟨request', hold, rfl⟩
    · obtain rfl := List.mem_singleton.mp hlast
      exact .inr htest

/-- When no answer is on its way, all tests are as the policy makes them. -/
theorem Settled.all (h : w.Settled net p config) (hnone : w.NoneDue net p config) {i : ℕ}
    {kind : TestKind} (hkind : config.kinds[i]? = some kind) (hasked : Asked w.sent i) :
    Answered net w.sent w.received i ∨ ¬p.Passes kind := by
  by_cases hi : i = w.client.nTestIndex
  · subst hi
    exact hnone kind hkind hasked
  · exact h.asked i kind hkind hi hasked

/-- A call of `GetNextMessage` when no answer is on its way. -/
theorem Settled.poll (h : w.Settled net p config) (hnone : w.NoneDue net p config)
    (hb : net.Behaves behavior) (hserver : config.addrServer = net.server.addr net.role)
    (rand : ℕ → UInt8) (stack : StunTransactionId) (spMsg : CBuffer) (time : UInt32) :
    (w.poll rand stack spMsg time).Settled net p config where
  rests := h.rests.poll hb hserver rand stack spMsg time
  answered i kind hkind hanswered :=
    h.answered i kind hkind ((h.rests.answered_poll i).mp hanswered)
  asked i kind hkind hi hasked := by
    rw [h.rests.answered_poll]
    exact h.all hnone hkind ((asked_poll hasked).resolve_right hi)

/-- Rounds that do not go on to another test leave the number of requests. -/
theorem nTestIndex_rounds {c c' : CStunClientLogic} {time : UInt32}
    (h : Relation.ReflTransGen (Round time) c c') :
    c'.nTestIndex = c.nTestIndex ∨ c'.sendCount = 0 := by
  induction h with
  | refl => exact .inl rfl
  | tail _ hround ih =>
    cases hround with
    | precheck _ _ => exact ih
    | next _ _ _ => exact .inr rfl
    | timeout _ _ _ _ _ _ => exact ih

/-- A client that waits is at the same test, and sends nothing. -/
theorem waiting_spec {rand : ℕ → UInt8} {stack : StunTransactionId} {spMsg : CBuffer}
    {time : UInt32} (hwaiting : (w.client.getNextMessage rand stack spMsg time).1 =
      .error E_STUNCLIENT_STILL_WAITING) :
    (w.poll rand stack spMsg time).sent = w.sent ∧
      (w.poll rand stack spMsg time).client.nTestIndex = w.client.nTestIndex := by
  rcases w.poll_cases rand stack spMsg time with
    hsame | ⟨c₁, result, -, hrounds, hlast, hresult⟩
  · rw [hsame]
    exact ⟨rfl, rfl⟩
  · unfold poll
    rw [hresult] at hwaiting ⊢
    cases hlast with
    | resultsReady _ => exact absurd (Except.error.inj hwaiting) (by decide)
    | message _ _ _ _ _ _ => cases hwaiting
    | stillWaiting _ _ _ _ hstill =>
      refine ⟨rfl, (nTestIndex_rounds hrounds).resolve_right fun hzero => ?_⟩
      unfold CStunClientLogic.stillWaiting at hstill
      rw [hzero] at hstill
      simp at hstill

/-- A call of `GetNextMessage` that waits leaves a run settled. -/
theorem Settled.wait (h : w.Settled net p config) (hb : net.Behaves behavior)
    (hserver : config.addrServer = net.server.addr net.role) {rand : ℕ → UInt8}
    {stack : StunTransactionId} {spMsg : CBuffer} {time : UInt32}
    (hwaiting : (w.client.getNextMessage rand stack spMsg time).1 =
      .error E_STUNCLIENT_STILL_WAITING) :
    (w.poll rand stack spMsg time).Settled net p config where
  rests := h.rests.poll hb hserver rand stack spMsg time
  answered i kind hkind hanswered :=
    h.answered i kind hkind ((h.rests.answered_poll i).mp hanswered)
  asked i kind hkind hi hasked := by
    obtain ⟨hsent, hindex⟩ := waiting_spec hwaiting
    rw [h.rests.answered_poll]
    rw [hsent] at hasked
    rw [hindex] at hi
    exact h.asked i kind hkind hi hasked

/-- A run stays settled when the answer that is due reaches the client, and none is due then. -/
theorem Settled.deliver (h : w.Settled net p config) {d : Datagram} (hdue : w.Due net p config d) :
    (w.receive d).Settled net p config ∧ (w.receive d).NoneDue net p config := by
  obtain ⟨request, hrequest, htest, hanswers⟩ := hdue.answers
  have hold : ∀ i, Answered net w.sent w.received i →
      Answered net w.sent (w.receive d).received i := fun i hi =>
    (answered_receive d i).mpr (.inl hi)
  have hall : ∀ (i : ℕ) (kind : TestKind), config.kinds[i]? = some kind → Asked w.sent i →
      Answered net w.sent (w.receive d).received i ∨ ¬p.Passes kind := by
    intro i kind hkind hasked
    by_cases hi : i = w.client.nTestIndex
    · exact .inl ((answered_receive d i).mpr
        (.inr ⟨hi, request, hrequest, htest.trans hi.symm, hanswers⟩))
    · exact (h.asked i kind hkind hi hasked).imp_left (hold i)
  refine ⟨⟨h.rests.receive_own hdue.addrLocal hrequest htest hanswers, ?_, ?_⟩, ?_⟩
  · intro i kind hkind hanswered
    rcases (answered_receive d i).mp hanswered with hbefore | ⟨rfl, -⟩
    · exact h.answered i kind hkind hbefore
    · exact hdue.passes kind hkind
  · exact fun i kind hkind _ hasked => hall i kind hkind hasked
  · exact fun kind hkind hasked => hall _ kind hkind hasked

/-- A run is settled, and the answer that is on its way is due. -/
theorem filteredRun_settled {pending : Option Datagram}
    (h : FilteredRun net p config w pending) (hb : net.Behaves behavior)
    (hserver : config.addrServer = net.server.addr net.role)
    (hbehavior : config.fBehaviorTest = true) (hfiltering : config.fFilteringTest = true)
    (hcone : ∀ r r', net.mapped (net.server.addr r) = net.mapped (net.server.addr r')) :
    w.Settled net p config ∧ (pending = none → w.NoneDue net p config) ∧
      ∀ d, pending = some d → w.Due net p config d := by
  induction h with
  | initialized h =>
    obtain ⟨-, -, rfl⟩ := initializeLogic_eq_ok_iff.mp h
    refine ⟨⟨rests_initialized, ?_, ?_⟩, fun _ kind _ hasked => ?_, by simp⟩
    · rintro i kind - ⟨_, hmem, -⟩
      cases hmem
    · rintro i kind - - ⟨_, hmem, -⟩
      cases hmem
    · obtain ⟨_, hmem, -⟩ := hasked
      cases hmem
  | silent h rand stack spMsg time hsent ih =>
    -- Nothing was sent, so the tests that have asked are those of before.
    obtain ⟨hsettled, hnone, -⟩ := ih
    refine ⟨hsettled.poll (hnone rfl) hb hserver rand stack spMsg time,
      fun _ kind hkind hasked => ?_,
      by simp⟩
    rw [hsent] at hasked
    rw [hsettled.rests.answered_poll]
    exact hsettled.all (hnone rfl) hkind hasked
  | @admitted w h rand stack spMsg time request d hsent hanswers hadmits ih =>
    obtain ⟨hsettled, hnone, -⟩ := ih
    have hpoll := hsettled.poll (hnone rfl) hb hserver rand stack spMsg time
    have htest := test_of_sent_poll hsent
    have hrequest := request_mem_sent_poll hsent
    refine ⟨hpoll, by simp, fun d' hd' => ?_⟩
    obtain rfl := Option.some.inj hd'
    refine ⟨hanswers.addrLocal, ⟨request, hrequest, htest, hanswers.answers⟩, fun kind hkind => ?_⟩
    rw [← htest] at hkind
    -- The answer is let through, so the policy passes the answers to tests of this kind.
    exact (hpoll.admits_iff hb hserver hbehavior hfiltering hcone hrequest hanswers hkind).mp
      hadmits
  | @dropped w h rand stack spMsg time request d hsent hanswers hadmits ih =>
    obtain ⟨hsettled, hnone, -⟩ := ih
    have hpoll := hsettled.poll (hnone rfl) hb hserver rand stack spMsg time
    have htest := test_of_sent_poll hsent
    have hrequest := request_mem_sent_poll hsent
    refine ⟨hpoll, fun _ kind hkind _ => .inr ?_, by simp⟩
    rw [← htest] at hkind
    exact fun hpasses => hadmits
      ((hpoll.admits_iff hb hserver hbehavior hfiltering hcone hrequest hanswers hkind).mpr hpasses)
  | waiting h rand stack spMsg time hwaiting ih =>
    obtain ⟨hsettled, -, hdue⟩ := ih
    obtain ⟨hsent, hindex⟩ := waiting_spec hwaiting
    refine ⟨hsettled.wait hb hserver hwaiting, by simp, fun d' hd' => ?_⟩
    obtain ⟨hlocal, hanswers, hpasses⟩ := hdue d' hd'
    refine ⟨hlocal, ?_, ?_⟩
    · rwa [hsent, hindex]
    · rwa [hindex]
  | delivered h ih =>
    obtain ⟨hsettled, -, hdue⟩ := ih
    obtain ⟨hnew, hnone⟩ := hsettled.deliver (hdue _ rfl)
    exact ⟨hnew, fun _ => hnone, by simp⟩

/-- A run that has finished has a filtering result, and it is the policy of the NAT, exactly when
the policy is endpoint independent, or address and port dependent and there is a translation of the
address. -/
theorem filtering_classified_iff {pending : Option Datagram}
    (hserver : config.addrServer = net.server.addr net.role)
    (hbehavior : config.fBehaviorTest = true) (hfiltering : config.fFilteringTest = true)
    (hcone : ∀ r r', net.mapped (net.server.addr r) = net.mapped (net.server.addr r'))
    (h : FilteredRun net p config w pending) (hfinished : w.Finished) :
    (w.client.results.fFilteringTestSuccess = true ∧ w.client.results.filtering = p.filtering) ↔
      p = .endpointIndependent ∨
        (p = .addressAndPortDependent ∧ net.addrLocal ≠ net.mapped (net.server.addr net.role)) := by
  obtain ⟨behavior, hb⟩ := net.exists_behaves hcone
  obtain ⟨hsettled, -, -⟩ := filteredRun_settled h hb hserver hbehavior hfiltering hcone
  obtain ⟨hist, -, -, hstage, hle, -⟩ :=
    hsettled.exists_outcomes hb hserver hbehavior hfiltering hcone
  have hlen : 5 ≤ hist.length := by
    have hkinds := congrArg List.length hsettled.rests.running.kinds_eq
    rw [StunClientLogicConfig.kinds_full hbehavior hfiltering, List.length_map] at hkinds
    unfold Finished at hfinished
    rw [hkinds] at hfinished
    exact hfinished.trans hle
  obtain ⟨n, hn⟩ : ∃ n, hist.length = n + 5 := ⟨hist.length - 5, by omega⟩
  rw [hn] at hstage
  obtain ⟨hin, hout⟩ := hstage
  by_cases hlets : LetsIn net p
  · -- The client reports endpoint independent filtering.
    obtain ⟨hsuccess, hreport⟩ := hin hlets
    rw [hsuccess, hreport]
    constructor
    · rintro ⟨-, hp⟩
      cases p with
      | endpointIndependent => exact .inl rfl
      | addressDependent => cases hp
      | addressAndPortDependent => cases hp
    · rintro (rfl | ⟨rfl, hnat⟩)
      · exact ⟨rfl, rfl⟩
      · rcases hlets with hlocal | hpolicy
        · exact absurd hlocal hnat
        · exact absurd rfl hpolicy
  · obtain ⟨hsuccess, hreport⟩ := hout hlets
    obtain ⟨hnat, hpolicy⟩ := not_or.mp hlets
    rw [not_not] at hpolicy
    subst hpolicy
    rw [hsuccess, hreport]
    exact iff_of_true ⟨rfl, rfl⟩ (.inr ⟨rfl, hnat⟩)

/-! ## An address dependent NAT that is taken for an endpoint independent one -/

/-- A client behind `conenat` that does all tests. -/
def fullConfig : StunClientLogicConfig where
  addrServer := conenat.server.addr .rolePP
  fBehaviorTest := true
  fFilteringTest := true

/-- The answer to filtering test 2, from 2.2.2.2:3479. -/
def answerFromAA : Datagram where
  octets := answerWith 3 [0x0D, 0x97, 2, 2, 2, 2]
  addrRemote := conenat.server.addr .roleAA
  addrLocal := conenat.addrLocal

/-- A new client. -/
def fullClient : Exchange where
  client := CStunClientLogic.initialized fullConfig

/-- The binding test, behavior test 2 and filtering test 2 are answered. -/
def misjudged : Exchange :=
  pollWith 4 ((pollWith 3 ((pollWith 2 ((pollWith 1 fullClient).receive answerFromPP)).receive
    answerFromAP)).receive answerFromAA)

/-- The request of filtering test 2. -/
def changeRequestOf (seed : UInt8) : Sent where
  test := 3
  octets := [0, 1, 0, 8, 0x21, 0x12, 0xA4, 0x42, seed, seed, seed, seed, seed, seed, seed, seed,
    0, 0, 0, 0, 0, 3, 0, 4, 0, 0, 0, 6]
  addrDest := conenat.server.addr .rolePP

/-- The answer from 2.2.2.2:3479 is the one that the request asks for. -/
theorem answersFrom_AA : AnswersFrom conenat (changeRequestOf 3) answerFromAA where
  answers := answers_of_mapped .rolePP (by decide +kernel) (by decide +kernel) (by decide +kernel)
    (by decide +kernel) rfl (by decide +kernel)
  addrLocal := rfl
  addrRemote := ⟨⟨true, true⟩, .rolePP, by decide +kernel, rfl, rfl⟩

/-- The answer from 1.1.1.1:3478 comes from where the request has gone. -/
theorem answersFrom_PP : AnswersFrom conenat (requestOf 1 0 .rolePP) answerFromPP where
  answers := answers_PP
  addrLocal := rfl
  addrRemote := ⟨⟨false, false⟩, .rolePP, by decide +kernel, rfl, rfl⟩

/-- The answer from 2.2.2.2:3478 comes from where the request has gone. -/
theorem answersFrom_AP : AnswersFrom conenat (requestOf 2 1 .roleAP) answerFromAP where
  answers := answers_AP
  addrLocal := rfl
  addrRemote := ⟨⟨false, false⟩, .roleAP, by decide +kernel, rfl, rfl⟩

/-- The misjudged run is one behind a NAT with a policy that lets the three answers in. -/
theorem misjudged_filteredRun {p : FilteringPolicy} (hp : p ≠ .addressAndPortDependent) :
    FilteredRun conenat p fullConfig misjudged none := by
  have h₀ : FilteredRun conenat p fullConfig fullClient none :=
    .initialized (initializeLogic_eq_ok_iff.mpr ⟨by decide, by decide, rfl⟩)
  have h₁ := (h₀.admitted (fun _ => 1) StunTransactionId.zero (CBuffer.initWithAllocation 800) 0
    (by decide +kernel) answersFrom_PP (p.admits_of_mem (by decide +kernel))).delivered
  have h₂ := (h₁.admitted (fun _ => 2) StunTransactionId.zero (CBuffer.initWithAllocation 800) 0
    (by decide +kernel) answersFrom_AP (p.admits_of_mem (by decide +kernel))).delivered
  have hY : conenat.server.addr .roleAP ∈ contacted (pollWith 3 ((pollWith 2
      ((pollWith 1 fullClient).receive answerFromPP)).receive answerFromAP)).sent := by
    decide +kernel
  have hX : answerFromAA.addrRemote ∉ contacted (pollWith 3 ((pollWith 2
      ((pollWith 1 fullClient).receive answerFromPP)).receive answerFromAP)).sent := by
    decide +kernel
  have h₃ := (h₂.admitted (fun _ => 3) StunTransactionId.zero (CBuffer.initWithAllocation 800) 0
    (by decide +kernel) answersFrom_AA
    ((p.admits_iff_of_notMem hY (show _ = answerFromAA.addrRemote.ip from rfl) hX).mpr
      hp)).delivered
  exact h₃.silent (fun _ => 4) StunTransactionId.zero (CBuffer.initWithAllocation 800) 0
    (by decide +kernel)

/-- The client of the misjudged run has finished. -/
theorem misjudged_finished : misjudged.Finished := by
  unfold Finished
  decide +kernel

/-- The client reports endpoint independent filtering for an address dependent NAT. -/
theorem addressDependent_misjudged :
    ¬∀ (net : Network) (p : FilteringPolicy) (config : StunClientLogicConfig) (w : Exchange)
      (pending : Option Datagram), config.addrServer = net.server.addr net.role →
      config.fBehaviorTest = true → config.fFilteringTest = true →
      (∀ r r', net.mapped (net.server.addr r) = net.mapped (net.server.addr r')) →
      FilteredRun net p config w pending → w.Finished →
      w.client.results.fFilteringTestSuccess = true ∧ w.client.results.filtering = p.filtering := by
  intro h
  obtain ⟨-, hfiltering⟩ := h conenat .addressDependent fullConfig misjudged none rfl rfl rfl
    (fun _ _ => rfl) (misjudged_filteredRun (by decide)) misjudged_finished
  revert hfiltering
  decide +kernel

/-- `filtering_classified_iff` for an endpoint independent NAT. -/
theorem filtering_classified_iff_endpointIndependent :
    misjudged.client.results.fFilteringTestSuccess = true ∧
      misjudged.client.results.filtering = FilteringPolicy.endpointIndependent.filtering :=
  (filtering_classified_iff (show fullConfig.addrServer = conenat.server.addr .rolePP from rfl) rfl
    rfl (fun _ _ => rfl) (misjudged_filteredRun (by decide)) misjudged_finished).mpr (.inl rfl)

end Exchange

end Filtered

end Stun
