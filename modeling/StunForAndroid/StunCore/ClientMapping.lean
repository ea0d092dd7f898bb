import StunForAndroid.StunCore.ClientRun

/-!
# The mapping of the NAT is classified right

For every network, every honest server and every pattern of lost, duplicated, delayed and reordered
answers, a behavior result is that of the network, and there is one when each of the tests that has
asked was answered (`mapping_classified`). The client cannot tell whose answer it is when two tests
have the same transaction id, and so the transaction ids of the tests are taken to be different.
-/

namespace Stun

namespace Exchange

open CStunClientLogic CStunMessageReader

variable {net : Network} {config : StunClientLogicConfig} {behavior : NatBehavior} {w : Exchange}

/-- A new client is at its first test. -/
theorem rests_initialized : ({ client := CStunClientLogic.initialized config } : Exchange).Rests net
    config := by
  refine .unchecked ⟨rfl, rfl, ?_, by simp, by simp⟩ [] .start (fun i o hi => by simp at hi) rfl rfl
    rfl ?_ (fun ⟨_, hmem, _⟩ => by cases hmem)
  · show (config.kinds.map fun kind => ({ kind := kind } : StunClientTest)).map
      StunClientTest.kind = _
    rw [List.map_map]
    exact List.map_id _
  · intro j _ t ht
    obtain ⟨kind, -, rfl⟩ := Option.map_eq_some_iff.mp (List.getElem?_map .. ▸ ht)
    rfl

/-- What was sent stays sent. -/
theorem mem_sent_poll {rand : ℕ → UInt8} {stack : StunTransactionId} {spMsg : CBuffer}
    {time : UInt32} {request : Sent} (h : request ∈ w.sent) :
    request ∈ (w.poll rand stack spMsg time).sent := by
  unfold poll
  split
  · exact List.mem_append_left _ h
  · exact h

/-- A run with an honest server rests between two calls, whatever else reaches the client with
transaction ids that its requests do not have. -/
theorem Reachable.rests_among {foreign : Set StunTransactionId}
    (h : Reachable config (net.DeliversAmong foreign) w) (hb : net.Behaves behavior)
    (hserver : config.addrServer = net.server.addr net.role) (hdistinct : DistinctTransids w.sent)
    (hunused : Unused w.sent foreign) : w.Rests net config := by
  induction h with
  | initialized h =>
    obtain ⟨-, -, rfl⟩ := initializeLogic_eq_ok_iff.mp h
    exact rests_initialized
  | poll _ rand stack spMsg time ih =>
    exact (ih (hdistinct.mono fun _ => mem_sent_poll) (hunused.mono fun _ => mem_sent_poll)).poll
      hb hserver rand stack spMsg time
  | @receive w _ d hd ih =>
    have ih' := ih hdistinct hunused
    rcases hd with ⟨hlocal, request, hrequest, hanswers⟩ | hforeign
    · by_cases htest : request.test = w.client.nTestIndex
      · exact ih'.receive_own hlocal hrequest htest hanswers
      · exact ih'.receive_other hrequest htest hanswers hdistinct
    · exact ih'.receive_foreign hforeign hunused

/-- A run with an honest server rests between two calls. -/
theorem Reachable.rests (h : Reachable config net.Delivers w) (hb : net.Behaves behavior)
    (hserver : config.addrServer = net.server.addr net.role) (hdistinct : DistinctTransids w.sent) :
    w.Rests net config := by
  have hamong : Reachable config (net.DeliversAmong ∅) w := h.mono fun _ _ hd => .inl hd
  exact hamong.rests_among hb hserver hdistinct fun _ hid => hid.elim

/-- A client that rests has the results of some outcomes, and of all tests when it has finished. -/
theorem Rests.exists_history (h : w.Rests net config) :
    ∃ hist, History net config hist w.client.results ∧ Agrees net w.sent w.received hist ∧
      (w.Finished → config.kinds.length ≤ hist.length) := by
  have hlen := congrArg List.length h.running.kinds_eq
  rw [List.length_map] at hlen
  unfold Finished
  rw [hlen]
  cases h with
  | unchecked _ hist hhistory hagrees hlength =>
    exact ⟨hist, hhistory, hagrees, fun hf => hf.trans hlength.ge⟩
  | pending _ hist hhistory hagrees _ _ _ t hcurrent =>
    refine ⟨hist, hhistory, hagrees, fun hf => ?_⟩
    have hlt := (List.getElem?_eq_some_iff.mp hcurrent).1
    omega
  | closed _ hist o hhistory hagrees _ _ _ t hcurrent =>
    refine ⟨hist ++ [o], hhistory, hagrees, fun hf => ?_⟩
    have hlt := (List.getElem?_eq_some_iff.mp hcurrent).1
    omega

/-- A behavior result is that of the network, in every state of every run with an honest server, and
a run that has finished has one, when each of the first three tests that has asked was answered
while it was the current one. -/
theorem mapping_classified (hb : net.Behaves behavior)
    (hserver : config.addrServer = net.server.addr net.role) (hconfig : config.fBehaviorTest = true)
    (h : Reachable config net.Delivers w) (hdistinct : DistinctTransids w.sent) :
    (w.client.results.fBehaviorTestSuccess = true → w.client.results.behavior = behavior) ∧
    (w.Finished → (∀ i < 3, Asked w.sent i → Answered net w.sent w.received i) →
      w.client.results.fBehaviorTestSuccess = true) := by
  obtain ⟨hist, hhistory, hagrees, hfinished⟩ := (h.rests hb hserver hdistinct).exists_history
  refine ⟨fun hsuccess => ((hhistory.sound hb hserver).behavior_eq hsuccess).symm,
    fun hf hall => ?_⟩
  have hlen : 3 ≤ hist.length := by
    refine le_trans ?_ (hfinished hf)
    rw [StunClientLogicConfig.kinds_behavior hconfig, List.length_append]
    exact Nat.le_add_right 3 _
  have hprogress := hhistory.progress hb hserver hconfig fun j hj hout => by
    obtain ⟨hskipped, hanswered⟩ := hagrees j .timedOut hout
    have hasked : Asked w.sent j := by
      by_contra hnot
      cases hskipped.mpr hnot
    cases hanswered.mpr (hall j hj hasked)
  obtain ⟨n, hn⟩ : ∃ n, hist.length = n + 3 := ⟨hist.length - 3, by omega⟩
  rw [hn] at hprogress
  exact hprogress

/-! ## A NAT with a mapping for all destinations -/

/-- A server with the IP addresses 1.1.1.1 and 2.2.2.2 and the ports 3478 and 3479, and a NAT that
maps 10.0.0.1:5000 to 7.7.7.7:5000. -/
def conenat : Network where
  server :=
    { primaryIP := (CSocketAddress.ofHostByteOrder 0x01010101 0).ip
      alternateIP := (CSocketAddress.ofHostByteOrder 0x02020202 0).ip
      primaryPort := 3478
      alternatePort := 3479
      ip_ne := by decide
      port_ne := by decide }
  addrLocal := CSocketAddress.ofHostByteOrder 0x0A000001 5000
  mapped _ := CSocketAddress.ofHostByteOrder 0x07070707 5000
  role := .rolePP
  mapped_ip _ := by decide

/-- The cone NAT maps alike for all destinations. -/
theorem conenat_behaves : conenat.Behaves .endpointIndependentMapping :=
  .endpointIndependent (fun _ => show CSocketAddress.ofHostByteOrder 0x07070707 5000 ≠
    CSocketAddress.ofHostByteOrder 0x0A000001 5000 by decide) fun _ _ => rfl

/-- A client behind the cone NAT that does the behavior tests. -/
def behaviorConfig : StunClientLogicConfig where
  addrServer := conenat.server.addr .rolePP
  fBehaviorTest := true

/-- The answer to a request with the octet `seed` in its transaction id, with the other address at
the end of it. -/
def answerWith (seed : UInt8) (addrOther : List UInt8) : List UInt8 :=
  [0x01, 0x01, 0, 24, 0x21, 0x12, 0xA4, 0x42, seed, seed, seed, seed, seed, seed, seed, seed,
    0, 0, 0, 0, 0, 1, 0, 8, 0, 1, 0x13, 0x88, 7, 7, 7, 7, 0x80, 0x2c, 0, 8, 0, 1] ++ addrOther

/-- The answer from 1.1.1.1:3478, with the other address 2.2.2.2:3479. -/
def answerFromPP : Datagram where
  octets := answerWith 1 [0x0D, 0x97, 2, 2, 2, 2]
  addrRemote := conenat.server.addr .rolePP
  addrLocal := conenat.addrLocal

/-- The answer from 2.2.2.2:3478, with the other address 1.1.1.1:3479. -/
def answerFromAP : Datagram where
  octets := answerWith 2 [0x0D, 0x97, 1, 1, 1, 1]
  addrRemote := conenat.server.addr .roleAP
  addrLocal := conenat.addrLocal

/-- A new client. -/
def newClient : Exchange where
  client := CStunClientLogic.initialized behaviorConfig

/-- The run in which both requests are answered. -/
def bothAnswered : Exchange :=
  pollWith 3 ((pollWith 2 ((pollWith 1 newClient).receive answerFromPP)).receive answerFromAP)

/-- A response with a mapped address is an answer. -/
theorem answers_of_mapped {octets : List UInt8} {request : Sent} (r : SocketRole)
    (hstate : (readerOf octets).state = .bodyValidated)
    (htransid : (readerOf octets).transactionid = (readerOf request.octets).transactionid)
    (hxor : (readerOf octets).getXorMappedAddress = .error E_FAIL)
    (hmapped : (readerOf octets).getMappedAddress = .ok (net.mapped request.addrDest))
    (hdest : request.addrDest = net.server.addr r)
    (hother : (readerOf octets).getOtherAddress =
      .ok (net.server.addr (FourAddressServer.opposite r))) : net.Answers request octets := by
  refine ⟨hstate, htransid, fun a ha => ?_, fun a ha => ?_, .inr ⟨_, hmapped⟩, fun r' hr' => ?_⟩
  · rw [hxor] at ha
    cases ha
  · rw [hmapped] at ha
    cases ha
    rfl
  · rw [hdest] at hr'
    rw [hother, net.server.addr_injective hr']

/-- The requests of the run. -/
def requestOf (seed : UInt8) (test : ℕ) (r : SocketRole) : Sent where
  test := test
  octets := [0, 1, 0, 8, 0x21, 0x12, 0xA4, 0x42, seed, seed, seed, seed, seed, seed, seed, seed,
    0, 0, 0, 0, 0, 3, 0, 4, 0, 0, 0, 0]
  addrDest := conenat.server.addr r

/-- The answer from 1.1.1.1:3478 answers the binding test. -/
theorem answers_PP : conenat.Answers (requestOf 1 0 .rolePP) answerFromPP.octets :=
  answers_of_mapped .rolePP (by decide +kernel) (by decide +kernel) (by decide +kernel)
    (by decide +kernel) rfl (by decide +kernel)

/-- The answer from 2.2.2.2:3478 answers behavior test 2. -/
theorem answers_AP : conenat.Answers (requestOf 2 1 .roleAP) answerFromAP.octets :=
  answers_of_mapped .roleAP (by decide +kernel) (by decide +kernel) (by decide +kernel)
    (by decide +kernel) rfl (by decide +kernel)

/-- The run in which both requests are answered is one with an honest server. -/
theorem bothAnswered_reachable : Reachable behaviorConfig conenat.Delivers bothAnswered := by
  have h₀ : Reachable behaviorConfig conenat.Delivers newClient :=
    .initialized (initializeLogic_eq_ok_iff.mpr ⟨by decide, by decide, rfl⟩)
  have h₂ := (h₀.pollWith 1).receive (show conenat.Delivers _ answerFromPP from
    ⟨rfl, requestOf 1 0 .rolePP, by decide +kernel, answers_PP⟩)
  have h₄ := (h₂.pollWith 2).receive (show conenat.Delivers _ answerFromAP from
    ⟨rfl, requestOf 2 1 .roleAP, by decide +kernel, answers_AP⟩)
  exact h₄.pollWith 3

/-- `mapping_classified` for the run in which both requests are answered. -/
theorem mapping_classified_bothAnswered :
    bothAnswered.client.results.fBehaviorTestSuccess = true ∧
      bothAnswered.client.results.behavior = .endpointIndependentMapping := by
  have hdistinct : DistinctTransids bothAnswered.sent := by
    unfold DistinctTransids
    decide +kernel
  have hclassified := mapping_classified conenat_behaves rfl rfl bothAnswered_reachable hdistinct
  have hasked : ¬Asked bothAnswered.sent 2 := by
    unfold Asked
    decide +kernel
  have hfirst : Answered conenat bothAnswered.sent bothAnswered.received 0 :=
    ⟨{ answerFromPP with test := 0, sentBefore := 1 }, by decide +kernel, rfl,
      requestOf 1 0 .rolePP, by decide +kernel, rfl, answers_PP⟩
  have hsecond : Answered conenat bothAnswered.sent bothAnswered.received 1 :=
    ⟨{ answerFromAP with test := 1, sentBefore := 2 }, by decide +kernel, rfl,
      requestOf 2 1 .roleAP, by decide +kernel, rfl, answers_AP⟩
  have hfinished : bothAnswered.Finished := by
    unfold Finished
    decide +kernel
  have hsuccess := hclassified.2 hfinished fun i hi h => by
    rcases (by omega : i = 0 ∨ i = 1 ∨ i = 2) with rfl | rfl | rfl
    · exact hfirst
    · exact hsecond
    · exact absurd h hasked
  exact ⟨hsuccess, hclassified.1 hsuccess⟩

end Exchange

end Stun
