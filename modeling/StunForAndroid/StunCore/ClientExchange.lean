import StunForAndroid.StunCore.ClientLogic
import StunForAndroid.StunCore.ClientRequests

/-!
# Runs of the client

A run of `CStunClientLogic` is a sequence of calls of `GetNextMessage`, at any times, and of
`ProcessResponse`, with whatever the network delivers. `Exchange` is the client with what it has
sent and received so far, each with the index of the test that was the current one.

`Reachable` has a parameter for what the network may deliver. What a step keeps, whatever is
delivered, is here: the configuration, the kinds of the tests, and every test that has completed
(`Keeps`).
-/

namespace Stun

open Fallible

/-- A request that the client has sent. -/
structure Sent where
  /-- The index of the test. -/
  test : ℕ
  octets : List UInt8
  addrDest : CSocketAddress
deriving DecidableEq

/-- A datagram that reaches the client. -/
structure Datagram where
  octets : List UInt8
  addrRemote : CSocketAddress
  addrLocal : CSocketAddress
deriving DecidableEq

/-- A datagram that the client has been handed. -/
structure Received extends Datagram where
  /-- The index of the test that was the current one. -/
  test : ℕ
  /-- How many requests had been sent. -/
  sentBefore : ℕ
deriving DecidableEq

/-- The client and what it has sent and received. -/
structure Exchange where
  client : CStunClientLogic
  sent : List Sent := []
  received : List Received := []

namespace Exchange

/-- A call of `GetNextMessage`, and the message that it has fetched on its way. -/
def poll (rand : ℕ → UInt8) (stack : StunTransactionId) (spMsg : CBuffer)
    (timeCurrentMilliseconds : UInt32) (w : Exchange) : Exchange :=
  match w.client.getNextMessage rand stack spMsg timeCurrentMilliseconds with
  | (.ok (spMsg, addrDest), c) =>
    { w with client := c, sent := w.sent ++ [⟨c.nTestIndex, spMsg.contents, addrDest⟩] }
  | (.error _, c) => { w with client := c }

/-- A call of `GetNextMessage` with a generator that gives `seed`. -/
def pollWith (seed : UInt8) (w : Exchange) : Exchange :=
  w.poll (fun _ => seed) StunTransactionId.zero (CBuffer.initWithAllocation 800) 0

/-- A call of `ProcessResponse`. -/
def receive (d : Datagram) (w : Exchange) : Exchange :=
  { w with
    client := finalState (CStunClientLogic.processResponse d.octets d.addrLocal) w.client
    received :=
      w.received ++ [{ d with test := w.client.nTestIndex, sentBefore := w.sent.length }] }

/-- All tests of the client are done. -/
def Finished (w : Exchange) : Prop := w.client.testlist.length ≤ w.client.nTestIndex

/-- What can become of a new client, when the network may deliver `Delivers`. -/
inductive Reachable (config : StunClientLogicConfig) (Delivers : Exchange → Datagram → Prop) :
    Exchange → Prop
  /-- `Initialize` succeeds. -/
  | initialized {c : CStunClientLogic} (h : CStunClientLogic.initializeLogic config {} = .ok () c) :
      Reachable config Delivers { client := c }
  /-- `GetNextMessage` at any time. -/
  | poll {w : Exchange} (h : Reachable config Delivers w) (rand : ℕ → UInt8)
      (stack : StunTransactionId) (spMsg : CBuffer) (timeCurrentMilliseconds : UInt32) :
      Reachable config Delivers (w.poll rand stack spMsg timeCurrentMilliseconds)
  /-- `ProcessResponse` with what the network delivers. -/
  | receive {w : Exchange} (h : Reachable config Delivers w) {d : Datagram} (hd : Delivers w d) :
      Reachable config Delivers (w.receive d)

/-- A run on a network that delivers less is one on a network that delivers more. -/
theorem Reachable.mono {config : StunClientLogicConfig}
    {Delivers Delivers' : Exchange → Datagram → Prop}
    (hsub : ∀ w d, Delivers w d → Delivers' w d) {w : Exchange} (h : Reachable config Delivers w) :
    Reachable config Delivers' w := by
  induction h with
  | initialized h => exact .initialized h
  | poll _ rand stack spMsg time ih => exact ih.poll rand stack spMsg time
  | receive _ hd ih => exact ih.receive (hsub _ _ hd)

/-- A call with a generator that gives `seed` leads from a state that can be reached to another. -/
theorem Reachable.pollWith {config : StunClientLogicConfig} {Delivers : Exchange → Datagram → Prop}
    {w : Exchange} (h : Reachable config Delivers w) (seed : UInt8) :
    Reachable config Delivers (w.pollWith seed) :=
  h.poll _ _ _ _

/-- A call of `GetNextMessage` does nothing, when the client is not initialized or the buffer is too
small, or else it makes some rounds and a last one. -/
theorem poll_cases (w : Exchange) (rand : ℕ → UInt8) (stack : StunTransactionId) (spMsg : CBuffer)
    (timeCurrentMilliseconds : UInt32) :
    w.poll rand stack spMsg timeCurrentMilliseconds = w ∨
    ∃ c₁ result, MAX_STUN_MESSAGE_SIZE ≤ spMsg.getAllocatedSize ∧
      Relation.ReflTransGen (CStunClientLogic.Round timeCurrentMilliseconds) w.client c₁ ∧
      CStunClientLogic.LastRound rand stack spMsg timeCurrentMilliseconds c₁ result ∧
      w.client.getNextMessage rand stack spMsg timeCurrentMilliseconds = result := by
  by_cases hinit : w.client.fInitialized = true
  · by_cases hbuf : MAX_STUN_MESSAGE_SIZE ≤ spMsg.getAllocatedSize
    · obtain ⟨c₁, hrounds, hlast⟩ := CStunClientLogic.getNextMessage_cases hinit hbuf
      exact .inr ⟨c₁, _, hbuf, hrounds, hlast, rfl⟩
    · left
      unfold poll CStunClientLogic.getNextMessage
      rw [if_neg (by simp [hinit]), if_pos (not_le.mp hbuf)]
  · left
    unfold poll CStunClientLogic.getNextMessage
    rw [if_pos (Bool.not_eq_true _ ▸ hinit)]

/-- A call of `ProcessResponse` does nothing, or the response is accepted by the current test. -/
theorem receive_cases (w : Exchange) (d : Datagram) :
    (w.receive d).client = w.client ∨
    ∃ t result, w.client.CurrentTest t ∧ t.fCompleted = false ∧
      t.processResponse w.client.config w.client.results d.octets d.addrLocal = .ok result ∧
      (w.receive d).client = w.client.withTest result := by
  unfold receive finalState CStunClientLogic.processResponse
  split_ifs with hinit hsize
  · exact .inl rfl
  · exact .inl rfl
  · cases hcurrent : w.client.testlist[w.client.nTestIndex]? with
    | none => exact .inl rfl
    | some t =>
      cases hopen : t.fCompleted with
      | true => exact .inl (by simp [hopen])
      | false =>
        cases hresponse :
          t.processResponse w.client.config w.client.results d.octets d.addrLocal with
        | error hr => exact .inl (by simp [hopen, hresponse])
        | ok result =>
          exact .inr ⟨t, result, hcurrent, hopen, hresponse, by simp [hopen, hresponse]⟩

/-- A message that a test accepts is not empty. -/
theorem length_ne_zero_of_accepted {spMsg : List UInt8} {t : StunClientTest}
    {reader : CStunMessageReader} (h : t.basicReaderValidation spMsg = .ok reader) :
    spMsg.length ≠ 0 := by
  intro h0
  obtain rfl := List.eq_nil_of_length_eq_zero h0
  obtain ⟨hstate, -⟩ := StunClientTest.basicReaderValidation_eq_ok_iff.mp h
  rw [CStunMessageReader.addBytes_nil] at hstate
  cases hstate

/-- A response that the current test accepts writes the test with its results. -/
theorem receive_of_accepted {w : Exchange} {d : Datagram} {t : StunClientTest}
    {result : StunClientTest × StunClientResults} (hinit : w.client.fInitialized = true)
    (hcurrent : w.client.CurrentTest t) (hopen : t.fCompleted = false)
    (haccepted : t.processResponse w.client.config w.client.results d.octets d.addrLocal =
      .ok result) :
    (w.receive d).client = w.client.withTest result := by
  obtain ⟨-, reader, hreader⟩ := StunClientTest.processResponse_eq_ok haccepted
  have hlen := length_ne_zero_of_accepted hreader
  unfold CStunClientLogic.CurrentTest at hcurrent
  unfold receive finalState CStunClientLogic.processResponse
  simp [hinit, hlen, hcurrent, hopen, haccepted]

end Exchange

/-! ## What every step keeps -/

namespace CStunClientLogic

/-- One step of the client, of any kind. -/
inductive Step : CStunClientLogic → CStunClientLogic → Prop
  /-- A round that ends with `continue`. -/
  | round {time : UInt32} {c c' : CStunClientLogic} (h : Round time c c') : Step c c'
  /-- A round that sends a request. -/
  | message {rand : ℕ → UInt8} {stack : StunTransactionId} {spMsg : CBuffer} {time : UInt32}
      {c : CStunClientLogic} {t : StunClientTest} (current : c.CurrentTest t)
      (notCompleted : t.fCompleted = false)
      (size : MAX_STUN_MESSAGE_SIZE ≤ spMsg.getAllocatedSize) :
      Step c (c.messageFetched time (t.getMessage c.config c.results rand stack spMsg).1.1)
  /-- A response that is accepted. -/
  | response {spMsg : List UInt8} {addrLocal : CSocketAddress} {c : CStunClientLogic}
      {t : StunClientTest} {result : StunClientTest × StunClientResults} (current : c.CurrentTest t)
      (notCompleted : t.fCompleted = false)
      (accepted : t.processResponse c.config c.results spMsg addrLocal = .ok result) :
      Step c (c.withTest result)

/-- What every step keeps. -/
structure Keeps (c c' : CStunClientLogic) : Prop where
  init_eq : c'.fInitialized = c.fInitialized
  config_eq : c'.config = c.config
  /-- The client does not go back. -/
  index_le : c.nTestIndex ≤ c'.nTestIndex
  /-- A test keeps its kind. -/
  kinds_eq : c'.testlist.map StunClientTest.kind = c.testlist.map StunClientTest.kind
  /-- A test that has completed stays as it is. -/
  completed : ∀ (i : ℕ) (t : StunClientTest), c.testlist[i]? = some t → t.fCompleted = true →
    c'.testlist[i]? = some t
  /-- A test keeps its transaction id, once it has one. -/
  transid : ∀ (i : ℕ) (t : StunClientTest), c.testlist[i]? = some t →
    isTransactionIdValid t.transid = true →
    ∃ t', c'.testlist[i]? = some t' ∧ t'.kind = t.kind ∧ t'.transid = t.transid

/-- A client keeps what it has. -/
theorem Keeps.refl (c : CStunClientLogic) : Keeps c c :=
  ⟨rfl, rfl, le_rfl, rfl, fun _ _ h _ => h, fun _ t h _ => ⟨t, h, rfl, rfl⟩⟩

/-- What two steps keep is kept by both together. -/
theorem Keeps.trans {c c' c'' : CStunClientLogic} (h : Keeps c c') (h' : Keeps c' c'') :
    Keeps c c'' where
  init_eq := h'.init_eq.trans h.init_eq
  config_eq := h'.config_eq.trans h.config_eq
  index_le := h.index_le.trans h'.index_le
  kinds_eq := h'.kinds_eq.trans h.kinds_eq
  completed i t ht hdone := h'.completed i t (h.completed i t ht hdone) hdone
  transid i t ht hvalid := by
    obtain ⟨t', ht', hkind', htransid'⟩ := h.transid i t ht hvalid
    obtain ⟨t'', ht'', hkind'', htransid''⟩ := h'.transid i t' ht' (htransid' ▸ hvalid)
    exact ⟨t'', ht'', hkind''.trans hkind', htransid''.trans htransid'⟩

/-- Putting a test in the place of the current one keeps everything, when it has the same kind and
transaction id and the current test has not completed. -/
theorem Keeps.withTest {c : CStunClientLogic} {t : StunClientTest} (hcurrent : c.CurrentTest t)
    {result : StunClientTest × StunClientResults} (hkind : result.1.kind = t.kind)
    (htransid : isTransactionIdValid t.transid = true → result.1.transid = t.transid)
    (hopen : t.fCompleted = true → result.1 = t) : Keeps c (c.withTest result) where
  -- Only the entry of the current test is written.
  init_eq := rfl
  config_eq := rfl
  index_le := le_rfl
  kinds_eq := by
    obtain ⟨hlt, rfl⟩ := List.getElem?_eq_some_iff.mp hcurrent
    refine List.ext_getElem? fun i => ?_
    simp only [CStunClientLogic.withTest, List.getElem?_map, List.getElem?_set]
    by_cases hi : c.nTestIndex = i
    · subst hi
      simp [hlt, hkind]
    · simp [hi]
  completed i u hu hdone := by
    obtain ⟨hlt, -⟩ := List.getElem?_eq_some_iff.mp hcurrent
    by_cases hi : c.nTestIndex = i
    · subst hi
      obtain rfl : t = u := Option.some.inj (hcurrent.symm.trans hu)
      show (c.testlist.set c.nTestIndex result.1)[c.nTestIndex]? = some t
      rw [List.getElem?_set_self hlt, hopen hdone]
    · show (c.testlist.set c.nTestIndex result.1)[i]? = some u
      rw [List.getElem?_set_ne hi, hu]
  transid i u hu hvalid := by
    obtain ⟨hlt, -⟩ := List.getElem?_eq_some_iff.mp hcurrent
    by_cases hi : c.nTestIndex = i
    · subst hi
      obtain rfl : t = u := Option.some.inj (hcurrent.symm.trans hu)
      exact ⟨result.1, List.getElem?_set_self hlt, hkind, htransid hvalid⟩
    · exact ⟨u, (List.getElem?_set_ne hi).trans hu, rfl, rfl⟩

/-- Every step keeps what there is to keep. -/
theorem Step.keeps {c c' : CStunClientLogic} (h : Step c c') : Keeps c c' := by
  -- A step that writes a test writes the current one, and only while it has not completed.
  cases h with
  | round h =>
    cases h with
    | @precheck t hcurrent _ =>
      have hkeeps : Keeps c (c.withTest (t.preRunCheck c.results)) := by
        rcases t.preRunCheck_cases c.results with hdone | hsame
        · refine .withTest hcurrent (by rw [hdone]) (fun _ => by rw [hdone]) fun ht => ?_
          rw [hdone, ← ht]
        · exact .withTest hcurrent (by rw [hsame]) (fun _ => by rw [hsame]) fun _ => by rw [hsame]
      exact ⟨rfl, rfl, le_rfl, hkeeps.kinds_eq, hkeeps.completed, hkeeps.transid⟩
    | next hcurrent _ _ =>
      exact ⟨rfl, rfl, Nat.le_succ _, rfl, fun _ _ ht _ => ht, fun _ t ht _ => ⟨t, ht, rfl, rfl⟩⟩
    | @timeout t hcurrent _ hopen _ _ _ =>
      refine .withTest hcurrent (by rw [t.notifyTimeout_fst]) (fun _ => by rw [t.notifyTimeout_fst])
        fun ht => ?_
      rw [hopen] at ht
      cases ht
  | @message rand stack spMsg time _ t hcurrent hopen hsize =>
    obtain ⟨buf, hmessage, -⟩ := t.getMessage_spec hsize c.config c.results rand stack
    have hkeeps : Keeps c (c.withTest
        ({ t with transid := t.requestTransid rand stack }, c.results)) := by
      refine .withTest hcurrent rfl StunClientTest.requestTransid_of_valid fun ht => ?_
      rw [hopen] at ht
      cases ht
    rw [hmessage]
    exact ⟨rfl, rfl, le_rfl, hkeeps.kinds_eq, hkeeps.completed, hkeeps.transid⟩
  | @response _ _ _ t result hcurrent hopen haccepted =>
    obtain ⟨hdone, -⟩ := StunClientTest.processResponse_eq_ok haccepted
    refine .withTest hcurrent (by rw [hdone]) (fun _ => by rw [hdone]) fun ht => ?_
    rw [hopen] at ht
    cases ht

/-- Steps keep what every step keeps. -/
theorem keeps_of_steps {c c' : CStunClientLogic} (h : Relation.ReflTransGen Step c c') :
    Keeps c c' := by
  induction h with
  | refl => exact .refl c
  | tail _ hstep ih => exact ih.trans hstep.keeps

/-- Rounds are steps. -/
theorem steps_of_rounds {c c' : CStunClientLogic} {time : UInt32}
    (h : Relation.ReflTransGen (Round time) c c') : Relation.ReflTransGen Step c c' :=
  Relation.ReflTransGen.mono (fun _ _ hround => .round hround) _ _ h

end CStunClientLogic

namespace Exchange

open CStunClientLogic

/-- A call of `ProcessResponse` is a step, or nothing. -/
theorem receive_steps (w : Exchange) (d : Datagram) :
    Relation.ReflTransGen Step w.client (w.receive d).client := by
  rcases w.receive_cases d with hsame | ⟨t, result, hcurrent, hopen, haccepted, hresult⟩
  · rw [hsame]
  · rw [hresult]
    exact .single (.response hcurrent hopen haccepted)

end Exchange

end Stun
