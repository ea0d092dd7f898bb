import StunForAndroid.Client.UdpClientLoop
import StunForAndroid.StunCore.Retransmission

/-!
# The end of `UdpClientLoop`

Whatever comes in while the client waits, the loop ends with results. The client can send a number
of requests for each test, and after a request it waits for the timeout and for no more than one
further round. `requestsUsed` counts the requests that have been sent or can no longer be sent, and
`OnSchedule` says that the clock is not ahead of them.

The clock of the loop is a counter of 32 bits. What it shows is the time of a clock that does not
wrap around, and the difference of two readings is the time between them as long as that is less
than `2^32` (`toNat_sub_ofNat`).
-/

namespace Stun

open Octets Fallible CStunClientLogic

/-- The rounds of the loop are no more than `period` milliseconds apart, by a clock that does not
wrap around. -/
structure Clocked (exchanges : ℕ → UdpExchange) (clock : ℕ → ℕ) (period : ℕ) : Prop where
  reads : ∀ i, (exchanges i).timeCurrentMilliseconds = UInt32.ofNat (clock i)
  forward : ∀ i, clock i ≤ clock (i + 1)
  often : ∀ i, clock (i + 1) ≤ clock i + period

/-- The most requests that a client can send. -/
def StunClientLogicConfig.requestsMax (config : StunClientLogicConfig) : ℕ :=
  config.kinds.length * config.withDefaults.uMaxAttempts.toNat

/-- The longest time from one request to the next one, or to the end. -/
def StunClientLogicConfig.waitMax (config : StunClientLogicConfig) (period : ℕ) : ℕ :=
  config.withDefaults.timeoutMilliseconds + period

/-- The difference of two readings is the time between them. -/
theorem toNat_sub_ofNat {last now : ℕ} (hle : last ≤ now) (hlt : now - last < 2 ^ 32) :
    (UInt32.ofNat now - UInt32.ofNat last).toNat = now - last := by
  rw [UInt32.toNat_sub, UInt32.toNat_ofNat', UInt32.toNat_ofNat']
  omega

namespace CStunClientLogic

/-- The requests that have been sent, or can no longer be. -/
def requestsUsed (c : CStunClientLogic) : ℕ :=
  c.nTestIndex * c.config.uMaxAttempts.toNat + c.sendCount.toNat

/-- A client that waits has sent a request, and not long ago. -/
theorem lt_timeout_of_stillWaiting {c : CStunClientLogic} {time : UInt32}
    (h : c.stillWaiting time = true) :
    c.sendCount ≠ 0 ∧ (time - c.timeLastMessageSent).toNat < c.config.timeoutMilliseconds := by
  unfold stillWaiting at h
  simp only [Bool.and_eq_true, decide_eq_true_eq, bne_iff_ne, ne_eq] at h
  obtain ⟨hdiff, hcount⟩ := h
  rw [UInt32.lt_iff_toNat_lt, UInt32.toNat_div] at hdiff
  have hthousand : (1000 : UInt32).toNat = 1000 := rfl
  rw [hthousand] at hdiff
  refine ⟨hcount, ?_⟩
  unfold StunClientLogicConfig.timeoutMilliseconds
  omega

/-- The clock is not ahead of the requests: each of them accounts for no more than `wait`
milliseconds since `start`. -/
structure OnSchedule (config : StunClientLogicConfig) (start wait now : ℕ) (c : CStunClientLogic) :
    Prop where
  init : c.fInitialized = true
  config_eq : c.config = config.withDefaults
  length_eq : c.testlist.length = config.kinds.length
  count_le : c.sendCount.toNat ≤ config.withDefaults.uMaxAttempts.toNat
  elapsed : now ≤ start + c.requestsUsed * wait
  /-- The last request is accounted for. -/
  last : c.sendCount ≠ 0 → ∃ last, c.timeLastMessageSent = UInt32.ofNat last ∧ last ≤ now ∧
    now ≤ last + wait ∧ last + wait ≤ start + c.requestsUsed * wait

section Schedule

variable {config : StunClientLogicConfig} {start wait now : ℕ} {c c' : CStunClientLogic}

/-- A new client is on schedule. -/
theorem onSchedule_initialized (config : StunClientLogicConfig) (start wait : ℕ) :
    OnSchedule config start wait start (initialized config) where
  init := rfl
  config_eq := rfl
  length_eq := List.length_map _
  count_le := Nat.zero_le _
  elapsed := Nat.le_add_right _ _
  last hcount := absurd rfl hcount

/-- Replacing the current test changes nothing of this. -/
theorem OnSchedule.withTest (h : OnSchedule config start wait now c)
    (result : StunClientTest × StunClientResults) :
    OnSchedule config start wait now (c.withTest result) where
  init := h.init
  config_eq := h.config_eq
  length_eq := (List.length_set ..).trans h.length_eq
  count_le := h.count_le
  elapsed := h.elapsed
  last := h.last

/-- The requests that a test has not sent are used up when the client leaves it. -/
theorem OnSchedule.requestsUsed_nextTest (h : OnSchedule config start wait now c) :
    c.requestsUsed ≤ c.nextTest.requestsUsed := by
  have hcount := h.count_le
  rw [← h.config_eq] at hcount
  calc c.requestsUsed
      ≤ c.nTestIndex * c.config.uMaxAttempts.toNat + c.config.uMaxAttempts.toNat :=
        Nat.add_le_add_left hcount _
    _ = (c.nTestIndex + 1) * c.config.uMaxAttempts.toNat := by ring
    _ = c.nextTest.requestsUsed := rfl

/-- The client is still on schedule at the next test. -/
theorem OnSchedule.nextTest (h : OnSchedule config start wait now c) :
    OnSchedule config start wait now c.nextTest where
  init := h.init
  config_eq := h.config_eq
  length_eq := h.length_eq
  count_le := Nat.zero_le _
  elapsed := h.elapsed.trans
    (Nat.add_le_add_left (Nat.mul_le_mul_right wait h.requestsUsed_nextTest) start)
  last hcount := absurd rfl hcount

/-- A round that ends with `continue` takes no time. -/
theorem OnSchedule.round (h : OnSchedule config start wait now c) {time : UInt32}
    (hround : Round time c c') : OnSchedule config start wait now c' := by
  cases hround with
  | @precheck t _ _ =>
    have hwrite := h.withTest (t.preRunCheck c.results)
    exact ⟨hwrite.init, hwrite.config_eq, hwrite.length_eq, hwrite.count_le, hwrite.elapsed,
      hwrite.last⟩
  | next _ _ _ => exact h.nextTest
  | @timeout t _ _ _ _ _ _ => exact h.withTest (t.notifyTimeout c.results)

/-- Any number of rounds at the head of `GetNextMessage` keeps the client on schedule. -/
theorem OnSchedule.rounds (h : OnSchedule config start wait now c) {time : UInt32}
    (hrounds : Relation.ReflTransGen (Round time) c c') : OnSchedule config start wait now c' := by
  induction hrounds with
  | refl => exact h
  | tail _ hround ih => exact ih.round hround

/-- The client uses no more requests than the tests have attempts. -/
theorem OnSchedule.requestsUsed_le (h : OnSchedule config start wait now c) {t : StunClientTest}
    (hcurrent : c.CurrentTest t) : c.requestsUsed ≤ config.requestsMax := by
  obtain ⟨hindex, -⟩ := List.getElem?_eq_some_iff.mp hcurrent
  have hcount := h.count_le
  unfold requestsUsed StunClientLogicConfig.requestsMax
  rw [h.config_eq]
  rw [h.length_eq] at hindex
  calc c.nTestIndex * config.withDefaults.uMaxAttempts.toNat + c.sendCount.toNat
      ≤ (c.nTestIndex + 1) * config.withDefaults.uMaxAttempts.toNat := by
        rw [Nat.add_mul, Nat.one_mul]
        exact Nat.add_le_add_left hcount _
    _ ≤ config.kinds.length * config.withDefaults.uMaxAttempts.toNat :=
        Nat.mul_le_mul_right _ hindex

/-- The client is on schedule when it has a test left. -/
theorem OnSchedule.now_le (h : OnSchedule config start wait now c) {t : StunClientTest}
    (hcurrent : c.CurrentTest t) : now ≤ start + config.requestsMax * wait :=
  h.elapsed.trans
    (Nat.add_le_add_left (Nat.mul_le_mul_right wait (h.requestsUsed_le hcurrent)) start)

/-- What a call of `GetNextMessage` leaves: a message or some patience, with the client on schedule
until the next round, or the results. -/
def LeavesInTime (config : StunClientLogicConfig) (start wait period now : ℕ) :
    Except HRESULT (CBuffer × CSocketAddress) × CStunClientLogic → Prop
  | (.ok (spMsg, _), c) => MAX_STUN_MESSAGE_SIZE ≤ spMsg.getAllocatedSize ∧
      now ≤ start + config.requestsMax * wait ∧
      ∀ now', now ≤ now' → now' ≤ now + period → OnSchedule config start wait now' c
  | (.error hr, c) => hr = E_STUNCLIENT_RESULTS_READY ∨ hr = E_STUNCLIENT_STILL_WAITING ∧
      now ≤ start + config.requestsMax * wait ∧
      ∀ now', now ≤ now' → now' ≤ now + period → OnSchedule config start wait now' c

/-- A request that is sent accounts for the time until the next round. -/
theorem OnSchedule.message {period : ℕ} (h : OnSchedule config start (config.waitMax period) now c)
    (hattempts : c.sendCount < c.config.uMaxAttempts) (t : StunClientTest) {now' : ℕ}
    (hforward : now ≤ now') (hoften : now' ≤ now + period) :
    OnSchedule config start (config.waitMax period) now'
    (c.messageFetched (UInt32.ofNat now) t) := by
  have hless : c.sendCount.toNat < c.config.uMaxAttempts.toNat :=
    UInt32.lt_iff_toNat_lt.mp hattempts
  -- The number of requests does not wrap, as it is below `uMaxAttempts`.
  have hcount : (c.sendCount + 1).toNat = c.sendCount.toNat + 1 := by
    have hbound := c.config.uMaxAttempts.toNat_lt
    have hone : (1 : UInt32).toNat = 1 := rfl
    rw [UInt32.toNat_add, hone]
    omega
  have hused : (c.messageFetched (UInt32.ofNat now) t).requestsUsed = c.requestsUsed + 1 := by
    show c.nTestIndex * c.config.uMaxAttempts.toNat + (c.sendCount + 1).toNat = _
    rw [hcount]
    rfl
  -- The next request is due one longest wait later at most.
  have hwait : now + config.waitMax period ≤
      start + (c.requestsUsed + 1) * config.waitMax period := by
    have helapsed := h.elapsed
    rw [Nat.add_mul, Nat.one_mul]
    omega
  have hperiod : period ≤ config.waitMax period := Nat.le_add_left _ _
  have hsame := h.withTest (t, c.results)
  exact {
    init := hsame.init
    config_eq := hsame.config_eq
    length_eq := hsame.length_eq
    count_le := by
      show (c.sendCount + 1).toNat ≤ _
      rw [hcount, ← h.config_eq]
      exact hless
    elapsed := by
      rw [hused]
      omega
    last := by
      intro _
      rw [hused]
      exact ⟨now, rfl, hforward, by omega, hwait⟩ }

/-- A client that waits does not wait for longer than the timeout and one round more. -/
theorem OnSchedule.waiting {period : ℕ} (h : OnSchedule config start (config.waitMax period) now c)
    (hsmall : config.waitMax period < 2 ^ 32)
    (hwaiting : c.stillWaiting (UInt32.ofNat now) = true) {now' : ℕ} (hforward : now ≤ now')
    (hoften : now' ≤ now + period) : OnSchedule config start (config.waitMax period) now' c := by
  obtain ⟨hcount, hdiff⟩ := lt_timeout_of_stillWaiting hwaiting
  obtain ⟨last, hlast, hle, hnow, hused⟩ := h.last hcount
  rw [hlast, toNat_sub_ofNat hle (by omega), h.config_eq] at hdiff
  have hlate : now' ≤ last + config.waitMax period := by
    unfold StunClientLogicConfig.waitMax
    omega
  exact ⟨h.init, h.config_eq, h.length_eq, h.count_le, hlate.trans hused,
    fun _ => ⟨last, hlast, hle.trans hforward, hlate, hused⟩⟩

/-- A call of `GetNextMessage` leaves a client that is on schedule in time. -/
theorem OnSchedule.getNextMessage {period : ℕ}
    (h : OnSchedule config start (config.waitMax period) now c)
    (hsmall : config.waitMax period < 2 ^ 32) (rand : ℕ → UInt8) (stack : StunTransactionId)
    {spMsg : CBuffer} (hbuf : MAX_STUN_MESSAGE_SIZE ≤ spMsg.getAllocatedSize) :
    LeavesInTime config start (config.waitMax period) period now
      (c.getNextMessage rand stack spMsg (UInt32.ofNat now)) := by
  obtain ⟨c₁, hrounds, hlast⟩ :=
    @getNextMessage_cases rand stack spMsg (UInt32.ofNat now) c h.init hbuf
  have h₁ := h.rounds hrounds
  generalize c.getNextMessage rand stack spMsg (UInt32.ofNat now) = answer at hlast ⊢
  cases hlast with
  | resultsReady _ => exact .inl rfl
  | stillWaiting hcurrent _ _ _ hwaiting =>
    exact .inr ⟨rfl, h₁.now_le hcurrent, fun _ => h₁.waiting hsmall hwaiting⟩
  | @message t hcurrent _ _ _ _ hattempts =>
    refine ⟨?_, h₁.now_le hcurrent, fun _ => h₁.message hattempts _⟩
    rw [t.getAllocatedSize_getMessage hbuf]
    exact hbuf

/-- A response takes no time. -/
theorem OnSchedule.processResponse (h : OnSchedule config start wait now c) (spMsg : List UInt8)
    (addrLocal : CSocketAddress) :
    OnSchedule config start wait now
      (finalState (CStunClientLogic.processResponse spMsg addrLocal) c) := by
  have hreceive : finalState (CStunClientLogic.processResponse spMsg addrLocal) c =
      (({ client := c } : Exchange).receive ⟨spMsg, addrLocal, addrLocal⟩).client := rfl
  rw [hreceive]
  rcases Exchange.receive_cases ⟨c, [], []⟩ ⟨spMsg, addrLocal, addrLocal⟩ with
    hsame | ⟨t, result, -, -, -, hresult⟩
  · rw [hsame]
    exact h
  · rw [hresult]
    exact h.withTest result

end Schedule

end CStunClientLogic

/-! ## The loop -/

section Loop

variable {config : StunClientLogicConfig} {start wait period now : ℕ}

/-- Waiting for a response leaves the client on schedule. -/
theorem CStunClientLogic.OnSchedule.awaitResponse {s : UdpLoopState}
    (h : OnSchedule config start wait now s.clientlogic) (received : Option Datagram) :
    OnSchedule config start wait now (s.awaitResponse received).clientlogic := by
  unfold UdpLoopState.awaitResponse
  cases received with
  | none => exact h
  | some d =>
    dsimp only
    split_ifs
    · exact h.processResponse _ d.addrLocal
    · exact h

/-- Waiting for a response leaves the buffer its size. -/
theorem getAllocatedSize_awaitResponse (s : UdpLoopState) (received : Option Datagram) :
    (s.awaitResponse received).spMsg.getAllocatedSize = s.spMsg.getAllocatedSize := by
  unfold UdpLoopState.awaitResponse
  cases received with
  | none =>
    rw [CBuffer.setSize_snd]
    rfl
  | some d =>
    dsimp only
    rw [CBuffer.setSize_snd]
    split_ifs
    · -- No more octets are stored than there is room for.
      show (overwrite s.spMsg.data 0 (d.octets.take s.spMsg.data.length)).length = _
      rw [length_overwrite _ _ _ (Nat.zero_le _), List.length_take]
      unfold CBuffer.getAllocatedSize
      omega
    · rfl

/-- A round goes on, with the client on schedule until the next one, or ends with results. -/
theorem CStunClientLogic.OnSchedule.udpClientRound {s : UdpLoopState} {x : UdpExchange}
    (h : OnSchedule config start (config.waitMax period) now s.clientlogic)
    (hsmall : config.waitMax period < 2 ^ 32)
    (hbuf : MAX_STUN_MESSAGE_SIZE ≤ s.spMsg.getAllocatedSize)
    (hx : x.timeCurrentMilliseconds = UInt32.ofNat now) :
    (∃ s', Stun.udpClientRound x s = .inl s' ∧ MAX_STUN_MESSAGE_SIZE ≤ s'.spMsg.getAllocatedSize ∧
      now ≤ start + config.requestsMax * config.waitMax period ∧
      ∀ now', now ≤ now' → now' ≤ now + period →
        OnSchedule config start (config.waitMax period) now' s'.clientlogic) ∨
    ∃ results addrDest, Stun.udpClientRound x s = .inr (.finished results addrDest) := by
  have hbuf' : MAX_STUN_MESSAGE_SIZE ≤ (s.spMsg.setSize 0).2.getAllocatedSize := by
    rw [CBuffer.setSize_snd]
    exact hbuf
  have hleaves := h.getNextMessage hsmall x.rand x.stack hbuf'
  unfold Stun.udpClientRound
  rw [hx]
  dsimp only
  generalize s.clientlogic.getNextMessage x.rand x.stack (s.spMsg.setSize 0).2 (UInt32.ofNat now) =
    answer at hleaves
  obtain ⟨hr | ⟨spMsg, addrDest⟩, c⟩ := answer
  · -- The results are ready, or the client waits on.
    obtain rfl | ⟨rfl, hnow, hschedule⟩ := hleaves
    · right
      exact ⟨c.results, s.addrDest, rfl⟩
    · left
      refine ⟨_, rfl, ?_, hnow, fun now' hforward hoften => ?_⟩
      · rw [getAllocatedSize_awaitResponse]
        exact hbuf'
      · exact OnSchedule.awaitResponse (s := ⟨c, (s.spMsg.setSize 0).2, s.addrDest⟩)
          (hschedule now' hforward hoften) _
  · -- A request is sent.
    obtain ⟨hsize, hnow, hschedule⟩ := hleaves
    left
    refine ⟨_, rfl, ?_, hnow, fun now' hforward hoften => ?_⟩
    · rw [getAllocatedSize_awaitResponse]
      exact hsize
    · exact OnSchedule.awaitResponse (s := ⟨c, spMsg, addrDest⟩) (hschedule now' hforward hoften) _

/-- The rounds after the first one are clocked, too. -/
theorem Clocked.tail {exchanges : ℕ → UdpExchange} {clock : ℕ → ℕ}
    (h : Clocked exchanges clock period) :
    Clocked (exchanges ∘ Nat.succ) (clock ∘ Nat.succ) period where
  reads i := h.reads (i + 1)
  forward i := h.forward (i + 1)
  often i := h.often (i + 1)

/-- The rounds from a client on schedule end with results when the time of all requests is over. -/
theorem CStunClientLogic.OnSchedule.udpClientRounds (n : ℕ) {exchanges : ℕ → UdpExchange}
    {clock : ℕ → ℕ} (hclock : Clocked exchanges clock period)
    (hsmall : config.waitMax period < 2 ^ 32) {s : UdpLoopState}
    (h : OnSchedule config start (config.waitMax period) (clock 0) s.clientlogic)
    (hbuf : MAX_STUN_MESSAGE_SIZE ≤ s.spMsg.getAllocatedSize)
    (hover : start + config.requestsMax * config.waitMax period < clock n) :
    ∃ results addrDest, Stun.udpClientRounds ((List.range (n + 1)).map exchanges) s =
      .finished results addrDest := by
  induction n generalizing exchanges clock s with
  | zero =>
    rcases h.udpClientRound hsmall hbuf (hclock.reads 0) with
      ⟨s', -, -, hnow, -⟩ | ⟨results, addrDest, hround⟩
    · exact absurd hnow (not_le.mpr hover)
    · refine ⟨results, addrDest, ?_⟩
      rw [List.range_one, List.map_singleton]
      unfold Stun.udpClientRounds
      rw [hround]
  | succ n ih =>
    rw [List.range_succ_eq_map, List.map_cons, List.map_map]
    unfold Stun.udpClientRounds
    rcases h.udpClientRound hsmall hbuf (hclock.reads 0) with
      ⟨s', hround, hbuf', -, hschedule⟩ | ⟨results, addrDest, hround⟩
    · rw [hround]
      exact ih hclock.tail (hschedule (clock 1) (hclock.forward 0) (hclock.often 0)) hbuf' hover
    · refine ⟨results, addrDest, ?_⟩
      rw [hround]

end Loop

/-- The loop ends with results, whatever comes in, when its clock has gone on for as long as all
requests can take. -/
theorem udpClientLoop_ends {config : StunClientLogicConfig} {exchanges : ℕ → UdpExchange}
    {clock : ℕ → ℕ} {period n : ℕ} {udpInit : HRESULT}
    (hip : config.addrServer.isIPAddressZero = false) (hport : config.addrServer.getPort ≠ 0)
    (hudp : failed udpInit = false) (hclock : Clocked exchanges clock period)
    (hsmall : config.waitMax period < 2 ^ 32)
    (hover : clock 0 + config.requestsMax * config.waitMax period < clock n) :
    ∃ results addrDest, udpClientLoop config udpInit ((List.range (n + 1)).map exchanges) =
      .finished results addrDest := by
  have hnew := initializeLogic_eq_ok_iff.mpr ⟨hip, hport, rfl⟩
  have hsize : MAX_STUN_MESSAGE_SIZE ≤
      (CBuffer.initWithAllocation MAX_STUN_MESSAGE_SIZE).getAllocatedSize :=
    (List.length_replicate ..).ge
  have hschedule := onSchedule_initialized config (clock 0) (config.waitMax period)
  unfold udpClientLoop
  rw [hnew]
  dsimp only
  rw [if_neg (by simp [hudp])]
  exact CStunClientLogic.OnSchedule.udpClientRounds (s := { clientlogic := initialized config }) n
    hclock hsmall hschedule hsize hover

/-- A round every half a second, in each of which a datagram of one octet comes in. -/
def babble (i : ℕ) : UdpExchange where
  timeCurrentMilliseconds := UInt32.ofNat (500 * i)
  rand := fun _ => 1
  stack := StunTransactionId.zero
  received := some ⟨[0], udpConfig.addrServer, CSocketAddress.zero⟩

/-- A client in full mode has ten requests, and is done with them in 35 seconds. -/
theorem udpClientLoop_ends_babble :
    ∃ results addrDest, udpClientLoop udpConfig S_OK ((List.range (71 + 1)).map babble) =
      .finished results addrDest := by
  have hclock : Clocked babble (500 * ·) 500 := {
    reads := fun _ => rfl
    forward := fun i => Nat.mul_le_mul_left 500 (Nat.le_succ i)
    often := fun i => (Nat.mul_succ 500 i).le }
  exact udpClientLoop_ends (by decide) (by decide) (by decide) hclock (by decide) (by decide)

end Stun
