import StunForAndroid.Server.HonestServer

/-!
# A client, a NAT and the server

Here both sides are the repository's: a client runs `CStunClientLogic`, and the threads of a server
with four addresses answer it. The NAT between them maps the client's socket. A packet may be lost,
delayed, duplicated and overtaken on the way in either direction, a thread may fail to receive, and
it serves others in between, whatever they send. They may be behind the same NAT, and have their
responses sent to the client: it cannot tell these from its own if they have its transaction ids.

Such a run is one of the client with an honest server (`Inv.exchange`), and so what the client
reports is what the network is (`results_right`).
-/

namespace Stun

open CStunClientLogic CStunMessageReader
open CStunSocketThread (Initialized)

/-! ## What the client has sent and received -/

namespace Exchange

variable {config : StunClientLogicConfig} {net : Network} {w : Exchange}

/-- What the client sends are its requests. -/
theorem Reachable.octets_sent {Delivers : Exchange → Stun.Datagram → Prop}
    (h : Reachable config Delivers w) {request : Sent} (hrequest : request ∈ w.sent) :
    ∃ transid change, request.octets = (requestDraft transid change).octets := by
  induction h with
  | initialized h => cases hrequest
  | receive _ _ ih => exact ih hrequest
  | @poll w _ rand stack spMsg time ih =>
    rcases w.poll_cases rand stack spMsg time with
      hsame | ⟨c₁, result, hbuf, -, hlast, hresult⟩
    · rw [hsame] at hrequest
      exact ih hrequest
    · unfold Exchange.poll at hrequest
      rw [hresult] at hrequest
      cases hlast with
      | resultsReady hnone => exact ih hrequest
      | stillWaiting _ _ _ _ _ => exact ih hrequest
      | @message t _ _ _ _ _ _ =>
        rcases List.mem_append.mp hrequest with hold | hnew
        · exact ih hold
        · obtain ⟨buf, hmessage, hcontents⟩ :=
            t.getMessage_spec hbuf c₁.config c₁.results rand stack
          obtain rfl := List.mem_singleton.mp hnew
          exact ⟨t.requestTransid rand stack, t.changeOf, by rw [← hcontents, hmessage]⟩

/-- What was sent before something was received stays so. -/
theorem take_sent_poll {rand : ℕ → UInt8} {stack : StunTransactionId} {spMsg : CBuffer}
    {time : UInt32} {n : ℕ} {request : Sent} (h : request ∈ w.sent.take n) :
    request ∈ (w.poll rand stack spMsg time).sent.take n := by
  unfold poll
  split
  · rw [List.take_append]
    exact List.mem_append_left _ h
  · exact h

/-- What an honest server's client has received are answers to what it had sent, or have the
transaction ids of others. -/
theorem Reachable.answers_received {foreign : Set StunTransactionId}
    (h : Reachable config (net.DeliversAmong foreign) w) {d : Received} (hd : d ∈ w.received) :
    (∃ request ∈ w.sent.take d.sentBefore, net.Answers request d.octets) ∨
      (readerOf d.octets).transactionid ∈ foreign := by
  induction h with
  | initialized h => cases hd
  | @poll w _ rand stack spMsg time ih =>
    have hsame : (w.poll rand stack spMsg time).received = w.received := by
      unfold Exchange.poll
      split <;> rfl
    rw [hsame] at hd
    refine (ih hd).imp_left ?_
    rintro ⟨request, hrequest, hanswers⟩
    exact ⟨request, take_sent_poll hrequest, hanswers⟩
  | @receive w _ d' hd' ih =>
    rw [received_receive] at hd
    rcases List.mem_append.mp hd with hold | hnew
    · exact ih hold
    · obtain rfl := List.mem_singleton.mp hnew
      refine hd'.imp_left ?_
      rintro ⟨-, request, hrequest, hanswers⟩
      exact ⟨request, (List.take_length (l := w.sent)).symm ▸ hrequest, hanswers⟩

end Exchange

/-! ## The session -/

/-- The NAT passes on to the client what goes to an address that it maps the client's socket to. -/
def Network.PassesOn (net : Network) (addrDest : CSocketAddress) : Prop :=
  ∃ role, addrDest = net.mapped (net.server.addr role)

/-- A client with what it has sent and received, the threads of the server, what these have sent,
and what has reached them from others. -/
structure Session (T : Type) where
  exchange : Exchange
  threads : T → CStunSocketThread
  responses : List Response
  others : List CStunSocketThread.Datagram

namespace Session

variable {T : Type} [DecidableEq T]

/-- Before anything was sent. -/
def start (net : Network) (c : CStunClientLogic) : Session T where
  exchange := { client := c }
  threads _ := CStunSocketThread.initThreadBuffers { tsa := net.server.addressSet }
  responses := []
  others := []

/-- The client calls `GetNextMessage`, and sends the message that it gets. -/
def poll (rand : ℕ → UInt8) (stack : StunTransactionId) (spMsg : CBuffer)
    (timeCurrentMilliseconds : UInt32) (w : Session T) : Session T :=
  { w with exchange := w.exchange.poll rand stack spMsg timeCurrentMilliseconds }

/-- A thread receives a datagram, and sends the response if there is one. -/
def serve (D : Digests) (thread : T) (d : CStunSocketThread.Datagram) (w : Session T) : Session T :=
  let (response, t) := (w.threads thread).answer D none d
  { w with
    threads := Function.update w.threads thread t
    responses := w.responses ++ response.toList }

/-- A thread receives a datagram that is not the client's. -/
def serveOther (D : Digests) (thread : T) (d : CStunSocketThread.Datagram) (w : Session T) :
    Session T :=
  { w.serve D thread d with others := w.others ++ [d] }

/-- A thread receives an error. -/
def receiveFails (thread : T) (w : Session T) : Session T :=
  { w with threads := Function.update w.threads thread (w.threads thread).receiveFails }

/-- The client receives a response, and calls `ProcessResponse`. -/
def deliver (net : Network) (response : Response) (w : Session T) : Session T :=
  { w with
    exchange := w.exchange.receive ⟨response.2.2, net.server.addr response.1, net.addrLocal⟩ }

/-- What may happen. `owner` is the thread that reads the socket of a role. -/
inductive Step (D : Digests) (net : Network) (owner : SocketRole → T) (w : Session T) :
    Session T → Prop
  /-- The client calls `GetNextMessage`, at any time. -/
  | poll (rand : ℕ → UInt8) (stack : StunTransactionId) (spMsg : CBuffer)
      (timeCurrentMilliseconds : UInt32) :
      Step D net owner w (w.poll rand stack spMsg timeCurrentMilliseconds)
  /-- Something that the client has sent reaches the server, where it comes from the address that
  the NAT maps the client to. -/
  | request {request : Sent} {role : SocketRole} (sent : request ∈ w.exchange.sent)
      (dest : request.addrDest = net.server.addr role) (addrLocal : CSocketAddress) :
      Step D net owner w
        (w.serve D (owner role) ⟨request.octets, net.mapped request.addrDest, addrLocal, role⟩)
  /-- Something else reaches the server, from anywhere. -/
  | stranger (d : CStunSocketThread.Datagram) : Step D net owner w (w.serveOther D (owner d.role) d)
  /-- A thread fails to receive. -/
  | receiveFails (thread : T) : Step D net owner w (w.receiveFails thread)
  /-- Something that the server has sent reaches the client. -/
  | deliver {response : Response} (sent : response ∈ w.responses)
      (passes : net.PassesOn response.2.1) : Step D net owner w (w.deliver net response)

/-- What can become of a client that has been initialized and a server that has been started. -/
def Reachable (D : Digests) (net : Network) (owner : SocketRole → T)
    (config : StunClientLogicConfig) (w : Session T) : Prop :=
  ∃ c, initializeLogic config {} = .ok () c ∧
    Relation.ReflTransGen (Step D net owner) (start net c) w

/-- The transaction ids of others that the server sees at an IP address of the client. -/
def foreign (net : Network) (w : Session T) : Set StunTransactionId :=
  {id | ∃ d ∈ w.others,
    (∃ role, d.addrRemote.ip = (net.mapped (net.server.addr role)).ip) ∧ d.transid = id}

/-! ## It is a run with an honest server -/

/-- What every step keeps: a session is one of a client with an honest server, and whatever the NAT
would pass on is an honest answer, or has a transaction id of others. -/
structure Inv (net : Network) (config : StunClientLogicConfig) (foreign : Set StunTransactionId)
    (w : Session T) : Prop where
  threads : ∀ thread, Initialized net.server.addressSet (w.threads thread)
  exchange : Exchange.Reachable config (net.DeliversAmong foreign) w.exchange
  responses : ∀ response ∈ w.responses, net.PassesOn response.2.1 →
    (∃ request ∈ w.exchange.sent, net.Answers request response.2.2) ∨
      (readerOf response.2.2).transactionid ∈ foreign

variable {net : Network} {config : StunClientLogicConfig} {D : Digests} {owner : SocketRole → T}
  {w w' : Session T} {foreign : Set StunTransactionId}

omit [DecidableEq T] in
/-- The invariant holds at the start. -/
theorem inv_start {c : CStunClientLogic} (h : initializeLogic config {} = .ok () c) :
    Inv net config foreign (start net c : Session T) where
  threads _ := CStunSocketThread.initialized_initThreadBuffers { tsa := net.server.addressSet }
  exchange := .initialized h
  responses _ hmem := by cases hmem

/-- Serving a datagram writes what the thread becomes and its response. -/
theorem serve_eq (D : Digests) (thread : T) (d : CStunSocketThread.Datagram) (w : Session T) :
    w.serve D thread d = { w with
      threads := Function.update w.threads thread ((w.threads thread).answer D none d).2
      responses := w.responses ++ ((w.threads thread).answer D none d).1.toList } := by
  unfold serve
  cases (w.threads thread).answer D none d
  rfl

/-- A thread that serves a datagram keeps it, when what it sends and the NAT would pass on is an
answer. -/
theorem Inv.serve (h : Inv net config foreign w) {thread : T} {d : CStunSocketThread.Datagram}
    (hanswers : ∀ response, ((w.threads thread).answer D none d).1 = some response →
      net.PassesOn response.2.1 →
      (∃ request ∈ w.exchange.sent, net.Answers request response.2.2) ∨
        (readerOf response.2.2).transactionid ∈ foreign) :
    Inv net config foreign (w.serve D thread d) := by
  rw [serve_eq]
  refine ⟨fun thread' => ?_, h.exchange, fun response hmem hpasses => ?_⟩
  · dsimp only
    by_cases hthread : thread' = thread
    · rw [hthread, Function.update_self]
      exact ((h.threads thread).receive d).processRequestAndSendResponse D none
    · rw [Function.update_of_ne hthread]
      exact h.threads thread'
  · rcases List.mem_append.mp hmem with hold | hnew
    · exact h.responses response hold hpasses
    · exact hanswers response (Option.mem_toList.mp hnew) hpasses

/-- Every step keeps it, when the transaction ids of others are among those. -/
theorem Inv.step (h : Inv net config foreign w) (hadvertises : net.server.Advertises)
    (hstep : Step D net owner w w') (hforeign : w'.foreign net ⊆ foreign) :
    Inv net config foreign w' := by
  cases hstep with
  | poll rand stack spMsg time =>
    refine ⟨h.threads, h.exchange.poll rand stack spMsg time, fun response hmem hpasses => ?_⟩
    refine (h.responses response hmem hpasses).imp_left ?_
    rintro ⟨request, hrequest, hanswers⟩
    exact ⟨request, Exchange.mem_sent_poll hrequest, hanswers⟩
  | @request request role hsent hdest addrLocal =>
    -- The thread answers as the network expects it, whatever it has served before.
    obtain ⟨transid, change, hoctets⟩ := h.exchange.octets_sent hsent
    have htransid : (readerOf request.octets).transactionid = transid := by
      rw [hoctets]
      exact (reads_request transid change).transid
    obtain ⟨out, hanswer, hreads⟩ := (h.threads (owner role)).answer_request hadvertises D
      (d := ⟨request.octets, net.mapped request.addrDest, addrLocal, role⟩) hoctets
    refine h.serve fun response hresponse _ => .inl ⟨request, hsent, ?_⟩
    obtain rfl := Option.some.inj (hanswer.symm.trans hresponse)
    rw [← htransid] at hreads
    exact hreads.answers hdest
  | stranger d =>
    -- The response has the transaction id of this datagram, and the NAT passes it on only if the
    -- datagram came from an IP address of the client.
    have hserved : Inv net config foreign (w.serve D (owner d.role) d) := by
      refine h.serve fun response hresponse hpasses => .inr (hforeign ?_)
      obtain ⟨role, hrole⟩ := hpasses
      have hip := (h.threads (owner d.role)).ip_response hresponse
      rw [hrole] at hip
      exact ⟨d, List.mem_append_right _ (List.mem_singleton_self d), ⟨role, hip.symm⟩,
        ((h.threads (owner d.role)).transid_response hresponse).symm⟩
    unfold serveOther
    rw [serve_eq] at hserved ⊢
    exact ⟨hserved.threads, hserved.exchange, hserved.responses⟩
  | receiveFails thread =>
    refine ⟨fun thread' => ?_, h.exchange, h.responses⟩
    show Initialized _ (Function.update w.threads thread _ thread')
    by_cases hthread : thread' = thread
    · rw [hthread, Function.update_self]
      exact (h.threads thread).receiveFails
    · rw [Function.update_of_ne hthread]
      exact h.threads thread'
  | @deliver response hsent hpasses =>
    have hdelivers : net.DeliversAmong foreign w.exchange
        ⟨response.2.2, net.server.addr response.1, net.addrLocal⟩ :=
      (h.responses response hsent hpasses).imp_left fun hanswers => ⟨rfl, hanswers⟩
    exact ⟨h.threads, h.exchange.receive hdelivers, h.responses⟩

/-- What has come from others stays. -/
theorem Step.foreign_subset (hstep : Step D net owner w w') : w.foreign net ⊆ w'.foreign net := by
  rintro id ⟨d, hd, hrest⟩
  refine ⟨d, ?_, hrest⟩
  cases hstep with
  | stranger _ => exact List.mem_append_left _ hd
  | request =>
    rw [serve_eq]
    exact hd
  | _ => exact hd

/-- The invariant holds in every session. -/
theorem Reachable.inv (h : Reachable D net owner config w) (hadvertises : net.server.Advertises) :
    Inv net config (w.foreign net) w := by
  obtain ⟨c, hinit, hsteps⟩ := h
  suffices hall : ∀ foreign, w.foreign net ⊆ foreign → Inv net config foreign w from
    hall _ subset_rfl
  induction hsteps with
  | refl => exact fun _ _ => inv_start hinit
  | tail _ hstep ih =>
    exact fun foreign hforeign =>
      (ih foreign (hstep.foreign_subset.trans hforeign)).step hadvertises hstep hforeign

/-! ## What the client reports -/

/-- While a test was the current one the client has received something with the transaction id of a
request of the test. -/
def GotResponse (w : Session T) (i : ℕ) : Prop :=
  ∃ d ∈ w.exchange.received, d.test = i ∧ ∃ request ∈ w.exchange.sent, request.test = i ∧
    (readerOf d.octets).transactionid = (readerOf request.octets).transactionid

omit [DecidableEq T] in
/-- What the client has received with the transaction id of a request is an answer to it. -/
theorem Inv.answered (h : Inv net config foreign w) (hdistinct : DistinctTransids w.exchange.sent)
    (hunused : Unused w.exchange.sent foreign) {i : ℕ} (hgot : w.GotResponse i) :
    Answered net w.exchange.sent w.exchange.received i := by
  obtain ⟨d, hd, htest, request, hrequest, rfl, htransid⟩ := hgot
  obtain ⟨request', hrequest', hanswers⟩ := (h.exchange.answers_received hd).resolve_right
    fun hforeign => (hunused _ hforeign).2 request hrequest htransid.symm
  refine ⟨d, hd, htest, request', hrequest', ?_, hanswers⟩
  -- Requests of other tests have other transaction ids.
  by_contra hother
  exact hdistinct request' (List.mem_of_mem_take hrequest') request hrequest hother
    (hanswers.transid.symm.trans htransid)

/-- Whatever happens to the packets and whomever the server serves besides, if only those that it
sees at an IP address of the client have other transaction ids, the client reports what the network
is: the address that the server sees it at, whether there is a NAT, and how the NAT maps. A client
that has finished has classified the mapping when each test that has asked got a response while it
was the current one. -/
theorem results_right {behavior : NatBehavior} (hb : net.Behaves behavior)
    (hserver : config.addrServer = net.server.addr net.role) (hadvertises : net.server.Advertises)
    (h : Reachable D net owner config w) (hdistinct : DistinctTransids w.exchange.sent)
    (hunused : Unused w.exchange.sent (w.foreign net)) :
    let results := w.exchange.client.results
    (results.fBindingTestSuccess = true →
      results.addrMapped = net.mapped (net.server.addr net.role) ∧
        (results.fIsDirect = true ↔ net.addrLocal = net.mapped (net.server.addr net.role))) ∧
    (results.fBehaviorTestSuccess = true → results.behavior = behavior) ∧
    (config.fBehaviorTest = true → w.exchange.Finished →
      (∀ i < 3, Asked w.exchange.sent i → w.GotResponse i) →
      results.fBehaviorTestSuccess = true) := by
  have hinv := h.inv hadvertises
  obtain ⟨hist, hhistory, hagrees, hfinished⟩ :=
    (hinv.exchange.rests_among hb hserver hdistinct hunused).exists_history
  have hsound := hhistory.sound hb hserver
  refine ⟨fun hbinding => ⟨hsound.addrMapped hbinding, hsound.direct hbinding⟩,
    fun hsuccess => (hsound.behavior_eq hsuccess).symm, fun hconfig hf hgot => ?_⟩
  have hlen : 3 ≤ hist.length := by
    refine le_trans ?_ (hfinished hf)
    rw [StunClientLogicConfig.kinds_behavior hconfig, List.length_append]
    exact Nat.le_add_right 3 _
  -- None of the three tests has timed out.
  have hprogress := hhistory.progress hb hserver hconfig fun j hj hout => by
    obtain ⟨hskipped, hanswered⟩ := hagrees j .timedOut hout
    have hasked : Asked w.exchange.sent j := by
      by_contra hnot
      cases hskipped.mpr hnot
    cases hanswered.mpr (hinv.answered hdistinct hunused (hgot j hj hasked))
  obtain ⟨n, hn⟩ := Nat.exists_eq_add_of_le' hlen
  rw [hn] at hprogress
  exact hprogress

/-! ## A session behind a NAT -/

/-- Any digests: there is no message integrity. -/
def anyDigests : Digests := .constant (List.replicate 20 0) (List.replicate 16 0) 0 rfl rfl

/-- The server has got the last request of the client, on the socket of a role. -/
def serveLast (role : SocketRole) (w : Session Unit) : Session Unit :=
  w.exchange.sent.getLast?.elim w fun request =>
    w.serve anyDigests () ⟨request.octets, Exchange.conenat.mapped request.addrDest, .zero, role⟩

/-- The client has got the last response of the server. -/
def deliverLast (w : Session Unit) : Session Unit :=
  w.responses.getLast?.elim w fun response => w.deliver Exchange.conenat response

/-- A request of another client behind the same NAT, with RESPONSE-PORT 5000. -/
def neighborRequest : CStunSocketThread.Datagram where
  octets := [0, 1, 0, 8, 0x21, 0x12, 0xa4, 0x42] ++ List.replicate 12 9 ++
    [0, 0x27, 0, 2, 0x13, 0x88, 0, 0]
  addrRemote := CSocketAddress.ofHostByteOrder 0x07070707 6000
  addrLocal := .zero
  role := .rolePP

/-- The session after the server has got the request of the neighbor. -/
def serveNeighbor (w : Session Unit) : Session Unit := w.serveOther anyDigests () neighborRequest

/-- A call of `GetNextMessage` with a generator that gives `seed`. -/
def pollWith (seed : UInt8) (w : Session Unit) : Session Unit :=
  w.poll (fun _ => seed) StunTransactionId.zero (CBuffer.initWithAllocation 800) 0

/-- While the binding test waits for an answer, the client gets the response to its neighbor. -/
def neighborAnswered : Session Unit :=
  ((start Exchange.conenat (CStunClientLogic.initialized Exchange.behaviorConfig)).pollWith
    1).serveNeighbor.deliverLast

/-- A session in which the neighbor is answered first, the binding test then by one socket of the
server, and behavior test 2 by another one. -/
def twoAnswers : Session Unit :=
  ((neighborAnswered.serveLast .rolePP).deliverLast.pollWith 2).serveLast .roleAP
  |>.deliverLast.pollWith 3

/-- The thread that reads every socket. -/
def oneThread (_ : SocketRole) : Unit := ()

section Steps

variable {config : StunClientLogicConfig} {w : Session Unit}

/-- What reaches the server from the client is not from others. -/
@[simp] theorem others_serveLast (role : SocketRole) : (w.serveLast role).others = w.others := by
  unfold serveLast
  cases w.exchange.sent.getLast? with
  | none => rfl
  | some request => rw [Option.elim_some, serve_eq]

/-- What reaches the client leaves what the server has got as it is. -/
@[simp] theorem others_deliverLast : w.deliverLast.others = w.others := by
  unfold deliverLast
  cases w.responses.getLast? <;> rfl

/-- What the client sends leaves what the server has got as it is. -/
@[simp] theorem others_pollWith (seed : UInt8) : (w.pollWith seed).others = w.others := rfl

/-- What the neighbor has sent is from others. -/
@[simp] theorem others_serveNeighbor :
    w.serveNeighbor.others = w.others ++ [neighborRequest] := by
  unfold serveNeighbor serveOther
  rw [serve_eq]

/-- The server has got one request that is not the client's. -/
theorem others_twoAnswers : twoAnswers.others = [neighborRequest] := by
  simp only [twoAnswers, neighborAnswered, others_pollWith, others_deliverLast, others_serveLast,
    others_serveNeighbor]
  rfl

/-- One more step of a session behind this NAT can be reached. -/
theorem Reachable.step {w' : Session Unit}
    (h : Reachable anyDigests Exchange.conenat oneThread config w)
    (hstep : Step anyDigests Exchange.conenat oneThread w w') :
    Reachable anyDigests Exchange.conenat oneThread config w' := by
  obtain ⟨c, hinit, hsteps⟩ := h
  exact ⟨c, hinit, hsteps.tail hstep⟩

/-- The client has called `GetNextMessage`. -/
theorem Reachable.pollWith (h : Reachable anyDigests Exchange.conenat oneThread config w)
    (seed : UInt8) : Reachable anyDigests Exchange.conenat oneThread config (w.pollWith seed) :=
  h.step (.poll (fun _ => seed) StunTransactionId.zero (CBuffer.initWithAllocation 800) 0)

/-- The server has got the request of the neighbor. -/
theorem Reachable.serveNeighbor (h : Reachable anyDigests Exchange.conenat oneThread config w) :
    Reachable anyDigests Exchange.conenat oneThread config w.serveNeighbor :=
  h.step (.stranger neighborRequest)

/-- The server has got the last request. -/
theorem Reachable.serveLast (h : Reachable anyDigests Exchange.conenat oneThread config w)
    (role : SocketRole) (hdest : ∀ request ∈ w.exchange.sent.getLast?,
      request.addrDest = Exchange.conenat.server.addr role) :
    Reachable anyDigests Exchange.conenat oneThread config (w.serveLast role) := by
  unfold Session.serveLast
  cases hlast : w.exchange.sent.getLast? with
  | none => exact h
  | some request =>
    rw [Option.elim_some]
    exact h.step (.request (List.mem_of_getLast? hlast) (hdest _ hlast) .zero)

/-- The client has got the last response. -/
theorem Reachable.deliverLast (h : Reachable anyDigests Exchange.conenat oneThread config w)
    (hpasses : ∀ response ∈ w.responses.getLast?,
      response.2.1 = Exchange.conenat.mapped (Exchange.conenat.server.addr .rolePP)) :
    Reachable anyDigests Exchange.conenat oneThread config w.deliverLast := by
  unfold Session.deliverLast
  cases hlast : w.responses.getLast? with
  | none => exact h
  | some response => exact h.step (.deliver (List.mem_of_getLast? hlast) ⟨_, hpasses _ hlast⟩)

end Steps

/-- The run with two answers is a session. -/
theorem twoAnswers_reachable :
    Reachable anyDigests Exchange.conenat oneThread Exchange.behaviorConfig twoAnswers := by
  have h₀ : Reachable anyDigests Exchange.conenat oneThread Exchange.behaviorConfig
      (start Exchange.conenat (CStunClientLogic.initialized Exchange.behaviorConfig)) :=
    ⟨_, initializeLogic_eq_ok_iff.mpr ⟨by decide, by decide, rfl⟩, .refl⟩
  have hneighbor : Reachable anyDigests Exchange.conenat oneThread Exchange.behaviorConfig
      neighborAnswered :=
    (h₀.pollWith 1).serveNeighbor.deliverLast (by decide +kernel)
  have hbinding := (hneighbor.serveLast .rolePP (by decide +kernel)).deliverLast (by decide +kernel)
  have htest2 := ((hbinding.pollWith 2).serveLast .roleAP (by decide +kernel)).deliverLast
    (by decide +kernel)
  exact htest2.pollWith 3

/-- The neighbor's transaction id is not zero, and none of the client's. -/
theorem unused_twoAnswers :
    Unused twoAnswers.exchange.sent (twoAnswers.foreign Exchange.conenat) := by
  rintro id ⟨d, hd, -, rfl⟩
  rw [others_twoAnswers, List.mem_singleton] at hd
  subst hd
  exact ⟨by decide +kernel, by decide +kernel⟩

/-- The client's requests have transaction ids of their own. -/
theorem distinctTransids_twoAnswers : DistinctTransids twoAnswers.exchange.sent := by
  unfold DistinctTransids
  decide +kernel

/-- `results_right` for this session, in which the client has received three responses. -/
theorem results_right_twoAnswers :
    twoAnswers.exchange.received.length = 3 ∧
      twoAnswers.exchange.client.results.fBehaviorTestSuccess = true ∧
      twoAnswers.exchange.client.results.behavior = .endpointIndependentMapping := by
  have hadvertises : Exchange.conenat.server.Advertises := by
    intro role
    cases role <;> decide +kernel
  have hsuccess : twoAnswers.exchange.client.results.fBehaviorTestSuccess = true := by
    decide +kernel
  have hreceived : twoAnswers.exchange.received.length = 3 := by decide +kernel
  obtain ⟨-, hbehavior, -⟩ := results_right Exchange.conenat_behaves rfl hadvertises
    twoAnswers_reachable distinctTransids_twoAnswers unused_twoAnswers
  exact ⟨hreceived, hsuccess, hbehavior hsuccess⟩

end Session

end Stun
