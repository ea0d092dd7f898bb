import StunForAndroid.Server.UdpThreads
import StunForAndroid.StunCore.Fingerprint

/-!
# The UDP server at work

`WaitForSocketData`, `Run` and `SignalForStop` of `src/server/stunsocketthread.cpp`, for all threads
of a server at once. The system keeps a queue of datagrams for each socket. A thread waits for one
of its sockets to have something, takes the first datagram of the queue, and handles it; another
thread, the network and whoever stops the server may come between any two of these steps.

A thread with one socket waits in `recvfromex`, and one with more in `select`. The exit flag is
looked at where the code looks at it; between the last look and the response nothing else looks at
it, so that receiving and handling a datagram are one step here.
-/

namespace Stun

open CStunSocketThread Fallible

namespace CStunSocketThread

deriving instance DecidableEq for Datagram

end CStunSocketThread

/-! ## A thread -/

/-- Where a thread is in `Run`. -/
inductive Place
  /-- At the head of the loop. -/
  | head
  /-- In `select`. -/
  | waiting
  /-- Before `recvfromex`. -/
  | receiving (pSocket : SocketRole)
  /-- Out of the loop. -/
  | exited
deriving DecidableEq

/-- A thread of the server, with what `Run` works on. -/
structure ListeningThread extends OwningSocketThread where
  rotation : ℕ := 0
  fNeedToExit : Bool := false
  place : Place := .head

/-- What has become of a datagram that a thread has received. -/
inductive Fate
  /-- It was handled, with the answer of the provider, if there is a provider. -/
  | handled (verdict : Option (HRESULT × AuthResponse))
  /-- The thread was told to exit before. -/
  | dropped

/-- A datagram that a thread has received. -/
structure Served where
  datagram : CStunSocketThread.Datagram
  fate : Fate

namespace Served

/-- What a thread with new buffers sends for the datagram. -/
def response (D : Digests) (tsa : TransportAddressSet) (x : Served) :
    Option (SocketRole × CSocketAddress × List UInt8) :=
  match x.fate with
  | .handled verdict => responseTo D tsa x.datagram verdict
  | .dropped => none

/-- The datagram was dropped. -/
def isDropped (x : Served) : Bool :=
  match x.fate with
  | .handled _ => false
  | .dropped => true

end Served

/-- `WaitForSocketData`, of what `select` answers: the first socket from the one at `_rotation` on
that is ready. -/
def readySocket (socks : List SocketRole) (rotation : ℕ) (ready : SocketRole → Bool) :
    Option SocketRole :=
  (List.range socks.length).findSome? fun index =>
    (socks[(index + rotation) % socks.length]?).filter ready

namespace ListeningThread

/-- The thread with other buffers. -/
def withBuffers (u : CStunSocketThread) (t : ListeningThread) : ListeningThread :=
  { t with toOwningSocketThread := { t.toOwningSocketThread with toCStunSocketThread := u } }

/-- `fMultiSocketMode`. -/
def fMultiSocketMode (t : ListeningThread) : Bool := t.socks.length > 1

/-- The thread takes its next step, if it can: the thread then, the datagram that it has received,
if any, and what it sends. -/
def step (D : Digests) (pAuth : Option IStunAuth)
    (queue : SocketRole → List CStunSocketThread.Datagram) (t : ListeningThread) :
    ListeningThread × Option (Served × Option (SocketRole × CSocketAddress × List UInt8)) :=
  match t.place with
  | .exited => (t, none)
  | .head =>
    if t.fNeedToExit then ({ t with place := .exited }, none)
    else if t.fMultiSocketMode then
      -- `_rotation` gives another socket priority.
      ({ t with rotation := (t.rotation + 1) % t.socks.length, place := .waiting }, none)
    else ((t.socks[0]?).elim t fun pSocket => { t with place := .receiving pSocket }, none)
  | .waiting =>
    ((readySocket t.socks t.rotation fun role => (queue role).length > 0).elim t fun pSocket =>
      { t with place := if t.fNeedToExit then .exited else .receiving pSocket }, none)
  | .receiving pSocket =>
    match queue pSocket with
    | [] =>
      -- With `MSG_DONTWAIT` it is an error that there is nothing.
      if t.fMultiSocketMode then
        ({ t.withBuffers t.toCStunSocketThread.receiveFails with place := .head }, none)
      else (t, none)
    | d :: _ =>
      if t.fNeedToExit then
        ({ t.withBuffers (t.toCStunSocketThread.receive d) with place := .exited },
          some (⟨d, .dropped⟩, none))
      else
        let (response, u) := (t.toCStunSocketThread.receive d).processRequestAndSendResponse D pAuth
        ({ t.withBuffers u with place := .head },
          some (⟨d, .handled (pAuth.map (· (askedBy d)))⟩, response))

/-- `select` fails: the set is as it was before the call, so that the first socket from the one at
`_rotation` on is in it. -/
def selectFails (t : ListeningThread) : ListeningThread :=
  match t.place with
  | .waiting =>
    (readySocket t.socks t.rotation fun _ => true).elim t fun pSocket =>
      { t with place := if t.fNeedToExit then .exited else .receiving pSocket }
  | _ => t

/-- `recvfromex` fails for another reason. -/
def failsToReceive (t : ListeningThread) : ListeningThread :=
  match t.place with
  | .receiving _ => { t.withBuffers t.toCStunSocketThread.receiveFails with place := .head }
  | _ => t

end ListeningThread

/-! ## The server -/

/-- The threads, what the system has queued for the sockets, and what has happened. -/
structure UdpServerState where
  threads : List ListeningThread
  queue : SocketRole → List CStunSocketThread.Datagram := fun _ => []
  /-- What has ever been queued for a socket. -/
  arrived : SocketRole → List CStunSocketThread.Datagram := fun _ => []
  /-- The threads with what they have received, in the order in which they have. -/
  log : List (ℕ × Served) := []
  /-- What the threads have sent. -/
  sent : List (SocketRole × CSocketAddress × List UInt8) := []

/-- What may happen to a server. -/
inductive ServerAction
  /-- A datagram is queued for its socket. -/
  | arrive (d : CStunSocketThread.Datagram)
  /-- A thread takes its next step, with the provider then. -/
  | step (i : ℕ) (pAuth : Option IStunAuth)
  /-- `select` fails in a thread. -/
  | selectFails (i : ℕ)
  /-- A thread fails to receive. -/
  | fails (i : ℕ)
  /-- A thread is told to exit. -/
  | signalForStop (i : ℕ) (fPostMessages : Bool)

namespace UdpServerState

/-- A server whose threads have been started. -/
def start (server : CStunServer) : UdpServerState where
  threads := server.threads.map fun thread => { toOwningSocketThread := thread }

/-- A datagram arrives, and is queued at its socket. -/
def arrive (d : CStunSocketThread.Datagram) (st : UdpServerState) : UdpServerState :=
  { st with
    queue := Function.update st.queue d.role (st.queue d.role ++ [d])
    arrived := Function.update st.arrived d.role (st.arrived d.role ++ [d]) }

/-- The first datagram of a queue was received by a thread. -/
def received (i : ℕ) (x : Served) (response : Option (SocketRole × CSocketAddress × List UInt8))
    (st : UdpServerState) : UdpServerState :=
  { st with
    queue := Function.update st.queue x.datagram.role (st.queue x.datagram.role).tail
    log := st.log ++ [(i, x)]
    sent := st.sent ++ response.toList }

/-- The message that a socket sends to itself to wake its thread up. -/
def stopMessage (addrLocal : SocketRole → CSocketAddress) (role : SocketRole) :
    CStunSocketThread.Datagram :=
  ⟨[120], addrLocal role, addrLocal role, role⟩

/-- What an action does. `addrLocal` is where the sockets send to themselves. -/
def act (D : Digests) (addrLocal : SocketRole → CSocketAddress) (st : UdpServerState) :
    ServerAction → UdpServerState
  | .arrive d => st.arrive d
  | .step i pAuth =>
    (st.threads[i]?).elim st fun t =>
      let r := t.step D pAuth st.queue
      let st := { st with threads := st.threads.set i r.1 }
      r.2.elim st fun x => st.received i x.1 x.2
  | .selectFails i =>
    (st.threads[i]?).elim st fun t => { st with threads := st.threads.set i t.selectFails }
  | .fails i =>
    (st.threads[i]?).elim st fun t => { st with threads := st.threads.set i t.failsToReceive }
  | .signalForStop i fPostMessages =>
    (st.threads[i]?).elim st fun t =>
      let st := { st with threads := st.threads.set i { t with fNeedToExit := true } }
      if fPostMessages then
        (t.socks.map (stopMessage addrLocal)).foldl (fun st d => st.arrive d) st
      else st

/-- What the threads have received. -/
def served (st : UdpServerState) : List Served := st.log.map Prod.snd

/-- What the threads have received from a socket. -/
def receivedFrom (role : SocketRole) (st : UdpServerState) : List CStunSocketThread.Datagram :=
  (st.served.map Served.datagram).filter (·.role = role)

/-- How many datagrams a thread has dropped. -/
def drops (i : ℕ) (log : List (ℕ × Served)) : ℕ := log.countP fun x => x.1 = i ∧ x.2.isDropped

/-- One more datagram that a thread has received adds to the drops of that thread, if it was
dropped. -/
theorem drops_concat (i j : ℕ) (log : List (ℕ × Served)) (x : Served) :
    drops i (log ++ [(j, x)]) = drops i log + if j = i ∧ x.isDropped then 1 else 0 := by
  unfold drops
  rw [List.countP_append, List.countP_singleton]
  simp only [decide_eq_true_eq]

end UdpServerState

/-! ## What a step of a thread does -/

namespace ListeningThread

variable {tsa : TransportAddressSet} {D : Digests} {pAuth : Option IStunAuth}
  {queue : SocketRole → List CStunSocketThread.Datagram} {t : ListeningThread}

/-- What a step does: it receives nothing, or the first datagram of the queue of a socket, which it
handles, or drops when the thread is told to exit. -/
inductive Steps (D : Digests) (pAuth : Option IStunAuth)
    (queue : SocketRole → List CStunSocketThread.Datagram)
    (t : ListeningThread) :
    ListeningThread × Option (Served × Option (SocketRole × CSocketAddress × List UInt8)) → Prop
  /-- Nothing is received. -/
  | moves {t' : ListeningThread} (socks : t'.socks = t.socks)
      (flag : t'.fNeedToExit = t.fNeedToExit)
      (buffers : t'.toCStunSocketThread = t.toCStunSocketThread ∨
        t'.toCStunSocketThread = t.toCStunSocketThread.receiveFails)
      (exits : t'.place = .exited → t.fNeedToExit = true ∨ t.place = .exited)
      (stays : t.place = .exited → t'.place = .exited) : Steps D pAuth queue t (t', none)
  /-- A datagram is dropped. -/
  | drops {pSocket : SocketRole} {d : CStunSocketThread.Datagram}
      {rest : List CStunSocketThread.Datagram}
      (place : t.place = .receiving pSocket) (queued : queue pSocket = d :: rest)
      (flag : t.fNeedToExit = true) :
      Steps D pAuth queue t
        ({ t.withBuffers (t.toCStunSocketThread.receive d) with place := .exited },
          some (⟨d, .dropped⟩, none))
  /-- A datagram is handled. -/
  | handles {pSocket : SocketRole} {d : CStunSocketThread.Datagram}
      {rest : List CStunSocketThread.Datagram}
      (place : t.place = .receiving pSocket) (queued : queue pSocket = d :: rest)
      (flag : t.fNeedToExit = false) :
      Steps D pAuth queue t
        ({ t.withBuffers
            ((t.toCStunSocketThread.receive d).processRequestAndSendResponse D pAuth).2 with
            place := .head },
          some (⟨d, .handled (pAuth.map (· (askedBy d)))⟩,
            ((t.toCStunSocketThread.receive d).processRequestAndSendResponse D pAuth).1))

/-- The step of a thread is one of `Steps`. -/
theorem step_steps (D : Digests) (pAuth : Option IStunAuth)
    (queue : SocketRole → List CStunSocketThread.Datagram)
    (t : ListeningThread) : Steps D pAuth queue t (t.step D pAuth queue) := by
  -- The cases of the places are those of the code; a datagram is taken in `receiving` only.
  unfold step
  cases hplace : t.place with
  | exited => exact .moves rfl rfl (.inl rfl) (fun _ => .inr hplace) fun _ => hplace
  | head =>
    dsimp only
    split_ifs with hflag hmulti
    · exact .moves rfl rfl (.inl rfl) (fun _ => .inl hflag) fun _ => rfl
    · exact .moves rfl rfl (.inl rfl) (fun hexit => by cases hexit) fun hexit => by
        rw [hplace] at hexit
        cases hexit
    · cases t.socks[0]? with
      | none =>
        refine .moves rfl rfl (.inl rfl) (fun hexit => ?_) fun hexit => ?_
        · exact .inr hexit
        · exact hexit
      | some pSocket =>
        refine .moves rfl rfl (.inl rfl) (fun hexit => by cases hexit) fun hexit => ?_
        rw [hplace] at hexit
        cases hexit
  | waiting =>
    dsimp only
    cases readySocket t.socks t.rotation fun role => (queue role).length > 0 with
    | none => exact .moves rfl rfl (.inl rfl) (fun hexit => .inr hexit) fun hexit => hexit
    | some pSocket =>
      refine .moves rfl rfl (.inl rfl) (fun hexit => .inl ?_) fun hexit => ?_
      · by_contra hflag
        simp [hflag] at hexit
      · rw [hplace] at hexit
        cases hexit
  | receiving pSocket =>
    dsimp only
    cases hqueue : queue pSocket with
    | nil =>
      dsimp only
      split_ifs
      · refine .moves rfl rfl (.inr rfl) (fun hexit => by cases hexit) fun hexit => ?_
        rw [hplace] at hexit
        cases hexit
      · exact .moves rfl rfl (.inl rfl) (fun hexit => .inr hexit) fun hexit => hexit
    | cons d rest =>
      dsimp only
      split_ifs with hflag
      · exact .drops hplace hqueue hflag
      · rw [Bool.not_eq_true] at hflag
        exact .handles hplace hqueue hflag

/-- A step keeps what the buffers need to have. -/
theorem Steps.initialized
    {r : ListeningThread × Option (Served × Option (SocketRole × CSocketAddress × List UInt8))}
    (h : Steps D pAuth queue t r) (hi : Initialized tsa t.toCStunSocketThread) :
    Initialized tsa r.1.toCStunSocketThread := by
  cases h with
  | moves _ _ hbuffers _ _ =>
    rcases hbuffers with hsame | hfails
    · rw [hsame]
      exact hi
    · rw [hfails]
      exact hi.receiveFails
  | drops _ _ _ => exact hi.receive _
  | handles _ _ _ => exact (hi.receive _).processRequestAndSendResponse D pAuth

/-- What a step sends is what a thread with new buffers sends. -/
theorem Steps.response_eq {t' : ListeningThread} {x : Served}
    {response : Option (SocketRole × CSocketAddress × List UInt8)}
    (h : Steps D pAuth queue t (t', some (x, response)))
    (hi : Initialized tsa t.toCStunSocketThread) : response = x.response D tsa := by
  cases h with
  | drops _ _ _ => rfl
  | @handles _ d _ _ _ _ =>
    refine hi.response_same (initialized_initThreadBuffers { tsa := tsa }) D d ?_
    cases pAuth with
    | none => rfl
    | some pAuth => rfl

/-- A thread in which `select` fails keeps its sockets and its flag, and exits only when it was told
to. -/
theorem selectFails_frame (t : ListeningThread) :
    t.selectFails.toOwningSocketThread = t.toOwningSocketThread ∧
      t.selectFails.fNeedToExit = t.fNeedToExit ∧
      (t.selectFails.place = .exited → t.fNeedToExit = true ∨ t.place = .exited) ∧
      (t.place = .exited → t.selectFails.place = .exited) := by
  unfold selectFails
  cases hplace : t.place with
  | waiting =>
    dsimp only
    cases readySocket t.socks t.rotation fun _ => true with
    | none => exact ⟨rfl, rfl, fun hexit => .inr (hplace ▸ hexit), fun hno => by cases hno⟩
    | some pSocket =>
      refine ⟨rfl, rfl, fun hexit => .inl ?_, fun hno => by cases hno⟩
      by_contra hflag
      simp [hflag] at hexit
  | _ => simp [hplace]

/-- The thread is out of its loop. -/
def isExited (t : ListeningThread) : Bool := t.place = .exited

/-- A thread that fails to receive has not exited. -/
theorem isExited_failsToReceive (t : ListeningThread) : t.failsToReceive.isExited = t.isExited := by
  unfold failsToReceive isExited
  cases hplace : t.place with
  | receiving pSocket => rfl
  | _ => simp [hplace]

/-- A thread that fails to receive keeps its sockets and its flag, and is as before or as after the
error. -/
theorem failsToReceive_frame (t : ListeningThread) :
    t.failsToReceive.socks = t.socks ∧ t.failsToReceive.fNeedToExit = t.fNeedToExit ∧
      (t.failsToReceive.toCStunSocketThread = t.toCStunSocketThread ∨
        t.failsToReceive.toCStunSocketThread = t.toCStunSocketThread.receiveFails) := by
  unfold failsToReceive
  cases t.place with
  | receiving pSocket => exact ⟨rfl, rfl, .inr rfl⟩
  | _ => exact ⟨rfl, rfl, .inl rfl⟩

end ListeningThread

/-! ## Every run -/

namespace UdpServerState

open ListeningThread (isExited)

/-- What is so in every state. -/
structure Inv (D : Digests) (tsa : TransportAddressSet) (st : UdpServerState) : Prop where
  initialized : ∀ t ∈ st.threads, Initialized tsa t.toCStunSocketThread
  /-- The datagrams of a socket are received in their order, and each of them once. -/
  arrived_eq : ∀ role, st.arrived role = st.receivedFrom role ++ st.queue role
  queued : ∀ role, ∀ d ∈ st.queue role, d.role = role
  /-- What is sent for a datagram does not depend on anything that happened before. -/
  sent_eq : st.sent = st.served.filterMap (Served.response D tsa)
  exited : ∀ t ∈ st.threads, t.isExited = true → t.fNeedToExit = true
  /-- A thread drops a datagram only when it exits. -/
  dropped_le : ∀ i, drops i st.log ≤ (st.threads[i]?.any isExited).toNat

variable {D : Digests} {addrLocal : SocketRole → CSocketAddress} {tsa : TransportAddressSet}
  {st : UdpServerState}

/-- The arrival of a datagram keeps the invariant. -/
theorem Inv.arrive (h : Inv D tsa st) (d : CStunSocketThread.Datagram) :
    Inv D tsa (st.arrive d) where
  initialized := h.initialized
  arrived_eq role := by
    show Function.update st.arrived d.role (st.arrived d.role ++ [d]) role =
      st.receivedFrom role ++ Function.update st.queue d.role (st.queue d.role ++ [d]) role
    rw [Function.update_apply, Function.update_apply]
    split_ifs with heq
    · rw [heq, h.arrived_eq, List.append_assoc]
    · exact h.arrived_eq role
  queued role d' hd' := by
    have hd'' : d' ∈ Function.update st.queue d.role (st.queue d.role ++ [d]) role := hd'
    rw [Function.update_apply] at hd''
    split_ifs at hd'' with heq
    · rcases List.mem_append.mp hd'' with hold | hnew
      · exact (h.queued d.role d' hold).trans heq.symm
      · rw [List.mem_singleton.mp hnew, heq]
    · exact h.queued role d' hd''
  sent_eq := h.sent_eq
  exited := h.exited
  dropped_le := h.dropped_le

/-- The arrival of any number of datagrams keeps the invariant. -/
theorem Inv.arrives (h : Inv D tsa st) (ds : List CStunSocketThread.Datagram) :
    Inv D tsa (ds.foldl (fun st d => st.arrive d) st) := by
  induction ds generalizing st with
  | nil => exact h
  | cons d ds ih => exact ih (h.arrive d)

/-- The first datagram of a queue is received, by a thread that goes on or exits. -/
theorem Inv.received (h : Inv D tsa st) {i : ℕ} {x : Served}
    {response : Option (SocketRole × CSocketAddress × List UInt8)} {role : SocketRole}
    {rest : List CStunSocketThread.Datagram} (hqueue : st.queue role = x.datagram :: rest)
    (hresponse : response = x.response D tsa) {threads : List ListeningThread}
    (hinitialized : ∀ t ∈ threads, Initialized tsa t.toCStunSocketThread)
    (hexited : ∀ t ∈ threads, t.isExited = true → t.fNeedToExit = true)
    (hdropped : ∀ j, drops j (st.log ++ [(i, x)]) ≤ (threads[j]?.any isExited).toNat) :
    Inv D tsa (UdpServerState.received i x response { st with threads := threads }) where
  initialized := hinitialized
  arrived_eq role' := by
    have hrole : x.datagram.role = role := h.queued role _ (hqueue ▸ List.mem_cons_self)
    show st.arrived role' =
      (((st.log ++ [(i, x)]).map Prod.snd).map Served.datagram).filter (·.role = role') ++
        Function.update st.queue x.datagram.role (st.queue x.datagram.role).tail role'
    have hold : st.arrived role' =
        ((st.log.map Prod.snd).map Served.datagram).filter (·.role = role') ++ st.queue role' :=
      h.arrived_eq role'
    rw [hold, List.map_append, List.map_append, List.filter_append, Function.update_apply,
      List.map_singleton, List.map_singleton]
    by_cases heq : role' = role
    · -- It was the first one of the queue, and is the last one that was received.
      subst heq
      rw [if_pos hrole.symm, hrole, hqueue, List.filter_cons_of_pos (by simp [hrole]),
        List.filter_nil, List.tail_cons, List.append_assoc]
      rfl
    · have hne : ¬role' = x.datagram.role := hrole ▸ heq
      rw [if_neg hne, List.filter_cons_of_neg (by simpa using Ne.symm hne), List.filter_nil,
        List.append_nil]
  queued role' d' hd' := by
    have hd'' :
        d' ∈ Function.update st.queue x.datagram.role (st.queue x.datagram.role).tail role' :=
      hd'
    rw [Function.update_apply] at hd''
    split_ifs at hd'' with heq
    · exact (h.queued _ d' (List.mem_of_mem_tail hd'')).trans heq.symm
    · exact h.queued role' d' hd''
  sent_eq := by
    show st.sent ++ response.toList =
      ((st.log ++ [(i, x)]).map Prod.snd).filterMap (Served.response D tsa)
    rw [List.map_append, List.filterMap_append, h.sent_eq, hresponse]
    congr 1
  exited := hexited
  dropped_le := hdropped

/-- The invariant is kept when a thread that has received nothing new takes the place of one. -/
theorem Inv.set (h : Inv D tsa st) {i : ℕ} {t t' : ListeningThread} (ht : st.threads[i]? = some t)
    (hinitialized : Initialized tsa t'.toCStunSocketThread)
    (hexited : t'.isExited = true → t'.fNeedToExit = true)
    (hstays : t.isExited = true → t'.isExited = true) :
    Inv D tsa { st with threads := st.threads.set i t' } where
  initialized t'' ht'' := by
    rcases List.mem_or_eq_of_mem_set ht'' with hold | rfl
    · exact h.initialized t'' hold
    · exact hinitialized
  arrived_eq := h.arrived_eq
  queued := h.queued
  sent_eq := h.sent_eq
  exited t'' ht'' := by
    rcases List.mem_or_eq_of_mem_set ht'' with hold | rfl
    · exact h.exited t'' hold
    · exact hexited
  dropped_le j := by
    refine (h.dropped_le j).trans (Bool.toNat_le_toNat fun hexit => ?_)
    obtain ⟨hlt, -⟩ := List.getElem?_eq_some_iff.mp ht
    by_cases hij : i = j
    · subst hij
      rw [ht] at hexit
      rw [List.getElem?_set_self hlt]
      exact hstays hexit
    · rwa [List.getElem?_set_ne hij]

/-- A step of a thread keeps the invariant. -/
theorem Inv.step (h : Inv D tsa st) {i : ℕ} {t : ListeningThread} (ht : st.threads[i]? = some t)
    {pAuth : Option IStunAuth}
    {r : ListeningThread × Option (Served × Option (SocketRole × CSocketAddress × List UInt8))}
    (hstep : ListeningThread.Steps D pAuth st.queue t r) :
    Inv D tsa (r.2.elim { st with threads := st.threads.set i r.1 } fun x =>
      UdpServerState.received i x.1 x.2 { st with threads := st.threads.set i r.1 }) := by
  have hi := h.initialized t (List.mem_of_getElem? ht)
  have hexited := h.exited t (List.mem_of_getElem? ht)
  have hnew := hstep.initialized hi
  have hthreads : ∀ t' : ListeningThread, Initialized tsa t'.toCStunSocketThread →
      ∀ t'' ∈ st.threads.set i t', Initialized tsa t''.toCStunSocketThread := by
    intro t' ht' t'' ht''
    rcases List.mem_or_eq_of_mem_set ht'' with hold | rfl
    · exact h.initialized t'' hold
    · exact ht'
  have hflags : ∀ t' : ListeningThread, (t'.isExited = true → t'.fNeedToExit = true) →
      ∀ t'' ∈ st.threads.set i t', t''.isExited = true → t''.fNeedToExit = true := by
    intro t' ht' t'' ht''
    rcases List.mem_or_eq_of_mem_set ht'' with hold | rfl
    · exact h.exited t'' hold
    · exact ht'
  obtain ⟨hlt, hget⟩ := List.getElem?_eq_some_iff.mp ht
  -- A thread that receives has not exited before, and so it has not dropped anything.
  have hcount : ∀ {pSocket : SocketRole} (t' : ListeningThread) (x : Served),
      t.place = .receiving pSocket → (x.isDropped = true → t'.isExited = true) →
      ∀ j, drops j (st.log ++ [(i, x)]) ≤ ((st.threads.set i t')[j]?.any isExited).toNat := by
    intro pSocket t' x hplace hdrops j
    rw [drops_concat]
    have hold := h.dropped_le j
    by_cases hij : i = j
    · subst hij
      have hrunning : (st.threads[i]?.any isExited).toNat = 0 := by
        rw [ht]
        simp [isExited, hplace]
      rw [hrunning] at hold
      rw [Nat.le_zero.mp hold, List.getElem?_set_self hlt, Nat.zero_add]
      split_ifs with hx
      · rw [Option.any_some, hdrops hx.2]
        rfl
      · exact Nat.zero_le _
    · rw [if_neg fun hx => hij hx.1, Nat.add_zero, List.getElem?_set_ne hij]
      exact hold
  cases hstep with
  | moves hsocks hflag hbuffers hexits hstays =>
    refine h.set ht hnew (fun hexit => ?_) fun hexit => ?_
    · rcases hexits (by simpa [isExited] using hexit) with htold | hbefore
      · rw [hflag, htold]
      · rw [hflag, hexited (by simp [isExited, hbefore])]
    · have hbefore : t.place = .exited := by simpa [isExited] using hexit
      simp [isExited, hstays hbefore]
  | drops hplace hqueue hflag =>
    exact h.received hqueue rfl (hthreads _ hnew) (hflags _ fun _ => hflag)
      (hcount _ _ hplace fun _ => rfl)
  | handles hplace hqueue hflag =>
    refine h.received hqueue (ListeningThread.Steps.response_eq (.handles hplace hqueue hflag) hi)
      (hthreads _ hnew) (hflags _ fun hexit => ?_) (hcount _ _ hplace nofun)
    simp [isExited] at hexit

/-- Any action keeps the invariant. -/
theorem Inv.act (h : Inv D tsa st) (action : ServerAction) :
    Inv D tsa (st.act D addrLocal action) := by
  -- Every action writes one thread at most, and a step of a thread is one of `Steps`.
  cases action with
  | arrive d => exact h.arrive d
  | step i pAuth =>
    unfold UdpServerState.act
    dsimp only
    cases ht : st.threads[i]? with
    | none => exact h
    | some t => exact h.step ht (t.step_steps D pAuth st.queue)
  | selectFails i =>
    unfold UdpServerState.act
    dsimp only
    cases ht : st.threads[i]? with
    | none => exact h
    | some t =>
      have hmem := List.mem_of_getElem? ht
      obtain ⟨hthread, hflag, hexits, hstays⟩ := t.selectFails_frame
      refine h.set ht ?_ (fun hexit => ?_) fun hexit => ?_
      · rw [hthread]
        exact h.initialized t hmem
      · rw [hflag]
        exact (hexits (of_decide_eq_true hexit)).elim id fun hexited =>
          h.exited t hmem (decide_eq_true hexited)
      · exact decide_eq_true (hstays (of_decide_eq_true hexit))
  | fails i =>
    unfold UdpServerState.act
    dsimp only
    cases ht : st.threads[i]? with
    | none => exact h
    | some t =>
      obtain ⟨-, hflag, hbuffers⟩ := t.failsToReceive_frame
      have hi := h.initialized t (List.mem_of_getElem? ht)
      refine h.set ht ?_ (fun hexit => ?_) fun hexit => ?_
      · rcases hbuffers with hsame | hfails
        · rw [hsame]
          exact hi
        · rw [hfails]
          exact hi.receiveFails
      · rw [hflag]
        exact h.exited t (List.mem_of_getElem? ht) (t.isExited_failsToReceive ▸ hexit)
      · rw [t.isExited_failsToReceive, hexit]
  | signalForStop i fPostMessages =>
    unfold UdpServerState.act
    dsimp only
    cases ht : st.threads[i]? with
    | none => exact h
    | some t =>
      have htold :
          Inv D tsa { st with threads := st.threads.set i { t with fNeedToExit := true } } :=
        h.set ht (h.initialized t (List.mem_of_getElem? ht)) (fun _ => rfl) fun hexit => hexit
      dsimp only [Option.elim_some]
      split_ifs
      · exact htold.arrives _
      · exact htold

/-- The state after some actions. -/
def run (D : Digests) (addrLocal : SocketRole → CSocketAddress) (server : CStunServer)
    (actions : List ServerAction) : UdpServerState :=
  actions.foldl (act D addrLocal) (start server)

/-- The invariant holds in every state of every run. -/
theorem inv_run {server : CStunServer}
    (h : ∀ thread ∈ server.threads, Initialized tsa thread.toCStunSocketThread)
    (actions : List ServerAction) : Inv D tsa (run D addrLocal server actions) := by
  have hstart : Inv D tsa (start server) := {
    initialized := by
      intro t ht
      obtain ⟨thread, hthread, rfl⟩ := List.mem_map.mp ht
      exact h thread hthread
    arrived_eq := fun _ => rfl
    queued := fun _ _ hd => absurd hd List.not_mem_nil
    sent_eq := rfl
    exited := by
      intro t ht hexit
      obtain ⟨thread, -, rfl⟩ := List.mem_map.mp ht
      simp [isExited] at hexit
    dropped_le := fun _ => Nat.zero_le _ }
  unfold run
  generalize start server = st at hstart
  induction actions generalizing st with
  | nil => exact hstart
  | cons action actions ih => exact ih _ (hstart.act action)

/-- In every run of a server that was initialized: the datagrams that have arrived at a socket are
those that a thread has received, in their order and each once, and those that are still queued.
What was sent is, datagram by datagram, what a thread with new buffers sends with the address set of
the configuration. A datagram is dropped only by a thread that exits, which drops no other one, and
only a thread that was told to exit does so. -/
theorem served_alone {config : CStunServerConfig} {a : SocketAnswers} {provider : ObjId}
    {server₀ server : CStunServer} {objects₀ objects : Objects}
    (hinit : CStunServer.initialize_ config a provider (server₀, objects₀) =
      .ok () (server, objects))
    (D : Digests) (addrLocal : SocketRole → CSocketAddress) (actions : List ServerAction) :
    let st := run D addrLocal server actions
    (∀ role, st.arrived role = st.receivedFrom role ++ st.queue role) ∧
      st.sent = st.served.filterMap (Served.response D (CTCPServer.tsaHandler config)) ∧
      (∀ i, drops i st.log ≤ (st.threads[i]?.any isExited).toNat) ∧
      ∀ t ∈ st.threads, t.isExited = true → t.fNeedToExit = true := by
  intro st
  have hinv : Inv D (CTCPServer.tsaHandler config) st :=
    inv_run (CStunServer.initialize_listens hinit).2.2 actions
  exact ⟨hinv.arrived_eq, hinv.sent_eq, hinv.dropped_le, hinv.exited⟩

/-- Two sockets. -/
def twoSockets : CStunServerConfig where
  fHasPP := true
  fHasPA := true
  addrPP := CSocketAddress.ofHostByteOrder 0x01010101 3478
  addrPA := CSocketAddress.ofHostByteOrder 0x01010101 3479

/-- A server of the configuration in one of the modes, and the provider. -/
def twoSocketsServer (fMultiThreadedMode : Bool) : CStunServer × Objects :=
  finalState (CStunServer.initialize_ { twoSockets with fMultiThreadedMode := fMultiThreadedMode }
    ⟨fun _ => S_OK, fun _ => S_OK⟩ 0) ({}, fun _ => {})

/-- A binding request that arrives at the first socket. -/
def bindingRequest : CStunSocketThread.Datagram where
  octets := [0, 1, 0, 0, 0x21, 0x12, 0xA4, 0x42, 1, 2, 3, 4, 5, 6, 7, 8, 9, 10, 11, 12]
  addrRemote := CSocketAddress.ofHostByteOrder 0x02020202 5000
  addrLocal := CSocketAddress.ofHostByteOrder 0x01010101 3478
  role := .rolePP

/-- `served_alone` for a request that is handled by a server that is stopped. -/
theorem served_alone_twoSockets :
    let st := run CStunMessageReader.crcDigests (fun _ => .zero) (twoSocketsServer false).1
      [.arrive bindingRequest, .step 0 none, .step 0 none, .step 0 none, .signalForStop 0 true,
        .step 0 none]
    (∀ role, st.arrived role = st.receivedFrom role ++ st.queue role) ∧
      st.sent = st.served.filterMap (Served.response CStunMessageReader.crcDigests
        (CTCPServer.tsaHandler { twoSockets with fMultiThreadedMode := false })) ∧
      (∀ i, drops i st.log ≤ (st.threads[i]?.any isExited).toNat) ∧
      ∀ t ∈ st.threads, t.isExited = true → t.fNeedToExit = true := by
  have hinit : CStunServer.initialize_ { twoSockets with fMultiThreadedMode := false }
      ⟨fun _ => S_OK, fun _ => S_OK⟩ 0 ({}, fun _ => {}) =
        .ok () ((twoSocketsServer false).1, (twoSocketsServer false).2) := rfl
  exact served_alone hinit CStunMessageReader.crcDigests (fun _ => .zero) _

end UdpServerState

/-! ## Single threaded and multi-threaded mode -/

/-- Lists with the same elements of every kind, in the same order, have the same elements. -/
theorem perm_of_filter_eq {α κ : Type} [DecidableEq κ] (kind : α → κ) {l l' : List α}
    (h : ∀ k, l.filter (kind · = k) = l'.filter (kind · = k)) : l.Perm l' := by
  classical
  refine List.perm_iff_count.mpr fun x => ?_
  calc l.count x = (l.filter (kind · = kind x)).count x :=
        (List.count_filter (by simp)).symm
    _ = (l'.filter (kind · = kind x)).count x := by rw [h]
    _ = l'.count x := List.count_filter (by simp)

/-- Nobody tells a thread to exit, and the provider is the same throughout. -/
def ServerAction.Steady (pAuth : Option IStunAuth) : ServerAction → Prop
  | .arrive _ => True
  | .step _ pAuth' => pAuth' = pAuth
  | .selectFails _ => True
  | .fails _ => True
  | .signalForStop _ _ => False

namespace UdpServerState

/-- The datagram was handled, with that provider. -/
def handledBy (pAuth : Option IStunAuth) (d : CStunSocketThread.Datagram) : Served :=
  ⟨d, .handled (pAuth.map (· (askedBy d)))⟩

/-- No thread was told to exit, and all datagrams were handled, with that provider. -/
structure Steady (pAuth : Option IStunAuth) (st : UdpServerState) : Prop where
  flags : ∀ t ∈ st.threads, t.fNeedToExit = false
  handled : ∀ x ∈ st.served, x = handledBy pAuth x.datagram

variable {D : Digests} {addrLocal : SocketRole → CSocketAddress} {pAuth : Option IStunAuth}
  {st : UdpServerState}

/-- The server stays steady when a thread that was not told to exit takes the place of one. -/
theorem Steady.set (h : Steady pAuth st) (i : ℕ) {t' : ListeningThread}
    (ht' : t'.fNeedToExit = false) : Steady pAuth { st with threads := st.threads.set i t' } where
  flags t ht := by
    rcases List.mem_or_eq_of_mem_set ht with hold | rfl
    · exact h.flags t hold
    · exact ht'
  handled := h.handled

/-- A steady action keeps the server steady. -/
theorem Steady.act (h : Steady pAuth st) {action : ServerAction} (haction : action.Steady pAuth) :
    Steady pAuth (st.act D addrLocal action) := by
  cases action with
  | arrive d => exact ⟨h.flags, h.handled⟩
  | signalForStop i fPostMessages => exact haction.elim
  | selectFails i =>
    unfold UdpServerState.act
    dsimp only
    cases ht : st.threads[i]? with
    | none => exact h
    | some t =>
      refine h.set i ?_
      rw [t.selectFails_frame.2.1]
      exact h.flags t (List.mem_of_getElem? ht)
  | fails i =>
    unfold UdpServerState.act
    dsimp only
    cases ht : st.threads[i]? with
    | none => exact h
    | some t =>
      refine h.set i ?_
      rw [t.failsToReceive_frame.2.1]
      exact h.flags t (List.mem_of_getElem? ht)
  | step i pAuth' =>
    -- The provider of the step is the one that all steps have.
    obtain rfl : pAuth' = pAuth := haction
    unfold UdpServerState.act
    dsimp only
    cases ht : st.threads[i]? with
    | none => exact h
    | some t =>
      have hflag := h.flags t (List.mem_of_getElem? ht)
      have hstep := t.step_steps D pAuth' st.queue
      dsimp only [Option.elim_some]
      generalize t.step D pAuth' st.queue = r at hstep
      cases hstep with
      | moves _ hsame _ _ _ => exact h.set i (hsame.trans hflag)
      -- No thread was told to exit, so none drops a datagram.
      | drops _ _ htold => exact absurd htold (by simp [hflag])
      | @handles _ d _ _ _ _ =>
        refine ⟨fun t' ht' => ?_, fun x hx => ?_⟩
        · rcases List.mem_or_eq_of_mem_set ht' with hold | rfl
          · exact h.flags t' hold
          · exact hflag
        · have hmem : x ∈ (st.log ++ [(i, handledBy pAuth' d)]).map Prod.snd := hx
          rw [List.map_append] at hmem
          rcases List.mem_append.mp hmem with hold | hnew
          · exact h.handled x hold
          · rw [List.mem_singleton.mp hnew]
            rfl

/-- A steady run leaves the server steady. -/
theorem steady_run {server : CStunServer} {actions : List ServerAction}
    (h : ∀ action ∈ actions, action.Steady pAuth) :
    Steady pAuth (run D addrLocal server actions) := by
  have hstart : Steady pAuth (start server) := by
    refine ⟨fun t ht => ?_, fun x hx => absurd hx List.not_mem_nil⟩
    obtain ⟨thread, -, rfl⟩ := List.mem_map.mp ht
    rfl
  unfold run
  generalize start server = st at hstart
  induction actions generalizing st with
  | nil => exact hstart
  | cons action actions ih =>
    exact ih (fun action' hmem => h action' (List.mem_cons_of_mem _ hmem)) _
      (hstart.act (h action List.mem_cons_self))

/-- What was handled is what was received. -/
theorem Steady.served_eq (h : Steady pAuth st) :
    st.served = (st.served.map Served.datagram).map (handledBy pAuth) := by
  rw [List.map_map]
  conv_lhs => rw [← List.map_id st.served]
  exact List.map_congr_left h.handled

/-- A server in single threaded mode and one in multi-threaded mode, with the same configuration
otherwise, that have handled all that has arrived, and the same at each socket: they have sent the
same responses, up to their order. -/
theorem modes_agree {config : CStunServerConfig} {a a' : SocketAnswers} {provider provider' : ObjId}
    {server₀ server server₀' server' : CStunServer} {objects₀ objects objects₀' objects' : Objects}
    (hsingle : CStunServer.initialize_ { config with fMultiThreadedMode := false } a provider
      (server₀, objects₀) = .ok () (server, objects))
    (hmulti : CStunServer.initialize_ { config with fMultiThreadedMode := true } a' provider'
      (server₀', objects₀') = .ok () (server', objects'))
    {D : Digests} {addrLocal : SocketRole → CSocketAddress} {pAuth : Option IStunAuth}
    {actions actions' : List ServerAction} (hsteady : ∀ action ∈ actions, action.Steady pAuth)
    (hsteady' : ∀ action ∈ actions', action.Steady pAuth)
    (hdone : ∀ role, (run D addrLocal server actions).queue role = [])
    (hdone' : ∀ role, (run D addrLocal server' actions').queue role = [])
    (harrived : ∀ role, (run D addrLocal server actions).arrived role =
      (run D addrLocal server' actions').arrived role) :
    (run D addrLocal server actions).sent.Perm (run D addrLocal server' actions').sent := by
  have hinv : Inv D (CTCPServer.tsaHandler { config with fMultiThreadedMode := false })
      (run D addrLocal server actions) :=
    inv_run (CStunServer.initialize_listens hsingle).2.2 actions
  have hinv' : Inv D (CTCPServer.tsaHandler { config with fMultiThreadedMode := true })
      (run D addrLocal server' actions') :=
    inv_run (CStunServer.initialize_listens hmulti).2.2 actions'
  -- Both have received the same at each socket, in whatever order over all of them.
  have hreceived : ((run D addrLocal server actions).served.map Served.datagram).Perm
      ((run D addrLocal server' actions').served.map Served.datagram) := by
    refine perm_of_filter_eq CStunSocketThread.Datagram.role fun role => ?_
    have hall := hinv.arrived_eq role
    have hall' := hinv'.arrived_eq role
    rw [hdone role, List.append_nil] at hall
    rw [hdone' role, List.append_nil] at hall'
    exact hall.symm.trans ((harrived role).trans hall')
  -- The order is all that the responses depend on.
  have hrun : Steady pAuth (run D addrLocal server actions) := steady_run hsteady
  have hrun' : Steady pAuth (run D addrLocal server' actions') := steady_run hsteady'
  rw [hinv.sent_eq, hinv'.sent_eq, hrun.served_eq, hrun'.served_eq]
  exact (hreceived.map (handledBy pAuth)).filterMap _

/-- A binding request that arrives at the second socket. -/
def otherRequest : CStunSocketThread.Datagram where
  octets := [0, 1, 0, 0, 0x21, 0x12, 0xA4, 0x42, 12, 11, 10, 9, 8, 7, 6, 5, 4, 3, 2, 1]
  addrRemote := CSocketAddress.ofHostByteOrder 0x03030303 5000
  addrLocal := CSocketAddress.ofHostByteOrder 0x01010101 3479
  role := .rolePA

/-- A request for each socket and the steps that handle both, in either mode. The thread of both
sockets begins with the second one. -/
def bindingActions (fMultiThreadedMode : Bool) : List ServerAction :=
  [.arrive bindingRequest, .arrive otherRequest] ++
    if fMultiThreadedMode then [.step 0 none, .step 0 none, .step 1 none, .step 1 none]
    else List.replicate 6 (.step 0 none)

/-- The server after them. -/
def bindingRun (fMultiThreadedMode : Bool) : UdpServerState :=
  run CStunMessageReader.crcDigests (fun _ => .zero) (twoSocketsServer fMultiThreadedMode).1
    (bindingActions fMultiThreadedMode)

/-- At the end of the run nothing is queued any more. -/
theorem queue_bindingRun (fMultiThreadedMode : Bool) (role : SocketRole) :
    (bindingRun fMultiThreadedMode).queue role = [] := by
  cases fMultiThreadedMode <;> cases role <;> decide +kernel

/-- In both modes the same datagrams have arrived in the run. -/
theorem arrived_bindingRun (role : SocketRole) :
    (bindingRun false).arrived role = (bindingRun true).arrived role := by
  cases role <;> decide +kernel

/-- `modes_agree` for a request to each of two sockets: both are handled in both modes, and in a
different order. -/
theorem modes_agree_twoSockets :
    (bindingRun false).sent.map Prod.fst = [.rolePA, .rolePP] ∧
      (bindingRun true).sent.map Prod.fst = [.rolePP, .rolePA] ∧
      (bindingRun false).sent.Perm (bindingRun true).sent := by
  have hsingle : CStunServer.initialize_ { twoSockets with fMultiThreadedMode := false }
      ⟨fun _ => S_OK, fun _ => S_OK⟩ 0 ({}, fun _ => {}) =
        .ok () ((twoSocketsServer false).1, (twoSocketsServer false).2) := rfl
  have hmulti : CStunServer.initialize_ { twoSockets with fMultiThreadedMode := true }
      ⟨fun _ => S_OK, fun _ => S_OK⟩ 0 ({}, fun _ => {}) =
        .ok () ((twoSocketsServer true).1, (twoSocketsServer true).2) := rfl
  have hsteady : ∀ fMultiThreadedMode, ∀ action ∈ bindingActions fMultiThreadedMode,
      action.Steady none := by
    intro fMultiThreadedMode
    cases fMultiThreadedMode <;> simp [bindingActions, ServerAction.Steady, List.replicate]
  have hdone := queue_bindingRun false
  have hdone' := queue_bindingRun true
  have harrived := arrived_bindingRun
  refine ⟨by decide +kernel, by decide +kernel, ?_⟩
  unfold bindingRun at hdone hdone' harrived ⊢
  exact modes_agree hsingle hmulti (hsteady false) (hsteady true) hdone hdone' harrived

end UdpServerState

end Stun
