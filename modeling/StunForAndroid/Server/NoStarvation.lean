import StunForAndroid.Lib.Fairness
import StunForAndroid.Server.Listening

/-!
# No datagram waits forever

A thread with more than one socket takes the first socket that has something, from the one at
`_rotation` on, and `_rotation` goes on by one each time. So a socket that has something is taken
within as many rounds as the thread has sockets: `turnsLeft` says how many rounds are left, and each
round leaves one less (`not_waiting`). A datagram that has arrived is therefore received some time,
in either mode, however many datagrams arrive at the other sockets (`eventually_served`).
-/

namespace Stun

open Filter Fairness CStunSocketThread

/-! ## The choice of a socket -/

section Choice

variable {socks : List SocketRole} {rotation : ℕ} {ready : SocketRole → Bool} {role : SocketRole}

/-- What is chosen is one of the sockets. -/
theorem mem_of_readySocket {pSocket : SocketRole}
    (h : readySocket socks rotation ready = some pSocket) : pSocket ∈ socks := by
  unfold readySocket at h
  obtain ⟨index, -, hindex⟩ := List.exists_of_findSome?_eq_some h
  exact List.mem_of_getElem? (Option.filter_eq_some_iff.mp hindex).1

/-- When a socket is ready, one is chosen. -/
theorem exists_readySocket (ready : SocketRole → Bool) (hrotation : rotation < socks.length)
    (hmem : role ∈ socks) (hready : ready role = true) :
    ∃ pSocket, readySocket socks rotation ready = some pSocket := by
  obtain ⟨j, hj, rfl⟩ := List.mem_iff_getElem.mp hmem
  rw [← Option.isSome_iff_exists]
  unfold readySocket
  rw [List.isSome_findSome?, List.any_eq_true]
  -- The socket is as far from the one at `rotation` as this.
  refine ⟨if rotation ≤ j then j - rotation else j + socks.length - rotation, ?_, ?_⟩
  · rw [List.mem_range]
    split_ifs <;> omega
  · have hindex :
        ((if rotation ≤ j then j - rotation else j + socks.length - rotation) + rotation) %
        socks.length = j := by
      split_ifs with hle
      · rw [Nat.sub_add_cancel hle, Nat.mod_eq_of_lt hj]
      · rw [Nat.sub_add_cancel (by omega), Nat.add_mod_right, Nat.mod_eq_of_lt hj]
    rw [hindex, List.getElem?_eq_getElem hj]
    simp [Option.filter, hready]

/-- The socket at `rotation` is chosen when it is ready. -/
theorem readySocket_of_getElem? (ready : SocketRole → Bool) (hrole : socks[rotation]? = some role)
    (hready : ready role = true) : readySocket socks rotation ready = some role := by
  obtain ⟨hlt, -⟩ := List.getElem?_eq_some_iff.mp hrole
  obtain ⟨n, hn⟩ := Nat.exists_eq_succ_of_ne_zero (Nat.ne_of_gt (Nat.zero_lt_of_lt hlt))
  unfold readySocket
  rw [hn, List.range_succ_eq_map, List.findSome?_cons, ← hn, Nat.zero_add,
    Nat.mod_eq_of_lt hlt, hrole]
  simp [Option.filter, hready]

end Choice

/-- The rounds that are left until the socket at an index is the first one. -/
def turnsLeft (index rotation count : ℕ) : ℕ :=
  if rotation ≤ index then index - rotation else index + count - rotation

/-- A round leaves one turn less. -/
theorem turnsLeft_succ {index rotation count : ℕ} (hindex : index < count)
    (hrotation : rotation < count) (hne : turnsLeft index rotation count ≠ 0) :
    turnsLeft index ((rotation + 1) % count) count + 1 = turnsLeft index rotation count := by
  have hnext : (rotation + 1) % count = if rotation + 1 = count then 0 else rotation + 1 := by
    split_ifs with hlast
    · rw [hlast, Nat.mod_self]
    · exact Nat.mod_eq_of_lt (by omega)
  unfold turnsLeft at hne ⊢
  rw [hnext]
  split_ifs at hne ⊢ <;> omega

/-! ## A thread that was not told to exit -/

namespace ListeningThread

/-- The thread listens on these sockets, and goes on. -/
structure Listens (socks : List SocketRole) (t : ListeningThread) : Prop where
  socks_eq : t.socks = socks
  flag : t.fNeedToExit = false
  running : t.place ≠ .exited
  rotation_lt : t.place = .waiting → t.rotation < socks.length
  mem : ∀ pSocket, t.place = .receiving pSocket → pSocket ∈ socks

variable {socks : List SocketRole} {t : ListeningThread} {D : Digests} {pAuth : Option IStunAuth}
  {queue : SocketRole → List CStunSocketThread.Datagram}

/-- A thread with several sockets moves its rotation on and waits in `select` next. -/
theorem Listens.step_head (h : Listens socks t) (hplace : t.place = .head)
    (hmulti : 1 < socks.length) :
    t.step D pAuth queue =
      ({ t with rotation := (t.rotation + 1) % socks.length, place := .waiting }, none) := by
  unfold step fMultiSocketMode
  rw [hplace, h.flag, h.socks_eq]
  simp [hmulti]

/-- A thread with one socket receives from it next. -/
theorem Listens.step_head_single {role : SocketRole} (h : Listens [role] t)
    (hplace : t.place = .head) :
    t.step D pAuth queue = ({ t with place := .receiving role }, none) := by
  unfold step fMultiSocketMode
  rw [hplace, h.flag, h.socks_eq]
  simp

/-- A thread that waits in `select` receives next from the first ready socket from the one at
`_rotation` on. -/
theorem Listens.step_waiting (h : Listens socks t) (hplace : t.place = .waiting)
    {pSocket : SocketRole}
    (hready : readySocket socks t.rotation (fun role => (queue role).length > 0) = some pSocket) :
    t.step D pAuth queue = ({ t with place := .receiving pSocket }, none) := by
  unfold step
  rw [hplace, h.flag, h.socks_eq]
  simp only [hready]
  simp

/-- The next step before `recvfromex`, when there is a datagram. -/
theorem Listens.step_receiving (h : Listens socks t) (D : Digests) (pAuth : Option IStunAuth)
    {queue : SocketRole → List CStunSocketThread.Datagram} {pSocket : SocketRole}
    (hplace : t.place = .receiving pSocket) {d : CStunSocketThread.Datagram}
    {rest : List CStunSocketThread.Datagram}
    (hqueue : queue pSocket = d :: rest) :
    ∃ u response, t.step D pAuth queue = ({ t.withBuffers u with place := .head },
      some (⟨d, .handled (pAuth.map (· (askedBy d)))⟩, response)) := by
  unfold step
  rw [hplace, h.flag]
  simp only [hqueue]
  exact ⟨_, _, rfl⟩

/-- The next step before `recvfromex`, with more than one socket, leads to the head of the loop. -/
theorem Listens.place_receiving (h : Listens socks t) {pSocket : SocketRole}
    (hplace : t.place = .receiving pSocket) (hmulti : 1 < socks.length) (D : Digests)
    (pAuth : Option IStunAuth) (queue : SocketRole → List CStunSocketThread.Datagram) :
    (t.step D pAuth queue).1.place = .head ∧
      (t.step D pAuth queue).1.rotation = t.rotation := by
  cases hqueue : queue pSocket with
  | nil =>
    unfold step fMultiSocketMode
    rw [hplace, h.socks_eq]
    simp [hqueue, hmulti, withBuffers]
  | cons d rest =>
    obtain ⟨u, response, hstep⟩ := h.step_receiving D pAuth hplace hqueue
    rw [hstep]
    exact ⟨rfl, rfl⟩

/-- A step of a thread leaves it listening on its sockets. -/
theorem Listens.step (h : Listens socks t) (D : Digests) (pAuth : Option IStunAuth)
    (queue : SocketRole → List CStunSocketThread.Datagram) :
    Listens socks (t.step D pAuth queue).1 := by
  -- A thread that was not told to exit goes round from the head to `select`, to a socket and back.
  unfold ListeningThread.step
  cases hplace : t.place with
  | exited => exact absurd hplace h.running
  | head =>
    simp only [h.flag, Bool.false_eq_true, if_false]
    split_ifs with hmulti
    · refine ⟨h.socks_eq, rfl, fun hno => (by cases hno), fun _ => ?_, fun _ hno => by cases hno⟩
      show (t.rotation + 1) % t.socks.length < socks.length
      rw [h.socks_eq]
      refine Nat.mod_lt _ ?_
      unfold fMultiSocketMode at hmulti
      rw [h.socks_eq] at hmulti
      exact Nat.zero_lt_of_lt (of_decide_eq_true hmulti)
    · cases hsock : t.socks[0]? with
      | none =>
        exact ⟨h.socks_eq, h.flag, h.running, h.rotation_lt, h.mem⟩
      | some pSocket =>
        refine ⟨h.socks_eq, rfl, fun hno => (by cases hno), fun hno => (by cases hno), ?_⟩
        rintro _ ⟨⟩
        exact h.socks_eq ▸ List.mem_of_getElem? hsock
  | waiting =>
    dsimp only
    cases hready : readySocket t.socks t.rotation fun role => (queue role).length > 0 with
    | none => exact h
    | some pSocket =>
      simp only [Option.elim_some, h.flag, Bool.false_eq_true, if_false]
      refine ⟨h.socks_eq, rfl, fun hno => (by cases hno), fun hno => (by cases hno), ?_⟩
      rintro _ ⟨⟩
      exact h.socks_eq ▸ mem_of_readySocket hready
  | receiving pSocket =>
    dsimp only
    cases hqueue : queue pSocket with
    | nil =>
      dsimp only
      split_ifs
      · exact ⟨h.socks_eq, h.flag, fun hno => (by cases hno), fun hno => (by cases hno),
          fun _ hno => by cases hno⟩
      · exact h
    | cons d rest =>
      simp only [h.flag, Bool.false_eq_true, if_false]
      exact ⟨h.socks_eq, h.flag, fun hno => (by cases hno), fun hno => (by cases hno),
        fun _ hno => by cases hno⟩

/-- A thread in which `select` fails goes on listening on its sockets. -/
theorem Listens.selectFails (h : Listens socks t) : Listens socks t.selectFails := by
  unfold ListeningThread.selectFails
  cases hplace : t.place with
  | waiting =>
    dsimp only
    cases hready : readySocket t.socks t.rotation fun _ => true with
    | none => exact h
    | some pSocket =>
      simp only [Option.elim_some, h.flag, Bool.false_eq_true, if_false]
      refine ⟨h.socks_eq, rfl, fun hno => (by cases hno), fun hno => (by cases hno), ?_⟩
      rintro _ ⟨⟩
      exact h.socks_eq ▸ mem_of_readySocket hready
  | _ => exact h

/-- A thread whose `select` fails goes on with the first socket from the one at `_rotation` on. -/
theorem Listens.selectFails_eq (h : Listens socks t) (hplace : t.place = .waiting)
    {pSocket : SocketRole} (hready : readySocket socks t.rotation (fun _ => true) = some pSocket) :
    t.selectFails = { t with place := .receiving pSocket } := by
  unfold ListeningThread.selectFails
  rw [hplace, h.flag, h.socks_eq]
  simp only [hready]
  simp

/-- Nothing fails in a thread that is not in `select`. -/
theorem selectFails_of_ne (hplace : t.place ≠ .waiting) : t.selectFails = t := by
  unfold ListeningThread.selectFails
  cases h : t.place with
  | waiting => exact absurd h hplace
  | _ => rfl

/-- A thread that fails to receive goes on listening on its sockets. -/
theorem Listens.failsToReceive (h : Listens socks t) : Listens socks t.failsToReceive := by
  unfold ListeningThread.failsToReceive
  cases hplace : t.place with
  | receiving pSocket =>
    exact ⟨h.socks_eq, h.flag, fun hno => (by cases hno), fun hno => (by cases hno),
      fun _ hno => by cases hno⟩
  | _ => exact h

end ListeningThread

/-! ## Fair runs -/

namespace UdpServerState

open ListeningThread (Listens)

section Schedule

variable (D : Digests) (addrLocal : SocketRole → CSocketAddress) (server : CStunServer)
  (actions : ℕ → ServerAction)

/-- The state when some of the actions have been taken. -/
def stateAt (n : ℕ) : UdpServerState := states (act D addrLocal) (start server) actions n

/-- Each thread takes steps again and again, fails to receive only for a while, and is not told to
exit. `select` may fail as often as it likes. -/
structure FairlyScheduled : Prop where
  steps : ∀ i < server.threads.length, ∃ᶠ n in atTop, ∃ pAuth, actions n = .step i pAuth
  fails : ∀ᶠ n in atTop, ∀ i, actions n ≠ .fails i
  goes_on : ∀ n i fPostMessages, actions n ≠ .signalForStop i fPostMessages

end Schedule

variable {D : Digests} {addrLocal : SocketRole → CSocketAddress} {server : CStunServer}
  {actions : ℕ → ServerAction} {tsa : TransportAddressSet} {socks : List SocketRole}
  {role : SocketRole} {i n : ℕ}

/-- A state of a run is the one after the actions before it. -/
theorem stateAt_eq_run (n : ℕ) :
    stateAt D addrLocal server actions n =
      UdpServerState.run D addrLocal server ((List.range n).map actions) :=
  states_eq_foldl n

/-- An action lets a thread that was not told to exit take a step, or fail to receive or to select,
or leaves it as it is. -/
theorem threads_act (D : Digests) (addrLocal : SocketRole → CSocketAddress) {st : UdpServerState}
    {action : ServerAction} {t : ListeningThread}
    (ht : st.threads[i]? = some t) (hgoes : ∀ j fPostMessages,
      action ≠ .signalForStop j fPostMessages) :
    ((act D addrLocal st action).threads[i]? = some t ∧ (∀ pAuth, action ≠ .step i pAuth) ∧
      action ≠ .selectFails i) ∨
      (action = .fails i ∧ (act D addrLocal st action).threads[i]? = some t.failsToReceive) ∨
      (action = .selectFails i ∧ (act D addrLocal st action).threads[i]? = some t.selectFails) ∨
      ∃ pAuth, action = .step i pAuth ∧
        (act D addrLocal st action).threads[i]? = some (t.step D pAuth st.queue).1 := by
  -- Only the actions of the thread itself write its entry of the list.
  obtain ⟨hlt, -⟩ := List.getElem?_eq_some_iff.mp ht
  cases action with
  | arrive d => exact .inl ⟨ht, (fun _ hno => by cases hno), fun hno => by cases hno⟩
  | signalForStop j fPostMessages => exact absurd rfl (hgoes j fPostMessages)
  | fails j =>
    unfold act
    dsimp only
    by_cases hij : j = i
    · subst hij
      rw [ht]
      exact .inr (.inl ⟨rfl, List.getElem?_set_self hlt⟩)
    · left
      refine ⟨?_, (fun _ hno => by cases hno), fun hno => by cases hno⟩
      cases st.threads[j]? with
      | none => exact ht
      | some t' => exact (List.getElem?_set_ne hij).trans ht
  | selectFails j =>
    unfold act
    dsimp only
    by_cases hij : j = i
    · subst hij
      rw [ht]
      exact .inr (.inr (.inl ⟨rfl, List.getElem?_set_self hlt⟩))
    · left
      refine ⟨?_, (fun _ hno => by cases hno), fun hno => hij (by cases hno; rfl)⟩
      cases st.threads[j]? with
      | none => exact ht
      | some t' => exact (List.getElem?_set_ne hij).trans ht
  | step j pAuth =>
    unfold act
    dsimp only
    by_cases hij : j = i
    · subst hij
      rw [ht]
      right
      right
      right
      refine ⟨pAuth, rfl, ?_⟩
      dsimp only [Option.elim_some]
      cases (t.step D pAuth st.queue).2 with
      | none => exact List.getElem?_set_self hlt
      | some x => exact List.getElem?_set_self hlt
    · left
      refine ⟨?_, (fun _ hno => hij (by cases hno; rfl)), fun hno => by cases hno⟩
      cases st.threads[j]? with
      | none => exact ht
      | some t' =>
        dsimp only [Option.elim_some]
        cases (t'.step D pAuth st.queue).2 with
        | none => exact (List.getElem?_set_ne hij).trans ht
        | some x => exact (List.getElem?_set_ne hij).trans ht

/-- A thread of a server that goes on listens on its sockets in every state. -/
theorem exists_listens (hfair : FairlyScheduled server actions) {thread : OwningSocketThread}
    (hthread : server.threads[i]? = some thread) (n : ℕ) :
    ∃ t, (stateAt D addrLocal server actions n).threads[i]? = some t ∧ Listens thread.socks t := by
  induction n with
  | zero =>
    refine ⟨{ toOwningSocketThread := thread }, ?_, rfl, rfl, fun hno => (by cases hno),
      fun hno => (by cases hno), fun _ hno => by cases hno⟩
    show (server.threads.map _)[i]? = _
    rw [List.getElem?_map, hthread]
    rfl
  | succ n ih =>
    obtain ⟨t, ht, hlistens⟩ := ih
    rcases threads_act D addrLocal ht (hfair.goes_on n) with
      ⟨hsame, -⟩ | ⟨-, hfails⟩ | ⟨-, hfails⟩ | ⟨pAuth, -, hstep⟩
    · exact ⟨t, hsame, hlistens⟩
    · exact ⟨_, hfails, hlistens.failsToReceive⟩
    · exact ⟨_, hfails, hlistens.selectFails⟩
    · exact ⟨_, hstep, hlistens.step D pAuth _⟩

/-- From some time on a thread that is not in `select` stays as it is until it takes its next
step. -/
theorem exists_step (hfair : FairlyScheduled server actions) {N : ℕ}
    (hN : ∀ k ≥ N, ∀ j, actions k ≠ .fails j) (hi : i < server.threads.length) (hn : N ≤ n)
    {t : ListeningThread} (ht : (stateAt D addrLocal server actions n).threads[i]? = some t)
    (hplace : t.place ≠ .waiting) :
    ∃ k ≥ n, (stateAt D addrLocal server actions k).threads[i]? = some t ∧ ∃ pAuth,
      actions k = .step i pAuth ∧ (stateAt D addrLocal server actions (k + 1)).threads[i]? =
        some (t.step D pAuth (stateAt D addrLocal server actions k).queue).1 := by
  obtain ⟨k, hk, hsame, pAuth, haction⟩ := exists_of_frequently
    (P := fun k => (stateAt D addrLocal server actions k).threads[i]? = some t)
    (hfair.steps i hi) ht
    fun k hk hP hno => by
      rcases threads_act D addrLocal hP (hfair.goes_on k) with
        ⟨hsame, -⟩ | ⟨hfails, -⟩ | ⟨-, hsame⟩ | ⟨pAuth, hstep, -⟩
      · exact hsame
      · exact absurd hfails (hN k (hn.trans hk) i)
      · exact hsame.trans (congrArg some (ListeningThread.selectFails_of_ne hplace))
      · exact absurd ⟨pAuth, hstep⟩ hno
  refine ⟨k, hk, hsame, pAuth, haction, ?_⟩
  rcases threads_act D addrLocal hsame (hfair.goes_on k) with
    ⟨-, hno, -⟩ | ⟨hfails, -⟩ | ⟨hfails, -⟩ | ⟨pAuth', hstep, hnext⟩
  · exact absurd haction (hno pAuth)
  · exact absurd hfails (hN k (hn.trans hk) i)
  · rw [haction] at hfails
    cases hfails
  · rw [haction] at hstep
    cases hstep
    exact hnext

/-- A thread in `select` with a socket that keeps having something goes on to receive from a socket,
whether `select` fails or not, and from this one when it is at `_rotation`. -/
theorem exists_chosen (hfair : FairlyScheduled server actions) {N : ℕ}
    (hN : ∀ k ≥ N, ∀ j, actions k ≠ .fails j) (hi : i < server.threads.length) (hn : N ≤ n)
    {t : ListeningThread} (ht : (stateAt D addrLocal server actions n).threads[i]? = some t)
    (hlistens : Listens socks t) (hplace : t.place = .waiting) (hmem : role ∈ socks)
    (hqueue : ∀ k ≥ n, 0 < ((stateAt D addrLocal server actions k).queue role).length) :
    ∃ k ≥ n, ∃ pSocket,
      (stateAt D addrLocal server actions (k + 1)).threads[i]? =
        some { t with place := .receiving pSocket } ∧
      (socks[t.rotation]? = some role → pSocket = role) := by
  -- Until the thread takes a step, or its `select` fails, it stays as it is.
  obtain ⟨k, hk, hsame, hmoves⟩ := exists_of_frequently
    (P := fun k => (stateAt D addrLocal server actions k).threads[i]? = some t)
    (A := fun k => (∃ pAuth, actions k = .step i pAuth) ∨ actions k = .selectFails i)
    ((hfair.steps i hi).mono fun _ => .inl) ht
    fun k hk hP hno => by
      rcases threads_act D addrLocal hP (hfair.goes_on k) with
        ⟨hsame, -⟩ | ⟨hfails, -⟩ | ⟨hfails, -⟩ | ⟨pAuth, hstep, -⟩
      · exact hsame
      · exact absurd hfails (hN k (hn.trans hk) i)
      · exact absurd (.inr hfails) hno
      · exact absurd (.inl ⟨pAuth, hstep⟩) hno
  have hready : decide (0 < ((stateAt D addrLocal server actions k).queue role).length) = true :=
    decide_eq_true (hqueue k hk)
  have hrotation := hlistens.rotation_lt hplace
  rcases threads_act D addrLocal hsame (hfair.goes_on k) with
    ⟨-, hnostep, hnofail⟩ | ⟨hfails, -⟩ | ⟨-, hnext⟩ | ⟨pAuth, -, hnext⟩
  · rcases hmoves with ⟨pAuth, hstep⟩ | hfails
    · exact absurd hstep (hnostep pAuth)
    · exact absurd hfails hnofail
  · exact absurd hfails (hN k (hn.trans hk) i)
  · -- When `select` fails all the sockets count as ready.
    obtain ⟨pSocket, hchosen⟩ := exists_readySocket (fun _ => true) hrotation hmem rfl
    rw [hlistens.selectFails_eq hplace hchosen] at hnext
    refine ⟨k, hk, pSocket, hnext, fun hfirst => ?_⟩
    exact Option.some.inj (hchosen.symm.trans (readySocket_of_getElem? _ hfirst rfl))
  · -- There is at least the socket whose queue is not empty.
    obtain ⟨pSocket, hchosen⟩ := exists_readySocket
      (fun role => ((stateAt D addrLocal server actions k).queue role).length > 0)
      hrotation hmem hready
    rw [hlistens.step_waiting hplace hchosen] at hnext
    refine ⟨k, hk, pSocket, hnext, fun hfirst => ?_⟩
    exact Option.some.inj (hchosen.symm.trans (readySocket_of_getElem? _ hfirst hready))

/-- What has been received and what has arrived is not taken back, and the threads stay as many. -/
structure Grows (st st' : UdpServerState) : Prop where
  log : st.log <+: st'.log
  arrived : ∀ role, st.arrived role <+: st'.arrived role
  count : st'.threads.length = st.threads.length

/-- Nothing is taken back when nothing is done. -/
theorem Grows.refl (st : UdpServerState) : Grows st st :=
  ⟨List.prefix_refl _, fun _ => List.prefix_refl _, rfl⟩

/-- Nothing is taken back in two steps that take nothing back. -/
theorem Grows.trans {st st' st'' : UdpServerState} (h : Grows st st') (h' : Grows st' st'') :
    Grows st st'' :=
  ⟨h.log.trans h'.log, fun role => (h.arrived role).trans (h'.arrived role), h'.count.trans h.count⟩

/-- Nothing is taken back when another thread takes the place of one. -/
theorem Grows.set (st : UdpServerState) (i : ℕ) (t : ListeningThread) :
    Grows st { st with threads := st.threads.set i t } :=
  ⟨List.prefix_refl _, fun _ => List.prefix_refl _, List.length_set⟩

/-- Nothing is taken back when a datagram arrives. -/
theorem Grows.arrive (st : UdpServerState) (d : CStunSocketThread.Datagram) :
    Grows st (st.arrive d) := by
  refine ⟨List.prefix_refl _, fun role => ?_, rfl⟩
  show st.arrived role <+: Function.update st.arrived d.role (st.arrived d.role ++ [d]) role
  rw [Function.update_apply]
  split_ifs with heq
  · rw [heq]
    exact List.prefix_append _ _
  · exact List.prefix_refl _

/-- Nothing is taken back when several datagrams arrive. -/
theorem Grows.arrives (st : UdpServerState) (ds : List CStunSocketThread.Datagram) :
    Grows st (ds.foldl (fun st d => st.arrive d) st) := by
  induction ds generalizing st with
  | nil => exact .refl st
  | cons d ds ih => exact (Grows.arrive st d).trans (ih (st.arrive d))

/-- No action takes anything back of what has arrived or been received. -/
theorem Grows.act (st : UdpServerState) (action : ServerAction) :
    Grows st (UdpServerState.act D addrLocal st action) := by
  -- No action takes anything from the two logs, or a thread from the list.
  unfold UdpServerState.act
  cases action with
  | arrive d => exact .arrive st d
  | step i pAuth =>
    dsimp only
    cases st.threads[i]? with
    | none => exact .refl st
    | some t =>
      have hset := Grows.set st i (t.step D pAuth st.queue).1
      dsimp only [Option.elim_some]
      cases (t.step D pAuth st.queue).2 with
      | none => exact hset
      | some x => exact ⟨List.prefix_append _ _, hset.arrived, hset.count⟩
  | selectFails i =>
    dsimp only
    cases st.threads[i]? with
    | none => exact .refl st
    | some t => exact .set st i t.selectFails
  | fails i =>
    dsimp only
    cases st.threads[i]? with
    | none => exact .refl st
    | some t => exact .set st i t.failsToReceive
  | signalForStop i fPostMessages =>
    dsimp only
    cases st.threads[i]? with
    | none => exact .refl st
    | some t =>
      have hset := Grows.set st i { t with fNeedToExit := true }
      dsimp only [Option.elim_some]
      split_ifs
      · exact hset.trans (.arrives _ _)
      · exact hset

/-- No number of actions takes anything back of what has arrived or been received. -/
theorem grows {m : ℕ} (hm : n ≤ m) :
    Grows (stateAt D addrLocal server actions n) (stateAt D addrLocal server actions m) := by
  induction m, hm using Nat.le_induction with
  | base => exact .refl _
  | succ m _ ih => exact ih.trans (.act _ _)

/-- What has been received from a socket stays received. -/
theorem receivedFrom_grows {m : ℕ} (hm : n ≤ m) (role : SocketRole) :
    (stateAt D addrLocal server actions n).receivedFrom role <+:
      (stateAt D addrLocal server actions m).receivedFrom role :=
  (((grows hm).log.map _).map _).filter _

/-- The invariant holds in every state of a run. -/
theorem inv_stateAt (h : ∀ thread ∈ server.threads, Initialized tsa thread.toCStunSocketThread)
    (n : ℕ) : Inv D tsa (stateAt D addrLocal server actions n) := by
  rw [stateAt_eq_run]
  exact inv_run h _

/-- A socket has something, and nothing more is received from it. -/
structure Starves (D : Digests) (addrLocal : SocketRole → CSocketAddress) (server : CStunServer)
    (actions : ℕ → ServerAction) (role : SocketRole) (n : ℕ) : Prop where
  queued : ∀ k ≥ n, ∃ d rest,
    (stateAt D addrLocal server actions k).queue role = d :: rest ∧ d.role = role
  stuck : ∀ k ≥ n, ((stateAt D addrLocal server actions k).receivedFrom role).length =
    ((stateAt D addrLocal server actions n).receivedFrom role).length

/-- What a thread does that listens on a socket which starves. -/
structure Watched (D : Digests) (addrLocal : SocketRole → CSocketAddress) (server : CStunServer)
    (actions : ℕ → ServerAction) (i : ℕ) (socks : List SocketRole) (n : ℕ) : Prop where
  fair : FairlyScheduled server actions
  thread : i < server.threads.length
  receives : ∀ k ≥ n, ∀ j, actions k ≠ .fails j
  listens : ∀ k t, (stateAt D addrLocal server actions k).threads[i]? = some t → Listens socks t

namespace Starves

variable {t : ListeningThread} {k : ℕ}

/-- The thread is not about to receive from the socket: it would. -/
theorem not_receiving (h : Starves D addrLocal server actions role n)
    (hw : Watched D addrLocal server actions i socks n) (hk : n ≤ k)
    (ht : (stateAt D addrLocal server actions k).threads[i]? = some t) :
    t.place ≠ .receiving role := by
  intro hplace
  obtain ⟨m, hm, htm, pAuth, haction, -⟩ :=
    exists_step hw.fair hw.receives hw.thread hk ht (by simp [hplace])
  obtain ⟨d, rest, hqueue, hrole⟩ := h.queued m (hk.trans hm)
  obtain ⟨u, response, hstep⟩ := (hw.listens m t htm).step_receiving D pAuth hplace hqueue
  -- One more datagram is received from the socket.
  have hmore : ((stateAt D addrLocal server actions (m + 1)).receivedFrom role).length =
      ((stateAt D addrLocal server actions m).receivedFrom role).length + 1 := by
    have hnext : stateAt D addrLocal server actions (m + 1) =
        act D addrLocal (stateAt D addrLocal server actions m) (.step i pAuth) := by
      rw [← haction]
      rfl
    rw [hnext]
    unfold act
    dsimp only
    rw [htm, Option.elim_some, hstep]
    simp [receivedFrom, served, received, hrole]
  have hsame := h.stuck m (hk.trans hm)
  have hsame' := h.stuck (m + 1) (Nat.le_succ_of_le (hk.trans hm))
  omega

/-- The thread is not in `select`: the socket would have its turn. -/
theorem not_waiting (h : Starves D addrLocal server actions role n)
    (hw : Watched D addrLocal server actions i socks n) {index : ℕ}
    (hindex : socks[index]? = some role) (left : ℕ) (hk : n ≤ k)
    (ht : (stateAt D addrLocal server actions k).threads[i]? = some t)
    (hleft : turnsLeft index t.rotation socks.length = left) : t.place ≠ .waiting := by
  intro hplace
  have hmem := List.mem_of_getElem? hindex
  obtain ⟨hlt, -⟩ := List.getElem?_eq_some_iff.mp hindex
  have hqueue : ∀ m ≥ n, 0 < ((stateAt D addrLocal server actions m).queue role).length := by
    intro m hm
    obtain ⟨d, rest, hcons, -⟩ := h.queued m hm
    rw [hcons]
    exact Nat.succ_pos _
  induction left generalizing k t with
  | zero =>
    have hlistens := hw.listens k t ht
    have hrotation := hlistens.rotation_lt hplace
    obtain rfl : index = t.rotation := by
      unfold turnsLeft at hleft
      split_ifs at hleft <;> omega
    obtain ⟨m, hm, pSocket, hnext, hfirst⟩ := exists_chosen hw.fair hw.receives hw.thread hk ht
      hlistens hplace hmem fun m hm => hqueue m (hk.trans hm)
    obtain rfl := hfirst hindex
    exact h.not_receiving hw ((hk.trans hm).trans (Nat.le_succ m)) hnext rfl
  | succ left ih =>
    have hlistens := hw.listens k t ht
    have hrotation := hlistens.rotation_lt hplace
    have hmulti : 1 < socks.length := by
      unfold turnsLeft at hleft
      split_ifs at hleft <;> omega
    -- Another socket may be chosen in this round.
    obtain ⟨m, hm, pSocket, hnext, -⟩ := exists_chosen hw.fair hw.receives hw.thread hk ht
      hlistens hplace hmem fun m hm => hqueue m (hk.trans hm)
    have hk' : n ≤ m + 1 := (hk.trans hm).trans (Nat.le_succ m)
    obtain ⟨m', hm', -, pAuth', -, hnext'⟩ :=
      exists_step hw.fair hw.receives hw.thread hk' hnext nofun
    obtain ⟨hhead, hsame⟩ := (hw.listens _ _ hnext).place_receiving rfl hmulti D pAuth'
      (stateAt D addrLocal server actions m').queue
    have hk'' : n ≤ m' + 1 := (hk'.trans hm').trans (Nat.le_succ m')
    obtain ⟨m'', hm'', -, pAuth'', -, hnext''⟩ :=
      exists_step hw.fair hw.receives hw.thread hk'' hnext' (by simp [hhead])
    rw [(hw.listens _ _ hnext').step_head hhead hmulti] at hnext''
    refine ih ((hk''.trans hm'').trans (Nat.le_succ m'')) hnext'' ?_ rfl
    have hless := turnsLeft_succ hlt hrotation (by omega)
    show turnsLeft index ((_ + 1) % socks.length) socks.length = left
    rw [hsame]
    exact Nat.succ.inj (hless.trans hleft)

/-- The thread is not at the head of its loop. -/
theorem not_head (h : Starves D addrLocal server actions role n)
    (hw : Watched D addrLocal server actions i socks n) (hmem : role ∈ socks) (hk : n ≤ k)
    (ht : (stateAt D addrLocal server actions k).threads[i]? = some t) : t.place ≠ .head := by
  intro hplace
  have hlistens := hw.listens k t ht
  obtain ⟨m, hm, -, pAuth, -, hnext⟩ :=
    exists_step hw.fair hw.receives hw.thread hk ht (by simp [hplace])
  have hk' : n ≤ m + 1 := (hk.trans hm).trans (Nat.le_succ m)
  by_cases hmulti : 1 < socks.length
  · rw [hlistens.step_head hplace hmulti] at hnext
    obtain ⟨index, hindex⟩ := List.getElem?_of_mem hmem
    exact h.not_waiting hw hindex _ hk' hnext rfl rfl
  · obtain rfl : socks = [role] := by
      obtain ⟨index, hindex⟩ := List.getElem?_of_mem hmem
      match socks with
      | [] => cases hmem
      | [role'] => rw [List.mem_singleton.mp hmem]
      | _ :: _ :: _ => simp at hmulti
    rw [hlistens.step_head_single hplace] at hnext
    exact h.not_receiving hw hk' hnext rfl

/-- No socket starves that a thread listens on. -/
theorem absurd (h : Starves D addrLocal server actions role n)
    (hw : Watched D addrLocal server actions i socks n) (hmem : role ∈ socks)
    (ht : (stateAt D addrLocal server actions n).threads[i]? = some t) : False := by
  have hlistens := hw.listens n t ht
  cases hplace : t.place with
  | exited => exact hlistens.running hplace
  | head => exact h.not_head hw hmem le_rfl ht hplace
  | waiting =>
    obtain ⟨index, hindex⟩ := List.getElem?_of_mem hmem
    exact h.not_waiting hw hindex _ le_rfl ht rfl hplace
  | receiving pSocket =>
    by_cases hmulti : 1 < socks.length
    · obtain ⟨m, hm, -, pAuth, -, hnext⟩ :=
        exists_step hw.fair hw.receives hw.thread le_rfl ht (by simp [hplace])
      exact h.not_head hw hmem (Nat.le_succ_of_le hm) hnext
        (hlistens.place_receiving hplace hmulti D pAuth _).1
    · -- There is no other socket.
      have hsocket := hlistens.mem pSocket hplace
      obtain rfl : pSocket = role := by
        match socks with
        | [] => cases hmem
        | [role'] => rw [List.mem_singleton.mp hmem, List.mem_singleton.mp hsocket]
        | _ :: _ :: _ => simp at hmulti
      exact h.not_receiving hw le_rfl ht hplace

end Starves

/-- As long as nothing is received from a socket that has something, it starves. -/
theorem starves (hinit : ∀ thread ∈ server.threads, Initialized tsa thread.toCStunSocketThread)
    (hless : ((stateAt D addrLocal server actions n).receivedFrom role).length <
      ((stateAt D addrLocal server actions n).arrived role).length)
    (hstuck : ∀ k ≥ n, ((stateAt D addrLocal server actions k).receivedFrom role).length =
      ((stateAt D addrLocal server actions n).receivedFrom role).length) :
    Starves D addrLocal server actions role n := by
  refine ⟨fun k hk => ?_, hstuck⟩
  have hinv : Inv D tsa (stateAt D addrLocal server actions k) := inv_stateAt hinit k
  have harrived : ((stateAt D addrLocal server actions n).arrived role).length ≤
      ((stateAt D addrLocal server actions k).arrived role).length :=
        ((grows hk).arrived role).length_le
  rw [hinv.arrived_eq role, List.length_append, hstuck k hk] at harrived
  cases hqueue : (stateAt D addrLocal server actions k).queue role with
  | nil =>
    rw [hqueue, List.length_nil] at harrived
    omega
  | cons d rest => exact ⟨d, rest, rfl, hinv.queued role d (hqueue ▸ List.mem_cons_self)⟩

/-- A thread that was not told to exit drops nothing. -/
theorem handled_of_mem (hfair : FairlyScheduled server actions)
    (hinit : ∀ thread ∈ server.threads, Initialized tsa thread.toCStunSocketThread) {x : Served}
    (hx : x ∈ (stateAt D addrLocal server actions n).served) :
    ∃ answer, x.fate = .handled answer := by
  have hinv : Inv D tsa (stateAt D addrLocal server actions n) := inv_stateAt hinit n
  obtain ⟨⟨i, x⟩, hlog, rfl⟩ := List.mem_map.mp hx
  -- The thread has not exited.
  have hrunning : ((stateAt D addrLocal server actions n).threads[i]?.any
      ListeningThread.isExited).toNat = 0 := by
    cases hi : (stateAt D addrLocal server actions n).threads[i]? with
    | none => rfl
    | some t =>
      obtain ⟨hlt, -⟩ := List.getElem?_eq_some_iff.mp hi
      have hcount : (stateAt D addrLocal server actions n).threads.length = server.threads.length :=
        (grows (Nat.zero_le n)).count.trans (List.length_map _)
      obtain ⟨t', ht', hlistens⟩ := exists_listens (D := D) (n := n) hfair
        (List.getElem?_eq_getElem (hcount ▸ hlt))
      obtain rfl := Option.some.inj (hi.symm.trans ht')
      simpa [ListeningThread.isExited] using hlistens.running
  have hnone : drops i (stateAt D addrLocal server actions n).log = 0 :=
    Nat.le_zero.mp (hrunning ▸ hinv.dropped_le i)
  have hkept := List.countP_eq_zero.mp hnone (i, x) hlog
  cases hfate : x.fate with
  | handled answer => exact ⟨answer, rfl⟩
  | dropped => simp [Served.isDropped, hfate] at hkept

/-- A socket that has something is received from. -/
theorem exists_received (hfair : FairlyScheduled server actions)
    (hinit : ∀ thread ∈ server.threads, Initialized tsa thread.toCStunSocketThread)
    {thread : OwningSocketThread} (hthread : server.threads[i]? = some thread)
    (hmem : role ∈ thread.socks)
    (hless : ((stateAt D addrLocal server actions n).receivedFrom role).length <
      ((stateAt D addrLocal server actions n).arrived role).length) :
    ∃ m ≥ n, ((stateAt D addrLocal server actions n).receivedFrom role).length <
      ((stateAt D addrLocal server actions m).receivedFrom role).length := by
  by_contra hnever
  have hstuck : ∀ k ≥ n, ((stateAt D addrLocal server actions k).receivedFrom role).length =
      ((stateAt D addrLocal server actions n).receivedFrom role).length := fun k hk =>
    le_antisymm (not_lt.mp fun hup => hnever ⟨k, hk, hup⟩) (receivedFrom_grows hk role).length_le
  -- From some time on the threads do not fail to receive.
  obtain ⟨N, hN⟩ := eventually_atTop.mp hfair.fails
  have hn : n ≤ max n N := le_max_left n N
  have hstuck' : ∀ k ≥ max n N, ((stateAt D addrLocal server actions k).receivedFrom role).length =
      ((stateAt D addrLocal server actions (max n N)).receivedFrom role).length := fun k hk =>
    (hstuck k (hn.trans hk)).trans (hstuck _ hn).symm
  have hless' : ((stateAt D addrLocal server actions (max n N)).receivedFrom role).length <
      ((stateAt D addrLocal server actions (max n N)).arrived role).length := by
    rw [hstuck _ hn]
    exact hless.trans_le ((grows hn).arrived role).length_le
  obtain ⟨hi, -⟩ := List.getElem?_eq_some_iff.mp hthread
  have hwatched : Watched D addrLocal server actions i thread.socks (max n N) := {
    fair := hfair
    thread := hi
    receives := fun k hk => hN k ((le_max_right n N).trans hk)
    listens := by
      intro k t ht
      obtain ⟨t', ht', hlistens⟩ := exists_listens hfair hthread k
      obtain rfl := Option.some.inj (ht.symm.trans ht')
      exact hlistens }
  obtain ⟨t, ht, -⟩ := exists_listens (D := D) hfair hthread (max n N)
  exact (starves hinit hless' hstuck').absurd hwatched hmem ht

/-- In every fair run of a server that was initialized, in either mode: all that has arrived at a
socket of the configuration has been received some time, in its order and each datagram once.
Everything that is received is handled, and what a thread with new buffers would send for it is
sent. -/
theorem eventually_served {config : CStunServerConfig} {a : SocketAnswers} {provider : ObjId}
    {server₀ : CStunServer} {objects₀ objects : Objects}
    (hinit : CStunServer.initialize_ config a provider (server₀, objects₀) =
      .ok () (server, objects))
    (hfair : FairlyScheduled server actions) (hrole : config.fHas role = true) (n : ℕ) :
    ∃ m ≥ n, (stateAt D addrLocal server actions n).arrived role <+:
        (stateAt D addrLocal server actions m).receivedFrom role ∧
      (∀ x ∈ (stateAt D addrLocal server actions m).served, ∃ answer, x.fate = .handled answer) ∧
      (stateAt D addrLocal server actions m).sent =
        (stateAt D addrLocal server actions m).served.filterMap
          (Served.response D (CTCPServer.tsaHandler config)) := by
  obtain ⟨-, hlistens, hinitialized⟩ := CStunServer.initialize_listens hinit
  obtain ⟨socks, hsocks, hmem⟩ := CStunServerConfig.exists_listens hrole
  rw [← hlistens] at hsocks
  obtain ⟨thread, hthread, rfl⟩ := List.mem_map.mp hsocks
  obtain ⟨i, hi⟩ := List.getElem?_of_mem hthread
  -- Some time as many datagrams are received as have arrived by now.
  obtain ⟨m, hm, hall⟩ := exists_le_of_lt
    (f := fun k => (((stateAt D addrLocal server actions k).receivedFrom role).length : ℤ))
    (N := ((stateAt D addrLocal server actions n).arrived role).length) (n := n) fun k hk hlt => by
      have hless : ((stateAt D addrLocal server actions k).receivedFrom role).length <
          ((stateAt D addrLocal server actions k).arrived role).length :=
        (Int.ofNat_lt.mp hlt).trans_le ((grows hk).arrived role).length_le
      obtain ⟨j, hj, hup⟩ := exists_received hfair hinitialized hi hmem hless
      exact ⟨j, hj, Int.ofNat_lt.mpr hup⟩
  have hinv : Inv D (CTCPServer.tsaHandler config) (stateAt D addrLocal server actions m) :=
    inv_stateAt hinitialized m
  refine ⟨m, hm, ?_, fun x hx => handled_of_mem hfair hinitialized hx, hinv.sent_eq⟩
  -- Both are beginnings of what has arrived by then.
  refine List.prefix_of_prefix_length_le ((grows hm).arrived role) ?_ (Int.ofNat_le.mp hall)
  rw [hinv.arrived_eq role]
  exact List.prefix_append _ _

/-- A request arrives twice at the first socket and once at the second, and then the thread takes
one step after the other. -/
def threeRequests : ℕ → ServerAction
  | 0 => .arrive bindingRequest
  | 1 => .arrive otherRequest
  | 2 => .arrive bindingRequest
  | _ + 3 => .step 0 none

/-- The thread of two sockets receives both datagrams of the first one. -/
theorem eventually_served_twoSockets :
    ∃ m ≥ 3, [bindingRequest, bindingRequest] <+:
        (stateAt CStunMessageReader.crcDigests (fun _ => .zero) (twoSocketsServer false).1
          threeRequests m).receivedFrom .rolePP := by
  have hinit : CStunServer.initialize_ { twoSockets with fMultiThreadedMode := false }
      ⟨fun _ => S_OK, fun _ => S_OK⟩ 0 ({}, fun _ => {}) =
        .ok () ((twoSocketsServer false).1, (twoSocketsServer false).2) := rfl
  have hfair : FairlyScheduled (twoSocketsServer false).1 threeRequests := {
    steps := by
      intro i hi
      obtain rfl : i = 0 := Nat.lt_one_iff.mp hi
      exact frequently_atTop.mpr fun n => ⟨n + 3, Nat.le_add_right n 3, none, rfl⟩
    fails := by
      refine Eventually.of_forall fun n i => ?_
      match n with
      | 0 | 1 | 2 | _ + 3 => nofun
    goes_on := by
      intro n i fPostMessages
      match n with
      | 0 | 1 | 2 | _ + 3 => nofun }
  obtain ⟨m, hm, hreceived, -⟩ :=
    @eventually_served CStunMessageReader.crcDigests (fun _ => .zero) _ _ .rolePP _ _
    _ _ _ _ hinit hfair
      rfl 3
  exact ⟨m, hm, hreceived⟩

end UdpServerState

end Stun
