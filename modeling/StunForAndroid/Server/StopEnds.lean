import Mathlib.Order.Filter.Finite
import StunForAndroid.Server.NoStarvation

/-!
# Stopping the threads

`Stop` of `CStunServer` sets the exit flag of every thread, has each socket send a datagram to
itself, and waits for the threads to end. A thread may be waiting for a socket then, or be about to,
and it looks at the flag only when it wakes up. No other thread takes datagrams from its sockets, so
that each of them has something until the thread has received once more, and then it has seen the
flag (`Told`). So every thread ends with the next step it takes, whatever the others and the network
do (`stop_ends`).
-/

namespace Stun

open Filter Fairness

namespace ListeningThread

/-- Where a thread is goes with its sockets. -/
structure Sound (t : ListeningThread) : Prop where
  rotation_lt : t.place = .waiting → t.rotation < t.socks.length
  mem : ∀ pSocket, t.place = .receiving pSocket → pSocket ∈ t.socks

variable {t : ListeningThread} {D : Digests} {pAuth : Option IStunAuth}
  {queue : SocketRole → List CStunSocketThread.Datagram}

/-- A thread at the head of its loop, or out of it, receives from no socket that it does not have.
-/
theorem Sound.of_place (h : t.place = .head ∨ t.place = .exited) : Sound t := by
  constructor
  · intro hplace
    rcases h with h | h <;> exact absurd (h.symm.trans hplace) (by simp)
  · intro pSocket hplace
    rcases h with h | h <;> exact absurd (h.symm.trans hplace) (by simp)

/-- After a step a thread still receives only from sockets that it has. -/
theorem Sound.step (h : Sound t) (D : Digests) (pAuth : Option IStunAuth)
    (queue : SocketRole → List CStunSocketThread.Datagram) : Sound (t.step D pAuth queue).1 := by
  -- Only `waiting` needs the rotation, which the step to it takes modulo the number of sockets.
  unfold ListeningThread.step
  cases hplace : t.place with
  | exited => exact h
  | head =>
    dsimp only
    split_ifs with hflag hmulti
    · exact .of_place (.inr rfl)
    · refine ⟨fun _ => Nat.mod_lt _ ?_, fun _ hno => by cases hno⟩
      unfold fMultiSocketMode at hmulti
      exact Nat.zero_lt_of_lt (of_decide_eq_true hmulti)
    · cases hsock : t.socks[0]? with
      | none => exact h
      | some pSocket =>
        refine ⟨fun hno => (by cases hno), ?_⟩
        rintro _ ⟨⟩
        exact List.mem_of_getElem? hsock
  | waiting =>
    dsimp only
    cases hready : readySocket t.socks t.rotation fun role => (queue role).length > 0 with
    | none => exact h
    | some pSocket =>
      cases hflag : t.fNeedToExit with
      | true => exact .of_place (.inr (by simp))
      | false =>
        refine ⟨fun hno => (by simp at hno), fun pSocket' hplace' => ?_⟩
        simp at hplace'
        exact hplace' ▸ mem_of_readySocket hready
  | receiving pSocket =>
    dsimp only
    cases hqueue : queue pSocket with
    | nil =>
      dsimp only
      split_ifs
      · exact .of_place (.inl rfl)
      · exact h
    | cons d rest =>
      dsimp only
      split_ifs
      · exact .of_place (.inr rfl)
      · exact .of_place (.inl rfl)

/-- A thread in which `select` fails still receives only from sockets that it has. -/
theorem Sound.selectFails (h : Sound t) : Sound t.selectFails := by
  unfold ListeningThread.selectFails
  cases hplace : t.place with
  | waiting =>
    dsimp only
    cases hready : readySocket t.socks t.rotation fun _ => true with
    | none => exact h
    | some pSocket =>
      cases hflag : t.fNeedToExit with
      | true => exact .of_place (.inr (by simp))
      | false =>
        refine ⟨fun hno => (by simp at hno), fun pSocket' hplace' => ?_⟩
        simp at hplace'
        exact hplace' ▸ mem_of_readySocket hready
  | _ => exact h

/-- A thread that was told to exit and is in `select` exits when this fails. -/
theorem Sound.selectFails_exits (h : Sound t) (hflag : t.fNeedToExit = true)
    (hplace : t.place = .waiting) : t.selectFails.place = .exited := by
  have hrotation := h.rotation_lt hplace
  obtain ⟨role, hmem⟩ := List.length_pos_iff_exists_mem.mp (Nat.zero_lt_of_lt hrotation)
  obtain ⟨pSocket, hready⟩ := exists_readySocket (fun _ => true) hrotation hmem rfl
  unfold ListeningThread.selectFails
  rw [hplace]
  simp only [hready, hflag]
  rfl

/-- A thread that fails to receive still receives only from sockets that it has. -/
theorem Sound.failsToReceive (h : Sound t) : Sound t.failsToReceive := by
  unfold ListeningThread.failsToReceive
  cases hplace : t.place with
  | receiving pSocket => exact .of_place (.inl rfl)
  | _ => exact h

/-- The sockets of a thread stay the same. -/
theorem socks_step : (t.step D pAuth queue).1.socks = t.socks := by
  have hstep := t.step_steps D pAuth queue
  generalize t.step D pAuth queue = r at hstep
  cases hstep with
  | moves hsocks _ _ _ _ => exact hsocks
  | drops _ _ _ => rfl
  | handles _ _ _ => rfl

/-- A step of a thread leaves its flag as it is. -/
theorem flag_step : (t.step D pAuth queue).1.fNeedToExit = t.fNeedToExit := by
  have hstep := t.step_steps D pAuth queue
  generalize t.step D pAuth queue = r at hstep
  cases hstep with
  | moves _ hflag _ _ _ => exact hflag
  | drops _ _ _ => rfl
  | handles _ _ _ => rfl

/-- What a thread receives is from one of its sockets. -/
theorem Sound.mem_of_received (h : Sound t) {x : Served}
    {response : Option (SocketRole × CSocketAddress × List UInt8)}
    (hx : (t.step D pAuth queue).2 = some (x, response)) :
    ∃ pSocket ∈ t.socks, ∃ rest, queue pSocket = x.datagram :: rest := by
  have hstep := t.step_steps D pAuth queue
  generalize t.step D pAuth queue = r at hstep hx
  cases hstep with
  | moves _ _ _ _ _ => cases hx
  | drops hplace hqueue _ =>
    cases hx
    exact ⟨_, h.mem _ hplace, _, hqueue⟩
  | handles hplace hqueue _ =>
    cases hx
    exact ⟨_, h.mem _ hplace, _, hqueue⟩

/-- A thread that was told to exit and whose sockets all have something exits with its next step. -/
theorem Sound.exits (h : Sound t) (hflag : t.fNeedToExit = true)
    (hqueue : ∀ role ∈ t.socks, queue role ≠ []) : (t.step D pAuth queue).1.place = .exited := by
  unfold ListeningThread.step
  cases hplace : t.place with
  | exited => exact hplace
  | head => simp [hflag]
  | waiting =>
    have hrotation := h.rotation_lt hplace
    obtain ⟨role, hmem⟩ := List.length_pos_iff_exists_mem.mp (Nat.zero_lt_of_lt hrotation)
    obtain ⟨pSocket, hready⟩ := exists_readySocket (fun role => (queue role).length > 0)
      hrotation hmem (decide_eq_true (List.length_pos_of_ne_nil (hqueue role hmem)))
    simp only [hready, hflag]
    rfl
  | receiving pSocket =>
    obtain ⟨d, rest, hcons⟩ := List.exists_cons_of_ne_nil (hqueue pSocket (h.mem pSocket hplace))
    simp [hcons, hflag]

end ListeningThread

namespace UdpServerState

/-- The threads are sound, and each has its own sockets. -/
structure Apart (st : UdpServerState) : Prop where
  sound : ∀ t ∈ st.threads, ListeningThread.Sound t
  own : ∀ {i j : ℕ} {t t' : ListeningThread} {role : SocketRole}, st.threads[i]? = some t →
    st.threads[j]? = some t' → role ∈ t.socks → role ∈ t'.socks → i = j

/-- The thread was told to exit. Unless it has, its sockets have something. -/
def Told (i : ℕ) (st : UdpServerState) : Prop :=
  ∃ t, st.threads[i]? = some t ∧ t.fNeedToExit = true ∧
    (t.place = .exited ∨ ∀ role ∈ t.socks, st.queue role ≠ [])

variable {D : Digests} {addrLocal : SocketRole → CSocketAddress} {st : UdpServerState} {i : ℕ}

/-- The threads stay apart when a sound one with the same sockets takes the place of one. -/
theorem Apart.set (h : Apart st) {t t' : ListeningThread} (ht : st.threads[i]? = some t)
    (hsound : ListeningThread.Sound t') (hsocks : t'.socks = t.socks) :
    Apart { st with threads := st.threads.set i t' } where
  sound t'' ht'' := by
    rcases List.mem_or_eq_of_mem_set ht'' with hold | rfl
    · exact h.sound t'' hold
    · exact hsound
  own := by
    -- Every thread has the sockets of the one that was there before.
    have hbefore : ∀ {k : ℕ} {u : ListeningThread}, (st.threads.set i t')[k]? = some u →
        ∃ v, st.threads[k]? = some v ∧ v.socks = u.socks := by
      intro k u hu
      by_cases hki : i = k
      · subst hki
        obtain ⟨hlt, -⟩ := List.getElem?_eq_some_iff.mp ht
        rw [List.getElem?_set_self hlt] at hu
        cases hu
        exact ⟨t, ht, hsocks.symm⟩
      · rw [List.getElem?_set_ne hki] at hu
        exact ⟨u, hu, rfl⟩
    intro k l u u' role hu hu' hrole hrole'
    obtain ⟨v, hv, hvsocks⟩ := hbefore hu
    obtain ⟨v', hv', hvsocks'⟩ := hbefore hu'
    exact h.own hv hv' (hvsocks ▸ hrole) (hvsocks' ▸ hrole')

/-- The threads stay apart with other queues or another log. -/
theorem Apart.of_threads (h : Apart st) {st' : UdpServerState} (hsame : st'.threads = st.threads) :
    Apart st' :=
  ⟨hsame ▸ h.sound, by
    intro i j t t' role
    rw [hsame]
    exact h.own⟩

/-- Datagrams that arrive do not change the threads. -/
theorem threads_arrives (st : UdpServerState) (ds : List CStunSocketThread.Datagram) :
    (ds.foldl (fun st d => st.arrive d) st).threads = st.threads := by
  induction ds generalizing st with
  | nil => rfl
  | cons d ds ih => exact ih (st.arrive d)

/-- An action keeps the threads apart. -/
theorem Apart.act (h : Apart st) (action : ServerAction) :
    Apart (UdpServerState.act D addrLocal st action) := by
  -- The threads keep their sockets, whatever they do.
  unfold UdpServerState.act
  cases action with
  | arrive d => exact h.of_threads rfl
  | step j pAuth =>
    dsimp only
    cases ht : st.threads[j]? with
    | none => exact h
    | some t =>
      have hset := h.set ht ((h.sound t (List.mem_of_getElem? ht)).step D pAuth st.queue)
        ListeningThread.socks_step
      dsimp only [Option.elim_some]
      cases (t.step D pAuth st.queue).2 with
      | none => exact hset
      | some x => exact hset.of_threads rfl
  | selectFails j =>
    dsimp only
    cases ht : st.threads[j]? with
    | none => exact h
    | some t =>
      exact h.set ht (h.sound t (List.mem_of_getElem? ht)).selectFails
        (congrArg OwningSocketThread.socks t.selectFails_frame.1)
  | fails j =>
    dsimp only
    cases ht : st.threads[j]? with
    | none => exact h
    | some t =>
      exact h.set ht (h.sound t (List.mem_of_getElem? ht)).failsToReceive t.failsToReceive_frame.1
  | signalForStop j fPostMessages =>
    dsimp only
    cases ht : st.threads[j]? with
    | none => exact h
    | some t =>
      have hsound := h.sound t (List.mem_of_getElem? ht)
      have hset : Apart { st with threads := st.threads.set j { t with fNeedToExit := true } } :=
        h.set ht ⟨hsound.rotation_lt, hsound.mem⟩ rfl
      dsimp only [Option.elim_some]
      split_ifs
      · exact hset.of_threads (threads_arrives _ _)
      · exact hset

/-- A queue that has something still has when a datagram arrives. -/
theorem queue_arrive_ne_nil {role : SocketRole} (d : CStunSocketThread.Datagram)
    (h : st.queue role ≠ [] ∨ d.role = role) : (st.arrive d).queue role ≠ [] := by
  show Function.update st.queue d.role (st.queue d.role ++ [d]) role ≠ []
  rw [Function.update_apply]
  split_ifs with heq
  · simp
  · exact h.resolve_right (Ne.symm heq)

/-- A queue is not empty after several datagrams have arrived, if it was not or one of them is for
it. -/
theorem queue_arrives_ne_nil {role : SocketRole} (ds : List CStunSocketThread.Datagram)
    (h : st.queue role ≠ [] ∨ ∃ d ∈ ds, d.role = role) :
    (ds.foldl (fun st d => st.arrive d) st).queue role ≠ [] := by
  induction ds generalizing st with
  | nil => exact h.resolve_right (by simp)
  | cons d ds ih =>
    refine ih ?_
    rcases h with hold | ⟨d', hd', hrole⟩
    · exact .inl (queue_arrive_ne_nil d (.inl hold))
    · rcases List.mem_cons.mp hd' with rfl | hrest
      · exact .inl (queue_arrive_ne_nil d' (.inr hrole))
      · exact .inr ⟨d', hrest, hrole⟩

/-- A thread that was told takes its next step, and exits. -/
theorem Told.exits (h : Told i st) (hapart : Apart st) (pAuth : Option IStunAuth) :
    ∃ t, (UdpServerState.act D addrLocal st (.step i pAuth)).threads[i]? = some t ∧
      t.fNeedToExit = true ∧ t.place = .exited := by
  obtain ⟨t, ht, hflag, hexit⟩ := h
  have hmem := List.mem_of_getElem? ht
  refine ⟨(t.step D pAuth st.queue).1, ?_, ListeningThread.flag_step.trans hflag, ?_⟩
  · obtain ⟨hlt, -⟩ := List.getElem?_eq_some_iff.mp ht
    unfold UdpServerState.act
    dsimp only
    rw [ht]
    dsimp only [Option.elim_some]
    cases (t.step D pAuth st.queue).2 with
    | none => exact List.getElem?_set_self hlt
    | some x => exact List.getElem?_set_self hlt
  · rcases hexit with hexited | hqueue
    · unfold ListeningThread.step
      rw [hexited]
      exact hexited
    · exact (hapart.sound t hmem).exits hflag hqueue

/-- A thread that has been told to stop stays so when another takes a step, which does not take the
datagrams that wake it up. -/
theorem Told.step_other (h : Told i st) (hapart : Apart st)
    (hqueued : ∀ role, ∀ d ∈ st.queue role, d.role = role) {j : ℕ} (hij : j ≠ i)
    (pAuth : Option IStunAuth) : Told i (UdpServerState.act D addrLocal st (.step j pAuth)) := by
  obtain ⟨t, ht, hflag, hexit⟩ := h
  unfold UdpServerState.act
  dsimp only
  cases hj : st.threads[j]? with
  | none => exact ⟨t, ht, hflag, hexit⟩
  | some t' =>
    have hsame : (st.threads.set j (t'.step D pAuth st.queue).1)[i]? = some t :=
      (List.getElem?_set_ne hij).trans ht
    dsimp only [Option.elim_some]
    cases hreceived : (t'.step D pAuth st.queue).2 with
    | none => exact ⟨t, hsame, hflag, hexit⟩
    | some x =>
      refine ⟨t, hsame, hflag, hexit.imp_right fun hqueue role hrole => ?_⟩
      obtain ⟨pSocket, hmem, rest, hcons⟩ :=
        (hapart.sound t' (List.mem_of_getElem? hj)).mem_of_received hreceived
      have hne : role ≠ x.1.datagram.role := by
        rintro rfl
        rw [hqueued pSocket _ (hcons ▸ List.mem_cons_self)] at hrole
        exact hij (hapart.own hj ht hmem hrole)
      exact (Function.update_of_ne hne _ _).trans_ne (hqueue role hrole)

/-- A thread is told, and its sockets send to themselves. -/
theorem told_of_signalForStop {t : ListeningThread} (ht : st.threads[i]? = some t) :
    Told i (UdpServerState.act D addrLocal st (.signalForStop i true)) := by
  obtain ⟨hlt, -⟩ := List.getElem?_eq_some_iff.mp ht
  unfold UdpServerState.act
  dsimp only
  rw [ht]
  refine ⟨{ t with fNeedToExit := true }, ?_, rfl, .inr fun role hrole => ?_⟩
  · dsimp only [Option.elim_some]
    rw [if_pos rfl, threads_arrives]
    exact List.getElem?_set_self hlt
  · exact queue_arrives_ne_nil _ (.inr ⟨stopMessage addrLocal role, List.mem_map_of_mem hrole, rfl⟩)

/-- A thread that has been told to stop stays so whoever else is told, or told again. -/
theorem Told.signalForStop (h : Told i st) (j : ℕ) (fPostMessages : Bool) :
    Told i (UdpServerState.act D addrLocal st (.signalForStop j fPostMessages)) := by
  obtain ⟨t, ht, hflag, hexit⟩ := h
  obtain ⟨hlt, -⟩ := List.getElem?_eq_some_iff.mp ht
  unfold UdpServerState.act
  dsimp only
  cases hj : st.threads[j]? with
  | none => exact ⟨t, ht, hflag, hexit⟩
  | some t' =>
    have hset : (st.threads.set j { t' with fNeedToExit := true })[i]? = some t := by
      by_cases hij : j = i
      · subst hij
        obtain rfl := Option.some.inj (ht.symm.trans hj)
        rw [List.getElem?_set_self hlt, ← hflag]
      · exact (List.getElem?_set_ne hij).trans ht
    dsimp only [Option.elim_some]
    split_ifs
    · refine ⟨t, by rw [threads_arrives]; exact hset, hflag,
        hexit.imp_right fun hqueue role hrole => ?_⟩
      exact queue_arrives_ne_nil _ (.inl (hqueue role hrole))
    · exact ⟨t, hset, hflag, hexit⟩

/-- A thread that was told to exit stays so whatever happens. -/
theorem Told.act (h : Told i st) (hapart : Apart st)
    (hqueued : ∀ role, ∀ d ∈ st.queue role, d.role = role) (action : ServerAction) :
    Told i (UdpServerState.act D addrLocal st action) := by
  -- What comes in only lengthens the queues, and the flag is never taken back.
  cases action with
  | arrive d =>
    obtain ⟨t, ht, hflag, hexit⟩ := h
    exact ⟨t, ht, hflag, hexit.imp_right fun hqueue role hrole =>
      queue_arrive_ne_nil d (.inl (hqueue role hrole))⟩
  | step j pAuth =>
    by_cases hij : j = i
    · subst hij
      have hexits : ∃ t, (UdpServerState.act D addrLocal st (.step j pAuth)).threads[j]? = some t ∧
          t.fNeedToExit = true ∧ t.place = .exited := h.exits hapart pAuth
      obtain ⟨t, ht, hflag, hexited⟩ := hexits
      exact ⟨t, ht, hflag, .inl hexited⟩
    · -- Another thread takes nothing from the queues of this one's sockets.
      exact h.step_other hapart hqueued hij pAuth
  | selectFails j =>
    obtain ⟨t, ht, hflag, hexit⟩ := h
    unfold UdpServerState.act
    dsimp only
    by_cases hij : j = i
    · subst hij
      obtain ⟨hlt, -⟩ := List.getElem?_eq_some_iff.mp ht
      obtain ⟨hthread, hkeeps, -, hstays⟩ := t.selectFails_frame
      rw [ht]
      exact ⟨t.selectFails, List.getElem?_set_self hlt, hkeeps.trans hflag,
        hexit.imp hstays fun hqueue => hthread ▸ hqueue⟩
    · refine ⟨t, ?_, hflag, ?_⟩
      · cases st.threads[j]? with
        | none => exact ht
        | some t' => exact (List.getElem?_set_ne hij).trans ht
      · cases st.threads[j]? with
        | none => exact hexit
        | some t' => exact hexit
  | fails j =>
    obtain ⟨t, ht, hflag, hexit⟩ := h
    unfold UdpServerState.act
    dsimp only
    by_cases hij : j = i
    · subst hij
      obtain ⟨hlt, -⟩ := List.getElem?_eq_some_iff.mp ht
      obtain ⟨hsocks, hkeeps, -⟩ := t.failsToReceive_frame
      rw [ht]
      refine ⟨t.failsToReceive, List.getElem?_set_self hlt, hkeeps.trans hflag, ?_⟩
      refine hexit.imp (fun hexited => ?_) fun hqueue => hsocks ▸ hqueue
      unfold ListeningThread.failsToReceive
      rw [hexited]
      exact hexited
    · refine ⟨t, ?_, hflag, ?_⟩
      · cases st.threads[j]? with
        | none => exact ht
        | some t' => exact (List.getElem?_set_ne hij).trans ht
      · cases st.threads[j]? with
        | none => exact hexit
        | some t' => exact hexit
  | signalForStop j fPostMessages => exact h.signalForStop j fPostMessages

/-- The thread is out of its loop. -/
def Ended (i : ℕ) (st : UdpServerState) : Prop := ∃ t, st.threads[i]? = some t ∧ t.place = .exited

/-- A thread that has ended does nothing more. -/
theorem Ended.act (h : Ended i st) (action : ServerAction) :
    Ended i (UdpServerState.act D addrLocal st action) := by
  obtain ⟨t, ht, hexited⟩ := h
  obtain ⟨hlt, -⟩ := List.getElem?_eq_some_iff.mp ht
  -- Some thread was replaced, and this one only by one that has ended.
  have hset : ∀ {j : ℕ} {t' : ListeningThread} (t'' : ListeningThread), st.threads[j]? = some t' →
      (t'.place = .exited → t''.place = .exited) →
        ∃ t, (st.threads.set j t'')[i]? = some t ∧ t.place = .exited := by
    intro j t' t'' ht' hstays
    by_cases hij : j = i
    · subst hij
      obtain rfl := Option.some.inj (ht.symm.trans ht')
      exact ⟨t'', List.getElem?_set_self hlt, hstays hexited⟩
    · exact ⟨t, (List.getElem?_set_ne hij).trans ht, hexited⟩
  unfold UdpServerState.act
  cases action with
  | arrive d => exact ⟨t, ht, hexited⟩
  | step j pAuth =>
    dsimp only
    cases hj : st.threads[j]? with
    | none => exact ⟨t, ht, hexited⟩
    | some t' =>
      have hnext := hset (t'.step D pAuth st.queue).1 hj fun hplace => by
        unfold ListeningThread.step
        rw [hplace]
        exact hplace
      dsimp only [Option.elim_some]
      cases (t'.step D pAuth st.queue).2 with
      | none => exact hnext
      | some x => exact hnext
  | selectFails j =>
    dsimp only
    cases hj : st.threads[j]? with
    | none => exact ⟨t, ht, hexited⟩
    | some t' => exact hset t'.selectFails hj t'.selectFails_frame.2.2.2
  | fails j =>
    dsimp only
    cases hj : st.threads[j]? with
    | none => exact ⟨t, ht, hexited⟩
    | some t' =>
      refine hset t'.failsToReceive hj fun hplace => ?_
      unfold ListeningThread.failsToReceive
      rw [hplace]
      exact hplace
  | signalForStop j fPostMessages =>
    dsimp only
    cases hj : st.threads[j]? with
    | none => exact ⟨t, ht, hexited⟩
    | some t' =>
      have hnext := hset { t' with fNeedToExit := true } hj fun hplace => hplace
      dsimp only [Option.elim_some]
      split_ifs
      · unfold Ended
        rw [threads_arrives]
        exact hnext
      · exact hnext

/-! ## Every run -/

variable {server : CStunServer} {actions : ℕ → ServerAction} {config : CStunServerConfig} {n : ℕ}

/-- No socket has two threads. -/
theorem listens_own {i j : ℕ} {socks socks' : List SocketRole} {role : SocketRole}
    (h : config.listens[i]? = some socks) (h' : config.listens[j]? = some socks')
    (hrole : role ∈ socks) (hrole' : role ∈ socks') : i = j := by
  unfold CStunServerConfig.listens at h h'
  split_ifs at h h'
  · obtain ⟨hi, -⟩ := List.getElem?_eq_some_iff.mp h
    obtain ⟨hj, -⟩ := List.getElem?_eq_some_iff.mp h'
    exact (Nat.lt_one_iff.mp hi).trans (Nat.lt_one_iff.mp hj).symm
  · rw [List.getElem?_map, Option.map_eq_some_iff] at h h'
    obtain ⟨r, hr, rfl⟩ := h
    obtain ⟨r', hr', rfl⟩ := h'
    obtain rfl := List.mem_singleton.mp hrole
    obtain rfl := List.mem_singleton.mp hrole'
    have hnodup : CTCPStunThread.roles.Nodup := by decide
    obtain ⟨hi, -⟩ := List.getElem?_eq_some_iff.mp hr
    exact (List.getElem?_inj hi (hnodup.filter _)).mp (hr.trans hr'.symm)

/-- The threads of a server that was initialized are apart. -/
theorem apart_start (h : server.threads.map OwningSocketThread.socks = config.listens) :
    Apart (start server) where
  sound t ht := by
    obtain ⟨thread, -, rfl⟩ := List.mem_map.mp ht
    exact .of_place (.inl rfl)
  own := by
    have hlistens : ∀ {k : ℕ} {t : ListeningThread}, (start server).threads[k]? = some t →
        config.listens[k]? = some t.socks := by
      intro k t ht
      rw [← h, List.getElem?_map]
      obtain ⟨thread, hthread, rfl⟩ := Option.map_eq_some_iff.mp
        ((List.getElem?_map (l := server.threads)).symm.trans ht)
      rw [hthread]
      rfl
    intro i j t t' role ht ht' hrole hrole'
    exact listens_own (hlistens ht) (hlistens ht') hrole hrole'

/-- In every state of a run the threads are apart. -/
theorem apart_stateAt (h : Apart (start server)) (n : ℕ) :
    Apart (stateAt D addrLocal server actions n) := by
  induction n with
  | zero => exact h
  | succ n ih => exact ih.act (actions n)

/-- A thread of a server that was initialized has ended after the first step that it takes when it
was told to exit, with the datagrams that wake it up, whatever comes between and afterwards. -/
theorem ended_of_step {a : SocketAnswers} {provider : ObjId} {server₀ : CStunServer}
    {objects₀ objects : Objects}
    (hinit : CStunServer.initialize_ config a provider (server₀, objects₀) =
      .ok () (server, objects))
    {i n k m : ℕ} {pAuth : Option IStunAuth} (hi : i < server.threads.length)
    (htold : actions n = .signalForStop i true) (hlater : n < k) (hstep : actions k = .step i pAuth)
    (hm : k < m) : Ended i (stateAt D addrLocal server actions m) := by
  obtain ⟨-, hlistens, hinitialized⟩ := CStunServer.initialize_listens hinit
  have hapart := apart_start hlistens
  have hthreads : ∀ n, (stateAt D addrLocal server actions n).threads.length =
      server.threads.length :=
    fun n => (grows (Nat.zero_le n)).count.trans (List.length_map _)
  have hstops : Told i (stateAt D addrLocal server actions (n + 1)) := by
    show Told i (act D addrLocal (stateAt D addrLocal server actions n) (actions n))
    rw [htold]
    exact told_of_signalForStop (List.getElem?_eq_getElem ((hthreads n).symm ▸ hi))
  have hstill : Told i (stateAt D addrLocal server actions k) :=
    holds_from hstops (fun j _ hj => hj.act (apart_stateAt hapart j)
      (inv_stateAt hinitialized j).queued (actions j)) hlater
  have hended : Ended i (stateAt D addrLocal server actions (k + 1)) := by
    obtain ⟨t, ht, -, hexited⟩ := hstill.exits (apart_stateAt hapart k) pAuth
    show Ended i (act D addrLocal (stateAt D addrLocal server actions k) (actions k))
    rw [hstep]
    exact ⟨t, ht, hexited⟩
  exact holds_from hended (fun j _ hj => hj.act (actions j)) hm

/-- However a server that was initialized is run: a thread that was told to exit, with the datagrams
that wake it up, ends with the next step that it takes, and when each of the threads was told and
takes a step after that, all of them end. Until then the network may send anything, the threads may
fail to receive, and they may take their steps in any order. -/
theorem stop_ends {a : SocketAnswers} {provider : ObjId} {server₀ : CStunServer}
    {objects₀ objects : Objects}
    (hinit : CStunServer.initialize_ config a provider (server₀, objects₀) =
      .ok () (server, objects)) :
    (∀ i n k pAuth, i < server.threads.length → actions n = .signalForStop i true → n < k →
      actions k = .step i pAuth → ∀ m > k, Ended i (stateAt D addrLocal server actions m)) ∧
    ((∀ i < server.threads.length, ∃ n k pAuth, actions n = .signalForStop i true ∧ n < k ∧
      actions k = .step i pAuth) →
      ∃ m, ∀ k ≥ m, ∀ t ∈ (stateAt D addrLocal server actions k).threads, t.place = .exited) := by
  refine ⟨fun i n k pAuth hi htold hlater hstep m hm =>
    ended_of_step hinit hi htold hlater hstep hm, fun hstop => ?_⟩
  have hends : ∀ i < server.threads.length, ∀ᶠ k in atTop,
      Ended i (stateAt D addrLocal server actions k) := by
    intro i hi
    obtain ⟨n, k, pAuth, htold, hlater, hstep⟩ := hstop i hi
    exact eventually_atTop.mpr ⟨k + 1, fun m hm => ended_of_step hinit hi htold hlater hstep hm⟩
  -- There are finitely many threads, so from some time on all of them have ended.
  have hall : ∀ᶠ k in atTop, ∀ i ∈ Finset.range server.threads.length,
      Ended i (stateAt D addrLocal server actions k) :=
    (eventually_all_finset _).mpr fun i hi => hends i (Finset.mem_range.mp hi)
  obtain ⟨m, hm⟩ := eventually_atTop.mp hall
  refine ⟨m, fun k hk t ht => ?_⟩
  obtain ⟨i, hi⟩ := List.getElem?_of_mem ht
  obtain ⟨hlt, -⟩ := List.getElem?_eq_some_iff.mp hi
  have hcount : (stateAt D addrLocal server actions k).threads.length = server.threads.length :=
    (grows (Nat.zero_le k)).count.trans (List.length_map _)
  obtain ⟨t', ht', hexited⟩ := hm k hk i (Finset.mem_range.mpr (hcount ▸ hlt))
  obtain rfl := Option.some.inj (hi.symm.trans ht')
  exact hexited

/-- A request arrives, the thread is told, and takes one more step, after another request. -/
def stopActions : ℕ → ServerAction
  | 0 => .arrive bindingRequest
  | 1 => .step 0 none
  | 2 => .signalForStop 0 true
  | 3 => .arrive otherRequest
  | 4 => .step 0 none
  | _ + 5 => .arrive bindingRequest

/-- The thread of two sockets ends with this step. -/
theorem stop_ends_twoSockets :
    (∀ m > 4,
      Ended 0 (stateAt CStunMessageReader.crcDigests (fun _ => .zero) (twoSocketsServer false).1
      stopActions m)) ∧
    ∃ m, ∀ k ≥ m, ∀ t ∈ (stateAt CStunMessageReader.crcDigests (fun _ => .zero)
      (twoSocketsServer false).1 stopActions k).threads, t.place = .exited := by
  have hinit : CStunServer.initialize_ { twoSockets with fMultiThreadedMode := false }
      ⟨fun _ => S_OK, fun _ => S_OK⟩ 0 ({}, fun _ => {}) =
        .ok () ((twoSocketsServer false).1, (twoSocketsServer false).2) := rfl
  obtain ⟨hended, hall⟩ :=
    @stop_ends CStunMessageReader.crcDigests (fun _ => .zero) _ stopActions _ _ _ _
    _ _ hinit
  refine ⟨fun m hm => hended 0 2 4 none Nat.one_pos rfl (by decide) rfl m hm, hall fun i hi => ?_⟩
  obtain rfl : i = 0 := Nat.lt_one_iff.mp hi
  exact ⟨2, 4, none, rfl, by decide, rfl⟩

end UdpServerState

end Stun
