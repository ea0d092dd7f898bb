import Mathlib.Data.Finset.Card
import StunForAndroid.NetworkUtils.PollCalls
import StunForAndroid.NetworkUtils.Polling

/-!
# `CPoll` as an `IPolling`

What a thread does with the `IPolling` that `CreatePollingInstance` of
`src/networkutils/polling.cpp` gives it where there is no epoll. What `poll` answers is part of the
state, call by call. Which events a descriptor is polled for is left out as in `IPolling`: `poll`
may report any.

To a caller that never polls more descriptors than there is room for, the object is two sets: the
descriptors that are polled, and those of them with an event that is still to be handed out
(`PollInstance.Polls`).
-/

namespace Stun

/-- `CPoll`, with the system's side of it. -/
structure PollInstance (maxSockets tableWidth : ℕ) where
  /-- The object, until a null pointer is written through. -/
  cpoll : Option (CPoll maxSockets tableWidth)
  /-- What `poll` does at each call to come. After them it reports nothing. -/
  polls : List PollReturn

namespace CPoll

variable {maxSockets tableWidth : ℕ}

/-- The descriptors of the entries. -/
def polledFds (p : CPoll maxSockets tableWidth) : List ℤ := p.fds.map Pollfd.fd

/-- The descriptors with an event that is pending. -/
def pendingFds (p : CPoll maxSockets tableWidth) : List ℤ := p.pending.map Prod.fst

/-- An event that is pending is of a descriptor that is polled. -/
theorem pendingFds_subset (p : CPoll maxSockets tableWidth) : p.pendingFds ⊆ p.polledFds :=
  (eventsOf_sublist p.fds).subset

section Consistent

variable [NeZero maxSockets] [NeZero tableWidth]

/-- The table is right, and every event that is pending is counted. -/
structure Consistent (p : CPoll maxSockets tableWidth) : Prop where
  tabled : Tabled p
  covered : Covered p

/-- The polling is consistent after `Initialize`. -/
theorem consistent_initialized : Consistent (initialize_ maxSockets tableWidth) :=
  ⟨tabled_initialized, Nat.zero_le _⟩

variable {p : CPoll maxSockets tableWidth} (hc : Consistent p)
include hc

/-- No descriptor has two events. -/
theorem Consistent.nodup : p.pendingFds.Nodup :=
  (eventsOf_sublist p.fds).nodup hc.tabled.distinct

/-- `FindNextEvent` hands out an event if one is pending. -/
theorem Consistent.findNextEvent_spec :
    Consistent p.findNextEvent.2 ∧ p.findNextEvent.2.polledFds = p.polledFds ∧
      match p.findNextEvent.1 with
      | none => p.pendingFds = [] ∧ p.findNextEvent.2.pendingFds = []
      | some event => p.pendingFds.Perm (event.fd :: p.findNextEvent.2.pendingFds) := by
  have ht := hc.tabled
  rcases p.findNextEvent_cases with ⟨q, hfind, hnone⟩ | ⟨fd, revents, q, hfind, hfinds⟩
  · rw [hfind]
    have hfds : q.polledFds = p.polledFds := congrArg (List.map Pollfd.fd) hnone.fds_eq
    have hempty : p.pending = [] := by
      rcases hnone.none_left with hcount | hempty
      · exact List.eq_nil_of_length_eq_zero (Nat.le_zero.mp (hcount ▸ hc.covered))
      · exact hempty
    have hempty' : q.pending = [] := (congrArg eventsOf hnone.fds_eq).trans hempty
    refine ⟨⟨ht.of_eq hfds hnone.hashtable_eq hnone.fInitialized_eq, ?_⟩, hfds, ?_, ?_⟩
    · exact (congrArg List.length hempty').le.trans (Nat.zero_le _)
    · exact congrArg _ hempty
    · exact congrArg _ hempty'
  · rw [hfind]
    have hcovered : q.Covered := by
      have hlength := hfinds.pending_perm.length_eq
      rw [List.length_cons] at hlength
      have hle : (eventsOf p.fds).length ≤ p.unreadcount := hc.covered
      rw [hlength, hfinds.unreadcount_eq] at hle
      exact Nat.le_of_succ_le_succ hle
    exact ⟨⟨ht.of_eq hfinds.fds_eq hfinds.hashtable_eq hfinds.fInitialized_eq, hcovered⟩,
      hfinds.fds_eq, hfinds.pending_perm.map Prod.fst⟩

/-- What `WaitForNextEvent` hands out: an event that is pending, or else one that `poll` reports, or
none. -/
inductive Delivers (p : CPoll maxSockets tableWidth) (r : CallResult)
    (p' : CPoll maxSockets tableWidth) : Prop
  | nothing (hr : r.hr ≠ S_OK) (hpending : p.pendingFds = []) (hpending' : p'.pendingFds = [])
  | next (hr : r.hr = S_OK) (event : PollEvent) (hevent : r.pPollEvent = some event)
      (hpending : p.pendingFds.Perm (event.fd :: p'.pendingFds))
  | polled (hr : r.hr = S_OK) (event : PollEvent) (hevent : r.pPollEvent = some event)
      (hpending : p.pendingFds = []) (hpolled : event.fd ∈ p.polledFds)

/-- `WaitForNextEvent` keeps the polling consistent, polls the same descriptors and delivers an
event that is pending, or none. -/
theorem Consistent.waitForNextEvent_spec (event : PollEvent) (poll : PollReturn) :
    Consistent (p.waitForNextEvent (some event) poll).2 ∧
      (p.waitForNextEvent (some event) poll).2.polledFds = p.polledFds ∧
      Delivers p (p.waitForNextEvent (some event) poll).1
        (p.waitForNextEvent (some event) poll).2 := by
  have hfalse : S_FALSE ≠ S_OK := by decide
  obtain ⟨hcq, hfds, hfound⟩ := hc.findNextEvent_spec
  unfold CPoll.waitForNextEvent
  rw [if_neg (by simp [hc.tabled.initialized])]
  dsimp only
  split
  next hlength =>
    have hnone : p.pendingFds = [] := by
      unfold pendingFds pending
      rw [List.eq_nil_of_length_eq_zero hlength]
      rfl
    exact ⟨hc, rfl, .nothing hfalse hnone hnone⟩
  generalize p.findNextEvent = found at hcq hfds hfound
  obtain ⟨_ | delivered, q⟩ := found
  · obtain ⟨hnone, hnone'⟩ := hfound
    have hnil : q.pending = [] := List.map_eq_nil_iff.mp hnone'
    cases poll with
    | error errno =>
      have hcovered : Covered { q with unreadcount := 0 } := (congrArg List.length hnil).le
      exact ⟨⟨hcq.tabled.of_eq rfl rfl rfl, hcovered⟩, hfds,
        .nothing (failed_ERRNOHR errno).ne hnone hnone'⟩
    | ready revents =>
      -- The entries with their events, before one is looked for.
      obtain ⟨p₁, hp₁⟩ : ∃ p₁ : CPoll maxSockets tableWidth, p₁ = { q with
        fds := pollEntries revents q.fds
        unreadcount := (eventsOf (pollEntries revents q.fds)).length } := ⟨_, rfl⟩
      have hfds₁ : p₁.polledFds = p.polledFds := by
        rw [hp₁]
        exact (map_fd_pollEntries revents q.fds).trans hfds
      have hc₁ : Consistent p₁ :=
        ⟨hcq.tabled.of_eq (hfds₁.trans hfds.symm) (by rw [hp₁]) (by rw [hp₁]),
          by rw [hp₁]; exact le_rfl⟩
      obtain ⟨hcq', hfds', hfound'⟩ := hc₁.findNextEvent_spec
      dsimp only
      split
      next hreported =>
        have hnil₁ : eventsOf (pollEntries revents q.fds) = [] :=
          List.eq_nil_of_length_eq_zero hreported
        refine ⟨⟨hc₁.tabled.of_eq (by rw [hp₁]) (by rw [hp₁]) (by rw [hp₁]), ?_⟩,
          (map_fd_pollEntries revents q.fds).trans hfds, .nothing hfalse hnone ?_⟩
        · exact (congrArg List.length hnil₁).le.trans (Nat.zero_le _)
        · exact congrArg (List.map Prod.fst) hnil₁
      rw [← hp₁]
      generalize p₁.findNextEvent = found' at hcq' hfds' hfound'
      obtain ⟨_ | delivered, q'⟩ := found'
      · exact ⟨hcq', hfds'.trans hfds₁, .nothing hfalse hnone hfound'.2⟩
      · refine ⟨hcq', hfds'.trans hfds₁, .polled rfl delivered rfl hnone ?_⟩
        exact hfds₁ ▸ p₁.pendingFds_subset (hfound'.mem_iff.mpr List.mem_cons_self)
  · exact ⟨hcq, hfds, .next rfl delivered rfl hfound⟩

/-- `ChangeEventSet` leaves both sets. -/
theorem Consistent.changeEventSet_spec (fd : ℤ) (eventflags : UInt32) :
    Consistent (p.changeEventSet fd eventflags).2 ∧
      (p.changeEventSet fd eventflags).2.polledFds = p.polledFds ∧
      (p.changeEventSet fd eventflags).2.pendingFds = p.pendingFds := by
  unfold CPoll.changeEventSet
  split
  next => exact ⟨hc, rfl, rfl⟩
  next pos _ =>
    have hmodify : ∀ {β : Type} (f : Pollfd → β)
        (_ : ∀ e : Pollfd, f { e with events := (toNativeFlags eventflags).toUInt16 } = f e),
        (p.fds.modify pos fun e =>
          { e with events := (toNativeFlags eventflags).toUInt16 }).map f = p.fds.map f := by
      intro β f hf
      apply List.ext_getElem?
      intro i
      rw [List.getElem?_map, List.getElem?_map, List.getElem?_modify]
      split
      · simp [Function.comp_def, hf]
      · simp
    have hevents := congrArg (List.filter (·.2 ≠ 0))
      (hmodify (fun e => (e.fd, e.revents)) fun _ => rfl)
    rw [List.filter_map, List.filter_map] at hevents
    have hfds := hmodify Pollfd.fd fun _ => rfl
    refine ⟨⟨hc.tabled.of_eq hfds rfl rfl, ?_⟩, hfds, congrArg (List.map Prod.fst) hevents⟩
    exact (congrArg List.length hevents).le.trans hc.covered

/-- `Remove` succeeds for a descriptor that is polled, and takes it out of both sets. -/
theorem Consistent.remove_spec (fd : ℤ) :
    ∃ r p', p.remove fd = some (r, p') ∧ Consistent p' ∧ (fd ∈ p.polledFds → r = S_OK) ∧
      (∀ fd', fd' ∈ p'.polledFds ↔ fd' ∈ p.polledFds ∧ fd' ≠ fd) ∧
      ∀ fd', fd' ∈ p'.pendingFds ↔ fd' ∈ p.pendingFds ∧ fd' ≠ fd := by
  by_cases hfd : fd ∈ p.polledFds
  · -- The entry goes, with an event of it that was not handed out.
    obtain ⟨pos, hpos⟩ := exists_place_iff.mpr hfd
    obtain ⟨e, he, rfl⟩ := Option.map_eq_some_iff.mp hpos
    obtain ⟨p', hremove, ht', hperm, hcount⟩ := hc.tabled.remove_ok he rfl
    have hpending := eventsOf_remove hc.tabled.distinct hperm
    have hfds : p.polledFds.Perm (e.fd :: p'.polledFds) := hperm.map Pollfd.fd
    have hnotMem := (List.nodup_cons.mp (hfds.nodup_iff.mp hc.tabled.distinct)).1
    refine ⟨S_OK, p', hremove, ⟨ht', ?_⟩, fun _ => rfl, fun fd' => ?_, fun fd' => ?_⟩
    · calc p'.pending.length = (p.pending.filter (·.1 ≠ e.fd)).length := hpending.length_eq
        _ ≤ p.pending.length := List.length_filter_le _ _
        _ ≤ p.unreadcount := hc.covered
        _ = p'.unreadcount := hcount.symm
    · rw [hfds.mem_iff, List.mem_cons]
      constructor
      · intro hmem
        refine ⟨.inr hmem, ?_⟩
        rintro rfl
        exact hnotMem hmem
      · rintro ⟨heq | hmem, hne⟩
        · exact absurd heq hne
        · exact hmem
    · show fd' ∈ (eventsOf p'.fds).map Prod.fst ↔ fd' ∈ (eventsOf p.fds).map Prod.fst ∧ fd' ≠ e.fd
      rw [(hpending.map Prod.fst).mem_iff]
      simp only [List.mem_map, List.mem_filter, decide_eq_true_eq]
      constructor
      · rintro ⟨x, ⟨hx, hne⟩, rfl⟩
        exact ⟨⟨x, hx, rfl⟩, hne⟩
      · rintro ⟨⟨x, hx, rfl⟩, hne⟩
        exact ⟨x, ⟨hx, hne⟩, rfl⟩
  · -- There is nothing to remove.
    refine ⟨E_FAIL, p, hc.tabled.remove_unknown hfd, hc, fun h => absurd h hfd, fun fd' => ?_,
      fun fd' => ?_⟩
    · refine (and_iff_left_of_imp ?_).symm
      rintro hmem rfl
      exact hfd hmem
    · refine (and_iff_left_of_imp ?_).symm
      rintro hmem rfl
      exact hfd (p.pendingFds_subset hmem)

/-- `Add` of another descriptor succeeds if there is room, and it has no event yet. -/
theorem Consistent.add_spec {fd : ℤ} (hfd : fd ∉ p.polledFds)
    (hroom : p.polledFds.length < maxSockets) (eventflags : UInt32) :
    (p.add fd eventflags).1 = S_OK ∧ Consistent (p.add fd eventflags).2 ∧
      (p.add fd eventflags).2.polledFds = p.polledFds ++ [fd] ∧
      (p.add fd eventflags).2.pendingFds = p.pendingFds := by
  have hlt : p.fds.length < maxSockets := by
    rwa [polledFds, List.length_map] at hroom
  have ht' := hc.tabled.add_ok hfd hlt eventflags
  rw [hc.tabled.add_new hfd] at ht' ⊢
  have hpending : ∀ entry : Pollfd, entry.revents = 0 →
      eventsOf (p.fds ++ [entry]) = eventsOf p.fds := by
    intro entry hentry
    simp [eventsOf, hentry]
  refine ⟨rfl, ⟨ht', ?_⟩, ?_, congrArg (List.map Prod.fst) (hpending _ rfl)⟩
  · exact (congrArg List.length (hpending _ rfl)).le.trans hc.covered
  · simp [polledFds]

end Consistent

end CPoll

namespace PollInstance

variable {maxSockets tableWidth : ℕ} [NeZero maxSockets] [NeZero tableWidth]

/-- After `Initialize`. -/
def initialize_ (maxSockets tableWidth : ℕ) [NeZero maxSockets] (polls : List PollReturn) :
    PollInstance maxSockets tableWidth :=
  ⟨some (CPoll.initialize_ maxSockets tableWidth), polls⟩

/-- `Add`. -/
def add (fd : ℤ) (q : PollInstance maxSockets tableWidth) :
    HRESULT × PollInstance maxSockets tableWidth :=
  match q.cpoll with
  | none => (E_FAIL, q)
  | some p => ((p.add fd IPOLLING_READ).1, { q with cpoll := some (p.add fd IPOLLING_READ).2 })

/-- `Remove`. -/
def remove (fd : ℤ) (q : PollInstance maxSockets tableWidth) :
    HRESULT × PollInstance maxSockets tableWidth :=
  match q.cpoll.bind (·.remove fd) with
  | none => (E_FAIL, { q with cpoll := none })
  | some (r, p) => (r, { q with cpoll := some p })

/-- `ChangeEventSet`. -/
def changeEventSet (fd : ℤ) (q : PollInstance maxSockets tableWidth) :
    HRESULT × PollInstance maxSockets tableWidth :=
  match q.cpoll with
  | none => (E_FAIL, q)
  | some p => ((p.changeEventSet fd IPOLLING_READ).1,
      { q with cpoll := some (p.changeEventSet fd IPOLLING_READ).2 })

/-- `WaitForNextEvent` with an event that is zero. -/
def waitForNextEvent (q : PollInstance maxSockets tableWidth) :
    PollResult × PollInstance maxSockets tableWidth :=
  match q.cpoll with
  | none => (⟨E_FAIL, 0⟩, q)
  | some p =>
    let r := p.waitForNextEvent (some ⟨0, 0⟩) (q.polls.headD (.ready fun _ => 0))
    (⟨r.1.hr, (r.1.pPollEvent.map PollEvent.fd).getD 0⟩,
      { cpoll := some r.2, polls := if r.1.polled.isSome then q.polls.tail else q.polls })

/-- `CPoll` as an `IPolling`. -/
def polling : IPolling (PollInstance maxSockets tableWidth) where
  add := add
  remove := remove
  changeEventSet := changeEventSet
  waitForNextEvent := waitForNextEvent
  closed := fun _ q => q

/-- Closing a socket is nothing to `CPoll`. -/
theorem drop_eq (sock : ℤ) (q : PollInstance maxSockets tableWidth) :
    polling.drop sock q = (q.remove sock).2 := ite_self _

/-! ## The two sets -/

/-- The instance has an object whose entries are those of a set of descriptors, and those that are
pending are the ones with an event. -/
def Polls (q : PollInstance maxSockets tableWidth) (polled : Set ℤ) (pending : Finset ℤ) : Prop :=
  ∃ p, q.cpoll = some p ∧ p.Consistent ∧ (∀ fd, fd ∈ p.polledFds ↔ fd ∈ polled) ∧
    ∀ fd, fd ∈ p.pendingFds ↔ fd ∈ pending

/-- Nothing is polled and nothing is pending after `Initialize`. -/
theorem polls_initialized (polls : List PollReturn) :
    (initialize_ maxSockets tableWidth polls).Polls ∅ ∅ :=
  ⟨_, rfl, CPoll.consistent_initialized, fun _ => by simp [CPoll.initialize_, CPoll.polledFds],
    fun _ => by simp [CPoll.initialize_, CPoll.pendingFds, CPoll.pending, CPoll.eventsOf]⟩

/-- What `WaitForNextEvent` does to the events: it hands out one that is pending, or else one that
`poll` reports, or none. -/
inductive Delivers (polled : Set ℤ) (pending : Finset ℤ) (r : PollResult)
    (pending' : Finset ℤ) : Prop
  | nothing (hr : r.hr ≠ S_OK) (hpending : pending = ∅) (hpending' : pending' = ∅)
  | next (hr : r.hr = S_OK) (hpolled : r.fd ∈ polled) (hmem : r.fd ∈ pending)
      (hpending' : pending' = pending.erase r.fd)
  | polled (hr : r.hr = S_OK) (hpolled : r.fd ∈ polled) (hpending : pending = ∅)

/-- What is handed out is of a descriptor that is polled. -/
theorem Delivers.mem {polled : Set ℤ} {pending pending' : Finset ℤ} {r : PollResult}
    (h : Delivers polled pending r pending') (hok : r.hr = S_OK) : r.fd ∈ polled := by
  cases h with
  | nothing hr => exact absurd hok hr
  | next _ hpolled => exact hpolled
  | polled _ hpolled => exact hpolled

section Polls

variable {q : PollInstance maxSockets tableWidth} {polled : Set ℤ} {pending : Finset ℤ}
  (hq : q.Polls polled pending)
include hq

/-- There are no more events pending than there is room for. -/
theorem Polls.card_le : pending.card ≤ maxSockets := by
  obtain ⟨p, -, hc, -, hpending⟩ := hq
  have heq : pending = p.pendingFds.toFinset := by
    ext fd
    rw [List.mem_toFinset, hpending]
  rw [heq]
  refine (List.toFinset_card_le _).trans ?_
  refine (CPoll.eventsOf_sublist p.fds).length_le.trans ?_
  rw [List.length_map]
  exact hc.tabled.length_le

/-- `Add` of another descriptor succeeds if all of them have room. -/
theorem Polls.add {fd : ℤ} (hfd : fd ∉ polled) (room : List ℤ)
    (hroom : ∀ fd' ∈ insert fd polled, fd' ∈ room) (hle : room.length ≤ maxSockets) :
    (q.add fd).1 = S_OK ∧ (q.add fd).2.Polls (insert fd polled) pending := by
  obtain ⟨p, hp, hc, hfds, hpending⟩ := hq
  have hnew : fd ∉ p.polledFds := mt (hfds fd).mp hfd
  have hlt : p.polledFds.length < maxSockets := by
    have hsub : fd :: p.polledFds ⊆ room := by
      intro fd' hfd'
      rcases List.mem_cons.mp hfd' with rfl | hfd'
      · exact hroom _ (Set.mem_insert _ _)
      · exact hroom _ (Set.mem_insert_of_mem _ ((hfds fd').mp hfd'))
    exact ((List.nodup_cons.mpr ⟨hnew, hc.tabled.distinct⟩).length_le_of_subset hsub).trans hle
  obtain ⟨hok, hc', hfds', hpending'⟩ := hc.add_spec hnew hlt IPOLLING_READ
  unfold PollInstance.add
  rw [hp]
  refine ⟨hok, _, rfl, hc', fun fd' => ?_, fun fd' => hpending' ▸ hpending fd'⟩
  rw [hfds', List.mem_append, hfds, List.mem_singleton, Set.mem_insert_iff]
  exact or_comm

/-- `Remove` of a polled descriptor succeeds, and afterwards neither it nor an event of it is there.
-/
theorem Polls.remove (fd : ℤ) :
    (fd ∈ polled → (q.remove fd).1 = S_OK) ∧
      (q.remove fd).2.Polls (polled \ {fd}) (pending.erase fd) := by
  obtain ⟨p, hp, hc, hfds, hpending⟩ := hq
  obtain ⟨r, p', hremove, hc', hr, hfds', hpending'⟩ := hc.remove_spec fd
  unfold PollInstance.remove
  rw [hp, Option.bind_some, hremove]
  refine ⟨fun hfd => hr ((hfds fd).mpr hfd), p', rfl, hc', fun fd' => ?_, fun fd' => ?_⟩
  · rw [hfds', hfds, Set.mem_sdiff, Set.mem_singleton_iff]
  · rw [hpending', hpending, Finset.mem_erase, and_comm]

/-- `ChangeEventSet` leaves what is polled and what is pending as it is. -/
theorem Polls.changeEventSet (fd : ℤ) : (q.changeEventSet fd).2.Polls polled pending := by
  obtain ⟨p, hp, hc, hfds, hpending⟩ := hq
  obtain ⟨hc', hfds', hpending'⟩ := hc.changeEventSet_spec fd IPOLLING_READ
  unfold PollInstance.changeEventSet
  rw [hp]
  exact ⟨_, rfl, hc', fun fd' => hfds' ▸ hfds fd', fun fd' => hpending' ▸ hpending fd'⟩

/-- `WaitForNextEvent` leaves what is polled as it is and delivers a pending event, or none. -/
theorem Polls.waitForNextEvent : ∃ pending', q.waitForNextEvent.2.Polls polled pending' ∧
    Delivers polled pending q.waitForNextEvent.1 pending' := by
  obtain ⟨p, hp, hc, hfds, hpending⟩ := hq
  obtain ⟨hc', hfds', hdelivers⟩ :=
    hc.waitForNextEvent_spec ⟨0, 0⟩ (q.polls.headD (.ready fun _ => 0))
  have hnone : ∀ {p' : CPoll maxSockets tableWidth}, p'.pendingFds = [] →
      p'.pendingFds.toFinset = ∅ := fun h => by rw [h, List.toFinset_nil]
  have heq : p.pendingFds.toFinset = pending := by
    ext fd
    rw [List.mem_toFinset, hpending]
  unfold PollInstance.waitForNextEvent
  rw [hp]
  refine ⟨_, ⟨_, rfl, hc', fun fd' => hfds' ▸ hfds fd', fun fd' => List.mem_toFinset.symm⟩, ?_⟩
  cases hdelivers with
  | nothing hr hempty hempty' => exact .nothing hr (heq ▸ hnone hempty) (hnone hempty')
  | next hr event hevent hperm =>
    have hmem := hperm.mem_iff.mpr List.mem_cons_self
    refine .next hr ?_ ?_ ?_ <;> dsimp only <;> rw [hevent]
    · exact (hfds _).mp (p.pendingFds_subset hmem)
    · exact (hpending _).mp hmem
    · have hnodup := hperm.nodup_iff.mp hc.nodup
      rw [← heq, List.toFinset_eq_of_perm _ _ hperm, List.toFinset_cons]
      refine (Finset.erase_insert ?_).symm
      rw [List.mem_toFinset]
      exact (List.nodup_cons.mp hnodup).1
  | polled hr event hevent hempty hmem =>
    refine .polled hr ?_ (heq ▸ hnone hempty)
    dsimp only
    rw [hevent]
    exact (hfds _).mp hmem

end Polls

end PollInstance

end Stun
