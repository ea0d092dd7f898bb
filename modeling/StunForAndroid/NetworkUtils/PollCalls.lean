import Mathlib.Data.List.Induction
import StunForAndroid.NetworkUtils.CPoll

/-!
# Calls of `CPoll`

Any sequence of `Add`, `Remove`, `ChangeEventSet` and `WaitForNextEvent` after `Initialize`. What a
call does to the events that are pending is a sequence of `Moves`: `poll` reports events when none
is pending, an event is delivered, or an entry is removed with its event.

A removal does not lower `_unreadcount`, and an entry that has no room in the table is added to
`_fds` only. `sound_iff_proper` says that nothing else makes the vector, the table and the count
disagree.
-/

namespace Stun

/-- A call of an `IPolling`, with what `poll` does in it. -/
inductive PollCall
  | add (fd : ℤ) (eventflags : UInt32)
  | remove (fd : ℤ)
  | changeEventSet (fd : ℤ) (eventflags : UInt32)
  | waitForNextEvent (pPollEvent : Option PollEvent) (poll : PollReturn)

/-- What happens to the events in a call. -/
inductive PollHappening
  /-- `poll` was called, and reported events. -/
  | polled (reported : List (ℤ × UInt16))
  /-- `WaitForNextEvent` returned an event. -/
  | delivered (fd : ℤ) (eventflags : UInt32)
  /-- `Remove` succeeded. -/
  | removed (fd : ℤ)
deriving DecidableEq

/-- What a caller and the system see of a call. -/
def PollCall.happenings (call : PollCall) (r : CallResult) : List PollHappening :=
  match call with
  | add _ _ => []
  | remove fd => if succeeded r.hr then [.removed fd] else []
  | changeEventSet _ _ => []
  | waitForNextEvent _ _ =>
    r.polled.toList.map .polled ++
      if r.hr = S_OK then r.pPollEvent.toList.map fun event => .delivered event.fd event.eventflags
      else []

namespace CPoll

variable {maxSockets tableWidth : ℕ}

/-- The events that are to be delivered. -/
def pending (p : CPoll maxSockets tableWidth) : List (ℤ × UInt16) := eventsOf p.fds

/-! ## Moves -/

/-- What can happen to the events that are pending and to their count. -/
inductive Move (p : CPoll maxSockets tableWidth) :
    PollHappening → CPoll maxSockets tableWidth → Prop
  | polled (q : CPoll maxSockets tableWidth) : p.pending = [] →
      (q.pending.map Prod.fst).Nodup → q.unreadcount = q.pending.length →
      Move p (.polled q.pending) q
  | delivered (fd : ℤ) (revents : UInt16) (q : CPoll maxSockets tableWidth) :
      p.pending.Perm ((fd, revents) :: q.pending) → p.unreadcount = q.unreadcount + 1 →
      Move p (.delivered fd (fromNativeFlags revents.toUInt32)) q
  | removed (fd : ℤ) (q : CPoll maxSockets tableWidth) :
      q.pending.Perm (p.pending.filter (·.1 ≠ fd)) → q.unreadcount = p.unreadcount →
      Move p (.removed fd) q

/-- One move after the other. -/
inductive Moves : CPoll maxSockets tableWidth → List PollHappening →
    CPoll maxSockets tableWidth → Prop
  | quiet (p q : CPoll maxSockets tableWidth) : q.pending = p.pending →
      q.unreadcount = p.unreadcount → Moves p [] q
  | move {p q q' : CPoll maxSockets tableWidth} {happening : PollHappening}
      {happenings : List PollHappening} : Move p happening q → Moves q happenings q' →
      Moves p (happening :: happenings) q'

/-- A single move is a sequence of moves. -/
theorem Move.moves {p q : CPoll maxSockets tableWidth} {happening : PollHappening}
    (h : Move p happening q) : Moves p [happening] q := .move h (.quiet q q rfl rfl)

/-- Every pending event is counted. -/
def Covered (p : CPoll maxSockets tableWidth) : Prop := p.pending.length ≤ p.unreadcount

/-- A move leaves every pending event counted. -/
theorem Move.covered {p q : CPoll maxSockets tableWidth} {happening : PollHappening}
    (h : Move p happening q) (hcovered : p.Covered) : q.Covered := by
  unfold Covered at *
  cases h with
  | polled _ hempty hnodup hcount => omega
  | delivered fd revents _ hperm hcount =>
    have hlen := hperm.length_eq
    rw [List.length_cons] at hlen
    omega
  | removed fd _ hperm hcount =>
    calc q.pending.length = (p.pending.filter (·.1 ≠ fd)).length := hperm.length_eq
      _ ≤ p.pending.length := List.length_filter_le _ _
      _ ≤ p.unreadcount := hcovered
      _ = q.unreadcount := hcount.symm

/-- Moves leave every pending event counted. -/
theorem Moves.covered {p q : CPoll maxSockets tableWidth} {happenings : List PollHappening}
    (h : Moves p happenings q) (hcovered : p.Covered) : q.Covered := by
  induction h with
  | quiet p q hpending hcount =>
    unfold Covered at *
    rwa [hpending, hcount]
  | move hmove _ ih => exact ih (hmove.covered hcovered)

/-- A move keeps the count exact, unless it removes an entry with its event. -/
theorem Move.exact {p q : CPoll maxSockets tableWidth} {happening : PollHappening}
    (h : Move p happening q) (hexact : p.unreadcount = p.pending.length)
    (hremoved : ∀ fd, happening = .removed fd → fd ∉ p.pending.map Prod.fst) :
    q.unreadcount = q.pending.length := by
  cases h with
  | polled _ hempty hnodup hcount => exact hcount
  | delivered fd revents _ hperm hcount =>
    have hlen := hperm.length_eq
    rw [List.length_cons] at hlen
    omega
  | removed fd _ hperm hcount =>
    have hall : p.pending.filter (·.1 ≠ fd) = p.pending := by
      rw [List.filter_eq_self]
      rintro x hx
      have hne : x.1 ≠ fd := fun heq => hremoved fd rfl (List.mem_map.mpr ⟨x, hx, heq⟩)
      simpa using hne
    rw [hcount, hexact, hperm.length_eq, hall]

/-- Moves that remove nothing keep the count exact. -/
theorem Moves.exact {p q : CPoll maxSockets tableWidth} {happenings : List PollHappening}
    (h : Moves p happenings q) (hexact : p.unreadcount = p.pending.length)
    (hremoved : ∀ fd, .removed fd ∉ happenings) : q.unreadcount = q.pending.length := by
  induction h with
  | quiet p q hpending hcount => rw [hpending, hcount, hexact]
  | move hmove _ ih =>
    refine ih (hmove.exact hexact fun fd heq => ?_) fun fd hmem =>
      hremoved fd (List.mem_cons_of_mem _ hmem)
    exact absurd (heq ▸ List.mem_cons_self) (hremoved fd)

/-! ## The calls -/

section Calls

variable [NeZero maxSockets] [NeZero tableWidth]

/-- A call on the object. -/
def call (c : PollCall) (p : CPoll maxSockets tableWidth) :
    Option (CallResult × CPoll maxSockets tableWidth) :=
  match c with
  | .add fd eventflags =>
    let r := p.add fd eventflags
    some ({ hr := r.1 }, r.2)
  | .remove fd => (p.remove fd).map fun r => ({ hr := r.1 }, r.2)
  | .changeEventSet fd eventflags =>
    let r := p.changeEventSet fd eventflags
    some ({ hr := r.1 }, r.2)
  | .waitForNextEvent pPollEvent poll => some (p.waitForNextEvent pPollEvent poll)

/-- A new descriptor has room in the table. -/
def HasRoom (c : PollCall) (p : CPoll maxSockets tableWidth) : Prop :=
  match c with
  | .add fd _ => fd ∉ p.fds.map Pollfd.fd → p.fds.length < maxSockets
  | _ => True

/-- No event is pending for a descriptor that is removed. -/
def Drained (c : PollCall) (p : CPoll maxSockets tableWidth) : Prop :=
  match c with
  | .remove fd => ∀ e ∈ p.fds, e.fd = fd → e.revents = 0
  | _ => True

/-- What a call comes to: the table is still right, the events have moved, and a call that fails
leaves the vector and the table alone. -/
structure Comes (c : PollCall) (p : CPoll maxSockets tableWidth) (r : CallResult)
    (p' : CPoll maxSockets tableWidth) : Prop where
  call_eq : p.call c = some (r, p')
  tabled : Tabled p'
  moves : Moves p (c.happenings r) p'
  fails : failed r.hr → p'.fds = p.fds ∧ p'.hashtable = p.hashtable

/-- An error number makes a failing code. -/
theorem failed_ERRNOHR (errno : UInt16) : failed (ERRNOHR errno.toNat) := by
  have := errno.toNat_lt
  show (0x88000000 + (errno.toNat : ℤ)) - 2^32 < 0
  omega

section Tabled

variable {p : CPoll maxSockets tableWidth} (ht : Tabled p)
include ht

/-- `WaitForNextEvent` when nothing is pending and `poll` fails. -/
theorem Tabled.comes_pollError {q : CPoll maxSockets tableWidth} (hlen : p.fds.length ≠ 0)
    (hfind : p.findNextEvent = (none, q)) (hnone : FindsNone p q) (hempty : p.pending = [])
    (event : PollEvent) (errno : UInt16) :
    ∃ r p', Comes (.waitForNextEvent (some event) (.error errno)) p r p' := by
  have hinit := ht.initialized
  have hq : pending { q with unreadcount := 0 } = [] := by
    rw [← hempty]
    exact congrArg eventsOf hnone.fds_eq
  have hne : ERRNOHR errno.toNat ≠ S_OK := (failed_ERRNOHR errno).ne
  have hmove := Move.polled (p := p) { q with unreadcount := 0 } hempty
    (by rw [hq]; exact List.nodup_nil) (by rw [hq]; rfl)
  rw [hq] at hmove
  have hcall : p.call (.waitForNextEvent (some event) (.error errno)) = some
      ({ hr := ERRNOHR errno.toNat, pPollEvent := some { event with eventflags := 0 },
         polled := some [] }, { q with unreadcount := 0 }) := by
    simp only [call, waitForNextEvent, hinit, Bool.true_eq_false, if_false, if_neg hlen, hfind]
  refine ⟨_, _, hcall, ht.of_eq (congrArg _ hnone.fds_eq) hnone.hashtable_eq hnone.fInitialized_eq,
    ?_, fun _ => ⟨hnone.fds_eq, hnone.hashtable_eq⟩⟩
  simpa [PollCall.happenings, hne] using hmove.moves

/-- `WaitForNextEvent` when nothing is pending and `poll` gives the entries their events: it
delivers one if there are any. -/
theorem Tabled.comes_pollReady {q : CPoll maxSockets tableWidth} (hlen : p.fds.length ≠ 0)
    (hfind : p.findNextEvent = (none, q)) (hnone : FindsNone p q) (hempty : p.pending = [])
    (event : PollEvent) (revents : ℕ → UInt16) :
    ∃ r p', Comes (.waitForNextEvent (some event) (.ready revents)) p r p' := by
  have hinit := ht.initialized
  -- The object after `poll`, before an event is delivered.
  obtain ⟨p₁, hp₁⟩ : ∃ p₁ : CPoll maxSockets tableWidth, p₁ = { q with
      fds := pollEntries revents q.fds
      unreadcount := (eventsOf (pollEntries revents q.fds)).length } := ⟨_, rfl⟩
  have hpending : p₁.pending = eventsOf (pollEntries revents q.fds) := by
    subst hp₁
    rfl
  have ht₁ : Tabled p₁ := by
    subst hp₁
    refine ht.of_eq ?_ hnone.hashtable_eq hnone.fInitialized_eq
    rw [map_fd_pollEntries, hnone.fds_eq]
  have hpolled : Move p (.polled p₁.pending) p₁ :=
    .polled p₁ hempty ((eventsOf_sublist p₁.fds).nodup ht₁.distinct) (by rw [hp₁]; rfl)
  by_cases hreported : p₁.pending.length = 0
  · have hcall : p.call (.waitForNextEvent (some event) (.ready revents)) = some
        ({ hr := S_FALSE, pPollEvent := some { event with eventflags := 0 },
           polled := some p₁.pending }, p₁) := by
      rw [hpending] at hreported ⊢
      rw [hp₁, hreported]
      simp only [call, waitForNextEvent, hinit, Bool.true_eq_false, if_false, if_neg hlen, hfind,
        if_pos hreported]
    exact ⟨_, _, hcall, ht₁, hpolled.moves,
      fun hfail => absurd hfail (show ¬failed S_FALSE by decide)⟩
  · rcases p₁.findNextEvent_cases with ⟨q', -, hnone'⟩ | ⟨fd, revents', q', hfind', hfinds⟩
    · -- `poll` reported an event, so that one is counted and found.
      refine absurd hnone'.none_left (not_or.mpr ⟨?_, ?_⟩)
      · rw [hp₁, ← hpending]
        exact hreported
      · intro hnil
        exact hreported (congrArg List.length hnil)
    · have hcall : p.call (.waitForNextEvent (some event) (.ready revents)) = some
          ({ hr := S_OK, pPollEvent := some ⟨fd, fromNativeFlags revents'.toUInt32⟩,
             polled := some p₁.pending }, q') := by
        rw [hpending] at hreported
        rw [hp₁] at hfind'
        simp only [call, waitForNextEvent, hinit, Bool.true_eq_false, if_false, if_neg hlen, hfind,
          if_neg hreported, hpending, hfind']
      refine ⟨_, _, hcall,
        ht₁.of_eq hfinds.fds_eq hfinds.hashtable_eq hfinds.fInitialized_eq, ?_,
        fun hfail => absurd hfail (show ¬failed S_OK by decide)⟩
      exact .move hpolled
        (Move.delivered fd revents' q' hfinds.pending_perm hfinds.unreadcount_eq).moves

/-- `WaitForNextEvent` delivers an event that is pending, or else it polls. -/
theorem Tabled.comes_waitForNextEvent (hcovered : p.Covered) (pPollEvent : Option PollEvent)
    (poll : PollReturn) : ∃ r p', Comes (.waitForNextEvent pPollEvent poll) p r p' := by
  have hquiet : ∀ r : CallResult, r.polled = none → r.hr ≠ S_OK →
      p.waitForNextEvent pPollEvent poll = (r, p) →
      ∃ r p', Comes (.waitForNextEvent pPollEvent poll) p r p' := by
    intro r hpolled hhr hwait
    refine ⟨r, p, congrArg some hwait, ht, ?_, fun _ => ⟨rfl, rfl⟩⟩
    simp only [PollCall.happenings, hpolled, if_neg hhr, Option.toList_none, List.map_nil,
      List.append_nil]
    exact .quiet p p rfl rfl
  have hinit := ht.initialized
  cases pPollEvent with
  | none =>
    exact hquiet { hr := E_INVALIDARG } rfl (by decide)
      (by simp only [waitForNextEvent, hinit, Bool.true_eq_false, if_false])
  | some event =>
    by_cases hlen : p.fds.length = 0
    · exact hquiet { hr := S_FALSE, pPollEvent := some { event with eventflags := 0 } } rfl
        (show S_FALSE ≠ S_OK by decide)
        (by simp only [waitForNextEvent, hinit, Bool.true_eq_false, if_false, if_pos hlen])
    · rcases p.findNextEvent_cases with ⟨q, hfind, hnone⟩ | ⟨fd, revents, q, hfind, hfinds⟩
      · -- What is pending is counted, and `FindNextEvent` looks at every slot.
        have hempty : p.pending = [] := by
          rcases hnone.none_left with hcount | hempty
          · exact List.eq_nil_of_length_eq_zero (by unfold Covered at hcovered; omega)
          · exact hempty
        cases poll with
        | error errno => exact ht.comes_pollError hlen hfind hnone hempty event errno
        | ready revents => exact ht.comes_pollReady hlen hfind hnone hempty event revents
      · refine ⟨{ hr := S_OK, pPollEvent := some ⟨fd, fromNativeFlags revents.toUInt32⟩ }, q, ?_,
          ht.of_eq hfinds.fds_eq hfinds.hashtable_eq hfinds.fInitialized_eq, ?_, ?_⟩
        · simp only [call, waitForNextEvent, hinit, Bool.true_eq_false, if_false,
            if_neg hlen, hfind]
        · exact (Move.delivered fd revents q hfinds.pending_perm hfinds.unreadcount_eq).moves
        · intro hfail
          exact absurd hfail (show ¬failed S_OK by decide)

/-- Any call comes to something, as long as a new descriptor has room in the table. -/
theorem Tabled.comes (hcovered : p.Covered) {c : PollCall} (hroom : HasRoom c p) :
    ∃ r p', Comes c p r p' := by
  -- A call that finds nothing to do leaves everything as it is.
  have hquiet : ∀ r : CallResult, c.happenings r = [] → p.call c = some (r, p) →
      ∃ r p', Comes c p r p' := by
    intro r hhappenings hcall
    exact ⟨r, p, hcall, ht, hhappenings ▸ .quiet p p rfl rfl, fun _ => ⟨rfl, rfl⟩⟩
  cases c with
  | add fd eventflags =>
    by_cases hknown : fd ∈ p.fds.map Pollfd.fd
    · exact hquiet { hr := E_UNEXPECTED } rfl
        (by simp only [call, ht.add_known hknown eventflags])
    · have hadd := ht.add_ok hknown (hroom hknown) eventflags
      have hnew := ht.add_new hknown eventflags
      rw [hnew] at hadd
      refine ⟨{ hr := S_OK }, _, by simp only [call, hnew], hadd, .quiet _ _ ?_ rfl,
        fun hfail => absurd hfail (show ¬failed S_OK by decide)⟩
      simp [pending, eventsOf]
  | remove fd =>
    by_cases hknown : fd ∈ p.fds.map Pollfd.fd
    · obtain ⟨e, he, hfd⟩ := List.mem_map.mp hknown
      obtain ⟨pos, hpos⟩ := List.mem_iff_getElem?.mp he
      obtain ⟨p', hremove, ht', hperm, hcount⟩ := ht.remove_ok hpos hfd
      refine ⟨{ hr := S_OK }, p', by simp only [call, hremove, Option.map_some], ht', ?_,
        fun hfail => absurd hfail (show ¬failed S_OK by decide)⟩
      exact (Move.removed fd p' (hfd ▸ eventsOf_remove ht.distinct hperm) hcount).moves
    · exact hquiet { hr := E_FAIL } rfl
        (by simp only [call, ht.remove_unknown hknown, Option.map_some])
  | changeEventSet fd eventflags =>
    by_cases hknown : fd ∈ p.fds.map Pollfd.fd
    · obtain ⟨p', hchange, ht', hevents, hcount⟩ := ht.changeEventSet_ok hknown eventflags
      exact ⟨{ hr := S_OK }, p', by simp only [call, hchange], ht', .quiet _ _ hevents hcount,
        fun hfail => absurd hfail (show ¬failed S_OK by decide)⟩
    · exact hquiet { hr := E_FAIL } rfl
        (by simp only [call, ht.changeEventSet_unknown hknown eventflags])
  | waitForNextEvent pPollEvent poll => exact ht.comes_waitForNextEvent hcovered pPollEvent poll

end Tabled

/-! ## Runs -/

/-- The object after calls from `Initialize` on. -/
def reached (maxSockets tableWidth : ℕ) [NeZero maxSockets] [NeZero tableWidth]
    (calls : List PollCall) : Option (CPoll maxSockets tableWidth) :=
  calls.foldlM (fun p c => (p.call c).map Prod.snd) (initialize_ maxSockets tableWidth)

/-- One more call leads from the object reached to the next. -/
theorem reached_concat (calls : List PollCall) (c : PollCall) :
    reached maxSockets tableWidth (calls ++ [c]) =
      (reached maxSockets tableWidth calls).bind fun p => (p.call c).map Prod.snd := by
  simp only [reached, List.foldlM_append, List.foldlM_cons, List.foldlM_nil, bind_pure,
    Option.bind_eq_bind]

/-- The vector, the table and the count agree. -/
structure Agrees (p : CPoll maxSockets tableWidth) : Prop where
  distinct : (p.fds.map Pollfd.fd).Nodup
  lookup_iff : ∀ fd (i : ℕ), p.hashtable.lookup fd = some i ↔
    (p.fds[i]?).map Pollfd.fd = some fd
  size_eq : p.hashtable.getSize = p.fds.length
  unreadcount_eq : p.unreadcount = (p.fds.filter (·.revents ≠ 0)).length

/-- After any of the calls everything agrees, and a call that fails leaves the vector and the table
alone. -/
def Sound (maxSockets tableWidth : ℕ) [NeZero maxSockets] [NeZero tableWidth]
    (calls : List PollCall) : Prop :=
  ∀ before, before <+: calls → ∃ p, reached maxSockets tableWidth before = some p ∧ Agrees p ∧
    ∀ c, before ++ [c] <+: calls → ∀ r p', p.call c = some (r, p') → failed r.hr →
      p'.fds = p.fds ∧ p'.hashtable = p.hashtable

/-- Every new descriptor has room in the table, and no descriptor is removed whose event is
pending. -/
def Proper (maxSockets tableWidth : ℕ) [NeZero maxSockets] [NeZero tableWidth]
    (calls : List PollCall) : Prop :=
  ∀ before c, before ++ [c] <+: calls → ∀ p, reached maxSockets tableWidth before = some p →
    HasRoom c p ∧ Drained c p

instance (c : PollCall) (p : CPoll maxSockets tableWidth) : Decidable (HasRoom c p) :=
  match c with
  | .add fd _ => inferInstanceAs (Decidable (fd ∉ p.fds.map Pollfd.fd → p.fds.length < maxSockets))
  | .remove _ | .changeEventSet _ _ | .waitForNextEvent _ _ => isTrue trivial

instance (c : PollCall) (p : CPoll maxSockets tableWidth) : Decidable (Drained c p) :=
  match c with
  | .remove fd => inferInstanceAs (Decidable (∀ e ∈ p.fds, e.fd = fd → e.revents = 0))
  | .add _ _ | .changeEventSet _ _ | .waitForNextEvent _ _ => isTrue trivial

/-- Whether calls are proper can be computed call by call. -/
theorem proper_iff {calls : List PollCall} :
    Proper maxSockets tableWidth calls ↔
      ∀ i : Fin calls.length, (reached maxSockets tableWidth (calls.take i)).all
        fun p => HasRoom calls[i] p ∧ Drained calls[i] p := by
  constructor
  · intro hproper i
    have hprefix : calls.take i ++ [calls[i]] <+: calls := by
      rw [Fin.getElem_fin, List.take_append_getElem]
      exact List.take_prefix _ _
    cases hreached : reached maxSockets tableWidth (calls.take i) with
    | none => rfl
    | some p => exact decide_eq_true (hproper _ _ hprefix p hreached)
  · intro hall before c hprefix p hreached
    have hlen : before.length < calls.length := by
      have hle := hprefix.length_le
      rw [List.length_append, List.length_singleton] at hle
      exact hle
    have htake : before = calls.take before.length :=
      List.prefix_iff_eq_take.mp ((List.prefix_append _ _).trans hprefix)
    have hget : calls[before.length] = c := by
      rw [← hprefix.getElem (by simp)]
      simp
    have hi := hall ⟨before.length, hlen⟩
    rw [← htake, hreached] at hi
    simpa [hget] using hi

instance (calls : List PollCall) : Decidable (Proper maxSockets tableWidth calls) :=
  decidable_of_iff _ proper_iff.symm

/-- The table is right, and exactly the pending events are counted. -/
structure Exact (p : CPoll maxSockets tableWidth) : Prop where
  tabled : Tabled p
  unreadcount_eq : p.unreadcount = p.pending.length

/-- `Initialize` leaves nothing to be counted. -/
theorem exact_initialize : Exact (initialize_ maxSockets tableWidth) := ⟨tabled_initialized, rfl⟩

section Exact

variable {p : CPoll maxSockets tableWidth} (h : Exact p)
include h

/-- Every pending event is counted. -/
theorem Exact.covered : p.Covered := h.unreadcount_eq.ge

/-- When exactly the pending events are counted, the vector, the table and the count agree. -/
theorem Exact.agrees : Agrees p where
  distinct := h.tabled.distinct
  lookup_iff := h.tabled.lookup_iff
  size_eq := h.tabled.size_eq
  unreadcount_eq := by
    rw [h.unreadcount_eq, pending, eventsOf, List.length_map]

/-- A call that has room and removes no pending event keeps the count exact. -/
theorem Exact.call {c : PollCall} {r : CallResult} {p' : CPoll maxSockets tableWidth}
    (hcomes : Comes c p r p') (hdrained : Drained c p) : Exact p' := by
  refine ⟨hcomes.tabled, ?_⟩
  have hmoves := hcomes.moves
  cases c with
  | add fd eventflags => exact hmoves.exact h.unreadcount_eq fun fd => List.not_mem_nil
  | changeEventSet fd eventflags => exact hmoves.exact h.unreadcount_eq fun fd => List.not_mem_nil
  | waitForNextEvent pPollEvent poll =>
    refine hmoves.exact h.unreadcount_eq fun fd hmem => ?_
    simp only [PollCall.happenings, List.mem_append, List.mem_map] at hmem
    rcases hmem with ⟨_, -, heq⟩ | hmem
    · cases heq
    · split at hmem
      · obtain ⟨_, -, heq⟩ := List.mem_map.mp hmem
        cases heq
      · cases hmem
  | remove fd =>
    simp only [PollCall.happenings] at hmoves
    split at hmoves
    next =>
      obtain ⟨q, hmove, hquiet⟩ : ∃ q, Move p (.removed fd) q ∧ Moves q [] p' := by
        cases hmoves with
        | move hmove hquiet => exact ⟨_, hmove, hquiet⟩
      -- The descriptor has no events left, so removing it does not change the count.
      have hnotin : fd ∉ p.pending.map Prod.fst := by
        rw [pending, eventsOf, List.map_map, List.mem_map]
        rintro ⟨e, he, hfd⟩
        obtain ⟨hmem, hrevents⟩ := List.mem_filter.mp he
        simp [hdrained e hmem hfd] at hrevents
      have hq := hmove.exact h.unreadcount_eq fun fd' heq => by
        cases heq
        exact hnotin
      exact hquiet.exact hq fun fd => List.not_mem_nil
    next => exact hmoves.exact h.unreadcount_eq fun fd => List.not_mem_nil

/-- Everything agrees after a call only if it had room and removed no pending event. -/
theorem Exact.proper_of_agrees {c : PollCall} {r : CallResult} {p' : CPoll maxSockets tableWidth}
    (hcall : p.call c = some (r, p')) (hagrees : Agrees p') : HasRoom c p ∧ Drained c p := by
  cases c with
  | add fd eventflags =>
    refine ⟨fun hnew => ?_, trivial⟩
    by_contra hfull
    obtain ⟨hlen, hhash⟩ := h.tabled.add_full hnew (Nat.le_of_not_lt hfull) eventflags
    have hp' : (p.add fd eventflags).2 = p' := congrArg Prod.snd (Option.some.inj hcall)
    have hsize := hagrees.size_eq
    rw [← hp', hhash, hlen, h.tabled.size_eq] at hsize
    omega
  | remove fd =>
    refine ⟨trivial, fun e he hfd => ?_⟩
    by_contra hrevents
    obtain ⟨pos, hpos⟩ := List.mem_iff_getElem?.mp he
    obtain ⟨q, hremove, -, hperm, hcount⟩ := h.tabled.remove_ok hpos hfd
    obtain rfl : q = p' := by
      simp only [CPoll.call, hremove, Option.map_some, Option.some.injEq, Prod.mk.injEq] at hcall
      exact hcall.2
    -- The event of the entry is gone, and is still counted.
    have hlen := (eventsOf_perm hperm).length_eq
    rw [show eventsOf (e :: q.fds) = (e.fd, e.revents) :: eventsOf q.fds by
      simp [eventsOf, hrevents], List.length_cons] at hlen
    have hq := hagrees.unreadcount_eq
    have hp := h.unreadcount_eq
    rw [pending] at hp
    rw [← List.length_map (f := fun e => (e.fd, e.revents))] at hq
    change q.unreadcount = (eventsOf q.fds).length at hq
    omega
  | changeEventSet fd eventflags => exact ⟨trivial, trivial⟩
  | waitForNextEvent pPollEvent poll => exact ⟨trivial, trivial⟩

end Exact

/-- If every call has room and removes no pending event, as long as the count is exact, it stays
so. -/
theorem exact_of_steps {calls : List PollCall}
    (hsteps : ∀ before c p, before ++ [c] <+: calls → reached maxSockets tableWidth
      before = some p → Exact p → HasRoom c p ∧ Drained c p) :
    ∀ before, before <+: calls → ∃ p, reached maxSockets tableWidth before = some p ∧ Exact p := by
  intro before
  induction before using List.reverseRecOn with
  | nil => exact fun _ => ⟨_, rfl, exact_initialize⟩
  | append_singleton before c ih =>
    intro hprefix
    obtain ⟨p, hreached, hexact⟩ := ih ((List.prefix_append _ _).trans hprefix)
    obtain ⟨hroom, hdrained⟩ := hsteps before c p hprefix hreached hexact
    obtain ⟨r, p', hcomes⟩ := hexact.tabled.comes hexact.covered hroom
    refine ⟨p', ?_, hexact.call hcomes hdrained⟩
    rw [reached_concat, hreached, Option.bind_some, hcomes.call_eq, Option.map_some]

/-- After every one of the calls everything agrees, exactly when each new descriptor has room and
none is removed whose event is pending. -/
theorem sound_iff_proper (calls : List PollCall) :
    Sound maxSockets tableWidth calls ↔ Proper maxSockets tableWidth calls := by
  constructor
  · intro hsound
    have hsteps : ∀ before c p, before ++ [c] <+: calls →
        reached maxSockets tableWidth before = some p → Exact p → HasRoom c p ∧ Drained c p := by
      intro before c p hprefix hreached hexact
      obtain ⟨p', hreached', hagrees, -⟩ := hsound (before ++ [c]) hprefix
      rw [reached_concat, hreached, Option.bind_some, Option.map_eq_some_iff] at hreached'
      obtain ⟨⟨r, q⟩, hcall, rfl⟩ := hreached'
      exact hexact.proper_of_agrees hcall hagrees
    intro before c hprefix p hreached
    obtain ⟨p', hreached', hexact⟩ :=
      exact_of_steps hsteps before ((List.prefix_append _ _).trans hprefix)
    obtain rfl : p' = p := Option.some.inj (hreached'.symm.trans hreached)
    exact hsteps before c p' hprefix hreached hexact
  · intro hproper before hprefix
    obtain ⟨p, hreached, hexact⟩ := exact_of_steps
      (fun before c p hprefix hreached _ => hproper before c hprefix p hreached) before hprefix
    refine ⟨p, hreached, hexact.agrees, fun c hprefix' r p' hcall hfail => ?_⟩
    obtain ⟨hroom, -⟩ := hproper before c hprefix' p hreached
    obtain ⟨r', q, hcomes⟩ := hexact.tabled.comes hexact.covered hroom
    obtain ⟨rfl, rfl⟩ := Prod.mk.inj (Option.some.inj (hcomes.call_eq.symm.trans hcall))
    exact hcomes.fails hfail

/-- Two descriptors are ready, and the second is removed after the event of the first. -/
def removedReady : List PollCall :=
  [.add 3 IPOLLING_READ, .add 4 IPOLLING_READ,
    .waitForNextEvent (some ⟨0, 0⟩) (.ready fun _ => 1), .remove 4]

/-- The event of a descriptor that was removed while ready is still counted. -/
theorem removedReady_not_sound : ¬Sound 2 3 removedReady := by
  intro hsound
  obtain ⟨p, hreached, hagrees, -⟩ := hsound removedReady (List.prefix_refl _)
  have hrun : (reached 2 3 removedReady).map (fun p =>
      (p.unreadcount, (p.fds.filter (·.revents ≠ 0)).length)) = some (1, 0) := by decide
  rw [hreached, Option.map_some, Option.some.injEq, Prod.mk.injEq] at hrun
  have heq := hagrees.unreadcount_eq
  omega

/-- Everything agrees when both events are delivered before the second descriptor is removed. -/
theorem sound_iff_proper_drained :
    Sound 2 3 [.add 3 IPOLLING_READ, .add 4 IPOLLING_READ,
      .waitForNextEvent (some ⟨0, 0⟩) (.ready fun _ => 1),
      .waitForNextEvent (some ⟨0, 0⟩) (.ready fun _ => 1), .remove 4] :=
  (sound_iff_proper _).mpr (by decide)

end Calls

end CPoll

end Stun
