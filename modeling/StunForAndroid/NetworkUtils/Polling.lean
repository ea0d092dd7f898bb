import Mathlib.Data.List.Dedup
import StunForAndroid.Common.HResult

/-!
# `IPolling` and `CEpoll`

`src/networkutils/polling.h` and the class `CEpoll` of `polling.cpp`. The descriptors that the
kernel polls for an epoll instance are part of its state, and so is what the system will answer,
call by call. `epoll_ctl` fails for a descriptor that is polled already, or that is not polled, and
whenever the system refuses it. `epoll_wait` tells of descriptors that are polled, of each one once,
and of no more than it is asked for. A descriptor that is closed is not polled any more, whether or
not `Remove` has succeeded.

Which events a descriptor is polled for is left out: it is up to `epoll_wait` what is ready.
-/

namespace Stun

/-- What `WaitForNextEvent` gives: its result, and the descriptor of the event, which is zero when
there is none. -/
structure PollResult where
  hr : HRESULT
  fd : ℤ

/-- `IPolling`, by its functions on the object's state. -/
structure IPolling (P : Type) where
  /-- `Add`. -/
  add : ℤ → P → HRESULT × P
  /-- `Remove`. -/
  remove : ℤ → P → HRESULT × P
  /-- `ChangeEventSet`. -/
  changeEventSet : ℤ → P → HRESULT × P
  /-- `WaitForNextEvent`. -/
  waitForNextEvent : P → PollResult × P
  /-- What the system does to what the object stands for when the process closes a descriptor. -/
  closed : ℤ → P → P

/-- `Remove` of a socket that is closed then, if there is one. -/
def IPolling.drop {P : Type} (I : IPolling P) (sock : ℤ) (p : P) : P :=
  let p := (I.remove sock p).2
  if sock = -1 then p else I.closed sock p

/-- `CEpoll`, with the kernel's side of it. -/
structure CEpoll where
  /-- The descriptors that are polled. -/
  polled : List ℤ
  /-- What the system refuses each call of `epoll_ctl` to come with, if it does. -/
  ctls : List (Option UInt16)
  /-- What is ready at each call of `epoll_wait` to come, or that the call fails. -/
  waits : List (Option (List ℤ))
  /-- `_sizeEvents`. -/
  sizeEvents : ℕ
  /-- The descriptors of `_events`. -/
  events : List ℤ
  /-- `_pendingCount`. -/
  pendingCount : ℕ
  /-- `_currentEventIndex`. -/
  currentEventIndex : ℕ

namespace CEpoll

/-- After `Initialize`. -/
def initialize_ (maxSockets : ℕ) (waits : List (Option (List ℤ))) : CEpoll where
  polled := []
  ctls := []
  waits := waits
  sizeEvents := maxSockets
  events := []
  pendingCount := 0
  currentEventIndex := 0

/-- `EEXIST` -/
def EEXIST : ℤ := 17

/-- `ENOENT` -/
def ENOENT : ℤ := 2

/-- `EINTR` -/
def EINTR : ℤ := 4

/-- What the next call of `epoll_ctl` is refused with, if it is. -/
def refusal (e : CEpoll) : Option UInt16 := e.ctls.head?.join

/-- Nothing is refused if the system refuses nothing that is to come. -/
theorem refusal_eq_none (e : CEpoll) (h : ∀ x ∈ e.ctls, x = none) : e.refusal = none := by
  unfold refusal
  cases hctls : e.ctls with
  | nil => rfl
  | cons x rest => exact h x (hctls ▸ List.mem_cons_self)

/-- `epoll_ctl`, with the error that is the caller's fault, if any, and what is polled if there is
none. -/
def epollCtl (fault : Option ℤ) (polled : List ℤ) (e : CEpoll) : HRESULT × CEpoll :=
  let e' := { e with ctls := e.ctls.tail }
  match e.refusal, fault with
  | some errno, _ => (ERRNOHR errno.toNat, e')
  | none, some errno => (ERRNOHR errno, e')
  | none, none => (S_OK, { e' with polled := polled })

/-- `Add`. -/
def add (fd : ℤ) (e : CEpoll) : HRESULT × CEpoll :=
  if fd = -1 then (E_INVALIDARG, e)
  else e.epollCtl (if fd ∈ e.polled then some EEXIST else none) (fd :: e.polled)

/-- `Remove`, which leaves what is in `_events`. -/
def remove (fd : ℤ) (e : CEpoll) : HRESULT × CEpoll :=
  if fd = -1 then (E_INVALIDARG, e)
  else e.epollCtl (if fd ∈ e.polled then none else some ENOENT) (e.polled.filter (· ≠ fd))

/-- `ChangeEventSet`. -/
def changeEventSet (fd : ℤ) (e : CEpoll) : HRESULT × CEpoll :=
  if fd = -1 then (E_INVALIDARG, e)
  else e.epollCtl (if fd ∈ e.polled then none else some ENOENT) e.polled

/-- The kernel does not poll a descriptor that is closed. -/
def closed (fd : ℤ) (e : CEpoll) : CEpoll := { e with polled := e.polled.filter (· ≠ fd) }

/-- What `epoll_wait` tells of the descriptors that are ready. -/
def epollWait (polled ready : List ℤ) (maxevents : ℕ) : List ℤ :=
  ((ready.filter (· ∈ polled)).dedup).take maxevents

/-- The end of `WaitForNextEvent`: the next one of the events. -/
def nextEvent (e : CEpoll) : PollResult × CEpoll :=
  (⟨S_OK, e.events.getD e.currentEventIndex 0⟩,
    { e with currentEventIndex := e.currentEventIndex + 1 })

/-- `WaitForNextEvent`. -/
def waitForNextEvent (e : CEpoll) : PollResult × CEpoll :=
  if e.currentEventIndex ≥ e.pendingCount then
    let e := { e with currentEventIndex := 0, pendingCount := 0 }
    match e.waits with
    | [] => (⟨S_FALSE, 0⟩, e)
    | none :: waits => (⟨ERRNOHR EINTR, 0⟩, { e with waits := waits })
    | some ready :: waits =>
      let events := epollWait e.polled ready e.sizeEvents
      let e := { e with waits := waits, events := events }
      if events.length = 0 then (⟨S_FALSE, 0⟩, e)
      else nextEvent { e with pendingCount := events.length }
  else nextEvent e

/-- `CEpoll` as an `IPolling`. -/
def polling : IPolling CEpoll where
  add := add
  remove := remove
  changeEventSet := changeEventSet
  waitForNextEvent := waitForNextEvent
  closed := closed

/-- The events that were fetched and not handed out. -/
def pending (e : CEpoll) : List ℤ := (e.events.take e.pendingCount).drop e.currentEventIndex

/-- What is pending is counted. -/
def Counted (e : CEpoll) : Prop := e.pendingCount ≤ e.events.length

/-- What the next call of `epoll_wait` tells of. -/
def nextBatch (e : CEpoll) : List ℤ :=
  match e.waits.head?.join with
  | some ready => epollWait e.polled ready e.sizeEvents
  | none => []

/-- The events from which the next one is taken: those that are pending, or else a batch that is
fetched. -/
def upcoming (e : CEpoll) : List ℤ := if e.pending = [] then e.nextBatch else e.pending

/-! ## What is polled -/

/-- What has changed is at most what is polled, and some of the system's answers have been used
up. -/
structure SameEvents (e e' : CEpoll) : Prop where
  pending : e'.pending = e.pending
  counted : e.Counted → e'.Counted
  ctls : e'.ctls <:+ e.ctls

/-- When nothing is called the events are the same. -/
theorem SameEvents.refl (e : CEpoll) : SameEvents e e := ⟨rfl, id, List.suffix_refl _⟩

/-- Two calls in a row leave the events as they were. -/
theorem SameEvents.trans {e e' e'' : CEpoll} (h : SameEvents e e') (h' : SameEvents e' e'') :
    SameEvents e e'' where
  pending := h'.pending.trans h.pending
  counted := h'.counted ∘ h.counted
  ctls := h'.ctls.trans h.ctls

/-- `epoll_ctl` changes what is polled if it succeeds, and it does if there is no fault and the
system does not refuse it. -/
theorem epollCtl_spec (fault : Option ℤ) (hfault : ∀ errno ∈ fault, errno < 2^16) (polled : List ℤ)
    (e : CEpoll) :
    SameEvents e (e.epollCtl fault polled).2 ∧
      (¬ failed (e.epollCtl fault polled).1 ↔ e.refusal = none ∧ fault = none) ∧
      (e.epollCtl fault polled).2.polled =
        if failed (e.epollCtl fault polled).1 then e.polled else polled := by
  have hfails : ∀ errno : ℤ, errno < 2^16 → failed (ERRNOHR errno) := by
    intro errno herrno
    show (0x88000000 + errno - 2^32 : ℤ) < 0
    omega
  have hsame : ∀ polled' : List ℤ, SameEvents e { e with ctls := e.ctls.tail, polled := polled' } :=
    fun _ => ⟨rfl, id, List.tail_suffix _⟩
  unfold epollCtl
  dsimp only
  cases hrefusal : e.refusal with
  | some errno =>
    have hfail := hfails errno.toNat (by exact_mod_cast errno.toNat_lt)
    exact ⟨hsame _, by simp [hfail], (if_pos hfail).symm⟩
  | none =>
    cases fault with
    | some errno =>
      have hfail := hfails errno (hfault errno rfl)
      exact ⟨hsame _, by simp [hfail], (if_pos hfail).symm⟩
    | none =>
      have hok : ¬ failed S_OK := by decide
      exact ⟨hsame _, by simp [hok], (if_neg hok).symm⟩

/-- `Add` polls the descriptor if it succeeds, and nothing else changes. It succeeds for a
descriptor that is not polled if the system does not refuse it. -/
theorem add_spec (fd : ℤ) (e : CEpoll) :
    SameEvents e (e.add fd).2 ∧
      (fd ≠ -1 → fd ∉ e.polled → (¬ failed (e.add fd).1 ↔ e.refusal = none)) ∧
      ∀ fd', fd' ∈ (e.add fd).2.polled ↔ fd' ∈ e.polled ∨ fd' = fd ∧ ¬ failed (e.add fd).1 := by
  have hfault : ∀ errno ∈ (if fd ∈ e.polled then some EEXIST else none), errno < 2^16 := by
    intro errno herrno
    split at herrno
    · exact Option.some.inj herrno ▸ by decide
    · cases herrno
  unfold add
  split
  next hnone =>
    have hfail : failed E_INVALIDARG := by decide
    exact ⟨.refl e, fun hne => absurd hnone hne, fun fd' => by simp [hfail]⟩
  next hsome =>
    obtain ⟨hsame, hok, hpolled⟩ := epollCtl_spec _ hfault (fd :: e.polled) e
    refine ⟨hsame, fun _ hnot => ?_, fun fd' => ?_⟩
    · rw [hok, if_neg hnot, and_iff_left rfl]
    · rw [hpolled]
      generalize (e.epollCtl _ (fd :: e.polled)).1 = hr
      by_cases hfail : failed hr
      · rw [if_pos hfail]
        exact (or_iff_left fun h => h.2 hfail).symm
      · rw [if_neg hfail, and_iff_left hfail, List.mem_cons, or_comm]

/-- `Remove` polls the descriptor no more if it succeeds, and nothing else changes. It succeeds for
a descriptor that is polled if the system does not refuse it. -/
theorem remove_spec (fd : ℤ) (e : CEpoll) :
    SameEvents e (e.remove fd).2 ∧
      (fd ≠ -1 → fd ∈ e.polled → (¬ failed (e.remove fd).1 ↔ e.refusal = none)) ∧
      ∀ fd', fd' ∈ (e.remove fd).2.polled ↔ fd' ∈ e.polled ∧
      (fd' = fd → failed (e.remove fd).1) := by
  have hfault : ∀ errno ∈ (if fd ∈ e.polled then none else some ENOENT), errno < 2^16 := by
    intro errno herrno
    split at herrno
    · cases herrno
    · exact Option.some.inj herrno ▸ by decide
  unfold remove
  split
  next hnone =>
    have hfail : failed E_INVALIDARG := by decide
    exact ⟨.refl e, fun hne => absurd hnone hne, fun fd' => by simp [hfail]⟩
  next hsome =>
    obtain ⟨hsame, hok, hpolled⟩ := epollCtl_spec _ hfault (e.polled.filter (· ≠ fd)) e
    refine ⟨hsame, fun _ hin => ?_, fun fd' => ?_⟩
    · rw [hok, if_pos hin, and_iff_left rfl]
    · rw [hpolled]
      generalize (e.epollCtl _ (e.polled.filter (· ≠ fd))).1 = hr
      by_cases hfail : failed hr
      · rw [if_pos hfail]
        exact (and_iff_left fun _ => hfail).symm
      · rw [if_neg hfail, List.mem_filter, decide_eq_true_eq]
        exact and_congr_right fun _ => ⟨fun hne heq => absurd heq hne, fun h heq => hfail (h heq)⟩

/-- `ChangeEventSet` does not change what is polled. -/
theorem changeEventSet_spec (fd : ℤ) (e : CEpoll) :
    SameEvents e (e.changeEventSet fd).2 ∧ (e.changeEventSet fd).2.polled = e.polled := by
  have hfault : ∀ errno ∈ (if fd ∈ e.polled then none else some ENOENT), errno < 2^16 := by
    intro errno herrno
    split at herrno
    · cases herrno
    · exact Option.some.inj herrno ▸ by decide
  unfold changeEventSet
  split
  next => exact ⟨.refl e, rfl⟩
  next =>
    obtain ⟨hsame, -, hpolled⟩ := epollCtl_spec _ hfault e.polled e
    exact ⟨hsame, hpolled.trans (ite_self _)⟩

/-- A socket that is removed and closed is not polled, even if the system has refused to remove
it. -/
theorem drop_spec (sock : ℤ) (e : CEpoll) :
    SameEvents e (polling.drop sock e) ∧
      ∀ fd, fd ∈ (polling.drop sock e).polled ↔ fd ∈ e.polled ∧ (fd ≠ sock ∨ sock = -1) := by
  obtain ⟨hsame, -, hpolled⟩ := remove_spec sock e
  by_cases hsock : sock = -1
  · have hdrop : polling.drop sock e = e := by
      show (if sock = -1 then (e.remove sock).2 else _) = e
      unfold remove
      rw [if_pos hsock, if_pos hsock]
    rw [hdrop]
    exact ⟨.refl e, fun fd => by simp [hsock]⟩
  · have hdrop : polling.drop sock e = (e.remove sock).2.closed sock := if_neg hsock
    rw [hdrop]
    refine ⟨⟨hsame.pending, hsame.counted, hsame.ctls⟩, fun fd => ?_⟩
    show fd ∈ (e.remove sock).2.polled.filter (· ≠ sock) ↔ _
    rw [List.mem_filter, hpolled, decide_eq_true_eq, or_iff_left hsock]
    constructor
    · exact fun h => ⟨h.1.1, h.2⟩
    · exact fun h => ⟨⟨h.1, fun heq => absurd heq h.2⟩, h.2⟩

/-! ## What is handed out -/

/-- What `WaitForNextEvent` gives: nothing, or the next one of the upcoming events, of which the
rest is pending then. -/
inductive Waited (e : CEpoll) (r : PollResult) (e' : CEpoll) : Prop
  | nothing (hr : r.hr ≠ S_OK) (hupcoming : e.upcoming = []) (hpending : e'.pending = [])
  | event (hr : r.hr = S_OK) (hupcoming : e.upcoming = r.fd :: e'.pending)

/-- The next event is taken from what is pending. -/
theorem nextEvent_spec {e : CEpoll} (hcounted : e.Counted)
    (h : e.currentEventIndex < e.pendingCount) :
    e.pending = e.nextEvent.1.fd :: e.nextEvent.2.pending := by
  have hlt : e.currentEventIndex < (e.events.take e.pendingCount).length := by
    rw [List.length_take]
    exact Nat.lt_min.mpr ⟨h, Nat.lt_of_lt_of_le h hcounted⟩
  have hfd : e.nextEvent.1.fd = (e.events.take e.pendingCount)[e.currentEventIndex] := by
    show e.events.getD e.currentEventIndex 0 = _
    rw [List.getElem_take, List.getD_eq_getElem?_getD,
      List.getElem?_eq_getElem (Nat.lt_of_lt_of_le h hcounted)]
    rfl
  rw [hfd]
  exact List.drop_eq_getElem_cons hlt

/-- Nothing is pending when all events were handed out. -/
theorem pending_eq_nil {e : CEpoll} (h : e.pendingCount ≤ e.currentEventIndex) :
    e.pending = [] := by
  refine List.drop_eq_nil_of_le ?_
  rw [List.length_take]
  exact Nat.le_trans (Nat.min_le_left _ _) h

/-- `epoll_wait` tells of descriptors that are polled, each once. -/
theorem epollWait_spec (polled ready : List ℤ) (maxevents : ℕ) :
    (epollWait polled ready maxevents).Nodup ∧
      ∀ fd ∈ epollWait polled ready maxevents, fd ∈ polled := by
  constructor
  · exact (List.nodup_dedup _).sublist (List.take_sublist _ _)
  · intro fd hfd
    have hfilter := List.mem_dedup.mp (List.mem_of_mem_take hfd)
    exact of_decide_eq_true (List.mem_filter.mp hfilter).2

/-- The upcoming events are those that are pending, or else different ones of descriptors that are
polled. -/
theorem upcoming_cases (e : CEpoll) :
    e.upcoming = e.pending ∨
      e.pending = [] ∧ e.upcoming.Nodup ∧ ∀ fd ∈ e.upcoming, fd ∈ e.polled := by
  unfold upcoming
  split
  next hnone =>
    refine Or.inr ⟨hnone, ?_⟩
    unfold nextBatch
    split
    · exact epollWait_spec _ _ _
    · exact ⟨List.nodup_nil, fun fd hfd => absurd hfd List.not_mem_nil⟩
  next => exact Or.inl rfl

/-- `WaitForNextEvent` changes neither what is polled nor the answers to come, and gives the next of
the upcoming events. -/
theorem waitForNextEvent_spec {e : CEpoll} (hcounted : e.Counted) :
    e.waitForNextEvent.2.polled = e.polled ∧ e.waitForNextEvent.2.ctls = e.ctls ∧
      e.waitForNextEvent.2.Counted ∧ Waited e e.waitForNextEvent.1 e.waitForNextEvent.2 := by
  have hfalse : S_FALSE ≠ S_OK := by decide
  have hinterrupted : ERRNOHR EINTR ≠ S_OK := by decide
  unfold waitForNextEvent
  split
  next h =>
    have hupcoming : e.upcoming = e.nextBatch := if_pos (pending_eq_nil h)
    unfold nextBatch at hupcoming
    dsimp only
    split
    next hwaits =>
      rw [hwaits] at hupcoming
      exact ⟨rfl, rfl, Nat.zero_le _, .nothing hfalse hupcoming rfl⟩
    next hwaits =>
      rw [hwaits] at hupcoming
      exact ⟨rfl, rfl, Nat.zero_le _, .nothing hinterrupted hupcoming rfl⟩
    next ready waits hwaits =>
      rw [hwaits] at hupcoming
      change e.upcoming = epollWait e.polled ready e.sizeEvents at hupcoming
      split
      next hlength =>
        rw [List.eq_nil_of_length_eq_zero hlength] at hupcoming
        exact ⟨rfl, rfl, Nat.zero_le _, .nothing hfalse hupcoming rfl⟩
      next hlength =>
        -- The batch is what is pending before its first event is handed out.
        obtain ⟨batch, hbatch⟩ : ∃ batch : CEpoll, batch =
            { e with
              currentEventIndex := 0
              waits := waits
              events := epollWait e.polled ready e.sizeEvents
              pendingCount := (epollWait e.polled ready e.sizeEvents).length } := ⟨_, rfl⟩
        have hcounted' : batch.Counted := by rw [hbatch]; exact Nat.le_refl _
        have hbatchpending : batch.pending = epollWait e.polled ready e.sizeEvents := by
          rw [hbatch]
          exact List.take_length
        have hnext := nextEvent_spec hcounted' (by rw [hbatch]; exact Nat.pos_of_ne_zero hlength)
        rw [hbatchpending, ← hupcoming] at hnext
        rw [← hbatch]
        refine ⟨?_, ?_, hcounted', .event rfl hnext⟩
        · rw [show batch.nextEvent.2.polled = batch.polled from rfl, hbatch]
        · rw [show batch.nextEvent.2.ctls = batch.ctls from rfl, hbatch]
  next h =>
    have hnext := nextEvent_spec hcounted (Nat.lt_of_not_ge h)
    have hupcoming : e.upcoming = e.pending := if_neg (by rw [hnext]; exact List.cons_ne_nil _ _)
    exact ⟨rfl, rfl, hcounted, .event rfl (hupcoming.trans hnext)⟩

end CEpoll

end Stun
