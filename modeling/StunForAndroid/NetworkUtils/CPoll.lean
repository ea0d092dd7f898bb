import StunForAndroid.Common.CTypes
import StunForAndroid.Common.FastHashMap
import StunForAndroid.Common.HResult

/-!
# `CPoll`

The class `CPoll` of `src/networkutils/polling.cpp`, the `IPolling` of systems without `epoll`.
`_fds` are the entries that `poll` is called with, and `_hashtable` has the place of each descriptor
in them. `_unreadcount` is how many of the events that `poll` reported are still to be delivered.

What `poll` does is an input of `WaitForNextEvent` (`PollReturn`): it fails, or else it gives every
entry its events and returns the number of entries with any. The functions are defined for any width
of the hash table. A write through a null pointer gives nothing. `_rotation` and `_unreadcount` do
not reach `2^32`: the first is below the number of entries before it is incremented, and `poll`
returns an `int`.

`Tabled` says that the hash table has the place of every entry, which the functions keep while there
is room in the table.
-/

namespace Stun

/-- `pollfd`. -/
structure Pollfd where
  fd : ℤ
  events : UInt16
  revents : UInt16
deriving DecidableEq

/-- `PollEvent`. -/
structure PollEvent where
  fd : ℤ
  eventflags : UInt32
deriving DecidableEq

/-! ## The flags -/

/-- `IPOLLING_READ` -/
def IPOLLING_READ : UInt32 := 0x01

/-- `IPOLLING_WRITE` -/
def IPOLLING_WRITE : UInt32 := 0x02

/-- `IPOLLING_RDHUP` -/
def IPOLLING_RDHUP : UInt32 := 0x08

/-- `IPOLLING_HUP` -/
def IPOLLING_HUP : UInt32 := 0x10

/-- `IPOLLING_PRI` -/
def IPOLLING_PRI : UInt32 := 0x20

/-- `IPOLLING_ERROR` -/
def IPOLLING_ERROR : UInt32 := 0x40

/-- `POLLIN` -/
def POLLIN : UInt32 := 0x0001

/-- `POLLPRI` -/
def POLLPRI : UInt32 := 0x0002

/-- `POLLOUT` -/
def POLLOUT : UInt32 := 0x0004

/-- `POLLERR` -/
def POLLERR : UInt32 := 0x0008

/-- `POLLHUP` -/
def POLLHUP : UInt32 := 0x0010

/-- `POLLRDHUP` -/
def POLLRDHUP : UInt32 := 0x2000

/-- The flags of `IPolling` with those of `poll`. -/
def pollFlags : List (UInt32 × UInt32) :=
  [(IPOLLING_READ, POLLIN), (IPOLLING_WRITE, POLLOUT), (IPOLLING_RDHUP, POLLRDHUP),
    (IPOLLING_HUP, POLLHUP), (IPOLLING_PRI, POLLPRI), (IPOLLING_ERROR, POLLERR)]

/-- The flags of a table that stand beside those that are set. -/
def translateFlags (table : List (UInt32 × UInt32)) (eventflags : UInt32) : UInt32 :=
  table.foldl (fun result flag => if eventflags &&& flag.1 ≠ 0 then result ||| flag.2 else result) 0

/-- What `poll` does: it fails, and no error number has more than 16 bits, or it gives each entry
its events. -/
inductive PollReturn
  | error (errno : UInt16)
  | ready (revents : ℕ → UInt16)

/-- What a call returns, and for who watches the events that `poll` reported if it was called. -/
structure CallResult where
  hr : HRESULT
  /-- `*pPollEvent`. -/
  pPollEvent : Option PollEvent := none
  polled : Option (List (ℤ × UInt16)) := none

/-- `CPoll`. -/
structure CPoll (maxSockets tableWidth : ℕ) where
  /-- `_fds`. -/
  fds : List Pollfd
  /-- `_rotation`. -/
  rotation : ℕ
  /-- `_unreadcount`. -/
  unreadcount : ℕ
  /-- `_fInitialized`. -/
  fInitialized : Bool
  /-- `_hashtable`. -/
  hashtable : FastHash ℤ ℕ maxSockets tableWidth

namespace CPoll

/-- `ToNativeFlags`. -/
def toNativeFlags (eventflags : UInt32) : UInt32 := translateFlags pollFlags eventflags

/-- `FromNativeFlags`. -/
def fromNativeFlags (eventflags : UInt32) : UInt32 :=
  translateFlags (pollFlags.map Prod.swap) eventflags

/-- The events that `poll` reported for these entries and that were not delivered. -/
def eventsOf (fds : List Pollfd) : List (ℤ × UInt16) :=
  (fds.filter (·.revents ≠ 0)).map fun e => (e.fd, e.revents)

/-- The entries after `poll` gave them their events. -/
def pollEntries (revents : ℕ → UInt16) (fds : List Pollfd) : List Pollfd :=
  fds.mapIdx fun i e => { e with revents := revents i }

/-- The loop of `FindNextEvent`: the first slot with an event, from `_rotation` on, and its
entry. -/
def nextSlot (rotation : ℕ) (list : List Pollfd) : Option (ℕ × Pollfd) :=
  (List.range list.length).findSome? fun index =>
    let slotindex := (index + rotation) % list.length
    (list[slotindex]?).bind fun e => if e.revents ≠ 0 then some (slotindex, e) else none

variable {maxSockets tableWidth : ℕ}

/-- `FindNextEvent`: the event if there is one. -/
def findNextEvent (p : CPoll maxSockets tableWidth) :
    Option PollEvent × CPoll maxSockets tableWidth :=
  if p.unreadcount = 0 then (none, p)
  else
    let p := if p.rotation ≥ p.fds.length then { p with rotation := 0 } else p
    match nextSlot p.rotation p.fds with
    | none => (none, p)
    | some (slotindex, e) =>
      (some ⟨e.fd, fromNativeFlags e.revents.toUInt32⟩,
        { p with
          fds := p.fds.set slotindex { e with revents := 0 }
          rotation := p.rotation + 1
          unreadcount := p.unreadcount - 1 })

/-- `WaitForNextEvent`. -/
def waitForNextEvent (pPollEvent : Option PollEvent) (poll : PollReturn)
    (p : CPoll maxSockets tableWidth) : CallResult × CPoll maxSockets tableWidth :=
  if p.fInitialized = false then ({ hr := E_FAIL, pPollEvent }, p)
  else
    match pPollEvent with
    | none => ({ hr := E_INVALIDARG }, p)
    | some event =>
      let pPollEvent := some { event with eventflags := 0 }
      if p.fds.length = 0 then ({ hr := S_FALSE, pPollEvent }, p)
      else
        match p.findNextEvent with
        | (some event, p) => ({ hr := S_OK, pPollEvent := some event }, p)
        | (none, p) =>
          let p := { p with unreadcount := 0 }
          match poll with
          | .error errno => ({ hr := ERRNOHR errno.toNat, pPollEvent, polled := some [] }, p)
          | .ready revents =>
            let p := { p with fds := pollEntries revents p.fds }
            let reported := eventsOf p.fds
            if reported.length = 0 then ({ hr := S_FALSE, pPollEvent, polled := some reported }, p)
            else
              match { p with unreadcount := reported.length }.findNextEvent with
              | (some event, p) =>
                ({ hr := S_OK, pPollEvent := some event, polled := some reported }, p)
              | (none, p) => ({ hr := S_FALSE, pPollEvent, polled := some reported }, p)

section Table

variable [NeZero maxSockets] [NeZero tableWidth]

/-- After `Initialize`. -/
def initialize_ (maxSockets tableWidth : ℕ) [NeZero maxSockets] : CPoll maxSockets tableWidth where
  fds := []
  rotation := 0
  unreadcount := 0
  fInitialized := true
  hashtable := FastHash.new

/-- `Close`. -/
def close (p : CPoll maxSockets tableWidth) : CPoll maxSockets tableWidth :=
  { p with fds := [], fInitialized := false }

/-- `Add`, which ignores what `Insert` returns. -/
def add (fd : ℤ) (eventflags : UInt32) (p : CPoll maxSockets tableWidth) :
    HRESULT × CPoll maxSockets tableWidth :=
  if p.fInitialized = false then (E_FAIL, p)
  else if (p.hashtable.lookup fd).isSome then (E_UNEXPECTED, p)
  else
    (S_OK, { p with
      fds := p.fds ++ [⟨fd, (toNativeFlags eventflags).toUInt16, 0⟩]
      hashtable := (p.hashtable.insert fd p.fds.length).2 })

/-- The place of a descriptor, after the checks of `Remove` and of `ChangeEventSet`, which all fail
with `E_FAIL`. -/
def position (fd : ℤ) (p : CPoll maxSockets tableWidth) : Option ℕ :=
  if p.fInitialized = false then none
  else if p.fds.length = 0 then none
  else (p.hashtable.lookup fd).filter fun pos => (p.fds[pos]?).any (·.fd = fd)

/-- `Remove`: the last entry goes where the entry was, and its place in the hash table is written
through the pointer that `Lookup` returns. What `poll` reported for the entry is dropped with it. -/
def remove (fd : ℤ) (p : CPoll maxSockets tableWidth) :
    Option (HRESULT × CPoll maxSockets tableWidth) :=
  match p.position fd, p.fds.getLast? with
  | some pos, some last =>
    let moved :=
      if pos ≠ p.fds.length - 1 then
        (p.hashtable.writeLookup last.fd pos).map fun hashtable =>
          { p with fds := p.fds.set pos last, hashtable }
      else some p
    moved.map fun p =>
      (S_OK, { p with hashtable := (p.hashtable.remove fd).2, fds := p.fds.dropLast })
  | _, _ => some (E_FAIL, p)

/-- `ChangeEventSet`. -/
def changeEventSet (fd : ℤ) (eventflags : UInt32) (p : CPoll maxSockets tableWidth) :
    HRESULT × CPoll maxSockets tableWidth :=
  match p.position fd with
  | none => (E_FAIL, p)
  | some pos =>
    (S_OK, { p with
      fds := p.fds.modify pos fun e => { e with events := (toNativeFlags eventflags).toUInt16 } })

end Table

/-! ## The entries -/

/-- No slot has an event exactly when no entry has. -/
theorem nextSlot_eq_none_iff {rotation : ℕ} {list : List Pollfd} :
    nextSlot rotation list = none ↔ eventsOf list = [] := by
  have hslots : nextSlot rotation list = none ↔ ∀ index < list.length,
      ∀ e, list[(index + rotation) % list.length]? = some e → e.revents = 0 := by
    unfold nextSlot
    simp [List.findSome?_eq_none_iff]
  rw [hslots, eventsOf, List.map_eq_nil_iff, List.filter_eq_nil_iff]
  constructor
  · intro h e he
    -- Every slot is the one of some index.
    obtain ⟨slot, hslot, rfl⟩ := List.getElem_of_mem he
    have hpos : 0 < list.length := by omega
    have hindex : ((slot + (list.length - rotation % list.length)) % list.length + rotation) %
        list.length = slot := by
      have hlt := Nat.mod_lt rotation hpos
      have hsplit : slot + (list.length - rotation % list.length) + rotation =
          slot + list.length * (rotation / list.length + 1) := by
        have hdiv := Nat.div_add_mod rotation list.length
        rw [Nat.mul_add, Nat.mul_one]
        omega
      rw [Nat.mod_add_mod, hsplit, Nat.add_mul_mod_self_left, Nat.mod_eq_of_lt hslot]
    have hrevents := h _ (Nat.mod_lt _ hpos) list[slot]
      (by rw [hindex]; exact List.getElem?_eq_getElem hslot)
    simpa using hrevents
  · intro h index _ e he
    simpa using h e (List.mem_of_getElem? he)

/-- The slot that is found is the place of an entry with an event. -/
theorem nextSlot_eq_some {rotation slotindex : ℕ} {list : List Pollfd} {e : Pollfd}
    (h : nextSlot rotation list = some (slotindex, e)) :
    list[slotindex]? = some e ∧ e.revents ≠ 0 := by
  obtain ⟨index, -, hindex⟩ := List.exists_of_findSome?_eq_some h
  obtain ⟨e', he', hsome⟩ := Option.bind_eq_some_iff.mp hindex
  split at hsome
  next hrevents =>
    simp only [Option.some.injEq, Prod.mk.injEq] at hsome
    obtain ⟨rfl, rfl⟩ := hsome
    exact ⟨he', hrevents⟩
  next => simp at hsome

/-- The descriptors with an event are some of the entries'. -/
theorem eventsOf_sublist (fds : List Pollfd) :
    ((eventsOf fds).map Prod.fst).Sublist (fds.map Pollfd.fd) := by
  rw [eventsOf, List.map_map]
  exact List.filter_sublist.map _

/-- What is pending does not depend on the order of the entries. -/
theorem eventsOf_perm {fds fds' : List Pollfd} (h : fds.Perm fds') :
    (eventsOf fds).Perm (eventsOf fds') := (h.filter _).map _

/-- `poll` leaves the descriptors where they are. -/
theorem map_fd_pollEntries (revents : ℕ → UInt16) (fds : List Pollfd) :
    (pollEntries revents fds).map Pollfd.fd = fds.map Pollfd.fd := by
  apply List.ext_getElem?
  intro i
  simp only [pollEntries, List.getElem?_map, List.getElem?_mapIdx, Option.map_map]
  rfl

/-- Clearing the events of an entry takes its event from those that are pending. -/
theorem eventsOf_clear {fds : List Pollfd} {slotindex : ℕ} {e : Pollfd}
    (he : fds[slotindex]? = some e) (hrevents : e.revents ≠ 0) :
    (eventsOf fds).Perm
    ((e.fd, e.revents) :: eventsOf (fds.set slotindex { e with revents := 0 })) := by
  obtain ⟨hlt, rfl⟩ := List.getElem?_eq_some_iff.mp he
  obtain ⟨before, after, hfds, -, hset⟩ : ∃ before after,
      fds = before ++ fds[slotindex] :: after ∧ before.length = slotindex ∧
      fds.set slotindex { fds[slotindex] with revents := 0 } =
        before ++ { fds[slotindex] with revents := 0 } :: after := List.exists_of_set hlt
  have hevents : eventsOf fds = eventsOf before ++
      (fds[slotindex].fd, fds[slotindex].revents) :: eventsOf after := by
    conv_lhs => rw [hfds]
    simp [eventsOf, hrevents]
  have hcleared : eventsOf (fds.set slotindex { fds[slotindex] with revents := 0 }) =
      eventsOf before ++ eventsOf after := by
    rw [hset]
    simp [eventsOf]
  rw [hevents, hcleared]
  exact List.perm_middle

/-- Removing an entry takes its event, if there is one, from those that are pending. -/
theorem eventsOf_remove {fds fds' : List Pollfd} {e : Pollfd}
    (hdistinct : (fds.map Pollfd.fd).Nodup) (hperm : fds.Perm (e :: fds')) :
    (eventsOf fds').Perm ((eventsOf fds).filter (·.1 ≠ e.fd)) := by
  have hnotin : e.fd ∉ fds'.map Pollfd.fd :=
    (List.nodup_cons.mp ((hperm.map Pollfd.fd).nodup_iff.mp hdistinct)).1
  have hothers : (eventsOf fds').filter (·.1 ≠ e.fd) = eventsOf fds' := by
    rw [List.filter_eq_self]
    intro x hx
    have hmem := (eventsOf_sublist fds').mem (List.mem_map_of_mem hx)
    have hne : x.1 ≠ e.fd := fun heq => hnotin (heq ▸ hmem)
    simpa using hne
  have hcons : (eventsOf (e :: fds')).filter (·.1 ≠ e.fd) =
      (eventsOf fds').filter (·.1 ≠ e.fd) := by
    by_cases hrevents : e.revents = 0
    · simp [eventsOf, hrevents]
    · simp [eventsOf, hrevents]
  rw [← hothers, ← hcons]
  exact ((eventsOf_perm hperm).filter _).symm

/-! ## The table of the entries -/

/-- Different entries have different descriptors. -/
theorem eq_of_fd_eq {fds : List Pollfd} (h : (fds.map Pollfd.fd).Nodup) {i j : ℕ} {fd : ℤ}
    (hi : (fds[i]?).map Pollfd.fd = some fd) (hj : (fds[j]?).map Pollfd.fd = some fd) : i = j := by
  rw [← List.getElem?_map] at hi hj
  exact (List.getElem?_inj (List.getElem?_eq_some_iff.mp hi).1 h).mp (hi.trans hj.symm)

/-- A descriptor is the one of some place exactly when it is the one of an entry. -/
theorem exists_place_iff {fds : List Pollfd} {fd : ℤ} :
    (∃ i : ℕ, (fds[i]?).map Pollfd.fd = some fd) ↔ fd ∈ fds.map Pollfd.fd := by
  rw [List.mem_iff_getElem?]
  simp only [List.getElem?_map]

/-- All the entries but the last one stay at their places when the last one is taken away. -/
theorem place_init_iff {init : List Pollfd} {last : Pollfd}
    (hdistinct : ((init ++ [last]).map Pollfd.fd).Nodup) (fd : ℤ) (i : ℕ) :
    (init[i]?).map Pollfd.fd = some fd ↔
      ((init ++ [last])[i]?).map Pollfd.fd = some fd ∧ fd ≠ last.fd := by
  have hlast : ((init ++ [last])[init.length]?).map Pollfd.fd = some last.fd := by simp
  rcases Nat.lt_trichotomy i init.length with hlt | rfl | hgt
  · rw [List.getElem?_append_left hlt]
    refine ⟨fun hi => ⟨hi, ?_⟩, And.left⟩
    rintro rfl
    have happend : (init ++ [last])[i]? = init[i]? := List.getElem?_append_left hlt
    rw [← happend] at hi
    exact hlt.ne (eq_of_fd_eq hdistinct hi hlast)
  · rw [hlast, List.getElem?_eq_none le_rfl]
    simp [eq_comm]
  · have hend : (init ++ [last])[i]? = none :=
      List.getElem?_eq_none (by rw [List.length_append, List.length_singleton]; omega)
    simp [hend, List.getElem?_eq_none hgt.le]

/-- The place of the last entry, in the table where it stands for the removed one. -/
theorem mem_patched_iff {items : List (ℤ × ℕ)} {init : List Pollfd} {last : Pollfd} {fd : ℤ}
    {pos : ℕ} (hdistinct : ((init ++ [last]).map Pollfd.fd).Nodup)
    (hitems : ∀ fd i, (fd, i) ∈ items ↔ ((init ++ [last])[i]?).map Pollfd.fd = some fd)
    (hpos : pos < init.length) (hfd : ((init ++ [last])[pos]?).map Pollfd.fd = some fd)
    (fd' : ℤ) (i : ℕ) :
    (fd', i) ∈ ((items.map fun x => if x.1 = last.fd then (last.fd, pos) else x).filter
      (·.1 ≠ fd)) ↔ ((init.set pos last)[i]?).map Pollfd.fd = some fd' := by
  have hlast : ((init ++ [last])[init.length]?).map Pollfd.fd = some last.fd := by simp
  have hne : fd ≠ last.fd := fun heq =>
    hpos.ne (eq_of_fd_eq hdistinct hfd (heq ▸ hlast))
  -- The items after the write: the last entry's has the new place, and the others are as they were.
  have hpatched : (fd', i) ∈ (items.map fun x => if x.1 = last.fd then (last.fd, pos) else x) ↔
      (fd' = last.fd ∧ i = pos) ∨
        (fd' ≠ last.fd ∧ ((init ++ [last])[i]?).map Pollfd.fd = some fd') := by
    rw [List.mem_map]
    constructor
    · rintro ⟨⟨key, value⟩, hmem, heq⟩
      split at heq
      next hkey =>
        simp only [Prod.mk.injEq] at heq
        exact .inl ⟨heq.1.symm, heq.2.symm⟩
      next hkey =>
        simp only [Prod.mk.injEq] at heq
        obtain ⟨rfl, rfl⟩ := heq
        exact .inr ⟨hkey, (hitems _ _).mp hmem⟩
    · rintro (⟨rfl, rfl⟩ | ⟨hkey, hplace⟩)
      · exact ⟨(last.fd, init.length), (hitems _ _).mpr hlast, if_pos rfl⟩
      · exact ⟨(fd', i), (hitems _ _).mpr hplace, if_neg hkey⟩
  rw [List.mem_filter, hpatched]
  simp only [ne_eq, decide_not, Bool.not_eq_eq_eq_not, Bool.not_true, decide_eq_false_iff_not]
  by_cases hi : i = pos
  · subst hi
    rw [List.getElem?_set_self hpos, hfd]
    simp only [Option.some.injEq, Option.map_some, and_true]
    constructor
    · rintro ⟨heq | ⟨-, heq⟩, hfd'⟩
      · exact heq.symm
      · exact absurd heq.symm hfd'
    · rintro rfl
      exact ⟨.inl rfl, hne.symm⟩
  · rw [List.getElem?_set_ne (Ne.symm hi)]
    rw [place_init_iff hdistinct]
    constructor
    · rintro ⟨⟨-, heq⟩ | ⟨hkey, hplace⟩, -⟩
      · exact absurd heq hi
      · exact ⟨hplace, hkey⟩
    · rintro ⟨hplace, hkey⟩
      refine ⟨.inr ⟨hkey, hplace⟩, ?_⟩
      rintro rfl
      exact hi (eq_of_fd_eq hdistinct hplace hfd)

section Table

variable [NeZero maxSockets] [NeZero tableWidth]

/-- The hash table has the place of every entry. -/
structure Tabled (p : CPoll maxSockets tableWidth) : Prop where
  initialized : p.fInitialized = true
  distinct : (p.fds.map Pollfd.fd).Nodup
  maps : ∃ items, FastHash.Maps p.hashtable items ∧
    ∀ fd i, (fd, i) ∈ items ↔ (p.fds[i]?).map Pollfd.fd = some fd

/-- The table is empty after `Initialize`. -/
theorem tabled_initialized : Tabled (initialize_ maxSockets tableWidth) where
  initialized := rfl
  distinct := List.nodup_nil
  maps := ⟨[], FastHash.maps_reset _, fun fd i => by simp [initialize_]⟩

section Tabled

variable {p : CPoll maxSockets tableWidth} (ht : Tabled p)
include ht

/-- `Lookup` returns the place of the entry. -/
theorem Tabled.lookup_iff (fd : ℤ) (i : ℕ) :
    p.hashtable.lookup fd = some i ↔ (p.fds[i]?).map Pollfd.fd = some fd := by
  obtain ⟨items, hm, hitems⟩ := ht.maps
  exact hm.lookup_eq_some_iff.trans (hitems fd i)

/-- The items of the table are the entries. -/
theorem Tabled.keys_perm {items : List (ℤ × ℕ)} (hm : FastHash.Maps p.hashtable items)
    (hitems : ∀ fd i, (fd, i) ∈ items ↔ (p.fds[i]?).map Pollfd.fd = some fd) :
    (items.map Prod.fst).Perm (p.fds.map Pollfd.fd) := by
  rw [List.perm_ext_iff_of_nodup hm.nodup ht.distinct]
  intro fd
  rw [← exists_place_iff]
  simp [hitems]

/-- The table has as many items as there are entries. -/
theorem Tabled.size_eq : p.hashtable.getSize = p.fds.length := by
  obtain ⟨items, hm, hitems⟩ := ht.maps
  have hlen := (ht.keys_perm hm hitems).length_eq
  rw [List.length_map, List.length_map] at hlen
  exact hm.size_eq.trans hlen

/-- The entries have room in the table. -/
theorem Tabled.length_le : p.fds.length ≤ maxSockets := by
  obtain ⟨items, hm, hitems⟩ := ht.maps
  rw [← ht.size_eq, hm.size_eq]
  exact hm.length_le

/-- `Lookup` finds nothing exactly when there is no entry. -/
theorem Tabled.lookup_eq_none_iff (fd : ℤ) :
    p.hashtable.lookup fd = none ↔ fd ∉ p.fds.map Pollfd.fd := by
  rw [← exists_place_iff, Option.eq_none_iff_forall_ne_some]
  simp only [ne_eq, ht.lookup_iff, not_exists]

/-- The checks of `Remove` and `ChangeEventSet` find the place of the entry. -/
theorem Tabled.position_iff (fd : ℤ) (i : ℕ) :
    p.position fd = some i ↔ (p.fds[i]?).map Pollfd.fd = some fd := by
  have hany : ∀ pos, p.hashtable.lookup fd = some pos → (p.fds[pos]?).any (·.fd = fd) := by
    intro pos hpos
    obtain ⟨e, he, hfd⟩ := Option.map_eq_some_iff.mp ((ht.lookup_iff fd pos).mp hpos)
    simp [he, hfd]
  have hfilter : (p.hashtable.lookup fd).filter (fun pos => (p.fds[pos]?).any (·.fd = fd)) =
      p.hashtable.lookup fd := by
    cases hlookup : p.hashtable.lookup fd with
    | none => rfl
    | some pos => exact Option.filter_some_pos (hany pos hlookup)
  rw [← ht.lookup_iff, position, if_neg (by simp [ht.initialized]), hfilter]
  split
  next hlen =>
    have hnil := List.length_eq_zero_iff.mp hlen
    simp [(ht.lookup_eq_none_iff fd).mpr (by simp [hnil])]
  next => exact Iff.rfl

/-- The checks fail when there is no entry. -/
theorem Tabled.position_eq_none {fd : ℤ} (h : fd ∉ p.fds.map Pollfd.fd) : p.position fd = none := by
  rw [Option.eq_none_iff_forall_ne_some]
  intro i hi
  exact h (exists_place_iff.mp ⟨i, (ht.position_iff fd i).mp hi⟩)

/-- `Add` of a descriptor that there is. -/
theorem Tabled.add_known {fd : ℤ} (h : fd ∈ p.fds.map Pollfd.fd) (eventflags : UInt32) :
    p.add fd eventflags = (E_UNEXPECTED, p) := by
  have hlookup : (p.hashtable.lookup fd).isSome := by
    rw [Option.isSome_iff_ne_none, ne_eq, ht.lookup_eq_none_iff]
    exact not_not_intro h
  rw [add, if_neg (by simp [ht.initialized]), if_pos hlookup]

/-- `Add` of a descriptor that there is not. -/
theorem Tabled.add_new {fd : ℤ} (h : fd ∉ p.fds.map Pollfd.fd) (eventflags : UInt32) :
    p.add fd eventflags = (S_OK, { p with
      fds := p.fds ++ [⟨fd, (toNativeFlags eventflags).toUInt16, 0⟩]
      hashtable := (p.hashtable.insert fd p.fds.length).2 }) := by
  have hlookup := (ht.lookup_eq_none_iff fd).mpr h
  rw [add, if_neg (by simp [ht.initialized]), if_neg (by simp [hlookup])]

/-- `Add` of a new descriptor with room keeps the table right. -/
theorem Tabled.add_ok {fd : ℤ} (h : fd ∉ p.fds.map Pollfd.fd) (hroom : p.fds.length < maxSockets)
    (eventflags : UInt32) : Tabled (p.add fd eventflags).2 := by
  obtain ⟨items, hm, hitems⟩ := ht.maps
  have hkeys := ht.keys_perm hm hitems
  have hlen : items.length = p.fds.length := hm.size_eq.symm.trans ht.size_eq
  obtain ⟨h', hinsert, hm'⟩ := hm.insert_ok (hlen ▸ hroom) (fun hmem => h (hkeys.mem_iff.mp hmem))
    p.fds.length
  rw [ht.add_new h, hinsert]
  refine ⟨ht.initialized, ?_, _, hm', fun fd' i => ?_⟩
  · rw [List.map_append]
    exact ht.distinct.append (List.nodup_singleton _) (by simpa using h)
  · rw [List.mem_append, hitems]
    rcases Nat.lt_trichotomy i p.fds.length with hlt | rfl | hgt
    · simp [List.getElem?_append_left hlt, hlt.ne]
    · simp [eq_comm]
    · have hend : ∀ e : Pollfd, (p.fds ++ [e])[i]? = none := fun e =>
        List.getElem?_eq_none (by rw [List.length_append, List.length_singleton]; omega)
      simp [hgt.ne', List.getElem?_eq_none hgt.le, hend]

/-- A new entry that has no room is not in the table. -/
theorem Tabled.add_full {fd : ℤ} (h : fd ∉ p.fds.map Pollfd.fd) (hfull : maxSockets ≤ p.fds.length)
    (eventflags : UInt32) : (p.add fd eventflags).2.fds.length = p.fds.length + 1 ∧
      (p.add fd eventflags).2.hashtable = p.hashtable := by
  obtain ⟨items, hm, hitems⟩ := ht.maps
  have hlen : items.length = p.fds.length := hm.size_eq.symm.trans ht.size_eq
  have hle := hm.length_le
  rw [ht.add_new h, hm.insert_full (by omega)]
  exact ⟨by simp, rfl⟩

/-- `Remove` of a descriptor that there is not. -/
theorem Tabled.remove_unknown {fd : ℤ} (h : fd ∉ p.fds.map Pollfd.fd) :
    p.remove fd = some (E_FAIL, p) := by
  rw [remove, ht.position_eq_none h]

/-- `Remove` takes the entry out, and the table has the places of the others. -/
theorem Tabled.remove_ok {fd : ℤ} {pos : ℕ} {e : Pollfd} (he : p.fds[pos]? = some e)
    (hfd : e.fd = fd) : ∃ p', p.remove fd = some (S_OK, p') ∧ Tabled p' ∧
      p.fds.Perm (e :: p'.fds) ∧ p'.unreadcount = p.unreadcount := by
  have hplace : (p.fds[pos]?).map Pollfd.fd = some fd := by rw [he, Option.map_some, hfd]
  have hposition := (ht.position_iff fd pos).mpr hplace
  have hdistinct := ht.distinct
  obtain ⟨items, hm, hitems⟩ := ht.maps
  obtain ⟨init, last, hfds⟩ : ∃ init last, p.fds = init ++ [last] := by
    rcases List.eq_nil_or_concat p.fds with hnil | ⟨init, last, hconcat⟩
    · rw [hnil] at he
      simp at he
    · exact ⟨init, last, hconcat.trans List.concat_eq_append⟩
  have hlast : p.fds.getLast? = some last := by rw [hfds, List.getLast?_concat]
  rw [hfds] at hitems hdistinct hplace he
  have hle : pos ≤ init.length := by
    have := (List.getElem?_eq_some_iff.mp he).1
    rw [List.length_append, List.length_singleton] at this
    omega
  rcases hle.eq_or_lt with rfl | hlt
  · -- The entry is the last one, and nothing moves.
    obtain rfl : last = e := by simpa using he
    obtain ⟨h', hremove, hm'⟩ := hm.remove_ok ((hitems fd init.length).mpr hplace)
    refine ⟨{ p with hashtable := h', fds := init }, ?_, ⟨ht.initialized, ?_, _, hm', ?_⟩, ?_, rfl⟩
    · simp only [remove, hposition, hlast]
      simp [hfds, hremove]
    · rw [List.map_append] at hdistinct
      exact hdistinct.of_append_left
    · intro fd' i
      rw [List.mem_filter, hitems, place_init_iff hdistinct, hfd]
      simp
    · rw [hfds]
      exact List.perm_append_singleton last init
  · -- The last entry moves into the hole.
    have hlastitem : (last.fd, init.length) ∈ items := (hitems _ _).mpr (by simp)
    obtain ⟨h₁, hwrite, hm₁⟩ := hm.writeLookup_ok hlastitem pos
    have hpatched := mem_patched_iff hdistinct hitems hlt hplace
    have hfdmem : (fd, pos) ∈ items.map fun x => if x.1 = last.fd then (last.fd, pos) else x := by
      have hne : fd ≠ last.fd := fun heq =>
        hlt.ne (eq_of_fd_eq hdistinct hplace (by simp [heq]))
      exact List.mem_map.mpr ⟨(fd, pos), (hitems _ _).mpr hplace, if_neg hne⟩
    obtain ⟨h₂, hremove, hm₂⟩ := hm₁.remove_ok hfdmem
    obtain ⟨before, after, hinit, -, hset⟩ : ∃ before after,
        init = before ++ init[pos] :: after ∧ before.length = pos ∧
        init.set pos last = before ++ last :: after := List.exists_of_set hlt
    have hperm : (init ++ [last]).Perm (e :: init.set pos last) := by
      have hentry : init[pos] = e := by
        rwa [List.getElem?_append_left hlt, List.getElem?_eq_getElem hlt, Option.some.injEq] at he
      rw [hset, hinit, hentry]
      calc (before ++ e :: after ++ [last]).Perm (last :: (before ++ e :: after)) :=
            List.perm_append_singleton _ _
        _ |>.Perm (last :: e :: (before ++ after)) := List.perm_middle.cons _
        _ |>.Perm (e :: last :: (before ++ after)) := .swap _ _ _
        _ |>.Perm (e :: (before ++ last :: after)) := List.perm_middle.symm.cons _
    refine ⟨{ p with hashtable := h₂, fds := init.set pos last }, ?_,
      ⟨ht.initialized, ?_, _, hm₂, hpatched⟩, hfds ▸ hperm, rfl⟩
    · have hne : pos ≠ p.fds.length - 1 := by
        rw [hfds, List.length_append, List.length_singleton]
        omega
      simp only [remove, hposition, hlast, if_pos hne, hwrite, Option.map_some, hremove]
      rw [hfds, List.set_append_left _ _ hlt, List.dropLast_concat]
    · exact (List.nodup_cons.mp ((hperm.map Pollfd.fd).nodup_iff.mp hdistinct)).2

/-- What `WaitForNextEvent` and `ChangeEventSet` change of the entries does not matter to the
table. -/
theorem Tabled.of_eq {p' : CPoll maxSockets tableWidth}
    (hfds : p'.fds.map Pollfd.fd = p.fds.map Pollfd.fd) (hhash : p'.hashtable = p.hashtable)
    (hinit : p'.fInitialized = p.fInitialized) : Tabled p' := by
  obtain ⟨items, hm, hitems⟩ := ht.maps
  refine ⟨hinit.trans ht.initialized, hfds ▸ ht.distinct, items, hhash ▸ hm, fun fd i => ?_⟩
  rw [hitems, ← List.getElem?_map, ← List.getElem?_map, hfds]

/-- `ChangeEventSet` of a descriptor that there is not. -/
theorem Tabled.changeEventSet_unknown {fd : ℤ} (h : fd ∉ p.fds.map Pollfd.fd)
    (eventflags : UInt32) : p.changeEventSet fd eventflags = (E_FAIL, p) := by
  rw [changeEventSet, ht.position_eq_none h]

/-- `ChangeEventSet` changes what `poll` is asked for, and not what it reported. -/
theorem Tabled.changeEventSet_ok {fd : ℤ} (h : fd ∈ p.fds.map Pollfd.fd) (eventflags : UInt32) :
    ∃ p', p.changeEventSet fd eventflags = (S_OK, p') ∧ Tabled p' ∧
      eventsOf p'.fds = eventsOf p.fds ∧ p'.unreadcount = p.unreadcount := by
  obtain ⟨pos, hpos⟩ := exists_place_iff.mpr h
  have hmodify : ∀ {β : Type} (f : Pollfd → β)
      (_ : ∀ e : Pollfd, f { e with events := (toNativeFlags eventflags).toUInt16 } = f e),
      (p.fds.modify pos fun e =>
        { e with events := (toNativeFlags eventflags).toUInt16 }).map f = p.fds.map f := by
    intro β f hf
    apply List.ext_getElem?
    intro i
    rw [List.getElem?_map, List.getElem?_map, List.getElem?_modify]
    split
    · simp [Function.comp_def, hf]
    · simp
  have hchange : p.changeEventSet fd eventflags = (S_OK, { p with
      fds := p.fds.modify pos fun e =>
        { e with events := (toNativeFlags eventflags).toUInt16 } }) := by
    rw [changeEventSet, (ht.position_iff fd pos).mpr hpos]
  refine ⟨_, hchange, ht.of_eq (hmodify Pollfd.fd fun _ => rfl) rfl rfl, ?_, rfl⟩
  have hevents := congrArg (List.filter (·.2 ≠ 0))
    (hmodify (fun e => (e.fd, e.revents)) fun _ => rfl)
  rw [List.filter_map, List.filter_map] at hevents
  exact hevents

end Tabled

end Table

/-! ## The events -/

/-- `FindNextEvent` finds nothing when no event is counted or pending. -/
structure FindsNone (p p' : CPoll maxSockets tableWidth) : Prop where
  none_left : p.unreadcount = 0 ∨ eventsOf p.fds = []
  fds_eq : p'.fds = p.fds
  hashtable_eq : p'.hashtable = p.hashtable
  fInitialized_eq : p'.fInitialized = p.fInitialized

/-- `FindNextEvent` takes an event from those that are pending, and the count goes down. -/
structure Finds (p : CPoll maxSockets tableWidth) (fd : ℤ) (revents : UInt16)
    (p' : CPoll maxSockets tableWidth) : Prop where
  pending_perm : (eventsOf p.fds).Perm ((fd, revents) :: eventsOf p'.fds)
  unreadcount_eq : p.unreadcount = p'.unreadcount + 1
  fds_eq : p'.fds.map Pollfd.fd = p.fds.map Pollfd.fd
  hashtable_eq : p'.hashtable = p.hashtable
  fInitialized_eq : p'.fInitialized = p.fInitialized

/-- `FindNextEvent` finds an event if there is one and any is counted. -/
theorem findNextEvent_cases (p : CPoll maxSockets tableWidth) :
    (∃ p', p.findNextEvent = (none, p') ∧ FindsNone p p') ∨
      ∃ fd revents p', p.findNextEvent =
        (some ⟨fd, fromNativeFlags revents.toUInt32⟩, p') ∧ Finds p fd revents p' := by
  by_cases hcount : p.unreadcount = 0
  · exact .inl ⟨p, by rw [findNextEvent, if_pos hcount], .inl hcount, rfl, rfl, rfl⟩
  · -- The rotation starts over when it has reached the end of the entries.
    obtain ⟨rotation, hrotation⟩ : ∃ rotation,
        (if p.rotation ≥ p.fds.length then { p with rotation := 0 } else p) =
          { p with rotation := rotation } := by
      split
      · exact ⟨0, rfl⟩
      · exact ⟨p.rotation, rfl⟩
    rw [findNextEvent, if_neg hcount, hrotation]
    cases hslot : nextSlot rotation p.fds with
    | none =>
      simp only [hslot]
      exact .inl ⟨_, rfl, .inr (nextSlot_eq_none_iff.mp hslot), rfl, rfl, rfl⟩
    | some found =>
      obtain ⟨slotindex, e⟩ := found
      obtain ⟨he, hrevents⟩ := nextSlot_eq_some hslot
      simp only [hslot]
      refine .inr ⟨e.fd, e.revents, _, rfl, eventsOf_clear he hrevents, ?_, ?_, rfl, rfl⟩
      · show p.unreadcount = p.unreadcount - 1 + 1
        omega
      · show (p.fds.set slotindex { e with revents := 0 }).map Pollfd.fd = _
        rw [List.map_set]
        obtain ⟨hlt, rfl⟩ := List.getElem?_eq_some_iff.mp he
        have hlt' : slotindex < (p.fds.map Pollfd.fd).length := by rwa [List.length_map]
        rw [← List.getElem_map Pollfd.fd (h := hlt')]
        exact List.set_getElem_self hlt'

end CPoll

end Stun
