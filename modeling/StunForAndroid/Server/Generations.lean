import StunForAndroid.Lib.Trace
import StunForAndroid.Server.TcpRun

/-!
# Generations of connections

Which connections a sweep closes. A connection that is accepted goes into the table of the new
connections, which is that of the older ones after the next sweep and is emptied by the one after
that. Nothing else moves a connection from one table to the other, so that the table has the number
of sweeps since the connection was accepted (`Aged`).

What happens in a run is a list of `SweepEntry`s, read off the states that the functions of the
thread give (`runEntries`). `age` is the number of sweeps since a connection was last accepted.
-/

namespace Stun

/-- What concerns the sweeping. -/
inductive SweepEntry (P : Type) (cfg : TcpConfig)
  /-- `AcceptConnection` gave a connection. -/
  | accepted (c : ConnId)
  /-- `SweepDeadConnections` found that it is not time. -/
  | checked (timeCurrent : ℤ)
  /-- `SweepDeadConnections` swept, with the thread before and after. -/
  | swept (timeCurrent timeSwept : ℤ) (t t' : CTCPStunThread P cfg)

namespace CTCPStunThread

open SweepEntry

variable {P : Type} {cfg : TcpConfig} (I : IPolling P)

/-! ## What happens in a run -/

/-- The connection that an event makes `Run` accept. -/
def acceptedBy (fd : ℤ) (i : RoundInput) (t : CTCPStunThread P cfg) : Option ConnId :=
  (t.getListenSocket fd).bind fun role => (t.acceptConnection I role i.accept).bind Prod.fst

/-- What the end of a round adds. -/
def sweepEntries (i : RoundInput) (t : CTCPStunThread P cfg) : List (SweepEntry P cfg) :=
  match t.sweepDeadConnections I i.timeCurrent i.timeSwept with
  | none => []
  | some t' =>
    if i.timeCurrent - t.timeLastSweep ≥ c_sweepTimeoutSeconds then
      [swept i.timeCurrent i.timeSwept t t']
    else [checked i.timeCurrent]

/-- The entries that a round adds to the trace. -/
def roundEntries (i : RoundInput) (t : CTCPStunThread P cfg) : List (SweepEntry P cfg) :=
  let r := t.awaited I
  let t := r.2
  if i.fNeedToExit then []
  else if i.fNeedToExitAfterWait ∨ r.1.fd = t.pipe then []
  else if r.1.hr = S_OK then
    match t.handleEvent I r.1.fd i with
    | none => []
    | some t' => (t.acceptedBy I r.1.fd i).toList.map accepted ++ t'.sweepEntries I i
  else t.sweepEntries I i

/-- What happens in a run. -/
def runEntries : List RoundInput → CTCPStunThread P cfg → List (SweepEntry P cfg)
  | [], _ => []
  | i :: rest, t =>
    t.roundEntries I i ++
      match t.round I i with
      | some (t', true) => runEntries rest t'
      | _ => []

/-- What `time` has returned, call by call. -/
def readings (trace : List (SweepEntry P cfg)) : List ℤ :=
  trace.flatMap fun
    | accepted _ => []
    | checked timeCurrent => [timeCurrent]
    | swept timeCurrent timeSwept _ _ => [timeCurrent, timeSwept]

/-- The number of sweeps since a connection was last accepted. -/
def age (c : ConnId) (trace : List (SweepEntry P cfg)) : Option ℕ :=
  trace.foldl (fun n entry =>
    match entry with
    | accepted c' => if c' = c then some 0 else n
    | checked _ => n
    | swept _ _ _ _ => n.map (· + 1)) none

/-- The pool has given the connection out. -/
def InUse (c : ConnId) (t : CTCPStunThread P cfg) : Prop :=
  ∃ conn, t.connectionpool.deref c = some conn

/-- What a sweep does, when the thread was started at a time and what happened until then is
known. -/
structure Sweeps (time : ℤ) (before : List (SweepEntry P cfg)) (timeCurrent : ℤ)
    (t t' : CTCPStunThread P cfg) : Prop where
  /-- What is closed was accepted before the previous sweep. -/
  closes_iff : ∀ c, t.InUse c ∧ ¬t'.InUse c ↔ t.InUse c ∧ ∃ n, age c before = some (n + 1)
  opens_none : ∀ c, t'.InUse c → t.InUse c
  /-- The table of the older connections is empty and is the one of the new connections. -/
  swaps : t'.pNewConnList = t.pOldConnList ∧ t'.pOldConnList = t.pNewConnList
  new_empty : (t'.hashConnections t'.pNewConnList).contents = []
  apart : (time :: readings before).Pairwise (· ≤ ·) → time + c_sweepTimeoutSeconds ≤ timeCurrent ∧
    ∀ timeCurrent₀ timeSwept₀ t₀ t₀', swept timeCurrent₀ timeSwept₀ t₀ t₀' ∈ before →
      timeSwept₀ + c_sweepTimeoutSeconds ≤ timeCurrent

/-- Every sweep is such a sweep. -/
def Generational (time : ℤ) (before : List (SweepEntry P cfg)) : SweepEntry P cfg → Prop
  | swept timeCurrent _ t t' => Sweeps time before timeCurrent t t'
  | _ => True

/-- One more entry of the trace starts the age of the connection that it accepts, and adds one to
every age when it sweeps. -/
theorem age_concat (c : ConnId) (trace : List (SweepEntry P cfg)) (entry : SweepEntry P cfg) :
    age c (trace ++ [entry]) =
      match entry with
      | accepted c' => if c' = c then some 0 else age c trace
      | checked _ => age c trace
      | swept _ _ _ _ => (age c trace).map (· + 1) := by
  rw [age, List.foldl_append]
  cases entry <;> rfl

/-! ## What is not touched but by a sweep -/

/-- The two pointers and the time of the last sweep are the same. -/
structure SameLists (t t' : CTCPStunThread P cfg) : Prop where
  pNewConnList : t'.pNewConnList = t.pNewConnList
  pOldConnList : t'.pOldConnList = t.pOldConnList
  timeLastSweep : t'.timeLastSweep = t.timeLastSweep

section SameLists

variable {t t' t'' : CTCPStunThread P cfg} {c : ConnId}

/-- A thread has the same lists as itself. -/
theorem SameLists.refl (t : CTCPStunThread P cfg) : SameLists t t := ⟨rfl, rfl, rfl⟩

/-- What two steps in a row leave of the lists stays the same over both. -/
theorem SameLists.trans (h : SameLists t t') (h' : SameLists t' t'') : SameLists t t'' where
  pNewConnList := h'.pNewConnList.trans h.pNewConnList
  pOldConnList := h'.pOldConnList.trans h.pOldConnList
  timeLastSweep := h'.timeLastSweep.trans h.timeLastSweep

variable {I}

/-- `CloseConnection` leaves the lists and the time of the last sweep as they are. -/
theorem closeConnection_sameLists (h : t.closeConnection I c = some t') : SameLists t t' := by
  simp only [closeConnection, removeHinted_eq, Option.bind_eq_bind, Option.bind_eq_some_iff,
    Option.some.injEq] at h
  obtain ⟨conn, -, pool, -, rfl⟩ := h
  exact ⟨rfl, rfl, rfl⟩

/-- Touching a connection that stays open leaves the lists and the time of the last sweep as they
are. -/
theorem Touches.sameLists (h : Touches I c t t') : SameLists t t' := by
  induction h with
  | refl t => exact .refl t
  | write _ _ _ _ ih => exact ⟨ih.pNewConnList, ih.pOldConnList, ih.timeLastSweep⟩
  | poll _ _ ih => exact ⟨ih.pNewConnList, ih.pOldConnList, ih.timeLastSweep⟩

/-- Serving a connection leaves the lists and the time of the last sweep as they are. -/
theorem Serves.sameLists {r : Option (CTCPStunThread P cfg)} (h : Serves I c t r)
    (hr : r = some t') : SameLists t t' := by
  obtain ⟨t₁, htouches, rfl | rfl⟩ := h
  · obtain rfl := Option.some.inj hr
    exact htouches.sameLists
  · exact htouches.sameLists.trans (closeConnection_sameLists hr)

/-- The part of `AcceptConnection` that puts a connection into the tables leaves the pointers to the
lists and the time of the last sweep as they are. -/
theorem track_sameLists {clientsock : ℤ} {c' : Option ConnId}
    (h : t.track I c clientsock = some (c', t')) : SameLists t t' := by
  unfold track at h
  simp only [Option.bind_eq_bind, Option.bind_eq_some_iff] at h
  obtain ⟨conn, -, h⟩ := h
  split at h
  · obtain ⟨t₁, hclose, heq⟩ := Option.bind_eq_some_iff.mp h
    obtain ⟨-, rfl⟩ := Prod.mk.inj (Option.some.inj heq)
    have hsame := closeConnection_sameLists hclose
    exact ⟨hsame.pNewConnList, hsame.pOldConnList, hsame.timeLastSweep⟩
  · obtain ⟨-, rfl⟩ := Prod.mk.inj (Option.some.inj h)
    exact ⟨rfl, rfl, rfl⟩

/-- `AcceptConnection` leaves the lists and the time of the last sweep as they are. -/
theorem acceptConnection_sameLists {role : SocketRole} {a : AcceptAnswer} {c' : Option ConnId}
    (h : t.acceptConnection I role a = some (c', t')) : SameLists t t' := by
  have hclose : ∀ (t₁ : CTCPStunThread P cfg) (c : ConnId),
      ((t₁.closeConnection I c).bind fun t => some ((none : Option ConnId), t)) = some (c', t') →
      SameLists t t₁ → SameLists t t' := by
    intro t₁ c h hsame
    obtain ⟨t₂, hclose, heq⟩ := Option.bind_eq_some_iff.mp h
    obtain ⟨-, rfl⟩ := Prod.mk.inj (Option.some.inj heq)
    exact hsame.trans (closeConnection_sameLists hclose)
  unfold acceptConnection at h
  dsimp only at h
  split at h
  · obtain ⟨-, rfl⟩ := Prod.mk.inj (Option.some.inj h)
    exact .refl t
  split at h
  · obtain ⟨-, rfl⟩ := Prod.mk.inj (Option.some.inj h)
    exact ⟨rfl, rfl, rfl⟩
  split at h
  · exact hclose _ _ h ⟨rfl, rfl, rfl⟩
  split at h
  · exact hclose _ _ h ⟨rfl, rfl, rfl⟩
  · have hsame := track_sameLists h
    exact ⟨hsame.pNewConnList, hsame.pOldConnList, hsame.timeLastSweep⟩

/-- `ProcessConnectionEvent` leaves the lists and the time of the last sweep as they are. -/
theorem processConnectionEvent_sameLists {sock : ℤ} {recvs : List RecvResult}
    {sends : List SendResult} (h : t.processConnectionEvent I sock recvs sends = some t') :
    SameLists t t' := by
  unfold processConnectionEvent at h
  split at h
  · obtain rfl := Option.some.inj h
    exact .refl t
  · obtain ⟨conn, hconn, h⟩ := Option.bind_eq_some_iff.mp h
    split at h
    · exact (receiveBytesForConnection_serves I hconn sends recvs).sameLists h
    · exact (writeBytesForConnection_serves I hconn recvs sends).sameLists h
    · exact (consumeRemoteClose_serves I hconn recvs).sameLists h
    · obtain rfl := Option.some.inj h
      exact .refl t

/-- The wait leaves the lists and the time of the last sweep as they are. -/
theorem awaited_sameLists (t : CTCPStunThread P cfg) : SameLists t (t.awaited I).2 := by
  have heq := setListenSocketsOnEpoll_eq I (!t.isConnectionCountAtMax) t
  show SameLists t { t.setListenSocketsOnEpoll I (!t.isConnectionCountAtMax) with spPolling := _ }
  rw [heq]
  exact ⟨rfl, rfl, rfl⟩

end SameLists

/-! ## The tables and the generations -/

/-- The tables have the connections by the number of sweeps since they were accepted. -/
structure Aged (time : ℤ) (trace : List (SweepEntry P cfg)) (t : CTCPStunThread P cfg)
    (items : TableId → List (ℤ × ConnId)) : Prop where
  books : Books ∅ t items []
  new : ∀ x ∈ items t.pNewConnList, age x.2 trace = some 0
  old : ∀ x ∈ items t.pOldConnList, age x.2 trace = some 1
  /-- `_timeLastSweep` is the latest time of a sweep. -/
  latest : (time :: readings trace).Pairwise (· ≤ ·) → time ≤ t.timeLastSweep ∧
    ∀ timeCurrent timeSwept t₀ t₀', swept timeCurrent timeSwept t₀ t₀' ∈ trace →
      timeSwept ≤ t.timeLastSweep
  each : Trace.Each (Generational time) trace

/-- A table is that of the new connections or that of the old ones. -/
theorem Books.table_cases {kept : Set ℤ} {t : CTCPStunThread P cfg}
    {items : TableId → List (ℤ × ConnId)} {hand : List ConnId} (hb : Books kept t items hand)
    (id : TableId) : id = t.pNewConnList ∨ id = t.pOldConnList := by
  have hlists := hb.lists
  revert hlists
  cases id <;> cases t.pNewConnList <;> cases t.pOldConnList <;> simp

/-- A connection is in use when it is in a table. -/
theorem Books.inUse_iff {kept : Set ℤ} {t : CTCPStunThread P cfg}
    {items : TableId → List (ℤ × ConnId)} (hb : Books kept t items []) (c : ConnId) :
    t.InUse c ↔ ∃ id, ∃ x ∈ items id, x.2 = c := by
  unfold InUse
  rw [← hb.gaveOut.mem_active_iff, List.append_nil, List.mem_append, List.mem_map, List.mem_map]
  constructor
  · rintro (h | h)
    · exact ⟨.one, h⟩
    · exact ⟨.two, h⟩
  · rintro ⟨id, h⟩
    cases id
    · exact .inl h
    · exact .inr h

/-- What an event does to the tables: some connections are closed, after one was accepted into the
table of the new ones or not. -/
structure Tracks (t t' : CTCPStunThread P cfg) (items items' : TableId → List (ℤ × ConnId))
    (c : Option ConnId) : Prop where
  books : Books ∅ t' items' []
  same : SameLists t t'
  mem : ∀ id, ∀ x ∈ items' id, x ∈ items id ∧ (∀ c' ∈ c, x.2 ≠ c') ∨
    id = t.pNewConnList ∧ x.2 ∈ c

namespace Books

variable {I} {kept : Set ℤ} {t : CTCPStunThread P cfg} {items : TableId → List (ℤ × ConnId)}

/-- The connection that was put into a table was in none. -/
theorem notMem_of_withItem {id : TableId} {x : ℤ × ConnId}
    (hb : Books kept t (withItem id x items) []) {id' : TableId} {y : ℤ × ConnId}
    (hy : y ∈ items id') : y.2 ≠ x.2 := by
  intro heq
  have hx' : x ∈ withItem id x items id := mem_withItem.mpr (.inr ⟨rfl, rfl⟩)
  have hy' : y ∈ withItem id x items id' := mem_withItem.mpr (.inl hy)
  obtain rfl := hb.table_unique hx' hy' heq.symm
  -- Both would be under the socket of the connection.
  obtain ⟨conn, hconn, hsock, -⟩ := hb.listed id x hx'
  have hkey := (hb.key_iff hy' hconn).mpr heq
  have hnodup := (hb.maps id).nodup
  rw [withItem, Function.update_self, List.map_append, List.nodup_append] at hnodup
  exact hnodup.2.2 y.1 (List.mem_map_of_mem hy) x.1 List.mem_cons_self (hkey.trans hsock)

variable (hb : Books ∅ t items [])
include hb

/-- Handling an event in `Run` returns, and tracks the connection that it accepts. -/
theorem handleEvent_tracks (fd : ℤ) (i : RoundInput) :
    ∃ t' items', t.handleEvent I fd i = some t' ∧
      Tracks t t' items items' (t.acceptedBy I fd i) := by
  -- Whatever does not accept a connection only takes items away.
  have hrest : ∀ {t' : CTCPStunThread P cfg} {items' : TableId → List (ℤ × ConnId)},
      Books ∅ t' items' [] → SameLists t t' → (∀ id, (items' id).Sublist (items id)) →
      Tracks t t' items items' none := fun hb' hsame hsub =>
    ⟨hb', hsame, fun id x hx => .inl ⟨(hsub id).mem hx, fun c' hc' => by cases hc'⟩⟩
  unfold CTCPStunThread.handleEvent acceptedBy
  cases hrole : t.getListenSocket fd with
  | some role =>
    dsimp only
    rw [Option.bind_some]
    by_cases hadmits : t.Admits I i.accept
    · rcases lt_or_eq_of_le (hb.maps t.pNewConnList).length_le with hroom | hfull
      · obtain ⟨c, t₁, haccept, haccepted, -⟩ := hb.acceptConnection_of_room hadmits hroom role
        obtain ⟨conn, hconn⟩ := haccepted.live c rfl
        have hserves := receiveBytesForConnection_serves I hconn i.sends i.recvs
        obtain ⟨t', items', hreceive, hb', hsub, -⟩ := haccepted.books.serves hconn hserves
        rw [haccept]
        refine ⟨t', items', hreceive, hb',
          (acceptConnection_sameLists haccept).trans (hserves.sameLists hreceive),
          fun id x hx => ?_⟩
        rcases mem_withItem.mp ((hsub id).mem hx) with hx | ⟨rfl, rfl⟩
        · refine .inl ⟨hx, fun c' hc' => ?_⟩
          obtain rfl := Option.some.inj hc'
          exact haccepted.books.notMem_of_withItem hx
        · exact .inr ⟨rfl, rfl⟩
      · obtain ⟨t', count, haccept, haccepted, -⟩ := hb.acceptConnection_of_full hadmits hfull role
        rw [haccept]
        exact ⟨t', items, rfl, hrest haccepted.books (acceptConnection_sameLists haccept)
          fun _ => .refl _⟩
    · obtain ⟨t', haccept, haccepted, -⟩ := hb.acceptConnection_of_not_admits hadmits role
      rw [haccept]
      exact ⟨t', items, rfl, hrest haccepted.books (acceptConnection_sameLists haccept)
        fun _ => .refl _⟩
  | none =>
    obtain ⟨t', items', hprocess, hb', hsub, hsame⟩ :=
      hb.processConnectionEvent (I := I) fd i.recvs i.sends
    exact ⟨t', items', hprocess, hrest hb' (processConnectionEvent_sameLists hprocess) hsub⟩

end Books

namespace Aged

variable {I} {time : ℤ} {trace : List (SweepEntry P cfg)} {t t' : CTCPStunThread P cfg}
  {items items' : TableId → List (ℤ × ConnId)} (h : Aged time trace t items)
include h

/-- Handling an event keeps the connections aged as the trace says. -/
theorem tracks {c : Option ConnId} (ht : Tracks t t' items items' c) :
    Aged time (trace ++ c.toList.map accepted) t' items' := by
  have hreadings : readings (trace ++ c.toList.map accepted) = readings trace := by
    cases c <;> simp [readings]
  -- Accepting a connection makes its age 0, and reads no clock.
  have hage : ∀ x : ℤ × ConnId, age x.2 (trace ++ c.toList.map accepted) =
      if x.2 ∈ c then some 0 else age x.2 trace := by
    intro x
    cases c with
    | none => simp
    | some c => simp [age_concat]
  refine ⟨ht.books, fun x hx => ?_, fun x hx => ?_, fun hclock => ?_, ?_⟩
  · rw [ht.same.pNewConnList] at hx
    rcases ht.mem _ x hx with ⟨hmem, hne⟩ | ⟨-, heq⟩
    · rw [hage, if_neg fun hin => hne _ hin rfl]
      exact h.new x hmem
    · rw [hage, if_pos heq]
  · rw [ht.same.pOldConnList] at hx
    rcases ht.mem _ x hx with ⟨hmem, hne⟩ | ⟨heq, -⟩
    · rw [hage, if_neg fun hin => hne _ hin rfl]
      exact h.old x hmem
    · exact absurd heq.symm h.books.lists
  · rw [hreadings] at hclock
    obtain ⟨hstart, hsweeps⟩ := h.latest hclock
    rw [ht.same.timeLastSweep]
    refine ⟨hstart, fun timeCurrent timeSwept t₀ t₀' hmem => ?_⟩
    refine hsweeps timeCurrent timeSwept t₀ t₀' ?_
    cases c <;> simpa using hmem
  · cases c with
    | none => simpa using h.each
    | some c => exact Trace.each_concat.mpr ⟨h.each, trivial⟩

/-- The wait keeps the connections aged as the trace says. -/
theorem awaited : Aged time trace (t.awaited I).2 items := by
  have hsame := awaited_sameLists (I := I) t
  exact ⟨h.books.awaited, hsame.pNewConnList ▸ h.new, hsame.pOldConnList ▸ h.old,
    hsame.timeLastSweep ▸ h.latest, h.each⟩

/-- A sweep closes what was accepted before the previous one. -/
theorem sweeps {timeCurrent : ℤ}
    (hdue : timeCurrent - t.timeLastSweep ≥ c_sweepTimeoutSeconds)
    (hb : Books ∅ t' (Function.update items t.pOldConnList []) [])
    (hswaps : t'.pNewConnList = t.pOldConnList ∧ t'.pOldConnList = t.pNewConnList) :
    Sweeps time trace timeCurrent t t' := by
  have hin := h.books.inUse_iff
  -- After the sweep the connections in use are those of the list that was the new one.
  have hin' : ∀ c, t'.InUse c ↔ ∃ x ∈ items t.pNewConnList, x.2 = c := by
    intro c
    rw [hb.inUse_iff]
    constructor
    · rintro ⟨id, x, hx, rfl⟩
      rcases h.books.table_cases id with rfl | rfl
      · rw [Function.update_of_ne h.books.lists] at hx
        exact ⟨x, hx, rfl⟩
      · rw [Function.update_self] at hx
        cases hx
    · rintro ⟨x, hx, rfl⟩
      refine ⟨t.pNewConnList, x, ?_, rfl⟩
      rwa [Function.update_of_ne h.books.lists]
  refine ⟨fun c => and_congr_right fun huse => ?_, fun c huse => ?_, hswaps, ?_, fun hclock => ?_⟩
  · -- A connection is closed just when it is on the old list, which is when its age is not 0.
    rw [hin']
    obtain ⟨id, x, hx, rfl⟩ := (hin c).mp huse
    rcases h.books.table_cases id with rfl | rfl
    · rw [h.new x hx]
      exact iff_of_false (not_not_intro ⟨x, hx, rfl⟩) (by simp)
    · rw [h.old x hx]
      refine iff_of_true ?_ ⟨0, rfl⟩
      rintro ⟨y, hy, heq⟩
      exact h.books.lists (h.books.table_unique hy hx heq)
  · obtain ⟨x, hx, rfl⟩ := (hin' c).mp huse
    exact (hin _).mpr ⟨_, x, hx, rfl⟩
  · have hperm := (hb.maps t'.pNewConnList).contents_perm
    rw [hswaps.1, Function.update_self] at hperm
    rw [hswaps.1]
    exact hperm.eq_nil
  · obtain ⟨hstart, hsweeps⟩ := h.latest hclock
    refine ⟨by omega, fun timeCurrent₀ timeSwept₀ t₀ t₀' hmem => ?_⟩
    have := hsweeps timeCurrent₀ timeSwept₀ t₀ t₀' hmem
    omega

/-- The sweep at the end of a round returns, and its entries keep the connections aged as the trace
says. -/
theorem sweepEntries (i : RoundInput) :
    ∃ t' items', t.sweepDeadConnections I i.timeCurrent i.timeSwept = some t' ∧
      Aged time (trace ++ t.sweepEntries I i) t' items' := by
  by_cases hdue : i.timeCurrent - t.timeLastSweep ≥ c_sweepTimeoutSeconds
  · obtain ⟨t', hsweep, hb', -, -, hnew, hold, hlast⟩ :=
      h.books.sweepDeadConnections_due (I := I) i.timeSwept hdue
    have hentries : t.sweepEntries I i = [swept i.timeCurrent i.timeSwept t t'] := by
      rw [CTCPStunThread.sweepEntries, hsweep]
      exact if_pos hdue
    have hreadings : readings (trace ++ [swept i.timeCurrent i.timeSwept t t']) =
        readings trace ++ [i.timeCurrent, i.timeSwept] := by simp [readings]
    -- The old list is emptied, and the lists change places.
    refine ⟨t', Function.update items t.pOldConnList [], hsweep, ?_⟩
    rw [hentries]
    refine ⟨hb', fun x hx => ?_, fun x hx => ?_, fun hclock => ?_, ?_⟩
    · rw [hnew, Function.update_self] at hx
      cases hx
    · rw [hold, Function.update_of_ne h.books.lists] at hx
      rw [age_concat, h.new x hx]
      rfl
    · rw [hreadings, ← List.cons_append, List.pairwise_append] at hclock
      obtain ⟨hstart, hsweeps⟩ := h.latest hclock.1
      have hswept : i.timeCurrent ≤ i.timeSwept := by simpa using hclock.2.1
      have hpos : 0 ≤ c_sweepTimeoutSeconds := by decide
      rw [hlast]
      refine ⟨by omega, fun timeCurrent timeSwept t₀ t₀' hmem => ?_⟩
      rcases List.mem_append.mp hmem with hmem | hmem
      · have := hsweeps timeCurrent timeSwept t₀ t₀' hmem
        omega
      · obtain ⟨-, rfl, -, -⟩ := swept.inj (List.mem_singleton.mp hmem)
        exact le_rfl
    · exact Trace.each_concat.mpr ⟨h.each, h.sweeps hdue hb' ⟨hnew, hold⟩⟩
  · have hsweep : t.sweepDeadConnections I i.timeCurrent i.timeSwept = some t := if_neg hdue
    have hentries : t.sweepEntries I i = [checked i.timeCurrent] := by
      rw [CTCPStunThread.sweepEntries, hsweep]
      exact if_neg hdue
    have hreadings : readings (trace ++ [checked i.timeCurrent]) =
        readings trace ++ [i.timeCurrent] := by simp [readings]
    -- It is not yet time: the clock was read, and nothing else has happened.
    refine ⟨t, items, hsweep, ?_⟩
    rw [hentries]
    refine ⟨h.books, fun x hx => ?_, fun x hx => ?_, fun hclock => ?_, ?_⟩
    · rw [age_concat]
      exact h.new x hx
    · rw [age_concat]
      exact h.old x hx
    · rw [hreadings, ← List.cons_append, List.pairwise_append] at hclock
      obtain ⟨hstart, hsweeps⟩ := h.latest hclock.1
      refine ⟨hstart, fun timeCurrent timeSwept t₀ t₀' hmem => ?_⟩
      exact hsweeps timeCurrent timeSwept t₀ t₀' (by simpa using hmem)
    · exact Trace.each_concat.mpr ⟨h.each, trivial⟩

/-- A round returns, and its entries keep the connections aged as the trace says. -/
theorem roundEntries (i : RoundInput) : ∃ t' goesOn items', t.round I i = some (t', goesOn) ∧
    Aged time (trace ++ t.roundEntries I i) t' items' := by
  have hw := h.awaited (I := I)
  rw [round_eq]
  unfold CTCPStunThread.roundEntries
  dsimp only
  split
  next =>
    refine ⟨t, false, items, rfl, ?_⟩
    rwa [List.append_nil]
  next =>
  split
  next =>
    refine ⟨_, false, items, rfl, ?_⟩
    rwa [List.append_nil]
  next =>
  split
  next =>
    obtain ⟨t₁, items₁, hhandle, ht⟩ := hw.books.handleEvent_tracks (I := I) (t.awaited I).1.fd i
    obtain ⟨t', items', hsweep, haged⟩ := (hw.tracks ht).sweepEntries (I := I) i
    rw [hhandle, Option.bind_some, hsweep]
    refine ⟨t', true, items', rfl, ?_⟩
    rwa [← List.append_assoc]
  next =>
    obtain ⟨t', items', hsweep, haged⟩ := hw.sweepEntries (I := I) i
    rw [Option.bind_some, hsweep]
    exact ⟨t', true, items', rfl, haged⟩

/-- A run returns, and its entries keep the connections aged as the trace says. -/
theorem runEntries (inputs : List RoundInput) : ∃ t' items', t.run I inputs = some t' ∧
    Aged time (trace ++ t.runEntries I inputs) t' items' := by
  induction inputs generalizing trace t items with
  | nil =>
    refine ⟨t, items, rfl, ?_⟩
    rwa [CTCPStunThread.runEntries, List.append_nil]
  | cons i rest ih =>
    obtain ⟨t₁, goesOn, items₁, hround, h₁⟩ := h.roundEntries (I := I) i
    unfold CTCPStunThread.runEntries CTCPStunThread.run
    rw [hround]
    cases goesOn with
    | true =>
      obtain ⟨t', items', hrun, h'⟩ := ih h₁
      refine ⟨t', items', hrun, ?_⟩
      rwa [← List.append_assoc]
    | false =>
      refine ⟨t₁, items₁, rfl, ?_⟩
      rwa [List.append_nil]

end Aged

/-! ## Every run -/

/-- Nothing was accepted before the loop. -/
theorem aged_init (spPolling : P) (socketTable : SocketRole → ℤ) (pipe : ℤ) (descriptors : List ℤ)
    (time : ℤ) : Aged time [] (init I (start spPolling socketTable pipe descriptors time :
      CTCPStunThread P cfg)) (fun _ => []) := by
  have hstart : Books ∅ (start spPolling socketTable pipe descriptors time : CTCPStunThread P cfg)
      (fun _ => []) [] := books_start (by simp) spPolling socketTable pipe time
  refine ⟨(hstart.setListenSocketsOnEpoll (I := I) true).congr rfl rfl rfl rfl rfl, ?_, ?_,
    fun _ => ⟨?_, ?_⟩, Trace.each_nil _⟩
  · simp
  · simp
  · show time ≤ (setListenSocketsOnEpoll I true _).timeLastSweep
    rw [setListenSocketsOnEpoll_eq]
    exact le_rfl
  · simp

/-- In every run a sweep closes exactly the connections in use that were accepted before the
previous sweep, and the sweeps are far enough apart when the clock does not run backwards; no
connection that is in use has seen more than one sweep. -/
theorem run_generational (spPolling : P) (socketTable : SocketRole → ℤ) (pipe : ℤ)
    (descriptors : List ℤ) (time : ℤ) (inputs : List RoundInput) :
    let t₀ : CTCPStunThread P cfg := init I (start spPolling socketTable pipe descriptors time)
    ∃ t, run I inputs t₀ = some t ∧ Trace.Each (Generational time) (runEntries I inputs t₀) ∧
      ∀ c, t.InUse c → ∃ n ≤ 1, age c (runEntries I inputs t₀) = some n := by
  intro t₀
  have hinit : Aged time [] t₀ fun _ => [] :=
    aged_init I spPolling socketTable pipe descriptors time
  obtain ⟨t, items, hrun, h⟩ := hinit.runEntries (I := I) inputs
  rw [List.nil_append] at h
  refine ⟨t, hrun, h.each, fun c huse => ?_⟩
  obtain ⟨id, x, hx, rfl⟩ := (h.books.inUse_iff c).mp huse
  rcases h.books.table_cases id with rfl | rfl
  · exact ⟨0, Nat.zero_le _, h.new x hx⟩
  · exact ⟨1, le_rfl, h.old x hx⟩

end CTCPStunThread

end Stun
