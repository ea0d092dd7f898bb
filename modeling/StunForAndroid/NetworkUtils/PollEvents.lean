import StunForAndroid.Lib.Trace
import StunForAndroid.NetworkUtils.PollCalls

/-!
# The events of `CPoll`

What happens to the events over a run of calls (`traced`). An event is owed from the call of `poll`
that reported it until it is delivered or its descriptor is removed (`Owes`). As long as the
descriptors have room in the table, what is owed is what is pending in the entries, so that `poll`
is called only when nothing is owed, and what is delivered is owed (`traced_keepsEvents`).

The removal of an entry with an event leaves `_unreadcount` too high. That does no harm:
`FindNextEvent` then looks at all the entries and finds nothing, and `poll` is called.
-/

namespace Stun

/-- `poll` is called, and what it reported before does not count any more. -/
def PollHappening.Renews : PollHappening → Prop
  | polled _ => True
  | _ => False

/-- The event of a descriptor is not to be delivered any more. -/
def PollHappening.Settles (fd : ℤ) : PollHappening → Prop
  | polled _ => False
  | delivered fd' _ => fd' = fd
  | removed fd' => fd' = fd

instance (fd : ℤ) : DecidablePred (PollHappening.Settles fd) := fun happening =>
  match happening with
  | .polled _ => inferInstanceAs (Decidable False)
  | .delivered fd' _ => inferInstanceAs (Decidable (fd' = fd))
  | .removed fd' => inferInstanceAs (Decidable (fd' = fd))

open PollHappening

namespace CPoll

/-- `poll` reported the event the last time, and it was not settled since. -/
def Owes (trace : List PollHappening) (fd : ℤ) (revents : UInt16) : Prop :=
  ∃ reported, Trace.Standing Renews (Settles fd) trace (polled reported) ∧ (fd, revents) ∈ reported

/-- `poll` is called when nothing is owed and reports at most one event for a descriptor, and what
is delivered is owed and has the flags of the event. -/
def Keeps (trace : List PollHappening) : PollHappening → Prop
  | polled reported => (reported.map Prod.fst).Nodup ∧ ∀ fd revents, ¬Owes trace fd revents
  | delivered fd eventflags =>
    ∃ revents, Owes trace fd revents ∧ eventflags = fromNativeFlags revents.toUInt32
  | removed _ => True

/-- After `poll` was called exactly the reported events are owed. -/
theorem owes_concat_polled {trace : List PollHappening} {reported : List (ℤ × UInt16)} {fd : ℤ}
    {revents : UInt16} : Owes (trace ++ [polled reported]) fd revents ↔
    (fd, revents) ∈ reported := by
  unfold Owes
  simp only [Trace.standing_concat, Renews, not_true_eq_false, false_and, and_false, or_false,
    polled.injEq, exists_eq_left']

/-- After an event was delivered or a descriptor removed the same is owed, but for what this
settles. -/
theorem owes_concat {trace : List PollHappening} {happening : PollHappening}
    (h : ¬happening.Renews) {fd : ℤ} {revents : UInt16} :
    Owes (trace ++ [happening]) fd revents ↔ Owes trace fd revents ∧ ¬happening.Settles fd := by
  have hne : ∀ reported, happening ≠ polled reported := by
    rintro reported rfl
    exact h trivial
  unfold Owes
  simp only [Trace.standing_concat, hne, false_or, h, not_false_eq_true, true_and]
  constructor
  · rintro ⟨reported, ⟨hstanding, hsettles⟩, hmem⟩
    exact ⟨⟨reported, hstanding, hmem⟩, hsettles⟩
  · rintro ⟨⟨reported, hstanding, hmem⟩, hsettles⟩
    exact ⟨reported, ⟨hstanding, hsettles⟩, hmem⟩

/-- Since `poll` was called the reported events are owed that nothing has settled. -/
theorem owes_since {before since : List PollHappening} {reported : List (ℤ × UInt16)}
    (hsince : ∀ e ∈ since, ¬e.Renews) {fd : ℤ} {revents : UInt16} :
    Owes (before ++ polled reported :: since) fd revents ↔
      (fd, revents) ∈ reported ∧ ∀ e ∈ since, ¬e.Settles fd := by
  have hstanding : ∀ r, Trace.Standing Renews (Settles fd) (before ++ polled reported :: since)
      (polled r) ↔ polled r = polled reported ∧ ∀ e ∈ since, ¬e.Settles fd :=
    fun r => Trace.standing_since trivial trivial hsince
  unfold Owes
  simp only [hstanding, polled.injEq]
  constructor
  · rintro ⟨r, ⟨rfl, hsettles⟩, hmem⟩
    exact ⟨hmem, hsettles⟩
  · rintro ⟨hmem, hsettles⟩
    exact ⟨reported, ⟨rfl, hsettles⟩, hmem⟩

variable {maxSockets tableWidth : ℕ}

/-! ## Moves and what is owed -/

/-- What happened so far is right, and what is owed is what is pending. -/
structure Accounted (trace : List PollHappening) (p : CPoll maxSockets tableWidth) : Prop where
  keeps : Trace.Each Keeps trace
  owes_iff : ∀ fd revents, Owes trace fd revents ↔ (fd, revents) ∈ p.pending
  distinct : (p.pending.map Prod.fst).Nodup

/-- A move is right, and what is owed after it is what is pending then. -/
theorem Move.accounted {trace : List PollHappening} {p q : CPoll maxSockets tableWidth}
    {happening : PollHappening} (h : Move p happening q) (hp : Accounted trace p) :
    Accounted (trace ++ [happening]) q := by
  cases h with
  | polled _ hempty hnodup hcount =>
    -- `poll` is only called when no event is left, so none is owed.
    refine ⟨Trace.each_concat.mpr ⟨hp.keeps, hnodup, fun fd revents howes => ?_⟩,
      fun fd revents => owes_concat_polled, hnodup⟩
    have hmem := (hp.owes_iff fd revents).mp howes
    rw [hempty] at hmem
    cases hmem
  | delivered fd revents _ hperm hcount =>
    have hnodup := (hperm.map Prod.fst).nodup_iff.mp hp.distinct
    rw [List.map_cons, List.nodup_cons] at hnodup
    have howes := (hp.owes_iff fd revents).mpr (hperm.mem_iff.mpr List.mem_cons_self)
    refine ⟨Trace.each_concat.mpr ⟨hp.keeps, revents, howes, rfl⟩, fun fd' revents' => ?_, hnodup.2⟩
    have hrenews : ¬Renews (.delivered fd (fromNativeFlags revents.toUInt32)) := not_false
    rw [owes_concat hrenews, hp.owes_iff, hperm.mem_iff, List.mem_cons]
    constructor
    · rintro ⟨heq | hmem, hne⟩
      · exact absurd (Prod.mk.inj heq).1.symm hne
      · exact hmem
    · intro hmem
      refine ⟨.inr hmem, ?_⟩
      rintro rfl
      exact hnodup.1 (List.mem_map.mpr ⟨_, hmem, rfl⟩)
  | removed fd _ hperm hcount =>
    refine ⟨Trace.each_concat.mpr ⟨hp.keeps, trivial⟩, fun fd' revents => ?_, ?_⟩
    · have hrenews : ¬Renews (.removed fd) := not_false
      rw [owes_concat hrenews, hp.owes_iff, hperm.mem_iff, List.mem_filter, decide_eq_true_eq]
      exact and_congr_right fun _ => not_congr eq_comm
    · exact (hperm.map Prod.fst).nodup_iff.mpr (hp.distinct.sublist (List.filter_sublist.map _))

/-- A sequence of moves keeps the events accounted for. -/
theorem Moves.accounted {trace happenings : List PollHappening} {p q : CPoll maxSockets tableWidth}
    (h : Moves p happenings q) (hp : Accounted trace p) : Accounted (trace ++ happenings) q := by
  induction h generalizing trace with
  | quiet p q hpending hcount =>
    rw [List.append_nil]
    exact ⟨hp.keeps, hpending ▸ hp.owes_iff, hpending ▸ hp.distinct⟩
  | move hmove _ ih =>
    rw [← List.singleton_append, ← List.append_assoc]
    exact ih (hmove.accounted hp)

/-! ## Runs -/

section Runs

variable [NeZero maxSockets] [NeZero tableWidth]

/-- What happens in calls from `Initialize` on, with the object after them. -/
def traced (maxSockets tableWidth : ℕ) [NeZero maxSockets] [NeZero tableWidth]
    (calls : List PollCall) : Option (List PollHappening × CPoll maxSockets tableWidth) :=
  calls.foldlM (fun t c => (t.2.call c).map fun r => (t.1 ++ c.happenings r.1, r.2))
    ([], initialize_ maxSockets tableWidth)

/-- One more call adds what happens in it to the trace. -/
theorem traced_concat (calls : List PollCall) (c : PollCall) :
    traced maxSockets tableWidth (calls ++ [c]) = (traced maxSockets tableWidth calls).bind fun t =>
      (t.2.call c).map fun r => (t.1 ++ c.happenings r.1, r.2) := by
  simp only [traced, List.foldlM_append, List.foldlM_cons, List.foldlM_nil, bind_pure,
    Option.bind_eq_bind]

/-- No call of the list makes the descriptors more than `maxSockets`. -/
def Within (maxSockets tableWidth : ℕ) [NeZero maxSockets] [NeZero tableWidth]
    (calls : List PollCall) : Prop :=
  ∀ before, before <+: calls → ∀ t, traced maxSockets tableWidth before = some t →
    t.2.fds.length ≤ maxSockets

/-- Every event that `poll` reported is delivered once before `poll` is called again, with the flags
of the event, unless its descriptor was removed, and nothing else is delivered. -/
structure KeepsEvents (trace : List PollHappening) : Prop where
  once : ∀ before reported since reported' after,
    trace = before ++ polled reported :: since ++ polled reported' :: after →
    (∀ r, polled r ∉ since) → ∀ fd revents, (fd, revents) ∈ reported → removed fd ∉ since →
    since.filter (fun e => e.Settles fd) = [delivered fd (fromNativeFlags revents.toUInt32)]
  only : ∀ before fd eventflags after, trace = before ++ delivered fd eventflags :: after →
    ∃ earlier reported since revents, before = earlier ++ polled reported :: since ∧
      (∀ r, polled r ∉ since) ∧ (fd, revents) ∈ reported ∧
      eventflags = fromNativeFlags revents.toUInt32 ∧ removed fd ∉ since ∧
      ∀ flags, delivered fd flags ∉ since

/-- Nothing renews when `poll` is not called. -/
theorem not_renews {since : List PollHappening} (h : ∀ r, polled r ∉ since) :
    ∀ e ∈ since, ¬e.Renews := by
  intro e he hrenews
  cases e with
  | polled r => exact h r he
  | delivered fd eventflags => exact hrenews
  | removed fd => exact hrenews

/-- If `poll` is only called when nothing is owed, and only what is owed is delivered, then every
event is delivered once. -/
theorem keepsEvents_of_each {trace : List PollHappening} (h : Trace.Each Keeps trace) :
    KeepsEvents trace where
  once := by
    intro before reported since reported' after htrace hsince fd revents hmem hremoved
    have hnodup : (reported.map Prod.fst).Nodup :=
      (h before (polled reported) (since ++ polled reported' :: after) (by simp [htrace])).1
    have hsettled := (h (before ++ polled reported :: since) (polled reported') after htrace).2
    -- What settles the event is its delivery, since it was not removed.
    have hdelivery : ∀ s e s', since = s ++ e :: s' → e.Settles fd →
        e = delivered fd (fromNativeFlags revents.toUInt32) ∧ ∀ e' ∈ s, ¬e'.Settles fd := by
      intro s e s' hsplit hsettles
      cases e with
      | polled r => exact hsettles.elim
      | removed fd' =>
        obtain rfl : fd' = fd := hsettles
        exact absurd (by simp [hsplit]) hremoved
      | delivered fd' eventflags =>
        obtain rfl : fd' = fd := hsettles
        obtain ⟨revents', howes, rfl⟩ := h (before ++ polled reported :: s)
          (delivered fd' eventflags) (s' ++ polled reported' :: after) (by simp [htrace, hsplit])
        rw [owes_since (not_renews fun r hr => hsince r (by simp [hsplit, hr]))] at howes
        obtain ⟨hmem', hnone⟩ := howes
        obtain rfl : revents' = revents :=
          congrArg Prod.snd (List.inj_on_of_nodup_map hnodup hmem' hmem rfl)
        exact ⟨rfl, hnone⟩
    obtain ⟨e, he, hsettles⟩ : ∃ e ∈ since, e.Settles fd := by
      by_contra hnone
      refine hsettled fd revents ((owes_since (not_renews hsince)).mpr ⟨hmem, fun e he hs => ?_⟩)
      exact hnone ⟨e, he, hs⟩
    obtain ⟨s, s', rfl⟩ := List.append_of_mem he
    obtain ⟨rfl, hbefore⟩ := hdelivery s e s' rfl hsettles
    have hafter : ∀ e' ∈ s', ¬e'.Settles fd := by
      intro e' he' hs
      obtain ⟨s₁, s₂, rfl⟩ := List.append_of_mem he'
      -- A second delivery would have the first one before it.
      have hsecond := (hdelivery (s ++ delivered fd (fromNativeFlags revents.toUInt32) :: s₁) e' s₂
        (by simp) hs).2
      exact hsecond _ (List.mem_append_right _ List.mem_cons_self) hsettles
    rw [List.filter_append, List.filter_cons_of_pos (by simpa using hsettles),
      List.filter_eq_nil_iff.mpr (by simpa using hbefore),
      List.filter_eq_nil_iff.mpr (by simpa using hafter), List.nil_append]
  only := by
    intro before fd eventflags after htrace
    obtain ⟨revents, ⟨reported, ⟨earlier, since, rfl, hsince⟩, hmem⟩, rfl⟩ :=
      h before (delivered fd eventflags) after htrace
    exact ⟨earlier, reported, since, revents, rfl, fun r hr => (hsince _ hr).1 trivial, hmem, rfl,
      fun hr => (hsince _ hr).2 rfl, fun flags hr => (hsince _ hr).2 rfl⟩

/-- As long as the descriptors have room, all calls return and what happened is accounted for. -/
theorem traced_accounted {calls : List PollCall} (hwithin : Within maxSockets tableWidth calls) :
    ∃ trace p, traced maxSockets tableWidth calls = some (trace, p) ∧ Tabled p ∧ p.Covered ∧
      Accounted trace p := by
  induction calls using List.reverseRecOn with
  | nil =>
    refine ⟨[], _, rfl, tabled_initialized, le_rfl, Trace.each_nil _, fun fd revents => ?_,
      List.nodup_nil⟩
    refine iff_of_false ?_ List.not_mem_nil
    rintro ⟨reported, ⟨before, since, hnil, -⟩, -⟩
    simp at hnil
  | append_singleton calls c ih =>
    obtain ⟨trace, p, htraced, ht, hcovered, haccounted⟩ :=
      ih fun before hpre => hwithin before (hpre.trans (List.prefix_append _ _))
    -- The run is within the capacity after the call too, so a new entry had room.
    have hroom : HasRoom c p := by
      cases c with
      | add fd eventflags =>
        intro hnew
        have hnext : traced maxSockets tableWidth (calls ++ [.add fd eventflags]) =
            some (trace, (p.add fd eventflags).2) := by
          rw [traced_concat, htraced, Option.bind_some]
          simp [call, PollCall.happenings]
        have hlen := hwithin _ (List.prefix_refl _) _ hnext
        rw [ht.add_new hnew, List.length_append] at hlen
        exact hlen
      | remove fd => trivial
      | changeEventSet fd eventflags => trivial
      | waitForNextEvent pPollEvent poll => trivial
    obtain ⟨r, p', hcomes⟩ := ht.comes hcovered hroom
    refine ⟨trace ++ c.happenings r, p', ?_, hcomes.tabled, hcomes.moves.covered hcovered,
      hcomes.moves.accounted haccounted⟩
    rw [traced_concat, htraced, Option.bind_some, hcomes.call_eq, Option.map_some]

/-- `CPoll` loses and repeats no event. -/
theorem traced_keepsEvents {calls : List PollCall} (hwithin : Within maxSockets tableWidth calls) :
    ∃ trace p, traced maxSockets tableWidth calls = some (trace, p) ∧ KeepsEvents trace := by
  obtain ⟨trace, p, htraced, -, -, haccounted⟩ := traced_accounted hwithin
  exact ⟨trace, p, htraced, keepsEvents_of_each haccounted.keeps⟩

/-- Three descriptors are ready, one is removed before its event is delivered, and `poll` is called
again for the others. -/
def rounds : List PollCall :=
  [.add 3 IPOLLING_READ, .add 4 IPOLLING_READ, .add 5 IPOLLING_WRITE,
    .waitForNextEvent (some ⟨0, 0⟩) (.ready fun _ => 1), .remove 4,
    .waitForNextEvent (some ⟨0, 0⟩) (.error 4), .waitForNextEvent (some ⟨0, 0⟩) (.ready fun _ => 4)]

/-- `traced_keepsEvents` for some rounds: no event is lost or repeated. -/
theorem traced_keepsEvents_rounds :
    ∃ trace p, traced 3 3 rounds = some (trace, p) ∧ KeepsEvents trace := by
  refine traced_keepsEvents fun before hpre t htraced => ?_
  have hall : ∀ n ∈ List.range 8,
      (traced 3 3 (rounds.take n)).all fun t => t.2.fds.length ≤ 3 := by decide
  have hlen : before.length < 8 := Nat.lt_succ_of_le hpre.length_le
  have hbefore := hall before.length (List.mem_range.mpr hlen)
  rw [← List.prefix_iff_eq_take.mp hpre, htraced] at hbefore
  simpa using hbefore

end Runs

end CPoll

end Stun
