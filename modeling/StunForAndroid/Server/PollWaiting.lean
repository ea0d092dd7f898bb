import StunForAndroid.Server.PollLimit

/-!
# How long an event waits with `CPoll`

An event that `poll` reported is handed out to `Run` within as many rounds as events were pending,
whatever the other descriptors are ready for and whatever the thread accepts and closes meanwhile,
unless its descriptor is polled no more or the thread ends (`handed_out`). A round hands out one of
the events that are pending, and no new one comes before all of them were handed out: the number of
them is what goes down.
-/

namespace Stun

namespace CTCPStunThread

variable {cfg : TcpConfig} {tableWidth : ℕ} [NeZero tableWidth]

/-- Rounds of the loop that all go on. -/
inductive GoesOn {P : Type} (I : IPolling P) :
    List RoundInput → CTCPStunThread P cfg → CTCPStunThread P cfg → Prop
  | refl (t : CTCPStunThread P cfg) : GoesOn I [] t t
  | round {i : RoundInput} {rest : List RoundInput} {t t₁ t' : CTCPStunThread P cfg}
      (h : t.round I i = some (t₁, true)) (hrest : GoesOn I rest t₁ t') : GoesOn I (i :: rest) t t'

/-- A descriptor is polled. -/
def IsPolled (fd : ℤ) (t : CTCPStunThread (PollingOf cfg tableWidth) cfg) : Prop :=
  ∃ p, t.spPolling.cpoll = some p ∧ fd ∈ p.polledFds

/-- A descriptor waits no longer: its event is handed out in the next round, or the thread ends
then, or the descriptor is not polled. -/
inductive Settles (fd : ℤ) (t : CTCPStunThread (PollingOf cfg tableWidth) cfg) : Prop
  | handedOut (hr : (t.awaited PollInstance.polling).1.hr = S_OK)
      (hfd : (t.awaited PollInstance.polling).1.fd = fd)
  | ends (hpipe : (t.awaited PollInstance.polling).1.fd = t.pipe)
  | notPolled (h : ¬ IsPolled fd t ∨ ¬ IsPolled fd (t.awaited PollInstance.polling).2)

/-- While a descriptor is polled its event is one of some that are pending. -/
def Waiting (fd : ℤ) (n : ℕ) (polled : Set ℤ) (pending : Finset ℤ) : Prop :=
  fd ∈ polled → fd ∈ pending ∧ pending.card ≤ n

/-- That a descriptor waits among `n` pending ones stays so while other descriptors are added. -/
theorem lasting_waiting (fd : ℤ) (n : ℕ) : Lasting {fd}ᶜ (Waiting fd n) where
  remove := by
    rintro polled pending fd' h ⟨hfd, hne⟩
    obtain ⟨hmem, hle⟩ := h hfd
    exact ⟨Finset.mem_erase.mpr ⟨hne, hmem⟩,
      (Finset.card_le_card (Finset.erase_subset _ _)).trans hle⟩
  add := by
    rintro polled pending fd' h hne - (rfl | hfd)
    · exact absurd rfl hne
    · exact h hfd

section Polling

variable {s : Opened} {t : CTCPStunThread (PollingOf cfg tableWidth) cfg} (h : Polling s t)
include h

/-- The loop writes the flag before the wait only. -/
theorem Polling.flag_round {i : RoundInput} {t' : CTCPStunThread (PollingOf cfg tableWidth) cfg}
    (hround : t.round PollInstance.polling i = some (t', true)) :
    t'.fListenSocketsOnEpoll = (t.awaited PollInstance.polling).2.fListenSocketsOnEpoll := by
  obtain ⟨items, hb⟩ := h.books
  obtain ⟨t₁, goesOn, hround₁, -, hrounds⟩ := hb.round (I := PollInstance.polling) i
  have heq := Option.some.inj (hround₁.symm.trans hround)
  obtain rfl : t₁ = t' := congrArg Prod.fst heq
  obtain rfl : goesOn = true := congrArg Prod.snd heq
  cases hrounds with
  | idles _ _ _ hsame => exact hsame.fListenSocketsOnEpoll
  | handles _ _ _ hevent => exact hevent.same.fListenSocketsOnEpoll

/-- In a round either the descriptor settles, or there are fewer events before its own. -/
theorem Polling.round_waiting {fd : ℤ} {n : ℕ}
    (hwatches : Has (Watches s t.fListenSocketsOnEpoll (Waiting fd n)) t)
    (hfd : fd ∈ s.watched t.fListenSocketsOnEpoll t.connectionpool.sockets) {i : RoundInput}
    (hexit : i.fNeedToExit = false) (hexit' : i.fNeedToExitAfterWait = false) :
    Settles fd t ∨ ∃ t' m, t.round PollInstance.polling i = some (t', true) ∧ m < n ∧
      Has (Watches s t'.fListenSocketsOnEpoll (Waiting fd m)) t' := by
  obtain ⟨items, hb⟩ := h.books
  obtain ⟨-, hpool, -, -, hpipe⟩ := awaited_same PollInstance.polling t
  -- A listening socket is added only when it was not polled, so that it is another descriptor.
  have hother : t.fListenSocketsOnEpoll = false → s.listening ⊆ {fd}ᶜ := by
    rintro hflag fd' hlisten rfl
    rw [hflag] at hfd
    rcases hfd with ⟨-, hfalse⟩ | rfl | ⟨c, hc⟩
    · exact Bool.noConfusion hfalse
    · exact s.pipe_notMem hlisten
    · exact hwatches.apart.apart c _ hc (s.listening_open hlisten)
  obtain ⟨hflag, hapart, pending, pending', hcond, hpolls, hdelivers⟩ :=
    hb.watches_awaited (lasting_waiting fd n) hwatches h.socketTable h.limit hother
  by_cases hstill : fd ∈ s.watched (!t.isConnectionCountAtMax) t.connectionpool.sockets
  · obtain ⟨hmem, hle⟩ := hcond hstill
    cases hdelivers with
    | nothing _ hempty => exact absurd hmem (hempty ▸ Finset.notMem_empty fd)
    | polled _ _ hempty => exact absurd hmem (hempty ▸ Finset.notMem_empty fd)
    | next hr _ hnext hpending' =>
      by_cases hown : (t.awaited PollInstance.polling).1.fd = fd
      · exact .inl (.handedOut hr hown)
      by_cases hends : (t.awaited PollInstance.polling).1.fd = t.pipe
      · exact .inl (.ends hends)
      obtain ⟨t', goesOn, hround, -⟩ := h.round i
      obtain rfl : goesOn = true := by
        rw [round_eq, if_neg (by simp [hexit]), if_neg (by rw [hexit', hpipe]; simp [hends])]
          at hround
        obtain ⟨t₁, -, heq⟩ := Option.map_eq_some_iff.mp hround
        exact (congrArg Prod.snd heq).symm
      have hwaiting : Has (Watches s (!t.isConnectionCountAtMax) (Waiting fd pending'.card))
          (t.awaited PollInstance.polling).2 := by
        unfold Has
        rw [hpool]
        refine ⟨⟨pending', hpolls, fun _ => ⟨?_, le_rfl⟩⟩, hapart⟩
        rw [hpending']
        exact Finset.mem_erase.mpr ⟨Ne.symm hown, hmem⟩
      refine .inr ⟨t', pending'.card, hround, ?_, ?_⟩
      · rw [hpending']
        exact (Finset.card_erase_lt_of_mem hnext).trans_le hle
      · rw [h.flag_round hround, hflag]
        refine h.watches_round (lasting_waiting fd _) hround (by simp [hexit]) hwaiting ?_
        rintro sock hopen rfl
        exact hopen (hb.awaited.watched_open (hpool ▸ hstill))
  · refine .inl (.notPolled (.inr ?_))
    rintro ⟨p, hp, hpolled⟩
    obtain ⟨p', hp', -, hfds, -⟩ := hpolls
    obtain rfl := Option.some.inj (hp.symm.trans hp')
    exact hstill ((hfds fd).mp hpolled)

/-- In as many rounds as there are events before its own, the descriptor settles. -/
theorem Polling.settles {fd : ℤ} {n : ℕ}
    (hwatches : Has (Watches s t.fListenSocketsOnEpoll (Waiting fd n)) t) {inputs : List RoundInput}
    (hexit : ∀ i ∈ inputs, i.fNeedToExit = false ∧ i.fNeedToExitAfterWait = false)
    (hlength : n ≤ inputs.length) :
    ∃ pre t', pre <+: inputs ∧ pre.length ≤ n ∧ GoesOn PollInstance.polling pre t t' ∧
      Settles fd t' := by
  induction n using Nat.strong_induction_on generalizing t inputs with
  | _ n ih =>
    by_cases hfd : fd ∈ s.watched t.fListenSocketsOnEpoll t.connectionpool.sockets
    · -- While the descriptor is watched, a round settles it or leaves fewer pending ones before it.
      obtain ⟨⟨pending, hpolls, hcond⟩, -⟩ := id hwatches
      obtain ⟨hmem, hle⟩ := hcond hfd
      have hpos : 0 < n := (Finset.card_pos.mpr ⟨fd, hmem⟩).trans_le hle
      cases inputs with
      | nil => exact absurd hlength (Nat.not_le.mpr hpos)
      | cons i rest =>
        obtain ⟨hexit₁, hexit₂⟩ := hexit i List.mem_cons_self
        rcases h.round_waiting hwatches hfd hexit₁ hexit₂ with
          hsettles | ⟨t₁, m, hround, hlt, hwatches₁⟩
        · exact ⟨[], t, List.nil_prefix, Nat.zero_le _, .refl t, hsettles⟩
        · obtain ⟨t₂, goesOn, hround₂, h₂⟩ := h.round i
          obtain rfl : t₂ = t₁ := congrArg Prod.fst (Option.some.inj (hround₂.symm.trans hround))
          rw [List.length_cons] at hlength
          obtain ⟨pre, t', hpre, hprelength, hgoes, hsettles⟩ := ih m hlt h₂ hwatches₁
            (fun i hi => hexit i (List.mem_cons_of_mem _ hi)) (by omega)
          refine ⟨i :: pre, t', List.prefix_cons_inj i |>.mpr hpre, ?_,
            .round hround hgoes, hsettles⟩
          rw [List.length_cons]
          omega
    · -- A descriptor that is not watched is not polled.
      refine ⟨[], t, List.nil_prefix, Nat.zero_le _, .refl t, .notPolled (.inl ?_)⟩
      rintro ⟨p, hp, hpolled⟩
      obtain ⟨⟨pending, ⟨p', hp', -, hfds, -⟩, -⟩, -⟩ := id hwatches
      obtain rfl := Option.some.inj (hp.symm.trans hp')
      exact hfd ((hfds fd).mp hpolled)

end Polling

/-- Rounds that go on keep what holds in the loop. -/
theorem GoesOn.polling {s : Opened} {inputs : List RoundInput}
    {t t' : CTCPStunThread (PollingOf cfg tableWidth) cfg}
    (hgoes : GoesOn PollInstance.polling inputs t t') (h : Polling s t) : Polling s t' := by
  induction hgoes with
  | refl => exact h
  | round hround _ ih =>
    obtain ⟨t₂, goesOn, hround₂, h₂⟩ := h.round _
    obtain rfl := congrArg Prod.fst (Option.some.inj (hround₂.symm.trans hround))
    exact ih h₂

/-- In every run, an event that is pending is handed out within as many rounds as events are
pending, which are no more than the connections that may be and 5, unless its descriptor is polled
no more or the thread ends. -/
theorem handed_out {s : Opened} {polls : List PollReturn} {time : ℤ}
    {before inputs : List RoundInput} {t : CTCPStunThread (PollingOf cfg tableWidth) cfg}
    {p : CPoll (cfg.maxConnections + 5) tableWidth} {fd : ℤ}
    (hbefore : GoesOn PollInstance.polling before (s.pollThread cfg tableWidth polls time) t)
    (hp : t.spPolling.cpoll = some p) (hfd : fd ∈ p.pendingFds)
    (hexit : ∀ i ∈ inputs, i.fNeedToExit = false ∧ i.fNeedToExitAfterWait = false)
    (hlength : cfg.maxConnections + 5 ≤ inputs.length) :
    ∃ pre t', pre <+: inputs ∧ pre.length ≤ p.pendingFds.length ∧
      p.pendingFds.length ≤ cfg.maxConnections + 5 ∧ GoesOn PollInstance.polling pre t t' ∧
      Settles fd t' := by
  have h := hbefore.polling (Opened.polling s polls time)
  obtain ⟨⟨pending, hpolls, -⟩, hapart⟩ := id h.watches
  obtain ⟨p', hp', hc, -, hpending⟩ := id hpolls
  obtain rfl := Option.some.inj (hp.symm.trans hp')
  have hcard : pending.card = p.pendingFds.length := by
    rw [← List.toFinset_card_of_nodup hc.nodup]
    refine congrArg _ ?_
    ext fd'
    rw [List.mem_toFinset, hpending]
  have hle := hpolls.card_le
  have hwatches : Has (Watches s t.fListenSocketsOnEpoll (Waiting fd pending.card)) t :=
    ⟨⟨pending, hpolls, fun _ => ⟨(hpending fd).mp hfd, le_rfl⟩⟩, hapart⟩
  obtain ⟨pre, t', hpre, hprelength, hgoes, hsettles⟩ :=
    h.settles hwatches hexit (hle.trans hlength)
  exact ⟨pre, t', hpre, hcard ▸ hprelength, hcard ▸ hle, hgoes, hsettles⟩

/-- `handed_out` when both listening sockets are ready at once and a connection has been accepted
from the first. -/
theorem handed_out_twoListening : ∃ t p,
    GoesOn PollInstance.polling [acceptRound 10 60]
      (twoListening.pollThread twoConnections 11 [.ready fun i => if i = 2 then 0 else 1] 0) t ∧
    t.spPolling.cpoll = some p ∧ 4 ∈ p.pendingFds ∧
    ∃ pre t', pre <+: List.replicate 7 (acceptRound 11 61) ∧ pre.length ≤ p.pendingFds.length ∧
      p.pendingFds.length ≤ 7 ∧ GoesOn PollInstance.polling pre t t' ∧ Settles 4 t' := by
  have hround : (((twoListening.pollThread twoConnections 11
      [.ready fun i => if i = 2 then 0 else 1] 0).round PollInstance.polling
        (acceptRound 10 60)).map fun r => (r.2, r.1.spPolling.cpoll.map CPoll.pendingFds)) =
      some (true, some [4]) := by
    decide +kernel
  obtain ⟨r, hr, heq⟩ := Option.map_eq_some_iff.mp hround
  obtain ⟨hgoes, hpending⟩ := Prod.mk.inj heq
  obtain ⟨p, hp, hfds⟩ := Option.map_eq_some_iff.mp hpending
  have hbefore : GoesOn PollInstance.polling [acceptRound 10 60] (twoListening.pollThread
      twoConnections 11 [.ready fun i => if i = 2 then 0 else 1] 0) r.1 :=
    .round (hr.trans (congrArg some (Prod.ext rfl hgoes))) (.refl _)
  have hfd : 4 ∈ p.pendingFds := by rw [hfds]; exact List.mem_singleton.mpr rfl
  refine ⟨r.1, p, hbefore, hp, hfd, handed_out hbefore hp hfd (fun i hi => ?_) (by decide)⟩
  rw [List.eq_of_mem_replicate hi]
  exact ⟨rfl, rfl⟩

end CTCPStunThread

end Stun
