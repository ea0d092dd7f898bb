import Mathlib.Data.List.Basic
import Mathlib.Logic.Relation

/-!
# Stop and wait

A sender has a list of items. It reads its position, sends the item at the position it has read, and
advances when the position is acknowledged. A receiver accepts an item when its index is the number
of items it has, and acknowledges whatever arrives. The two are joined by a medium that loses,
duplicates, delays and reorders: what was ever sent may arrive at any time, any number of times, or
never.

`Invariant` relates the two counters to everything that was sent. It holds in every state that can
be reached (`Invariant.of_reachable`), so the receiver always has a prefix of the items and is at
most one item ahead of the sender, and once the last item arrives the receiver has all of them
(`Invariant.receive_last`).
-/

namespace StopAndWait

variable {α : Type}

/-- The sender, the receiver and what was sent between them. -/
structure State (α : Type) where
  /-- The position of the sender. -/
  position : ℕ
  /-- The position that the sender has read and has not yet sent the item of. -/
  read : Option ℕ
  /-- What the receiver has accepted. -/
  accepted : List α
  /-- The items that were sent, with their indices. -/
  items : List (ℕ × α)
  /-- The indices that were acknowledged. -/
  acks : List ℕ

/-- Nothing is sent and nothing is accepted. -/
def initial : State α := ⟨0, none, [], [], []⟩

/-- What the receiver has after an item with an index has arrived. -/
def accept (accepted : List α) (i : ℕ) (x : α) : List α :=
  if i = accepted.length then accepted ++ [x] else accepted

/-- A step of the sender, of the receiver, or of the two of them with the medium. -/
inductive Step (file : List α) : State α → State α → Prop
  | read (s : State α) (h : s.position < file.length) :
      Step file s { s with read := some s.position }
  | send (s : State α) (i : ℕ) (x : α) (hread : s.read = some i) (hx : file[i]? = some x) :
      Step file s { s with read := none, items := (i, x) :: s.items }
  | receive (s : State α) (i : ℕ) (x : α) (h : (i, x) ∈ s.items) :
      Step file s { s with accepted := accept s.accepted i x, acks := i :: s.acks }
  | advance (s : State α) (i : ℕ) (h : i ∈ s.acks) :
      Step file s { s with position := if s.position = i then s.position + 1 else s.position }

/-- What can be reached by a run of any length. -/
def Reachable (file : List α) : State α → Prop := Relation.ReflTransGen (Step file) initial

/-! ## The invariant -/

/-- The receiver has a prefix of the items and is not behind the sender and at most one item ahead
of it, and no item and no acknowledgement that was sent is newer than the two counters. -/
structure Invariant (file : List α) (s : State α) : Prop where
  accepted_eq : s.accepted = file.take s.accepted.length
  position_le : s.position ≤ s.accepted.length
  le_position : s.accepted.length ≤ s.position + 1
  read_le : ∀ i, s.read = some i → i ≤ s.position
  item_le : ∀ i x, (i, x) ∈ s.items → i ≤ s.position ∧ file[i]? = some x
  ack_lt : ∀ i, i ∈ s.acks → i < s.accepted.length

namespace Invariant

variable {file : List α} {s s' : State α}

/-- The invariant holds at first. -/
theorem initial (file : List α) : Invariant file initial where
  accepted_eq := rfl
  position_le := Nat.le_refl 0
  le_position := Nat.zero_le 1
  read_le _ h := nomatch h
  item_le _ _ h := nomatch h
  ack_lt _ h := nomatch h

/-- The receiver has at most all of the items. -/
theorem accepted_le (h : Invariant file s) : s.accepted.length ≤ file.length := by
  have hlen := congrArg List.length h.accepted_eq
  rw [List.length_take] at hlen
  omega

/-- What is accepted never gets shorter. -/
theorem length_le_accept (accepted : List α) (i : ℕ) (x : α) :
    accepted.length ≤ (accept accepted i x).length := by
  unfold accept
  split_ifs
  · simp
  · exact Nat.le_refl _

/-- The next item makes the prefix longer by one. -/
theorem take_accept {accepted : List α} {i : ℕ} {x : α}
    (h : accepted = file.take accepted.length) (hx : file[i]? = some x) :
    accept accepted i x = file.take (accept accepted i x).length := by
  unfold accept
  split_ifs with hi
  · rw [List.length_append, List.length_singleton, List.take_add_one, ← hi, hx, hi, ← h]
    rfl
  · exact h

/-- A step keeps the invariant. -/
theorem step (h : Invariant file s) (hstep : Step file s s') : Invariant file s' := by
  cases hstep with
  | read hlt =>
    exact { h with read_le := fun i hi => Nat.le_of_eq (Option.some.inj hi).symm }
  | send i x hread hx =>
    refine { h with
      read_le := fun _ hi => nomatch hi
      item_le := fun j y hj => ?_ }
    -- The item is that of a position that was read before the sender may have advanced.
    obtain hj | hj := List.mem_cons.mp hj
    · obtain ⟨rfl, rfl⟩ := Prod.mk.inj hj
      exact ⟨h.read_le j hread, hx⟩
    · exact h.item_le j y hj
  | receive i x hmem =>
    obtain ⟨hi, hx⟩ := h.item_le i x hmem
    have hle := length_le_accept s.accepted i x
    have hlen : (accept s.accepted i x).length =
        if i = s.accepted.length then s.accepted.length + 1 else s.accepted.length := by
      unfold accept
      split_ifs <;> simp
    have hpos := h.position_le
    have hpos' := h.le_position
    refine { h with
      accepted_eq := take_accept h.accepted_eq hx
      position_le := Nat.le_trans hpos hle
      le_position := ?_
      ack_lt := fun j hj => ?_ }
    · show (accept s.accepted i x).length ≤ s.position + 1
      rw [hlen]
      split_ifs <;> omega
    · show j < (accept s.accepted i x).length
      obtain rfl | hj := List.mem_cons.mp hj
      · -- An index that is not the next one is of an item that was accepted before.
        rw [hlen]
        split_ifs <;> omega
      · exact Nat.lt_of_lt_of_le (h.ack_lt j hj) hle
  | advance i hmem =>
    have hlt := h.ack_lt i hmem
    have hpos := h.position_le
    have hpos' := h.le_position
    have hmono : s.position ≤ if s.position = i then s.position + 1 else s.position := by
      split_ifs <;> omega
    refine { h with
      position_le := ?_
      le_position := ?_
      read_le := fun j hj => Nat.le_trans (h.read_le j hj) hmono
      item_le := fun j y hj => ⟨Nat.le_trans (h.item_le j y hj).1 hmono, (h.item_le j y hj).2⟩ }
    · show (if s.position = i then s.position + 1 else s.position) ≤ s.accepted.length
      split_ifs <;> omega
    · show s.accepted.length ≤ (if s.position = i then s.position + 1 else s.position) + 1
      omega

/-- The invariant holds in every state that can be reached. -/
theorem of_reachable (h : Reachable file s) : Invariant file s := by
  induction h with
  | refl => exact initial file
  | tail _ hstep ih => exact ih.step hstep

/-- With the last item the receiver has all of them. -/
theorem receive_last (h : Invariant file s) {i : ℕ} {x : α} (hmem : (i, x) ∈ s.items)
    (hlast : i + 1 = file.length) : accept s.accepted i x = file := by
  obtain ⟨hi, hx⟩ := h.item_le i x hmem
  have hpos := h.position_le
  have hle := h.accepted_le
  have htake := take_accept h.accepted_eq hx
  have hlen : file.length ≤ (accept s.accepted i x).length := by
    unfold accept
    split_ifs with hnext
    · rw [List.length_append, List.length_singleton]
      omega
    · omega
  rw [htake, List.take_of_length_le hlen]

/-- A receiver with all of the items accepts no further one. -/
theorem accept_eq_of_all (h : Invariant file s) {i : ℕ} {x : α} (hmem : (i, x) ∈ s.items)
    (hall : s.accepted = file) : i ≠ s.accepted.length := by
  obtain ⟨-, hx⟩ := h.item_le i x hmem
  have hi := (List.getElem?_eq_some_iff.mp hx).1
  rw [hall]
  exact Nat.ne_of_lt hi

end Invariant

end StopAndWait
