import StunForAndroid.Lib.Octets

/-!
# An array with a cursor

An array of any length with a position in it, which may be its end. It is written over from the
position on, and becomes longer when that reaches past its end; it is read from the position on, and
not past its end; and the position is moved within it. `run` performs a sequence of commands, each
with its reply. A command that fails changes nothing.
-/

/-- An array, and a position in it or at its end. -/
structure ArrayCursor (α : Type) where
  /-- The array. -/
  items : List α
  /-- The position. -/
  pos : ℕ
  pos_le : pos ≤ items.length

namespace ArrayCursor

variable {α : Type}

/-- An array without items. -/
def empty : ArrayCursor α := ⟨[], 0, Nat.zero_le _⟩

/-- To move the cursor to a position. -/
def seek (pos : ℕ) (c : ArrayCursor α) : Option (ArrayCursor α) :=
  if h : pos ≤ c.items.length then some ⟨c.items, pos, h⟩ else none

/-- To move the cursor by an offset. -/
def move (offset : ℤ) (c : ArrayCursor α) : Option (ArrayCursor α) :=
  if 0 ≤ c.pos + offset then c.seek (c.pos + offset).toNat else none

/-- To read some items and to move behind them. -/
def read (count : ℕ) (c : ArrayCursor α) : Option (List α × ArrayCursor α) :=
  if h : c.pos + count ≤ c.items.length then
    some ((c.items.drop c.pos).take count, ⟨c.items, c.pos + count, h⟩)
  else none

/-- After a write the array reaches at least to the position behind what was written. -/
theorem pos_le_write (c : ArrayCursor α) (data : List α) :
    c.pos + data.length ≤ (Octets.overwrite c.items c.pos data).length := by
  rw [Octets.length_overwrite _ _ _ c.pos_le]
  exact Nat.le_max_right _ _

/-- To write some items, at least one, and to move behind them. -/
def write (data : List α) (c : ArrayCursor α) : Option (ArrayCursor α) :=
  if data.isEmpty then none
  else some ⟨Octets.overwrite c.items c.pos data, c.pos + data.length, c.pos_le_write data⟩

/-- What can be asked of an array with a cursor. -/
inductive Command (α : Type) where
  | write (data : List α)
  | read (count : ℕ)
  | seek (pos : ℕ)
  | move (offset : ℤ)
  /-- To prepare for a length, which is not seen. -/
  | reserve (count : ℕ)
  | length
  | position

/-- What a command answers. -/
inductive Reply (α : Type) where
  | done
  | items (l : List α)
  | number (n : ℕ)
  | failed

/-- The reply to a command that moves the cursor or writes, and the array behind it. -/
def outcome (c : ArrayCursor α) : Option (ArrayCursor α) → Reply α × ArrayCursor α
  | none => (.failed, c)
  | some c' => (.done, c')

/-- The reply to a command, and the array behind it. -/
def perform (c : ArrayCursor α) : Command α → Reply α × ArrayCursor α
  | .write data => c.outcome (c.write data)
  | .read count =>
    match c.read count with
    | none => (.failed, c)
    | some (l, c') => (.items l, c')
  | .seek pos => c.outcome (c.seek pos)
  | .move offset => c.outcome (c.move offset)
  | .reserve _ => (.done, c)
  | .length => (.number c.items.length, c)
  | .position => (.number c.pos, c)

/-- The replies to a sequence of commands, and the array behind it. -/
def run (c : ArrayCursor α) : List (Command α) → List (Reply α) × ArrayCursor α
  | [] => ([], c)
  | command :: commands =>
    let (reply, c) := c.perform command
    let (replies, c) := run c commands
    (reply :: replies, c)

end ArrayCursor
