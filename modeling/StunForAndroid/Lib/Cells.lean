import Mathlib.Data.List.Basic
import Mathlib.Logic.Function.Basic

/-!
# Memory that is partly written

The memory of a function is a family of arrays. What is in them is a type parameter: octets in a
run, and `Cell`s when the question is where each octet comes from, an octet that the function has
written or what has been at some place before. A function that copies octets and looks at none of
them does the same in both; such a function is an `Encoder`.

What an encoder sends is the same whatever has been in memory before if and only if each of the
cells that it sends is written (`Encoder.independent_iff`). `Memory.Written` is kept and enlarged by
the operations.
-/

namespace Cells

/-- Memory: what is at each offset of each array, within the array and behind its end. -/
abbrev Memory (ι α : Type*) := ι → ℕ → α

namespace Memory

variable {ι α β : Type*}

/-- `n` octets of an array from an offset on. -/
def load (m : Memory ι α) (x : ι) (offset n : ℕ) : List α :=
  (List.range n).map fun i => m x (offset + i)

/-- The memory with other contents. -/
def map (f : α → β) (m : Memory ι α) : Memory ι β := fun x i => f (m x i)

/-- Reading gives as many octets as asked for. -/
@[simp]
theorem length_load (m : Memory ι α) (x : ι) (offset n : ℕ) : (m.load x offset n).length = n := by
  simp [load]

/-- Reading two parts that meet is reading them together. -/
theorem load_add (m : Memory ι α) (x : ι) (offset a b : ℕ) :
    m.load x offset (a + b) = m.load x offset a ++ m.load x (offset + a) b := by
  simp [load, List.range_add, Function.comp_def, Nat.add_assoc]

/-- Reading commutes with a map of the contents. -/
theorem map_load (f : α → β) (m : Memory ι α) (x : ι) (offset n : ℕ) :
    (m.load x offset n).map f = (m.map f).load x offset n := by
  rw [load, List.map_map]
  rfl

section Store

variable [DecidableEq ι]

/-- The memory with a block copied to an offset of an array. -/
def store (m : Memory ι α) (x : ι) (offset : ℕ) (block : List α) : Memory ι α :=
  Function.update m x fun i =>
    if offset ≤ i then block[i - offset]?.getD (m x i) else m x i

/-- The memory with `n` octets copied from an array to another. -/
def copy (m : Memory ι α) (dst : ι) (dstOffset : ℕ) (src : ι) (srcOffset n : ℕ) : Memory ι α :=
  m.store dst dstOffset (m.load src srcOffset n)

/-- Writing to an array leaves the other arrays as they are. -/
theorem store_of_ne (m : Memory ι α) {x y : ι} (h : y ≠ x) (offset : ℕ) (block : List α) :
    m.store x offset block y = m y :=
  Function.update_of_ne h _ _

/-- What is outside of the block is left. -/
theorem store_of_outside (m : Memory ι α) (x : ι) {offset i : ℕ} {block : List α}
    (h : i < offset ∨ offset + block.length ≤ i) : m.store x offset block x i = m x i := by
  rw [store, Function.update_self]
  split_ifs with hle
  · rw [List.getElem?_eq_none (by omega), Option.getD_none]
  · rfl

/-- Writing a block puts its items in their places. -/
theorem store_of_within (m : Memory ι α) (x : ι) {offset i : ℕ} {block : List α}
    (h : i < block.length) : m.store x offset block x (offset + i) = block[i] := by
  rw [store, Function.update_self, if_pos (Nat.le_add_right _ _), Nat.add_sub_cancel_left,
    List.getElem?_eq_getElem h, Option.getD_some]

/-- Copying puts the items of the source in their places. -/
theorem copy_of_within (m : Memory ι α) (dst : ι) (dstOffset : ℕ) (src : ι)
    (srcOffset : ℕ) {i n : ℕ}
    (h : i < n) : m.copy dst dstOffset src srcOffset n dst (dstOffset + i) =
      m src (srcOffset + i) := by
  rw [copy, store_of_within m dst (by rwa [length_load])]
  simp only [load, List.getElem_map, List.getElem_range]

/-- A block is read back from where it was written. -/
theorem load_store_self (m : Memory ι α) (x : ι) (offset : ℕ) {n : ℕ} {block : List α}
    (h : block.length = n) : (m.store x offset block).load x offset n = block := by
  subst h
  apply List.ext_getElem
  · exact length_load _ _ _ _
  · intro i _ hi
    simp only [load, List.getElem_map, List.getElem_range, store_of_within m x hi]

/-- A write is not seen by reading outside of the block written. -/
theorem load_store_of_outside (m : Memory ι α) (x : ι) {offset o n : ℕ} {block : List α}
    (h : o + n ≤ offset ∨ offset + block.length ≤ o) :
    (m.store x offset block).load x o n = m.load x o n := by
  apply List.map_congr_left
  intro i hi
  rw [List.mem_range] at hi
  exact store_of_outside m x (by omega)

/-- A write to an array is not seen by reading another. -/
theorem load_store_of_ne (m : Memory ι α) {x y : ι} (h : y ≠ x) (offset : ℕ)
    (block : List α) (o n : ℕ) :
    (m.store x offset block).load y o n = m.load y o n := by
  unfold load
  rw [store_of_ne m h]

/-- Writing commutes with a map of the contents. -/
theorem map_store (f : α → β) (m : Memory ι α) (x : ι) (offset : ℕ) (block : List α) :
    (m.store x offset block).map f = (m.map f).store x offset (block.map f) := by
  funext y i
  by_cases hy : y = x
  · subst hy
    simp only [map, store, Function.update_self, List.getElem?_map]
    split_ifs with hle
    · cases block[i - offset]? with
      | none => rfl
      | some a => rfl
    · rfl
  · rw [map, store_of_ne m hy, store_of_ne _ hy]
    rfl

/-- Copying from array to array commutes with a map of the contents. -/
theorem map_copy (f : α → β) (m : Memory ι α) (dst : ι) (dstOffset : ℕ) (src : ι)
    (srcOffset n : ℕ) :
    (m.copy dst dstOffset src srcOffset n).map f =
    (m.map f).copy dst dstOffset src srcOffset n := by
  rw [copy, map_store, map_load, copy]

end Store

end Memory

/-! ## Cells -/

/-- Where an octet comes from: it has been written, or has been at a place of the memory before. -/
inductive Cell (ι : Type*)
  | octet (b : UInt8)
  | initial (x : ι) (i : ℕ)

namespace Cell

variable {ι : Type*}

/-- The octet, if the memory has had some contents before. -/
def eval (m : Memory ι UInt8) : Cell ι → UInt8
  | octet b => b
  | initial x i => m x i

/-- A cell has been written. -/
def Written : Cell ι → Prop
  | octet _ => True
  | initial _ _ => False

/-- What has been written does not depend on what has been there before. -/
theorem Written.eval_eq {c : Cell ι} (h : c.Written) (m m' : Memory ι UInt8) :
    c.eval m = c.eval m' := by
  cases c with
  | octet b => rfl
  | initial x i => exact h.elim

/-- A cell whose value does not depend on what was in memory has been written. -/
theorem written_of_eval_eq {c : Cell ι} (h : ∀ m m' : Memory ι UInt8, c.eval m = c.eval m') :
    c.Written := by
  cases c with
  | octet b => trivial
  | initial x i =>
    have hone : (0 : UInt8) = 1 := h (fun _ _ => 0) (fun _ _ => 1)
    exact absurd hone (by decide)

end Cell

/-- The memory of a function that has not done anything. -/
def untouched (ι : Type*) : Memory ι (Cell ι) := Cell.initial

/-- The untouched memory, evaluated, is the memory before. -/
theorem map_eval_untouched {ι : Type*} (m : Memory ι UInt8) :
    (untouched ι).map (Cell.eval m) = m := rfl

/-! ## Encoders -/

/-- A function that copies octets, some of them its own, and sends what it has put together. -/
structure Encoder (ι : Type) where
  run : ∀ {α : Type}, (UInt8 → α) → Memory ι α → List α
  /-- It looks at no octet. -/
  natural : ∀ {α β : Type} (f : α → β) (octet : UInt8 → α) (m : Memory ι α),
    (run octet m).map f = run (f ∘ octet) (m.map f)

namespace Encoder

variable {ι : Type}

/-- What is sent when the memory has had some contents before. -/
def sent (e : Encoder ι) (m : Memory ι UInt8) : List UInt8 := e.run id m

/-- Where the octets that are sent come from. -/
def cells (e : Encoder ι) : List (Cell ι) := e.run Cell.octet (untouched ι)

/-- The octets are those of the cells. -/
theorem sent_eq (e : Encoder ι) (m : Memory ι UInt8) : e.sent m = e.cells.map (Cell.eval m) := by
  have hnatural := e.natural (Cell.eval m) Cell.octet (untouched ι)
  rw [map_eval_untouched] at hnatural
  exact hnatural.symm

/-- The octets do not depend on what has been in memory before if and only if all of them have been
written. -/
theorem independent_iff (e : Encoder ι) :
    (∀ m m' : Memory ι UInt8, e.sent m = e.sent m') ↔ ∀ c ∈ e.cells, c.Written := by
  constructor
  · intro h c hc
    apply Cell.written_of_eval_eq
    intro m m'
    have hmap : e.cells.map (Cell.eval m) = e.cells.map (Cell.eval m') := by
      rw [← sent_eq, ← sent_eq, h m m']
    exact List.map_inj_left.mp hmap c hc
  · intro h m m'
    rw [sent_eq, sent_eq]
    exact List.map_congr_left fun c hc => (h c hc).eval_eq m m'

end Encoder

/-! ## What is written -/

namespace Memory

variable {ι : Type*}

/-- A part of an array is written. -/
def Written (m : Memory ι (Cell ι)) (x : ι) (lo hi : ℕ) : Prop :=
  ∀ i, lo ≤ i → i < hi → (m x i).Written

/-- The cells read from a part that is written are written. -/
theorem Written.load {m : Memory ι (Cell ι)} {x : ι} {offset n : ℕ}
    (h : m.Written x offset (offset + n)) :
    ∀ c ∈ m.load x offset n, c.Written := by
  intro c hc
  obtain ⟨i, hi, rfl⟩ := List.mem_map.mp hc
  rw [List.mem_range] at hi
  exact h _ (by omega) (by omega)

/-- A part of what is written is written. -/
theorem Written.mono {m : Memory ι (Cell ι)} {x : ι} {lo hi lo' hi' : ℕ} (h : m.Written x lo hi)
    (hlo : lo ≤ lo') (hhi : hi' ≤ hi) : m.Written x lo' hi' :=
  fun i hle hlt => h i (Nat.le_trans hlo hle) (Nat.lt_of_lt_of_le hlt hhi)

/-- Two parts that meet and are written are one that is written. -/
theorem Written.append {m : Memory ι (Cell ι)} {x : ι} {lo mid hi : ℕ} (h : m.Written x lo mid)
    (h' : m.Written x mid hi) : m.Written x lo hi := by
  intro i hlo hhi
  rcases Nat.lt_or_ge i mid with hi | hi
  · exact h i hlo hi
  · exact h' i hi hhi

section Store

variable [DecidableEq ι]

/-- A block that is written fills its part. -/
theorem written_store (m : Memory ι (Cell ι)) (x : ι) (offset : ℕ) {block : List (Cell ι)}
    (h : ∀ c ∈ block, c.Written) :
    (m.store x offset block).Written x offset (offset + block.length) := by
  intro i hlo hhi
  obtain ⟨k, rfl⟩ := Nat.exists_eq_add_of_le hlo
  rw [store_of_within m x (by omega)]
  exact h _ (List.getElem_mem _)

/-- A block that is written leaves what is written. -/
theorem Written.store {m : Memory ι (Cell ι)} {y : ι} {lo hi : ℕ} (h : m.Written y lo hi) (x : ι)
    (offset : ℕ) {block : List (Cell ι)} (hblock : ∀ c ∈ block, c.Written) :
    (m.store x offset block).Written y lo hi := by
  intro i hlo hhi
  by_cases hy : y = x
  · subst hy
    by_cases hin : offset ≤ i ∧ i < offset + block.length
    · exact written_store m y offset hblock i hin.1 hin.2
    · rw [store_of_outside m y (by omega)]
      exact h i hlo hhi
  · rw [store_of_ne m hy]
    exact h i hlo hhi

/-- A copy of what is written is written. -/
theorem Written.copy {m : Memory ι (Cell ι)} {src : ι} {srcOffset n : ℕ}
    (h : m.Written src srcOffset (srcOffset + n)) (dst : ι) (dstOffset : ℕ) :
    (m.copy dst dstOffset src srcOffset n).Written dst dstOffset (dstOffset + n) := by
  have hwritten := written_store m dst dstOffset h.load
  rwa [length_load] at hwritten

end Store

end Memory

end Cells
