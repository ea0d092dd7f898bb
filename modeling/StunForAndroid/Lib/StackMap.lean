import Mathlib.Data.List.Basic

/-!
# Maps from keys to stacks

A `StackMap` holds a stack of values for each key and the number of its values. A list of items, the
oldest first, is a stack map (`ofItems`): the stack of a key has the values of the items with the
key, the latest first. An item is pushed by appending it (`ofItems_append`) and popped by erasing
the last item of the key (`ofItems_pop`).
-/

/-- A stack of values for each key, and the number of values. -/
@[ext]
structure StackMap (K V : Type) where
  /-- The values of a key, the latest first. -/
  stack : K → List V
  /-- The number of values. -/
  size : ℕ

namespace StackMap

variable {K V : Type} [DecidableEq K]

/-- The map without values. -/
def empty : StackMap K V := ⟨fun _ => [], 0⟩

/-- A value pushed on the stack of a key. -/
def push (key : K) (value : V) (m : StackMap K V) : StackMap K V where
  stack k := if k = key then value :: m.stack k else m.stack k
  size := m.size + 1

/-- The latest value of a key popped. -/
def pop (key : K) (m : StackMap K V) : StackMap K V where
  stack k := if k = key then (m.stack k).tail else m.stack k
  size := m.size - 1

/-! ## Lists of items -/

/-- The values of a key in a list of items, the latest first. -/
def stackOf (items : List (K × V)) (key : K) : List V :=
  (items.reverse.filter (·.1 = key)).map Prod.snd

/-- The items without the latest of a key. -/
def popItem (key : K) (items : List (K × V)) : List (K × V) :=
  (items.reverse.eraseP (·.1 = key)).reverse

/-- The stacks of a list of items. -/
def ofItems (items : List (K × V)) : StackMap K V := ⟨stackOf items, items.length⟩

/-- The top of the stack of a key is its latest value. -/
theorem head?_stackOf (items : List (K × V)) (key : K) :
    (stackOf items key).head? = (items.reverse.find? (·.1 = key)).map Prod.snd := by
  rw [stackOf, List.head?_map, List.head?_filter]

/-- A stack has the values of the items with its key. -/
theorem stackOf_perm (items : List (K × V)) (key : K) :
    ((items.filter (·.1 = key)).map Prod.snd).Perm (stackOf items key) :=
  (((List.reverse_perm items).symm.filter _).map _)

/-- No item has a key whose stack is empty. -/
theorem stackOf_eq_nil_iff {items : List (K × V)} {key : K} :
    stackOf items key = [] ↔ ∀ x ∈ items, x.1 ≠ key := by
  simp [stackOf]

/-- An item that is appended is pushed. -/
theorem ofItems_append (items : List (K × V)) (key : K) (value : V) :
    ofItems (items ++ [(key, value)]) = (ofItems items).push key value := by
  ext1
  · funext k
    show stackOf (items ++ [(key, value)]) k =
      if k = key then value :: stackOf items k else stackOf items k
    unfold stackOf
    rw [List.reverse_append, List.reverse_singleton, List.singleton_append]
    split_ifs with hk
    · rw [List.filter_cons_of_pos (by simp [hk]), List.map_cons]
    · rw [List.filter_cons_of_neg (by simpa using fun h => hk h.symm)]
  · exact List.length_append

/-- Erasing the latest item of a key from a list of items, the latest first. -/
theorem filter_eraseP (items : List (K × V)) (key k : K) :
    ((items.eraseP (·.1 = key)).filter (·.1 = k)).map Prod.snd =
      if k = key then ((items.filter (·.1 = k)).map Prod.snd).tail
      else (items.filter (·.1 = k)).map Prod.snd := by
  induction items with
  | nil => simp
  | cons x items ih =>
    by_cases hx : x.1 = key
    · rw [List.eraseP_cons_of_pos (by simpa using hx)]
      split_ifs with hk
      · rw [List.filter_cons_of_pos (by simp [hx, hk]), List.map_cons, List.tail_cons]
      · rw [List.filter_cons_of_neg (by simpa [hx] using fun h => hk h.symm)]
    · rw [List.eraseP_cons_of_neg (by simpa using hx)]
      by_cases hxk : x.1 = k
      · have hk : k ≠ key := fun h => hx (hxk.trans h)
        rw [if_neg hk] at ih ⊢
        rw [List.filter_cons_of_pos (by simpa using hxk),
          List.filter_cons_of_pos (by simpa using hxk), List.map_cons, List.map_cons, ih]
      · rw [List.filter_cons_of_neg (by simpa using hxk),
          List.filter_cons_of_neg (by simpa using hxk), ih]

/-- Erasing the latest item of a key pops its value. -/
theorem ofItems_popItem {items : List (K × V)} {key : K} (h : stackOf items key ≠ []) :
    ofItems (popItem key items) = (ofItems items).pop key := by
  ext1
  · funext k
    show stackOf (popItem key items) k =
      if k = key then (stackOf items k).tail else stackOf items k
    unfold stackOf popItem
    rw [List.reverse_reverse, filter_eraseP]
  · obtain ⟨x, hx, hkey⟩ : ∃ x ∈ items, x.1 = key := by
      by_contra hnone
      exact h (stackOf_eq_nil_iff.mpr fun x hx hkey => hnone ⟨x, hx, hkey⟩)
    show (popItem key items).length = items.length - 1
    unfold popItem
    rw [List.length_reverse, List.length_eraseP_of_mem (List.mem_reverse.mpr hx)
      (by simpa using hkey), List.length_reverse]

/-- Erasing an item from around which there is no later one of its key. -/
theorem popItem_append {before after : List (K × V)} {x : K × V} {key : K} (hx : x.1 = key)
    (hafter : ∀ y ∈ after, y.1 ≠ key) : popItem key (before ++ x :: after) = before ++ after := by
  unfold popItem
  rw [List.reverse_append, List.reverse_cons, List.append_assoc, List.eraseP_append_right,
    List.singleton_append, List.eraseP_cons_of_pos (by simpa using hx), List.reverse_append,
    List.reverse_reverse, List.reverse_reverse]
  intro y hy
  simpa using hafter y (List.mem_reverse.mp hy)

end StackMap
