import Mathlib.Data.List.FinRange
import Mathlib.Data.Nat.ModEq
import Mathlib.Tactic.SplitIfs

/-!
# `FastHash`

The hash table of `src/common/fasthash.h`: a fixed number of items, chained by the hash of their
key, with a list of their indices for enumeration. `FSIZE` and `TSIZE` are the template's
parameters. An `ItemNode` is its index, since `Reset` gives every node the index of its place and
nothing changes it, and a chain of nodes is the list of their indices. The indices are `int` in the
source, in the nodes and in `_indexlist`; those that are stored are always below `FSIZE`, and are of
type `Fin FSIZE` here.

A new item goes to the front of its chain, so that `Find` meets the latest item of a key first. The
table stores the items of a list (`Stores`), and `lookup` finds the last one with a key
(`Stores.lookup_eq`). While nothing is removed the index list has the items in the order of their
insertion (`Indexed.lookupByIndex_eq`).
-/

namespace Stun

/-- `FastHash_Hash`. -/
class FastHashKey (K : Type) where
  /-- The hash of a key. -/
  fastHash_Hash : K → ℕ

/-- `FastHash_Hash` of an integer is the integer. -/
instance : FastHashKey UInt16 := ⟨UInt16.toNat⟩

/-- `FastHash_Hash` of a `signed int`. -/
instance : FastHashKey ℤ := ⟨fun x => (x % 2 ^ 64).toNat⟩

/-- `FastHashBase` with the arrays of `FastHash<K, V, FSIZE, TSIZE>`. -/
structure FastHash (K V : Type) (FSIZE TSIZE : ℕ) where
  /-- `_nodes`; an item that was never written is `none`. -/
  nodes : Vector (Option (K × V)) FSIZE
  /-- `_freelist`. -/
  freelist : List (Fin FSIZE)
  /-- `_lookuptable`. -/
  lookuptable : Vector (List (Fin FSIZE)) TSIZE
  /-- `_indexlist`. -/
  indexlist : Vector (Fin FSIZE) FSIZE
  /-- `_fIndexValid`. -/
  fIndexValid : Bool
  /-- `_indexStart`. -/
  indexStart : ℕ
  /-- `_size`. -/
  size : ℕ

namespace FastHash

variable {K V : Type} {FSIZE TSIZE : ℕ}

/-- The column of a key. -/
def hashindex [FastHashKey K] (TSIZE : ℕ) [NeZero TSIZE] (key : K) : Fin TSIZE :=
  Fin.ofNat TSIZE (FastHashKey.fastHash_Hash key)

/-- The place of an index in the circular index list. -/
def circular (FSIZE : ℕ) [NeZero FSIZE] (pos : ℕ) : Fin FSIZE := Fin.ofNat FSIZE pos

/-- `Reset`. -/
def reset (h : FastHash K V FSIZE TSIZE) : FastHash K V FSIZE TSIZE :=
  { h with
    lookuptable := Vector.replicate TSIZE []
    freelist := List.finRange FSIZE
    size := 0
    fIndexValid := true
    indexStart := 0 }

/-- The constructor. -/
def new [NeZero FSIZE] : FastHash K V FSIZE TSIZE :=
  reset ⟨Vector.replicate FSIZE none, [], Vector.replicate TSIZE [], Vector.replicate FSIZE 0,
    true, 0, 0⟩

/-- `Size`. -/
def getSize (h : FastHash K V FSIZE TSIZE) : ℕ := h.size

section Operations

variable [FastHashKey K] [DecidableEq K] [NeZero FSIZE] [NeZero TSIZE]

/-- `Find`: the first node of the key's chain whose item has the key. -/
def find (key : K) (h : FastHash K V FSIZE TSIZE) : Option (Fin FSIZE) :=
  h.lookuptable[hashindex TSIZE key].find? fun i => (h.nodes[i]).any (·.1 = key)

/-- `UpdateIndexWithAdd`, before the size is incremented. -/
def updateIndexWithAdd (pNode : Fin FSIZE) (h : FastHash K V FSIZE TSIZE) :
    FastHash K V FSIZE TSIZE :=
  if h.fIndexValid ∧ h.size < FSIZE then
    { h with indexlist := h.indexlist.set (circular FSIZE (h.size + h.indexStart)) pNode }
  else h

/-- `Insert`: 1 with the item at the front of its chain, or -1 when no node is free. -/
def insert (key : K) (value : V) (h : FastHash K V FSIZE TSIZE) :
    ℤ × FastHash K V FSIZE TSIZE :=
  match h.freelist with
  | [] => (-1, h)
  | pInsert :: rest =>
    let column := hashindex TSIZE key
    let h := { h with
      freelist := rest
      nodes := h.nodes.set pInsert (some (key, value))
      lookuptable := h.lookuptable.set column (pInsert :: h.lookuptable[column]) }
    let h := h.updateIndexWithAdd pInsert
    (1, { h with size := h.size + 1 })

/-- `UpdateIndexWithRemove`, before the size is decremented: the index list starts after an item
that was its first, ends before one that was its last, and is not valid any more without an item of
its middle. -/
def updateIndexWithRemove (pNode : Fin FSIZE) (h : FastHash K V FSIZE TSIZE) :
    FastHash K V FSIZE TSIZE :=
  if h.size = 0 ∨ (h.size > 1 ∧ h.fIndexValid = false) then h
  else if h.size = 1 then { h with fIndexValid := true, indexStart := 0 }
  else if pNode = h.indexlist[circular FSIZE h.indexStart] then
    { h with indexStart := (h.indexStart + 1) % FSIZE }
  else if pNode = h.indexlist[circular FSIZE (h.indexStart + (h.size - 1))] then h
  else { h with fIndexValid := false }

/-- `Remove`: 1 with the latest item of the key unlinked from its chain and its node free, or -1
when there is none. -/
def remove (key : K) (h : FastHash K V FSIZE TSIZE) : ℤ × FastHash K V FSIZE TSIZE :=
  match h.find key with
  | none => (-1, h)
  | some pNode =>
    let column := hashindex TSIZE key
    let h := { h with
      lookuptable := h.lookuptable.set column (h.lookuptable[column].erase pNode) }
    let h := h.updateIndexWithRemove pNode
    (1, { h with freelist := pNode :: h.freelist, size := h.size - 1 })

/-- `Exists`. -/
def existsKey (key : K) (h : FastHash K V FSIZE TSIZE) : Bool := (h.find key).isSome

/-- `Lookup`. -/
def lookup (key : K) (h : FastHash K V FSIZE TSIZE) : Option V :=
  (h.find key).bind fun i => (h.nodes[i]).map Prod.snd

/-- A write through the pointer that `Lookup` returns, which is not possible when it is `NULL`. -/
def writeLookup (key : K) (value : V) (h : FastHash K V FSIZE TSIZE) :
    Option (FastHash K V FSIZE TSIZE) :=
  (h.find key).map fun i : Fin FSIZE =>
    { h with nodes := h.nodes.set i ((h.nodes[i]).map fun x => (x.1, value)) }

/-- `ReIndex`: the index list in the order of the columns and their chains. -/
def reIndex (h : FastHash K V FSIZE TSIZE) : FastHash K V FSIZE TSIZE :=
  if h.size = 0 then h
  else
    { h with
      indexlist := Vector.ofFn fun j : Fin FSIZE =>
        (h.lookuptable.toList.flatten[j.val]?).getD h.indexlist[j]
      fIndexValid := true
      indexStart := 0 }

/-- `LookupByIndex`, which may have to make the index list first. -/
def lookupByIndex (index : ℕ) (h : FastHash K V FSIZE TSIZE) :
    Option (K × V) × FastHash K V FSIZE TSIZE :=
  if h.size ≤ index then (none, h)
  else
    let h := if h.fIndexValid then h else h.reIndex
    if h.fIndexValid then
      (h.nodes[h.indexlist[circular FSIZE (h.indexStart + index)]], h)
    else (none, h)

/-- `LookupValueByIndex`. -/
def lookupValueByIndex (index : ℕ) (h : FastHash K V FSIZE TSIZE) :
    Option V × FastHash K V FSIZE TSIZE :=
  let r := h.lookupByIndex index
  (r.1.map Prod.snd, r.2)

end Operations

/-! ## What the table stores -/

/-- The table stores `items`, the oldest first, in the nodes `order`. -/
structure Stores [FastHashKey K] [NeZero TSIZE] (h : FastHash K V FSIZE TSIZE)
    (order : List (Fin FSIZE)) (items : List (K × V)) : Prop where
  /-- Every node is either in use or free, once. -/
  perm : (order ++ h.freelist).Perm (List.finRange FSIZE)
  /-- The nodes in use have the items. -/
  nodes_eq : order.map (fun i => h.nodes[i]) = items.map some
  /-- A chain has the nodes of its column, the latest first. -/
  chain_eq : ∀ c : Fin TSIZE, h.lookuptable[c] =
    order.reverse.filter fun i => (h.nodes[i]).any (hashindex TSIZE ·.1 = c)
  /-- The size is the number of items. -/
  size_eq : h.size = items.length

/-- The index list is valid, and has the nodes `order`. -/
structure Indexed [NeZero FSIZE] (h : FastHash K V FSIZE TSIZE) (order : List (Fin FSIZE)) :
    Prop where
  /-- The index list is valid. -/
  valid : h.fIndexValid = true
  /-- The size is the number of nodes. -/
  size_eq : h.size = order.length
  /-- The list has the nodes from its start on. -/
  get_eq : ∀ j (hj : j < order.length), h.indexlist[circular FSIZE (h.indexStart + j)] = order[j]

/-- The index list of a table that was reset is empty. -/
theorem indexed_reset [NeZero FSIZE] (h : FastHash K V FSIZE TSIZE) : Indexed h.reset [] :=
  ⟨rfl, rfl, by simp⟩

/-- Writing a node leaves the others alone. -/
theorem getElem_set_of_notMem {n : ℕ} {α : Type} (v : Vector α n) {i j : Fin n} {x : α}
    {l : List (Fin n)} (hi : i ∉ l) (hj : j ∈ l) : (v.set i x)[j] = v[j] := by
  have hne : i.val ≠ j.val := fun h => hi (Fin.ext h ▸ hj)
  simp [hne]

/-- Two places of a circular list that are less than its length apart are different. -/
theorem circular_ne [NeZero FSIZE] (start : ℕ) {i j : ℕ} (hij : j < i) (hi : i < FSIZE) :
    (circular FSIZE (i + start)).val ≠ (circular FSIZE (start + j)).val := by
  intro heq
  have hmod : Nat.ModEq FSIZE (i + start) (j + start) := by
    rw [Nat.add_comm j]
    exact heq
  have := (hmod.add_right_cancel' start).eq_of_lt_of_lt hi (by omega)
  omega

/-- `UpdateIndexWithAdd` changes the index list only. -/
theorem updateIndexWithAdd_eq [NeZero FSIZE] (i : Fin FSIZE) (h : FastHash K V FSIZE TSIZE) :
    ∃ l, h.updateIndexWithAdd i = { h with indexlist := l } ∧
      (h.fIndexValid = true → h.size < FSIZE →
        l = h.indexlist.set (circular FSIZE (h.size + h.indexStart)) i) := by
  unfold updateIndexWithAdd
  split_ifs with hc
  · exact ⟨_, rfl, fun _ _ => rfl⟩
  · exact ⟨h.indexlist, rfl, fun hv hlt => absurd ⟨hv, hlt⟩ hc⟩

/-- Finding a node by its item's key finds the item. -/
theorem find?_node [DecidableEq K] {ι : Type} (f : ι → Option (K × V)) (key : K) :
    ∀ (order : List ι) (items : List (K × V)), order.map f = items.map some →
      (order.find? fun i => (f i).any (·.1 = key)).bind (fun i => (f i).map Prod.snd) =
        (items.find? (·.1 = key)).map Prod.snd := by
  intro order
  induction order with
  | nil =>
    intro items hn
    simp only [List.map_nil, List.nil_eq, List.map_eq_nil_iff] at hn
    simp [hn]
  | cons i order ih =>
    intro items hn
    cases items with
    | nil => simp at hn
    | cons x items =>
      simp only [List.map_cons, List.cons.injEq] at hn
      obtain ⟨hi, hrest⟩ := hn
      by_cases hk : x.1 = key
      · simp [hi, hk]
      · simp [hi, hk, ih items hrest]

section Stores

variable [FastHashKey K] [NeZero TSIZE] {h : FastHash K V FSIZE TSIZE} {order : List (Fin FSIZE)}
  {items : List (K × V)}

/-- A table that was reset stores nothing. -/
theorem stores_reset (h : FastHash K V FSIZE TSIZE) : Stores h.reset [] [] := by
  refine ⟨?_, rfl, ?_, rfl⟩
  · simp [reset]
  · intro c
    simp [reset]

/-- Every item has its node. -/
theorem Stores.length_eq (hs : Stores h order items) : order.length = items.length := by
  simpa using congrArg List.length hs.nodes_eq

/-- The items and the free nodes make up the capacity. -/
theorem Stores.length_add_freelist (hs : Stores h order items) :
    items.length + h.freelist.length = FSIZE := by
  simpa [hs.length_eq] using hs.perm.length_eq

/-- A table never stores more items than its capacity. -/
theorem Stores.length_le (hs : Stores h order items) : items.length ≤ FSIZE := by
  have := hs.length_add_freelist
  omega

/-- A free node is not in use. -/
theorem Stores.notMem_of_free (hs : Stores h order items) {i : Fin FSIZE} {rest : List (Fin FSIZE)}
    (hfree : h.freelist = i :: rest) : i ∉ order := by
  have hnodup := hs.perm.nodup_iff.mpr (List.nodup_finRange FSIZE)
  rw [hfree] at hnodup
  exact fun hmem => List.disjoint_of_nodup_append hnodup hmem (by simp)

/-- `Find` finds the last node whose item has the key. -/
theorem Stores.find_eq [DecidableEq K] (hs : Stores h order items) (key : K) :
    h.find key = order.reverse.find? fun i => (h.nodes[i]).any (·.1 = key) := by
  -- A node with the key is in the key's column, so the filter of the chain does not matter.
  have hpred : ∀ i : Fin FSIZE, (h.nodes[i]).any (·.1 = key) →
      (h.nodes[i]).any (hashindex TSIZE ·.1 = hashindex TSIZE key) := by
    intro i
    cases h.nodes[i] with
    | none => simp
    | some x =>
      simp only [Option.any_some, decide_eq_true_eq]
      exact congrArg (hashindex TSIZE)
  rw [find, hs.chain_eq, List.find?_filter]
  simp only [and_iff_right_of_imp (hpred _), Bool.decide_eq_true]

/-- `Lookup` returns the last item of the key. -/
theorem Stores.lookup_eq [DecidableEq K] (hs : Stores h order items) (key : K) :
    h.lookup key = (items.reverse.find? (·.1 = key)).map Prod.snd := by
  have hnodes : order.reverse.map (fun i => h.nodes[i]) = items.reverse.map some := by
    rw [List.map_reverse, List.map_reverse, hs.nodes_eq]
  rw [lookup, hs.find_eq]
  exact find?_node (fun i => h.nodes[i]) key _ _ hnodes

variable [NeZero FSIZE]

/-- `Insert` fails when the table is full. -/
theorem Stores.insert_full (hs : Stores h order items) (hfull : items.length = FSIZE) (key : K)
    (value : V) : h.insert key value = (-1, h) := by
  have hlen := hs.length_add_freelist
  have hfree : h.freelist = [] := List.eq_nil_of_length_eq_zero (by omega)
  simp only [insert, hfree]

/-- `Insert` into a table that is not full adds the item after the others. -/
theorem Stores.insert_ok (hs : Stores h order items) (hroom : items.length < FSIZE) (key : K)
    (value : V) : ∃ h' i, h.insert key value = (1, h') ∧
      Stores h' (order ++ [i]) (items ++ [(key, value)]) ∧
      (∀ idx, idx.length = order.length → Indexed h idx → Indexed h' (idx ++ [i])) := by
  obtain ⟨i, rest, hfree⟩ : ∃ i rest, h.freelist = i :: rest := by
    cases hf : h.freelist with
    | nil =>
      have := hs.length_add_freelist
      simp only [hf, List.length_nil] at this
      omega
    | cons i rest => exact ⟨i, rest, rfl⟩
  -- The node was not in use, so writing it changes no other one.
  have hi := hs.notMem_of_free hfree
  obtain ⟨l, hl, hl'⟩ := updateIndexWithAdd_eq i { h with
    freelist := rest
    nodes := h.nodes.set i (some (key, value))
    lookuptable := h.lookuptable.set (hashindex TSIZE key)
      (i :: h.lookuptable[hashindex TSIZE key]) }
  refine ⟨_, i, by simp only [insert, hfree, hl]; rfl, ⟨?_, ?_, ?_, ?_⟩, ?_⟩
  · have hp := hs.perm
    rw [hfree] at hp
    simpa using hp
  · have hmap : order.map (fun j => (h.nodes.set i (some (key, value)))[j]) =
        order.map fun j => h.nodes[j] :=
      List.map_congr_left fun j hj => getElem_set_of_notMem h.nodes hi hj
    rw [List.map_append, List.map_append, hmap, hs.nodes_eq]
    simp
  · intro c
    have hrest : order.reverse.filter (fun j => ((h.nodes.set i (some (key, value)))[j]).any
          (hashindex TSIZE ·.1 = c)) =
        order.reverse.filter fun j => (h.nodes[j]).any (hashindex TSIZE ·.1 = c) := by
      apply List.filter_congr
      intro j hj
      rw [getElem_set_of_notMem h.nodes hi (List.mem_reverse.mp hj)]
    rw [List.reverse_append, List.reverse_singleton, List.singleton_append, List.filter_cons, hrest,
      ← hs.chain_eq c]
    -- The new node is at the front of its own chain.
    by_cases hc : hashindex TSIZE key = c
    · subst hc
      simp
    · have hne : (hashindex TSIZE key).val ≠ c.val := fun h => hc (Fin.ext h)
      simp [hne, hc]
  · simp [hs.size_eq]
  · intro idx hidx hx
    have hlen := hs.length_eq
    have hset := hl' hx.valid (by rw [hx.size_eq, hidx, hlen]; exact hroom)
    refine ⟨hx.valid, by simp [hx.size_eq], ?_⟩
    intro j hj
    simp only [hset, hx.size_eq]
    rw [List.length_append, List.length_singleton] at hj
    -- The index is circular, and the place that is written is none of those in use.
    rcases Nat.lt_or_ge j idx.length with hlt | hge
    · have hne := circular_ne h.indexStart hlt (by omega : idx.length < FSIZE)
      rw [List.getElem_append_left hlt, ← hx.get_eq j hlt]
      simp only [Fin.getElem_fin, Vector.getElem_set, if_neg hne]
    · obtain rfl : j = idx.length := by omega
      simp [Nat.add_comm]

end Stores

/-- `LookupByIndex` returns the item at an index of a valid index list, and nothing from its end on,
and the table does not change. -/
theorem Indexed.lookupByIndex_eq [NeZero FSIZE]
    {h : FastHash K V FSIZE TSIZE} {idx : List (Fin FSIZE)} {items : List (K × V)}
    (hx : Indexed h idx) (hnodes : idx.map (fun i => h.nodes[i]) = items.map some) (index : ℕ) :
    h.lookupByIndex index = (items[index]?, h) := by
  have hlen : idx.length = items.length := by simpa using congrArg List.length hnodes
  rcases Nat.lt_or_ge index items.length with hlt | hge
  · have hnot : ¬h.size ≤ index := by rw [hx.size_eq]; omega
    have hnode := congrArg (·[index]?) hnodes
    simp only [List.getElem?_map, List.getElem?_eq_getElem hlt,
      List.getElem?_eq_getElem (hlen ▸ hlt : index < idx.length), Option.map_some,
      Option.some.injEq] at hnode
    simp only [lookupByIndex, if_neg hnot, hx.valid, if_true, hx.get_eq index (hlen ▸ hlt), hnode,
      List.getElem?_eq_getElem hlt]
  · rw [lookupByIndex, if_pos (by rw [hx.size_eq]; omega), List.getElem?_eq_none hge]

end FastHash

end Stun
