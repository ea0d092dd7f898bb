import Mathlib.Data.List.Nodup
import Mathlib.Data.List.Perm.Basic
import StunForAndroid.Common.FastHash
import StunForAndroid.Lib.StackMap

/-!
# `FastHash` is a map from keys to stacks

The table of `src/common/fasthash.h` under any sequence of its operations. `Tracks` is the
invariant: the table stores the items of a list (`Stores`), and its index list, when it is valid,
has the nodes in use in some order. A removal at the front or at the end of the index list shortens
it, one in the middle drops it, and `ReIndex` makes a new one from the chains.

`run_refines` compares the table with a `StackMap`: every operation answers as the stacks say, and
the lookups by index enumerate the stored items.
-/

namespace Stun

namespace FastHash

variable {K V : Type} {FSIZE TSIZE : ℕ}

/-! ## The invariant -/

/-- The table stores `items` in the nodes `order`, and a valid index list has these nodes. -/
structure Tracks [FastHashKey K] [NeZero FSIZE] [NeZero TSIZE] (h : FastHash K V FSIZE TSIZE)
    (order : List (Fin FSIZE)) (items : List (K × V)) : Prop where
  /-- The table stores the items. -/
  stores : Stores h order items
  /-- The index list. -/
  indexed : h.fIndexValid = true → ∃ idx : List (Fin FSIZE), idx.Perm order ∧ Indexed h idx

section Index

variable [NeZero FSIZE] {h : FastHash K V FSIZE TSIZE}

/-- `UpdateIndexWithRemove` changes the index list only. -/
theorem updateIndexWithRemove_eq (i : Fin FSIZE) (h : FastHash K V FSIZE TSIZE) :
    ∃ fIndexValid indexStart, h.updateIndexWithRemove i =
      { h with fIndexValid := fIndexValid, indexStart := indexStart } := by
  unfold updateIndexWithRemove
  split_ifs <;> exact ⟨_, _, rfl⟩

/-- A place of the circular list does not depend on full turns. -/
theorem circular_mod_add (a b : ℕ) : circular FSIZE (a % FSIZE + b) = circular FSIZE (a + b) := by
  apply Fin.ext
  show (a % FSIZE + b) % FSIZE = (a + b) % FSIZE
  rw [Nat.mod_add_mod]

/-- The index list after a removal, when it is valid, has the remaining nodes. -/
theorem indexed_updateIndexWithRemove {idx : List (Fin FSIZE)} {i : Fin FSIZE}
    (hx : h.fIndexValid = true → Indexed h idx) (hsize : h.size = idx.length) (hi : i ∈ idx)
    (hvalid : (h.updateIndexWithRemove i).fIndexValid = true) : ∃ idx', idx'.Perm (idx.erase i) ∧
      Indexed { h.updateIndexWithRemove i with size := h.size - 1 } idx' := by
  have hpos : 0 < h.size := hsize ▸ List.length_pos_of_mem hi
  unfold updateIndexWithRemove at hvalid ⊢
  split_ifs at hvalid ⊢ with hskip hone hfirst hlast
  · -- The index list was not valid, and still is not.
    rcases hskip with h0 | ⟨-, hinvalid⟩
    · omega
    · rw [hinvalid] at hvalid
      cases hvalid
  · -- The list is empty.
    obtain ⟨x, rfl⟩ := List.length_eq_one_iff.mp (hsize.symm.trans hone)
    obtain rfl := List.mem_singleton.mp hi
    refine ⟨[], by simp, rfl, by simp [hone], by simp⟩
  · -- The list starts one place later.
    have hv : h.fIndexValid = true := by
      by_contra hne
      exact hskip (.inr ⟨by omega, by simpa using hne⟩)
    have hidx := hx hv
    obtain ⟨x, rest, rfl⟩ := List.exists_cons_of_length_pos (hsize ▸ hpos)
    have hx0 := hidx.get_eq 0 (by simp)
    obtain rfl : i = x := hfirst.trans hx0
    refine ⟨rest, by rw [List.erase_cons_head], hv, ?_, fun j hj => ?_⟩
    · simp only [hsize, List.length_cons, Nat.add_sub_cancel]
    · have hget := hidx.get_eq (j + 1) (by simpa using hj)
      rw [List.getElem_cons_succ] at hget
      have hplace : circular FSIZE ((h.indexStart + 1) % FSIZE + j) =
          circular FSIZE (h.indexStart + (j + 1)) := by
        rw [circular_mod_add, Nat.add_assoc, Nat.add_comm 1 j]
      simp only [hplace]
      exact hget
  · -- The list ends one place earlier.
    have hv : h.fIndexValid = true := by
      by_contra hne
      exact hskip (.inr ⟨by omega, by simpa using hne⟩)
    have hidx := hx hv
    obtain ⟨rest, x, rfl⟩ : ∃ rest x, idx = rest ++ [x] := by
      rcases List.eq_nil_or_concat' idx with rfl | hconcat
      · cases hi
      · exact hconcat
    have hlen : h.size - 1 = rest.length := by
      rw [hsize, List.length_append, List.length_singleton, Nat.add_sub_cancel]
    have hxl := hidx.get_eq rest.length (by simp)
    rw [List.getElem_concat_length rfl] at hxl
    simp only [hlen] at hlast
    obtain rfl : i = x := hlast.trans hxl
    refine ⟨rest, ?_, hv, hlen, fun j hj => ?_⟩
    · have hperm := (List.perm_append_singleton i rest).erase i
      rw [List.erase_cons_head] at hperm
      exact hperm.symm
    · have hget := hidx.get_eq j (by simp; omega)
      rwa [List.getElem_append_left hj] at hget

end Index

section Insert

variable [FastHashKey K] [NeZero FSIZE] [NeZero TSIZE]

/-- `Insert` keeps the validity of the index list. -/
theorem insert_fIndexValid (key : K) (value : V) (h : FastHash K V FSIZE TSIZE) :
    (h.insert key value).2.fIndexValid = h.fIndexValid := by
  unfold insert
  split
  · rfl
  · next pInsert rest _ =>
    obtain ⟨l, hl, -⟩ := updateIndexWithAdd_eq pInsert { h with
      freelist := rest
      nodes := h.nodes.set pInsert (some (key, value))
      lookuptable := h.lookuptable.set (hashindex TSIZE key)
        (pInsert :: h.lookuptable[hashindex TSIZE key]) }
    simp only [hl]

/-- A table that was reset tracks nothing. -/
theorem tracks_reset (h : FastHash K V FSIZE TSIZE) : Tracks h.reset [] [] :=
  ⟨stores_reset h, fun _ => ⟨[], .refl _, indexed_reset h⟩⟩

end Insert

section Remove

variable [FastHashKey K] [NeZero TSIZE] {h : FastHash K V FSIZE TSIZE}
  {order : List (Fin FSIZE)} {items : List (K × V)}

/-- The nodes in use are different. -/
theorem Stores.nodup (hs : Stores h order items) : order.Nodup := by
  have hnodup := hs.perm.nodup_iff.mpr (List.nodup_finRange FSIZE)
  exact (List.nodup_append.mp hnodup).1

/-- A node in use has an item. -/
theorem Stores.exists_item (hs : Stores h order items) {i : Fin FSIZE} (hi : i ∈ order) :
    ∃ x, getElem h.nodes i i.isLt = some x := by
  have hmem : h.nodes[i] ∈ items.map some := hs.nodes_eq ▸ List.mem_map_of_mem hi
  obtain ⟨x, -, heq⟩ := List.mem_map.mp hmem
  exact ⟨x, heq.symm⟩

/-- The chains without a node are those of the nodes in use without it. -/
theorem Stores.chain_erase (hs : Stores h order items) {i : Fin FSIZE} {x : K × V}
    (hnode : getElem h.nodes i i.isLt = some x) {column : Fin TSIZE}
    (hcolumn : hashindex TSIZE x.1 = column) (c : Fin TSIZE) :
    getElem (h.lookuptable.set column ((getElem h.lookuptable column column.isLt).erase i)
        column.isLt) c c.isLt =
      (order.erase i).reverse.filter fun j =>
        (getElem h.nodes j j.isLt).any (hashindex TSIZE ·.1 = c) := by
  have hnodup := hs.nodup
  rw [hnodup.erase_eq_filter, ← List.filter_reverse, List.filter_filter]
  by_cases hc : column = c
  · subst hc
    have hchain := hs.chain_eq column
    have hchainNodup : (h.lookuptable[column]).Nodup := by
      rw [hchain]
      exact (List.nodup_reverse.mpr hnodup).filter _
    have hset : (h.lookuptable.set column (h.lookuptable[column].erase i))[column] =
        h.lookuptable[column].erase i := by simp
    rw [hset, hchainNodup.erase_eq_filter, hchain, List.filter_filter]
    simp only [Bool.and_comm]
  · -- The node is not in this chain.
    have hne : column.val ≠ c.val := fun h => hc (Fin.ext h)
    have hset : (h.lookuptable.set column (h.lookuptable[column].erase i))[c] =
        h.lookuptable[c] := by simp [hne]
    rw [hset, hs.chain_eq c]
    apply List.filter_congr
    intro j _
    by_cases hj : j = i
    · subst hj
      simp [hnode, hcolumn, hc]
    · simp [hj]

variable [DecidableEq K]

/-- `Find` finds nothing when the stack of the key is empty. -/
theorem Stores.find_none (hs : Stores h order items) {key : K}
    (hnil : StackMap.stackOf items key = []) : h.find key = none := by
  rw [hs.find_eq, List.find?_eq_none]
  intro i hi
  have hmem : h.nodes[i] ∈ items.map some :=
    hs.nodes_eq ▸ List.mem_map_of_mem (List.mem_reverse.mp hi)
  obtain ⟨x, hx, heq⟩ := List.mem_map.mp hmem
  rw [← heq]
  simpa using StackMap.stackOf_eq_nil_iff.mp hnil x hx

/-- `Find` finds the node of the latest item of a key whose stack is not empty. -/
theorem Stores.find_some (hs : Stores h order items) {key : K}
    (hne : StackMap.stackOf items key ≠ []) :
    ∃ i x, h.find key = some i ∧ i ∈ order ∧ getElem h.nodes i i.isLt = some x ∧ x.1 = key ∧
      (order.erase i).map (fun j => getElem h.nodes j j.isLt) =
        (StackMap.popItem key items).map some := by
  obtain ⟨y, hy, hykey⟩ : ∃ y ∈ items, y.1 = key := by
    by_contra hnone
    exact hne (StackMap.stackOf_eq_nil_iff.mpr fun y hy hkey => hnone ⟨y, hy, hkey⟩)
  have hfound : h.find key ≠ none := by
    rw [hs.find_eq, ne_eq, List.find?_eq_none]
    intro hall
    have hmem : some y ∈ order.map (fun i => h.nodes[i]) := hs.nodes_eq ▸ List.mem_map_of_mem hy
    obtain ⟨i, hi, hnode⟩ := List.mem_map.mp hmem
    exact hall i (List.mem_reverse.mpr hi) (by simp [hnode, hykey])
  obtain ⟨i, hi⟩ := Option.ne_none_iff_exists'.mp hfound
  -- The nodes after it have items of other keys.
  have hsplit := hi
  rw [hs.find_eq, List.find?_eq_some_iff_append] at hsplit
  obtain ⟨hkey, after, before, horder, hafter⟩ := hsplit
  rw [List.reverse_eq_iff, List.reverse_append, List.reverse_cons, List.append_assoc,
    List.singleton_append] at horder
  have hmem : i ∈ order := by
    rw [horder]
    simp
  obtain ⟨x, hx⟩ := hs.exists_item hmem
  have hxkey : x.1 = key := by simpa [hx] using hkey
  have hnodup := hs.nodup
  have herase : order.erase i = before.reverse ++ after.reverse := by
    have hnot : i ∉ before.reverse := by
      rw [horder] at hnodup
      exact fun hmem => List.disjoint_of_nodup_append hnodup hmem (by simp)
    rw [horder, List.erase_append_right _ hnot, List.erase_cons_head]
  have hnodes := hs.nodes_eq
  rw [horder, List.map_append, List.map_cons] at hnodes
  obtain ⟨itemsBefore, rest, rfl, hbefore, hrest⟩ := List.map_eq_append_iff.mp hnodes.symm
  obtain ⟨x', itemsAfter, rfl, hx', hitemsAfter⟩ := List.map_eq_cons_iff.mp hrest
  obtain rfl : x = x' := Option.some.inj (hx.symm.trans hx'.symm)
  have hothers : ∀ z ∈ itemsAfter, z.1 ≠ key := by
    intro z hz hzkey
    have hzmem : some z ∈ after.reverse.map (fun i => h.nodes[i]) :=
      hitemsAfter ▸ List.mem_map_of_mem hz
    obtain ⟨j, hj, hnode⟩ := List.mem_map.mp hzmem
    have := hafter j (List.mem_reverse.mp hj)
    simp [hnode, hzkey] at this
  refine ⟨i, x, hi, hmem, hx, hxkey, ?_⟩
  rw [herase, StackMap.popItem_append hxkey hothers, List.map_append, List.map_append, hbefore,
    hitemsAfter]

/-- `Exists` looks whether the stack of a key is empty. -/
theorem Stores.existsKey_eq (hs : Stores h order items) (key : K) :
    h.existsKey key = !(StackMap.stackOf items key).isEmpty := by
  unfold existsKey
  by_cases hnil : StackMap.stackOf items key = []
  · rw [hs.find_none hnil, hnil]
    rfl
  · obtain ⟨i, x, hfind, -⟩ := hs.find_some hnil
    rw [hfind]
    cases hstack : StackMap.stackOf items key with
    | nil => exact absurd hstack hnil
    | cons value values => rfl

variable [NeZero FSIZE]

/-- `Remove` fails when the stack of the key is empty. -/
theorem Stores.remove_none (hs : Stores h order items) {key : K}
    (hnil : StackMap.stackOf items key = []) : h.remove key = (-1, h) := by
  unfold remove
  rw [hs.find_none hnil]

/-- `Remove` erases the latest item of a key whose stack is not empty. -/
theorem Tracks.remove_ok (ht : Tracks h order items) {key : K}
    (hne : StackMap.stackOf items key ≠ []) :
    ∃ h' i, h.remove key = (1, h') ∧ Tracks h' (order.erase i) (StackMap.popItem key items) := by
  obtain ⟨hs, hx⟩ := ht
  obtain ⟨i, x, hfind, hi, hnode, rfl, hnodes⟩ := hs.find_some hne
  have hsize : h.size = order.length := by rw [hs.size_eq, hs.length_eq]
  set unlinked : FastHash K V FSIZE TSIZE := { h with
    lookuptable :=
      h.lookuptable.set (hashindex TSIZE x.1) (h.lookuptable[hashindex TSIZE x.1].erase i) }
    with hunlinked
  obtain ⟨fIndexValid, indexStart, hupdate⟩ := updateIndexWithRemove_eq i unlinked
  refine ⟨{ unlinked.updateIndexWithRemove i with
    freelist := i :: h.freelist, size := h.size - 1 }, i, ?_, ⟨?_, ?_, ?_, ?_⟩, ?_⟩
  · unfold remove
    rw [hfind]
    simp only [← hunlinked, hupdate]
    rfl
  · -- The node goes from those in use to the free ones.
    calc (order.erase i ++ i :: h.freelist).Perm (i :: (order.erase i ++ h.freelist)) :=
          List.perm_middle
      _ = (i :: order.erase i) ++ h.freelist := rfl
      List.Perm _ (order ++ h.freelist) := (List.perm_cons_erase hi).symm.append_right _
      List.Perm _ (List.finRange FSIZE) := hs.perm
  · rw [hupdate]
    exact hnodes
  · intro c
    simp only [hupdate]
    exact hs.chain_erase hnode rfl c
  · have hlen := congrArg List.length hnodes
    rw [List.length_map, List.length_map, List.length_erase_of_mem hi] at hlen
    show h.size - 1 = _
    rw [hsize, hlen]
  · intro hvalid
    obtain ⟨idx, hperm, hidx⟩ : ∃ idx : List (Fin FSIZE), idx.Perm order ∧
        (unlinked.fIndexValid = true → Indexed unlinked idx) := by
      by_cases hv : h.fIndexValid = true
      · obtain ⟨idx, hperm, hidx⟩ := hx hv
        exact ⟨idx, hperm, fun _ => ⟨hidx.valid, hidx.size_eq, hidx.get_eq⟩⟩
      · exact ⟨order, .refl _, fun h => absurd h hv⟩
    obtain ⟨idx', hperm', hidx'⟩ := indexed_updateIndexWithRemove hidx
      (hsize.trans hperm.length_eq.symm) (hperm.mem_iff.mpr hi) hvalid
    exact ⟨idx', hperm'.trans (hperm.erase i), hidx'.valid, hidx'.size_eq, hidx'.get_eq⟩

end Remove

/-! ## Enumeration -/

section Enumeration

/-- A function that is defined on a list gives its values there. -/
theorem map_eq_map_some {ι α : Type} (f : ι → Option α) (l : List ι)
    (h : ∀ i ∈ l, ∃ x, f i = some x) : l.map f = (l.filterMap f).map some := by
  induction l with
  | nil => rfl
  | cons i l ih =>
    obtain ⟨x, hx⟩ := h i (by simp)
    rw [List.map_cons, List.filterMap_cons_some hx, List.map_cons, hx,
      ih fun j hj => h j (by simp [hj])]

variable [FastHashKey K] [NeZero TSIZE] {h : FastHash K V FSIZE TSIZE} {order : List (Fin FSIZE)}
  {items : List (K × V)}

/-- `ReIndex` changes the index list only. -/
theorem Stores.reIndex (hs : Stores h order items) : Stores h.reIndex order items := by
  unfold FastHash.reIndex
  split_ifs
  · exact hs
  · exact ⟨hs.perm, hs.nodes_eq, hs.chain_eq, hs.size_eq⟩

/-- Every node in use is in one chain, once. -/
theorem Stores.flatten_perm (hs : Stores h order items) :
    h.lookuptable.toList.flatten.Perm order := by
  have hchain : ∀ c (hc : c < h.lookuptable.toList.length), h.lookuptable.toList[c] =
      order.reverse.filter fun i =>
        (h.nodes[i]).any (hashindex TSIZE ·.1 = (⟨c, by simpa using hc⟩ : Fin TSIZE)) := by
    intro c hc
    exact hs.chain_eq ⟨c, by simpa using hc⟩
  refine (List.perm_ext_iff_of_nodup (List.nodup_flatten.mpr ⟨?_, ?_⟩) hs.nodup).mpr fun i => ?_
  · intro chain hmem
    obtain ⟨c, hc, rfl⟩ := List.getElem_of_mem hmem
    rw [hchain c hc]
    exact (List.nodup_reverse.mpr hs.nodup).filter _
  · -- Two chains have nodes of different columns.
    refine List.pairwise_iff_getElem.mpr fun c d hc hd hcd i hi hi' => ?_
    rw [hchain c hc] at hi
    rw [hchain d hd] at hi'
    have hcolumn := (List.mem_filter.mp hi).2
    have hcolumn' := (List.mem_filter.mp hi').2
    obtain ⟨x, hx⟩ := hs.exists_item (List.mem_reverse.mp (List.mem_filter.mp hi).1)
    rw [hx] at hcolumn hcolumn'
    simp only [Option.any_some, decide_eq_true_eq] at hcolumn hcolumn'
    have := congrArg Fin.val (hcolumn.symm.trans hcolumn')
    exact absurd this (Nat.ne_of_lt hcd)
  · constructor
    · intro hmem
      obtain ⟨chain, hchainMem, hi⟩ := List.mem_flatten.mp hmem
      obtain ⟨c, hc, rfl⟩ := List.getElem_of_mem hchainMem
      rw [hchain c hc] at hi
      exact List.mem_reverse.mp (List.mem_filter.mp hi).1
    · intro hi
      obtain ⟨x, hx⟩ := hs.exists_item hi
      refine List.mem_flatten.mpr ⟨h.lookuptable[hashindex TSIZE x.1], ?_, ?_⟩
      · exact Vector.mem_toList_iff.mpr (Vector.getElem_mem _)
      · rw [hs.chain_eq]
        exact List.mem_filter.mpr ⟨List.mem_reverse.mpr hi, by simp [hx]⟩

/-- The items of the nodes in use, in the order of another list of these nodes. -/
theorem Stores.exists_items (hs : Stores h order items) {idx : List (Fin FSIZE)}
    (hperm : idx.Perm order) : ∃ l : List (K × V), l.Perm items ∧
      idx.map (fun i => getElem h.nodes i i.isLt) = l.map some := by
  have hall : (order.filterMap fun i => h.nodes[i]) = items := by
    have hmap : order.filterMap (fun i => h.nodes[i]) =
        (order.map fun i => h.nodes[i]).filterMap id := by
      rw [List.filterMap_map]
      rfl
    rw [hmap, hs.nodes_eq, List.filterMap_map]
    exact List.filterMap_some
  refine ⟨idx.filterMap fun i => h.nodes[i], ?_, ?_⟩
  · exact (hperm.filterMap _).trans (.of_eq hall)
  · exact map_eq_map_some _ idx fun i hi => hs.exists_item (hperm.mem_iff.mp hi)

variable [NeZero FSIZE]

/-- `ReIndex` makes a valid index list. -/
theorem Stores.indexed_reIndex (hs : Stores h order items) (h0 : h.size ≠ 0) :
    ∃ idx : List (Fin FSIZE), idx.Perm order ∧ Indexed h.reIndex idx := by
  have hperm := hs.flatten_perm
  have hle : h.lookuptable.toList.flatten.length ≤ FSIZE := by
    rw [hperm.length_eq, hs.length_eq]
    exact hs.length_le
  have hreIndex : h.reIndex = { h with
      indexlist := Vector.ofFn fun j : Fin FSIZE =>
        (h.lookuptable.toList.flatten[j.val]?).getD h.indexlist[j]
      fIndexValid := true
      indexStart := 0 } := if_neg h0
  rw [hreIndex]
  refine ⟨h.lookuptable.toList.flatten, hperm, rfl, ?_, fun j hj => ?_⟩
  · rw [hs.size_eq, hperm.length_eq, hs.length_eq]
  · have hplace : (circular FSIZE (0 + j)).val = j := by
      rw [Nat.zero_add]
      exact Nat.mod_eq_of_lt (by omega)
    simp only [Fin.getElem_fin, Vector.getElem_ofFn, hplace, List.getElem?_eq_getElem hj,
      Option.getD_some]

end Enumeration

section Lookups

variable [NeZero FSIZE]

/-- A lookup by index may make the index list. -/
theorem lookupByIndex_of_invalid [FastHashKey K] [NeZero TSIZE] {h : FastHash K V FSIZE TSIZE}
    (hsize : h.size ≠ 0) (hinvalid : h.fIndexValid = false) (index : ℕ) :
    h.lookupByIndex index = (none, h) ∧ h.size ≤ index ∨
      h.lookupByIndex index = h.reIndex.lookupByIndex index := by
  have hreIndex : h.reIndex.size = h.size ∧ h.reIndex.fIndexValid = true := by
    unfold reIndex
    rw [if_neg hsize]
    exact ⟨rfl, rfl⟩
  rcases Nat.lt_or_ge index h.size with hlt | hge
  · refine .inr ?_
    simp only [lookupByIndex, hreIndex.1, hreIndex.2, hinvalid, if_neg (Nat.not_le.mpr hlt),
      Bool.false_eq_true, if_false, if_true]
  · exact .inl ⟨if_pos hge, hge⟩

/-- The results of a sequence of lookups by index. -/
def lookups : List ℕ → FastHash K V FSIZE TSIZE → List (Option (K × V))
  | [], _ => []
  | index :: indices, h =>
    let result := h.lookupByIndex index
    result.1 :: lookups indices result.2

/-- Lookups that answer from a list and stay in the state or go to one where they do. -/
theorem lookups_eq {h h' : FastHash K V FSIZE TSIZE} {l : List (K × V)}
    (hstable : ∀ index, h'.lookupByIndex index = (l[index]?, h'))
    (hfirst : ∀ index, h.lookupByIndex index = (l[index]?, h) ∨
      h.lookupByIndex index = (l[index]?, h')) (indices : List ℕ) :
    h.lookups indices = indices.map (l[·]?) := by
  have hrest : ∀ indices, h'.lookups indices = indices.map (l[·]?) := by
    intro indices
    induction indices with
    | nil => rfl
    | cons index indices ih => rw [lookups, hstable, ih, List.map_cons]
  induction indices with
  | nil => rfl
  | cons index indices ih =>
    rcases hfirst index with hstay | hgo
    · rw [lookups, hstay, ih, List.map_cons]
    · rw [lookups, hgo, hrest, List.map_cons]

variable [FastHashKey K] [NeZero TSIZE] {h : FastHash K V FSIZE TSIZE} {order : List (Fin FSIZE)}
  {items : List (K × V)}

/-- `Insert` into a table that is not full appends the item. -/
theorem Tracks.insert_ok (ht : Tracks h order items) (hroom : items.length < FSIZE) (key : K)
    (value : V) : ∃ h' i, h.insert key value = (1, h') ∧
      Tracks h' (order ++ [i]) (items ++ [(key, value)]) ∧
      (Indexed h order → Indexed h' (order ++ [i])) := by
  obtain ⟨h', i, hinsert, hs', hx'⟩ := ht.stores.insert_ok hroom key value
  refine ⟨h', i, hinsert, ⟨hs', fun hvalid => ?_⟩, hx' order rfl⟩
  have hv : h.fIndexValid = true := by
    have hsame := insert_fIndexValid key value h
    rw [hinsert] at hsame
    exact hsame.symm.trans hvalid
  obtain ⟨idx, hperm, hidx⟩ := ht.indexed hv
  exact ⟨idx ++ [i], hperm.append_right [i], hx' idx hperm.length_eq hidx⟩

/-- The lookups by index enumerate the stored items, in the order of their insertion while the index
list has it, and keep the invariant. -/
theorem Tracks.enumerates (ht : Tracks h order items) :
    (∃ l : List (K × V), l.Perm items ∧ (∀ indices, h.lookups indices = indices.map (l[·]?)) ∧
      (Indexed h order → l = items)) ∧
      ∀ index, Tracks (h.lookupByIndex index).2 order items ∧
        (Indexed h order → (h.lookupByIndex index).2 = h) := by
  obtain ⟨hs, hx⟩ := ht
  by_cases hv : h.fIndexValid = true
  · -- The index list is there.
    obtain ⟨idx, hperm, hidx⟩ := hx hv
    obtain ⟨l, hl, hnodes⟩ := hs.exists_items hperm
    have hlookup := hidx.lookupByIndex_eq hnodes
    refine ⟨⟨l, hl, lookups_eq hlookup fun index => .inl (hlookup index), fun horder => ?_⟩,
      fun index => ?_⟩
    · -- Two index lists of one table are the same.
      apply List.ext_getElem? fun index => ?_
      have heq := (hlookup index).symm.trans (horder.lookupByIndex_eq hs.nodes_eq index)
      exact congrArg Prod.fst heq
    · rw [hlookup]
      exact ⟨⟨hs, hx⟩, fun _ => rfl⟩
  · have hinvalid : h.fIndexValid = false := by simpa using hv
    have hno : ¬Indexed h order := fun horder => hv horder.valid
    by_cases h0 : h.size = 0
    · -- There is nothing to look up.
      obtain rfl : items = [] := List.eq_nil_of_length_eq_zero (hs.size_eq.symm.trans h0)
      have hlookup : ∀ index, h.lookupByIndex index = (([] : List (K × V))[index]?, h) :=
        fun index => if_pos (h0 ▸ Nat.zero_le index)
      refine ⟨⟨[], .refl _, lookups_eq hlookup fun index => .inl (hlookup index),
        fun horder => absurd horder hno⟩, fun index => ?_⟩
      rw [hlookup]
      exact ⟨⟨hs, hx⟩, fun _ => rfl⟩
    · -- The first lookup below the size makes the index list.
      obtain ⟨idx, hperm, hidx⟩ := hs.indexed_reIndex h0
      obtain ⟨l, hl, hnodes⟩ := hs.reIndex.exists_items hperm
      have hlookup := hidx.lookupByIndex_eq hnodes
      have hfirst : ∀ index, h.lookupByIndex index = (l[index]?, h) ∨
          h.lookupByIndex index = (l[index]?, h.reIndex) := by
        intro index
        rcases lookupByIndex_of_invalid h0 hinvalid index with ⟨hnone, hge⟩ | hsame
        · have hlen : l.length ≤ index := by
            rw [hl.length_eq, ← hs.size_eq]
            exact hge
          exact .inl (by rw [hnone, List.getElem?_eq_none hlen])
        · exact .inr (hsame.trans (hlookup index))
      refine ⟨⟨l, hl, lookups_eq hlookup hfirst, fun horder => absurd horder hno⟩,
        fun index => ⟨?_, fun horder => absurd horder hno⟩⟩
      rcases hfirst index with hstay | hgo
      · rw [hstay]
        exact ⟨hs, hx⟩
      · rw [hgo]
        exact ⟨hs.reIndex, fun _ => ⟨idx, hperm, hidx⟩⟩

end Lookups

/-! ## Sequences of operations -/

/-- An operation with its arguments. -/
inductive Op (K V : Type) where
  /-- `Insert`. -/
  | insert (key : K) (value : V)
  /-- `Remove`. -/
  | remove (key : K)
  /-- `Lookup`. -/
  | lookup (key : K)
  /-- `Exists`. -/
  | existsKey (key : K)
  /-- `LookupByIndex`. -/
  | lookupByIndex (index : ℕ)
  /-- `Reset`. -/
  | reset

/-- The result of an operation. -/
inductive Answer (K V : Type) where
  /-- The `int` of `Insert` and `Remove`. -/
  | code (hr : ℤ)
  /-- What the pointer of `Lookup` points to. -/
  | value (pValue : Option V)
  /-- The `bool` of `Exists`. -/
  | found (b : Bool)
  /-- What the pointer of `LookupByIndex` points to. -/
  | item (pItem : Option (K × V))
  /-- `Reset` has no result. -/
  | none

namespace Op

/-- The operation on the table. -/
def step [FastHashKey K] [DecidableEq K] [NeZero FSIZE] [NeZero TSIZE]
    (h : FastHash K V FSIZE TSIZE) :
    Op K V → Answer K V × FastHash K V FSIZE TSIZE
  | insert key value => let r := h.insert key value; (.code r.1, r.2)
  | remove key => let r := h.remove key; (.code r.1, r.2)
  | lookup key => (.value (h.lookup key), h)
  | existsKey key => (.found (h.existsKey key), h)
  | lookupByIndex index => let r := h.lookupByIndex index; (.item r.1, r.2)
  | reset => (.none, h.reset)

/-- The operation on the stacks, of which at most `fsize` values are stored. -/
def onStacks [DecidableEq K] (fsize : ℕ) (m : StackMap K V) : Op K V → StackMap K V
  | insert key value => if m.size = fsize then m else m.push key value
  | remove key => if (m.stack key).isEmpty then m else m.pop key
  | reset => StackMap.empty
  | _ => m

/-- What the operation answers, of the stacks. A lookup by index finds an item below the size. -/
def Answers (fsize : ℕ) (m : StackMap K V) : Op K V → Answer K V → Prop
  | insert _ _, a => a = .code (if m.size = fsize then -1 else 1)
  | remove key, a => a = .code (if (m.stack key).isEmpty then -1 else 1)
  | lookup key, a => a = .value (m.stack key).head?
  | existsKey key, a => a = .found !(m.stack key).isEmpty
  | lookupByIndex index, a => ∃ pItem, a = .item pItem ∧ (pItem = .none ↔ m.size ≤ index)
  | reset, a => a = .none

/-- The operation on the list of the stored items, the oldest first. -/
def onItems [DecidableEq K] (fsize : ℕ) (items : List (K × V)) : Op K V → List (K × V)
  | insert key value => if items.length = fsize then items else items ++ [(key, value)]
  | remove key =>
    if (StackMap.stackOf items key).isEmpty then items else StackMap.popItem key items
  | reset => []
  | _ => items

end Op

/-- The table after a sequence of operations. -/
def run [FastHashKey K] [DecidableEq K] [NeZero FSIZE] [NeZero TSIZE] (ops : List (Op K V))
    (h : FastHash K V FSIZE TSIZE) : FastHash K V FSIZE TSIZE :=
  ops.foldl (fun h op => (op.step h).2) h

section Refinement

variable [FastHashKey K] [DecidableEq K] [NeZero FSIZE] [NeZero TSIZE]
  {h : FastHash K V FSIZE TSIZE} {order : List (Fin FSIZE)} {items : List (K × V)}

/-- What an operation does: it answers as the stacks say, a failure changes nothing, and the table
stores what the list of items becomes, in the order of the index list unless it is a removal. -/
structure Simulates (h : FastHash K V FSIZE TSIZE) (order : List (Fin FSIZE)) (items : List (K × V))
    (op : Op K V) : Prop where
  answers : op.Answers FSIZE (StackMap.ofItems items) (op.step h).1
  unchanged : (op.step h).1 = .code (-1) → (op.step h).2 = h
  tracks : ∃ order', Tracks (op.step h).2 order' (op.onItems FSIZE items) ∧
    ((∀ key, op ≠ .remove key) → Indexed h order → Indexed (op.step h).2 order')

/-- `Insert` pushes a value, or fails when the table is full. -/
theorem Tracks.simulates_insert (ht : Tracks h order items) (key : K) (value : V) :
    Simulates h order items (.insert key value) := by
  by_cases hfull : items.length = FSIZE
  · -- A full table takes nothing.
    have hinsert := ht.stores.insert_full hfull key value
    have hstep : (Op.insert key value).step h = (.code (-1), h) := by
      simp only [Op.step, hinsert]
    have hitems : (Op.insert key value).onItems FSIZE items = items := if_pos hfull
    refine ⟨?_, fun _ => by rw [hstep], order, ?_, fun _ horder => ?_⟩
    · rw [hstep]
      exact congrArg Answer.code (if_pos hfull).symm
    · rw [hstep, hitems]
      exact ht
    · rw [hstep]
      exact horder
  · -- The new item is the last one in the order.
    have hroom : items.length < FSIZE := Nat.lt_of_le_of_ne ht.stores.length_le hfull
    obtain ⟨h', i, hinsert, ht', hx'⟩ := ht.insert_ok hroom key value
    have hstep : (Op.insert key value).step h = (.code 1, h') := by
      simp only [Op.step, hinsert]
    have hitems : (Op.insert key value).onItems FSIZE items = items ++ [(key, value)] :=
      if_neg hfull
    refine ⟨?_, fun hcode => ?_, order ++ [i], ?_, fun _ horder => ?_⟩
    · rw [hstep]
      exact congrArg Answer.code (if_neg hfull).symm
    · rw [hstep] at hcode
      cases hcode
    · rw [hstep, hitems]
      exact ht'
    · rw [hstep]
      exact hx' horder

/-- `Remove` pops a value, or fails when the stack of the key is empty. -/
theorem Tracks.simulates_remove (ht : Tracks h order items) (key : K) :
    Simulates h order items (.remove key) := by
  by_cases hnil : StackMap.stackOf items key = []
  · have hempty : (StackMap.stackOf items key).isEmpty = true := by rw [hnil]; rfl
    have hremove := ht.stores.remove_none hnil
    have hstep : (Op.remove key).step h = (.code (-1), h) := by
      simp only [Op.step, hremove]
    have hitems : (Op.remove key).onItems FSIZE items = items := if_pos hempty
    refine ⟨?_, fun _ => by rw [hstep], order, ?_, fun hne => absurd rfl (hne key)⟩
    · rw [hstep]
      exact congrArg Answer.code (if_pos hempty).symm
    · rw [hstep, hitems]
      exact ht
  · have hempty : ¬(StackMap.stackOf items key).isEmpty = true := by
      rwa [List.isEmpty_iff]
    obtain ⟨h', i, hremove, ht'⟩ := ht.remove_ok hnil
    have hstep : (Op.remove key).step h = (.code 1, h') := by
      simp only [Op.step, hremove]
    have hitems : (Op.remove key).onItems FSIZE items = StackMap.popItem key items := if_neg hempty
    refine ⟨?_, fun hcode => ?_, order.erase i, ?_, fun hne => absurd rfl (hne key)⟩
    · rw [hstep]
      exact congrArg Answer.code (if_neg hempty).symm
    · rw [hstep] at hcode
      cases hcode
    · rw [hstep, hitems]
      exact ht'

/-- `LookupByIndex` finds an item below the size. -/
theorem Tracks.simulates_lookupByIndex (ht : Tracks h order items) (index : ℕ) :
    Simulates h order items (.lookupByIndex index) := by
  obtain ⟨⟨l, hl, hlookups, -⟩, hstep⟩ := ht.enumerates
  obtain ⟨ht', hsame⟩ := hstep index
  have hitem : (h.lookupByIndex index).1 = l[index]? :=
    (List.cons.inj (hlookups [index])).1
  refine ⟨⟨_, rfl, ?_⟩, fun hcode => ?_, order, ht', fun _ horder => ?_⟩
  · rw [hitem, List.getElem?_eq_none_iff, hl.length_eq]
    rfl
  · cases hcode
  · show Indexed (h.lookupByIndex index).2 order
    rwa [hsame horder]

/-- Every operation does what it does to the stacks. -/
theorem Tracks.simulates (ht : Tracks h order items) (op : Op K V) :
    Simulates h order items op := by
  have hs := ht.stores
  cases op with
  | insert key value => exact ht.simulates_insert key value
  | remove key => exact ht.simulates_remove key
  | lookup key =>
    refine ⟨congrArg Answer.value ?_, fun hcode => ?_, order, ht, fun _ horder => horder⟩
    · rw [hs.lookup_eq, ← StackMap.head?_stackOf]
      rfl
    · cases hcode
  | existsKey key =>
    refine ⟨congrArg Answer.found (hs.existsKey_eq key), fun hcode => ?_, order, ht,
      fun _ horder => horder⟩
    cases hcode
  | lookupByIndex index => exact ht.simulates_lookupByIndex index
  | reset =>
    refine ⟨rfl, fun hcode => ?_, [], tracks_reset h, fun _ _ => indexed_reset h⟩
    cases hcode

omit [FastHashKey K] [NeZero FSIZE] [NeZero TSIZE] in
/-- An operation on the items is the operation on their stacks. -/
theorem ofItems_onItems (fsize : ℕ) (items : List (K × V)) (op : Op K V) :
    StackMap.ofItems (op.onItems fsize items) = op.onStacks fsize (StackMap.ofItems items) := by
  cases op with
  | insert key value =>
    show StackMap.ofItems (if items.length = fsize then items else items ++ [(key, value)]) =
      if items.length = fsize then StackMap.ofItems items
      else (StackMap.ofItems items).push key value
    split_ifs
    · rfl
    · exact StackMap.ofItems_append items key value
  | remove key =>
    show StackMap.ofItems (if (StackMap.stackOf items key).isEmpty then items
        else StackMap.popItem key items) =
      if (StackMap.stackOf items key).isEmpty then StackMap.ofItems items
      else (StackMap.ofItems items).pop key
    split_ifs with hempty
    · rfl
    · exact StackMap.ofItems_popItem (by rwa [List.isEmpty_iff] at hempty)
  | _ => rfl

/-- The table after a sequence of operations stores what the list of items has become, in the order
of the index list unless there was a removal. -/
theorem Tracks.run (ht : Tracks h order items) (ops : List (Op K V)) :
    ∃ order', Tracks (h.run ops) order' (ops.foldl (Op.onItems FSIZE) items) ∧
      ((∀ op ∈ ops, ∀ key, op ≠ .remove key) → Indexed h order → Indexed (h.run ops) order') := by
  induction ops generalizing h order items with
  | nil => exact ⟨order, ht, fun _ horder => horder⟩
  | cons op ops ih =>
    obtain ⟨order₁, ht₁, hindexed₁⟩ := (ht.simulates op).tracks
    obtain ⟨order₂, ht₂, hindexed₂⟩ := ih ht₁
    refine ⟨order₂, ht₂, fun hremove horder => ?_⟩
    exact hindexed₂ (fun x hx => hremove x (by simp [hx])) (hindexed₁ (hremove op (by simp)) horder)

omit [FastHashKey K] [NeZero FSIZE] [NeZero TSIZE] in
/-- The stacks after a sequence of operations are those of the list of items. -/
theorem ofItems_foldl (fsize : ℕ) (ops : List (Op K V)) (items : List (K × V)) :
    StackMap.ofItems (ops.foldl (Op.onItems fsize) items) =
      ops.foldl (Op.onStacks fsize) (StackMap.ofItems items) := by
  induction ops generalizing items with
  | nil => rfl
  | cons op ops ih =>
    rw [List.foldl_cons, List.foldl_cons, ← ofItems_onItems]
    exact ih _

/-- After any sequence of operations on a new table the next operation answers as the stacks say,
and one that fails changes nothing; the size is the number of stored values; and the lookups by
index, in whatever order, find the items of one list, which has the stored values of every key, and
which is in the order of insertion if nothing was removed. -/
theorem run_refines (ops : List (Op K V)) :
    let h : FastHash K V FSIZE TSIZE := run ops new
    let m := ops.foldl (Op.onStacks FSIZE) StackMap.empty
    h.getSize = m.size ∧
      (∀ op : Op K V, op.Answers FSIZE m (op.step h).1 ∧
        ((op.step h).1 = .code (-1) → (op.step h).2 = h)) ∧
      ∃ l : List (K × V), l.length = m.size ∧
        (∀ key, ((l.filter (·.1 = key)).map Prod.snd).Perm (m.stack key)) ∧
        (∀ indices, h.lookups indices = indices.map (l[·]?)) ∧
        ((∀ op ∈ ops, ∀ key, op ≠ .remove key) → l = ops.foldl (Op.onItems FSIZE) []) := by
  intro h m
  have hnew : Tracks (new : FastHash K V FSIZE TSIZE) [] [] := tracks_reset _
  obtain ⟨order, ht, hindexed⟩ := hnew.run ops
  set items := ops.foldl (Op.onItems FSIZE) [] with hitems
  have hm : m = StackMap.ofItems items := (ofItems_foldl FSIZE ops []).symm
  rw [hm]
  obtain ⟨⟨l, hl, hlookups, horder⟩, -⟩ := ht.enumerates
  refine ⟨ht.stores.size_eq, fun op => ⟨(ht.simulates op).answers, (ht.simulates op).unchanged⟩, l,
    hl.length_eq, fun key => ?_, hlookups, fun hremove => ?_⟩
  · exact ((hl.filter _).map _).trans (StackMap.stackOf_perm items key)
  · exact horder (hindexed hremove (indexed_reset _))

/-- `run_refines` for two values of a key in a table of three, one of which is removed. -/
theorem run_refines_three :
    (run [.insert 1 10, .insert 2 20, .insert 1 11, .remove 1] new :
      FastHash UInt16 ℕ 3 2).getSize = 2 :=
  (@run_refines UInt16 ℕ 3 2 _ _ _ _
    [.insert 1 10, .insert 2 20, .insert 1 11, .remove 1]).1.trans rfl

end Refinement

end FastHash

end Stun
