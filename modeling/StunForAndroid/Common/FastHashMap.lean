import StunForAndroid.Common.FastHashRefinement

/-!
# `FastHash` as a map

Where no key is inserted twice, a table is a map: `Maps` says that it stores a list of items with
different keys, and each operation is what it is on the list. `contents` are the items of the table
as the chains have them, in no particular order.
-/

namespace StackMap

variable {K V : Type} [DecidableEq K]

/-- In a list with different keys popping an item is dropping the key. -/
theorem popItem_of_nodup {items : List (K × V)} (h : (items.map Prod.fst).Nodup) (key : K) :
    popItem key items = items.filter (·.1 ≠ key) := by
  have herase : ∀ l : List (K × V), (l.map Prod.fst).Nodup →
      l.eraseP (·.1 = key) = l.filter (·.1 ≠ key) := by
    intro l hl
    induction l with
    | nil => rfl
    | cons x l ih =>
      rw [List.map_cons, List.nodup_cons] at hl
      by_cases hx : x.1 = key
      · have hall : ∀ y ∈ l, y.1 ≠ key := fun y hy heq =>
          hl.1 (List.mem_map.mpr ⟨y, hy, heq.trans hx.symm⟩)
        rw [List.eraseP_cons_of_pos (by simpa using hx),
          List.filter_cons_of_neg (by simpa using hx),
          List.filter_eq_self.mpr (by simpa using hall)]
      · rw [List.eraseP_cons_of_neg (by simpa using hx),
          List.filter_cons_of_pos (by simpa using hx), ih hl.2]
  have hrev : (items.reverse.map Prod.fst).Nodup := by
    rw [List.map_reverse]
    exact List.nodup_reverse.mpr h
  unfold popItem
  rw [herase _ hrev, List.filter_reverse, List.reverse_reverse]

end StackMap

namespace Stun

namespace FastHash

variable {K V : Type} {FSIZE TSIZE : ℕ}

/-- The items in the chains. -/
def contents (h : FastHash K V FSIZE TSIZE) : List (K × V) :=
  h.lookuptable.toList.flatten.filterMap fun i => getElem h.nodes i i.isLt

variable [FastHashKey K] [NeZero FSIZE] [NeZero TSIZE]

/-- The table stores items with different keys. -/
structure Maps (h : FastHash K V FSIZE TSIZE) (items : List (K × V)) : Prop where
  tracks : ∃ order, Tracks h order items
  nodup : (items.map Prod.fst).Nodup

/-- A table that is reset is empty. -/
theorem maps_reset (h : FastHash K V FSIZE TSIZE) : Maps h.reset [] :=
  ⟨⟨[], tracks_reset h⟩, List.nodup_nil⟩

namespace Maps

variable {h : FastHash K V FSIZE TSIZE} {items : List (K × V)} (hm : Maps h items)
include hm

/-- The size is the number of items. -/
theorem size_eq : h.getSize = items.length := by
  obtain ⟨⟨order, ht⟩, -⟩ := hm
  exact ht.stores.size_eq

/-- The table has room for its items. -/
theorem length_le : items.length ≤ FSIZE := by
  obtain ⟨⟨order, ht⟩, -⟩ := hm
  exact ht.stores.length_le

/-- The chains have the items. -/
theorem contents_perm : h.contents.Perm items := by
  obtain ⟨⟨order, ht⟩, -⟩ := hm
  have hitems : order.filterMap (fun i => h.nodes[i]) = items := by
    have hmap := congrArg (List.filterMap id) ht.stores.nodes_eq
    rw [List.filterMap_map, List.filterMap_map] at hmap
    simpa using hmap
  exact (ht.stores.flatten_perm.filterMap _).trans (List.Perm.of_eq hitems)

/-- `Insert` of a new key into a table with room succeeds and adds the item. -/
theorem insert_ok (hroom : items.length < FSIZE) {key : K} (hkey : key ∉ items.map Prod.fst)
    (value : V) : ∃ h', h.insert key value = (1, h') ∧ Maps h' (items ++ [(key, value)]) := by
  obtain ⟨⟨order, ht⟩, hnodup⟩ := hm
  obtain ⟨h', i, hinsert, ht', -⟩ := ht.insert_ok hroom key value
  refine ⟨h', hinsert, ⟨_, ht'⟩, ?_⟩
  rw [List.map_append]
  exact hnodup.append (List.nodup_singleton _) (by simpa using hkey)

/-- `Insert` into a full table fails and leaves the table as it is. -/
theorem insert_full (hfull : items.length = FSIZE) (key : K) (value : V) :
    h.insert key value = (-1, h) := by
  obtain ⟨⟨order, ht⟩, -⟩ := hm
  exact ht.stores.insert_full hfull key value

/-- `LookupByIndex` of the first place finds an item if there is one. -/
theorem lookupByIndex_zero : Maps (h.lookupByIndex 0).2 items ∧
    ((h.lookupByIndex 0).1 = none ↔ items = []) ∧
    ∀ x, (h.lookupByIndex 0).1 = some x → x ∈ items := by
  obtain ⟨⟨order, ht⟩, hnodup⟩ := hm
  obtain ⟨⟨l, hperm, hlookups, -⟩, hkeeps⟩ := ht.enumerates
  have hfirst : (h.lookupByIndex 0).1 = l[0]? := by
    have := hlookups [0]
    simpa [lookups] using this
  refine ⟨⟨⟨_, (hkeeps 0).1⟩, hnodup⟩, ?_, fun x hx => ?_⟩
  · rw [hfirst, List.getElem?_eq_none_iff, Nat.le_zero, List.length_eq_zero_iff]
    exact ⟨fun hl => (hl ▸ hperm).nil_eq.symm, fun hi => (hi ▸ hperm).eq_nil⟩
  · rw [hfirst] at hx
    exact hperm.mem_iff.mp (List.mem_of_getElem? hx)

section Operations

variable [DecidableEq K]

/-- `Lookup` finds the item of a key. -/
theorem lookup_eq_some_iff {key : K} {value : V} :
    h.lookup key = some value ↔ (key, value) ∈ items := by
  obtain ⟨⟨order, ht⟩, hnodup⟩ := hm
  rw [ht.stores.lookup_eq, Option.map_eq_some_iff]
  constructor
  · rintro ⟨x, hfind, rfl⟩
    have hkey : x.1 = key := by simpa using List.find?_some hfind
    subst hkey
    exact List.mem_reverse.mp (List.mem_of_find?_eq_some hfind)
  · intro hx
    cases hfind : items.reverse.find? (·.1 = key) with
    | none => simpa using List.find?_eq_none.mp hfind _ (List.mem_reverse.mpr hx)
    | some y =>
      have hy := List.mem_reverse.mp (List.mem_of_find?_eq_some hfind)
      have hkey : y.1 = key := by simpa using List.find?_some hfind
      have heq := List.inj_on_of_nodup_map hnodup hy hx hkey
      exact ⟨y, rfl, congrArg Prod.snd heq⟩

/-- `Remove` of a key succeeds and takes its item out. -/
theorem remove_ok {key : K} {value : V} (hx : (key, value) ∈ items) :
    ∃ h', h.remove key = (1, h') ∧ Maps h' (items.filter (·.1 ≠ key)) := by
  have hne : StackMap.stackOf items key ≠ [] := fun hnil =>
    StackMap.stackOf_eq_nil_iff.mp hnil _ hx rfl
  obtain ⟨⟨order, ht⟩, hnodup⟩ := hm
  obtain ⟨h', i, hremove, ht'⟩ := ht.remove_ok hne
  rw [StackMap.popItem_of_nodup hnodup] at ht'
  refine ⟨h', hremove, ⟨_, ht'⟩, ?_⟩
  exact hnodup.sublist (List.filter_sublist.map _)

/-- `Remove` of a key that no item has. -/
theorem remove_none {key : K} (hkey : key ∉ items.map Prod.fst) : h.remove key = (-1, h) := by
  obtain ⟨⟨order, ht⟩, -⟩ := hm
  refine ht.stores.remove_none (StackMap.stackOf_eq_nil_iff.mpr fun x hx heq => hkey ?_)
  exact List.mem_map.mpr ⟨x, hx, heq⟩

/-- A write through the pointer that `Lookup` returns changes the value of the key. -/
theorem writeLookup_ok {key : K} {old : V} (hx : (key, old) ∈ items) (value : V) :
    ∃ h', h.writeLookup key value = some h' ∧
      Maps h' (items.map fun x => if x.1 = key then (key, value) else x) := by
  have hlookup := hm.lookup_eq_some_iff.mpr hx
  obtain ⟨⟨order, ht⟩, hnodup⟩ := hm
  rw [lookup, Option.bind_eq_some_iff] at hlookup
  obtain ⟨i, hfind, -⟩ := hlookup
  have hfind' := ht.stores.find_eq key ▸ hfind
  have hi : i ∈ order := List.mem_reverse.mp (List.mem_of_find?_eq_some hfind')
  obtain ⟨y, hnode, hy⟩ : ∃ y, h.nodes[i] = some y ∧ y.1 = key := by
    simpa [Option.any_eq_true] using List.find?_some hfind'
  -- The nodes in use have different keys, so the node that is written is the key's only one.
  have hkeys : (order.map fun j => (h.nodes[j]).map Prod.fst).Nodup := by
    have hmap := congrArg (List.map (Option.map Prod.fst)) ht.stores.nodes_eq
    rw [List.map_map, List.map_map] at hmap
    have hsome : (items.map fun x => some x.1) = (items.map Prod.fst).map some :=
      (List.map_map ..).symm
    refine (congrArg List.Nodup hmap).mpr ?_
    exact (congrArg List.Nodup hsome).mpr (hnodup.map (Option.some_injective K))
  have hnodes : ∀ j ∈ order, (h.nodes.set i ((h.nodes[i]).map fun x => (x.1, value)))[j] =
      (h.nodes[j]).map fun x => if x.1 = key then (key, value) else x := by
    intro j hj
    by_cases hij : i = j
    · subst hij
      simp [hnode, hy]
    · have hne : i.val ≠ j.val := fun h => hij (Fin.ext h)
      have hother : ∀ x, h.nodes[j] = some x → x.1 ≠ key := fun x hx heq =>
        hij (List.inj_on_of_nodup_map hkeys hi hj (by simp [hnode, hx, hy, heq]))
      cases hx : h.nodes[j] with
      | none => simp_all
      | some x => simp_all
  refine ⟨{ h with nodes := h.nodes.set i ((h.nodes[i]).map fun x => (x.1, value)) },
    by rw [writeLookup, hfind, Option.map_some],
    ⟨order, ⟨ht.stores.perm, ?_, ?_, ?_⟩, fun hvalid => ?_⟩, ?_⟩
  · have hmap := congrArg
      (List.map (Option.map fun x => if x.1 = key then (key, value) else x)) ht.stores.nodes_eq
    rw [List.map_map, List.map_map] at hmap
    rw [List.map_map, List.map_congr_left hnodes]
    exact hmap
  · intro c
    rw [ht.stores.chain_eq c]
    apply List.filter_congr
    intro j _
    by_cases hij : i = j
    · subst hij
      simp [hnode]
    · have hne : i.val ≠ j.val := fun h => hij (Fin.ext h)
      simp [hne]
  · rw [List.length_map]
    exact ht.stores.size_eq
  · obtain ⟨idx, hperm, hindexed⟩ := ht.indexed hvalid
    exact ⟨idx, hperm, hindexed.valid, hindexed.size_eq, hindexed.get_eq⟩
  · have hfst : (items.map fun x => if x.1 = key then (key, value) else x).map Prod.fst =
        items.map Prod.fst := by
      rw [List.map_map]
      apply List.map_congr_left
      intro x _
      by_cases hk : x.1 = key
      · simp [hk]
      · simp [hk]
    rw [hfst]
    exact hnodup

end Operations

end Maps

end FastHash

end Stun
