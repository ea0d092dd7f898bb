import Mathlib.Algebra.BigOperators.Group.List.Basic
import Mathlib.Logic.Function.Basic
import Mathlib.Tactic.Ring

/-!
# Reference counts

`src/common/refcountobject.h`: an object that counts the references to it and deletes itself when
the last one is released, and `CRefCountedPtr`, which counts for the one that holds it. Objects are
numbered, and what happens to the count of an object that was deleted, which C++ leaves open, goes
on here.

`excess` is what a count is too high for the pointers that hold the object. All operations of a
pointer keep it, but for `Attach`, which takes over a reference that was counted before.
-/

namespace Stun

/-- An object, by number. -/
abbrev ObjId : Type := ℕ

/-- `CBasicRefCount`, with what the count has been. -/
structure CBasicRefCount where
  m_nRefs : ℤ := 0
  /-- The values that the count was set to, the last one first. -/
  counts : List ℤ := []
  /-- How often `OnFinalRelease` was called, which deletes the object. -/
  finalReleases : ℕ := 0

namespace CBasicRefCount

/-- `InternalAddRef`. -/
def internalAddRef (o : CBasicRefCount) : CBasicRefCount :=
  { o with m_nRefs := o.m_nRefs + 1, counts := (o.m_nRefs + 1) :: o.counts }

/-- `InternalRelease`. -/
def internalRelease (o : CBasicRefCount) : CBasicRefCount :=
  let refcount := o.m_nRefs - 1
  { m_nRefs := refcount
    counts := refcount :: o.counts
    finalReleases := if refcount = 0 then o.finalReleases + 1 else o.finalReleases }

end CBasicRefCount

/-- The objects. -/
abbrev Objects : Type := ObjId → CBasicRefCount

/-- What is behind a pointer is changed, if there is something. -/
def Objects.change (f : CBasicRefCount → CBasicRefCount) (ptr : Option ObjId) (objects : Objects) :
    Objects :=
  match ptr with
  | none => objects
  | some i => Function.update objects i (f (objects i))

/-- `AddRef`, unless the pointer is `NULL`. -/
def Objects.addRef : Option ObjId → Objects → Objects :=
  Objects.change CBasicRefCount.internalAddRef

/-- `Release`, unless the pointer is `NULL`. -/
def Objects.release : Option ObjId → Objects → Objects :=
  Objects.change CBasicRefCount.internalRelease

/-- `CreateInstanceNoInit`: a new object, with the reference of its creator. -/
def Objects.createInstanceNoInit (i : ObjId) (objects : Objects) : Objects :=
  Function.update objects i (CBasicRefCount.internalAddRef {})

/-- `CRefCountedPtr`, as its `m_ptr`. -/
abbrev CRefCountedPtr : Type := Option ObjId

namespace CRefCountedPtr

/-- The constructor from a pointer, and from another `CRefCountedPtr`. -/
def construct (ptr : Option ObjId) (objects : Objects) : CRefCountedPtr × Objects :=
  (ptr, objects.addRef ptr)

/-- The destructor. -/
def destroy (p : CRefCountedPtr) (objects : Objects) : Objects := objects.release p

/-- `operator =`, from a pointer and from another `CRefCountedPtr`. -/
def assign (p : CRefCountedPtr) (ptr : Option ObjId) (objects : Objects) :
    CRefCountedPtr × Objects :=
  (ptr, (objects.addRef ptr).release p)

/-- `ReleaseAndClear`. -/
def releaseAndClear (p : CRefCountedPtr) (objects : Objects) : CRefCountedPtr × Objects :=
  (none, objects.release p)

/-- `Attach`. -/
def attach (p : CRefCountedPtr) (ptr : Option ObjId) (objects : Objects) :
    CRefCountedPtr × Objects :=
  (ptr, objects.release p)

end CRefCountedPtr

/-! ## What a count is too high -/

/-- A pointer to the object. -/
def pointsTo (i : ObjId) (ptr : Option ObjId) : ℤ := if ptr = some i then 1 else 0

/-- How many of some pointers hold an object. -/
def holding (i : ObjId) (holders : List CRefCountedPtr) : ℤ := (holders.map (pointsTo i)).sum

/-- The count of an object, less the pointers that hold it. -/
def excess (i : ObjId) (objects : Objects) (holders : List CRefCountedPtr) : ℤ :=
  (objects i).m_nRefs - holding i holders

variable {i : ObjId} {objects : Objects} {holders : List CRefCountedPtr}

/-- One more pointer adds one to the holders of the object it points to. -/
@[simp]
theorem holding_cons (p : CRefCountedPtr) :
    holding i (p :: holders) = pointsTo i p + holding i holders :=
  List.sum_cons

/-- `NULL` is no pointer to an object. -/
@[simp]
theorem pointsTo_none : pointsTo i none = 0 := rfl

/-- A pointer to an object points to it once. -/
@[simp]
theorem pointsTo_self : pointsTo i (some i) = 1 := if_pos rfl

/-- The order of the pointers does not matter. -/
theorem holding_perm {holders' : List CRefCountedPtr} (h : holders.Perm holders') :
    holding i holders = holding i holders' := (h.map _).sum_eq

/-- `AddRef` counts one more. -/
theorem m_nRefs_addRef (ptr : Option ObjId) :
    (objects.addRef ptr i).m_nRefs = (objects i).m_nRefs + pointsTo i ptr := by
  cases ptr with
  | none => exact (add_zero _).symm
  | some j =>
    unfold Objects.addRef Objects.change pointsTo
    by_cases h : j = i
    · subst h
      simp [CBasicRefCount.internalAddRef]
    · simp [Function.update_of_ne (Ne.symm h), h]

/-- `Release` counts one less. -/
theorem m_nRefs_release (ptr : Option ObjId) :
    (objects.release ptr i).m_nRefs = (objects i).m_nRefs - pointsTo i ptr := by
  cases ptr with
  | none => exact (sub_zero _).symm
  | some j =>
    unfold Objects.release Objects.change pointsTo
    by_cases h : j = i
    · subst h
      simp [CBasicRefCount.internalRelease]
    · simp [Function.update_of_ne (Ne.symm h), h]

namespace CRefCountedPtr

/-- A new pointer counts for itself. -/
theorem excess_construct (ptr : Option ObjId) :
    excess i (construct ptr objects).2 ((construct ptr objects).1 :: holders) =
      excess i objects holders := by
  unfold excess construct
  rw [m_nRefs_addRef, holding_cons]
  ring

/-- A pointer that is destroyed does not count any more. -/
theorem excess_destroy (p : CRefCountedPtr) :
    excess i (p.destroy objects) holders = excess i objects (p :: holders) := by
  unfold excess destroy
  rw [m_nRefs_release, holding_cons]
  ring

/-- A pointer that is assigned counts for the new object. -/
theorem excess_assign (p : CRefCountedPtr) (ptr : Option ObjId) :
    excess i (p.assign ptr objects).2 ((p.assign ptr objects).1 :: holders) =
      excess i objects (p :: holders) := by
  unfold excess assign
  rw [m_nRefs_release, m_nRefs_addRef, holding_cons, holding_cons]
  ring

/-- A pointer that is cleared does not count any more. -/
theorem excess_releaseAndClear (p : CRefCountedPtr) :
    excess i (p.releaseAndClear objects).2 ((p.releaseAndClear objects).1 :: holders) =
      excess i objects (p :: holders) := by
  unfold excess releaseAndClear
  rw [m_nRefs_release, holding_cons, holding_cons, pointsTo_none]
  ring

/-- A pointer that is attached does not count for the new object. -/
theorem excess_attach (p : CRefCountedPtr) (ptr : Option ObjId) :
    excess i (p.attach ptr objects).2 ((p.attach ptr objects).1 :: holders) =
      excess i objects (p :: holders) - pointsTo i ptr := by
  unfold excess attach
  rw [m_nRefs_release, holding_cons, holding_cons]
  ring

/-- Pointers that are destroyed one after the other do not count any more. -/
theorem excess_foldl_destroy {α : Type*} (spAuth : α → CRefCountedPtr) (owners : List α) :
    excess i (owners.foldl (fun objects owner => (spAuth owner).destroy objects) objects) holders =
      excess i objects (owners.map spAuth ++ holders) := by
  induction owners generalizing objects with
  | nil => rfl
  | cons owner owners ih => exact ih.trans (excess_destroy (spAuth owner))

/-- When the pointers of some owners are destroyed and then another is cleared, the count is what it
was too high for all of them. -/
theorem m_nRefs_of_all_released {α : Type*} (spAuth : α → CRefCountedPtr) (owners : List α)
    (p : CRefCountedPtr) (objects : Objects) :
    ((p.releaseAndClear
      (owners.foldl (fun objects owner => (spAuth owner).destroy objects) objects)).2 i).m_nRefs =
      excess i objects (p :: owners.map spAuth) := by
  generalize hobjects :
    owners.foldl (fun objects owner => (spAuth owner).destroy objects) objects = objects'
  have hperm : (owners.map spAuth ++ [p]).Perm (p :: owners.map spAuth) :=
    List.perm_append_singleton _ _
  calc ((p.releaseAndClear objects').2 i).m_nRefs
      = excess i (p.releaseAndClear objects').2 [none] := (sub_zero _).symm
    _ = excess i objects' [p] := excess_releaseAndClear p
    _ = excess i objects (owners.map spAuth ++ [p]) := by rw [← hobjects, excess_foldl_destroy]
    _ = excess i objects (p :: owners.map spAuth) := by
        unfold excess
        rw [holding_perm hperm]

end CRefCountedPtr

end Stun
