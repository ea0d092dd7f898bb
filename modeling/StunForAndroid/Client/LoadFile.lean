import StunForAndroid.Client.FileTransfer

/-!
# Read errors of a shared file

`loadFileToBuffer` of `src/client/SharedFileBuffer.cpp` on a file whose reads may fail.
`FileTransfer.lean` has the function for a file that is read without an error.

`fread` answers how many octets it has read, after an error as well as at the end of the file. The
number is never -1, which is what the function tests for, and so an error ends the loop as the end
of the file does.
-/

namespace Stun

namespace Transfer

/-! ## The code -/

/-- How a call of `fread` goes: it reads what it was asked for, or what is left of the file, unless
there is an error after some octets. -/
inductive FreadAnswer where
  | complete
  | readError (count : ℕ)
deriving DecidableEq

/-- The octets that `fread` reads of what is left of the file. A call that ends with an error has
read less than it was asked for. -/
def fread (answer : FreadAnswer) (count : ℕ) (rest : List UInt8) : List UInt8 :=
  match answer with
  | .complete => rest.take count
  | .readError n => rest.take (min n (count - 1))

/-- What the loop leaves: the blocks, the last size, and how many calls of `fread` it took. -/
structure LoadRun where
  mFileBlockList : List FileBlock
  size : ℤ
  calls : ℕ
deriving DecidableEq

/-- The calls of `fread` and the loop, on what is left of the file, when it ends within a number of
rounds. -/
def loadLoop (answers : ℕ → FreadAnswer) : ℕ → ℕ → List UInt8 → ℤ → Option LoadRun
  | 0, _, _, _ => none
  | rounds + 1, call, rest, index =>
    let localBuffer := fread (answers call) blockMaxLength rest
    let size : ℤ := localBuffer.length
    if size > 0 then
      (loadLoop answers rounds (call + 1) (rest.drop localBuffer.length) (index + 1)).map fun run =>
        ⟨⟨localBuffer, index⟩ :: run.mFileBlockList, run.size, run.calls + 1⟩
    else some ⟨[], size, 1⟩

/-- The block at place `i` has the number `i` more than the first. -/
theorem mIndex_loadLoop {answers : ℕ → FreadAnswer} {rounds call : ℕ}
    {rest : List UInt8} {index : ℤ}
    {run : LoadRun} (h : loadLoop answers rounds call rest index = some run) {i : ℕ} {b : FileBlock}
    (hb : run.mFileBlockList[i]? = some b) : b.mIndex = index + i := by
  induction rounds generalizing call rest index run i with
  | zero => cases h
  | succ rounds ih =>
    rw [loadLoop] at h
    split_ifs at h with hsize
    · obtain ⟨run', hrun', rfl⟩ := Option.map_eq_some_iff.mp h
      cases i with
      | zero =>
        obtain rfl := Option.some.inj hb
        simp
      | succ i =>
        have hi := ih hrun' hb
        push_cast
        linarith
    · obtain rfl := Option.some.inj h
      simp at hb

/-- What `loadFileToBuffer` returns, the object that it leaves, and how many calls of `fread` it
took. -/
structure Loaded where
  returned : Bool
  buffer : SharedFileBuffer
  calls : ℕ

/-- `loadFileToBuffer` on an object that is made to read a file, from what the file is, if it opens.
A round takes at least one octet of the file, but for the last. -/
def loadFileToBuffer (answers : ℕ → FreadAnswer) : Option (List UInt8) → Option Loaded
  | none => some ⟨false, .forWriting, 0⟩
  | some content =>
    match h : loadLoop answers (content.length + 1) 0 content 0 with
    | none => none
    | some run =>
      if run.size = -1 then some ⟨false, .forWriting, run.calls⟩
      else some ⟨true, ⟨run.mFileBlockList, fun i b hb => by simpa using mIndex_loadLoop h hb⟩,
        run.calls⟩

/-! ## A round -/

section Rounds

variable {answers : ℕ → FreadAnswer} {rounds call : ℕ} {rest : List UInt8} {index : ℤ}
    {run : LoadRun}

/-- A call reads no more than a block, and no more than there is. -/
theorem length_fread_le (answer : FreadAnswer) (count : ℕ) (rest : List UInt8) :
    (fread answer count rest).length ≤ rest.length := by
  cases answer <;> exact List.length_take_le' _ _

/-- A round either ends the loop with its call, or is followed by the rest of the loop. -/
theorem loadLoop_cases (h : loadLoop answers (rounds + 1) call rest index = some run) :
    (fread (answers call) blockMaxLength rest = [] ∧ run = ⟨[], 0, 1⟩) ∨
      ∃ localBuffer run', fread (answers call) blockMaxLength rest = localBuffer ∧
        localBuffer ≠ [] ∧
        loadLoop answers rounds (call + 1) (rest.drop localBuffer.length) (index + 1) = some run' ∧
        run = ⟨⟨localBuffer, index⟩ :: run'.mFileBlockList, run'.size, run'.calls + 1⟩ := by
  rw [loadLoop] at h
  split_ifs at h with hsize
  · obtain ⟨run', hrun', rfl⟩ := Option.map_eq_some_iff.mp h
    exact .inr ⟨_, run', rfl, List.length_pos_iff.mp (Int.natCast_pos.mp hsize), hrun', rfl⟩
  · have hnil : fread (answers call) blockMaxLength rest = [] :=
      List.eq_nil_of_length_eq_zero (by omega)
    rw [hnil] at h
    exact .inl ⟨hnil, (Option.some.inj h).symm⟩

/-- The loop ends, since every round but the last takes an octet of the file. -/
theorem exists_loadLoop (h : rest.length < rounds) :
    ∃ run, loadLoop answers rounds call rest index = some run := by
  induction rounds generalizing call rest index with
  | zero => omega
  | succ rounds ih =>
    rw [loadLoop]
    split_ifs with hsize
    · have hle := length_fread_le (answers call) blockMaxLength rest
      have hshorter : (rest.drop (fread (answers call) blockMaxLength rest).length).length <
          rounds := by
        rw [List.length_drop]
        omega
      obtain ⟨run', hrun'⟩ : ∃ run', loadLoop answers rounds (call + 1)
          (rest.drop (fread (answers call) blockMaxLength rest).length) (index + 1) = some run' :=
        ih hshorter
      exact ⟨_, Option.map_eq_some_iff.mpr ⟨run', hrun', rfl⟩⟩
    · exact ⟨_, rfl⟩

/-- The last size is never the one that the loop is followed by a test for. -/
theorem size_loadLoop (h : loadLoop answers rounds call rest index = some run) : run.size = 0 := by
  induction rounds generalizing call rest index run with
  | zero => cases h
  | succ rounds ih =>
    rcases loadLoop_cases h with ⟨-, rfl⟩ | ⟨localBuffer, run', -, -, hrun', rfl⟩
    · rfl
    · show run'.size = 0
      exact ih hrun'

/-! ## Reading without an error -/

/-- How many calls it takes to read octets without an error, with the one that finds the end of the
file. -/
def readsOf (n : ℕ) : ℕ := (n + 4095) / 4096 + 1

/-- Dropping the octets that were read leaves those behind them. -/
theorem drop_length_take (rest : List UInt8) (n : ℕ) :
    rest.drop (rest.take n).length = rest.drop n := by
  rw [List.length_take]
  rcases Nat.le_total n rest.length with hle | hle
  · rw [min_eq_left hle]
  · rw [min_eq_right hle, List.drop_length, List.drop_eq_nil_of_le hle]

/-- A call that reads without an error when there is something to read leaves one call less. -/
theorem readsOf_drop {rest : List UInt8} (h : rest ≠ []) :
    readsOf rest.length = readsOf (rest.drop (rest.take blockMaxLength).length).length + 1 := by
  have hpos := List.length_pos_iff.mpr h
  unfold readsOf blockMaxLength
  rw [List.length_drop, List.length_take]
  omega

/-- All calls from one on are complete when that one and the later ones are. -/
theorem forall_complete_succ (answers : ℕ → FreadAnswer) (call n : ℕ) :
    (∀ i < n + 1, answers (call + i) = .complete) ↔
      answers call = .complete ∧ ∀ i < n, answers (call + 1 + i) = .complete := by
  constructor
  · intro h
    refine ⟨h 0 (Nat.succ_pos n), fun i hi => ?_⟩
    rw [Nat.add_assoc, Nat.add_comm 1 i]
    exact h (i + 1) (by omega)
  · rintro ⟨hzero, hsucc⟩ i hi
    cases i with
    | zero => exact hzero
    | succ i =>
      rw [← Nat.add_assoc, Nat.add_right_comm]
      exact hsucc i (by omega)

/-- The calls of the loop are complete when the calls are that it takes to read the file, and then
it reads the blocks of the file. -/
theorem loadLoop_complete_iff (h : loadLoop answers rounds call rest index = some run) :
    (∀ i < run.calls, answers (call + i) = .complete) ↔
      ∀ i < readsOf rest.length, answers (call + i) = .complete := by
  induction rounds generalizing call rest index run with
  | zero => cases h
  | succ rounds ih =>
    by_cases hcall : answers call = .complete
    · rcases loadLoop_cases h with ⟨hnil, rfl⟩ | ⟨localBuffer, run', hread, hne, hrun', rfl⟩
      · rw [hcall] at hnil
        have hrest : rest = [] := (List.take_eq_nil_iff.mp hnil).resolve_left (by decide)
        rw [hrest]
        rfl
      · rw [hcall] at hread
        have hrest : rest ≠ [] := by
          rintro rfl
          exact hne (hread.symm.trans (List.take_nil))
        have hread' : rest.take blockMaxLength = localBuffer := hread
        rw [readsOf_drop hrest, hread', forall_complete_succ, forall_complete_succ, ih hrun']
    -- The first call is one of either kind.
    · refine iff_of_false (fun hall => hcall ?_) (fun hall => hcall ?_)
      · rcases loadLoop_cases h with ⟨-, rfl⟩ | ⟨localBuffer, run', -, -, -, rfl⟩
        · exact hall 0 Nat.one_pos
        · exact hall 0 (Nat.succ_pos _)
      · exact hall 0 (Nat.succ_pos _)

/-- The loop then reads the blocks of the file. -/
theorem loadLoop_of_complete (h : loadLoop answers rounds call rest index = some run)
    (hcomplete : ∀ i < run.calls, answers (call + i) = .complete) :
    run.mFileBlockList = loadBlocks rounds rest index := by
  induction rounds generalizing call rest index run with
  | zero => cases h
  | succ rounds ih =>
    rcases loadLoop_cases h with ⟨hnil, rfl⟩ | ⟨localBuffer, run', hread, hne, hrun', rfl⟩
    · have hcall : answers call = .complete := hcomplete 0 Nat.one_pos
      rw [hcall] at hnil
      have hnil' : rest.take blockMaxLength = [] := hnil
      rw [loadBlocks, hnil', if_neg (by simp)]
    · obtain ⟨hcall, hlater⟩ := (forall_complete_succ answers call run'.calls).mp hcomplete
      rw [hcall] at hread
      have hread' : rest.take blockMaxLength = localBuffer := hread
      have hpos : localBuffer.length > 0 := List.length_pos_iff.mpr hne
      have hdrop : rest.drop localBuffer.length = rest.drop blockMaxLength := by
        rw [← hread', drop_length_take]
      rw [hdrop] at hrun'
      rw [loadBlocks, hread', if_pos hpos, ih hrun' hlater]

/-- The number of rounds does not matter when there are enough. -/
theorem loadBlocks_congr {rounds' : ℕ} (h : rest.length ≤ rounds) (h' : rest.length ≤ rounds') :
    loadBlocks rounds rest index = loadBlocks rounds' rest index := by
  induction rounds generalizing rounds' rest index with
  | zero =>
    obtain rfl := List.eq_nil_of_length_eq_zero (Nat.le_zero.mp h)
    cases rounds' <;> simp [loadBlocks]
  | succ rounds ih =>
    cases rounds' with
    | zero =>
      obtain rfl := List.eq_nil_of_length_eq_zero (Nat.le_zero.mp h')
      simp [loadBlocks]
    | succ rounds' =>
      rw [loadBlocks, loadBlocks]
      split_ifs with hpos
      · have hshorter : (rest.drop blockMaxLength).length < rest.length := by
          simp only [List.length_take, blockMaxLength] at hpos
          simp only [List.length_drop, blockMaxLength]
          omega
        have hrest : (rest.drop blockMaxLength).length ≤ rounds ∧
            (rest.drop blockMaxLength).length ≤ rounds' := by omega
        rw [ih hrest.1 hrest.2]
      · rfl

/-- The blocks of a file are not empty, and all but the last are full. -/
theorem length_of_mem_loadBlocks {i : ℕ} {b : FileBlock}
    (hb : (loadBlocks rounds rest index)[i]? = some b) :
    0 < b.mBuffer.length ∧ b.mBuffer.length ≤ blockMaxLength ∧
      (i + 1 < (loadBlocks rounds rest index).length → b.mBuffer.length = blockMaxLength) := by
  induction rounds generalizing rest index i with
  | zero => cases hb
  | succ rounds ih =>
    rw [loadBlocks] at hb ⊢
    split_ifs at hb ⊢ with hpos
    · cases i with
      | zero =>
        obtain rfl := Option.some.inj hb
        refine ⟨hpos, by rw [List.length_take]; exact Nat.min_le_left _ _, fun hmore => ?_⟩
        -- There is another block only when the first leaves something of the file.
        have hleft : rest.drop blockMaxLength ≠ [] := by
          intro hnil
          rw [hnil] at hmore
          cases rounds <;> simp [loadBlocks] at hmore
        have hlong : blockMaxLength < rest.length := by
          have hpos' := List.length_pos_iff.mpr hleft
          rw [List.length_drop] at hpos'
          omega
        rw [List.length_take, min_eq_left hlong.le]
      | succ i =>
        obtain ⟨hne, hle, hfull⟩ := ih hb
        exact ⟨hne, hle, fun hmore => hfull (by simpa using hmore)⟩
    · cases hb

end Rounds

/-! ## The file -/

/-- The octets of the blocks from number zero on. -/
def octetsOf (buffer : SharedFileBuffer) : List UInt8 :=
  (List.range buffer.getBlockSize.toNat).flatMap fun i : ℕ =>
    (buffer.getAt i).elim [] FileBlock.mBuffer

/-- The object has the whole file, in blocks with their numbers that are full but for the last. -/
structure Whole (content : List UInt8) (buffer : SharedFileBuffer) : Prop where
  octets : octetsOf buffer = content
  block : ∀ (i : ℕ) (b : FileBlock), buffer.getAt i = some b → b.mIndex = i ∧ 0 < b.getDataSize ∧
    b.getDataSize ≤ 4096 ∧ (i + 1 < buffer.getBlockSize → b.getDataSize = 4096)

/-- The octets of a file are those of its blocks, one after the other. -/
theorem octetsOf_eq (buffer : SharedFileBuffer) :
    octetsOf buffer = buffer.mFileBlockList.flatMap FileBlock.mBuffer := by
  have hcount : buffer.getBlockSize.toNat = buffer.mFileBlockList.length := Int.toNat_natCast _
  have hmap : (List.range buffer.mFileBlockList.length).map
      (fun i : ℕ => (buffer.getAt i).elim [] FileBlock.mBuffer) =
        buffer.mFileBlockList.map FileBlock.mBuffer := by
    refine List.ext_getElem (by simp) fun i hi hi' => ?_
    have hlt : i < buffer.mFileBlockList.length := by simpa using hi'
    simp [SharedFileBuffer.getAt, List.getElem?_eq_getElem hlt]
  unfold octetsOf
  rw [hcount, List.flatMap_def, List.flatMap_def, hmap]

/-- The blocks of a file are the whole file. -/
theorem whole_of_loadBlocks {content : List UInt8} {buffer : SharedFileBuffer} {rounds : ℕ}
    (hrounds : content.length ≤ rounds) (h : buffer.mFileBlockList = loadBlocks rounds content 0) :
    Whole content buffer := by
  refine ⟨by rw [octetsOf_eq, h, flatMap_loadBlocks hrounds], fun i b hb => ?_⟩
  have hget : buffer.mFileBlockList[i]? = some b := by simpa [SharedFileBuffer.getAt] using hb
  have hindex := (SharedFileBuffer.getAt_eq hb).1
  have hsize : buffer.getBlockSize = (loadBlocks rounds content 0).length := by
    rw [SharedFileBuffer.getBlockSize, h]
  rw [h] at hget
  obtain ⟨hne, hle, hfull⟩ := length_of_mem_loadBlocks hget
  unfold FileBlock.getDataSize blockMaxLength at *
  exact ⟨hindex, by omega, by omega, by omega⟩

/-! ## Read errors -/

/-- `loadFileToBuffer` returns, and it returns true only when the whole file was read and no call
met an error. When a call does, it returns false and leaves no blocks. -/
def CompleteOrReported (answers : ℕ → FreadAnswer) (file : Option (List UInt8)) : Prop :=
  ∃ loaded, loadFileToBuffer answers file = some loaded ∧
    (loaded.returned = true → ∃ content, file = some content ∧ Whole content loaded.buffer ∧
      ∀ i < loaded.calls, answers i = .complete) ∧
    ((∃ i < loaded.calls, answers i ≠ .complete) →
      loaded.returned = false ∧ loaded.buffer.getBlockSize = 0)

/-- None of the calls that it takes to read a file that opens meets an error, nor does the one that
finds its end. -/
def ReadsWithoutError (answers : ℕ → FreadAnswer) (file : Option (List UInt8)) : Prop :=
  ∀ content, file = some content → ∀ i < readsOf content.length, answers i = .complete

/-- A file that opens is loaded with what the loop leaves, whatever its last size is. -/
theorem loadFileToBuffer_some (answers : ℕ → FreadAnswer) (content : List UInt8) :
    ∃ run loaded, loadLoop answers (content.length + 1) 0 content 0 = some run ∧
      loadFileToBuffer answers (some content) = some loaded ∧ loaded.returned = true ∧
      loaded.buffer.mFileBlockList = run.mFileBlockList ∧ loaded.calls = run.calls := by
  obtain ⟨run, hrun⟩ : ∃ run, loadLoop answers (content.length + 1) 0 content 0 = some run :=
    exists_loadLoop (Nat.lt_succ_self content.length)
  have hsize := size_loadLoop hrun
  rw [loadFileToBuffer]
  split
  · rename_i hnone
    rw [hrun] at hnone
    cases hnone
  · rename_i run' hrun'
    obtain rfl := Option.some.inj (hrun.symm.trans hrun')
    rw [if_neg (by rw [hsize]; decide)]
    exact ⟨run, _, hrun, rfl, rfl, rfl, rfl⟩

/-- Loading is complete or reported when no call meets an error, and only then. -/
theorem completeOrReported_iff (answers : ℕ → FreadAnswer) (file : Option (List UInt8)) :
    CompleteOrReported answers file ↔ ReadsWithoutError answers file := by
  cases file with
  | none => exact iff_of_true ⟨_, rfl, nofun, fun h => by simp at h⟩ nofun
  | some content =>
    obtain ⟨run, loaded, hrun, hloaded, hreturned, hblocks, hcalls⟩ :=
      loadFileToBuffer_some answers content
    have hcomplete := loadLoop_complete_iff hrun
    simp only [Nat.zero_add] at hcomplete
    constructor
    · rintro ⟨loaded', hloaded', hwhole, -⟩ content' hcontent'
      obtain rfl := Option.some.inj hcontent'
      obtain rfl := Option.some.inj (hloaded.symm.trans hloaded')
      obtain ⟨-, -, -, hall⟩ := hwhole hreturned
      rw [hcalls] at hall
      exact hcomplete.mp hall
    · intro h
      have hall := hcomplete.mpr (h content rfl)
      have hload := loadLoop_of_complete hrun (by simpa using hall)
      refine ⟨loaded, hloaded, fun _ => ⟨content, rfl, ?_, by rwa [hcalls]⟩, ?_⟩
      · exact whole_of_loadBlocks (Nat.le_succ _) (hblocks.trans hload)
      · rintro ⟨i, hi, hne⟩
        rw [hcalls] at hi
        exact absurd (hall i hi) hne

/-- Without an error the file is loaded as `FileTransfer.lean` has it. -/
theorem loadFileToBuffer_of_complete {content : List UInt8} (answers : ℕ → FreadAnswer)
    (h : ∀ i < readsOf content.length, answers i = .complete) :
    ∃ loaded, loadFileToBuffer answers (some content) = some loaded ∧
      loaded.buffer.mFileBlockList =
      (SharedFileBuffer.loadFileToBuffer (some content)).mFileBlockList := by
  obtain ⟨run, loaded, hrun, hloaded, -, hblocks, -⟩ := loadFileToBuffer_some answers content
  have hcomplete := loadLoop_complete_iff hrun
  simp only [Nat.zero_add] at hcomplete
  have hload := loadLoop_of_complete hrun (by simpa using hcomplete.mpr h)
  refine ⟨loaded, hloaded, hblocks.trans (hload.trans ?_)⟩
  exact loadBlocks_congr (Nat.le_succ _) le_rfl

/-- The first call on a file of three octets meets an error after one of them. -/
theorem not_completeOrReported : ¬∀ answers file, CompleteOrReported answers file := by
  intro h
  obtain ⟨loaded, hloaded, hwhole, -⟩ := h (fun _ => .readError 1) (some [1, 2, 3])
  obtain ⟨_, loaded', hrun, hloaded', hreturned, -, hcalls⟩ :=
    loadFileToBuffer_some (fun _ => .readError 1) [1, 2, 3]
  obtain rfl := Option.some.inj (hloaded.symm.trans hloaded')
  obtain ⟨-, -, -, hall⟩ := hwhole hreturned
  have hcall := hall 0 (by rw [hcalls, ← Option.some.inj hrun]; decide)
  cases hcall

end Transfer

end Stun
