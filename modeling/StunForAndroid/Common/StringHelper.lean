import StunForAndroid.Common.Decimal

/-!
# `StringHelper`

`src/common/stringhelper.cpp`, on strings that a `char*` points to and on `std::string`s. `Trim`
takes the white space from both ends of a string, unless the string has nothing else: then it stays
as it is (`trim_of_white`).
-/

namespace Stun

/-! ## Strings that end at a zero character -/

namespace CString

/-- `IsNullOrEmpty`. -/
def isNullOrEmpty (s : CString) : Bool := s.chars.isEmpty

/-- A character in `ToLower`. -/
def lowerChar (ch : UInt8) : UInt8 := if 65 ≤ ch ∧ ch ≤ 90 then ch + (97 - 65) else ch

/-- Only the zero character becomes one. -/
theorem lowerChar_ne_zero {ch : UInt8} (h : ch ≠ 0) : lowerChar ch ≠ 0 := by
  unfold lowerChar
  split_ifs with hupper
  · obtain ⟨hlow, hhigh⟩ := hupper
    rw [UInt8.le_iff_toNat_le] at hlow hhigh
    have hlow' : 65 ≤ ch.toNat := hlow
    have hhigh' : ch.toNat ≤ 90 := hhigh
    intro h0
    have hsum : (ch.toNat + 32) % 256 = 0 := by simpa using congrArg UInt8.toNat h0
    omega
  · exact h

/-- `ToLower`. -/
def toLower (s : CString) : CString where
  chars := s.chars.map lowerChar
  nul_free := by
    intro h
    obtain ⟨ch, hch, h0⟩ := List.mem_map.mp h
    exact lowerChar_ne_zero (fun hnul => s.nul_free (hnul ▸ hch)) h0

end CString

/-- `ValidateNumberString`, with `*pnResult` when it succeeds. -/
def validateNumberString (psz : CString) (nMinValue nMaxValue : ℤ) : Option ℤ :=
  if psz.isNullOrEmpty then none
  else
    let nVal := atoi psz
    if nVal < nMinValue then none
    else if nVal > nMaxValue then none
    else some nVal

/-! ## `std::string` -/

/-- A `std::string`, which may hold zero characters. -/
abbrev StdString : Type := List UInt8

namespace StdString

/-- `c_str`, as a function sees it that takes a `char*`. -/
def c_str (str : StdString) : CString := .ofArray (str ++ [0])

/-- `ToLower`. -/
def toLower (str : StdString) : StdString := str.map CString.lowerChar

/-- `ISWHITESPACE`. -/
def ISWHITESPACE (ch : UInt8) : Bool := (9 ≤ ch && ch ≤ 0xd) || ch == 32

/-- The loop of `Trim`, with `index`, `start` and `end`. -/
def trimLoop : StdString → ℤ → ℤ → ℤ → ℤ × ℤ
  | [], _, start, stop => (start, stop)
  | ch :: str, index, start, stop =>
    if ISWHITESPACE ch then trimLoop str (index + 1) start stop
    else if start = -1 then trimLoop str (index + 1) index index
    else trimLoop str (index + 1) start index

/-- `Trim`. -/
def trim (str : StdString) : StdString :=
  let (start, stop) := trimLoop str 0 (-1) (-1)
  if start ≠ -1 then (str.drop start.toNat).take (stop - start + 1).toNat else str

/-- All of the string is white space. -/
def White (str : StdString) : Prop := ∀ ch ∈ str, ISWHITESPACE ch = true

instance (str : StdString) : Decidable (White str) :=
  List.decidableBAll (fun ch => ISWHITESPACE ch = true) str

/-- The loop over two strings is the loop over the first and, with what it found, over the second.
-/
theorem trimLoop_append (str str' : StdString) (index start stop : ℤ) :
    trimLoop (str ++ str') index start stop =
      trimLoop str' (index + str.length) (trimLoop str index start stop).1
        (trimLoop str index start stop).2 := by
  induction str generalizing index start stop with
  | nil => simp [trimLoop]
  | cons ch str ih =>
    have hindex : index + 1 + str.length = index + (ch :: str).length := by
      push_cast [List.length_cons]
      ring
    rw [List.cons_append, trimLoop, trimLoop]
    split_ifs <;> rw [ih, hindex]

/-- The loop finds nothing in white space. -/
theorem trimLoop_white {str : StdString} (h : White str) (index start stop : ℤ) :
    trimLoop str index start stop = (start, stop) := by
  induction str generalizing index with
  | nil => rfl
  | cons ch str ih =>
    obtain ⟨hch, hstr⟩ := List.forall_mem_cons.mp h
    rw [trimLoop, if_pos hch, ih hstr]

/-- Once something was found, a last character that is not white moves the end only. -/
theorem trimLoop_concat {str : StdString} {ch : UInt8} (hch : ISWHITESPACE ch = false)
    {index start : ℤ} (stop : ℤ) (hstart : start ≠ -1) :
    trimLoop (str ++ [ch]) index start stop = (start, index + str.length) := by
  -- The start is set once, when it is still -1.
  have hkept : ∀ (str : StdString) (index stop : ℤ), (trimLoop str index start stop).1 = start := by
    intro str
    induction str with
    | nil => exact fun _ _ => rfl
    | cons c str ih =>
      intro index stop
      rw [trimLoop, if_neg hstart]
      split_ifs <;> exact ih _ _
  rw [trimLoop_append, hkept, trimLoop, if_neg (by rw [hch]; exact Bool.false_ne_true),
    if_neg hstart]
  rfl

/-- A string that neither begins nor ends with white space, and is not empty. -/
structure Core (str : StdString) : Prop where
  first : ∃ ch rest, str = ch :: rest ∧ ISWHITESPACE ch = false
  last : ∃ rest ch, str = rest ++ [ch] ∧ ISWHITESPACE ch = false

/-- The loop finds both ends of such a string. -/
theorem Core.trimLoop_eq {str : StdString} (h : Core str) {index : ℤ} (hindex : 0 ≤ index)
    (stop : ℤ) :
    trimLoop str index (-1) stop = (index, index + str.length - 1) := by
  obtain ⟨ch, rest, rfl, hch⟩ := h.first
  obtain ⟨init, last, hlast, hwhite⟩ := h.last
  rw [trimLoop, if_neg (by rw [hch]; exact Bool.false_ne_true), if_pos rfl]
  cases init with
  | nil =>
    obtain rfl : rest = [] := (List.cons.inj hlast).2
    simp [trimLoop]
  | cons c init =>
    have hrest : rest = init ++ [last] := (List.cons.inj hlast).2
    have hlength : (ch :: (init ++ [last])).length = init.length + 2 := by simp
    rw [hrest, trimLoop_concat hwhite index (by omega), hlength]
    push_cast
    congr 1
    ring

/-- White space is taken from both ends. -/
theorem Core.trim_append {pre core post : StdString} (h : Core core) (hpre : White pre)
    (hpost : White post) : trim (pre ++ core ++ post) = core := by
  have hstart : (0 : ℤ) ≤ 0 + pre.length := by omega
  have hloop : trimLoop (pre ++ core ++ post) 0 (-1) (-1) =
      (0 + (pre.length : ℤ), 0 + (pre.length : ℤ) + core.length - 1) := by
    rw [trimLoop_append, trimLoop_append, trimLoop_white hpre]
    dsimp only
    rw [h.trimLoop_eq hstart, trimLoop_white hpost]
  have hcount : (0 + (pre.length : ℤ) + core.length - 1 - (0 + pre.length) + 1).toNat =
      core.length := by
    omega
  have hdrop : (0 + (pre.length : ℤ)).toNat = pre.length := by omega
  unfold trim
  rw [hloop]
  dsimp only
  rw [if_pos (by omega), hcount, hdrop, List.append_assoc, List.drop_left, List.take_left]

/-- White space stays as it is. -/
theorem trim_of_white {str : StdString} (h : White str) : trim str = str := by
  unfold trim
  rw [trimLoop_white h]
  rfl

/-- A string that is not white space has its first character that is none. -/
theorem exists_first {str : StdString} (h : ¬White str) :
    ∃ pre ch rest, str = pre ++ ch :: rest ∧ White pre ∧ ISWHITESPACE ch = false := by
  induction str with
  | nil => exact absurd nofun h
  | cons c str ih =>
    cases hc : ISWHITESPACE c with
    | false => exact ⟨[], c, str, rfl, nofun, hc⟩
    | true =>
      obtain ⟨pre, ch, rest, rfl, hpre, hch⟩ := ih fun hwhite =>
        h (List.forall_mem_cons.mpr ⟨hc, hwhite⟩)
      exact ⟨c :: pre, ch, rest, rfl, List.forall_mem_cons.mpr ⟨hc, hpre⟩, hch⟩

/-- A string that is not all white space has a last character that is not white. -/
theorem exists_last {str : StdString} (h : ¬White str) :
    ∃ rest ch post, str = rest ++ [ch] ++ post ∧ White post ∧ ISWHITESPACE ch = false := by
  have hreverse : ¬White str.reverse := fun hwhite =>
    h fun ch hch => hwhite ch (List.mem_reverse.mpr hch)
  obtain ⟨post, ch, rest, hstr, hpost, hch⟩ := exists_first hreverse
  refine ⟨rest.reverse, ch, post.reverse, ?_, fun c hc => hpost c (List.mem_reverse.mp hc), hch⟩
  have hback := congrArg List.reverse hstr
  rw [List.reverse_reverse] at hback
  simp [hback]

/-- A string that is not white space is one without white space at its ends, between white space. -/
theorem exists_core {str : StdString} (h : ¬White str) :
    ∃ pre core post, str = pre ++ core ++ post ∧ White pre ∧ Core core ∧ White post := by
  obtain ⟨pre, ch, rest, rfl, hpre, hch⟩ := exists_first h
  have hrest : ¬White (ch :: rest) := by
    intro hwhite
    have htrue := hwhite ch List.mem_cons_self
    rw [hch] at htrue
    cases htrue
  obtain ⟨init, last, post, hlast, hpost, hwhite⟩ := exists_last hrest
  refine ⟨pre, init ++ [last], post, by simp [hlast], hpre, ⟨?_, init, last, rfl, hwhite⟩,
    hpost⟩
  cases init with
  | nil => exact ⟨last, [], rfl, hwhite⟩
  | cons c init =>
    obtain ⟨rfl, -⟩ := List.cons.inj hlast
    exact ⟨ch, init ++ [last], rfl, hch⟩

/-! ## Added white space -/

/-- White space was added at both ends, or at one, or none at all. -/
def Padded (str str' : StdString) : Prop :=
  ∃ pre post, White pre ∧ White post ∧ str' = pre ++ str ++ post

/-- A string is padded from itself. -/
theorem Padded.refl (str : StdString) : Padded str str := ⟨[], [], nofun, nofun, by simp⟩

/-- `Trim` takes away what was added to a string that is not white space. -/
theorem Padded.trim_eq {str str' : StdString} (h : Padded str str') (hstr : ¬White str) :
    trim str' = trim str := by
  obtain ⟨pre, post, hpre, hpost, rfl⟩ := h
  obtain ⟨a, core, b, rfl, ha, hcore, hb⟩ := exists_core hstr
  have hpre' : White (pre ++ a) := List.forall_mem_append.mpr ⟨hpre, ha⟩
  have hpost' : White (b ++ post) := List.forall_mem_append.mpr ⟨hb, hpost⟩
  have hassoc : pre ++ (a ++ core ++ b) ++ post = pre ++ a ++ core ++ (b ++ post) := by
    simp only [List.append_assoc]
  rw [hassoc, hcore.trim_append hpre' hpost', hcore.trim_append ha hb]

/-- White space that is added to white space is white space. -/
theorem Padded.white {str str' : StdString} (h : Padded str str') (hstr : White str) :
    White str' := by
  obtain ⟨pre, post, hpre, hpost, rfl⟩ := h
  exact List.forall_mem_append.mpr ⟨List.forall_mem_append.mpr ⟨hpre, hstr⟩, hpost⟩

/-- White space that is a string of its own, and that `Trim` leaves. -/
def Blank (str : StdString) : Prop := White str ∧ str ≠ []

/-- With white space added, a string that does not become blank from nothing is trimmed to the same,
or was blank and is. -/
theorem Padded.trim_cases {str str' : StdString} (h : Padded str str')
    (hblank : ¬(str = [] ∧ str' ≠ [])) : trim str' = trim str ∨ Blank (trim str) ∧
      Blank (trim str') := by
  by_cases hwhite : White str
  · rw [trim_of_white hwhite, trim_of_white (h.white hwhite)]
    by_cases hempty : str = []
    · left
      by_contra hne
      exact hblank ⟨hempty, fun hempty' => hne (hempty'.trans hempty.symm)⟩
    -- White space that is there already stays there, and is not trimmed in either string.
    · have hempty' : str' ≠ [] := by
        obtain ⟨pre, post, -, -, rfl⟩ := h
        simp [hempty]
      exact .inr ⟨⟨hwhite, hempty⟩, h.white hwhite, hempty'⟩
  · exact .inl (h.trim_eq hwhite)

/-- What becomes blank from nothing is blank when it was trimmed. -/
theorem Padded.blank_trim {str str' : StdString} (h : Padded str str') (hempty : str = [])
    (hempty' : str' ≠ []) : Blank (trim str') := by
  have hwhite : White str' := h.white (hempty ▸ nofun)
  rw [trim_of_white hwhite]
  exact ⟨hwhite, hempty'⟩

/-- The characters of the C string are characters of the string. -/
theorem mem_of_mem_c_str {str : StdString} {ch : UInt8} (h : ch ∈ str.c_str.chars) : ch ∈ str := by
  have hne : ch ≠ 0 := fun h0 => str.c_str.nul_free (h0 ▸ h)
  have hmem : ch ∈ str ++ [0] := List.takeWhile_subset _ h
  obtain hstr | hzero := List.mem_append.mp hmem
  · exact hstr
  · exact absurd (List.mem_singleton.mp hzero) hne

/-- `atoi` makes zero of white space. -/
theorem atoi_of_white {str : StdString} (h : White str) : atoi str.c_str = 0 := by
  have hspace : str.c_str.chars.dropWhile isspace = [] :=
    List.dropWhile_eq_nil_iff.mpr fun ch hch => h ch (mem_of_mem_c_str hch)
  unfold atoi strtol
  rw [hspace]
  rfl

/-- A string with another character is not white space. -/
theorem Blank.ne {str str' : StdString} (h : Blank str) (ch : UInt8) (hmem : ch ∈ str')
    (hch : ISWHITESPACE ch = false) : str ≠ str' := by
  rintro rfl
  have htrue := h.1 ch hmem
  rw [hch] at htrue
  cases htrue

/-- No string but the empty one is trimmed to nothing. -/
theorem trim_eq_nil_iff {str : StdString} : trim str = [] ↔ str = [] := by
  by_cases h : White str
  · rw [trim_of_white h]
  · obtain ⟨pre, core, post, rfl, hpre, hcore, hpost⟩ := exists_core h
    obtain ⟨ch, rest, hcons, -⟩ := hcore.first
    rw [hcore.trim_append hpre hpost, hcons]
    exact iff_of_false (List.cons_ne_nil ch rest) (by simp)

/-- From tab to carriage return, and the space. -/
theorem ISWHITESPACE_iff {ch : UInt8} :
    ISWHITESPACE ch = true ↔ 9 ≤ ch.toNat ∧ ch.toNat ≤ 13 ∨ ch.toNat = 32 := by
  unfold ISWHITESPACE
  simp [UInt8.le_iff_toNat_le, ← UInt8.toNat_inj]

/-- A letter is no white space, in either case. -/
theorem ISWHITESPACE_lowerChar (ch : UInt8) :
    ISWHITESPACE (CString.lowerChar ch) = ISWHITESPACE ch := by
  unfold CString.lowerChar
  split_ifs with hupper
  · simp only [UInt8.le_iff_toNat_le, UInt8.reduceToNat] at hupper
    have hlower : (ch + (97 - 65)).toNat = ch.toNat + 32 := by
      rw [UInt8.toNat_add]
      show (ch.toNat + 32) % 256 = ch.toNat + 32
      omega
    rw [Bool.eq_iff_iff, ISWHITESPACE_iff, ISWHITESPACE_iff, hlower]
    omega
  · rfl

/-- Lower case keeps what was added. -/
theorem Padded.toLower {str str' : StdString} (h : Padded str str') :
    Padded (toLower str) (toLower str') := by
  have hwhite : ∀ {str : StdString}, White str → White (StdString.toLower str) := by
    intro str hstr ch hch
    obtain ⟨c, hc, rfl⟩ := List.mem_map.mp hch
    rw [ISWHITESPACE_lowerChar]
    exact hstr c hc
  obtain ⟨pre, post, hpre, hpost, rfl⟩ := h
  exact ⟨_, _, hwhite hpre, hwhite hpost, by simp [StdString.toLower]⟩

end StdString

end Stun
