import Mathlib.Tactic.NormNum
import StunForAndroid.Lib.Octets

/-!
# Padded type-length-value records

A record on the wire is a 16-bit type, a 16-bit length, the value, and padding up to a multiple of
`align` that the length does not count. `Tlv align limit` is such a record whose value has at most
`limit` octets. `next` reads one record from the front of an octet string. It reads back what
`encode` wrote (`next_encode_append`) and accepts nothing else (`next_exact`), so a string is a
concatenation of records in at most one way (`encodeAll_injective`).
-/

/-- The octets that pad a value of `n` octets to a multiple of `align`. -/
def padLength (align n : ℕ) : ℕ := if n % align = 0 then 0 else align - n % align

/-- Padding completes a value to a multiple of `align`. -/
theorem add_padLength_mod {align : ℕ} (n : ℕ) (h : 0 < align) :
    (n + padLength align n) % align = 0 := by
  unfold padLength
  have hlt := Nat.mod_lt n h
  split_ifs with h0
  · simpa using h0
  · have hsum : n + (align - n % align) = n / align * align + align := by
      have := Nat.div_add_mod' n align
      omega
    rw [hsum]
    simp

/-- Padding is shorter than the alignment. -/
theorem padLength_lt {align : ℕ} (n : ℕ) (h : 0 < align) : padLength align n < align := by
  unfold padLength
  split_ifs <;> omega

/-- A record with its padding. -/
structure Tlv (align limit : ℕ) where
  /-- The type. -/
  type : UInt16
  /-- The value, without its padding. -/
  value : List UInt8
  /-- The octets between the value and the next record. -/
  padding : List UInt8
  /-- The value is within the limit. -/
  length_value : value.length ≤ limit
  /-- The padding completes the value to a multiple of the alignment. -/
  length_padding : padding.length = padLength align value.length
deriving DecidableEq

namespace Tlv

open Octets

variable {align limit : ℕ}

/-- The record on the wire. -/
def encode (t : Tlv align limit) : List UInt8 :=
  toBE 2 t.type.toNat ++ toBE 2 t.value.length ++ t.value ++ t.padding

/-- A concatenation of records. -/
def encodeAll (ts : List (Tlv align limit)) : List UInt8 := ts.flatMap encode

/-- The position after a record that starts at `p`. -/
def endOf (p : ℕ) (t : Tlv align limit) : ℕ :=
  p + 4 + t.value.length + padLength align t.value.length

/-- A record takes four octets, its value and the padding. -/
theorem length_encode (t : Tlv align limit) :
    t.encode.length = 4 + t.value.length + padLength align t.value.length := by
  simp only [encode, List.length_append, length_toBE, t.length_padding]

@[simp]
theorem encodeAll_nil : encodeAll ([] : List (Tlv align limit)) = [] := rfl

@[simp]
theorem encodeAll_cons (t : Tlv align limit) (ts : List (Tlv align limit)) :
    encodeAll (t :: ts) = t.encode ++ encodeAll ts := rfl

@[simp]
theorem encodeAll_append (ts us : List (Tlv align limit)) :
    encodeAll (ts ++ us) = encodeAll ts ++ encodeAll us := by
  simp [encodeAll]

/-- A concatenation of records fills a multiple of the alignment, when the alignment divides the
four octets of type and length. -/
theorem length_encodeAll_mod (h : 0 < align) (h4 : 4 % align = 0) (ts : List (Tlv align limit)) :
    (encodeAll ts).length % align = 0 := by
  induction ts with
  | nil => simp
  | cons t ts ih =>
    have ht := add_padLength_mod t.value.length h
    rw [encodeAll_cons, List.length_append, length_encode, Nat.add_assoc 4]
    simp [Nat.add_mod, h4, ht, ih]

/-- The record at the front of an octet string, and what follows it. -/
def next (align limit : ℕ) (bs : List UInt8) : Option (Tlv align limit × List UInt8) :=
  match bs with
  | t1 :: t0 :: l1 :: l0 :: rest =>
    let n := ofBE [l1, l0]
    if h : n ≤ limit ∧ n + padLength align n ≤ rest.length then
      some (⟨UInt16.ofNat (ofBE [t1, t0]), rest.take n, (rest.drop n).take (padLength align n),
        by simpa using Or.inl h.1, by
          have hn : (rest.take n).length = n := by
            rw [List.length_take]
            omega
          rw [hn, List.length_take, List.length_drop]
          omega⟩, rest.drop (n + padLength align n))
    else none
  | _ => none

/-- Two octets written for a word below `2^16` are two octets that read back as the word. -/
theorem toBE_two (x : ℕ) (h : x < 65536) : ∃ b1 b0, toBE 2 x = [b1, b0] ∧ ofBE [b1, b0] = x := by
  refine ⟨UInt8.ofNat (x / 256), UInt8.ofNat x, rfl, ?_⟩
  have := ofBE_toBE 2 x
  rw [Nat.mod_eq_of_lt (by omega)] at this
  exact this

/-- `next` reads back what `encode` wrote. -/
theorem next_encode_append (hlimit : limit < 65536) (t : Tlv align limit) (rest : List UInt8) :
    next align limit (t.encode ++ rest) = some (t, rest) := by
  obtain ⟨ty, value, padding, hv, hp⟩ := t
  obtain ⟨t1, t0, ht, ht'⟩ := toBE_two ty.toNat ty.toNat_lt
  obtain ⟨l1, l0, hl, hl'⟩ := toBE_two value.length (by omega)
  have hdrop : (value ++ (padding ++ rest)).drop (value.length + padding.length) = rest := by
    rw [← List.append_assoc, ← List.length_append, List.drop_left]
  simp only [encode, ht, hl, List.cons_append, List.nil_append, List.append_assoc, next, hl', ht']
  rw [dif_pos ⟨hv, by simp only [List.length_append, hp]; omega⟩]
  simp only [← hp, List.take_left, List.drop_left, hdrop, UInt16.ofNat_toNat]

/-- `next` accepts nothing but a record. -/
theorem next_exact {bs rest : List UInt8} {t : Tlv align limit}
    (h : next align limit bs = some (t, rest)) : bs = t.encode ++ rest := by
  unfold next at h
  split at h
  · rename_i t1 t0 l1 l0 tail
    simp only at h
    split_ifs at h with hn
    simp only [Option.some.injEq, Prod.mk.injEq] at h
    obtain ⟨rfl, rfl⟩ := h
    have htype : toBE 2 (UInt16.ofNat (ofBE [t1, t0])).toNat = [t1, t0] := by
      have hlt := ofBE_lt [t1, t0]
      have hpow : 256 ^ [t1, t0].length = 2 ^ 16 := by norm_num
      rw [hpow] at hlt
      rw [UInt16.toNat_ofNat', Nat.mod_eq_of_lt hlt]
      exact toBE_ofBE [t1, t0]
    have hlen : (tail.take (ofBE [l1, l0])).length = ofBE [l1, l0] := by
      rw [List.length_take]
      omega
    -- The value, the padding and the rest put the octets together again.
    have hbody : tail = tail.take (ofBE [l1, l0]) ++ ((tail.drop (ofBE [l1, l0])).take
        (padLength align (ofBE [l1, l0])) ++ tail.drop (ofBE [l1, l0] +
          padLength align (ofBE [l1, l0]))) := by
      rw [← List.drop_drop, List.take_append_drop, List.take_append_drop]
    have hl : toBE 2 (ofBE [l1, l0]) = [l1, l0] := toBE_ofBE [l1, l0]
    simp only [encode, htype, hlen, hl, List.append_assoc]
    rw [← hbody]
    rfl
  · cases h

/-- What `next` does with a string that has a type and a length: the record is complete and its
value is within the limit, or there is none. -/
theorem next_of_four_le {bs : List UInt8} (h4 : 4 ≤ bs.length) :
    (∃ t, next align limit bs = some (t, bs.drop t.encode.length) ∧
      t.type = UInt16.ofNat (ofBE (bs.take 2)) ∧ t.value.length = ofBE ((bs.drop 2).take 2) ∧
      t.encode.length ≤ bs.length) ∨
    (next align limit bs = none ∧ (limit < ofBE ((bs.drop 2).take 2) ∨
      bs.length < 4 + ofBE ((bs.drop 2).take 2) +
        padLength align (ofBE ((bs.drop 2).take 2)))) := by
  match bs, h4 with
  | t1 :: t0 :: l1 :: l0 :: rest, _ =>
    simp only [next, List.drop_succ_cons, List.drop_zero, List.take_succ_cons, List.take_zero,
      List.length_cons]
    split_ifs with h
    · have hv : (rest.take (ofBE [l1, l0])).length = ofBE [l1, l0] := by
        rw [List.length_take]
        omega
      refine .inl ⟨_, congrArg some (Prod.ext rfl ?_), rfl, hv, ?_⟩
      · rw [length_encode]
        simp only [hv, Nat.add_assoc]
        rw [← List.drop_drop (j := 4)]
        rfl
      · rw [length_encode]
        simp only [hv]
        omega
    · exact .inr ⟨rfl, by omega⟩

/-- A string without a type and a length has no record. -/
theorem next_of_lt_four {bs : List UInt8} (h4 : bs.length < 4) : next align limit bs = none := by
  unfold next
  split
  · simp only [List.length_cons] at h4
    omega
  · rfl

/-- Where a record can be read from the front of a concatenation, it is the first one. -/
theorem next_encodeAll_cons (hlimit : limit < 65536) (t : Tlv align limit)
    (ts : List (Tlv align limit)) :
    next align limit (encodeAll (t :: ts)) = some (t, encodeAll ts) :=
  next_encode_append hlimit t _

/-- A record on the wire is not empty. -/
theorem encode_ne_nil (t : Tlv align limit) : t.encode ≠ [] := by
  intro h
  have hlen := t.length_encode
  rw [h] at hlen
  simp only [List.length_nil] at hlen
  omega

/-- The value of a record comes after its type and length. -/
theorem drop_encode_append (t : Tlv align limit) (rest : List UInt8) :
    (t.encode ++ rest).drop 4 = t.value ++ (t.padding ++ rest) := by
  have hfour : (toBE 2 t.type.toNat ++ toBE 2 t.value.length).length = 4 := by simp
  simp only [encode, List.append_assoc]
  rw [← List.append_assoc (toBE 2 _), List.drop_left' hfour]

/-- A string is a concatenation of records in at most one way. -/
theorem encodeAll_injective (hlimit : limit < 65536) :
    Function.Injective (encodeAll : List (Tlv align limit) → List UInt8) := by
  intro ts
  induction ts with
  | nil =>
    intro us h
    cases us with
    | nil => rfl
    | cons u us => simp [encode_ne_nil] at h
  | cons t ts ih =>
    intro us h
    cases us with
    | nil => simp [encode_ne_nil] at h
    | cons u us =>
      have hnext := next_encodeAll_cons hlimit t ts
      rw [h, next_encodeAll_cons hlimit u us, Option.some.injEq, Prod.mk.injEq] at hnext
      rw [hnext.1, ih hnext.2.symm]

/-- The records of a list with the position of the first octet of each value, for a list that
starts at `p`. -/
def located : ℕ → List (Tlv align limit) → List (ℕ × Tlv align limit)
  | _, [] => []
  | p, t :: ts => (p + 4, t) :: located (t.endOf p) ts

@[simp]
theorem length_located (p : ℕ) (ts : List (Tlv align limit)) :
    (located p ts).length = ts.length := by
  induction ts generalizing p with
  | nil => rfl
  | cons t ts ih => simp [located, ih]

/-- A record ends as far behind its position as it is long. -/
theorem endOf_eq (p : ℕ) (t : Tlv align limit) : t.endOf p = p + t.encode.length := by
  rw [endOf, length_encode]
  omega

/-- Appending records locates the new ones after the old. -/
theorem located_append (p : ℕ) (ts us : List (Tlv align limit)) :
    located p (ts ++ us) = located p ts ++ located (p + (encodeAll ts).length) us := by
  induction ts generalizing p with
  | nil => simp [located]
  | cons t ts ih =>
    simp only [List.cons_append, located, ih, endOf_eq, encodeAll_cons, List.length_append,
      Nat.add_assoc]

/-- The record at an index lies after the records before it. -/
theorem getElem?_located (p : ℕ) (ts : List (Tlv align limit)) (i : ℕ) :
    (located p ts)[i]? = ts[i]?.map fun t => (p + (encodeAll (ts.take i)).length + 4, t) := by
  induction ts generalizing p i with
  | nil => simp [located]
  | cons t ts ih =>
    cases i with
    | zero => simp [located]
    | succ i =>
      simp only [located, List.getElem?_cons_succ, ih, endOf_eq, List.take_succ_cons,
        encodeAll_cons, List.length_append, Nat.add_assoc]

/-- A located value is where its position says, after its type and length. -/
theorem located_spec {p : ℕ} {ts : List (Tlv align limit)} {q : ℕ} {t : Tlv align limit}
    (h : (q, t) ∈ located p ts) : ∃ before after, ts = before ++ t :: after ∧
      q = p + (encodeAll before).length + 4 := by
  induction ts generalizing p with
  | nil => simp [located] at h
  | cons u us ih =>
    simp only [located, List.mem_cons, Prod.mk.injEq] at h
    rcases h with ⟨rfl, rfl⟩ | h
    · exact ⟨[], us, rfl, by simp⟩
    · obtain ⟨before, after, rfl, rfl⟩ := ih h
      refine ⟨u :: before, after, rfl, ?_⟩
      simp only [endOf_eq, encodeAll_cons, List.length_append]
      omega

end Tlv
