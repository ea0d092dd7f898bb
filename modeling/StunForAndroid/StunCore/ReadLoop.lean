import StunForAndroid.StunCore.ReaderAccess

/-!
# Reading no more than a message

`HowManyBytesNeeded` is what is missing of the header, then what is missing of the body, and then
nothing. A caller that reads no more than that at a time (`OnDemand`) never holds more than the
first message of a stream, so that `AddBytes` never finds octets after the body. `readLoop` is such
a caller: the loop of `ReceiveBytesForConnection` in `src/server/tcpserver.cpp`, as far as the
reader goes.
-/

namespace Stun

open Octets Fallible CDataStream

namespace CStunMessageReader

/-! ## The demand -/

section Demand

variable {fAllow : Bool} {bs : List UInt8} {r : CStunMessageReader}

/-- While the header is not complete, the rest of it is needed. -/
theorem Fed.needed_headerNotRead (h : Fed fAllow bs r) (hstate : r.state = .headerNotRead) :
    bs.length < STUN_HEADER_SIZE ∧ r.stream.getSize = bs.length ∧
      r.howManyBytesNeeded.toNat = STUN_HEADER_SIZE - bs.length := by
  cases h with
  | headerNotRead hs hlive hshort =>
    refine ⟨hshort, hlive.getSize_eq, ?_⟩
    unfold STUN_HEADER_SIZE at hshort
    unfold howManyBytesNeeded
    rw [hs, hlive.getSize_eq]
    unfold STUN_HEADER_SIZE
    simp only [UInt16.toNat_sub, UInt16.toNat_ofNat']
    omega
  | headerValidated hs => rw [hs] at hstate; cases hstate
  | bodyValidated hs => rw [hs] at hstate; cases hstate
  | parseError hs => rw [hs] at hstate; cases hstate

/-- While the body is not complete, the rest of it is needed. -/
theorem Fed.needed_headerValidated (h : Fed fAllow bs r) (hstate : r.state = .headerValidated) :
    STUN_HEADER_SIZE ≤ bs.length ∧ bs.length < STUN_HEADER_SIZE + (lengthField bs).toNat ∧
      HeaderValid fAllow bs ∧ r.msgLength = lengthField bs ∧ r.stream.getSize = bs.length ∧
      r.howManyBytesNeeded.toNat = STUN_HEADER_SIZE + (lengthField bs).toNat - bs.length := by
  cases h with
  | headerNotRead hs => rw [hs] at hstate; cases hstate
  | headerValidated hs hlive hlen hshort hvalid hheader =>
    refine ⟨hlen, hshort, hvalid, hheader.length, hlive.getSize_eq, ?_⟩
    have hle := hvalid.length_le
    unfold STUN_HEADER_SIZE at hlen hshort
    unfold MAX_STUN_MESSAGE_SIZE at hle
    unfold howManyBytesNeeded
    rw [hs, hlive.getSize_eq, hheader.length]
    unfold STUN_HEADER_SIZE
    simp only [UInt16.toNat_sub, UInt16.toNat_add, UInt16.toNat_ofNat']
    omega
  | bodyValidated hs => rw [hs] at hstate; cases hstate
  | parseError hs => rw [hs] at hstate; cases hstate

/-- Nothing is needed exactly after the end. -/
theorem Fed.needed_eq_zero_iff (h : Fed fAllow bs r) :
    r.howManyBytesNeeded = 0 ↔ r.state = .bodyValidated ∨ r.state = .parseError := by
  cases hstate : r.state with
  | headerNotRead =>
    obtain ⟨hshort, -, hneeded⟩ := h.needed_headerNotRead hstate
    refine iff_of_false (fun hzero => ?_) (by simp)
    rw [hzero] at hneeded
    have h0 : (0 : UInt16).toNat = 0 := rfl
    omega
  | headerValidated =>
    obtain ⟨-, hshort, -, -, -, hneeded⟩ := h.needed_headerValidated hstate
    refine iff_of_false (fun hzero => ?_) (by simp)
    rw [hzero] at hneeded
    have h0 : (0 : UInt16).toNat = 0 := rfl
    omega
  | bodyValidated => simp [howManyBytesNeeded, hstate]
  | parseError => simp [howManyBytesNeeded, hstate]

/-- What is needed fits the array that `recv` reads into. -/
theorem Fed.needed_le (h : Fed fAllow bs r) :
    r.howManyBytesNeeded.toNat ≤ MAX_STUN_MESSAGE_SIZE := by
  cases hstate : r.state with
  | headerNotRead =>
    obtain ⟨-, -, hneeded⟩ := h.needed_headerNotRead hstate
    rw [hneeded]
    exact (Nat.sub_le _ _).trans (by decide)
  | headerValidated =>
    obtain ⟨hlen, -, hvalid, -, -, hneeded⟩ := h.needed_headerValidated hstate
    have hle := hvalid.length_le
    omega
  | bodyValidated =>
    rw [h.needed_eq_zero_iff.mpr (.inl hstate)]
    exact Nat.zero_le _
  | parseError =>
    rw [h.needed_eq_zero_iff.mpr (.inr hstate)]
    exact Nat.zero_le _

end Demand

/-! ## Feeding on demand -/

/-- The reader has been fed the octets `bs`, and they are not more than the first message of any
stream that starts with them. -/
structure OnDemand (fAllow : Bool) (bs : List UInt8) (r : CStunMessageReader) : Prop where
  fed : Fed fAllow bs r
  /-- Not more than the message whose header is valid. -/
  le : STUN_HEADER_SIZE ≤ bs.length → HeaderValid fAllow bs →
    bs.length ≤ STUN_HEADER_SIZE + (lengthField bs).toNat
  /-- Not more than a header that is not. -/
  eq : STUN_HEADER_SIZE ≤ bs.length → ¬HeaderValid fAllow bs → bs.length = STUN_HEADER_SIZE

section OnDemand

variable {fAllow : Bool} {bs : List UInt8} {r : CStunMessageReader}

/-- A reader that was made ready is on demand with no octets. -/
theorem onDemand_ready (fAllow : Bool) (rbuf : Option CBuffer) (r₀ : CStunMessageReader) :
    OnDemand fAllow [] (r₀.ready fAllow rbuf) :=
  ⟨fed_ready fAllow rbuf r₀, fun hlen => absurd hlen (by decide),
    fun hlen => absurd hlen (by decide)⟩

/-- Not more is fed than is needed. -/
theorem OnDemand.addBytes (h : OnDemand fAllow bs r) {c : List UInt8}
    (hc : c.length ≤ r.howManyBytesNeeded.toNat) : OnDemand fAllow (bs ++ c) (r.addBytes c).2 := by
  have hfed := h.fed.addBytes c
  have hlength : (bs ++ c).length = bs.length + c.length := List.length_append
  cases hstate : r.state with
  | headerNotRead =>
    obtain ⟨hshort, -, hneeded⟩ := h.fed.needed_headerNotRead hstate
    exact ⟨hfed, fun _ _ => by omega, fun _ _ => by omega⟩
  | headerValidated =>
    obtain ⟨hlen, hshort, hvalid, -, -, hneeded⟩ := h.fed.needed_headerValidated hstate
    refine ⟨hfed, fun _ _ => ?_, fun _ hbad => absurd ((headerValid_append hlen c).mpr hvalid) hbad⟩
    rw [lengthField_append hlen c]
    omega
  | bodyValidated =>
    have hzero := h.fed.needed_eq_zero_iff.mpr (.inl hstate)
    rw [hzero] at hc
    obtain rfl := List.eq_nil_of_length_eq_zero (Nat.le_zero.mp hc)
    rw [List.append_nil] at hfed ⊢
    exact ⟨hfed, h.le, h.eq⟩
  | parseError =>
    have hzero := h.fed.needed_eq_zero_iff.mpr (.inr hstate)
    rw [hzero] at hc
    obtain rfl := List.eq_nil_of_length_eq_zero (Nat.le_zero.mp hc)
    rw [List.append_nil] at hfed ⊢
    exact ⟨hfed, h.le, h.eq⟩

/-- A reader that needs nothing has the whole message, when its header is valid. -/
theorem OnDemand.length_eq (h : OnDemand fAllow bs r) (hneeded : r.howManyBytesNeeded = 0) :
    STUN_HEADER_SIZE ≤ bs.length ∧
      (HeaderValid fAllow bs → bs.length = STUN_HEADER_SIZE + (lengthField bs).toNat) := by
  rcases h.fed.needed_eq_zero_iff.mp hneeded with hstate | hstate
  · have hacc := h.fed.bodyValidated_iff.mp hstate
    have hlen := hacc.length_eq
    exact ⟨by omega, fun _ => hlen⟩
  · obtain ⟨hlen, hrejected⟩ := h.fed.parseError_iff.mp hstate
    refine ⟨hlen, fun hvalid => ?_⟩
    have hle := h.le hlen hvalid
    rcases hrejected with hbad | hlong | ⟨heq, -⟩
    · exact absurd hvalid hbad
    · omega
    · exact heq

/-- A reader on demand that is in error refuses a header or a body, and never octets after the body.
-/
theorem OnDemand.of_parseError (h : OnDemand fAllow bs r) (hstate : r.state = .parseError) :
    bs.length = STUN_HEADER_SIZE ∧ ¬HeaderValid fAllow bs ∨
      bs.length = STUN_HEADER_SIZE + (lengthField bs).toNat ∧
        ¬BodyValid (bs.drop STUN_HEADER_SIZE) := by
  obtain ⟨hlen, hrejected⟩ := h.fed.parseError_iff.mp hstate
  by_cases hvalid : HeaderValid fAllow bs
  · have hle := h.le hlen hvalid
    rcases hrejected with hbad | hlong | hbody
    · exact absurd hvalid hbad
    · omega
    · exact .inr hbody
  · exact .inl ⟨h.eq hlen hvalid, hvalid⟩

end OnDemand

/-! ## The loop -/

/-- The loop, on a stream of octets: `recv` gives the size that it is asked for or less, and the
loop ends when nothing is needed. The result is what the loop has taken from the stream, and the
reader. -/
def readLoop : List ℕ → List UInt8 → CStunMessageReader → List UInt8 × CStunMessageReader
  | [], _, r => ([], r)
  | size :: sizes, stream, r =>
    if r.howManyBytesNeeded = 0 then ([], r)
    else
      let n := min size r.howManyBytesNeeded.toNat
      let rest := readLoop sizes (stream.drop n) (r.addBytes (stream.take n)).2
      (stream.take n ++ rest.1, rest.2)

section Loop

variable {fAllow : Bool}

/-- The loop feeds on demand, from the start of the stream. -/
theorem readLoop_onDemand (sizes : List ℕ) (stream bs : List UInt8) {r : CStunMessageReader}
    (h : OnDemand fAllow bs r) :
    (readLoop sizes stream r).1 <+: stream ∧
      OnDemand fAllow (bs ++ (readLoop sizes stream r).1) (readLoop sizes stream r).2 := by
  induction sizes generalizing stream bs r with
  | nil =>
    unfold readLoop
    exact ⟨List.nil_prefix, by rwa [List.append_nil]⟩
  | cons size sizes ih =>
    unfold readLoop
    split_ifs with hneeded
    · exact ⟨List.nil_prefix, by rwa [List.append_nil]⟩
    · dsimp only
      have hn : (stream.take (min size r.howManyBytesNeeded.toNat)).length ≤
          r.howManyBytesNeeded.toNat := by
        rw [List.length_take]
        omega
      generalize min size r.howManyBytesNeeded.toNat = n at hn ⊢
      obtain ⟨hfirst, hdemand⟩ := ih (stream.drop n) (bs ++ stream.take n) (h.addBytes hn)
      refine ⟨?_, by rwa [← List.append_assoc]⟩
      have htake := (List.prefix_append_right_inj (stream.take n)).mpr hfirst
      rwa [List.take_append_drop] at htake

/-- With enough calls of `recv` on a stream that is long enough the loop takes the whole message.
The octets that were fed before count. -/
theorem readLoop_complete (sizes : List ℕ) (hsizes : ∀ n ∈ sizes, 1 ≤ n) (stream bs : List UInt8)
    {r : CStunMessageReader} (h : OnDemand fAllow bs r) {total : ℕ}
    (htotal : total = STUN_HEADER_SIZE + (lengthField (bs ++ stream)).toNat)
    (hvalid : HeaderValid fAllow (bs ++ stream)) (hstream : total ≤ (bs ++ stream).length)
    (hcalls : total ≤ bs.length + sizes.length) :
    bs ++ (readLoop sizes stream r).1 = (bs ++ stream).take total := by
  -- What was fed is never more than the message.
  have hle : STUN_HEADER_SIZE ≤ bs.length → bs.length ≤ total := by
    intro hlen
    rw [htotal, lengthField_append hlen]
    exact h.le hlen ((headerValid_append hlen stream).mp hvalid)
  have hdone : total ≤ bs.length → bs = (bs ++ stream).take total := by
    intro hfull
    have hsame : bs.length = total := le_antisymm (hle (by omega)) hfull
    rw [← hsame, List.take_left]
  induction sizes generalizing stream bs r with
  | nil =>
    unfold readLoop
    rw [List.append_nil]
    exact hdone (by simpa using hcalls)
  | cons size sizes ih =>
    unfold readLoop
    split_ifs with hneeded
    · rw [List.append_nil]
      obtain ⟨hlen, hlength⟩ := h.length_eq hneeded
      apply hdone
      rw [hlength ((headerValid_append hlen stream).mp hvalid), htotal, lengthField_append hlen]
    · dsimp only
      have hneeded' : 1 ≤ r.howManyBytesNeeded.toNat :=
        Nat.one_le_iff_ne_zero.mpr fun hzero => hneeded (UInt16.toNat_inj.mp hzero)
      have hsize := hsizes size (by simp)
      have hn : (stream.take (min size r.howManyBytesNeeded.toNat)).length ≤
          r.howManyBytesNeeded.toNat := by
        rw [List.length_take]
        omega
      have hone : 1 ≤ min size r.howManyBytesNeeded.toNat := le_min hsize hneeded'
      generalize min size r.howManyBytesNeeded.toNat = n at hn hone ⊢
      have hdemand := h.addBytes hn
      have hjoin : bs ++ stream.take n ++ stream.drop n = bs ++ stream := by
        rw [List.append_assoc, List.take_append_drop]
      rw [← List.append_assoc, ← hjoin]
      have hlength : (bs ++ stream.take n).length = bs.length + min n stream.length := by
        rw [List.length_append, List.length_take]
      rw [List.length_append] at hstream
      have hle' : STUN_HEADER_SIZE ≤ (bs ++ stream.take n).length →
          (bs ++ stream.take n).length ≤ total := by
        intro hlen
        have hfield := lengthField_append hlen (stream.drop n)
        have hheader : HeaderValid fAllow _ ↔ _ := headerValid_append hlen (stream.drop n)
        rw [hjoin] at hfield hheader
        rw [htotal, hfield]
        exact hdemand.le hlen (hheader.mp hvalid)
      apply ih (fun m hm => hsizes m (by simp [hm])) _ _ hdemand
      · rw [hjoin]
        exact htotal
      · rwa [hjoin]
      · rw [hjoin, List.length_append]
        exact hstream
      · rw [List.length_cons] at hcalls
        omega
      · exact hle'
      · intro hfull
        have hsame : (bs ++ stream.take n).length = total := le_antisymm (hle' (by omega)) hfull
        rw [← hsame, List.take_left]

end Loop

/-! ## The demand is exact -/

/-- In every state that calls of `AddBytes` lead to, the reader needs what is missing of the message
and no more; and the loop takes from a stream exactly the first message, when its header is valid
and there are enough calls, and never more. -/
theorem demand_exact (r₀ : CStunMessageReader) (fAllow : Bool) (rbuf : Option CBuffer)
    (chunks : List (List UInt8)) :
    let r := (r₀.ready fAllow rbuf).addChunks chunks
    (r.howManyBytesNeeded = 0 ↔ r.state = .bodyValidated ∨ r.state = .parseError) ∧
      (r.state = .headerNotRead →
        r.howManyBytesNeeded.toNat = STUN_HEADER_SIZE - r.stream.getSize) ∧
      (r.state = .headerValidated →
        r.howManyBytesNeeded.toNat = STUN_HEADER_SIZE + r.msgLength.toNat - r.stream.getSize) ∧
      (r.state = .headerNotRead ∨ r.state = .headerValidated →
        1 ≤ r.howManyBytesNeeded.toNat ∧ r.howManyBytesNeeded.toNat ≤ MAX_STUN_MESSAGE_SIZE) ∧
      ∀ (stream : List UInt8) (sizes : List ℕ), (∀ n ∈ sizes, 1 ≤ n) →
        let taken := (readLoop sizes stream (r₀.ready fAllow rbuf)).1
        let r' := (readLoop sizes stream (r₀.ready fAllow rbuf)).2
        let total := STUN_HEADER_SIZE + (lengthField stream).toNat
        taken <+: stream ∧
          (r'.state = .parseError →
            taken.length = STUN_HEADER_SIZE ∧ ¬HeaderValid fAllow taken ∨
            taken.length = STUN_HEADER_SIZE + (lengthField taken).toNat ∧
              ¬BodyValid (taken.drop STUN_HEADER_SIZE)) ∧
          (STUN_HEADER_SIZE ≤ stream.length → HeaderValid fAllow stream → taken.length ≤ total) ∧
          (HeaderValid fAllow stream → total ≤ stream.length → total ≤ sizes.length →
            taken = stream.take total ∧ r'.howManyBytesNeeded = 0) := by
  intro r
  have h : Fed fAllow chunks.flatten r := fed_addChunks fAllow rbuf r₀ chunks
  have hzero := h.needed_eq_zero_iff
  refine ⟨hzero, fun hstate => ?_, fun hstate => ?_, fun hstate => ⟨?_, h.needed_le⟩, ?_⟩
  · obtain ⟨-, hsize, hneeded⟩ := h.needed_headerNotRead hstate
    rw [hneeded, hsize]
  · obtain ⟨-, -, -, hlength, hsize, hneeded⟩ := h.needed_headerValidated hstate
    rw [hneeded, hsize, hlength]
  · rw [Nat.one_le_iff_ne_zero]
    intro hneeded
    have hend := hzero.mp (UInt16.toNat_inj.mp hneeded)
    rcases hstate with hstate | hstate <;> rw [hstate] at hend <;> simp at hend
  · intro stream sizes hsizes taken r' total
    have hready := onDemand_ready fAllow rbuf r₀
    obtain ⟨hfirst, hdemand⟩ := readLoop_onDemand sizes stream [] hready
    rw [List.nil_append] at hdemand
    have hle : STUN_HEADER_SIZE ≤ stream.length → HeaderValid fAllow stream →
        taken.length ≤ total := by
      intro hlen hvalid
      by_cases hshort : STUN_HEADER_SIZE ≤ taken.length
      · obtain ⟨rest, hrest⟩ := hfirst
        have hfield := lengthField_append hshort rest
        have hheader : HeaderValid fAllow _ ↔ _ := headerValid_append hshort rest
        rw [show taken ++ rest = stream from hrest] at hfield hheader
        have hdemand := hdemand.le hshort (hheader.mp hvalid)
        rwa [← hfield] at hdemand
      · exact (not_le.mp hshort).le.trans (Nat.le_add_right _ _)
    refine ⟨hfirst, hdemand.of_parseError, hle, fun hvalid hstream hcalls => ?_⟩
    have htaken : taken = stream.take total :=
      readLoop_complete sizes hsizes stream [] hready rfl hvalid hstream (by simpa using hcalls)
    refine ⟨htaken, ?_⟩
    -- The whole message leaves the reader in one of the two states at the end.
    have hlength : taken.length = total := by
      rw [htaken, List.length_take]
      exact min_eq_left hstream
    have hheader : STUN_HEADER_SIZE ≤ taken.length := by
      rw [hlength]
      exact Nat.le_add_right _ _
    have hfield : lengthField taken = lengthField stream := by
      obtain ⟨rest, hrest⟩ := hfirst
      have hfield := lengthField_append hheader rest
      rw [show taken ++ rest = stream from hrest] at hfield
      exact hfield.symm
    rw [hdemand.fed.needed_eq_zero_iff]
    cases hstate : r'.state with
    | headerNotRead =>
      obtain ⟨hshort, -, -⟩ := hdemand.fed.needed_headerNotRead hstate
      exact absurd hheader (not_le.mpr hshort)
    | headerValidated =>
      obtain ⟨-, hshort, -, -, -, -⟩ := hdemand.fed.needed_headerValidated hstate
      rw [hfield] at hshort
      exact absurd hlength hshort.ne
    | bodyValidated => exact .inl rfl
    | parseError => exact .inr rfl

end CStunMessageReader

end Stun
