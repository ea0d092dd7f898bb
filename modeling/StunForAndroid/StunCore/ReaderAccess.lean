import Mathlib.Data.List.Induction
import StunForAndroid.StunCore.ReaderParse

/-!
# What the reader accepts, and what it gives access to

The reader is in `BodyValidated` exactly on the strings of the grammar (`Fed.bodyValidated_iff`). It
is then `Parsed`: the string is a header and a list of attributes, and the getters answer from this
list (`Parsed.reads`). Since the list is determined by the string, two readers that were fed the
same octets, cut in different ways, cannot be told apart by anything a caller can ask
(`addChunks_eq_addBytes`).
-/

namespace Stun

open Octets Fallible CDataStream

namespace CStunMessageReader

/-- A reader in `BodyValidated` with the message `bs`, whose attributes are `ts`. -/
structure Parsed (allowLegacy : Bool) (bs : List UInt8) (ts : List WireAttribute)
    (r : CStunMessageReader) : Prop where
  state : r.state = .bodyValidated
  live : Live allowLegacy bs r
  length : bs.length = STUN_HEADER_SIZE + (lengthField bs).toNat
  valid : HeaderValid allowLegacy bs
  header : HeaderStored bs r
  body : bs.drop STUN_HEADER_SIZE = Tlv.encodeAll ts
  attributes : AttributesStored ts r

section States

variable {allowLegacy : Bool} {bs : List UInt8} {r r' : CStunMessageReader}

/-- A reader in `BodyValidated` has parsed its octets. -/
theorem Fed.parsed (h : Fed allowLegacy bs r) (hstate : r.state = .bodyValidated) :
    ∃ ts, Parsed allowLegacy bs ts r := by
  cases h with
  | headerNotRead hs => rw [hs] at hstate; cases hstate
  | headerValidated hs => rw [hs] at hstate; cases hstate
  | bodyValidated hs hlive hlen hvalid hhead ts hcount hbody ha =>
    exact ⟨ts, hs, hlive, hlen, hvalid, hhead, hbody, ha⟩
  | parseError hs => rw [hs] at hstate; cases hstate

/-- What was parsed is in the grammar. -/
theorem Parsed.accepts {ts : List WireAttribute} (h : Parsed allowLegacy bs ts r) :
    Accepts allowLegacy bs :=
  ⟨h.length, h.valid, ts, h.attributes.length_le, h.body⟩

/-- The reader is in `BodyValidated` exactly on the strings of the grammar. -/
theorem Fed.bodyValidated_iff (h : Fed allowLegacy bs r) :
    r.state = .bodyValidated ↔ Accepts allowLegacy bs := by
  constructor
  · intro hstate
    obtain ⟨ts, hp⟩ := h.parsed hstate
    exact hp.accepts
  · intro hacc
    have hlen := hacc.length_eq
    cases h with
    | headerNotRead hs hlive hshort => omega
    | headerValidated hs hlive hfull hshort => omega
    | bodyValidated hs => exact hs
    | parseError hs hrej => exact absurd hrej hacc.not_rejected

/-- The reader is in `ParseError` exactly on the strings that no continuation brings into the
grammar. -/
theorem Fed.parseError_iff (h : Fed allowLegacy bs r) :
    r.state = .parseError ↔ Rejected allowLegacy bs := by
  constructor
  · intro hstate
    cases h with
    | headerNotRead hs => rw [hs] at hstate; cases hstate
    | headerValidated hs => rw [hs] at hstate; cases hstate
    | bodyValidated hs => rw [hs] at hstate; cases hstate
    | parseError hs hrej => exact hrej
  · rintro ⟨hfull, hbad⟩
    cases h with
    | headerNotRead hs hlive hshort => omega
    | headerValidated hs hlive hfull' hshort hvalid =>
      rcases hbad with hbad | hlong | ⟨heq, -⟩
      · exact absurd hvalid hbad
      · omega
      · omega
    | bodyValidated hs hlive hlen hvalid hhead ts hcount hbody =>
      have hacc : Accepts allowLegacy bs := ⟨hlen, hvalid, ts, hcount, hbody⟩
      exact absurd ⟨hfull, hbad⟩ hacc.not_rejected
    | parseError hs => exact hs

/-- The reader is in `HeaderNotRead` exactly while the header is not complete. -/
theorem Fed.headerNotRead_iff (h : Fed allowLegacy bs r) :
    r.state = .headerNotRead ↔ bs.length < STUN_HEADER_SIZE := by
  cases h with
  | headerNotRead hs hlive hshort => simp [hs, hshort]
  | headerValidated hs hlive hfull => simp [hs, hfull]
  | bodyValidated hs hlive hlen => simp [hs, hlen]
  | parseError hs hrej => simp [hs, hrej.1]

/-- The octets determine the state. -/
theorem Fed.state_eq (h : Fed allowLegacy bs r) (h' : Fed allowLegacy bs r') :
    r.state = r'.state := by
  have h1 := h.headerNotRead_iff.trans h'.headerNotRead_iff.symm
  have h2 := h.bodyValidated_iff.trans h'.bodyValidated_iff.symm
  have h3 := h.parseError_iff.trans h'.parseError_iff.symm
  cases hs : r.state
  · exact (h1.mp hs).symm
  · cases hs' : r'.state
    · rw [h1.mpr hs'] at hs; cases hs
    · rfl
    · rw [h2.mpr hs'] at hs; cases hs
    · rw [h3.mpr hs'] at hs; cases hs
  · exact (h2.mp hs).symm
  · exact (h3.mp hs).symm

end States

/-! ## The getters -/

section Getters

variable {allowLegacy : Bool} {bs : List UInt8} {ts : List WireAttribute} {r : CStunMessageReader}

/-- The octets determine the attributes. -/
theorem Parsed.unique {us : List WireAttribute} {r' : CStunMessageReader}
    (h : Parsed allowLegacy bs ts r) (h' : Parsed allowLegacy bs us r') : ts = us :=
  Tlv.encodeAll_injective (by decide) (h.body.symm.trans h'.body)

/-- The stream has the message. -/
theorem Parsed.contents_eq (h : Parsed allowLegacy bs ts r) : r.stream.contents = bs := by
  obtain ⟨cap, p, hh⟩ := h.live.holds
  exact hh.contents_eq

/-- The attributes fill the message behind the header. -/
theorem Parsed.length_body (h : Parsed allowLegacy bs ts r) :
    bs.length = STUN_HEADER_SIZE + (Tlv.encodeAll ts).length := by
  have hlen := h.length
  rw [← h.body, List.length_drop]
  omega

/-- A message has at most 820 octets. -/
theorem Parsed.length_le (h : Parsed allowLegacy bs ts r) : bs.length ≤ 820 := by
  have hlen := h.length
  have hle := h.valid.length_le
  unfold STUN_HEADER_SIZE MAX_STUN_MESSAGE_SIZE at *
  omega

/-- The table finds the last record of a type. -/
theorem Parsed.lookup_eq (h : Parsed allowLegacy bs ts r) (attributeType : UInt16) :
    r.mapAttributes.lookup attributeType =
      (records ts).reverse.find? (·.attributeType = attributeType) := by
  obtain ⟨order, hs, -⟩ := h.attributes.table
  rw [hs.lookup_eq, ← List.map_reverse, List.find?_map, Option.map_map]
  exact Option.map_id'

/-- `GetAttributeCount` counts the attributes of the message. -/
theorem Parsed.getAttributeCount_eq (h : Parsed allowLegacy bs ts r) :
    r.getAttributeCount = ts.length := by
  obtain ⟨order, hs, -⟩ := h.attributes.table
  rw [getAttributeCount, FastHash.getSize, hs.size_eq]
  simp [records]

/-- `GetAttributeByIndex` gives the record of the attribute at the index, and fails beyond the last.
-/
theorem Parsed.getAttributeByIndex_eq (h : Parsed allowLegacy bs ts r) (i : ℕ) :
    r.getAttributeByIndex i =
      match (records ts)[i]? with
      | none => .error E_FAIL
      | some a => .ok a := by
  obtain ⟨order, hs, hx⟩ := h.attributes.table
  have hvalue : (r.mapAttributes.lookupValueByIndex i).1 = (records ts)[i]? := by
    rw [FastHash.lookupValueByIndex, hx.lookupByIndex_eq hs.nodes_eq]
    simp [Function.comp_def]
  cases hrec : (records ts)[i]? with
  | none => simp [getAttributeByIndex, hvalue, hrec]
  | some a => simp [getAttributeByIndex, hvalue, hrec]

/-- `GetAttributeByType` gives the record of the last attribute of the type, and fails without one.
-/
theorem Parsed.getAttributeByType_eq (h : Parsed allowLegacy bs ts r) (attributeType : UInt16) :
    r.getAttributeByType attributeType =
      match (records ts).reverse.find? (·.attributeType = attributeType) with
      | none => .error E_FAIL
      | some a => .ok a := by
  have hlookup := h.lookup_eq attributeType
  cases hlast : (records ts).reverse.find? (·.attributeType = attributeType) with
  | none => simp [getAttributeByType, hlookup, hlast]
  | some a => simp [getAttributeByType, hlookup, hlast]

/-- Either no attribute has a type, or there is a last one. -/
theorem exists_last (attributeType : UInt16) (ts : List WireAttribute) :
    (∀ x ∈ ts, x.type ≠ attributeType) ∨ ∃ before t after, ts = before ++ t :: after ∧
      t.type = attributeType ∧ ∀ x ∈ after, x.type ≠ attributeType := by
  induction ts using List.reverseRecOn with
  | nil => exact .inl (by simp)
  | append_singleton ts t ih =>
    by_cases ht : t.type = attributeType
    · exact .inr ⟨ts, t, [], rfl, ht, by simp⟩
    · rcases ih with hnone | ⟨before, u, after, rfl, hu, hafter⟩
      · refine .inl fun x hx => ?_
        rcases List.mem_append.mp hx with hx | hx
        · exact hnone x hx
        · rw [List.mem_singleton.mp hx]
          exact ht
      · refine .inr ⟨before, u, after ++ [t], by simp, hu, fun x hx => ?_⟩
        rcases List.mem_append.mp hx with hx | hx
        · exact hafter x hx
        · rw [List.mem_singleton.mp hx]
          exact ht

/-- The index of the last attribute of a type is the number of attributes before it. -/
theorem lastIndex_eq {attributeType : UInt16} {before after : List WireAttribute}
    {t : WireAttribute}
    (ht : t.type = attributeType) (hafter : ∀ x ∈ after, x.type ≠ attributeType) :
    lastIndex attributeType (before ++ t :: after) = before.length := by
  induction after using List.reverseRecOn with
  | nil => rw [lastIndex_append_singleton, if_pos ht]
  | append_singleton after u ih =>
    have hu : u.type ≠ attributeType := hafter u (by simp)
    rw [← List.cons_append, ← List.append_assoc, lastIndex_append_singleton, if_neg hu]
    exact ih fun x hx => hafter x (by simp [hx])

/-- The index of the last attribute of a type that no attribute has is -1. -/
theorem lastIndex_eq_neg_one {attributeType : UInt16} {ts : List WireAttribute}
    (h : ∀ x ∈ ts, x.type ≠ attributeType) : lastIndex attributeType ts = -1 := by
  induction ts using List.reverseRecOn with
  | nil => rfl
  | append_singleton ts t ih =>
    rw [lastIndex_append_singleton, if_neg (h t (by simp))]
    exact ih fun x hx => h x (by simp [hx])

/-- The records of a message are those before one of its attributes, its own, and those after it. -/
theorem records_append_cons (before after : List WireAttribute) (t : WireAttribute) :
    records (before ++ t :: after) = records before ++
      record (endOfAttributes before + 4, t) ::
        (Tlv.located (t.endOf (endOfAttributes before)) after).map record := by
  simp only [records, Tlv.located_append, List.map_append, Tlv.located, List.map_cons]
  rfl

/-- The types of located records are those of the attributes. -/
theorem exists_of_mem_located {p : ℕ} {ts : List WireAttribute} {a : StunAttribute}
    (h : a ∈ (Tlv.located p ts).map record) : ∃ t ∈ ts, a.attributeType = t.type := by
  obtain ⟨⟨q, t⟩, hmem, rfl⟩ := List.mem_map.mp h
  obtain ⟨before, after, rfl, -⟩ := Tlv.located_spec hmem
  exact ⟨t, by simp, rfl⟩

/-- The table finds the last attribute of a type. -/
theorem Parsed.lookup_last {before after : List WireAttribute} {t : WireAttribute}
    (h : Parsed allowLegacy bs (before ++ t :: after) r)
    (hafter : ∀ x ∈ after, x.type ≠ t.type) :
    r.mapAttributes.lookup t.type = some (record (endOfAttributes before + 4, t)) := by
  rw [h.lookup_eq, records_append_cons, List.reverse_append, List.reverse_cons, List.append_assoc,
    List.find?_append, List.find?_eq_none.mpr, Option.none_or, List.singleton_append,
    List.find?_cons_of_pos (by simp [record])]
  intro a ha
  obtain ⟨u, hu, htype⟩ := exists_of_mem_located (List.mem_reverse.mp ha)
  simpa [htype] using hafter u hu

/-- The table finds nothing for a type that no attribute has. -/
theorem Parsed.lookup_none (h : Parsed allowLegacy bs ts r) {attributeType : UInt16}
    (hnone : ∀ x ∈ ts, x.type ≠ attributeType) : r.mapAttributes.lookup attributeType = none := by
  rw [h.lookup_eq, List.find?_eq_none]
  intro a ha
  obtain ⟨t, ht, htype⟩ := exists_of_mem_located (List.mem_reverse.mp ha)
  simpa [htype] using hnone t ht

/-- An attribute lies within the message. -/
theorem Parsed.endOf_le (h : Parsed allowLegacy bs ts r) {before after : List WireAttribute}
    {t : WireAttribute} (hts : ts = before ++ t :: after) :
    endOfAttributes before + 4 + t.value.length + padLength 4 t.value.length ≤ bs.length := by
  have hbody := h.length_body
  rw [hts, Tlv.encodeAll_append, Tlv.encodeAll_cons, List.length_append, List.length_append,
    Tlv.length_encode] at hbody
  unfold endOfAttributes
  omega

/-- The size and offset of a record do not overflow. -/
theorem Parsed.record_toNat (h : Parsed allowLegacy bs ts r) {before after : List WireAttribute}
    {t : WireAttribute} (hts : ts = before ++ t :: after) :
    (record (endOfAttributes before + 4, t)).size.toNat = t.value.length ∧
      (record (endOfAttributes before + 4, t)).offset.toNat = endOfAttributes before + 4 := by
  have hle := h.length_le
  have hend := h.endOf_le hts
  have hsize : (UInt16.ofNat t.value.length).toNat = t.value.length := by
    rw [UInt16.toNat_ofNat', Nat.mod_eq_of_lt (by omega)]
  have hoffset : (UInt16.ofNat (endOfAttributes before + 4)).toNat =
      endOfAttributes before + 4 := by
    rw [UInt16.toNat_ofNat', Nat.mod_eq_of_lt (by omega)]
  exact ⟨hsize, hoffset⟩

/-- The octets of the buffer within the message are those of the message. -/
theorem Parsed.dataAt_eq (h : Parsed allowLegacy bs ts r) {q n : ℕ} (hq : q + n ≤ bs.length) :
    r.dataAt q n = (bs.drop q).take n := by
  obtain ⟨cap, p, hh⟩ := h.live.holds
  have htake := hh.take_data
  rw [dataAt]
  generalize r.stream.getDataPointerUnsafe.getD [] = data at htake
  rw [← htake, List.drop_take, List.take_take, min_eq_left (by omega)]

/-- The message from the value of an attribute on is the value, its padding and the attributes after
it. -/
theorem Parsed.drop_value (h : Parsed allowLegacy bs ts r) {before after : List WireAttribute}
    {t : WireAttribute} (hts : ts = before ++ t :: after) :
    bs.drop (endOfAttributes before + 4) = t.value ++ (t.padding ++ Tlv.encodeAll after) := by
  rw [endOfAttributes, Nat.add_assoc, ← List.drop_drop, h.body, hts, Tlv.encodeAll_append,
    ← List.drop_drop, List.drop_left, Tlv.encodeAll_cons, Tlv.drop_encode_append]

/-- The value of an attribute, read from the buffer. -/
theorem Parsed.dataAt_value (h : Parsed allowLegacy bs ts r) {before after : List WireAttribute}
    {t : WireAttribute} (hts : ts = before ++ t :: after) :
    r.dataAt (endOfAttributes before + 4) t.value.length = t.value := by
  have hend := h.endOf_le hts
  rw [h.dataAt_eq (by omega), h.drop_value hts, List.take_left]

end Getters

/-! ## What a message reads as -/

/-- The getters of the reader answer from the attributes `ts` of the message `bs`: by index in their
order on the wire, and by type with the last one. -/
structure Reads (bs : List UInt8) (ts : List WireAttribute) (r : CStunMessageReader) : Prop where
  /-- The attributes are those of the body. -/
  body : bs.drop STUN_HEADER_SIZE = Tlv.encodeAll ts
  /-- `GetAttributeCount`. -/
  count : r.getAttributeCount = ts.length
  /-- `GetAttributeByIndex` gives the type, size and offset of the attribute on the wire. -/
  byIndex : ∀ i (hi : i < ts.length), ∃ a, r.getAttributeByIndex i = .ok a ∧
    a.attributeType = ts[i].type ∧ a.size.toNat = ts[i].value.length ∧
    a.offset.toNat = STUN_HEADER_SIZE + (Tlv.encodeAll (ts.take i)).length + 4 ∧
    (bs.drop a.offset.toNat).take a.size.toNat = ts[i].value
  /-- `GetAttributeByIndex` fails where there is no attribute. -/
  byIndex_error : ∀ i : ℤ, i < 0 ∨ ts.length ≤ i → r.getAttributeByIndex i = .error E_FAIL
  /-- `GetAttributeByType` gives the last attribute of the type. -/
  byType : ∀ before t after, ts = before ++ t :: after → (∀ x ∈ after, x.type ≠ t.type) →
    r.getAttributeByType t.type = r.getAttributeByIndex before.length
  /-- `GetAttributeByType` fails exactly when there is no attribute of the type. -/
  byType_error : ∀ t, (∃ hr, r.getAttributeByType t = .error hr) ↔ ∀ x ∈ ts, x.type ≠ t

section Reads

variable {allowLegacy : Bool} {bs : List UInt8} {ts : List WireAttribute} {r : CStunMessageReader}

/-- The record at an index lies after the header and the attributes before it. -/
theorem getElem?_records (ts : List WireAttribute) (i : ℕ) :
    (records ts)[i]? =
      ts[i]?.map fun t =>
        record (STUN_HEADER_SIZE + (Tlv.encodeAll (ts.take i)).length + 4, t) := by
  rw [records, List.getElem?_map, Tlv.getElem?_located, Option.map_map]
  rfl

/-- The attribute at an index: its record, which gives its type, and its size and offset without
overflow. -/
theorem Parsed.byIndex (h : Parsed allowLegacy bs ts r) (i : ℕ) (hi : i < ts.length) :
    ∃ a, r.getAttributeByIndex i = .ok a ∧ a.attributeType = ts[i].type ∧
      a.size.toNat = ts[i].value.length ∧ a.offset.toNat = endOfAttributes (ts.take i) + 4 := by
  have hsplit : ts = ts.take i ++ ts[i] :: ts.drop (i + 1) := by
    rw [List.getElem_cons_drop, List.take_append_drop]
  obtain ⟨hsize, hoffset⟩ := h.record_toNat hsplit
  refine ⟨record (endOfAttributes (ts.take i) + 4, ts[i]), ?_, rfl, hsize, hoffset⟩
  rw [h.getAttributeByIndex_eq, getElem?_records, List.getElem?_eq_getElem hi]
  rfl

/-- The value of the attribute at an index, read from the buffer. -/
theorem Parsed.byIndex_dataAt (h : Parsed allowLegacy bs ts r) (i : ℕ) (hi : i < ts.length) :
    ∃ a, r.getAttributeByIndex i = .ok a ∧ a.attributeType = ts[i].type ∧
      r.dataAt a.offset.toNat a.size.toNat = ts[i].value := by
  have hsplit : ts = ts.take i ++ ts[i] :: ts.drop (i + 1) := by
    rw [List.getElem_cons_drop, List.take_append_drop]
  obtain ⟨a, hindex, htype, hsize, hoffset⟩ := h.byIndex i hi
  refine ⟨a, hindex, htype, ?_⟩
  rw [hsize, hoffset]
  exact h.dataAt_value hsplit

/-- The getters of a reader that has parsed a message answer from its attributes. -/
theorem Parsed.reads (h : Parsed allowLegacy bs ts r) : Reads bs ts r := by
  refine ⟨h.body, h.getAttributeCount_eq, ?_, ?_, ?_, ?_⟩
  · intro i hi
    have hsplit : ts = ts.take i ++ ts[i] :: ts.drop (i + 1) := by
      rw [List.getElem_cons_drop, List.take_append_drop]
    obtain ⟨a, hindex, htype, hsize, hoffset⟩ := h.byIndex i hi
    refine ⟨a, hindex, htype, hsize, hoffset, ?_⟩
    rw [hsize, hoffset, h.drop_value hsplit, List.take_left]
  · intro i hi
    rcases lt_or_ge i 0 with hneg | hpos
    · rw [getAttributeByIndex, if_pos hneg]
    · obtain ⟨n, rfl⟩ := Int.eq_ofNat_of_zero_le hpos
      have hnone : ts[n]? = none := List.getElem?_eq_none (by omega)
      rw [h.getAttributeByIndex_eq, getElem?_records, hnone]
      rfl
  · -- The table has the last attribute of a type.
    rintro before t after rfl hafter
    rw [getAttributeByType, h.lookup_last hafter, h.getAttributeByIndex_eq, records_append_cons,
      List.getElem?_append_right (by simp [records])]
    simp [records]
  · intro attributeType
    rcases exists_last attributeType ts with hnone | ⟨before, t, after, rfl, rfl, hafter⟩
    · rw [getAttributeByType, h.lookup_none hnone]
      exact ⟨fun _ => hnone, fun _ => ⟨_, rfl⟩⟩
    · rw [getAttributeByType, h.lookup_last hafter]
      refine ⟨?_, fun hall => absurd rfl (hall t (by simp))⟩
      rintro ⟨hr, herr⟩
      cases herr

end Reads

/-! ## Chunks -/

/-- A reader that a caller has made ready for a message: reset, with `SetAllowLegacyFormat`, and,
when there is a buffer to read into, with its stream attached to it. -/
def ready (fAllowLegacyFormat : Bool) (buf : Option CBuffer) (r : CStunMessageReader) :
    CStunMessageReader :=
  let r := r.reset.setAllowLegacyFormat fAllowLegacyFormat
  match buf with
  | none => r
  | some buf => r.attachStream buf

/-- A reader that was made ready has been fed nothing. -/
theorem fed_ready (fAllow : Bool) (buf : Option CBuffer) (r : CStunMessageReader) :
    Fed fAllow [] (r.ready fAllow buf) := by
  have h := (fresh_reset r).setAllowLegacyFormat fAllow
  cases buf with
  | none => exact h.fed
  | some buf => exact (h.attachStream buf).fed

/-- A ready reader after one call of `AddBytes`. -/
theorem fed_addBytes (fAllow : Bool) (buf : Option CBuffer) (r : CStunMessageReader)
    (bs : List UInt8) : Fed fAllow bs ((r.ready fAllow buf).addBytes bs).2 := by
  simpa using (fed_ready fAllow buf r).addBytes bs

/-- A ready reader after several calls of `AddBytes`. -/
theorem fed_addChunks (fAllow : Bool) (buf : Option CBuffer) (r : CStunMessageReader)
    (chunks : List (List UInt8)) :
    Fed fAllow chunks.flatten ((r.ready fAllow buf).addChunks chunks) := by
  simpa using (fed_ready fAllow buf r).addChunks chunks

/-- Two readers with the same message. -/
structure SameMessage (r r' : CStunMessageReader) : Prop where
  msgClass : r.msgClass = r'.msgClass
  msgTypeNormalized : r.msgTypeNormalized = r'.msgTypeNormalized
  transactionid : r.transactionid = r'.transactionid
  fMessageIsLegacyFormat : r.fMessageIsLegacyFormat = r'.fMessageIsLegacyFormat
  contents : r.stream.contents = r'.stream.contents
  countAttributes : r.countAttributes = r'.countAttributes
  indexFingerprint : r.indexFingerprint = r'.indexFingerprint
  indexMessageIntegrity : r.indexMessageIntegrity = r'.indexMessageIntegrity
  byType : ∀ t, r.getAttributeByType t = r'.getAttributeByType t
  byIndex : ∀ i, r.getAttributeByIndex i = r'.getAttributeByIndex i

/-- Two readers that have parsed the same octets have the same message. -/
theorem Parsed.sameMessage {allowLegacy : Bool} {bs : List UInt8} {ts us : List WireAttribute}
    {r r' : CStunMessageReader} (h : Parsed allowLegacy bs ts r)
    (h' : Parsed allowLegacy bs us r') :
    SameMessage r r' := by
  obtain rfl := h.unique h'
  refine ⟨?_, ?_, ?_, ?_, ?_, ?_, ?_, ?_, ?_, ?_⟩
  · rw [h.header.class_eq, h'.header.class_eq]
  · rw [h.header.type, h'.header.type]
  · rw [h.header.transid, h'.header.transid]
  · rw [h.header.legacy, h'.header.legacy]
  · rw [h.contents_eq, h'.contents_eq]
  · rw [h.attributes.count, h'.attributes.count]
  · rw [h.attributes.fingerprint, h'.attributes.fingerprint]
  · rw [h.attributes.integrity, h'.attributes.integrity]
  · intro t
    rw [h.getAttributeByType_eq, h'.getAttributeByType_eq]
  · intro i
    rcases lt_or_ge i 0 with hneg | hpos
    · rw [getAttributeByIndex, getAttributeByIndex, if_pos hneg, if_pos hneg]
    · obtain ⟨n, rfl⟩ := Int.eq_ofNat_of_zero_le hpos
      rw [h.getAttributeByIndex_eq, h'.getAttributeByIndex_eq]

/-- Pieces that are empty do not matter. -/
theorem addChunks_filter (chunks : List (List UInt8)) (r : CStunMessageReader) :
    r.addChunks (chunks.filter (· ≠ [])) = r.addChunks chunks := by
  induction chunks generalizing r with
  | nil => rfl
  | cons c chunks ih =>
    by_cases hc : c = []
    · have hskip : r.addChunks (c :: chunks) = (r.addBytes c).2.addChunks chunks := rfl
      rw [hskip, hc, addBytes_nil, List.filter_cons_of_neg (by simp)]
      exact ih r
    · rw [List.filter_cons_of_pos (by simpa using hc)]
      exact ih (r.addBytes c).2

/-- However a string is cut into pieces, the reader ends as if it had been fed in one call, and
empty pieces change nothing. -/
theorem addChunks_eq_addBytes (r₀ : CStunMessageReader) (fAllow : Bool) (buf : Option CBuffer)
    (chunks : List (List UInt8)) :
    let r := (r₀.ready fAllow buf).addChunks chunks
    let r' := ((r₀.ready fAllow buf).addBytes chunks.flatten).2
    r.state = r'.state ∧ (r.state = .bodyValidated → SameMessage r r') ∧
      (r₀.ready fAllow buf).addChunks (chunks.filter (· ≠ [])) = r := by
  intro r r'
  have h : Fed fAllow chunks.flatten r := fed_addChunks fAllow buf r₀ chunks
  have h' : Fed fAllow chunks.flatten r' := fed_addBytes fAllow buf r₀ chunks.flatten
  refine ⟨h.state_eq h', fun hstate => ?_, addChunks_filter chunks _⟩
  obtain ⟨ts, hp⟩ := h.parsed hstate
  obtain ⟨us, hp'⟩ := h'.parsed ((h.state_eq h').symm.trans hstate)
  exact hp.sameMessage hp'

/-- The reader accepts the grammar and nothing else, and its getters answer from the attributes on
the wire. -/
theorem addChunks_accepts_iff (r₀ : CStunMessageReader) (fAllow : Bool) (buf : Option CBuffer)
    (chunks : List (List UInt8)) :
    let r := (r₀.ready fAllow buf).addChunks chunks
    (r.state = .bodyValidated ↔ Accepts fAllow chunks.flatten) ∧
      (r.state = .bodyValidated → ∃ ts, Reads chunks.flatten ts r) := by
  intro r
  have h : Fed fAllow chunks.flatten r := fed_addChunks fAllow buf r₀ chunks
  refine ⟨h.bodyValidated_iff, fun hstate => ?_⟩
  obtain ⟨ts, hp⟩ := h.parsed hstate
  exact ⟨ts, hp.reads⟩

end CStunMessageReader

end Stun
