import StunForAndroid.Lib.Logged
import StunForAndroid.StunCore.BuilderCalls

/-!
# What the getters read

A getter looks an attribute up and reads its value through a pointer into the stream. Each getter is
given here with a log of its reads, as the getter that it is but for the log
(`Getter.answer_logged`). Every read is inside the value that it is of and inside the message, but
for those of `GetErrorCode`, which does not look at the size (`Getter.reads_inside_iff`).
-/

namespace Stun

open Octets Fallible CDataStream

/-- A read of `count` octets at the position `start` of the message. A read of the value of an
attribute is for this attribute, and any other one for the message. -/
structure StreamRead where
  attrib : Option StunAttribute
  start : ℕ
  count : ℕ

/-- The read is inside a message of `size` octets and, for an attribute, inside its value. -/
def StreamRead.Inside (size : ℕ) (x : StreamRead) : Prop :=
  x.start + x.count ≤ size ∧ ∀ a, x.attrib = some a →
    a.offset.toNat ≤ x.start ∧ x.start + x.count ≤ a.offset.toNat + a.size.toNat

/-- A read within a value that is inside the message is inside it. -/
theorem StreamRead.inside_value {size k n : ℕ} {a : StunAttribute}
    (hend : a.offset.toNat + a.size.toNat ≤ size) (hk : k + n ≤ a.size.toNat) :
    (⟨some a, a.offset.toNat + k, n⟩ : StreamRead).Inside size := by
  refine ⟨show a.offset.toNat + k + n ≤ size by omega, ?_⟩
  rintro _ ⟨⟩
  exact ⟨Nat.le_add_right _ _, show a.offset.toNat + k + n ≤ _ by omega⟩

/-- A read that ends within the message is inside it. -/
theorem StreamRead.inside_message {size p n : ℕ} (h : p + n ≤ size) :
    (⟨none, p, n⟩ : StreamRead).Inside size :=
  ⟨h, by simp⟩

/-- The reads that were made. -/
abbrev ReadLog : Type := List StreamRead

/-! ## Reading a stream -/

namespace CDataStream

/-- A stream with its reads: the position and the number of octets of each. -/
abbrev Reading : Type := Logged CDataStream (ℕ × ℕ)

/-- `Read`, which copies from the position of the cursor when there is enough left. -/
def readLogged (size : ℕ) : Fallible Reading (List UInt8) :=
  logging (fun s => (s.pos, size)) (read size)

/-- `SeekDirect`. -/
def seekDirectLogged (pos : ℕ) : Fallible Reading Unit := silent (seekDirect pos)

/-- `ReadUint8`. -/
def readUint8Logged : Fallible Reading UInt8 := do
  return UInt8.ofNat (ofLE (← readLogged 1))

/-- `ReadUint16`. -/
def readUint16Logged : Fallible Reading UInt16 := do
  return UInt16.ofNat (ofLE (← readLogged 2))

/-- `ReadUint32`. -/
def readUint32Logged : Fallible Reading UInt32 := do
  return UInt32.ofNat (ofLE (← readLogged 4))

/-- `ReadUint8` with a log is `ReadUint8`, but for the log. -/
theorem forgets_readUint8 : Forgets readUint8Logged readUint8 :=
  (forgets_logging _ _).bind fun _ => .pure _

/-- `ReadUint16` with a log is `ReadUint16`, but for the log. -/
theorem forgets_readUint16 : Forgets readUint16Logged readUint16 :=
  (forgets_logging _ _).bind fun _ => .pure _

/-- `ReadUint32` with a log is `ReadUint32`, but for the log. -/
theorem forgets_readUint32 : Forgets readUint32Logged readUint32 :=
  (forgets_logging _ _).bind fun _ => .pure _

/-- The stream has `size` octets, and the reads were inside it. -/
def ReadsInside (size : ℕ) (t : Reading) : Prop :=
  t.state.getSize = size ∧ ∀ x ∈ t.log, x.1 + x.2 ≤ size

/-- A read is inside the stream. -/
theorem keeps_readLogged (size n : ℕ) : Keeps (ReadsInside size) (readLogged n) := by
  rintro ⟨s, log⟩ ⟨hsize, hlog⟩
  unfold finalState readLogged logging read
  dsimp only at hsize hlog ⊢
  split_ifs with hroom
  · exact ⟨hsize, hlog⟩
  · refine ⟨hsize, fun x hx => ?_⟩
    rcases List.mem_append.mp hx with hx | hx
    · exact hlog x hx
    · rw [List.mem_singleton.mp hx]
      dsimp only
      omega

/-- A seek reads nothing. -/
theorem keeps_seekDirectLogged (size pos : ℕ) :
    Keeps (ReadsInside size) (seekDirectLogged pos) := by
  rintro ⟨s, log⟩ ⟨hsize, hlog⟩
  unfold finalState seekDirectLogged silent seekDirect
  dsimp only at hsize hlog ⊢
  split_ifs
  · exact ⟨hsize, hlog⟩
  · exact ⟨hsize, hlog⟩

/-- The read of an octet is inside the stream. -/
theorem keeps_readUint8Logged (size : ℕ) : Keeps (ReadsInside size) readUint8Logged :=
  (keeps_readLogged size 1).bind fun _ => .pure _

/-- The read of a word is inside the stream. -/
theorem keeps_readUint16Logged (size : ℕ) : Keeps (ReadsInside size) readUint16Logged :=
  (keeps_readLogged size 2).bind fun _ => .pure _

/-- The read of a double word is inside the stream. -/
theorem keeps_readUint32Logged (size : ℕ) : Keeps (ReadsInside size) readUint32Logged :=
  (keeps_readLogged size 4).bind fun _ => .pure _

end CDataStream

/-- `GetMappedAddress` of `stunutils.cpp`, with the reads of its stream. -/
def getMappedAddressLogged : Fallible Reading CSocketAddress := do
  seekDirectLogged 1
  let attributeid ← readUint8Logged
  let port ← readUint16Logged
  let port := ntohs port
  if attributeid = STUN_ATTRIBUTE_FIELD_IPV4 then
    let ip4 ← readUint32Logged
    return CSocketAddress.ofHostByteOrder (ntohl ip4) port
  else
    let ip6 ← readLogged 16
    return ⟨IPAddress.ofOctets .inet6 ip6, htons port⟩

/-- `GetMappedAddress` of `stunutils.cpp` with a log is the function without, but for the log. -/
theorem forgets_getMappedAddress : Forgets getMappedAddressLogged getMappedAddressImpl :=
  (forgets_silent _).bind fun _ => forgets_readUint8.bind fun _ => forgets_readUint16.bind fun _ =>
    .ite (forgets_readUint32.bind fun _ => .pure _) ((forgets_logging _ _).bind fun _ => .pure _)

/-- The reads of an address are inside the stream. -/
theorem keeps_getMappedAddress (size : ℕ) : Keeps (ReadsInside size) getMappedAddressLogged :=
  (keeps_seekDirectLogged size 1).bind fun _ => (keeps_readUint8Logged size).bind fun _ =>
    (keeps_readUint16Logged size).bind fun _ =>
      .ite ((keeps_readUint32Logged size).bind fun _ => .pure _)
        ((keeps_readLogged size 16).bind fun _ => .pure _)

namespace CStunMessageReader

/-! ## Reading the message -/

/-- The attribute of a type. -/
def findAttribute (attributeType : UInt16) (hr : HRESULT) (r : CStunMessageReader) :
    Fallible ReadLog StunAttribute :=
  match r.mapAttributes.lookup attributeType with
  | none => throw hr
  | some pAttrib => pure pAttrib

/-- `n` octets from the octet `k` of the value of an attribute, wherever they are. -/
def fetch (pAttrib : StunAttribute) (k n : ℕ) (r : CStunMessageReader) :
    Fallible ReadLog (List UInt8) := fun log =>
  .ok (r.dataAt (pAttrib.offset.toNat + k) n) (log ++ [⟨some pAttrib, pAttrib.offset.toNat + k, n⟩])

/-- The first `n` octets of the message. -/
def fetchMessage (n : ℕ) (r : CStunMessageReader) : Fallible ReadLog (List UInt8) := fun log =>
  .ok (r.dataAt 0 n) (log ++ [⟨none, 0, n⟩])

/-- The reads of a stream over the message from the position `start` on. -/
def readsFrom (attrib : Option StunAttribute) (start : ℕ) (reads : List (ℕ × ℕ)) : ReadLog :=
  reads.map fun x => ⟨attrib, start + x.1, x.2⟩

/-- A computation on a new stream over the message from the position `start` on. -/
def readFrom {α : Type} (attrib : Option StunAttribute) (start : ℕ) (s : CDataStream)
    (m : Fallible Reading α) : Fallible ReadLog α := fun log =>
  match m ⟨s, []⟩ with
  | .ok a t => .ok a (log ++ readsFrom attrib start t.log)
  | .error hr t => .error hr (log ++ readsFrom attrib start t.log)

/-- A second attempt after a first that has failed. -/
def orElse {α : Type} (m m' : Fallible ReadLog α) : Fallible ReadLog α := fun log =>
  match m log with
  | .ok a log => .ok a log
  | .error _ log => m' log

/-- `SUCCEEDED` of a computation. -/
def hasSucceeded (m : Fallible ReadLog Unit) : Fallible ReadLog Bool := fun log =>
  match m log with
  | .ok _ log => .ok true log
  | .error _ log => .ok false log

/-! ## The getters with their reads -/

/-- `GetResponsePort`. -/
def getResponsePortLogged (r : CStunMessageReader) : Fallible ReadLog UInt16 := do
  let pAttrib ← r.findAttribute STUN_ATTRIBUTE_RESPONSE_PORT E_FAIL
  chkIf (pAttrib.size ≠ STUN_ATTRIBUTE_RESPONSE_PORT_SIZE) E_UNEXPECTED
  return ntohs (UInt16.ofNat (ofLE (← r.fetch pAttrib 0 2)))

/-- `GetChangeRequest`. -/
def getChangeRequestLogged (r : CStunMessageReader) :
    Fallible ReadLog StunChangeRequestAttribute := do
  let pAttrib ← r.findAttribute STUN_ATTRIBUTE_CHANGEREQUEST E_FAIL
  chkIf (pAttrib.size ≠ STUN_ATTRIBUTE_CHANGEREQUEST_SIZE) E_UNEXPECTED
  let value := ntohl (UInt32.ofNat (ofLE (← r.fetch pAttrib 0 4)))
  return ⟨value &&& 0x0004 != 0, value &&& 0x0002 != 0⟩

/-- `GetPaddingAttributeSize`. -/
def getPaddingAttributeSizeLogged (r : CStunMessageReader) : Fallible ReadLog UInt16 := do
  let pAttrib ← r.findAttribute STUN_ATTRIBUTE_PADDING E_FAIL
  return pAttrib.size

/-- `GetErrorCode`, which does not look at the size. -/
def getErrorCodeLogged (r : CStunMessageReader) : Fallible ReadLog UInt16 := do
  let pAttrib ← r.findAttribute STUN_ATTRIBUTE_ERRORCODE E_FAIL
  let ptr ← r.fetch pAttrib 2 2
  let cl := ptr.getD 0 0 &&& 0x07
  let num := ptr.getD 1 0
  return cl.toUInt16 * 100 + num.toUInt16

/-- `GetAddressHelper`, which makes a stream of the value. -/
def getAddressHelperLogged (attribType : UInt16) (r : CStunMessageReader) :
    Fallible ReadLog CSocketAddress := do
  let pAttrib ← r.findAttribute attribType E_FAIL
  let pAddrStart := r.dataAt pAttrib.offset.toNat pAttrib.size.toNat
  readFrom (some pAttrib) pAttrib.offset.toNat
    { spBuffer := some (CBuffer.initNoAlloc pAddrStart) } getMappedAddressLogged

/-- `GetOtherAddress`. -/
def getOtherAddressLogged (r : CStunMessageReader) : Fallible ReadLog CSocketAddress :=
  orElse (r.getAddressHelperLogged STUN_ATTRIBUTE_OTHER_ADDRESS)
    (r.getAddressHelperLogged STUN_ATTRIBUTE_CHANGEDADDRESS)

/-- `GetXorMappedAddress`. -/
def getXorMappedAddressLogged (r : CStunMessageReader) : Fallible ReadLog CSocketAddress := do
  let addr ← orElse (r.getAddressHelperLogged STUN_ATTRIBUTE_XORMAPPEDADDRESS)
    (r.getAddressHelperLogged STUN_ATTRIBUTE_XORMAPPEDADDRESS_OPTIONAL)
  return addr.applyStunXorMap r.transactionid

/-- `GetResponseOriginAddress`. -/
def getResponseOriginAddressLogged (r : CStunMessageReader) : Fallible ReadLog CSocketAddress :=
  orElse (r.getAddressHelperLogged STUN_ATTRIBUTE_RESPONSE_ORIGIN)
    (r.getAddressHelperLogged STUN_ATTRIBUTE_SOURCEADDRESS)

/-- `GetStringAttributeByType`. -/
def getStringAttributeByTypeLogged (attributeType : UInt16) (size : ℕ) (r : CStunMessageReader) :
    Fallible ReadLog (List UInt8) := do
  let pAttrib ← r.findAttribute attributeType E_INVALIDARG
  chkIf (pAttrib.size.toNat ≥ size) E_INVALIDARG
  return (← r.fetch pAttrib 0 pAttrib.size.toNat) ++ [0]

/-- `IsFingerprintAttributeValid`, up to its label. -/
def checkFingerprintLogged (D : Digests) (r : CStunMessageReader) : Fallible ReadLog Unit := do
  let pAttrib ← r.findAttribute STUN_ATTRIBUTE_FINGERPRINT E_FAIL
  chkIf (pAttrib.attributeType ≠ STUN_ATTRIBUTE_FINGERPRINT) E_FAIL
  chkIf (pAttrib.size ≠ 4) E_FAIL
  chkIf (r.state ≠ .bodyValidated) E_FAIL
  chkIf r.stream.getBuffer.isNone E_FAIL
  let size := r.stream.getSize
  chkIf (size < STUN_HEADER_SIZE) E_FAIL
  let computedValue := D.crc32 (← r.fetchMessage (size - 8)) ^^^ STUN_FINGERPRINT_XOR
  let readValue := ntohl (UInt32.ofNat (ofLE (← r.fetch pAttrib 0 4)))
  chkIf (readValue != computedValue) E_FAIL

/-- The loop of `ValidateMessageIntegrity` over the words of the message. -/
def hashChunksLogged : ℕ → HMAC_CTX → Fallible Reading HMAC_CTX
  | 0, ctx => pure ctx
  | nChunks + 1, ctx => do
    let chunk32 ← readUint32Logged
    hashChunksLogged nChunks (ctx.update (toLE 4 chunk32.toNat))

/-- The hash of `ValidateMessageIntegrity`. -/
def hashMessageLogged (key : List UInt8) (fFingerprintAdjustment : Bool) (offset : ℕ) :
    Fallible Reading HMAC_CTX := do
  let ctx : HMAC_CTX := { key := key }
  let chunk16 ← readUint16Logged
  let ctx := ctx.update (toLE 2 chunk16.toNat)
  let chunk16 ← readUint16Logged
  let chunk16 := if fFingerprintAdjustment then htons (ntohs chunk16 - 8) else chunk16
  let ctx := ctx.update (toLE 2 chunk16.toNat)
  let len := offset - 4 - 4
  hashChunksLogged (len / 4) ctx

/-- `ValidateMessageIntegrity`. -/
def validateMessageIntegrityLogged (D : Digests) (key : List UInt8) (r : CStunMessageReader) :
    Fallible ReadLog Unit := do
  chkIf (r.state ≠ .bodyValidated) E_FAIL
  chkIf (r.countAttributes = 0) E_FAIL
  chkIf (r.indexMessageIntegrity = -1) E_FAIL
  chkIf (key.length = 0) E_INVALIDARG
  let pAttribIntegrity ← r.findAttribute STUN_ATTRIBUTE_MESSAGEINTEGRITY E_FAIL
  chkIf (pAttribIntegrity.size ≠ 20) E_FAIL
  chkIf (r.noOtherAttributesAfterIntegrity = false) E_FAIL
  let fFingerprintAdjustment := r.indexMessageIntegrity == r.countAttributes - 1 - 1
  match r.stream.getBuffer with
  | none => throw E_FAIL
  | some spBuffer =>
    let ctx ← readFrom none 0 (({} : CDataStream).attach spBuffer false)
      (hashMessageLogged key fFingerprintAdjustment pAttribIntegrity.offset.toNat)
    let value ← r.fetch pAttribIntegrity 0 20
    chkIf (ctx.final D ≠ value) E_FAIL

/-! ## The getters but for their reads -/

section Answers

variable {α β : Type} {log : ReadLog}

/-- The answer behind a look at the table. -/
theorem answer_findAttribute {attributeType : UInt16} {hr : HRESULT} {r : CStunMessageReader}
    {f : StunAttribute → Fallible ReadLog β} :
    answer (r.findAttribute attributeType hr >>= f) log =
      match r.mapAttributes.lookup attributeType with
      | none => .error hr
      | some pAttrib => answer (f pAttrib) log := by
  unfold findAttribute
  cases r.mapAttributes.lookup attributeType <;> rfl

/-- Behind a check the answer is its error when the condition holds, and else that of the rest. -/
theorem answer_chkIf {cond : Bool} {hr : HRESULT} {f : Unit → Fallible ReadLog β} :
    answer (chkIf cond hr >>= f) log = if cond then .error hr else answer (f ()) log := by
  cases cond <;> rfl

/-- Behind an attribute that is checked the answer is the error of the look or of the check, and
else that of the rest. -/
theorem answer_checkedAttribute {attributeType : UInt16} {hr hr' : HRESULT} {r : CStunMessageReader}
    {cond : StunAttribute → Prop} [DecidablePred cond]
    {f : StunAttribute → Unit → Fallible ReadLog β} :
    answer (r.findAttribute attributeType hr >>= fun pAttrib =>
        chkIf (cond pAttrib) hr' >>= f pAttrib) log =
      match r.mapAttributes.lookup attributeType with
      | none => .error hr
      | some pAttrib => if cond pAttrib then .error hr' else answer (f pAttrib ()) log := by
  rw [answer_findAttribute]
  cases r.mapAttributes.lookup attributeType with
  | none => rfl
  | some pAttrib =>
    dsimp only
    rw [answer_chkIf]
    simp only [decide_eq_true_eq]

/-- The answer behind a read of a value. -/
theorem answer_fetch {pAttrib : StunAttribute} {k n : ℕ} {r : CStunMessageReader}
    {f : List UInt8 → Fallible ReadLog β} :
    answer (r.fetch pAttrib k n >>= f) log =
      answer (f (r.dataAt (pAttrib.offset.toNat + k) n))
        (log ++ [⟨some pAttrib, pAttrib.offset.toNat + k, n⟩]) := rfl

/-- The answer behind a read of the message. -/
theorem answer_fetchMessage {n : ℕ} {r : CStunMessageReader}
    {f : List UInt8 → Fallible ReadLog β} :
    answer (r.fetchMessage n >>= f) log = answer (f (r.dataAt 0 n)) (log ++ [⟨none, 0, n⟩]) := rfl

/-- A computation that succeeds on another stream adds its reads to the log and succeeds. -/
theorem readFrom_ok {attrib : Option StunAttribute} {start : ℕ} {s : CDataStream}
    {m : Fallible Reading α} {a : α} {t : Reading} (h : m ⟨s, []⟩ = .ok a t) :
    readFrom attrib start s m log = .ok a (log ++ readsFrom attrib start t.log) := by
  unfold readFrom
  rw [h]

/-- A computation that fails on another stream adds its reads to the log and fails. -/
theorem readFrom_error {attrib : Option StunAttribute} {start : ℕ} {s : CDataStream}
    {m : Fallible Reading α} {hr : HRESULT} {t : Reading} (h : m ⟨s, []⟩ = .error hr t) :
    readFrom attrib start s m log = .error hr (log ++ readsFrom attrib start t.log) := by
  unfold readFrom
  rw [h]

/-- The answer of a computation on another stream. -/
theorem answer_readFrom {attrib : Option StunAttribute} {start : ℕ} {s : CDataStream}
    {m : Fallible Reading α} : answer (readFrom attrib start s m) log = answer m ⟨s, []⟩ := by
  unfold readFrom answer
  cases m ⟨s, []⟩ <;> rfl

/-- The answer behind a computation on another stream. -/
theorem answer_readFrom_bind {attrib : Option StunAttribute} {start : ℕ} {s : CDataStream}
    {m : Fallible Reading α} {f : α → Fallible ReadLog β} :
    answer (readFrom attrib start s m >>= f) log =
      match m ⟨s, []⟩ with
      | .ok a t => answer (f a) (log ++ readsFrom attrib start t.log)
      | .error hr _ => .error hr := by
  unfold answer
  cases hm : m ⟨s, []⟩ with
  | ok a t => rw [bind_of_ok (readFrom_ok hm)]
  | error hr t => rw [bind_of_error (readFrom_error hm)]

/-- A last check answers its error when the condition holds. -/
theorem answer_chkIf_last {cond : Bool} {hr : HRESULT} :
    answer (chkIf cond hr) log = if cond then .error hr else .ok () := by
  cases cond <;> rfl

/-- Two attempts answer what the first does when it succeeds, and else what the second does. -/
theorem answer_orElse {m m' : Fallible ReadLog α} :
    answer (orElse m m') log = match answer m log with
      | .ok a => .ok a
      | .error _ => answer m' (finalState m log) := by
  unfold orElse answer finalState
  dsimp only
  cases m log <;> rfl

/-- The answer of a value made of another. -/
theorem answer_map {m : Fallible ReadLog α} {f : α → β} :
    answer (m >>= fun a => pure (f a)) log = (answer m log).map f := by
  unfold answer
  cases hm : m log with
  | ok a log' =>
    rw [bind_of_ok hm]
    rfl
  | error hr log' =>
    rw [bind_of_error hm]
    rfl

/-- `hasSucceeded` answers whether the computation has succeeded. -/
theorem answer_hasSucceeded {m : Fallible ReadLog Unit} :
    answer (hasSucceeded m) log = .ok (answer m log).toBool := by
  unfold hasSucceeded answer
  dsimp only
  cases m log <;> rfl

/-- `GetAddressHelper` with a log answers what it does without. -/
theorem answer_getAddressHelper (attribType : UInt16) (r : CStunMessageReader) (log : ReadLog) :
    answer (r.getAddressHelperLogged attribType) log = r.getAddressHelper attribType := by
  unfold getAddressHelperLogged getAddressHelper
  rw [answer_findAttribute]
  cases r.mapAttributes.lookup attribType with
  | none => rfl
  | some pAttrib =>
    dsimp only
    rw [answer_readFrom, forgets_getMappedAddress.answer_eq]
    unfold answer Stun.getMappedAddress
    cases getMappedAddressImpl _ <;> rfl

/-- The loop over the words, but for its reads. -/
theorem forgets_hashChunks (n : ℕ) (ctx : HMAC_CTX) :
    Forgets (hashChunksLogged n ctx) (hashChunks n ctx) := by
  induction n generalizing ctx with
  | zero => exact .pure _
  | succ n ih => exact forgets_readUint32.bind fun _ => ih _

/-- The hash with a log is the hash without, but for the log. -/
theorem forgets_hashMessage (key : List UInt8) (fFingerprintAdjustment : Bool) (offset : ℕ) :
    Forgets (hashMessageLogged key fFingerprintAdjustment offset)
      (hashMessage key fFingerprintAdjustment offset) :=
  forgets_readUint16.bind fun _ => forgets_readUint16.bind fun _ => forgets_hashChunks _ _

/-- `IsFingerprintAttributeValid` with a log answers what it does without. -/
theorem answer_checkFingerprint (D : Digests) (r : CStunMessageReader) (log : ReadLog) :
    (answer (r.checkFingerprintLogged D) log).toBool = r.isFingerprintAttributeValid D := by
  unfold checkFingerprintLogged isFingerprintAttributeValid
  rw [answer_findAttribute]
  cases r.mapAttributes.lookup STUN_ATTRIBUTE_FINGERPRINT with
  | none => rfl
  | some pAttrib =>
    simp only [answer_chkIf, decide_eq_true_eq]
    split_ifs
    case neg =>
      rw [answer_fetchMessage, answer_fetch, answer_chkIf_last, Nat.add_zero, bne]
      cases ntohl _ == _ <;> rfl
    all_goals rfl

/-- `ValidateMessageIntegrity` with a log answers what it does without. -/
theorem answer_validateMessageIntegrity (D : Digests) (key : List UInt8) (r : CStunMessageReader)
    (log : ReadLog) :
    answer (r.validateMessageIntegrityLogged D key) log = r.validateMessageIntegrity D key := by
  unfold validateMessageIntegrityLogged validateMessageIntegrity
  simp only [answer_chkIf, answer_findAttribute, decide_eq_true_eq]
  cases r.mapAttributes.lookup STUN_ATTRIBUTE_MESSAGEINTEGRITY with
  | none => rfl
  | some pAttrib =>
    dsimp only
    cases r.stream.getBuffer with
    | none => rfl
    | some spBuffer =>
      dsimp only
      have hhash := (forgets_hashMessage key (r.indexMessageIntegrity == r.countAttributes - 1 - 1)
        pAttrib.offset.toNat) ⟨attach spBuffer false {}, []⟩
      rw [← hhash]
      split_ifs
      case neg =>
        rw [answer_readFrom_bind]
        cases hashMessageLogged key (r.indexMessageIntegrity == r.countAttributes - 1 - 1)
          pAttrib.offset.toNat ⟨attach spBuffer false {}, []⟩ with
        | error hr t => rfl
        | ok ctx t =>
          dsimp only
          rw [answer_fetch, answer_chkIf_last, Nat.add_zero]
          by_cases hsame : ctx.final D = r.dataAt pAttrib.offset.toNat 20
          · simp [forget, hsame]
          · simp [forget, hsame]
      all_goals rfl

end Answers

/-! ## The reads of the getters -/

/-- All reads were inside a message of `size` octets. -/
def AllInside (size : ℕ) (log : ReadLog) : Prop := ∀ x ∈ log, x.Inside size

/-- A read is added to those before. -/
theorem AllInside.append {size : ℕ} {log log' : ReadLog} (h : AllInside size log)
    (h' : AllInside size log') : AllInside size (log ++ log') := by
  intro x hx
  rcases List.mem_append.mp hx with hx | hx
  · exact h x hx
  · exact h' x hx

section Inside

variable {α β : Type} {size : ℕ} {I : ReadLog → Prop} {r : CStunMessageReader}

/-- What comes behind a look at the table is about the attribute that it finds. -/
theorem keeps_findAttribute {attributeType : UInt16} {hr : HRESULT}
    {f : StunAttribute → Fallible ReadLog β}
    (h : ∀ a, r.mapAttributes.lookup attributeType = some a → Keeps I (f a)) :
    Keeps I (r.findAttribute attributeType hr >>= f) := by
  unfold findAttribute
  cases hlookup : r.mapAttributes.lookup attributeType with
  | none => exact fun _ hs => hs
  | some a => exact h a hlookup

/-- What comes behind a check may use it. -/
theorem keeps_chkIf {cond : Bool} {hr : HRESULT} {f : Unit → Fallible ReadLog β}
    (h : cond = false → Keeps I (f ())) : Keeps I (chkIf cond hr >>= f) := by
  cases cond with
  | false => exact h rfl
  | true => exact fun _ hs => hs

/-- A check reads nothing. -/
theorem keeps_chkIf_last {cond : Bool} {hr : HRESULT} : Keeps I (chkIf cond hr) := by
  cases cond with
  | false => exact .pure ()
  | true => exact .throw hr

/-- A read inside the value of an attribute reads inside the message. -/
theorem keeps_fetch {a : StunAttribute} {k n : ℕ}
    (hend : a.offset.toNat + a.size.toNat ≤ size) (hk : k + n ≤ a.size.toNat) :
    Keeps (AllInside size) (r.fetch a k n) := by
  intro log hlog
  refine hlog.append fun x hx => ?_
  rw [List.mem_singleton.mp hx]
  exact StreamRead.inside_value hend hk

/-- Fetching the front of the message reads inside it. -/
theorem keeps_fetchMessage {n : ℕ} (hn : n ≤ size) : Keeps (AllInside size) (r.fetchMessage n) := by
  intro log hlog
  refine hlog.append fun x hx => ?_
  rw [List.mem_singleton.mp hx]
  exact StreamRead.inside_message (by omega)

/-- The reads of another stream are inside it. -/
theorem keeps_readFrom {attrib : Option StunAttribute} {start : ℕ} {s : CDataStream}
    {m : Fallible Reading α} (hm : Keeps (ReadsInside s.getSize) m)
    (hinside : ∀ p n, p + n ≤ s.getSize → (⟨attrib, start + p, n⟩ : StreamRead).Inside size) :
    Keeps (AllInside size) (readFrom attrib start s m) := by
  have hreads : ∀ t : Reading, ReadsInside s.getSize t →
      AllInside size (readsFrom attrib start t.log) := by
    rintro t ⟨-, hlog⟩ x hx
    obtain ⟨⟨p, n⟩, hmem, rfl⟩ := List.mem_map.mp hx
    exact hinside p n (hlog _ hmem)
  intro log hlog
  have hend := hm ⟨s, []⟩ ⟨rfl, by simp⟩
  cases hrun : m ⟨s, []⟩ with
  | ok a t =>
    rw [finalState_of_ok hrun] at hend
    rw [finalState_of_ok (readFrom_ok hrun)]
    exact hlog.append (hreads t hend)
  | error hr t =>
    rw [finalState_of_error hrun] at hend
    rw [finalState_of_error (readFrom_error hrun)]
    exact hlog.append (hreads t hend)

/-- Two attempts keep what each of them keeps. -/
theorem keeps_orElse {m m' : Fallible ReadLog α} (h : Keeps I m) (h' : Keeps I m') :
    Keeps I (orElse m m') := by
  intro log hlog
  have hfirst := h log hlog
  cases hm : m log with
  | ok a log' =>
    have hrun : orElse m m' log = .ok a log' := by
      unfold orElse
      rw [hm]
    rw [finalState_of_ok hm] at hfirst
    rwa [finalState_of_ok hrun]
  | error hr log' =>
    have hrun : orElse m m' log = m' log' := by
      unfold orElse
      rw [hm]
    rw [finalState_of_error hm] at hfirst
    have hsecond := h' log' hfirst
    unfold finalState at hsecond ⊢
    rwa [hrun]

/-- `hasSucceeded` keeps what the computation keeps. -/
theorem keeps_hasSucceeded {m : Fallible ReadLog Unit} (h : Keeps I m) :
    Keeps I (hasSucceeded m) := by
  intro log hlog
  have hend := h log hlog
  cases hm : m log with
  | ok a log' =>
    have hrun : hasSucceeded m log = .ok true log' := by
      unfold hasSucceeded
      rw [hm]
    rw [finalState_of_ok hm] at hend
    rwa [finalState_of_ok hrun]
  | error hr log' =>
    have hrun : hasSucceeded m log = .ok false log' := by
      unfold hasSucceeded
      rw [hm]
    rw [finalState_of_error hm] at hend
    rwa [finalState_of_ok hrun]

/-- The values of the attributes in the table are inside the message. -/
def RecordsInside (size : ℕ) (r : CStunMessageReader) : Prop :=
  ∀ attributeType a, r.mapAttributes.lookup attributeType = some a →
    a.offset.toNat + a.size.toNat ≤ size

/-- `GetAddressHelper` reads inside the message. -/
theorem keeps_getAddressHelper (h : RecordsInside size r) (attribType : UInt16) :
    Keeps (AllInside size) (r.getAddressHelperLogged attribType) := by
  refine keeps_findAttribute fun a ha => ?_
  have hend := h attribType a ha
  have hlen : (r.dataAt a.offset.toNat a.size.toNat).length ≤ a.size.toNat :=
    List.length_take_le _ _
  refine keeps_readFrom (keeps_getMappedAddress _) fun p n hp => ?_
  exact StreamRead.inside_value hend (le_trans hp hlen)

/-- The reads of the loop over the words. -/
theorem keeps_hashChunks (n : ℕ) (ctx : HMAC_CTX) :
    Keeps (ReadsInside size) (hashChunksLogged n ctx) := by
  induction n generalizing ctx with
  | zero => exact .pure _
  | succ n ih => exact (keeps_readUint32Logged size).bind fun _ => ih _

/-- The hash reads inside the message. -/
theorem keeps_hashMessage (key : List UInt8) (fFingerprintAdjustment : Bool) (offset : ℕ) :
    Keeps (ReadsInside size) (hashMessageLogged key fFingerprintAdjustment offset) :=
  (keeps_readUint16Logged size).bind fun _ => (keeps_readUint16Logged size).bind fun _ =>
    keeps_hashChunks _ _

/-- `IsFingerprintAttributeValid` reads inside the message. -/
theorem keeps_checkFingerprint (h : RecordsInside r.stream.getSize r) (D : Digests) :
    Keeps (AllInside r.stream.getSize) (r.checkFingerprintLogged D) := by
  refine keeps_findAttribute fun a ha => keeps_chkIf fun _ => keeps_chkIf fun hsize =>
    keeps_chkIf fun _ => keeps_chkIf fun _ => keeps_chkIf fun _ => ?_
  have h4 : a.size = 4 := not_not.mp (of_decide_eq_false hsize)
  exact (keeps_fetchMessage (Nat.sub_le _ _)).bind fun _ =>
    (keeps_fetch (h _ a ha) (by rw [h4]; decide)).bind fun _ => keeps_chkIf_last

/-- `ValidateMessageIntegrity` reads inside the message. -/
theorem keeps_validateMessageIntegrity (h : RecordsInside r.stream.getSize r) (D : Digests)
    (key : List UInt8) :
    Keeps (AllInside r.stream.getSize) (r.validateMessageIntegrityLogged D key) := by
  refine keeps_chkIf fun _ => keeps_chkIf fun _ => keeps_chkIf fun _ => keeps_chkIf fun _ =>
    keeps_findAttribute fun a ha => keeps_chkIf fun hsize => keeps_chkIf fun _ => ?_
  have h20 : a.size = 20 := not_not.mp (of_decide_eq_false hsize)
  cases hbuf : r.stream.getBuffer with
  | none => exact .throw _
  | some spBuffer =>
    have hsame : (({} : CDataStream).attach spBuffer false).getSize = r.stream.getSize := by
      have hbuf' : r.stream.spBuffer = some spBuffer := hbuf
      rw [getSize, getSize, hbuf']
      rfl
    refine (keeps_readFrom (keeps_hashMessage _ _ _) fun p n hp => ?_).bind fun _ =>
      (keeps_fetch (h _ a ha) (by rw [h20]; decide)).bind fun _ => keeps_chkIf_last
    rw [hsame] at hp
    exact StreamRead.inside_message (by omega)

end Inside

/-- What a reader has recorded of a message is inside it. -/
theorem Parsed.recordsInside {fAllow : Bool} {bs : List UInt8} {ts : List WireAttribute}
    {r : CStunMessageReader} (h : Parsed fAllow bs ts r) : RecordsInside r.stream.getSize r := by
  obtain ⟨cap, p, hh⟩ := h.live.holds
  intro attributeType a ha
  rw [hh.size_eq]
  rcases exists_last attributeType ts with hnone | ⟨before, t, after, rfl, rfl, hlast⟩
  · rw [h.lookup_none hnone] at ha
    cases ha
  · rw [h.lookup_last hlast, Option.some.injEq] at ha
    obtain ⟨hsize, hoffset⟩ := h.record_toNat (show before ++ t :: after = _ from rfl)
    have hend := h.endOf_le (show before ++ t :: after = _ from rfl)
    rw [← ha, hsize, hoffset]
    omega

end CStunMessageReader

/-! ## The calls of the getters -/

/-- A call of a getter, with its arguments. -/
inductive Getter where
  | responsePort
  | changeRequest
  | paddingAttributeSize
  | errorCode
  | mappedAddress
  | otherAddress
  | xorMappedAddress
  | responseOriginAddress
  | stringAttributeByType (attributeType : UInt16) (size : ℕ)
  | fingerprintAttributeValid
  | messageIntegrity (key : List UInt8)

namespace Getter

open CStunMessageReader CStunMessageBuilder

/-- What a getter returns. -/
def Value : Getter → Type
  | responsePort => UInt16
  | changeRequest => StunChangeRequestAttribute
  | paddingAttributeSize => UInt16
  | errorCode => UInt16
  | mappedAddress => CSocketAddress
  | otherAddress => CSocketAddress
  | xorMappedAddress => CSocketAddress
  | responseOriginAddress => CSocketAddress
  | stringAttributeByType _ _ => List UInt8
  | fingerprintAttributeValid => Bool
  | messageIntegrity _ => Unit

/-- What a getter gives. -/
def call (D : Digests) (r : CStunMessageReader) : (g : Getter) → Except HRESULT g.Value
  | responsePort => r.getResponsePort
  | changeRequest => r.getChangeRequest
  | paddingAttributeSize => r.getPaddingAttributeSize
  | errorCode => r.getErrorCode
  | mappedAddress => r.getMappedAddress
  | otherAddress => r.getOtherAddress
  | xorMappedAddress => r.getXorMappedAddress
  | responseOriginAddress => r.getResponseOriginAddress
  | stringAttributeByType attributeType size => r.getStringAttributeByType attributeType size
  | fingerprintAttributeValid => .ok (r.isFingerprintAttributeValid D)
  | messageIntegrity key => r.validateMessageIntegrity D key

/-- The call with its reads. -/
def logged (D : Digests) (r : CStunMessageReader) : (g : Getter) → Fallible ReadLog g.Value
  | responsePort => r.getResponsePortLogged
  | changeRequest => r.getChangeRequestLogged
  | paddingAttributeSize => r.getPaddingAttributeSizeLogged
  | errorCode => r.getErrorCodeLogged
  | mappedAddress => r.getAddressHelperLogged STUN_ATTRIBUTE_MAPPEDADDRESS
  | otherAddress => r.getOtherAddressLogged
  | xorMappedAddress => r.getXorMappedAddressLogged
  | responseOriginAddress => r.getResponseOriginAddressLogged
  | stringAttributeByType attributeType size => r.getStringAttributeByTypeLogged attributeType size
  | fingerprintAttributeValid => hasSucceeded (r.checkFingerprintLogged D)
  | messageIntegrity key => r.validateMessageIntegrityLogged D key

/-- The reads of the call. -/
def reads (D : Digests) (r : CStunMessageReader) (g : Getter) : List StreamRead :=
  finalState (g.logged D r) []

/-- The call with its reads is the call. -/
theorem answer_logged (D : Digests) (r : CStunMessageReader) (g : Getter) :
    answer (g.logged D r) [] = g.call D r := by
  -- Without the log each getter is composed of the same calls.
  cases g with
  | responsePort =>
    show answer r.getResponsePortLogged [] = r.getResponsePort
    unfold getResponsePortLogged getResponsePort
    rw [answer_checkedAttribute]
    rfl
  | changeRequest =>
    show answer r.getChangeRequestLogged [] = r.getChangeRequest
    unfold getChangeRequestLogged getChangeRequest
    rw [answer_checkedAttribute]
    rfl
  | paddingAttributeSize =>
    show answer r.getPaddingAttributeSizeLogged [] = r.getPaddingAttributeSize
    unfold getPaddingAttributeSizeLogged getPaddingAttributeSize
    rw [answer_findAttribute]
    rfl
  | errorCode =>
    show answer r.getErrorCodeLogged [] = r.getErrorCode
    unfold getErrorCodeLogged getErrorCode
    rw [answer_findAttribute]
    rfl
  | mappedAddress => exact answer_getAddressHelper STUN_ATTRIBUTE_MAPPEDADDRESS r []
  | otherAddress =>
    show answer r.getOtherAddressLogged [] = r.getOtherAddress
    unfold getOtherAddressLogged getOtherAddress
    rw [answer_orElse, answer_getAddressHelper, answer_getAddressHelper]
    cases r.getAddressHelper STUN_ATTRIBUTE_OTHER_ADDRESS <;> rfl
  | xorMappedAddress =>
    show answer r.getXorMappedAddressLogged [] = r.getXorMappedAddress
    unfold getXorMappedAddressLogged getXorMappedAddress
    rw [answer_map, answer_orElse, answer_getAddressHelper, answer_getAddressHelper]
    cases r.getAddressHelper STUN_ATTRIBUTE_XORMAPPEDADDRESS <;> rfl
  | responseOriginAddress =>
    show answer r.getResponseOriginAddressLogged [] = r.getResponseOriginAddress
    unfold getResponseOriginAddressLogged getResponseOriginAddress
    rw [answer_orElse, answer_getAddressHelper, answer_getAddressHelper]
    cases r.getAddressHelper STUN_ATTRIBUTE_RESPONSE_ORIGIN <;> rfl
  | stringAttributeByType attributeType size =>
    show answer (r.getStringAttributeByTypeLogged attributeType size) [] =
      r.getStringAttributeByType attributeType size
    unfold getStringAttributeByTypeLogged getStringAttributeByType
    rw [answer_checkedAttribute]
    rfl
  | fingerprintAttributeValid =>
    show answer (hasSucceeded (r.checkFingerprintLogged D)) [] =
      .ok (r.isFingerprintAttributeValid D)
    rw [answer_hasSucceeded, answer_checkFingerprint]
  | messageIntegrity key => exact answer_validateMessageIntegrity D key r []

/-- Whether a call does not have to look at the size: it is not `GetErrorCode`, or the attribute has
the four octets that `GetErrorCode` takes for granted. -/
def LongEnough (r : CStunMessageReader) (g : Getter) : Prop :=
  g = errorCode → ∀ a, r.getAttributeByType STUN_ATTRIBUTE_ERRORCODE = .ok a → 4 ≤ a.size.toNat

/-- A call that does not have to look at the size reads only its attribute. -/
theorem keeps_logged (D : Digests) {r : CStunMessageReader} (h : RecordsInside r.stream.getSize r)
    {g : Getter} (hlong : g.LongEnough r) : Keeps (AllInside r.stream.getSize) (g.logged D r) := by
  cases g with
  | responsePort =>
    refine keeps_findAttribute fun a ha => keeps_chkIf fun hsize => ?_
    have h2 : a.size = STUN_ATTRIBUTE_RESPONSE_PORT_SIZE := not_not.mp (of_decide_eq_false hsize)
    exact (keeps_fetch (h _ a ha) (by rw [h2]; decide)).bind fun _ => .pure _
  | changeRequest =>
    refine keeps_findAttribute fun a ha => keeps_chkIf fun hsize => ?_
    have h4 : a.size = STUN_ATTRIBUTE_CHANGEREQUEST_SIZE := not_not.mp (of_decide_eq_false hsize)
    exact (keeps_fetch (h _ a ha) (by rw [h4]; decide)).bind fun _ => .pure _
  | paddingAttributeSize => exact keeps_findAttribute fun _ _ => .pure _
  | errorCode =>
    refine keeps_findAttribute fun a ha => ?_
    -- Only `GetErrorCode` reads a value without a check of its size.
    have h4 := hlong rfl a (by rw [getAttributeByType, ha])
    exact (keeps_fetch (h _ a ha) (by omega)).bind fun _ => .pure _
  | mappedAddress => exact keeps_getAddressHelper h _
  | otherAddress => exact keeps_orElse (keeps_getAddressHelper h _) (keeps_getAddressHelper h _)
  | xorMappedAddress =>
    exact (keeps_orElse (keeps_getAddressHelper h _) (keeps_getAddressHelper h _)).bind
      fun _ => .pure _
  | responseOriginAddress =>
    exact keeps_orElse (keeps_getAddressHelper h _) (keeps_getAddressHelper h _)
  | stringAttributeByType attributeType size =>
    refine keeps_findAttribute fun a ha => keeps_chkIf fun _ => ?_
    exact (keeps_fetch (h _ a ha) (by omega)).bind fun _ => .pure _
  | fingerprintAttributeValid => exact keeps_hasSucceeded (keeps_checkFingerprint h D)
  | messageIntegrity key => exact keeps_validateMessageIntegrity h D key

/-- `GetErrorCode` reads the third and fourth octets. -/
theorem reads_errorCode (D : Digests) {r : CStunMessageReader} {a : StunAttribute}
    (h : r.getAttributeByType STUN_ATTRIBUTE_ERRORCODE = .ok a) :
    errorCode.reads D r = [⟨some a, a.offset.toNat + 2, 2⟩] := by
  have hlookup : r.mapAttributes.lookup STUN_ATTRIBUTE_ERRORCODE = some a := by
    unfold getAttributeByType at h
    cases hl : r.mapAttributes.lookup STUN_ATTRIBUTE_ERRORCODE with
    | none => simp [hl] at h
    | some b => simpa [hl] using h
  show finalState r.getErrorCodeLogged [] = _
  unfold getErrorCodeLogged findAttribute
  rw [hlookup]
  rfl

/-- Every read of a getter is inside the attribute that it is for and inside the message, exactly
when the call is not one of `GetErrorCode` for an attribute of less than four octets. -/
theorem reads_inside_iff (D : Digests) (r₀ : CStunMessageReader) (fAllow : Bool)
    (rbuf : Option CBuffer) (chunks : List (List UInt8))
    (hstate : ((r₀.ready fAllow rbuf).addChunks chunks).state = .bodyValidated) (g : Getter) :
    let r := (r₀.ready fAllow rbuf).addChunks chunks
    answer (g.logged D r) [] = g.call D r ∧
      ((∀ x ∈ g.reads D r, x.Inside r.stream.getSize) ↔ g.LongEnough r) := by
  intro r
  obtain ⟨ts, hp⟩ := (fed_addChunks fAllow rbuf r₀ chunks).parsed hstate
  refine ⟨answer_logged D r g, ?_⟩
  constructor
  · rintro hinside rfl a ha
    rw [reads_errorCode D ha] at hinside
    have hread := ((hinside _ (List.mem_singleton.mpr rfl)).2 a rfl).2
    dsimp only at hread
    omega
  · intro hlong
    exact keeps_logged D hp.recordsInside hlong [] (by simp [AllInside])

/-- A failure response in the legacy format with one attribute. -/
def failureResponse (body : List UInt8) : List UInt8 :=
  [0x01, 0x11, 0x00, UInt8.ofNat body.length] ++ List.replicate 16 0 ++ body

/-- A new reader that was fed a message. -/
def readerOf (bs : List UInt8) : CStunMessageReader :=
  (({} : CStunMessageReader).ready true none).addChunks [bs]

/-- `reads_inside_iff` for a `GetErrorCode` that finds its four octets. -/
theorem reads_inside_iff_errorCode :
    let r := readerOf (failureResponse [0x00, 0x09, 0x00, 0x04, 0x00, 0x00, 0x04, 0x00])
    ∀ x ∈ errorCode.reads zeroDigests r, x.Inside r.stream.getSize := by
  intro r
  have hlookup : r.mapAttributes.lookup STUN_ATTRIBUTE_ERRORCODE =
      some ⟨STUN_ATTRIBUTE_ERRORCODE, 4, 24⟩ := by decide +kernel
  refine (reads_inside_iff zeroDigests {} true none [failureResponse
    [0x00, 0x09, 0x00, 0x04, 0x00, 0x00, 0x04, 0x00]] (by decide +kernel) errorCode).2.mpr ?_
  rintro - a (ha : r.getAttributeByType STUN_ATTRIBUTE_ERRORCODE = .ok a)
  rw [getAttributeByType, hlookup] at ha
  obtain rfl := Except.ok.inj ha
  decide

/-- `GetErrorCode` succeeds on an ERROR-CODE without a value at the end of a message, with two
octets from behind the message. -/
theorem errorCode_readsOutside :
    let r := readerOf (failureResponse [0x00, 0x09, 0x00, 0x00])
    r.state = .bodyValidated ∧ r.stream.getSize = 24 ∧
      (errorCode.call zeroDigests r).toBool = true ∧
      errorCode.reads zeroDigests r = [⟨some ⟨STUN_ATTRIBUTE_ERRORCODE, 0, 24⟩, 26, 2⟩] ∧
      ¬∀ x ∈ errorCode.reads zeroDigests r, x.Inside r.stream.getSize := by
  intro r
  have hlookup : r.mapAttributes.lookup STUN_ATTRIBUTE_ERRORCODE =
      some ⟨STUN_ATTRIBUTE_ERRORCODE, 0, 24⟩ := by decide +kernel
  have hsize : r.stream.getSize = 24 := by decide +kernel
  have hreads := reads_errorCode zeroDigests (show r.getAttributeByType _ = _ by
    rw [getAttributeByType, hlookup])
  refine ⟨by decide +kernel, hsize, by decide +kernel, hreads, fun hinside => ?_⟩
  rw [hreads, hsize] at hinside
  exact absurd (hinside _ (List.mem_singleton.mpr rfl)).1 (by decide)

end Getter

end Stun
