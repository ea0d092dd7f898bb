import StunForAndroid.StunCore.ClientTests
import StunForAndroid.StunCore.RoundTrip

/-!
# The requests of the client

`GetMessage` writes `requestDraft` to the buffer of the message: a binding request with the
transaction id of the test and one CHANGE-REQUEST. Whoever reads it finds these (`reads_request`).
-/

namespace Stun

open Octets Fallible CDataStream CStunMessageBuilder CStunMessageReader

/-! ## The draft of a request -/

/-- The CHANGE-REQUEST attribute of a request. -/
def changeAttribute (change : StunChangeRequestAttribute) : WireAttribute :=
  ofValue false STUN_ATTRIBUTE_CHANGEREQUEST (changeValue change) (changeValue_le change)

/-- A binding request with a transaction id and a CHANGE-REQUEST. -/
def requestDraft (transid : StunTransactionId) (change : StunChangeRequestAttribute) : Draft :=
  Draft.fixed ⟨msgTypeField StunMsgTypeBinding .request, 0, transid, [changeAttribute change]⟩

/-- The body of a request has 8 octets. -/
theorem length_encodeAll_requestDraft (transid : StunTransactionId)
    (change : StunChangeRequestAttribute) :
    (Tlv.encodeAll (requestDraft transid change).attributes).length = 8 := by
  show (Tlv.encodeAll [changeAttribute change]).length = 8
  unfold changeAttribute
  rw [Tlv.encodeAll_cons, Tlv.encodeAll_nil, List.append_nil, length_encode_ofValue,
    length_changeValue]
  rfl

/-- A request is complete. -/
theorem complete_requestDraft (transid : StunTransactionId) (change : StunChangeRequestAttribute) :
    (requestDraft transid change).Complete := by
  have hbody := length_encodeAll_requestDraft transid change
  refine Draft.complete_fixed (msgTypeField_and_c000 _ _) ?_ ?_
  · show 1 ≤ MAX_NUM_ATTRIBUTES
    decide
  · calc (Tlv.encodeAll [changeAttribute change]).length = 8 := hbody
      _ ≤ MAX_STUN_MESSAGE_SIZE := by decide

/-- A request has 28 octets. -/
theorem length_requestDraft (transid : StunTransactionId) (change : StunChangeRequestAttribute) :
    (requestDraft transid change).octets.length = 28 := by
  rw [Draft.length_octets, length_encodeAll_requestDraft]
  rfl

/-! ## Reading a request -/

/-- What a reader has that was fed a message. -/
def readerOf (spMsg : List UInt8) : CStunMessageReader :=
  (({} : CStunMessageReader).addBytes spMsg).2

/-- A reader that is fed one message knows its state. -/
theorem addBytes_fst (spMsg : List UInt8) :
    (({} : CStunMessageReader).addBytes spMsg).1 = (readerOf spMsg).state :=
  fresh_new.live.addBytes_fst spMsg

/-- A new reader that is fed a complete draft that has the cookie, or not, has parsed it. -/
theorem Draft.Complete.parsed_readerOf {d : Draft} (hd : d.Complete) :
    Parsed true d.octets d.attributes (readerOf d.octets) :=
  hd.parsed (.inl rfl) (show Fed true ([] ++ d.octets) _ from fresh_new.fed.addBytes d.octets)

/-- A reader finds the CHANGE-REQUEST of a message that has no other attribute. -/
theorem getChangeRequest_eq {bs : List UInt8} {change : StunChangeRequestAttribute}
    {r : CStunMessageReader} (h : Parsed true bs [changeAttribute change] r) :
    r.getChangeRequest = .ok change := by
  have h' : Parsed true bs ([] ++ changeAttribute change :: []) r := h
  exact h'.getChangeRequest_eq ofValue_type ofValue_value (by simp)

/-- What there is to read in a request. -/
structure ReadsRequest (transid : StunTransactionId) (change : StunChangeRequestAttribute)
    (r : CStunMessageReader) : Prop where
  state : r.state = .bodyValidated
  /-- It is a binding request. -/
  type : r.msgTypeNormalized = StunMsgTypeBinding
  msgClass : r.msgClass = .request
  transid : r.transactionid = transid
  change : r.getChangeRequest = .ok change

/-- A reader finds in a request what it was built from. -/
theorem reads_request (transid : StunTransactionId) (change : StunChangeRequestAttribute) :
    ReadsRequest transid change (readerOf (requestDraft transid change).octets) := by
  have hp := (complete_requestDraft transid change).parsed_readerOf
  obtain ⟨htype, hclass, htransid⟩ := Draft.header_of_parsed hp
  exact ⟨hp.state, htype.trans (normalizedType_msgTypeField (by decide) _),
    hclass.trans (messageClass_msgTypeField _ (by decide)), htransid, getChangeRequest_eq hp⟩

/-! ## `GetMessage` -/

namespace StunClientTest

/-- The transaction id of the requests of a test. -/
def requestTransid (rand : ℕ → UInt8) (stack : StunTransactionId) (t : StunClientTest) :
    StunTransactionId :=
  if isTransactionIdValid t.transid then t.transid else randomTransactionId rand stack

/-- A random transaction id starts with the cookie. -/
theorem isTransactionIdValid_random (rand : ℕ → UInt8) (stack : StunTransactionId) :
    isTransactionIdValid (randomTransactionId rand stack) = true := by
  have hcookie : toLE 4 (htonl STUN_COOKIE).toNat = [0x21, 0x12, 0xA4, 0x42] := by decide
  unfold isTransactionIdValid randomTransactionId
  rw [hcookie]
  rfl

/-- The transaction id of a request is not zero. -/
theorem isTransactionIdValid_requestTransid (rand : ℕ → UInt8) (stack : StunTransactionId)
    (t : StunClientTest) : isTransactionIdValid (t.requestTransid rand stack) = true := by
  unfold requestTransid
  split_ifs with h
  · exact h
  · exact isTransactionIdValid_random rand stack

/-- A test that has a transaction id keeps it. -/
theorem requestTransid_of_valid {rand : ℕ → UInt8} {stack : StunTransactionId}
    {t : StunClientTest} (h : isTransactionIdValid t.transid = true) :
    t.requestTransid rand stack = t.transid := if_pos h

/-- `AddRandomTransactionId`, when its error code is not looked at. -/
theorem ignore_addRandomTransactionId (rand : ℕ → UInt8) (stack : StunTransactionId) :
    ignore (addRandomTransactionId rand stack) =
      ignore (addTransactionId (randomTransactionId rand stack)) := by
  funext b
  unfold ignore finalState addRandomTransactionId
  cases h : addTransactionId (randomTransactionId rand stack) b with
  | ok _ b' =>
    rw [bind_of_ok h]
    rfl
  | error hr b' => rw [bind_of_error h]

/-- `StartBindingRequest` sets the transaction id of the test and starts the request. -/
theorem startBindingRequest_spec {cap : ℕ} (hcap : 200 ≤ cap) (rand : ℕ → UInt8)
    (stack : StunTransactionId) (t : StunClientTest) :
    Succeeds (Attached cap false) (t.startBindingRequest rand stack) fun t' b =>
      t' = { t with transid := t.requestTransid rand stack } ∧
      Building cap false
        ⟨msgTypeField StunMsgTypeBinding .request, 0, t.requestTransid rand stack, []⟩ b := by
  unfold startBindingRequest requestTransid
  split_ifs with hvalid
  · exact header_spec hcap StunMsgTypeBinding .request t.transid
      (Succeeds.pure fun b hb => And.intro rfl hb)
  · rw [ignore_addRandomTransactionId]
    exact header_spec hcap StunMsgTypeBinding .request (randomTransactionId rand stack)
      (Succeeds.pure fun b hb => And.intro rfl hb)

/-- `AddChangeRequest` appends the attribute. -/
theorem addChangeRequest_spec {cap : ℕ} {d : Draft} (change : StunChangeRequestAttribute) :
    Succeeds (Building cap false d) (addChangeRequest change)
      fun _ => Building cap false (d.add (changeAttribute change)) := by
  have hsize : UInt16.ofNat (changeValue change).length = 4 := by
    rw [length_changeValue]
    rfl
  have hadd := @addAttribute_spec cap false d STUN_ATTRIBUTE_CHANGEREQUEST (changeValue change)
    (changeValue_le change)
  rwa [hsize] at hadd

/-- The three `GetMessage` functions build the request of the test. -/
theorem buildRequest_spec {cap : ℕ} (hcap : 200 ≤ cap) (rand : ℕ → UInt8)
    (stack : StunTransactionId) (change : StunChangeRequestAttribute) (t : StunClientTest) :
    Succeeds (Attached cap false) (t.buildRequest rand stack change) fun t' b =>
      t' = { t with transid := t.requestTransid rand stack } ∧
      Building cap false (requestDraft (t.requestTransid rand stack) change) b := by
  refine (startBindingRequest_spec hcap rand stack t).bind fun t' => ?_
  rintro b ⟨rfl, hb⟩
  exact ((addChangeRequest_spec change).ignore.bind fun _ => fixLengthField_spec.ignore.bind
    fun _ => Succeeds.pure fun b hb => And.intro rfl hb) b hb

/-- The three `GetMessage` functions leave the request in the caller's buffer, and the test with the
transaction id of the request. -/
theorem getMessageWith_spec {spMsg : CBuffer}
    (hsize : MAX_STUN_MESSAGE_SIZE ≤ spMsg.getAllocatedSize)
    (rand : ℕ → UInt8) (stack : StunTransactionId) (change : StunChangeRequestAttribute)
    (t : StunClientTest) :
    ∃ buf, t.getMessageWith rand stack spMsg change =
        ({ t with transid := t.requestTransid rand stack }, buf) ∧
      buf.contents = (requestDraft (t.requestTransid rand stack) change).octets ∧
      buf.getAllocatedSize = spMsg.getAllocatedSize := by
  unfold MAX_STUN_MESSAGE_SIZE at hsize
  have hempty := attached_attachStream spMsg false
  obtain ⟨t', b, hrun, rfl, hb⟩ := buildRequest_spec (by omega) rand stack change t _ hempty
  have hfit : (requestDraft (t.requestTransid rand stack) change).octets.length ≤
      spMsg.getAllocatedSize := by
    rw [length_requestDraft]
    omega
  obtain ⟨buf, hbuf, hcontents, halloc⟩ := exists_attachedBuffer hb hfit
  refine ⟨buf, ?_, hcontents, halloc⟩
  have hrun' : t.buildRequest rand stack change (({} : CStunMessageBuilder).attachStream spMsg) =
      .ok { t with transid := t.requestTransid rand stack } b := hrun
  unfold getMessageWith
  rw [hrun']
  simp only [hbuf, Option.getD_some]

/-- The CHANGE-REQUEST of the requests of a test. -/
def changeOf (t : StunClientTest) : StunChangeRequestAttribute :=
  match t.kind with
  | .basicBinding => {}
  | .behavior _ => {}
  | .filtering fIsTest3 => CFilteringTest.change fIsTest3

/-- Where the requests of a test go. -/
def destinationOf (config : StunClientLogicConfig) (results : StunClientResults)
    (t : StunClientTest) : CSocketAddress :=
  match t.kind with
  | .basicBinding => config.addrServer
  | .behavior fIsTest3 => if fIsTest3 = false then results.addrAP else results.addrAA
  | .filtering _ => config.addrServer

/-- `GetMessage` writes the request of the test. -/
theorem getMessage_spec {spMsg : CBuffer} (hsize : MAX_STUN_MESSAGE_SIZE ≤ spMsg.getAllocatedSize)
    (config : StunClientLogicConfig) (results : StunClientResults) (rand : ℕ → UInt8)
    (stack : StunTransactionId) (t : StunClientTest) :
    ∃ buf, t.getMessage config results rand stack spMsg =
        (({ t with transid := t.requestTransid rand stack }, buf), t.destinationOf config results) ∧
      buf.contents = (requestDraft (t.requestTransid rand stack) t.changeOf).octets := by
  obtain ⟨buf, hmessage, hcontents, -⟩ := getMessageWith_spec hsize rand stack t.changeOf t
  refine ⟨buf, ?_, hcontents⟩
  unfold getMessage destinationOf
  unfold changeOf at hmessage
  cases hkind : t.kind <;> simp only [hkind] at hmessage ⊢ <;> rw [hmessage]

/-- `GetMessage` leaves the buffer its size. -/
theorem getAllocatedSize_getMessage {spMsg : CBuffer}
    (hsize : MAX_STUN_MESSAGE_SIZE ≤ spMsg.getAllocatedSize) (config : StunClientLogicConfig)
    (results : StunClientResults) (rand : ℕ → UInt8) (stack : StunTransactionId)
    (t : StunClientTest) :
    (t.getMessage config results rand stack spMsg).1.2.getAllocatedSize =
      spMsg.getAllocatedSize := by
  obtain ⟨buf, hmessage, -, halloc⟩ := getMessageWith_spec hsize rand stack t.changeOf t
  unfold getMessage
  unfold changeOf at hmessage
  cases hkind : t.kind <;> simp only [hkind] at hmessage ⊢ <;> rw [hmessage, halloc]

end StunClientTest

end Stun
