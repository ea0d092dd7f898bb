import StunForAndroid.StunCore.Destination

/-!
# The response lands in the caller's buffer

A builder's stream starts in the buffer of the outgoing message, and would move to a larger one of
its own if a write did not fit. `responseBuilders` are the builders of a run of `ProcessRequestImpl`
as the functions leave them: that of `ProcessBindingRequest`, when the request gets as far, and that
of `BuildErrorResponse`, when there is an error. None of their streams has moved, since a stream
that has moved keeps the buffer that it came from in `spAttached` until it is attached again.
-/

namespace Stun

open Octets Fallible CDataStream CStunMessageBuilder CStunMessageReader

namespace CStunRequestHandler

/-! ## The builders -/

/-- The builder that `runBuilder` works with, when it has written. -/
def builtBy (m : Fallible CStunMessageBuilder Unit) (h : CStunRequestHandler) :
    CStunMessageBuilder :=
  let spBufferOut := h.msgOut.spBufferOut.map fun b => (b.setSize 0).2
  let builder := ({} : CStunMessageBuilder).attachStream (spBufferOut.getD {})
  finalState m (builder.setLegacyMode h.fLegacyMode)

/-- The builder of `ProcessBindingRequest`. On its way to an error it writes nothing. -/
def bindingBuilder (D : Digests) (h : CStunRequestHandler) : CStunMessageBuilder :=
  let h₁ := h.runBuilder (pure ())
  match h.bindingSocket with
  | none => h.builtBy (pure ())
  | some socketOutput =>
    h₁.builtBy (successResponse D h.transid h.msgIn.addrRemote (h.originAddress socketOutput)
      h.otherAddress h.integrity)

/-- The builder of `BuildErrorResponse`. -/
def errorBuilder (h : CStunRequestHandler) : CStunMessageBuilder :=
  h.builtBy (errorResponse h.error h.transid)

/-- The builders of the steps after authentication, in their order. -/
def buildersAfterAuth (D : Digests) (h : CStunRequestHandler) : List CStunMessageBuilder :=
  let h₁ := stepUnlessError (processBindingRequest D) h
  (if h.error.errorcode = 0 then [bindingBuilder D h] else []) ++
    if h₁.error.errorcode ≠ 0 then [h₁.errorBuilder] else []

/-- The builders of `ProcessRequestImpl`, in their order. -/
def responseBuilders (D : Digests) (h : CStunRequestHandler) : List CStunMessageBuilder :=
  buildersAfterAuth D (stepUnlessError (validateAuth D)
    h.rememberRequest.honorResponsePort.requireBinding)

/-- The buffer of the outgoing message is what a builder's stream was attached to. -/
theorem runBuilder_eq (m : Fallible CStunMessageBuilder Unit) (h : CStunRequestHandler) :
    h.runBuilder m = { h with msgOut.spBufferOut := (h.builtBy m).stream.attachedBuffer } := rfl

/-- The stream of a builder is still in the buffer that it was attached to, which is now `buf`. -/
structure InPlace (cap : ℕ) (buf : CBuffer) (b : CStunMessageBuilder) : Prop where
  spAttached_eq : b.stream.spAttached = none
  spBuffer_eq : b.stream.spBuffer = some buf
  allocated_eq : buf.getAllocatedSize = cap

/-- A builder in place leaves its buffer to the outgoing message. -/
theorem InPlace.attachedBuffer_eq {cap : ℕ} {buf : CBuffer} {b : CStunMessageBuilder}
    (h : InPlace cap buf b) : b.stream.attachedBuffer = some buf := by
  rw [attachedBuffer, h.spAttached_eq, Option.none_or, h.spBuffer_eq]

section Builders

variable {m : Fallible CStunMessageBuilder Unit} {d : Draft} {h : CStunRequestHandler}
    {buf : CBuffer}

/-- A builder that writes nothing is in place, with no octets. -/
theorem inPlace_empty (hbuf : h.msgOut.spBufferOut = some buf) :
    InPlace buf.getAllocatedSize ⟨buf.data, 0⟩ (h.builtBy (pure ())) := by
  have hbuilt : h.builtBy (pure ()) =
      (({} : CStunMessageBuilder).attachStream (buf.setSize 0).2).setLegacyMode h.fLegacyMode := by
    unfold builtBy
    rw [hbuf]
    rfl
  rw [hbuilt]
  refine ⟨rfl, ?_, rfl⟩
  simp [CStunMessageBuilder.attachStream, setLegacyMode, attach]

/-- A builder that writes a draft which the buffer has room for is in place. -/
theorem inPlace_draft (hbuf : h.msgOut.spBufferOut = some buf)
    (hd : d.octets.length ≤ buf.getAllocatedSize)
    (hm : Succeeds (Attached buf.getAllocatedSize h.fLegacyMode) m
      fun _ => Building buf.getAllocatedSize h.fLegacyMode d) :
    ∃ buf', InPlace buf.getAllocatedSize buf' (h.builtBy m) ∧ buf'.contents = d.octets ∧
      buf'.size = d.octets.length := by
  have hempty := attached_attachStream (buf.setSize 0).2 h.fLegacyMode
  have hsame : (buf.setSize 0).2.getAllocatedSize = buf.getAllocatedSize := by
    rw [CBuffer.setSize_snd]
    rfl
  have hbuilt : h.builtBy m = finalState m
      ((({} : CStunMessageBuilder).attachStream (buf.setSize 0).2).setLegacyMode
        h.fLegacyMode) := by
    unfold builtBy
    rw [hbuf]
    rfl
  rw [hsame] at hempty
  obtain ⟨-, hb⟩ := hm.finalState hempty
  rw [← hbuilt] at hb
  have hlen : 0 < d.octets.length := lt_of_lt_of_le (by decide) d.header_le
  obtain ⟨hattached, hsize⟩ := hb.holds.inPlace (hlen.trans_le hd) hd
  obtain ⟨buf', hbuf', hcontents, hlength⟩ :=
    hb.holds.exists_buffer (List.ne_nil_of_length_pos hlen)
  refine ⟨buf', ⟨hattached, hbuf', ?_⟩, hcontents, hlength⟩
  unfold CDataStream.getAllocatedSize at hsize
  simpa [hbuf'] using hsize

end Builders

/-! ## The streams stay in place -/

section InPlace

variable {D : Digests} {msgIn : StunMessageIn} {reader : CStunMessageReader}
  {pAuth : Option IStunAuth} {v : Except Challenge (Option Credentials)} {h : CStunRequestHandler}
  {buf : CBuffer}

/-- The builders are in place, and the last of them has written the outgoing message, a complete one
that fits. -/
structure LandsInPlace (cap : ℕ) (builders : List CStunMessageBuilder)
    (spBufferOut : Option CBuffer) :
    Prop where
  inPlace : ∀ b ∈ builders, ∃ buf, InPlace cap buf b
  lands : ∃ b buf d, builders.getLast? = some b ∧ InPlace cap buf b ∧ spBufferOut = some buf ∧
    buf.contents = Draft.octets d ∧ buf.size = d.octets.length ∧ d.Complete ∧
    d.octets.length ≤ MAX_STUN_MESSAGE_SIZE

/-- The error response is built in the buffer that was given. -/
theorem Prepared.errorBuilder_inPlace {c : Challenge}
    (hp : Prepared msgIn reader pAuth (.error c) h)
    (hbuf : h.msgOut.spBufferOut = some buf)
    (hsize : MAX_STUN_MESSAGE_SIZE ≤ buf.getAllocatedSize) :
    ∃ buf' d, InPlace buf.getAllocatedSize buf' h.errorBuilder ∧
      h.reportError.msgOut.spBufferOut = some buf' ∧ buf'.contents = Draft.octets d ∧
      buf'.size = d.octets.length ∧ d.Complete ∧ d.octets.length ≤ MAX_STUN_MESSAGE_SIZE := by
  have hne := hp.errorcode_ne_zero_iff.mpr ⟨c, rfl⟩
  obtain ⟨buf', hin, hcontents, hlength⟩ := inPlace_draft hbuf
    ((length_octets_errorDraft_le _ _ _ _).trans hsize) (hp.errorResponse_spec hsize)
  refine ⟨buf', _, hin, ?_, hcontents, hlength, complete_errorDraft _ _ _ _,
    length_octets_errorDraft_le _ _ _ _⟩
  unfold reportError buildErrorResponse
  rw [if_pos hne]
  exact hin.attachedBuffer_eq

/-- The steps after authentication land in place. -/
theorem Prepared.landsInPlace (hp : Prepared msgIn reader pAuth v h)
    (hbuf : h.msgOut.spBufferOut = some buf)
    (hsize : MAX_STUN_MESSAGE_SIZE ≤ buf.getAllocatedSize) :
    LandsInPlace buf.getAllocatedSize (buildersAfterAuth D h)
      (stepUnlessError (processBindingRequest D) h).reportError.msgOut.spBufferOut := by
  have hempty := inPlace_empty hbuf
  have hbuf₁ : (h.runBuilder (pure ())).msgOut.spBufferOut = some ⟨buf.data, 0⟩ := by
    rw [runBuilder_eq]
    exact hempty.attachedBuffer_eq
  unfold buildersAfterAuth
  dsimp only
  cases v with
  | error c =>
    -- An error was found before: there is the error response only.
    have hne := hp.errorcode_ne_zero_iff.mpr ⟨c, rfl⟩
    rw [hp.stepUnlessError_error, if_neg hne, if_pos hne, List.nil_append]
    obtain ⟨buf', d, hin, hlands⟩ := hp.errorBuilder_inPlace hbuf hsize
    exact ⟨fun b hb => ⟨buf', List.mem_singleton.mp hb ▸ hin⟩, _, buf', d, rfl, hin, hlands⟩
  | ok creds =>
    rw [if_pos hp.errorcode_eq]
    unfold bindingBuilder
    dsimp only
    cases hsocket : h.bindingSocket with
    | none =>
      -- The first builder has written nothing when the error response is built.
      obtain ⟨hstep, hbad⟩ := hp.processBindingRequest_none (D := D) hsocket
      have hne := hbad.errorcode_ne_zero_iff.mpr ⟨_, rfl⟩
      rw [hstep, if_pos hne]
      obtain ⟨buf', d, hin, hlands⟩ := hbad.errorBuilder_inPlace hbuf₁ hsize
      refine ⟨fun b hb => ?_, _, buf', d, rfl, hin, hlands⟩
      rcases List.mem_cons.mp hb with rfl | hb
      · exact ⟨_, hempty⟩
      · exact ⟨buf', List.mem_singleton.mp hb ▸ hin⟩
    | some socketOutput =>
      obtain ⟨hok, -⟩ := hp.processBindingRequest_some (D := D) hsocket
      rw [hok.reportError_ok, if_neg (not_not.mpr hok.errorcode_eq), List.append_nil]
      obtain ⟨buf', hin, hcontents, hlength⟩ := inPlace_draft hbuf₁
        ((length_octets_successDraft_le _ _ _ _ _ _ _).trans hsize)
        (hp.successResponse_spec (D := D) hsize (h.originAddress socketOutput) h.otherAddress)
      refine ⟨fun b hb => ⟨buf', List.mem_singleton.mp hb ▸ hin⟩, _, buf', _, rfl,
        hin, ?_, hcontents, hlength, complete_successDraft _ _ _ _ _ _ _,
        length_octets_successDraft_le _ _ _ _ _ _ _⟩
      have hrun : stepUnlessError (processBindingRequest D) h =
          (h.runBuilder (pure ())).respond D socketOutput := by
        unfold stepUnlessError
        rw [if_pos hp.errorcode_eq, processBindingRequest_eq_match, hsocket]
      rw [hrun]
      exact hin.attachedBuffer_eq

end InPlace

/-! ## The outgoing message -/

section Outgoing

variable (D : Digests) {reader : CStunMessageReader} (msgIn : StunMessageIn)
  (set : TransportAddressSet) (pAuth : Option IStunAuth) (msgOut : StunMessageOut) {buf : CBuffer}
  (hsize : MAX_STUN_MESSAGE_SIZE ≤ buf.getAllocatedSize)
  (hclass : reader.msgClass = .request) {fAllow : Bool} {bs : List UInt8} {ts : List WireAttribute}
  (hread : CStunMessageReader.Parsed fAllow bs ts reader)

include hsize hclass hread

/-- `ProcessRequest` lands the answer to a request in the caller's buffer. -/
theorem processRequest_lands :
    ∃ msgOut', processRequest D { msgIn with pReader := some reader } (some set) pAuth
        { msgOut with spBufferOut := some buf } = .ok () msgOut' ∧
      LandsInPlace buf.getAllocatedSize
        (responseBuilders D (newHandler { msgIn with pReader := some reader } set pAuth buf))
        msgOut'.spBufferOut := by
  have hi := initial_newHandler reader msgIn set pAuth hsize
  obtain ⟨h, hh⟩ : ∃ h, newHandler { msgIn with pReader := some reader } set pAuth buf =
    h := ⟨_, rfl⟩
  have hu : h.Unaimed := hh ▸ ⟨rfl, rfl, rfl⟩
  have hbuf : h.msgOut.spBufferOut = some (buf.setSize 0).2 := hh ▸ rfl
  have hsame : (buf.setSize 0).2.getAllocatedSize = buf.getAllocatedSize := by
    rw [CBuffer.setSize_snd]
    rfl
  have hrun := processRequest_eq D msgIn set pAuth msgOut hsize hread.state
  rw [hh] at hi hrun ⊢
  rw [runHandler, processRequestImpl_eq (hi.reader_eq ▸ hclass)] at hrun
  -- The steps before `ProcessBindingRequest` leave the buffer alone.
  have hbuf₁ : (stepUnlessError (validateAuth D)
      h.rememberRequest.honorResponsePort.requireBinding).msgOut.spBufferOut =
        some (buf.setSize 0).2 := by
    rw [hu.judges]
    exact hbuf
  have hlands := (hi.prepared.verdict (D := D) hread).landsInPlace (D := D) hbuf₁ (hsame ▸ hsize)
  rw [hsame] at hlands
  exact ⟨_, hrun, hlands⟩

/-- The answer to a request is as long as the buffer that it is in says, and has a header. -/
theorem processRequest_size {msgOut' : StunMessageOut}
    (hok : processRequest D { msgIn with pReader := some reader } (some set) pAuth
      { msgOut with spBufferOut := some buf } = .ok () msgOut') :
    ∃ out, msgOut'.spBufferOut = some out ∧ out.getAllocatedSize = buf.getAllocatedSize ∧
      out.contents.length = out.size ∧ STUN_HEADER_SIZE ≤ out.size := by
  obtain ⟨msgOut₁, hrun, hlands⟩ :=
    processRequest_lands D msgIn set pAuth msgOut hsize hclass hread
  obtain rfl : msgOut₁ = msgOut' := by
    rw [hok] at hrun
    cases hrun
    rfl
  obtain ⟨-, b, out, d, -, hin, hout, hcontents, hlength, -, -⟩ := hlands
  refine ⟨out, hout, hin.allocated_eq, ?_, ?_⟩
  · rw [hcontents, hlength]
  · rw [hlength]
    exact d.header_le

end Outgoing

/-- However a request is answered, no builder's stream leaves the caller's buffer. The response is
in it, within 20 and 800 octets, and its length field is right. -/
theorem processRequest_landsInPlace (D : Digests) (r₀ : CStunMessageReader) (fAllow : Bool)
    (rbuf : Option CBuffer) (chunks : List (List UInt8)) (msgIn : StunMessageIn)
    (set : TransportAddressSet) (pAuth : Option IStunAuth) (msgOut : StunMessageOut) (buf : CBuffer)
    (hsize : MAX_STUN_MESSAGE_SIZE ≤ buf.getAllocatedSize)
    (hstate : ((r₀.ready fAllow rbuf).addChunks chunks).state = .bodyValidated)
    (hclass : ((r₀.ready fAllow rbuf).addChunks chunks).msgClass = .request) :
    let msgIn := { msgIn with pReader := some ((r₀.ready fAllow rbuf).addChunks chunks) }
    let builders := responseBuilders D (newHandler msgIn set pAuth buf)
    ∃ msgOut' out, processRequest D msgIn (some set) pAuth { msgOut with spBufferOut := some buf } =
        .ok () msgOut' ∧
      msgOut'.spBufferOut = some out ∧ out.getAllocatedSize = buf.getAllocatedSize ∧
      (∀ b ∈ builders, b.stream.spAttached = none ∧
        b.stream.getAllocatedSize = buf.getAllocatedSize) ∧
      (∃ b, builders.getLast? = some b ∧ b.stream.spBuffer = some out) ∧
      out.contents.length = out.size ∧ STUN_HEADER_SIZE ≤ out.size ∧
      out.size ≤ MAX_STUN_MESSAGE_SIZE ∧
      (lengthField out.contents).toNat = out.size - STUN_HEADER_SIZE := by
  intro msgIn' builders
  obtain ⟨ts, hread⟩ := (fed_addChunks fAllow rbuf r₀ chunks).parsed hstate
  -- The last builder's stream holds the response in place.
  obtain ⟨msgOut', hrun, hall, b, out, d, hlast, hin, hout, hcontents, hlength, hcomplete, hle⟩ :=
    processRequest_lands D msgIn set pAuth msgOut hsize hclass hread
  refine ⟨msgOut', out, hrun, hout, hin.allocated_eq, fun b hb => ?_,
    ⟨b, hlast, hin.spBuffer_eq⟩, ?_, ?_, ?_, ?_⟩
  · obtain ⟨buf', hin'⟩ := hall b hb
    refine ⟨hin'.spAttached_eq, ?_⟩
    rw [CDataStream.getAllocatedSize, hin'.spBuffer_eq]
    exact hin'.allocated_eq
  · rw [hcontents, hlength]
  · rw [hlength]
    exact d.header_le
  · rw [hlength]
    exact hle
  · rw [hcontents, hlength, d.lengthField_octets, hcomplete.length_eq, d.length_octets,
      Nat.add_sub_cancel_left]

/-- `processRequest_landsInPlace` for a binding request without a provider. -/
theorem processRequest_landsInPlace_binding :
    ∃ msgOut' out, processRequest (.constant (List.replicate 20 0) (List.replicate 16 0) 0 rfl rfl)
        { datagramFrom .zero with
          pReader := some ((({} : CStunMessageReader).ready true none).addChunks [bindingRequest]) }
        (some fun _ => ⟨.zero, true⟩) none
        ⟨.rolePP, .zero, some (CBuffer.initWithAllocation MAX_STUN_MESSAGE_SIZE)⟩ = .ok () msgOut' ∧
      msgOut'.spBufferOut = some out ∧
      (lengthField out.contents).toNat = out.size - STUN_HEADER_SIZE := by
  obtain ⟨msgOut', out, hrun, hout, -, -, -, -, -, -, hlength⟩ := processRequest_landsInPlace
    (.constant (List.replicate 20 0) (List.replicate 16 0) 0 rfl rfl) {} true none [bindingRequest]
    (datagramFrom .zero) (fun _ => ⟨.zero, true⟩) none ⟨.rolePP, .zero, none⟩
    (CBuffer.initWithAllocation MAX_STUN_MESSAGE_SIZE) (by decide +kernel) (by decide +kernel)
    (by decide +kernel)
  exact ⟨msgOut', out, hrun, hout, hlength⟩

end CStunRequestHandler

end Stun
