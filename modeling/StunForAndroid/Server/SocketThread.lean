import StunForAndroid.StunCore.SameAnswers

/-!
# `CStunSocketThread`

`src/server/stunsocketthread.cpp`: what a thread of the UDP server does with a datagram. The thread
keeps a reader, three buffers and two messages, and uses them again for each datagram. What it sends
depends on none of them (`processRequestAndSendResponse_after`): whatever came before, it is what a
thread with new buffers sends.

The thread's reader shares its buffer with the thread, and the outgoing message has the buffer that
the response is sent from. The incoming message always points to the reader. The provider may answer
differently from one datagram to the next, so each datagram comes with the provider then.
-/

namespace Stun

open Octets Fallible CDataStream CStunMessageReader

/-- `CStunSocketThread`, as far as it serves requests. -/
structure CStunSocketThread where
  tsa : TransportAddressSet
  reader : CStunMessageReader := {}
  spBufferReader : CBuffer := {}
  spBufferIn : CBuffer := {}
  /-- `_msgIn`, whose `pReader` is the reader. -/
  msgIn : StunMessageIn := ⟨.rolePP, .zero, .zero, none, false⟩
  /-- `_msgOut`, whose buffer is also `_spBufferOut`. -/
  msgOut : StunMessageOut := ⟨.rolePP, .zero, none⟩

namespace CStunSocketThread

/-! ## Serving datagrams -/

/-- A datagram, with the role of the socket that it comes to. -/
structure Datagram where
  octets : List UInt8
  addrRemote : CSocketAddress
  addrLocal : CSocketAddress
  role : SocketRole

/-- `StunMessageIn` of a datagram, without a reader yet. -/
def Datagram.msgIn (d : Datagram) : StunMessageIn :=
  ⟨d.role, d.addrLocal, d.addrRemote, none, false⟩

/-- `InitThreadBuffers`. -/
def initThreadBuffers (t : CStunSocketThread) : CStunSocketThread :=
  let spBufferReader := CBuffer.initWithAllocation MAX_STUN_MESSAGE_SIZE
  { t with
    reader := t.reader.reset.attachStream spBufferReader
    spBufferReader := (spBufferReader.setSize 0).2
    spBufferIn := CBuffer.initWithAllocation MAX_STUN_MESSAGE_SIZE
    msgIn.fConnectionOriented := false
    msgOut.spBufferOut := some (CBuffer.initWithAllocation MAX_STUN_MESSAGE_SIZE) }

/-- `recvfromex` of a datagram, as far as it fits the buffer, and what `Run` does before it handles
it. The addresses of an empty datagram are not written. -/
def receive (d : Datagram) (t : CStunSocketThread) : CStunSocketThread :=
  let spBufferIn := (t.spBufferIn.setSize 0).2
  let received := d.octets.take spBufferIn.getAllocatedSize
  let spBufferIn := { spBufferIn with data := overwrite spBufferIn.data 0 received }
  { t with
    spBufferIn := (spBufferIn.setSize received.length).2
    msgIn.addrRemote := if received.length > 0 then d.addrRemote else t.msgIn.addrRemote
    msgIn.addrLocal := if received.length > 0 then d.addrLocal else t.msgIn.addrLocal
    msgIn.socketrole := d.role }

/-- `recvfromex` fails. -/
def receiveFails (t : CStunSocketThread) : CStunSocketThread :=
  { t with spBufferIn := (t.spBufferIn.setSize 0).2 }

/-- The first part of `ProcessRequestAndSendResponse`: the reader is fed the datagram. -/
def consumeMessage (t : CStunSocketThread) : CStunSocketThread :=
  let spBufferReader := (t.spBufferReader.setSize 0).2
  let reader := t.reader.reset.attachStream spBufferReader
  let reader := (reader.addBytes t.spBufferIn.contents).2
  { t with
    reader := reader
    spBufferReader := reader.stream.attachedBuffer.getD spBufferReader }

/-- `ProcessRequestAndSendResponse`: what is sent, and the thread then. -/
def processRequestAndSendResponse (D : Digests) (pAuth : Option IStunAuth) (t : CStunSocketThread) :
    Option (SocketRole × CSocketAddress × List UInt8) × CStunSocketThread :=
  let t := t.consumeMessage
  if t.reader.state ≠ .bodyValidated then (none, t)
  else
    let m :=
      CStunRequestHandler.processRequest D { t.msgIn with pReader := some t.reader } (some t.tsa)
      pAuth
    (CStunRequestHandler.sentBy (m t.msgOut), { t with msgOut := finalState m t.msgOut })

/-- A round of `Run`: there is a datagram, or an error. -/
def serve (D : Digests) (received : Option Datagram) (pAuth : Option IStunAuth)
    (t : CStunSocketThread) : CStunSocketThread :=
  match received with
  | none => t.receiveFails
  | some d => ((t.receive d).processRequestAndSendResponse D pAuth).2

/-- The thread after some rounds, each with the provider then. -/
def run (D : Digests) (history : List (Option Datagram × Option IStunAuth))
    (t : CStunSocketThread) :
    CStunSocketThread :=
  history.foldl (fun t x => t.serve D x.1 x.2) t

/-! ## What is kept -/

/-- The sizes of the thread's buffers, which is all that is kept of them. -/
structure Initialized (tsa : TransportAddressSet) (t : CStunSocketThread) : Prop where
  tsa_eq : t.tsa = tsa
  allocated_in : t.spBufferIn.getAllocatedSize = MAX_STUN_MESSAGE_SIZE
  connectionless : t.msgIn.fConnectionOriented = false
  allocated_out : ∃ buf, t.msgOut.spBufferOut = some buf ∧
    MAX_STUN_MESSAGE_SIZE ≤ buf.getAllocatedSize

variable {tsa : TransportAddressSet} {t : CStunSocketThread} {D : Digests}

/-- A thread is initialized after `InitThreadBuffers`. -/
theorem initialized_initThreadBuffers (t : CStunSocketThread) :
    Initialized t.tsa t.initThreadBuffers where
  tsa_eq := rfl
  allocated_in := List.length_replicate
  connectionless := rfl
  allocated_out := ⟨_, rfl, List.length_replicate.ge⟩

namespace Initialized

variable (hi : Initialized tsa t)
include hi

/-- What `recvfromex` writes is as long as the buffer at most. -/
theorem length_received (d : Datagram) :
    (overwrite t.spBufferIn.data 0 (d.octets.take t.spBufferIn.getAllocatedSize)).length =
      MAX_STUN_MESSAGE_SIZE := by
  have hall := hi.allocated_in
  unfold CBuffer.getAllocatedSize at hall ⊢
  rw [length_overwrite _ _ _ (Nat.zero_le _), List.length_take, hall]
  omega

/-- The datagram is in the buffer, as far as it fits. -/
theorem contents_receive (d : Datagram) :
    (t.receive d).spBufferIn.contents = d.octets.take MAX_STUN_MESSAGE_SIZE := by
  have hall := hi.allocated_in
  unfold CStunSocketThread.receive
  simp only [CBuffer.setSize_snd]
  show (overwrite t.spBufferIn.data 0 (d.octets.take t.spBufferIn.getAllocatedSize)).take _ = _
  rw [show CBuffer.getAllocatedSize { t.spBufferIn with size := 0 } = t.spBufferIn.getAllocatedSize
    from rfl, hall, overwrite, List.take_zero, List.nil_append, List.take_left]

/-- A thread stays initialized when it receives a datagram. -/
theorem receive (d : Datagram) : Initialized tsa (t.receive d) where
  tsa_eq := hi.tsa_eq
  allocated_in := by
    unfold CStunSocketThread.receive
    simp only [CBuffer.setSize_snd]
    exact hi.length_received d
  connectionless := hi.connectionless
  allocated_out := hi.allocated_out

/-- A thread stays initialized when receiving fails. -/
theorem receiveFails : Initialized tsa t.receiveFails where
  tsa_eq := hi.tsa_eq
  allocated_in := by
    unfold CStunSocketThread.receiveFails
    rw [CBuffer.setSize_snd]
    exact hi.allocated_in
  connectionless := hi.connectionless
  allocated_out := hi.allocated_out

omit hi in
/-- The reader has been fed the octets in the buffer, and nothing else. -/
theorem fed_consumeMessage (t : CStunSocketThread) :
    Fed true t.spBufferIn.contents t.consumeMessage.reader :=
  fed_addBytes true (some (t.spBufferReader.setSize 0).2) t.reader t.spBufferIn.contents

/-- A thread stays initialized when it handles a datagram. -/
theorem processRequestAndSendResponse (D : Digests) (pAuth : Option IStunAuth) :
    Initialized tsa (t.processRequestAndSendResponse D pAuth).2 := by
  have hfed := fed_consumeMessage t
  unfold CStunSocketThread.processRequestAndSendResponse
  dsimp only
  split_ifs with hstate
  · exact ⟨hi.tsa_eq, hi.allocated_in, hi.connectionless, hi.allocated_out⟩
  · obtain ⟨buf, hbuf, hsize⟩ := hi.allocated_out
    have hout : t.consumeMessage.msgOut = { t.msgOut with spBufferOut := some buf } := by
      rw [← hbuf]
      rfl
    obtain ⟨out, hrun, hall⟩ := CStunRequestHandler.processRequest_allocated hfed hsize D
      t.msgIn t.tsa pAuth t.msgOut
    refine ⟨hi.tsa_eq, hi.allocated_in, hi.connectionless, out, ?_, hall⟩
    rw [hout]
    exact hrun

/-- A thread stays initialized through a round. -/
theorem serve (D : Digests) (received : Option Datagram) (pAuth : Option IStunAuth) :
    Initialized tsa (t.serve D received pAuth) := by
  cases received with
  | none => exact hi.receiveFails
  | some d => exact (hi.receive d).processRequestAndSendResponse D pAuth

/-- A thread stays initialized through any number of rounds. -/
theorem run (D : Digests) (history : List (Option Datagram × Option IStunAuth)) :
    Initialized tsa (t.run D history) := by
  induction history generalizing t with
  | nil => exact hi
  | cons x history ih => exact ih (hi.serve D x.1 x.2)

end Initialized

/-! ## What is sent -/

/-- What a datagram asks the provider. -/
def askedBy (d : Datagram) : AuthAttributes :=
  CStunRequestHandler.authAttributes
    ((({} : CStunMessageReader).ready true none).addBytes (d.octets.take MAX_STUN_MESSAGE_SIZE)).2

/-- What a thread with new buffers sends for its first datagram, when the provider, if there is one,
gives an answer. -/
def responseTo (D : Digests) (tsa : TransportAddressSet) (d : Datagram)
    (answer : Option (HRESULT × AuthResponse)) :
    Option (SocketRole × CSocketAddress × List UInt8) :=
  (((initThreadBuffers { tsa := tsa }).receive d).processRequestAndSendResponse D
    (answer.map fun a _ => a)).1

/-- The incoming message is that of the datagram, when it is not empty. -/
theorem Initialized.msgIn_receive (hi : Initialized tsa t) {d : Datagram} (hd : d.octets ≠ []) :
    (t.receive d).msgIn = ⟨d.role, d.addrLocal, d.addrRemote, t.msgIn.pReader, false⟩ := by
  have hpos : (d.octets.take MAX_STUN_MESSAGE_SIZE).length > 0 := by
    rw [List.length_take]
    exact lt_min (by decide) (List.length_pos_of_ne_nil hd)
  have hall := hi.allocated_in
  unfold CStunSocketThread.receive
  simp only [CBuffer.setSize_snd]
  rw [show CBuffer.getAllocatedSize { t.spBufferIn with size := 0 } = t.spBufferIn.getAllocatedSize
    from rfl, hall, if_pos hpos, if_pos hpos, ← hi.connectionless]

/-- What is sent for a datagram that is a message. -/
theorem Initialized.response_eq (hi : Initialized tsa t) {d : Datagram}
    (hstate : (t.receive d).consumeMessage.reader.state = .bodyValidated) :
    ∃ buf, MAX_STUN_MESSAGE_SIZE ≤ buf.getAllocatedSize ∧ ∀ D pAuth,
      ((t.receive d).processRequestAndSendResponse D pAuth).1 =
        CStunRequestHandler.sentBy (CStunRequestHandler.processRequest D
          { d.msgIn with pReader := some (t.receive d).consumeMessage.reader } (some tsa) pAuth
          { t.msgOut with spBufferOut := some buf }) := by
  obtain ⟨buf, hbuf, hsize⟩ := hi.allocated_out
  have hfed := fed_consumeMessage (t.receive d)
  rw [hi.contents_receive] at hfed
  -- An empty datagram is no message, so that the addresses are those of this datagram.
  have hd : d.octets ≠ [] := by
    intro hnil
    have hlen := (hfed.bodyValidated_iff.mp hstate).length_eq
    rw [hnil, List.take_nil, List.length_nil] at hlen
    unfold STUN_HEADER_SIZE at hlen
    omega
  have hmsg : { (t.receive d).msgIn with pReader := some (t.receive d).consumeMessage.reader } =
      { d.msgIn with pReader := some (t.receive d).consumeMessage.reader } := by
    rw [hi.msgIn_receive hd]
    rfl
  have hout : (t.receive d).consumeMessage.msgOut = { t.msgOut with spBufferOut := some buf } := by
    rw [← hbuf]
    rfl
  refine ⟨buf, hsize, fun D pAuth => ?_⟩
  unfold CStunSocketThread.processRequestAndSendResponse
  dsimp only
  rw [if_neg (not_not.mpr hstate)]
  show CStunRequestHandler.sentBy (CStunRequestHandler.processRequest D
    { (t.receive d).msgIn with pReader := some (t.receive d).consumeMessage.reader }
    (some t.tsa) pAuth
    (t.receive d).consumeMessage.msgOut) = _
  rw [hmsg, hout, hi.tsa_eq]

/-- Two threads that have handled different datagrams send the same for the next one, when the
provider answers the same. -/
theorem Initialized.response_same {t' : CStunSocketThread} (hi : Initialized tsa t)
    (hi' : Initialized tsa t') (D : Digests) (d : Datagram) {pAuth pAuth' : Option IStunAuth}
    (hanswer : pAuth.map (· (askedBy d)) = pAuth'.map (· (askedBy d))) :
    ((t.receive d).processRequestAndSendResponse D pAuth).1 =
      ((t'.receive d).processRequestAndSendResponse D pAuth').1 := by
  have hfed := fed_consumeMessage (t.receive d)
  have hfed' := fed_consumeMessage (t'.receive d)
  rw [hi.contents_receive] at hfed
  rw [hi'.contents_receive] at hfed'
  have hsame := hfed.state_eq hfed'
  by_cases hstate : (t.receive d).consumeMessage.reader.state = .bodyValidated
  · obtain ⟨buf, hsize, hresponse⟩ := hi.response_eq hstate
    obtain ⟨buf', hsize', hresponse'⟩ := hi'.response_eq (hsame ▸ hstate)
    -- The provider is asked what it is asked for a new reader.
    have hasked : ∀ r, Fed true (d.octets.take MAX_STUN_MESSAGE_SIZE) r → r.state = .bodyValidated →
        CStunRequestHandler.authAttributes r = askedBy d := by
      intro r hr hvalid
      have hnew := fed_addBytes true none {} (d.octets.take MAX_STUN_MESSAGE_SIZE)
      obtain ⟨ts, hread⟩ := hr.parsed hvalid
      obtain ⟨us, hread'⟩ := hnew.parsed (hr.state_eq hnew ▸ hvalid)
      exact CStunRequestHandler.authAttributes_same hread hread'
    rw [hresponse, hresponse']
    apply CStunRequestHandler.sentBy_processRequest_same hfed hfed' hsize hsize'
    intro _
    rw [hasked _ hfed hstate, hasked _ hfed' (hsame ▸ hstate)]
    exact hanswer
  · have hnone : ∀ {t : CStunSocketThread} {pAuth : Option IStunAuth},
        t.consumeMessage.reader.state ≠ .bodyValidated →
        (t.processRequestAndSendResponse D pAuth).1 = none := by
      intro t pAuth hne
      unfold CStunSocketThread.processRequestAndSendResponse
      dsimp only
      rw [if_pos hne]
    rw [hnone hstate, hnone (hsame ▸ hstate)]

/-- After any history a thread sends for a datagram what a thread with new buffers sends, with the
same address set, when the provider gives the same answer. -/
theorem response_after (D : Digests) (t₀ : CStunSocketThread)
    (history : List (Option Datagram × Option IStunAuth)) (d : Datagram)
    (pAuth : Option IStunAuth) :
    (((t₀.initThreadBuffers.run D history).receive d).processRequestAndSendResponse D pAuth).1 =
      responseTo D t₀.tsa d (pAuth.map (· (askedBy d))) := by
  have hi := (initialized_initThreadBuffers t₀).run D history
  apply hi.response_same (initialized_initThreadBuffers { tsa := t₀.tsa }) D d
  cases pAuth with
  | none => rfl
  | some pAuth => rfl

end CStunSocketThread

end Stun
