import StunForAndroid.Server.SocketThread
import StunForAndroid.StunCore.Advertised
import StunForAndroid.StunCore.ClientMapping
import StunForAndroid.StunCore.Decision

/-!
# The server is an honest one

The runs of the client are about any server that answers honestly (`Network.Answers`). Here a thread
of the UDP server with four addresses and without a provider is shown to be one: it answers every
request that the client can send (`answers_request`), whatever it has served before, and from where
the request asks for. Whatever anyone else sends it, the response goes back to the IP address it
came from (`ip_response`), with the transaction id it came with (`transid_response`).
-/

namespace Stun

open Octets Fallible CDataStream CStunMessageBuilder CStunMessageReader CStunRequestHandler

/-- What a thread sends: the role of the socket, the destination and the octets. -/
abbrev Response : Type := SocketRole × CSocketAddress × List UInt8

/-- The address set of the threads of a server with four addresses. -/
def FourAddressServer.addressSet (s : FourAddressServer) : TransportAddressSet :=
  fun role => ⟨s.addr role, true⟩

/-- Every address of a server can be advertised. -/
def FourAddressServer.Advertises (s : FourAddressServer) : Prop :=
  ∀ role, (s.addr role).isIPAddressZero = false

/-! ## Requests of a client -/

section Requests

variable {transid : StunTransactionId} {change : StunChangeRequestAttribute} {fAllow : Bool}
  {r : CStunMessageReader}

/-- A request has one attribute. -/
theorem attributes_requestDraft :
    (requestDraft transid change).attributes = [changeAttribute change] := rfl

/-- The attribute is no RESPONSE-PORT. -/
theorem wireResponsePort_request : wireResponsePort [changeAttribute change] = none := by
  have hnone : lastOfType STUN_ATTRIBUTE_RESPONSE_PORT [changeAttribute change] = none := by
    refine lastOfType_eq_none fun x hx => ?_
    rw [List.mem_singleton.mp hx, changeAttribute, ofValue_type]
    decide
  unfold wireResponsePort
  rw [hnone]
  rfl

/-- The request of a test has the CHANGE-REQUEST of the test. -/
theorem getChangeRequest_request
    (h : Parsed fAllow (requestDraft transid change).octets
      (requestDraft transid change).attributes r) :
    r.getChangeRequest = .ok change := by
  rw [attributes_requestDraft] at h
  have h' : Parsed fAllow (requestDraft transid change).octets
      ([] ++ changeAttribute change :: []) r := h
  exact h'.getChangeRequest_eq ofValue_type ofValue_value (by simp)

/-- No response port is asked for. -/
theorem getResponsePort_request
    (h : Parsed fAllow (requestDraft transid change).octets
      (requestDraft transid change).attributes r)
    (port : UInt16) : r.getResponsePort ≠ .ok port := by
  rw [attributes_requestDraft] at h
  intro hport
  rw [h.getResponsePort_ok_iff, wireResponsePort_request] at hport
  cases hport

end Requests

/-! ## What the handler makes of them -/

section Handler

variable {s : FourAddressServer} {transid : StunTransactionId} {change : StunChangeRequestAttribute}
  {fAllow : Bool} {r : CStunMessageReader} {msgIn : StunMessageIn} {buf : CBuffer}

/-- The handler accepts the request, and answers it from the socket that it asks for. -/
theorem outcome_request (D : Digests) (hconn : msgIn.fConnectionOriented = false)
    (h : Parsed fAllow (requestDraft transid change).octets
      (requestDraft transid change).attributes r) :
    outcome D (newHandler { msgIn with pReader := some r } s.addressSet none buf) =
      .accepted (answeringRole change msgIn.socketrole) none := by
  have hchange := getChangeRequest_request h
  have hset : (newHandler { msgIn with pReader := some r } s.addressSet none buf).pAddrSet =
    some s.addressSet := rfl
  have hgood : ¬BadRequest s.addressSet { msgIn with pReader := some r } r.msgTypeNormalized
      (requestDraft transid change).attributes := by
    have hport : ¬WantsPort (requestDraft transid change).attributes := by
      rintro ⟨port, hport, -⟩
      rw [attributes_requestDraft, wireResponsePort_request] at hport
      cases hport
    rintro (htype | ⟨-, hwants⟩ | ⟨hwants, -⟩ | ⟨_, -, -, hinvalid | hconn'⟩)
    · exact htype ((Draft.header_of_parsed h).1.trans (normalizedType_msgTypeField (by decide) _))
    · exact hport hwants
    · exact hport hwants
    · cases hinvalid
    · rw [hconn] at hconn'
      cases hconn'
  obtain ⟨socketOutput, haccepted⟩ := (outcome_none D hset rfl h).2 hgood
  -- The socket is the one that the CHANGE-REQUEST asks for.
  obtain ⟨hrole, -⟩ := responseSocket_spec (responseSocket_of_accepted haccepted)
  have hrequested : requestedRole r msgIn.socketrole = answeringRole change msgIn.socketrole := by
    unfold requestedRole
    rw [hchange]
  rw [haccepted, hrole]
  exact congrArg (Outcome.accepted · none) hrequested

/-- The response goes to where the request came from. -/
theorem destination_request
    (h : Parsed fAllow (requestDraft transid change).octets
      (requestDraft transid change).attributes r) :
    (newHandler { msgIn with pReader := some r } s.addressSet none buf).destination =
      msgIn.addrRemote := by
  have hport := getResponsePort_request h
  have hreader :
      (newHandler { msgIn with pReader := some r } s.addressSet none buf).reader = r := rfl
  unfold destination
  rw [hreader]
  cases hresult : r.getResponsePort with
  | ok port => exact absurd hresult (hport port)
  | error hr => rfl

/-- The other address in the response is the one opposite to the socket of the request. -/
theorem otherAddress_request (hadvertises : s.Advertises) :
    (newHandler { msgIn with pReader := some r } s.addressSet none buf).otherAddress =
      some (s.addr (FourAddressServer.opposite msgIn.socketrole)) := by
  have hset : (newHandler { msgIn with pReader := some r } s.addressSet none buf).pAddrSet =
    some s.addressSet := rfl
  exact (otherAddress_eq_some_iff hset _).mpr ⟨fun _ => rfl, hadvertises _, rfl⟩

end Handler

/-- What a client reads in the response to one of its requests. -/
structure ReadsResponse (s : FourAddressServer) (transid : StunTransactionId) (role : SocketRole)
    (addrRemote : CSocketAddress) (r : CStunMessageReader) : Prop where
  state : r.state = .bodyValidated
  msgClass : r.msgClass = .successResponse
  transid : r.transactionid = transid
  getMappedAddress : r.getMappedAddress = .ok addrRemote
  getXorMappedAddress : r.getXorMappedAddress = .ok addrRemote
  getOtherAddress : r.getOtherAddress = .ok (s.addr (FourAddressServer.opposite role))

/-- A client reads the honest answer in the success response with the opposite address. -/
theorem readsResponse {s : FourAddressServer} (D : Digests) (transid : StunTransactionId)
    (fLegacy : Bool) (role : SocketRole) (addrRemote : CSocketAddress)
    (addrOrigin : Option CSocketAddress) :
    ReadsResponse s transid role addrRemote (readerOf (successDraft D transid fLegacy addrRemote
      addrOrigin (some (s.addr (FourAddressServer.opposite role))) none).octets) := by
  have h := (complete_successDraft D transid fLegacy addrRemote addrOrigin
    (some (s.addr (FourAddressServer.opposite role))) none).parsed_readerOf
  have htransid := (Draft.header_of_parsed h).2.2
  exact ⟨h.state, (header_of_successDraft h).1, htransid, getMappedAddress_of_successDraft h,
    getXorMappedAddress_of_successDraft h htransid, getOtherAddress_of_successDraft h⟩

/-! ## A thread of the server -/

namespace CStunSocketThread

section Thread

variable {s : FourAddressServer} {t : CStunSocketThread}

/-- The thread's answer to a datagram that it receives. -/
def answer (D : Digests) (pAuth : Option IStunAuth) (d : Datagram) (t : CStunSocketThread) :
    Option Response × CStunSocketThread :=
  (t.receive d).processRequestAndSendResponse D pAuth

/-- The reader of a thread that has received a request of a client has parsed it. -/
theorem Initialized.parsed_request {tsa : TransportAddressSet} (hi : Initialized tsa t)
    {d : Datagram} {transid : StunTransactionId} {change : StunChangeRequestAttribute}
    (hd : d.octets = (requestDraft transid change).octets) :
    Parsed true (requestDraft transid change).octets (requestDraft transid change).attributes
      (t.receive d).consumeMessage.reader := by
  have hfed := Initialized.fed_consumeMessage (t.receive d)
  have hfits : (requestDraft transid change).octets.length ≤ MAX_STUN_MESSAGE_SIZE := by
    rw [length_requestDraft]
    decide
  rw [hi.contents_receive, hd, List.take_of_length_le hfits] at hfed
  exact (complete_requestDraft transid change).parsed (.inl rfl) hfed

/-- A thread answers a request of a client from the socket that it asks for, to where it came
from. -/
theorem Initialized.answer_request (hi : Initialized s.addressSet t) (hadvertises : s.Advertises)
    (D : Digests) {d : Datagram} {transid : StunTransactionId} {change : StunChangeRequestAttribute}
    (hd : d.octets = (requestDraft transid change).octets) :
    ∃ out, (t.answer D none d).1 = some (answeringRole change d.role, d.addrRemote, out) ∧
      ReadsResponse s transid d.role d.addrRemote (readerOf out) := by
  -- The thread reads the request that was sent.
  have hread := hi.parsed_request hd
  obtain ⟨buf, hsize, hresponse⟩ := hi.response_eq hread.state
  have hclass : (t.receive d).consumeMessage.reader.msgClass = .request :=
    (Draft.header_of_parsed hread).2.1.trans (messageClass_msgTypeField _ (by decide))
  have htransid : (t.receive d).consumeMessage.reader.transactionid = transid :=
    (Draft.header_of_parsed hread).2.2
  obtain ⟨out, hrun, -, hcontents, -⟩ :=
    processRequest_outcome D d.msgIn s.addressSet none t.msgOut hsize hclass hread
  rw [outcome_request D rfl hread] at hrun hcontents
  -- No provider refuses it, and it asks for no response port.
  rw [destination_request hread] at hrun
  refine ⟨out.contents, ?_, ?_⟩
  · unfold answer
    rw [hresponse, hrun]
    rfl
  · unfold Outcome.draft at hcontents
    rw [otherAddress_request hadvertises] at hcontents
    have hreads := readsResponse (s := s) D transid
      (t.receive d).consumeMessage.reader.fMessageIsLegacyFormat d.role d.addrRemote
      ((newHandler { d.msgIn with pReader := some (t.receive d).consumeMessage.reader } s.addressSet
        none buf).originAddress (answeringRole change d.role))
    rw [← htransid] at hreads ⊢
    rw [hcontents]
    exact hreads

/-- What a thread sends goes to the IP address that the datagram came from. -/
theorem Initialized.ip_response {tsa : TransportAddressSet} (hi : Initialized tsa t) {D : Digests}
    {pAuth : Option IStunAuth} {d : Datagram} {response : Response}
    (h : (t.answer D pAuth d).1 = some response) : response.2.1.ip = d.addrRemote.ip := by
  by_cases hstate : (t.receive d).consumeMessage.reader.state = .bodyValidated
  · obtain ⟨buf, hsize, hresponse⟩ := hi.response_eq hstate
    unfold answer at h
    rw [hresponse] at h
    obtain ⟨ts, hread⟩ := (fed_consumeMessage (t.receive d)).parsed hstate
    by_cases hclass : (t.receive d).consumeMessage.reader.msgClass = .request
    · obtain ⟨out, hrun, -⟩ :=
        processRequest_outcome D d.msgIn tsa pAuth t.msgOut hsize hclass hread
      rw [hrun] at h
      obtain rfl := Option.some.inj h
      exact (destination_spec _).1
    · rw [processRequest_other D d.msgIn tsa pAuth t.msgOut hsize hstate hclass] at h
      cases h
  · unfold answer CStunSocketThread.processRequestAndSendResponse at h
    dsimp only at h
    rw [if_pos hstate] at h
    cases h

/-- The transaction id of a datagram, as far as it fits into the buffer of a thread. -/
def Datagram.transid (d : Datagram) : StunTransactionId :=
  (readerOf (d.octets.take MAX_STUN_MESSAGE_SIZE)).transactionid

/-- What a thread sends has the transaction id of the datagram. -/
theorem Initialized.transid_response {tsa : TransportAddressSet} (hi : Initialized tsa t)
    {D : Digests} {pAuth : Option IStunAuth} {d : Datagram} {response : Response}
    (h : (t.answer D pAuth d).1 = some response) :
    (readerOf response.2.2).transactionid = d.transid := by
  have hfed := fed_consumeMessage (t.receive d)
  rw [hi.contents_receive] at hfed
  by_cases hstate : (t.receive d).consumeMessage.reader.state = .bodyValidated
  · obtain ⟨buf, hsize, hresponse⟩ := hi.response_eq hstate
    unfold answer at h
    rw [hresponse] at h
    obtain ⟨ts, hread⟩ := hfed.parsed hstate
    by_cases hclass : (t.receive d).consumeMessage.reader.msgClass = .request
    · obtain ⟨msgOut, out, draft, hrun, hout, hcontents, hanswers⟩ :=
        processRequest_request D d.msgIn tsa pAuth t.msgOut hsize hclass hread
      rw [hrun] at h
      obtain rfl := Option.some.inj h
      have hresponds := (hanswers.isResponse hread hanswers.complete.parsed_readerOf).transid
      -- A new reader reads the datagram as the thread's reader does.
      have hnew : Fed true (d.octets.take MAX_STUN_MESSAGE_SIZE)
          (readerOf (d.octets.take MAX_STUN_MESSAGE_SIZE)) := fresh_new.fed.addBytes _
      obtain ⟨us, hread'⟩ := hnew.parsed (hfed.state_eq hnew ▸ hstate)
      unfold Datagram.transid
      rw [hread'.header.transid, ← hread.header.transid, ← hresponds]
      show (readerOf (msgOut.spBufferOut.getD {}).contents).transactionid = _
      rw [hout, Option.getD_some, hcontents]
    · rw [processRequest_other D d.msgIn tsa pAuth t.msgOut hsize hstate hclass] at h
      cases h
  · unfold answer CStunSocketThread.processRequestAndSendResponse at h
    dsimp only at h
    rw [if_pos hstate] at h
    cases h

end Thread

end CStunSocketThread

/-! ## The network's view of it -/

/-- A response from which a client reads the honest answer is one to its request. -/
theorem ReadsResponse.answers {net : Network} {request : Sent} {role : SocketRole}
    {out : List UInt8} (hdest : request.addrDest = net.server.addr role)
    (h : ReadsResponse net.server (readerOf request.octets).transactionid role
      (net.mapped request.addrDest) (readerOf out)) : net.Answers request out where
  state := h.state
  transid := h.transid
  xorMapped a ha := by
    rw [h.getXorMappedAddress] at ha
    exact (Except.ok.inj ha).symm
  mapped a ha := by
    rw [h.getMappedAddress] at ha
    exact (Except.ok.inj ha).symm
  has := .inl ⟨_, h.getXorMappedAddress⟩
  other r hr := by
    rw [hdest] at hr
    rw [h.getOtherAddress, net.server.addr_injective hr]

end Stun
