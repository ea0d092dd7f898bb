import StunForAndroid.StunCore.ClientExchange

/-!
# The network around the client

A server has two IP addresses and two ports, and so four addresses. Between the client and the
server there may be a NAT, which maps the address of the client's socket to one that may depend on
where a packet goes (`Mapping`), and lets packets in that may depend on where packets have gone out
(`FilteringPolicy`).

Only the addresses of the server matter as destinations: `Network.Behaves` says of no other one what
the mapping is.
-/

namespace Stun

/-! ## The server -/

/-- A server with two IP addresses and two ports. -/
structure FourAddressServer where
  primaryIP : IPAddress
  alternateIP : IPAddress
  primaryPort : UInt16
  alternatePort : UInt16
  ip_ne : primaryIP ≠ alternateIP
  port_ne : primaryPort ≠ alternatePort

namespace FourAddressServer

variable (s : FourAddressServer)

/-- The address for a role. -/
def addr : SocketRole → CSocketAddress
  | .rolePP => ⟨s.primaryIP, htons s.primaryPort⟩
  | .rolePA => ⟨s.primaryIP, htons s.alternatePort⟩
  | .roleAP => ⟨s.alternateIP, htons s.primaryPort⟩
  | .roleAA => ⟨s.alternateIP, htons s.alternatePort⟩

/-- The address for a role has the primary port or the alternate one, as the role says. -/
theorem getPort_addr (r : SocketRole) : (s.addr r).getPort =
    match r with
    | .rolePP | .roleAP => s.primaryPort
    | .rolePA | .roleAA => s.alternatePort := by
  cases r <;> exact ntohs_htons _

/-- Swapping the IP address gives another IP address. -/
theorem ip_swapIP (r : SocketRole) : (s.addr (socketRoleSwapIP r)).ip ≠ (s.addr r).ip := by
  cases r
  · exact s.ip_ne.symm
  · exact s.ip_ne.symm
  · exact s.ip_ne
  · exact s.ip_ne

/-- Swapping the port keeps the IP address. -/
theorem ip_swapPort (r : SocketRole) : (s.addr (socketRoleSwapPort r)).ip = (s.addr r).ip := by
  cases r <;> rfl

/-- Swapping the port gives another address. -/
theorem addr_swapPort_ne (r : SocketRole) : s.addr (socketRoleSwapPort r) ≠ s.addr r := by
  intro h
  have hport := congrArg CSocketAddress.getPort h
  rw [getPort_addr, getPort_addr] at hport
  cases r
  · exact s.port_ne hport.symm
  · exact s.port_ne hport
  · exact s.port_ne hport.symm
  · exact s.port_ne hport

/-- Swapping the IP address gives another address. -/
theorem addr_swapIP_ne (r : SocketRole) : s.addr (socketRoleSwapIP r) ≠ s.addr r :=
  fun h => s.ip_swapIP r (congrArg CSocketAddress.ip h)

/-- The four addresses are different. -/
theorem addr_injective {r r' : SocketRole} (h : s.addr r = s.addr r') : r = r' := by
  have hip := congrArg CSocketAddress.ip h
  have hport := congrArg CSocketAddress.getPort h
  rw [getPort_addr, getPort_addr] at hport
  have h₁ := s.ip_ne
  have h₂ := s.port_ne
  cases r <;> cases r' <;>
    first
    | rfl
    | exact (h₁ hip).elim
    | exact (h₁ hip.symm).elim
    | exact (h₂ hport).elim
    | exact (h₂ hport.symm).elim

/-- The role with the other IP address and the other port. -/
def opposite (r : SocketRole) : SocketRole := socketRoleSwapIP (socketRoleSwapPort r)

/-- The IP address of the opposite address with the port of the address is the address with the
other IP address. -/
theorem addr_opposite_setPort (r : SocketRole) :
    (s.addr (opposite r)).setPort (s.addr r).getPort = s.addr (socketRoleSwapIP r) := by
  rw [getPort_addr]
  cases r <;> rfl

end FourAddressServer

/-! ## The mapping of the client's socket -/

/-- The server, the address of the client's socket, the address that the server sees it at, which
may depend on the address of the server, and the address of the server that the client has. -/
structure Network where
  server : FourAddressServer
  addrLocal : CSocketAddress
  /-- Where the server sees a packet from that goes to an address. -/
  mapped : CSocketAddress → CSocketAddress
  /-- The role of the address that the client is configured with. -/
  role : SocketRole
  /-- The server sees the packet at an address. -/
  mapped_ip : ∀ r, (mapped (server.addr r)).isIPAddressZero = false

namespace Network

variable (net : Network)

/-- What the network really is. -/
inductive Behaves : NatBehavior → Prop
  /-- There is no NAT. -/
  | direct (h : ∀ r, net.mapped (net.server.addr r) = net.addrLocal) : Behaves .directMapping
  /-- The mapping is the same for all destinations. -/
  | endpointIndependent (translates : ∀ r, net.mapped (net.server.addr r) ≠ net.addrLocal)
      (h : ∀ r r', net.mapped (net.server.addr r) = net.mapped (net.server.addr r')) :
      Behaves .endpointIndependentMapping
  /-- The mapping is a function of the IP address of the destination, and injective. -/
  | addressDependent (translates : ∀ r, net.mapped (net.server.addr r) ≠ net.addrLocal)
      (h : ∀ r r', net.mapped (net.server.addr r) = net.mapped (net.server.addr r') ↔
        (net.server.addr r).ip = (net.server.addr r').ip) : Behaves .addressDependentMapping
  /-- The mapping is an injective function of the destination. -/
  | addressAndPortDependent (translates : ∀ r, net.mapped (net.server.addr r) ≠ net.addrLocal)
      (h : ∀ r r', net.mapped (net.server.addr r) = net.mapped (net.server.addr r') ↔
        net.server.addr r = net.server.addr r') : Behaves .addressAndPortDependentMapping

/-! ## Honest answers -/

/-- The role of the address that the requests of a test go to. -/
def destination : TestKind → SocketRole
  | .basicBinding => net.role
  | .behavior fIsTest3 => if fIsTest3 = false then socketRoleSwapIP net.role
      else FourAddressServer.opposite net.role
  | .filtering _ => net.role

/-- An answer of an honest server to a request: it has the request's transaction id, the address
that the server has seen the request from in one or both of the attributes for it, and the server's
opposite address. -/
structure Answers (request : Sent) (answer : List UInt8) : Prop where
  state : (readerOf answer).state = .bodyValidated
  transid : (readerOf answer).transactionid = (readerOf request.octets).transactionid
  xorMapped : ∀ a, (readerOf answer).getXorMappedAddress = .ok a → a = net.mapped request.addrDest
  mapped : ∀ a, (readerOf answer).getMappedAddress = .ok a → a = net.mapped request.addrDest
  has : (∃ a, (readerOf answer).getXorMappedAddress = .ok a) ∨
    ∃ a, (readerOf answer).getMappedAddress = .ok a
  other : ∀ r, request.addrDest = net.server.addr r →
    (readerOf answer).getOtherAddress = .ok (net.server.addr (FourAddressServer.opposite r))

/-- The network delivers answers to requests that were sent, in any order and any number. -/
def Delivers (w : Exchange) (d : Datagram) : Prop :=
  d.addrLocal = net.addrLocal ∧ ∃ request ∈ w.sent, net.Answers request d.octets

/-- The network delivers answers to requests that were sent, and whatever has one of the transaction
ids that others use. -/
def DeliversAmong (foreign : Set StunTransactionId) (w : Exchange) (d : Datagram) : Prop :=
  net.Delivers w d ∨ (readerOf d.octets).transactionid ∈ foreign

variable {net}

/-- The mapped address that a test takes from an honest answer. -/
theorem Answers.mappedAddressOf {request : Sent} {answer : List UInt8}
    (h : net.Answers request answer) :
    StunClientTest.mappedAddressOf (readerOf answer) = .ok (net.mapped request.addrDest) := by
  unfold StunClientTest.mappedAddressOf
  cases hxor : (readerOf answer).getXorMappedAddress with
  | ok a => rw [h.xorMapped a hxor]
  | error hr =>
    obtain ⟨a, ha⟩ := h.has.resolve_left fun ⟨a, ha⟩ => by rw [hxor] at ha; cases ha
    rw [ha, h.mapped a ha]

end Network

end Stun
