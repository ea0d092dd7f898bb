import StunForAndroid.Common.HResult
import StunForAndroid.Common.StringHelper
import StunForAndroid.StunCore.SocketAddress

/-!
# The adapters of the host

`src/networkutils/adapters.cpp`, and `NumericIPToAddress` of `src/networkutils/resolvehostname.cpp`.
The list of the adapters, or the error number of `getifaddrs`, and what `inet_pton` makes of a
string are up to the system. Whatever they are, an address that one of the functions finds is of the
family that was asked for and has the port that was given.
-/

namespace Stun

/-! ## The code -/

/-- A `sockaddr`, of one of the two IP families or of another, such as `AF_PACKET`. -/
inductive SockAddr where
  | ip (addr : CSocketAddress)
  | other
deriving DecidableEq

/-- `ifaddrs`, an entry of the list, with the two flags that are looked at. -/
structure IfAddrs where
  ifa_name : Option CString
  /-- `IFF_UP`. -/
  iff_up : Bool
  /-- `IFF_LOOPBACK`. -/
  iff_loopback : Bool
  ifa_addr : Option SockAddr
deriving DecidableEq

/-- The address of an adapter, if it has one of the family. -/
def IfAddrs.addressOf (family : Family) (pAdapter : IfAddrs) : Option CSocketAddress :=
  match pAdapter.ifa_addr with
  | some (.ip addr) => if addr.ip.family = family then some addr else none
  | _ => none

/-- The loop of `GetDefaultAdapters`, with `*ppAddrPrimary` so far. -/
def getDefaultAdapters (family : Family) : List IfAddrs → Option IfAddrs →
    Option IfAddrs × Option IfAddrs
  | [], ppAddrPrimary => (ppAddrPrimary, none)
  | pAdapter :: rest, ppAddrPrimary =>
    if (pAdapter.addressOf family).isSome && pAdapter.iff_up && !pAdapter.iff_loopback then
      if ppAddrPrimary.isNone then getDefaultAdapters family rest (some pAdapter)
      else (ppAddrPrimary, some pAdapter)
    else getDefaultAdapters family rest ppAddrPrimary

section Host

variable (getifaddrs : Except ℤ (List IfAddrs)) (inet_pton : Family → CString → Option (List UInt8))

/-- `HasAtLeastTwoAdapters`. -/
def hasAtLeastTwoAdapters (family : Family) : Bool :=
  match getifaddrs with
  | .error _ => false
  | .ok pList =>
    let (pAdapter1, pAdapter2) := getDefaultAdapters family pList none
    pAdapter1.isSome && pAdapter2.isSome

/-- `GetBestAddressForSocketBind`. -/
def getBestAddressForSocketBind (fPrimary : Bool) (family : Family) (port : UInt16) :
    Except HRESULT CSocketAddress :=
  match getifaddrs with
  | .error errno => .error (ERRNOHR errno)
  | .ok pList =>
    let (pAdapter1, pAdapter2) := getDefaultAdapters family pList none
    match if fPrimary then pAdapter1 else pAdapter2 with
    | none => .error E_FAIL
    | some pAdapter =>
      match pAdapter.addressOf family with
      | none => .error E_UNEXPECTED
      | some addr => .ok (addr.setPort port)

/-- The adapter that has the name, and the family. -/
def findByName (family : Family) (pszAdapterName : CString) (pList : List IfAddrs) :
    Option IfAddrs :=
  pList.find? fun pAdapter =>
    (pAdapter.addressOf family).isSome && pAdapter.ifa_name == some pszAdapterName

/-- The adapter that has the IP address, which is of the family. -/
def findByAddress (family : Family) (addrbytes : List UInt8) (pList : List IfAddrs) :
    Option IfAddrs :=
  pList.find? fun pAdapter =>
    (pAdapter.addressOf family).any fun addr => addr.ip == IPAddress.ofOctets family addrbytes

/-- `GetSocketAddressForAdapter`. The name may be an IP address as well. -/
def getSocketAddressForAdapter (family : Family) (pszAdapterName : CString) (port : UInt16) :
    Except HRESULT CSocketAddress :=
  if pszAdapterName.isNullOrEmpty then .error E_INVALIDARG
  else
    match getifaddrs with
    | .error errno => .error (ERRNOHR errno)
    | .ok pList =>
      let pAdapterFound := (findByName family pszAdapterName pList).or
        ((inet_pton family pszAdapterName).bind fun addrbytes => findByAddress family
          addrbytes pList)
      match pAdapterFound.bind (IfAddrs.addressOf family) with
      | none => .error E_FAIL
      | some addr => .ok (addr.setPort port)

/-- `NumericIPToAddress`. -/
def numericIPToAddress (family : Family) (pszIP : CString) : Except HRESULT CSocketAddress :=
  match inet_pton family pszIP with
  | none => .error E_FAIL
  | some addrbytes => .ok ⟨IPAddress.ofOctets family addrbytes, 0⟩

end Host

/-! ## What is found -/

variable {getifaddrs : Except ℤ (List IfAddrs)} {inet_pton : Family → CString → Option (List UInt8)}
  {family : Family} {port : UInt16} {addr : CSocketAddress}

/-- An address of an adapter is of the family. -/
theorem IfAddrs.family_of_addressOf {pAdapter : IfAddrs}
    (h : pAdapter.addressOf family = some addr) :
    addr.ip.family = family := by
  unfold addressOf at h
  split at h
  · split_ifs at h with hfamily
    obtain rfl := Option.some.inj h
    exact hfamily
  · cases h

/-- What an address is that is of the family and has the port. -/
def OfFamily (family : Family) (port : UInt16) (addr : CSocketAddress) : Prop :=
  addr.ip.family = family ∧ addr.getPort = port

/-- The address of an adapter with the port set is of the family and has the port. -/
theorem IfAddrs.ofFamily_setPort {pAdapter : IfAddrs} (h : pAdapter.addressOf family = some addr)
    (port : UInt16) : OfFamily family port (addr.setPort port) := by
  have hfamily : addr.ip.family = family := family_of_addressOf h
  exact ⟨hfamily, CSocketAddress.getPort_setPort port addr⟩

/-- The best guess is of the family. -/
theorem ofFamily_getBestAddressForSocketBind {fPrimary : Bool}
    (h : getBestAddressForSocketBind getifaddrs fPrimary family port = .ok addr) :
    OfFamily family port addr := by
  unfold getBestAddressForSocketBind at h
  split at h
  · cases h
  · dsimp only at h
    split at h
    · cases h
    · split at h
      · cases h
      · rename_i haddr
        obtain rfl := Except.ok.inj h
        exact IfAddrs.ofFamily_setPort haddr port

/-- An adapter that is found by its name or its address has an address of the family. -/
theorem ofFamily_getSocketAddressForAdapter {pszAdapterName : CString}
    (h : getSocketAddressForAdapter getifaddrs inet_pton family pszAdapterName port = .ok addr) :
    OfFamily family port addr := by
  unfold getSocketAddressForAdapter at h
  split_ifs at h
  split at h
  · cases h
  · dsimp only at h
    split at h
    · cases h
    · rename_i hfound
      obtain ⟨pAdapter, -, haddr⟩ := Option.bind_eq_some_iff.mp hfound
      obtain rfl := Except.ok.inj h
      exact IfAddrs.ofFamily_setPort haddr port

end Stun
