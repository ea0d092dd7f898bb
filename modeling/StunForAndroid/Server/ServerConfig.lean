import StunForAndroid.Client.ClientConfig
import StunForAndroid.NetworkUtils.Adapters
import StunForAndroid.Server.ServerInit

/-!
# The configuration of the server

`BuildServerConfigurationFromArgs` of `src/server/main.cpp`, which makes the configuration of the
server from the options of its command line. Each of its checks has a definition here, and
`configure` has them in the order of the code. The configuration is written to `*pConfigOut` when
none of them fails.
-/

namespace Stun

open Fallible

/-! ## The code -/

/-- `StartupArgs`, as far as the configuration depends on it. -/
structure StartupArgs where
  strMode : StdString := []
  strPrimaryInterface : StdString := []
  strAltInterface : StdString := []
  strPrimaryPort : StdString := []
  strAltPort : StdString := []
  strPrimaryAdvertised : StdString := []
  strAlternateAdvertised : StdString := []
  strFamily : StdString := []
  strProtocol : StdString := []
  strMaxConnections : StdString := []
deriving DecidableEq

/-- `ServerMode`. -/
inductive ServerMode where
  | basic
  | full
deriving DecidableEq

namespace StartupArgs

/-- The copy of the arguments, with lower case letters and without white space at their ends. -/
def normalize (args : StartupArgs) : StartupArgs :=
  { args with
    strMode := args.strMode.toLower.trim
    strPrimaryInterface := args.strPrimaryInterface.trim
    strAltInterface := args.strAltInterface.trim
    strPrimaryPort := args.strPrimaryPort.trim
    strAltPort := args.strAltPort.trim
    strFamily := args.strFamily.trim
    strProtocol := args.strProtocol.toLower.trim
    strPrimaryAdvertised := args.strPrimaryAdvertised.trim
    strAlternateAdvertised := args.strAlternateAdvertised.trim }

/-- The mode that a string stands for. -/
def mode (strMode : StdString) : Except HRESULT ServerMode :=
  if strMode.length > 0 then
    if strMode = OptionValue.basic.chars then .ok .basic
    else if strMode = OptionValue.full.chars then .ok .full
    else .error E_INVALIDARG
  else .ok .basic

/-- The address family that a string stands for. -/
def family (strFamily : StdString) : Except HRESULT Family :=
  if strFamily.length > 0 then
    if strFamily = [52] then .ok .inet
    else if strFamily = [54] then .ok .inet6
    else .error E_INVALIDARG
  else .ok .inet

/-- The protocol, with `fTCP`. -/
def protocol (strProtocol : StdString) : Except HRESULT Bool :=
  if strProtocol.length > 0 then
    if strProtocol ≠ OptionValue.udp.chars ∧ strProtocol ≠ OptionValue.tcp.chars then
      .error E_INVALIDARG
    else .ok (strProtocol = OptionValue.tcp.chars)
  else .ok false

/-- A number in a range, or else the -1 of `ValidateNumberString`. -/
def number (str : StdString) (nMinValue nMaxValue : ℤ) : Except HRESULT ℤ :=
  match validateNumberString str.c_str nMinValue nMaxValue with
  | none => .error (-1)
  | some n => .ok n

/-- The number of connections, which is not looked at in UDP mode. Zero stands for the default. -/
def maxConnections (fTCP : Bool) (strMaxConnections : StdString) : Except HRESULT ℤ :=
  if strMaxConnections.length > 0 then
    if fTCP = false then .ok 0 else number strMaxConnections 1 100000
  else .ok 0

/-- The port that a string stands for. -/
def port (strPort : StdString) (defaultPort : ℤ) : Except HRESULT ℤ :=
  if strPort.length > 0 then number strPort 0x0001 0xffff else .ok defaultPort

/-- The primary port and the alternate port, which must be different. -/
def ports (strPrimaryPort strAltPort : StdString) : Except HRESULT (ℤ × ℤ) := do
  let nPrimaryPort ← port strPrimaryPort DEFAULT_STUN_PORT.toNat
  let nAltPort ← port strAltPort (DEFAULT_STUN_PORT.toNat + 1)
  if nPrimaryPort = nAltPort then throw E_INVALIDARG
  return (nPrimaryPort, nAltPort)

/-- `(uint16_t)((int16_t)n)`. -/
def portWord (n : ℤ) : UInt16 := (Int16.ofInt n).toUInt16

section Host

variable (getifaddrs : Except ℤ (List IfAddrs)) (inet_pton : Family → CString → Option (List UInt8))

/-- `ResolveAdapterName`, but for the name that it gives to the best guess, which is only logged. -/
def resolveAdapterName (fPrimary : Bool) (family : Family) (strAdapterName : StdString)
    (port : UInt16) : Except HRESULT CSocketAddress :=
  if strAdapterName.length = 0 then getBestAddressForSocketBind getifaddrs fPrimary family port
  else getSocketAddressForAdapter getifaddrs inet_pton family strAdapterName.c_str port

/-- The address in basic mode: that of an adapter, or any. -/
def basicAddress (family : Family) (strPrimaryInterface : StdString) (port : UInt16) :
    Except HRESULT CSocketAddress :=
  if strPrimaryInterface.length = 0 then
    .ok (CSocketAddress.setPort port ⟨IPAddress.ofOctets family [], 0⟩)
  else getSocketAddressForAdapter getifaddrs inet_pton family strPrimaryInterface.c_str port

/-- The sockets of basic mode. -/
def basicSockets (family : Family) (strPrimaryInterface : StdString) (nPrimaryPort : ℤ)
    (config : CStunServerConfig) : Except HRESULT CStunServerConfig := do
  let addr ← basicAddress getifaddrs inet_pton family strPrimaryInterface (portWord nPrimaryPort)
  return { config with addrPP := addr, fHasPP := true }

/-- The two addresses in full mode, which must be different. -/
def fullAddresses (family : Family) (strPrimaryInterface strAltInterface : StdString) :
    Except HRESULT (CSocketAddress × CSocketAddress) := do
  if hasAtLeastTwoAdapters getifaddrs family = false then throw E_UNEXPECTED
  let addrPrimary ← resolveAdapterName getifaddrs inet_pton true family strPrimaryInterface 0
  let addrAlternate ← resolveAdapterName getifaddrs inet_pton false family strAltInterface 0
  if addrPrimary.isSameIP addrAlternate then throw E_INVALIDARG
  return (addrPrimary, addrAlternate)

/-- The sockets of full mode. -/
def fullSockets (family : Family) (strPrimaryInterface strAltInterface : StdString)
    (nPrimaryPort nAltPort : ℤ) (config : CStunServerConfig) :
    Except HRESULT CStunServerConfig := do
  let portPrimary := portWord nPrimaryPort
  let portAlternate := portWord nAltPort
  let (addrPrimary, addrAlternate) ←
    fullAddresses getifaddrs inet_pton family strPrimaryInterface strAltInterface
  return { config with
    addrPP := addrPrimary.setPort portPrimary
    fHasPP := true
    addrPA := addrPrimary.setPort portAlternate
    fHasPA := true
    addrAP := addrAlternate.setPort portPrimary
    fHasAP := true
    addrAA := addrAlternate.setPort portAlternate
    fHasAA := true }

/-- The sockets of either mode. -/
def sockets (mode : ServerMode) (family : Family) (strPrimaryInterface strAltInterface : StdString)
    (nPrimaryPort nAltPort : ℤ) (config : CStunServerConfig) : Except HRESULT CStunServerConfig :=
  match mode with
  | .basic => basicSockets getifaddrs inet_pton family strPrimaryInterface nPrimaryPort config
  | .full =>
    fullSockets getifaddrs inet_pton family strPrimaryInterface strAltInterface nPrimaryPort
      nAltPort config

/-- An address that is advertised, and otherwise the one that is in the configuration. -/
def advertised (family : Family) (pszAdvertised : CString) (addr : CSocketAddress) :
    Except HRESULT CSocketAddress :=
  if pszAdvertised.isNullOrEmpty = false then numericIPToAddress inet_pton family pszAdvertised
  else .ok addr

/-- Both advertised addresses. An alternate one is taken in basic mode too, where the configuration
has no AA. -/
def advertise (mode : ServerMode) (family : Family)
    (pszPrimaryAdvertised pszAltAdvertised : CString)
    (config : CStunServerConfig) : Except HRESULT CStunServerConfig := do
  let addrPrimaryAdvertised ←
    advertised inet_pton family pszPrimaryAdvertised config.addrPrimaryAdvertised
  -- This is never so, since basic mode does not set AA.
  if pszAltAdvertised.isNullOrEmpty = false ∧ mode ≠ .full ∧ config.fHasAA then throw E_INVALIDARG
  let addrAlternateAdvertised ←
    advertised inet_pton family pszAltAdvertised config.addrAlternateAdvertised
  return { config with
    addrPrimaryAdvertised := addrPrimaryAdvertised
    addrAlternateAdvertised := addrAlternateAdvertised }

/-- The configuration. The advertised addresses are taken from the arguments, and all else from the
copy. -/
def configure (argsIn : StartupArgs) : Except HRESULT CStunServerConfig := do
  -- These point into the arguments themselves.
  let pszPrimaryAdvertised := argsIn.strPrimaryAdvertised.c_str
  let pszAltAdvertised := argsIn.strAlternateAdvertised.c_str
  let args := argsIn.normalize
  let mode ← mode args.strMode
  let family ← family args.strFamily
  let fTCP ← protocol args.strProtocol
  let nMaxConnections ← maxConnections fTCP args.strMaxConnections
  let (nPrimaryPort, nAltPort) ← ports args.strPrimaryPort args.strAltPort
  let config ← sockets getifaddrs inet_pton mode family args.strPrimaryInterface
    args.strAltInterface
    nPrimaryPort nAltPort { fTCP := fTCP, nMaxConnections := UInt32.ofNat nMaxConnections.toNat }
  advertise inet_pton mode family pszPrimaryAdvertised pszAltAdvertised config

/-- `BuildServerConfigurationFromArgs`, on `*pConfigOut`. -/
def buildServerConfigurationFromArgs (argsIn : StartupArgs) : Fallible CStunServerConfig Unit := do
  match configure getifaddrs inet_pton argsIn with
  | .ok config => set config
  | .error hr => throw hr

end Host

/-! ## The checks -/

section Checks

variable {getifaddrs : Except ℤ (List IfAddrs)} {inet_pton : Family → CString → Option (List UInt8)}

/-- A port that is a number is between 1 and 65535. -/
def ValidPort (n : ℤ) : Prop := 1 ≤ n ∧ n ≤ 65535

/-- A number that is positive is accepted when it is in its range. An empty string stands for
zero. -/
theorem number_eq_ok_iff {str : StdString} {nMinValue nMaxValue n : ℤ} (hmin : 1 ≤ nMinValue) :
    number str nMinValue nMaxValue = .ok n ↔
      n = atoi str.c_str ∧ nMinValue ≤ n ∧ n ≤ nMaxValue := by
  have hempty : str.c_str.isNullOrEmpty = true → atoi str.c_str = 0 := by
    intro h
    have hchars : str.c_str.chars = [] := List.isEmpty_iff.mp h
    unfold atoi strtol
    rw [hchars]
    rfl
  unfold number validateNumberString
  dsimp only
  split_ifs with hnull hlow hhigh
  · refine iff_of_false nofun ?_
    rintro ⟨rfl, hn, -⟩
    rw [hempty hnull] at hn
    omega
  · exact iff_of_false nofun (by omega)
  · exact iff_of_false nofun (by omega)
  · simp only [Except.ok.injEq]
    exact ⟨by omega, by omega⟩

/-- A port is accepted exactly when it is the default or, when there is an option for it, a valid
number. -/
theorem port_trim_eq_ok_iff {strPort : StdString} {defaultPort n : ℤ} :
    port strPort.trim defaultPort = .ok n ↔
      n = (if strPort = [] then defaultPort else atoi strPort.trim.c_str) ∧
        (strPort ≠ [] → ValidPort n) := by
  unfold port
  simp only [gt_iff_lt, List.length_pos_iff_ne_nil, ne_eq, StdString.trim_eq_nil_iff]
  split_ifs with hempty
  · simp only [Except.ok.injEq, hempty, not_true_eq_false, false_implies, and_true]
    exact eq_comm
  · rw [number_eq_ok_iff le_rfl]
    simp only [hempty, not_false_eq_true, true_implies]
    rfl

/-- The ports are accepted exactly when each of them is and they are different. -/
theorem ports_eq_ok_iff {strPrimaryPort strAltPort : StdString} {p a : ℤ} :
    ports strPrimaryPort strAltPort = .ok (p, a) ↔
      port strPrimaryPort DEFAULT_STUN_PORT.toNat = .ok p ∧
        port strAltPort (DEFAULT_STUN_PORT.toNat + 1) = .ok a ∧ p ≠ a := by
  simp only [ports, except_bind_eq_ok_iff, except_throw_eq_ok_iff]
  constructor
  · rintro ⟨p', hp, a', ha, hne, heq⟩
    cases heq
    exact ⟨hp, ha, hne⟩
  · rintro ⟨hp, ha, hne⟩
    exact ⟨p, hp, a, ha, hne, rfl⟩

/-- The casts keep a port. -/
theorem toNat_portWord {n : ℤ} (h : ValidPort n) : ((portWord n).toNat : ℤ) = n := by
  obtain ⟨hlow, hhigh⟩ := h
  -- Both casts keep the low 16 bits, which are the number.
  obtain ⟨k, rfl⟩ := Int.eq_ofNat_of_zero_le (show 0 ≤ n by omega)
  have hword : portWord k = UInt16.ofNat k := by
    unfold portWord
    rw [Int16.ofInt_eq_ofNat, Int16.toUInt16_ofNat']
  rw [hword, UInt16.toNat_ofNat']
  omega

/-- An address in basic mode is of the family and has the port. -/
theorem ofFamily_basicAddress {family : Family} {strPrimaryInterface : StdString} {port : UInt16}
    {addr : CSocketAddress}
    (h : basicAddress getifaddrs inet_pton family strPrimaryInterface port = .ok addr) :
    OfFamily family port addr := by
  unfold basicAddress at h
  split_ifs at h
  · obtain rfl := Except.ok.inj h
    exact ⟨rfl, CSocketAddress.getPort_setPort port _⟩
  · exact ofFamily_getSocketAddressForAdapter h

/-- The address that the name of an adapter is resolved to is of the family and has the port. -/
theorem ofFamily_resolveAdapterName {fPrimary : Bool} {family : Family} {strAdapterName : StdString}
    {port : UInt16} {addr : CSocketAddress}
    (h : resolveAdapterName getifaddrs inet_pton fPrimary family strAdapterName port = .ok addr) :
    OfFamily family port addr := by
  unfold resolveAdapterName at h
  split_ifs at h
  · exact ofFamily_getBestAddressForSocketBind h
  · exact ofFamily_getSocketAddressForAdapter h

/-- The addresses in full mode are those of two adapters, which are different. -/
theorem fullAddresses_eq_ok_iff {family : Family} {strPrimaryInterface strAltInterface : StdString}
    {addrPrimary addrAlternate : CSocketAddress} :
    fullAddresses getifaddrs inet_pton family strPrimaryInterface strAltInterface =
        .ok (addrPrimary, addrAlternate) ↔
      hasAtLeastTwoAdapters getifaddrs family = true ∧
        resolveAdapterName getifaddrs inet_pton true family strPrimaryInterface 0 =
          .ok addrPrimary ∧
        resolveAdapterName getifaddrs inet_pton false family strAltInterface 0 = .ok addrAlternate ∧
        addrPrimary.ip ≠ addrAlternate.ip := by
  have hsame : ∀ {a b : CSocketAddress}, a.isSameIP b = true ↔ a.ip = b.ip := beq_iff_eq
  simp only [fullAddresses, except_bind_eq_ok_iff, except_throw_eq_ok_iff, hsame, Bool.not_eq_false]
  constructor
  · rintro ⟨htwo, primary, hprimary, alternate, halternate, hne, heq⟩
    cases heq
    exact ⟨htwo, hprimary, halternate, hne⟩
  · rintro ⟨htwo, hprimary, halternate, hne⟩
    exact ⟨htwo, addrPrimary, hprimary, addrAlternate, halternate, hne, rfl⟩

/-- A configuration is made exactly when every stage of it succeeds. -/
theorem configure_eq_ok_iff {args : StartupArgs} {config : CStunServerConfig} :
    configure getifaddrs inet_pton args = .ok config ↔
      ∃ mode family fTCP nMaxConnections nPrimaryPort nAltPort config₀,
        StartupArgs.mode args.normalize.strMode = .ok mode ∧
        StartupArgs.family args.normalize.strFamily = .ok family ∧
        protocol args.normalize.strProtocol = .ok fTCP ∧
        maxConnections fTCP args.normalize.strMaxConnections = .ok nMaxConnections ∧
        ports args.normalize.strPrimaryPort args.normalize.strAltPort =
          .ok (nPrimaryPort, nAltPort) ∧
        sockets getifaddrs inet_pton mode family args.normalize.strPrimaryInterface
          args.normalize.strAltInterface nPrimaryPort nAltPort
          { fTCP := fTCP, nMaxConnections := UInt32.ofNat nMaxConnections.toNat } = .ok config₀ ∧
        advertise inet_pton mode family args.strPrimaryAdvertised.c_str
          args.strAlternateAdvertised.c_str config₀ = .ok config := by
  simp only [configure, except_bind_eq_ok_iff, Prod.exists]
  constructor
  · rintro ⟨mode, hmode, family, hfamily, fTCP, hprotocol, n, hn, p, a, hports,
      config₀, hsockets, h⟩
    exact ⟨mode, family, fTCP, n, p, a, config₀, hmode, hfamily, hprotocol, hn, hports, hsockets, h⟩
  · rintro ⟨mode, family, fTCP, n, p, a, config₀, hmode, hfamily, hprotocol, hn,
      hports, hsockets, h⟩
    exact ⟨mode, hmode, family, hfamily, fTCP, hprotocol, n, hn, p, a, hports, config₀, hsockets, h⟩

/-- The configuration is written when it is made, and not when it is not. -/
theorem buildServerConfigurationFromArgs_eq (args : StartupArgs) (out : CStunServerConfig) :
    buildServerConfigurationFromArgs getifaddrs inet_pton args out =
      match configure getifaddrs inet_pton args with
      | .ok config => .ok () config
      | .error hr => .error hr out := by
  unfold buildServerConfigurationFromArgs
  cases configure getifaddrs inet_pton args <;> rfl

/-- A configuration that is written is the one that was made. -/
theorem buildServerConfigurationFromArgs_eq_ok_iff {args : StartupArgs}
    {out config : CStunServerConfig} :
    buildServerConfigurationFromArgs getifaddrs inet_pton args out = .ok () config ↔
      configure getifaddrs inet_pton args = .ok config := by
  rw [buildServerConfigurationFromArgs_eq]
  cases configure getifaddrs inet_pton args with
  | ok config' =>
    constructor
    · rintro ⟨⟩
      rfl
    · rintro ⟨⟩
      rfl
  | error hr => exact iff_of_false nofun nofun

/-- The sockets are set, PP among them, and nothing else is. -/
structure SetsSockets (mode : ServerMode) (config config' : CStunServerConfig) : Prop where
  fHasPP : config'.fHasPP = true
  fHasAA : mode ≠ .full → config'.fHasAA = config.fHasAA
  fMultiThreadedMode : config'.fMultiThreadedMode = config.fMultiThreadedMode
  fTCP : config'.fTCP = config.fTCP
  nMaxConnections : config'.nMaxConnections = config.nMaxConnections
  addrPrimaryAdvertised : config'.addrPrimaryAdvertised = config.addrPrimaryAdvertised
  addrAlternateAdvertised : config'.addrAlternateAdvertised = config.addrAlternateAdvertised

/-- In both modes the sockets are set and nothing else of the configuration changes. -/
theorem setsSockets_of_ok {mode : ServerMode} {family : Family}
    {strPrimaryInterface strAltInterface : StdString} {nPrimaryPort nAltPort : ℤ}
    {config config' : CStunServerConfig}
    (h : sockets getifaddrs inet_pton mode family strPrimaryInterface strAltInterface nPrimaryPort
      nAltPort config = .ok config') : SetsSockets mode config config' := by
  cases mode with
  | basic =>
    obtain ⟨addr, -, h⟩ := except_bind_eq_ok_iff.mp h
    obtain rfl := Except.ok.inj h
    exact ⟨rfl, fun _ => rfl, rfl, rfl, rfl, rfl, rfl⟩
  | full =>
    obtain ⟨addresses, -, h⟩ := except_bind_eq_ok_iff.mp h
    obtain rfl := Except.ok.inj h
    exact ⟨rfl, fun hmode => absurd rfl hmode, rfl, rfl, rfl, rfl, rfl⟩

/-- Only the advertised addresses change where they are taken. -/
theorem advertise_eq_ok {mode : ServerMode} {family : Family}
    {pszPrimaryAdvertised pszAltAdvertised : CString} {config config' : CStunServerConfig}
    (h : advertise inet_pton mode family pszPrimaryAdvertised pszAltAdvertised config =
      .ok config') :
    ∃ addrPrimaryAdvertised addrAlternateAdvertised,
      config' = { config with
        addrPrimaryAdvertised := addrPrimaryAdvertised
        addrAlternateAdvertised := addrAlternateAdvertised } := by
  simp only [advertise, except_bind_eq_ok_iff, except_throw_eq_ok_iff] at h
  obtain ⟨primary, -, -, alternate, -, h⟩ := h
  exact ⟨primary, alternate, (Except.ok.inj h).symm⟩

/-! ## What a configuration is -/

/-- The primary port: the option, or 3478. -/
def primaryPort (args : StartupArgs) : ℤ :=
  if args.strPrimaryPort = [] then 3478 else atoi args.strPrimaryPort.trim.c_str

/-- The alternate port: the option, or 3479. -/
def altPort (args : StartupArgs) : ℤ :=
  if args.strAltPort = [] then 3479 else atoi args.strAltPort.trim.c_str

/-- The configuration in basic mode has PP, with the primary port. -/
structure BasicConfiguration (family : Family) (nPrimaryPort : ℤ) (config : CStunServerConfig) :
    Prop where
  roles : ∀ role, config.fHas role = true ↔ role = .rolePP
  family_addr : (config.addr .rolePP).ip.family = family
  port_addr : ((config.addr .rolePP).getPort.toNat : ℤ) = nPrimaryPort
  valid : ValidPort nPrimaryPort

/-- The configuration in full mode has all four, which are two addresses with two ports each. -/
structure FullConfiguration (family : Family) (nPrimaryPort nAltPort : ℤ)
    (config : CStunServerConfig) : Prop where
  roles : ∀ role, config.fHas role = true
  ip_primary : (config.addr .rolePP).ip = (config.addr .rolePA).ip
  ip_alternate : (config.addr .roleAP).ip = (config.addr .roleAA).ip
  ip_ne : (config.addr .rolePP).ip ≠ (config.addr .roleAP).ip
  family_addr : ∀ role, (config.addr role).ip.family = family
  port_primary : ∀ role ∈ [SocketRole.rolePP, .roleAP],
    ((config.addr role).getPort.toNat : ℤ) = nPrimaryPort
  port_alternate : ∀ role ∈ [SocketRole.rolePA, .roleAA],
    ((config.addr role).getPort.toNat : ℤ) = nAltPort
  valid_primary : ValidPort nPrimaryPort
  valid_alternate : ValidPort nAltPort
  port_ne : nPrimaryPort ≠ nAltPort

/-- The configuration in either mode. -/
def Configured (mode : ServerMode) (family : Family) (nPrimaryPort nAltPort : ℤ)
    (config : CStunServerConfig) : Prop :=
  match mode with
  | .basic => BasicConfiguration family nPrimaryPort config
  | .full => FullConfiguration family nPrimaryPort nAltPort config

/-- What a configuration is for a mode depends on its sockets only. -/
theorem Configured.congr {mode : ServerMode} {family : Family} {nPrimaryPort nAltPort : ℤ}
    {config config' : CStunServerConfig} (h : Configured mode family nPrimaryPort nAltPort config)
    (hroles : config'.fHas = config.fHas) (haddr : config'.addr = config.addr) :
    Configured mode family nPrimaryPort nAltPort config' := by
  cases mode with
  | basic =>
    obtain ⟨roles, family_addr, port_addr, valid⟩ := h
    rw [← hroles] at roles
    rw [← haddr] at family_addr port_addr
    exact ⟨roles, family_addr, port_addr, valid⟩
  | full =>
    obtain ⟨roles, ip_primary, ip_alternate, ip_ne, family_addr, primary, alternate,
      hp, ha, hne⟩ := h
    rw [← hroles] at roles
    rw [← haddr] at ip_primary ip_alternate ip_ne family_addr primary alternate
    exact ⟨roles, ip_primary, ip_alternate, ip_ne, family_addr, primary, alternate, hp, ha, hne⟩

/-- The ports are the ones that the options give, when they are accepted. -/
theorem ports_normalize {args : StartupArgs} {p a : ℤ}
    (h : ports args.normalize.strPrimaryPort args.normalize.strAltPort = .ok (p, a)) :
    p = args.primaryPort ∧ a = args.altPort ∧ ValidPort p ∧ ValidPort a ∧ p ≠ a := by
  have hvalid : ∀ {str : StdString} {defaultPort n : ℤ}, ValidPort defaultPort →
      port str.trim defaultPort = .ok n → ValidPort n := by
    intro str defaultPort n hdefault h
    obtain ⟨rfl, hn⟩ := port_trim_eq_ok_iff.mp h
    by_cases hempty : str = []
    · rwa [if_pos hempty]
    · exact hn hempty
  obtain ⟨hp, ha, hne⟩ := ports_eq_ok_iff.mp h
  exact ⟨(port_trim_eq_ok_iff.mp hp).1, (port_trim_eq_ok_iff.mp ha).1,
    hvalid (by unfold ValidPort; decide) hp, hvalid (by unfold ValidPort; decide) ha, hne⟩

/-- Basic mode configures the socket PP. -/
theorem basicSockets_configured {family : Family} {strPrimaryInterface : StdString} {p a : ℤ}
    {fTCP : Bool} {nMaxConnections : UInt32} {config : CStunServerConfig} (hp : ValidPort p)
    (h : basicSockets getifaddrs inet_pton family strPrimaryInterface p
      { fTCP := fTCP, nMaxConnections := nMaxConnections } = .ok config) :
    Configured .basic family p a config := by
  simp only [basicSockets, except_bind_eq_ok_iff] at h
  obtain ⟨addr, haddr, h⟩ := h
  obtain rfl := Except.ok.inj h
  obtain ⟨hfamily, hport⟩ := ofFamily_basicAddress haddr
  refine ⟨fun role => by cases role <;> simp [CStunServerConfig.fHas], hfamily, ?_, hp⟩
  show (addr.getPort.toNat : ℤ) = p
  rw [hport]
  exact toNat_portWord hp

/-- Full mode configures all four sockets. -/
theorem fullSockets_configured {family : Family} {strPrimaryInterface strAltInterface : StdString}
    {p a : ℤ} {config₀ config : CStunServerConfig} (hp : ValidPort p) (ha : ValidPort a)
    (hne : p ≠ a)
    (h : fullSockets getifaddrs inet_pton family strPrimaryInterface strAltInterface p a config₀ =
      .ok config) : Configured .full family p a config := by
  simp only [fullSockets, except_bind_eq_ok_iff, Prod.exists] at h
  obtain ⟨primary, alternate, haddresses, h⟩ := h
  obtain rfl := Except.ok.inj h
  obtain ⟨-, hprimary, halternate, hip⟩ := fullAddresses_eq_ok_iff.mp haddresses
  have hfamily : primary.ip.family = family ∧ alternate.ip.family = family :=
    ⟨(ofFamily_resolveAdapterName hprimary).1, (ofFamily_resolveAdapterName halternate).1⟩
  have hport : ∀ {n : ℤ} (addr : CSocketAddress), ValidPort n →
      ((addr.setPort (portWord n)).getPort.toNat : ℤ) = n := by
    intro n addr hn
    rw [CSocketAddress.getPort_setPort]
    exact toNat_portWord hn
  -- PP and PA are the primary address, AP and AA the alternate one.
  refine ⟨fun role => by cases role <;> rfl, rfl, rfl, hip, ?_, ?_, ?_, hp, ha, hne⟩
  · intro role
    cases role with
    | rolePP | rolePA => exact hfamily.1
    | roleAP | roleAA => exact hfamily.2
  · exact List.forall_mem_cons.mpr ⟨hport _ hp, List.forall_mem_singleton.mpr (hport _ hp)⟩
  · exact List.forall_mem_cons.mpr ⟨hport _ ha, List.forall_mem_singleton.mpr (hport _ ha)⟩

/-- Whatever the adapters are, and what `inet_pton` makes of a string, the configuration is the one
that the mode stands for, or it stays what it was. -/
theorem buildServerConfigurationFromArgs_result (getifaddrs : Except ℤ (List IfAddrs))
    (inet_pton : Family → CString → Option (List UInt8)) (args : StartupArgs)
    (out : CStunServerConfig) :
    match buildServerConfigurationFromArgs getifaddrs inet_pton args out with
    | .ok _ config => ∃ mode family,
        StartupArgs.mode args.normalize.strMode = .ok mode ∧
        StartupArgs.family args.normalize.strFamily = .ok family ∧
        Configured mode family args.primaryPort args.altPort config
    | .error _ out' => out' = out := by
  rw [buildServerConfigurationFromArgs_eq]
  cases hconfigure : configure getifaddrs inet_pton args with
  | error hr => rfl
  | ok config =>
    obtain ⟨mode, family, fTCP, n, p, a, config₀, hmode, hfamily, -, -, hports,
      hsockets, hadvertise⟩ :=
      configure_eq_ok_iff.mp hconfigure
    obtain ⟨rfl, rfl, hp, ha, hne⟩ := ports_normalize hports
    refine ⟨mode, family, hmode, hfamily, ?_⟩
    obtain ⟨primary, alternate, rfl⟩ := advertise_eq_ok hadvertise
    -- The sockets are those that the mode has set, and the advertised addresses leave them alone.
    have hconfigured : Configured mode family args.primaryPort args.altPort config₀ := by
      cases mode with
      | basic => exact basicSockets_configured hp hsockets
      | full => exact fullSockets_configured hp ha hne hsockets
    exact hconfigured.congr (funext fun role => by cases role <;> rfl)
      (funext fun role => by cases role <;> rfl)

end Checks

end StartupArgs

end Stun
