import StunForAndroid.Common.StringHelper
import StunForAndroid.StunCore.ClientTests

/-!
# The command line of the client

`CreateConfigFromCommandLine` of `src/client/clientmain.cpp`. What `ResolveHostName` and
`GetSocketAddressForAdapter` answer is up to the system and to its network, so both are parameters
here, without any assumption.
-/

namespace Stun

open Fallible

/-! ## `CreateConfigFromCommandLine` -/

/-- `DEFAULT_STUN_PORT`. -/
def DEFAULT_STUN_PORT : UInt16 := 3478

/-- `SOCK_DGRAM` and `SOCK_STREAM`. -/
inductive SockType where
  | dgram
  | stream
deriving DecidableEq

namespace OptionValue

/-- `udp` -/
def udp : CString := ⟨[117, 100, 112], by decide⟩
/-- `tcp` -/
def tcp : CString := ⟨[116, 99, 112], by decide⟩
/-- `basic` -/
def basic : CString := ⟨[98, 97, 115, 105, 99], by decide⟩
/-- `full` -/
def full : CString := ⟨[102, 117, 108, 108], by decide⟩

end OptionValue

/-- `ClientCmdLineArgs`, as far as the configuration depends on it. -/
structure ClientCmdLineArgs where
  strRemoteServer : CString := ⟨[], CString.nul_free_nil⟩
  strRemotePort : CString := ⟨[], CString.nul_free_nil⟩
  strLocalAddr : CString := ⟨[], CString.nul_free_nil⟩
  strLocalPort : CString := ⟨[], CString.nul_free_nil⟩
  strMode : CString := ⟨[], CString.nul_free_nil⟩
  strFamily : CString := ⟨[], CString.nul_free_nil⟩
  strProtocol : CString := ⟨[], CString.nul_free_nil⟩

/-- `ClientSocketConfig`. -/
structure ClientSocketConfig where
  family : Family
  socktype : SockType
  addrLocal : CSocketAddress

section CreateConfig

/-- The option for the family. -/
def familyOption (strFamily : CString) : Except HRESULT Family :=
  if strFamily.isNullOrEmpty = false then
    let optvalue := atoi strFamily
    if optvalue = 4 then .ok .inet
    else if optvalue = 6 then .ok .inet6
    else .error E_INVALIDARG
  else .ok .inet

/-- The option for the protocol, with `fTCP`. -/
def protocolOption (strProtocol : CString) : Except HRESULT Bool :=
  let strProtocol := strProtocol.toLower
  if strProtocol.isNullOrEmpty = false then
    if strProtocol ≠ OptionValue.udp ∧ strProtocol ≠ OptionValue.tcp then .error E_INVALIDARG
    else .ok (strProtocol = OptionValue.tcp)
  else .ok false

/-- The option for a port. -/
def portOption (strPort : CString) (defaultPort : UInt16) : Except HRESULT UInt16 :=
  if strPort.isNullOrEmpty = false then
    match validateNumberString strPort 1 0xffff with
    | none => .error E_INVALIDARG
    | some nPort => .ok (UInt16.ofNat nPort.toNat)
  else .ok defaultPort

/-- The option for the mode, with `fBehaviorTest` and `fFilteringTest`. A mode that is neither of
the two is reported, and is not an error. -/
def modeOption (strMode : CString) (fTCP : Bool) : Bool × Bool :=
  let strMode := strMode.toLower
  if strMode.isNullOrEmpty = false then
    if strMode = OptionValue.basic then (false, false)
    else if strMode = OptionValue.full then (true, fTCP == false)
    else (false, false)
  else (false, false)

variable (resolveHostName : CString → Family → Except HRESULT CSocketAddress)
  (getSocketAddressForAdapter : Family → CString → UInt16 → Except HRESULT CSocketAddress)

/-- The address of the server, which must be given. -/
def serverOption (strRemoteServer : CString) (family : Family) : Except HRESULT CSocketAddress :=
  if strRemoteServer.isNullOrEmpty then .error E_INVALIDARG
  else resolveHostName strRemoteServer family

/-- The local address: that of an adapter, or any. -/
def localAddressOption (strLocalAddr : CString) (family : Family) (localport : UInt16) :
    Except HRESULT CSocketAddress :=
  if strLocalAddr.isNullOrEmpty = false then
    getSocketAddressForAdapter family strLocalAddr localport
  else .ok (CSocketAddress.setPort localport ⟨IPAddress.ofOctets family [], 0⟩)

/-- `CreateConfigFromCommandLine`. -/
def createConfigFromCommandLine (args : ClientCmdLineArgs) :
    Except HRESULT (StunClientLogicConfig × ClientSocketConfig) := do
  let family ← familyOption args.strFamily
  let fTCP ← protocolOption args.strProtocol
  let remoteport ← portOption args.strRemotePort DEFAULT_STUN_PORT
  let addrServer ← serverOption resolveHostName args.strRemoteServer family
  let localport ← portOption args.strLocalPort 0
  let addrLocal ← localAddressOption getSocketAddressForAdapter args.strLocalAddr family localport
  let mode := modeOption args.strMode fTCP
  return ({ addrServer := addrServer.setPort remoteport
            fTimeoutIsInstant := false
            timeoutSeconds := 0
            uMaxAttempts := if fTCP then 1 else 0
            fBehaviorTest := mode.1
            fFilteringTest := mode.2 },
    { family := family, socktype := if fTCP then .stream else .dgram, addrLocal := addrLocal })

end CreateConfig

variable {resolveHostName : CString → Family → Except HRESULT CSocketAddress}
  {getSocketAddressForAdapter : Family → CString → UInt16 → Except HRESULT CSocketAddress}
  {args : ClientCmdLineArgs} {config : StunClientLogicConfig} {socketconfig : ClientSocketConfig}

/-- The filtering tests are done with the behavior tests, and not over TCP. -/
theorem modeOption_snd (strMode : CString) (fTCP : Bool) :
    (modeOption strMode fTCP).2 = ((modeOption strMode fTCP).1 && fTCP == false) := by
  unfold modeOption
  dsimp only
  split_ifs <;> rfl

/-- A port is not zero unless that is its default. -/
theorem portOption_ne_zero {strPort : CString} {defaultPort port : UInt16}
    (hdefault : defaultPort ≠ 0) (h : portOption strPort defaultPort = .ok port) : port ≠ 0 := by
  unfold portOption validateNumberString at h
  split at h
  next hgiven =>
    rw [if_neg (by simp [hgiven])] at h
    dsimp only at h
    split_ifs at h with hlow hhigh
    cases h
    -- The number is from 1 to 65535.
    intro hzero
    have hnat := congrArg UInt16.toNat hzero
    rw [UInt16.toNat_ofNat'] at hnat
    change (atoi strPort).toNat % 65536 = 0 at hnat
    omega
  next =>
    cases h
    exact hdefault

/-- The port of the server is not zero. -/
theorem createConfigFromCommandLine_port
    (h : createConfigFromCommandLine resolveHostName getSocketAddressForAdapter args =
      .ok (config, socketconfig)) : config.addrServer.getPort ≠ 0 := by
  unfold createConfigFromCommandLine at h
  simp only [except_bind_eq_ok_iff, pure, Except.pure, Except.ok.injEq, Prod.mk.injEq] at h
  obtain ⟨_, -, _, -, remoteport, hport, addrServer, -, _, -, _, -, rfl, -⟩ := h
  rw [CSocketAddress.getPort_setPort]
  exact portOption_ne_zero (by decide) hport

/-- What there is to say of every configuration: the timeout is left to its default, and the tests
and the number of attempts depend on the protocol. -/
theorem createConfigFromCommandLine_eq_ok
    (h : createConfigFromCommandLine resolveHostName getSocketAddressForAdapter args =
      .ok (config, socketconfig)) :
    config.fTimeoutIsInstant = false ∧ config.timeoutSeconds = 0 ∧
      (socketconfig.socktype = .stream → config.uMaxAttempts = 1 ∧ config.fFilteringTest = false) ∧
      (socketconfig.socktype = .dgram →
        config.uMaxAttempts = 0 ∧ config.fFilteringTest = config.fBehaviorTest) := by
  unfold createConfigFromCommandLine at h
  simp only [except_bind_eq_ok_iff, pure, Except.pure, Except.ok.injEq, Prod.mk.injEq] at h
  obtain ⟨_, -, fTCP, -, _, -, _, -, _, -, _, -, rfl, rfl⟩ := h
  have hmode := modeOption_snd args.strMode fTCP
  refine ⟨rfl, rfl, ?_, ?_⟩
  · intro htcp
    cases fTCP with
    | true => exact ⟨rfl, by simpa using hmode⟩
    | false => cases htcp
  · intro hudp
    cases fTCP with
    | true => cases hudp
    | false => exact ⟨rfl, by simpa using hmode⟩

end Stun
