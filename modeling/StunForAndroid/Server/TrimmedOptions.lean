import StunForAndroid.Server.ServerConfig

/-!
# White space around the options

`BuildServerConfigurationFromArgs` trims a copy of its arguments, so that white space at the ends of
an option should not matter. It does in two ways. `Trim` leaves an option that is nothing but white
space, and such an option is there where an empty one is not. And the advertised addresses are taken
from the arguments themselves, although they are trimmed in the copy.

`Undisturbed` says when neither happens. The configuration is then the same, and it is not
otherwise, except that arguments may be refused with the same code for two reasons.
-/

namespace Stun

open Fallible

namespace StartupArgs

open StdString

/-- The options that are trimmed. -/
def trimmedOptions : List (StartupArgs → StdString) :=
  [strMode, strPrimaryInterface, strAltInterface, strPrimaryPort, strAltPort,
    strFamily, strProtocol, strPrimaryAdvertised, strAlternateAdvertised]

/-- White space was added to the options that are trimmed. -/
structure PaddedArgs (args args' : StartupArgs) : Prop where
  padded : ∀ str ∈ trimmedOptions, Padded (str args) (str args')
  strMaxConnections : args'.strMaxConnections = args.strMaxConnections

/-- White space was added to the options when it was added to each of the nine. -/
theorem paddedArgs_iff {args args' : StartupArgs} :
    PaddedArgs args args' ↔ (Padded args.strMode args'.strMode ∧
      Padded args.strPrimaryInterface args'.strPrimaryInterface ∧
      Padded args.strAltInterface args'.strAltInterface ∧
      Padded args.strPrimaryPort args'.strPrimaryPort ∧ Padded args.strAltPort args'.strAltPort ∧
      Padded args.strFamily args'.strFamily ∧ Padded args.strProtocol args'.strProtocol ∧
      Padded args.strPrimaryAdvertised args'.strPrimaryAdvertised ∧
      Padded args.strAlternateAdvertised args'.strAlternateAdvertised) ∧
      args'.strMaxConnections = args.strMaxConnections := by
  have hpadded : PaddedArgs args args' ↔
      (∀ str ∈ trimmedOptions, Padded (str args) (str args')) ∧
        args'.strMaxConnections = args.strMaxConnections :=
    ⟨fun h => ⟨h.padded, h.strMaxConnections⟩, fun h => ⟨h.1, h.2⟩⟩
  rw [hpadded]
  unfold trimmedOptions
  simp only [List.forall_mem_cons, List.not_mem_nil, false_implies, implies_true, and_true]

/-! ## What may be disturbed -/

/-- The options that are compared with words, or read as numbers. -/
def namedOptions : List (StartupArgs → StdString) :=
  [strMode, strFamily, strProtocol, strPrimaryPort, strAltPort]

/-- The options for the advertised addresses. -/
def advertisedOptions : List (StartupArgs → StdString) :=
  [strPrimaryAdvertised, strAlternateAdvertised]

section Host

variable (getifaddrs : Except ℤ (List IfAddrs)) (inet_pton : Family → CString → Option (List UInt8))

/-- The interfaces that the mode looks at stand for the same addresses. -/
def SameInterfaces (mode : ServerMode) (family : Family) (args args' : StartupArgs) : Prop :=
  match mode with
  | .basic =>
    basicAddress getifaddrs inet_pton family args'.normalize.strPrimaryInterface
        (portWord args.primaryPort) =
      basicAddress getifaddrs inet_pton family args.normalize.strPrimaryInterface
        (portWord args.primaryPort)
  | .full =>
    resolveAdapterName getifaddrs inet_pton true family args'.normalize.strPrimaryInterface 0 =
        resolveAdapterName getifaddrs inet_pton true family args.normalize.strPrimaryInterface 0 ∧
      resolveAdapterName getifaddrs inet_pton false family args'.normalize.strAltInterface 0 =
        resolveAdapterName getifaddrs inet_pton false family args.normalize.strAltInterface 0

/-- No option becomes blank from nothing, the interfaces stand for the same, and the advertised
addresses are the same for `inet_pton`, which sees them with their white space. -/
structure Undisturbed (args args' : StartupArgs) : Prop where
  named : ∀ str ∈ namedOptions, ¬(str args = [] ∧ str args' ≠ [])
  interfaces : ∀ mode family, StartupArgs.mode args.normalize.strMode = .ok mode →
    StartupArgs.family args.normalize.strFamily = .ok family →
      SameInterfaces getifaddrs inet_pton mode family args args'
  advertised : ∀ family, StartupArgs.family args.normalize.strFamily = .ok family →
    ∀ str ∈ advertisedOptions, advertised inet_pton family (str args').c_str .zero =
      advertised inet_pton family (str args).c_str .zero

end Host

variable {getifaddrs : Except ℤ (List IfAddrs)} {inet_pton : Family → CString → Option (List UInt8)}

/-! ## Options that are compared with words, or read as numbers -/

/-- An option that is refused when it is blank is the same when it was trimmed. -/
theorem trim_congr {α : Type} {f : StdString → Except HRESULT α} {hr : HRESULT}
    (hf : ∀ {str}, Blank str → f str = .error hr) {str str' : StdString} (h : Padded str str')
    (hblank : ¬(str = [] ∧ str' ≠ [])) : f (trim str') = f (trim str) := by
  obtain heq | ⟨hstr, hstr'⟩ := h.trim_cases hblank
  · rw [heq]
  · rw [hf hstr, hf hstr']

/-- An option whose blank form is refused did not become blank from nothing when it is accepted. -/
theorem not_blank {α : Type} {f : StdString → Except HRESULT α} {hr : HRESULT}
    (hf : ∀ {str}, Blank str → f str = .error hr) {str str' : StdString} {a : α}
    (hpad : Padded str str') (h : f (trim str') = .ok a) : ¬(str = [] ∧ str' ≠ []) := by
  rintro ⟨hempty, hempty'⟩
  rw [hf (hpad.blank_trim hempty hempty')] at h
  cases h

/-- A blank mode is refused. -/
theorem mode_blank {str : StdString} (h : Blank str) : mode str = .error E_INVALIDARG := by
  unfold mode
  rw [if_pos (List.length_pos_iff.mpr h.2), if_neg (h.ne 98 (by decide) (by decide)),
    if_neg (h.ne 102 (by decide) (by decide))]

/-- A blank family is refused. -/
theorem family_blank {str : StdString} (h : Blank str) : family str = .error E_INVALIDARG := by
  unfold family
  rw [if_pos (List.length_pos_iff.mpr h.2), if_neg (h.ne 52 (by decide) (by decide)),
    if_neg (h.ne 54 (by decide) (by decide))]

/-- A blank protocol is refused. -/
theorem protocol_blank {str : StdString} (h : Blank str) : protocol str = .error E_INVALIDARG := by
  unfold protocol
  rw [if_pos (List.length_pos_iff.mpr h.2),
    if_pos ⟨h.ne 117 (by decide) (by decide), h.ne 116 (by decide) (by decide)⟩]

/-- A blank port, which is no number, is refused. -/
theorem port_blank {defaultPort : ℤ} {str : StdString} (h : Blank str) :
    port str defaultPort = .error (-1) := by
  unfold port number validateNumberString
  rw [if_pos (List.length_pos_iff.mpr h.2), atoi_of_white h.1]
  split_ifs <;> rfl

/-- Lower case makes nothing of nothing only. -/
theorem toLower_blank_iff {str str' : StdString} :
    toLower str = [] ∧ toLower str' ≠ [] ↔ str = [] ∧ str' ≠ [] := by
  unfold toLower
  rw [ne_eq, List.map_eq_nil_iff, List.map_eq_nil_iff]

/-- The checks of the options that are compared with words or read as numbers give the same. -/
structure SameOptions (args args' : StartupArgs) : Prop where
  mode : StartupArgs.mode args'.normalize.strMode = StartupArgs.mode args.normalize.strMode
  family : StartupArgs.family args'.normalize.strFamily =
    StartupArgs.family args.normalize.strFamily
  protocol : StartupArgs.protocol args'.normalize.strProtocol =
    StartupArgs.protocol args.normalize.strProtocol
  ports : StartupArgs.ports args'.normalize.strPrimaryPort args'.normalize.strAltPort =
    StartupArgs.ports args.normalize.strPrimaryPort args.normalize.strAltPort

/-- The checks of the options give the same when none of the options becomes blank from nothing. -/
theorem PaddedArgs.sameOptions {args args' : StartupArgs} (hpad : PaddedArgs args args')
    (h : ∀ str ∈ namedOptions, ¬(str args = [] ∧ str args' ≠ [])) : SameOptions args args' := by
  have hport : ∀ (str : StartupArgs → StdString) (defaultPort : ℤ), str ∈ trimmedOptions →
      str ∈ namedOptions →
        port (trim (str args')) defaultPort = port (trim (str args)) defaultPort := by
    intro str defaultPort htrimmed hnamed
    exact trim_congr (f := fun str => port str defaultPort) port_blank (hpad.padded str htrimmed)
      (h str hnamed)
  refine ⟨?_, ?_, ?_, ?_⟩
  · exact trim_congr mode_blank (hpad.padded strMode (by simp [trimmedOptions])).toLower
      (toLower_blank_iff.not.mpr (h strMode (by simp [namedOptions])))
  · exact trim_congr family_blank (hpad.padded strFamily (by simp [trimmedOptions]))
      (h strFamily (by simp [namedOptions]))
  · exact trim_congr protocol_blank (hpad.padded strProtocol (by simp [trimmedOptions])).toLower
      (toLower_blank_iff.not.mpr (h strProtocol (by simp [namedOptions])))
  · have hprimary := hport strPrimaryPort DEFAULT_STUN_PORT.toNat
      (by simp [trimmedOptions]) (by simp [namedOptions])
    have halt := hport strAltPort (DEFAULT_STUN_PORT.toNat + 1)
      (by simp [trimmedOptions]) (by simp [namedOptions])
    unfold StartupArgs.ports normalize
    rw [hprimary, halt]

/-! ## The sockets and the advertised addresses -/

/-- The sockets are the same when the interfaces are. -/
theorem SameInterfaces.sockets_eq {mode : ServerMode} {family : Family} {args args' : StartupArgs}
    (h : SameInterfaces getifaddrs inet_pton mode family args args') (nAltPort : ℤ)
    (config : CStunServerConfig) :
    sockets getifaddrs inet_pton mode family args'.normalize.strPrimaryInterface
        args'.normalize.strAltInterface args.primaryPort nAltPort config =
      sockets getifaddrs inet_pton mode family args.normalize.strPrimaryInterface
        args.normalize.strAltInterface args.primaryPort nAltPort config := by
  cases mode with
  | basic =>
    unfold sockets basicSockets
    dsimp only
    rw [show basicAddress _ _ _ _ _ = _ from h]
  | full =>
    obtain ⟨hprimary, halternate⟩ := h
    unfold sockets fullSockets fullAddresses
    dsimp only
    rw [hprimary, halternate]

/-- The interfaces are the same when the sockets are. -/
theorem sameInterfaces_of_sockets {mode : ServerMode} {family : Family} {args args' : StartupArgs}
    {nAltPort : ℤ} {config config' : CStunServerConfig}
    (h : sockets getifaddrs inet_pton mode family args.normalize.strPrimaryInterface
      args.normalize.strAltInterface args.primaryPort nAltPort config = .ok config')
    (h' : sockets getifaddrs inet_pton mode family args'.normalize.strPrimaryInterface
      args'.normalize.strAltInterface args.primaryPort nAltPort config = .ok config') :
    SameInterfaces getifaddrs inet_pton mode family args args' := by
  cases mode with
  | basic =>
    obtain ⟨addr, haddr, hconfig⟩ := except_bind_eq_ok_iff.mp h
    obtain ⟨addr', haddr', hconfig'⟩ := except_bind_eq_ok_iff.mp h'
    have heq := (Except.ok.inj hconfig').trans (Except.ok.inj hconfig).symm
    obtain rfl : addr' = addr := congrArg CStunServerConfig.addrPP heq
    exact haddr'.trans haddr.symm
  | full =>
    obtain ⟨⟨primary, alternate⟩, haddresses, hconfig⟩ := except_bind_eq_ok_iff.mp h
    obtain ⟨⟨primary', alternate'⟩, haddresses', hconfig'⟩ := except_bind_eq_ok_iff.mp h'
    obtain ⟨-, hprimary, halternate, -⟩ := fullAddresses_eq_ok_iff.mp haddresses
    obtain ⟨-, hprimary', halternate', -⟩ := fullAddresses_eq_ok_iff.mp haddresses'
    have heq := (Except.ok.inj hconfig').trans (Except.ok.inj hconfig).symm
    -- The interfaces are looked up with the port zero, and their ports are set in the
    -- configuration.
    have hport : ∀ {fPrimary : Bool} {str str' : StdString} {addr addr' : CSocketAddress},
        resolveAdapterName getifaddrs inet_pton fPrimary family str 0 = .ok addr →
        resolveAdapterName getifaddrs inet_pton fPrimary family str' 0 = .ok addr' →
        addr'.getPort = addr.getPort := by
      intro fPrimary str str' addr addr' haddr haddr'
      rw [(ofFamily_resolveAdapterName haddr).2, (ofFamily_resolveAdapterName haddr').2]
    have hip : primary'.ip = primary.ip ∧ alternate'.ip = alternate.ip :=
      ⟨congrArg (fun config => config.addrPP.ip) heq, congrArg (fun config => config.addrAP.ip) heq⟩
    obtain rfl := CSocketAddress.ext_getPort hip.1 (hport hprimary hprimary')
    obtain rfl := CSocketAddress.ext_getPort hip.2 (hport halternate halternate')
    exact ⟨hprimary'.trans hprimary.symm, halternate'.trans halternate.symm⟩

/-- The advertised addresses are all that is taken, since basic mode has no AA. -/
theorem advertise_eq {mode : ServerMode} {family : Family}
    {pszPrimaryAdvertised pszAltAdvertised : CString}
    {fTCP : Bool} {nMaxConnections : UInt32} {config : CStunServerConfig}
    (h : SetsSockets mode { fTCP := fTCP, nMaxConnections := nMaxConnections } config) :
    advertise inet_pton mode family pszPrimaryAdvertised pszAltAdvertised config = (do
      let addrPrimaryAdvertised ← advertised inet_pton family pszPrimaryAdvertised .zero
      let addrAlternateAdvertised ← advertised inet_pton family pszAltAdvertised .zero
      return { config with
        addrPrimaryAdvertised := addrPrimaryAdvertised
        addrAlternateAdvertised := addrAlternateAdvertised }) := by
  have hAA : ¬(pszAltAdvertised.isNullOrEmpty = false ∧ mode ≠ .full ∧ config.fHasAA = true) := by
    rintro ⟨-, hmode, hAA⟩
    rw [h.fHasAA hmode] at hAA
    cases hAA
  unfold advertise
  rw [h.addrPrimaryAdvertised, h.addrAlternateAdvertised]
  simp only [if_neg hAA]

/-! ## The configuration -/

/-- Arguments with white space that disturbs nothing make the same configuration, or are refused
with the same code. -/
theorem PaddedArgs.configure_eq {args args' : StartupArgs} (hpad : PaddedArgs args args')
    (h : Undisturbed getifaddrs inet_pton args args') :
    configure getifaddrs inet_pton args' = configure getifaddrs inet_pton args := by
  have hsame := hpad.sameOptions h.named
  have hmax : args'.normalize.strMaxConnections = args.normalize.strMaxConnections :=
    hpad.strMaxConnections
  unfold configure
  dsimp only
  rw [hsame.mode, hsame.family, hsame.protocol, hsame.ports, hmax]
  -- The stages up to the ports are the same. What they give is needed for the sockets.
  refine except_bind_congr fun mode hmode => except_bind_congr fun family hfamily =>
    except_bind_congr fun fTCP _ => except_bind_congr fun n _ =>
    except_bind_congr fun ⟨p, a⟩ hports => ?_
  obtain ⟨rfl, -⟩ := ports_normalize hports
  dsimp only
  rw [(h.interfaces mode family hmode hfamily).sockets_eq]
  refine except_bind_congr fun config hsockets => ?_
  have hadvertised := h.advertised family hfamily
  rw [advertise_eq (setsSockets_of_ok hsockets), advertise_eq (setsSockets_of_ok hsockets),
    hadvertised strPrimaryAdvertised (by simp [advertisedOptions]),
    hadvertised strAlternateAdvertised (by simp [advertisedOptions])]

/-- When a configuration is made of them, no option became blank from nothing. -/
theorem PaddedArgs.named {args args' : StartupArgs} (hpad : PaddedArgs args args')
    {config : CStunServerConfig} (h : configure getifaddrs inet_pton args' = .ok config) :
    ∀ str ∈ namedOptions, ¬(str args = [] ∧ str args' ≠ []) := by
  obtain ⟨mode, family, fTCP, n, p, a, config₀, hmode, hfamily, hprotocol, -, hports, -, -⟩ :=
    configure_eq_ok_iff.mp h
  obtain ⟨hp, ha, -⟩ := ports_eq_ok_iff.mp hports
  unfold namedOptions
  simp only [List.forall_mem_cons, List.not_mem_nil, false_implies, implies_true, and_true]
  refine ⟨?_, ?_, ?_, ?_, ?_⟩
  · exact toLower_blank_iff.not.mp
      (not_blank mode_blank (hpad.padded strMode (by simp [trimmedOptions])).toLower hmode)
  · exact not_blank family_blank (hpad.padded strFamily (by simp [trimmedOptions])) hfamily
  · exact toLower_blank_iff.not.mp
      (not_blank protocol_blank (hpad.padded strProtocol (by simp [trimmedOptions])).toLower
        hprotocol)
  · exact not_blank (f := fun str => port str _) port_blank
      (hpad.padded strPrimaryPort (by simp [trimmedOptions])) hp
  · exact not_blank (f := fun str => port str _) port_blank
      (hpad.padded strAltPort (by simp [trimmedOptions])) ha

/-- Configurations of the sockets that are the same with advertised addresses are the same
without. -/
theorem SetsSockets.eq_of_advertised {mode : ServerMode} {fTCP : Bool} {nMaxConnections : UInt32}
    {config config' : CStunServerConfig} {primary alternate primary' alternate' : CSocketAddress}
    (h : SetsSockets mode { fTCP := fTCP, nMaxConnections := nMaxConnections } config)
    (h' : SetsSockets mode { fTCP := fTCP, nMaxConnections := nMaxConnections } config')
    (heq : { config with addrPrimaryAdvertised := primary, addrAlternateAdvertised := alternate } =
      { config' with addrPrimaryAdvertised := primary', addrAlternateAdvertised := alternate' }) :
    config = config' := by
  have hzero : ∀ {config : CStunServerConfig},
      SetsSockets mode { fTCP := fTCP, nMaxConnections := nMaxConnections } config →
        config = { config with
          addrPrimaryAdvertised := .zero, addrAlternateAdvertised := .zero } := by
    intro config h
    have hprimary := h.addrPrimaryAdvertised
    have halternate := h.addrAlternateAdvertised
    cases config
    dsimp only at hprimary halternate
    rw [hprimary, halternate]
  rw [hzero h, hzero h']
  exact congrArg (fun config : CStunServerConfig =>
    { config with addrPrimaryAdvertised := .zero, addrAlternateAdvertised := .zero }) heq

/-- When one configuration is made of both, nothing was disturbed. -/
theorem PaddedArgs.undisturbed {args args' : StartupArgs} (hpad : PaddedArgs args args')
    {config : CStunServerConfig} (h : configure getifaddrs inet_pton args = .ok config)
    (h' : configure getifaddrs inet_pton args' = .ok config) :
    Undisturbed getifaddrs inet_pton args args' := by
  have hnamed := hpad.named h'
  have hsame := hpad.sameOptions hnamed
  obtain ⟨mode, family, fTCP, n, p, a, config₀, hmode, hfamily, hprotocol, hmax, hports, hsockets,
    hadvertise⟩ := configure_eq_ok_iff.mp h
  obtain ⟨mode', family', fTCP', n', p', a', config₀', hmode', hfamily', hprotocol', hmax', hports',
    hsockets', hadvertise'⟩ := configure_eq_ok_iff.mp h'
  -- Both have gone through the same stages as far as the ports.
  rw [hsame.mode, hmode] at hmode'
  rw [hsame.family, hfamily] at hfamily'
  rw [hsame.protocol, hprotocol] at hprotocol'
  rw [hsame.ports, hports] at hports'
  obtain rfl := Except.ok.inj hmode'
  obtain rfl := Except.ok.inj hfamily'
  obtain rfl := Except.ok.inj hprotocol'
  obtain ⟨rfl, rfl⟩ := Prod.mk.inj (Except.ok.inj hports')
  rw [show args'.normalize.strMaxConnections = args.normalize.strMaxConnections from
    hpad.strMaxConnections, hmax] at hmax'
  obtain rfl := Except.ok.inj hmax'
  obtain ⟨rfl, -⟩ := ports_normalize hports
  -- The advertised addresses are set last, so that the sockets are the same before.
  have hset := setsSockets_of_ok hsockets
  have hset' := setsSockets_of_ok hsockets'
  rw [advertise_eq hset] at hadvertise
  rw [advertise_eq hset'] at hadvertise'
  simp only [except_bind_eq_ok_iff] at hadvertise hadvertise'
  obtain ⟨primary, hprimary, alternate, halternate, hconfig⟩ := hadvertise
  obtain ⟨primary', hprimary', alternate', halternate', hconfig'⟩ := hadvertise'
  have heq := (Except.ok.inj hconfig').trans (Except.ok.inj hconfig).symm
  obtain rfl := hset'.eq_of_advertised hset heq
  obtain rfl : primary' = primary := congrArg CStunServerConfig.addrPrimaryAdvertised heq
  obtain rfl : alternate' = alternate := congrArg CStunServerConfig.addrAlternateAdvertised heq
  refine ⟨hnamed, ?_, ?_⟩
  · intro mode' family' hmode' hfamily'
    obtain rfl := Except.ok.inj (hmode.symm.trans hmode')
    obtain rfl := Except.ok.inj (hfamily.symm.trans hfamily')
    exact sameInterfaces_of_sockets hsockets hsockets'
  · intro family' hfamily'
    obtain rfl := Except.ok.inj (hfamily.symm.trans hfamily')
    unfold advertisedOptions
    simp only [List.forall_mem_cons, List.not_mem_nil, false_implies, implies_true, and_true]
    exact ⟨hprimary'.trans hprimary.symm, halternate'.trans halternate.symm⟩

/-! ## Arguments that are refused -/

/-- What an option is refused with, if it is: `code` when it becomes blank from nothing, and
otherwise what its check gives without the white space. -/
def optionCode {α : Type} (args args' : StartupArgs) (str : StartupArgs → StdString)
    (code : HRESULT) (check : Except HRESULT α) : Option HRESULT :=
  if str args = [] ∧ str args' ≠ [] then some code else raised check

section Host

variable (getifaddrs : Except ℤ (List IfAddrs)) (inet_pton : Family → CString → Option (List UInt8))

/-- The code of the first lookup that fails: of an interface that the mode looks at, with the white
space that `Trim` leaves, and of an advertised address, with all of it. -/
def lookupCode (args args' : StartupArgs) : Option HRESULT :=
  match mode args.normalize.strMode, family args.normalize.strFamily with
  | .ok mode, .ok family =>
    let interfaces := match mode with
      | .basic =>
        raised (basicAddress getifaddrs inet_pton family args'.normalize.strPrimaryInterface
          (portWord args.primaryPort))
      | .full =>
        raised (fullAddresses getifaddrs inet_pton family args'.normalize.strPrimaryInterface
          args'.normalize.strAltInterface)
    interfaces.or <|
      (raised (advertised inet_pton family args'.strPrimaryAdvertised.c_str .zero)).or <|
        raised (advertised inet_pton family args'.strAlternateAdvertised.c_str .zero)
  | _, _ => none

/-- The code of the first option that white space has made blank, or that is refused without it.
After the options that are compared with words or read as numbers come the lookups. -/
def firstCode (args args' : StartupArgs) : Option HRESULT :=
  let copy := args.normalize
  (optionCode args args' strMode E_INVALIDARG (mode copy.strMode)).or <|
  (optionCode args args' strFamily E_INVALIDARG (family copy.strFamily)).or <|
  (optionCode args args' strProtocol E_INVALIDARG (protocol copy.strProtocol)).or <|
  (raised (do maxConnections (← protocol copy.strProtocol) args.strMaxConnections)).or <|
  (optionCode args args' strPrimaryPort (-1)
    (port copy.strPrimaryPort DEFAULT_STUN_PORT.toNat)).or <|
  (optionCode args args' strAltPort (-1) (port copy.strAltPort (DEFAULT_STUN_PORT.toNat + 1))).or <|
  (if args.primaryPort = args.altPort then some E_INVALIDARG else none).or <|
  lookupCode getifaddrs inet_pton args args'

end Host

/-- An option with white space is checked first, and then the rest. -/
theorem raised_option {α β : Type} {args args' : StartupArgs} {str : StartupArgs → StdString}
    {code : HRESULT} {check check' : Except HRESULT α} {f : α → Except HRESULT β}
    {rest : Option HRESULT} (hblank : str args = [] ∧ str args' ≠ [] → check' = .error code)
    (hsame : ¬(str args = [] ∧ str args' ≠ []) → check' = check)
    (hrest : ∀ a, check = .ok a → raised (f a) = rest) :
    raised (check' >>= f) = (optionCode args args' str code check).or rest := by
  unfold optionCode
  split_ifs with h
  · rw [hblank h]
    rfl
  · rw [hsame h]
    exact raised_bind hrest

/-- The sockets are refused with the code of their lookups. -/
theorem raised_sockets {mode : ServerMode} {family : Family}
    {strPrimaryInterface strAltInterface : StdString} {p a : ℤ} {config : CStunServerConfig} :
    raised (sockets getifaddrs inet_pton mode family strPrimaryInterface
      strAltInterface p a config) = match mode with
      | .basic => raised (basicAddress getifaddrs inet_pton family strPrimaryInterface (portWord p))
      | .full =>
        raised (fullAddresses getifaddrs inet_pton family strPrimaryInterface strAltInterface) := by
  cases mode with
  | basic => exact raised_bind_ok
  | full => exact raised_bind_ok

/-- The ports are refused with the code of the first that is, or when they are the same. -/
theorem PaddedArgs.raised_ports {args args' : StartupArgs} (hpad : PaddedArgs args args') :
    raised (ports args'.normalize.strPrimaryPort args'.normalize.strAltPort) =
      (optionCode args args' strPrimaryPort (-1)
        (port args.normalize.strPrimaryPort DEFAULT_STUN_PORT.toNat)).or
      ((optionCode args args' strAltPort (-1)
        (port args.normalize.strAltPort (DEFAULT_STUN_PORT.toNat + 1))).or
      (if args.primaryPort = args.altPort then some E_INVALIDARG else none)) := by
  have hblank : ∀ {str : StartupArgs → StdString} (defaultPort : ℤ), str ∈ trimmedOptions →
      str args = [] ∧ str args' ≠ [] → port (trim (str args')) defaultPort = .error (-1) :=
    fun _ hstr h => port_blank ((hpad.padded _ hstr).blank_trim h.1 h.2)
  have hsame : ∀ {str : StartupArgs → StdString} (defaultPort : ℤ), str ∈ trimmedOptions →
      ¬(str args = [] ∧ str args' ≠ []) →
        port (trim (str args')) defaultPort = port (trim (str args)) defaultPort :=
    fun defaultPort hstr =>
      trim_congr (f := fun str => port str defaultPort) port_blank (hpad.padded _ hstr)
  refine raised_option (hblank _ (by simp [trimmedOptions])) (hsame _ (by simp [trimmedOptions]))
    fun p hp => ?_
  refine raised_option (hblank _ (by simp [trimmedOptions])) (hsame _ (by simp [trimmedOptions]))
    fun a ha => ?_
  obtain rfl : p = args.primaryPort := (port_trim_eq_ok_iff.mp hp).1
  obtain rfl : a = args.altPort := (port_trim_eq_ok_iff.mp ha).1
  split_ifs <;> rfl

/-- Arguments with white space are refused with this code. -/
theorem PaddedArgs.raised_configure {args args' : StartupArgs} (hpad : PaddedArgs args args') :
    raised (configure getifaddrs inet_pton args') = firstCode getifaddrs inet_pton args args' := by
  have hmode := (hpad.padded strMode (by simp [trimmedOptions])).toLower
  have hfamily := hpad.padded strFamily (by simp [trimmedOptions])
  have hprotocol := (hpad.padded strProtocol (by simp [trimmedOptions])).toLower
  unfold configure firstCode
  -- One stage after the other, as in `configure`.
  refine raised_option
    (fun h => mode_blank (hmode.blank_trim (toLower_blank_iff.mpr h).1 (toLower_blank_iff.mpr h).2))
    (fun h => trim_congr mode_blank hmode (toLower_blank_iff.not.mpr h)) fun mode hm => ?_
  refine raised_option (fun h => family_blank (hfamily.blank_trim h.1 h.2))
    (trim_congr family_blank hfamily) fun family hf => ?_
  refine raised_option
    (fun h => protocol_blank
      (hprotocol.blank_trim (toLower_blank_iff.mpr h).1 (toLower_blank_iff.mpr h).2))
    (fun h => trim_congr protocol_blank hprotocol (toLower_blank_iff.not.mpr h)) fun fTCP hp => ?_
  rw [hp]
  have hmax : args'.normalize.strMaxConnections = args.strMaxConnections := hpad.strMaxConnections
  rw [hmax]
  refine raised_bind fun n _ => ?_
  rw [← Option.or_assoc, ← Option.or_assoc, @Option.or_assoc _ (optionCode ..), ← hpad.raised_ports]
  refine raised_bind fun ⟨p, a⟩ hports => ?_
  -- The primary port is that of the option as it was, and so the lookups are those of `lookupCode`.
  have hp := (ports_eq_ok_iff.mp hports).1
  have hpadded := hpad.padded strPrimaryPort (by simp [trimmedOptions])
  obtain rfl : p = args.primaryPort := by
    have hsame := trim_congr (f := fun str => port str DEFAULT_STUN_PORT.toNat) port_blank hpadded
      (not_blank (f := fun str => port str DEFAULT_STUN_PORT.toNat) port_blank hpadded hp)
    exact (port_trim_eq_ok_iff.mp (hsame.symm.trans hp)).1
  have hadvertise : ∀ config, sockets getifaddrs inet_pton mode family
      args'.normalize.strPrimaryInterface args'.normalize.strAltInterface args.primaryPort a
      { fTCP := fTCP, nMaxConnections := UInt32.ofNat n.toNat } = .ok config →
      raised (advertise inet_pton mode family args'.strPrimaryAdvertised.c_str
        args'.strAlternateAdvertised.c_str config) =
        (raised (advertised inet_pton family args'.strPrimaryAdvertised.c_str .zero)).or
          (raised (advertised inet_pton family args'.strAlternateAdvertised.c_str .zero)) := by
    intro config hsockets
    rw [advertise_eq (setsSockets_of_ok hsockets)]
    exact raised_bind fun _ _ => raised_bind_ok
  unfold lookupCode
  rw [hm, hf]
  refine (raised_bind hadvertise).trans ?_
  rw [raised_sockets]

/-- `BuildServerConfigurationFromArgs` returns the same and writes the same. -/
def SameResult (getifaddrs : Except ℤ (List IfAddrs))
    (inet_pton : Family → CString → Option (List UInt8)) (args args' : StartupArgs) : Prop :=
  ∀ out, buildServerConfigurationFromArgs getifaddrs inet_pton args' out =
    buildServerConfigurationFromArgs getifaddrs inet_pton args out

/-- The result is the same when the same configuration is made, or none with the same code. -/
theorem sameResult_iff_configure {args args' : StartupArgs} :
    SameResult getifaddrs inet_pton args args' ↔
      configure getifaddrs inet_pton args' = configure getifaddrs inet_pton args := by
  unfold SameResult
  simp only [buildServerConfigurationFromArgs_eq]
  constructor
  · intro h
    specialize h {}
    cases hargs : configure getifaddrs inet_pton args <;>
      cases hargs' : configure getifaddrs inet_pton args' <;>
      rw [hargs, hargs'] at h <;> cases h <;> rfl
  · intro h out
    rw [h]

/-- White space at the ends of the options does not matter when it disturbs nothing, or else when
the arguments are refused without it, and the first option that is refused or disturbed with it has
the same code. -/
theorem PaddedArgs.sameResult_iff {args args' : StartupArgs} (hpad : PaddedArgs args args') :
    SameResult getifaddrs inet_pton args args' ↔
      Undisturbed getifaddrs inet_pton args args' ∨
        ∃ hr, firstCode getifaddrs inet_pton args args = some hr ∧
          firstCode getifaddrs inet_pton args args' = some hr := by
  have hself : PaddedArgs args args := ⟨fun str _ => .refl _, rfl⟩
  rw [sameResult_iff_configure]
  simp only [← hself.raised_configure, ← hpad.raised_configure, raised_eq_some_iff]
  constructor
  · intro h
    cases hargs : configure getifaddrs inet_pton args with
    | ok config => exact .inl (hpad.undisturbed hargs (h.trans hargs))
    | error hr => exact .inr ⟨hr, rfl, h.trans hargs⟩
  · rintro (h | ⟨hr, hargs, hargs'⟩)
    · exact hpad.configure_eq h
    · exact hargs'.trans hargs.symm

/-- `PaddedArgs.sameResult_iff` for a space before the primary port. -/
theorem PaddedArgs.sameResult_iff_space :
    SameResult (.error 0) (fun _ _ => none) { strPrimaryPort := [56, 48] }
        { strPrimaryPort := [32, 56, 48] } ↔
      Undisturbed (.error 0) (fun _ _ => none) { strPrimaryPort := [56, 48] }
          { strPrimaryPort := [32, 56, 48] } ∨
        ∃ hr, firstCode (.error 0) (fun _ _ => none) { strPrimaryPort := [56, 48] }
            { strPrimaryPort := [56, 48] } = some hr ∧
          firstCode (.error 0) (fun _ _ => none) { strPrimaryPort := [56, 48] }
            { strPrimaryPort := [32, 56, 48] } = some hr := by
  have hport : Padded [56, 48] [32, 56, 48] := ⟨[32], [], by decide, nofun, rfl⟩
  exact PaddedArgs.sameResult_iff (paddedArgs_iff.mpr ⟨⟨.refl _, .refl _, .refl _, hport, .refl _,
    .refl _, .refl _, .refl _, .refl _⟩, rfl⟩)

/-- An empty mode that becomes a space is refused. So is the advertised address `1.2.3.4` with a
space before it, where no option was empty, when `inet_pton` knows that address only. -/
theorem not_sameResult :
    (¬∀ (getifaddrs : Except ℤ (List IfAddrs)) (inet_pton : Family → CString → Option (List UInt8))
      (args args' : StartupArgs), PaddedArgs args args' →
        SameResult getifaddrs inet_pton args args') ∧
    ¬∀ (getifaddrs : Except ℤ (List IfAddrs)) (inet_pton : Family → CString → Option (List UInt8))
      (args args' : StartupArgs), PaddedArgs args args' →
        (∀ str ∈ trimmedOptions, str args = [] → str args' = []) →
          SameResult getifaddrs inet_pton args args' := by
  constructor
  · intro h
    -- A mode of one space is no mode.
    have hspace : Padded [] [32] := ⟨[32], [], by decide, nofun, rfl⟩
    have hpad : PaddedArgs {} { strMode := [32] } :=
      paddedArgs_iff.mpr ⟨⟨hspace, .refl _, .refl _, .refl _, .refl _, .refl _, .refl _, .refl _,
        .refl _⟩, rfl⟩
    have hsame := h (.error 0) (fun _ _ => none) _ _ hpad {}
    cases hsame
  · intro h
    -- An advertised address is not trimmed.
    have hspace : Padded [49, 46, 50, 46, 51, 46, 52] [32, 49, 46, 50, 46, 51, 46, 52] :=
      ⟨[32], [], by decide, nofun, rfl⟩
    have hpad : PaddedArgs { strPrimaryAdvertised := [49, 46, 50, 46, 51, 46, 52] }
        { strPrimaryAdvertised := [32, 49, 46, 50, 46, 51, 46, 52] } :=
      paddedArgs_iff.mpr ⟨⟨.refl _, .refl _, .refl _, .refl _, .refl _, .refl _, .refl _, hspace,
        .refl _⟩, rfl⟩
    have hsame := h (.error 0)
      (fun _ psz => if psz.chars = [49, 46, 50, 46, 51, 46, 52] then some [1, 2, 3, 4]
        else none) _ _ hpad
      (by simp [trimmedOptions]) {}
    cases hsame

end StartupArgs

end Stun
