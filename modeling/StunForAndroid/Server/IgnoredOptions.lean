import StunForAndroid.Server.ServerConfig

/-!
# The options that basic mode ignores

By `src/resources/stunserver.md` the alternate port and the alternate interface are ignored in basic
mode. The interface is. The alternate port, or its default, is compared with the primary port before
the mode is looked at, and they must be different. That is all that the two options do.
-/

namespace Stun

open Fallible

namespace StartupArgs

variable {getifaddrs : Except ℤ (List IfAddrs)} {inet_pton : Family → CString → Option (List UInt8)}

/-- Both succeed with the same configuration, or neither succeeds. -/
def SameOutcome (getifaddrs : Except ℤ (List IfAddrs))
    (inet_pton : Family → CString → Option (List UInt8)) (args args' : StartupArgs) : Prop :=
  ∀ out config, buildServerConfigurationFromArgs getifaddrs inet_pton args out = .ok () config ↔
    buildServerConfigurationFromArgs getifaddrs inet_pton args' out = .ok () config

/-- The alternate port is absent, or a number between 1 and 65535. -/
def ValidAltPort (args : StartupArgs) : Prop := args.strAltPort ≠ [] → ValidPort args.altPort

/-- Arguments in basic mode that differ in the options that it ignores. -/
structure BasicPair (args args' : StartupArgs) : Prop where
  basic : mode args.normalize.strMode = .ok .basic
  valid : args.ValidAltPort
  valid' : args'.ValidAltPort
  same : args' = { args with
    strAltPort := args'.strAltPort
    strAltInterface := args'.strAltInterface }

/-- All options but the two of the alternate address are accepted in basic mode, and make the
configuration. -/
def OthersAccepted (getifaddrs : Except ℤ (List IfAddrs))
    (inet_pton : Family → CString → Option (List UInt8)) (args : StartupArgs)
    (config : CStunServerConfig) : Prop :=
  ∃ family fTCP nMaxConnections nPrimaryPort config₀,
    StartupArgs.family args.normalize.strFamily = .ok family ∧
    protocol args.normalize.strProtocol = .ok fTCP ∧
    maxConnections fTCP args.normalize.strMaxConnections = .ok nMaxConnections ∧
    port args.normalize.strPrimaryPort DEFAULT_STUN_PORT.toNat = .ok nPrimaryPort ∧
    basicSockets getifaddrs inet_pton family args.normalize.strPrimaryInterface nPrimaryPort
      { fTCP := fTCP, nMaxConnections := UInt32.ofNat nMaxConnections.toNat } = .ok config₀ ∧
    advertise inet_pton .basic family args.strPrimaryAdvertised.c_str
      args.strAlternateAdvertised.c_str config₀ = .ok config

/-- In basic mode the arguments are accepted when the other options are, and the ports are
different. -/
theorem configure_basic_iff {args : StartupArgs} {config : CStunServerConfig}
    (hbasic : mode args.normalize.strMode = .ok .basic) (hvalid : args.ValidAltPort) :
    configure getifaddrs inet_pton args = .ok config ↔
      OthersAccepted getifaddrs inet_pton args config ∧ args.primaryPort ≠ args.altPort := by
  rw [configure_eq_ok_iff]
  -- Only `ports` reads the alternate port in basic mode, and nothing reads the alternate interface.
  constructor
  · rintro ⟨mode, family, fTCP, n, p, a, config₀, hmode, hfamily, hprotocol, hmax, hports, hsockets,
      hadvertise⟩
    obtain rfl := Except.ok.inj (hbasic.symm.trans hmode)
    obtain ⟨hp, -, -⟩ := ports_eq_ok_iff.mp hports
    obtain ⟨rfl, rfl, -, -, hne⟩ := ports_normalize hports
    exact ⟨⟨family, fTCP, n, _, config₀, hfamily, hprotocol, hmax, hp, hsockets, hadvertise⟩, hne⟩
  · rintro ⟨⟨family, fTCP, n, p, config₀, hfamily, hprotocol, hmax, hp, hsockets, hadvertise⟩, hne⟩
    obtain ⟨rfl, -⟩ := port_trim_eq_ok_iff.mp hp
    have ha : port args.normalize.strAltPort (DEFAULT_STUN_PORT.toNat + 1) = .ok args.altPort :=
      port_trim_eq_ok_iff.mpr ⟨rfl, hvalid⟩
    exact ⟨.basic, family, fTCP, n, _, args.altPort, config₀, hbasic, hfamily, hprotocol, hmax,
      ports_eq_ok_iff.mpr ⟨hp, ha, hne⟩, hsockets, hadvertise⟩

/-- The two options matter when the others are accepted and just one of the alternate ports is the
primary one. -/
theorem BasicPair.sameOutcome_iff {args args' : StartupArgs} (h : BasicPair args args') :
    SameOutcome getifaddrs inet_pton args args' ↔
      ((∃ config, OthersAccepted getifaddrs inet_pton args config) →
        (args.primaryPort = args.altPort ↔ args.primaryPort = args'.altPort)) := by
  have hbasic' : mode args'.normalize.strMode = .ok .basic := by
    rw [h.same]
    exact h.basic
  have hothers : ∀ config, OthersAccepted getifaddrs inet_pton args' config ↔
      OthersAccepted getifaddrs inet_pton args config := by
    intro config
    rw [h.same]
    rfl
  have hprimary : args'.primaryPort = args.primaryPort := by
    rw [h.same]
    rfl
  unfold SameOutcome
  simp only [buildServerConfigurationFromArgs_eq_ok_iff, configure_basic_iff h.basic h.valid,
    configure_basic_iff hbasic' h.valid', hothers, hprimary]
  constructor
  · rintro hsame ⟨config, hconfig⟩
    -- With the other options accepted, each side says that its ports are different.
    have hne := hsame {} config
    simp only [hconfig, true_and] at hne
    exact not_iff_not.mp hne
  · rintro hports - config
    exact and_congr_right fun hconfig => not_congr (hports ⟨config, hconfig⟩)

/-- `BuildServerConfigurationFromArgs` succeeds. -/
def Accepted (getifaddrs : Except ℤ (List IfAddrs))
    (inet_pton : Family → CString → Option (List UInt8)) (args : StartupArgs) : Prop :=
  ∀ out, ∃ config, buildServerConfigurationFromArgs getifaddrs inet_pton args out = .ok () config

/-- A primary port alone is accepted unless it is the alternate one. -/
theorem accepted_primaryPort_iff {strPrimaryPort : StdString}
    (h : ValidPort (atoi strPrimaryPort.trim.c_str)) :
    Accepted getifaddrs inet_pton { strPrimaryPort := strPrimaryPort } ↔
      atoi strPrimaryPort.trim.c_str ≠ 3479 := by
  have hempty : strPrimaryPort ≠ [] := by
    rintro rfl
    exact absurd h.1 (by decide)
  have hprimary : primaryPort { strPrimaryPort := strPrimaryPort } =
    atoi strPrimaryPort.trim.c_str :=
    if_neg hempty
  have hport : port strPrimaryPort.trim DEFAULT_STUN_PORT.toNat =
      .ok (atoi strPrimaryPort.trim.c_str) :=
    port_trim_eq_ok_iff.mpr ⟨(if_neg hempty).symm, fun _ => h⟩
  have hothers : ∃ config,
      OthersAccepted getifaddrs inet_pton { strPrimaryPort := strPrimaryPort } config :=
    ⟨_, .inet, false, 0, _, _, rfl, rfl, rfl, hport, rfl, rfl⟩
  unfold Accepted
  simp only [buildServerConfigurationFromArgs_eq_ok_iff]
  rw [← hprimary]
  constructor
  · intro haccepted
    obtain ⟨config, hconfig⟩ := haccepted {}
    exact ((configure_basic_iff rfl fun halt => absurd rfl halt).mp hconfig).2
  · obtain ⟨config, hconfig⟩ := hothers
    exact fun hne _ =>
      ⟨config, (configure_basic_iff rfl fun halt => absurd rfl halt).mpr ⟨hconfig, hne⟩⟩

/-- The options of the alternate address are ignored in basic mode as far as the alternate port is
not the primary one, and a primary port alone is accepted when it is not the default of the
alternate one. -/
theorem BasicPair.ignored_iff {args args' : StartupArgs} {strPrimaryPort : StdString}
    (hpair : BasicPair args args') (hport : ValidPort (atoi strPrimaryPort.trim.c_str)) :
    (SameOutcome getifaddrs inet_pton args args' ↔
      ((∃ config, OthersAccepted getifaddrs inet_pton args config) →
        (args.primaryPort = args.altPort ↔ args.primaryPort = args'.altPort))) ∧
    (Accepted getifaddrs inet_pton { strPrimaryPort := strPrimaryPort } ↔
      atoi strPrimaryPort.trim.c_str ≠ 3479) :=
  ⟨hpair.sameOutcome_iff, accepted_primaryPort_iff hport⟩

/-- `BasicPair.ignored_iff` for an alternate port that is ignored, and one that is accepted. -/
theorem BasicPair.ignored_iff_http :
    (SameOutcome (.error 0) (fun _ _ => none) {} { strAltPort := [56, 48] } ↔
      ((∃ config, OthersAccepted (.error 0) (fun _ _ => none) {} config) →
        (primaryPort {} = altPort {} ↔ primaryPort {} = altPort { strAltPort := [56, 48] }))) ∧
    (Accepted (.error 0) (fun _ _ => none) { strPrimaryPort := [56, 48] } ↔
      atoi (StdString.c_str (StdString.trim [56, 48])) ≠ 3479) :=
  BasicPair.ignored_iff
    ⟨rfl, fun halt => absurd rfl halt, fun _ => by unfold ValidPort; decide, rfl⟩
    (by unfold ValidPort; decide)

/-- The alternate port 3478 is refused in basic mode when there is no other option, and so is the
primary port 3479. -/
theorem not_ignored :
    (¬∀ (getifaddrs : Except ℤ (List IfAddrs)) (inet_pton : Family → CString → Option (List UInt8))
      (args args' : StartupArgs), BasicPair args args' →
        SameOutcome getifaddrs inet_pton args args') ∧
    ¬∀ (getifaddrs : Except ℤ (List IfAddrs)) (inet_pton : Family → CString → Option (List UInt8))
      (strPrimaryPort : StdString), ValidPort (atoi strPrimaryPort.trim.c_str) →
        Accepted getifaddrs inet_pton { strPrimaryPort := strPrimaryPort } := by
  constructor
  · intro hsame
    have hpair : BasicPair {} { strAltPort := [51, 52, 55, 56] } :=
      ⟨rfl, fun halt => absurd rfl halt, fun _ => by unfold ValidPort; decide, rfl⟩
    have hrefused := (hsame (.error 0) (fun _ _ => none) _ _ hpair {} _).mp rfl
    cases hrefused
  · intro haccepted
    obtain ⟨config, hconfig⟩ := haccepted (.error 0) (fun _ _ => none) [51, 52, 55, 57]
      (by unfold ValidPort; decide) {}
    cases hconfig

end StartupArgs

end Stun
