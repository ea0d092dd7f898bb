import StunForAndroid.Server.ServerConfig

/-!
# What the command line accepts and the TCP server does not

The options are checked in `src/server/main.cpp`, and the configuration that is made of them again
by `Init` of the thread, in `src/server/tcpserver.cpp`. Both have a limit for the number of
connections. It is the same number, but the command line accepts it, and so does
`src/resources/stunserver.md`, while `Init` asserts that the number is below.
-/

namespace Stun

open Fallible

/-! ## `Init` -/

/-- The number of connections that a thread takes. -/
def OwningTcpThread.limit (maxConnections : ℤ) : ℤ :=
  if 0 < maxConnections then maxConnections else c_MaxNumberOfConnectionsDefault

/-- The first of the system's answers that makes `Init` fail, as the code of the error. -/
def TcpAnswers.refusal (a : TcpAnswers) : Option HRESULT :=
  if failed a.createListenSockets then some a.createListenSockets
  else if failed a.createPipes then some a.createPipes
  else if failed a.createPollingInstance then some a.createPollingInstance
  else if failed a.setListenSocketsOnEpoll then some a.setListenSocketsOnEpoll
  else if failed a.addPipe then some a.addPipe
  else if a.hashConnections1.all = false then some E_FAIL
  else if a.hashConnections2.all = false then some E_FAIL
  else none

/-- The limit of a thread is positive, so `InitTable` does not refuse it. -/
theorem OwningTcpThread.limit_pos (maxConnections : ℤ) : 0 < limit maxConnections := by
  unfold limit c_MaxNumberOfConnectionsDefault
  split_ifs with h
  · exact h
  · decide

/-- `InitTable` for a number of connections that `Init` accepts fails only when there is no
memory. -/
theorem OwningTcpThread.initTable_eq_neg_one_iff {memory : NewAnswers} {thread : OwningTcpThread}
    (hpos : 0 < thread.maxConnections) (hlimit : thread.maxConnections < 100000) :
    initTable memory thread = -1 ↔ memory.all = false := by
  refine FastHashDynamic.initTableRet_eq_neg_one_iff ?_
  rw [UInt64.ofInt, UInt64.toNat_ofNat']
  omega

/-- `Init` of a new thread that has a socket fails when there are too many connections, and
otherwise only when the system does. -/
theorem OwningTcpThread.failsWith_init_iff {a : TcpAnswers} {hr : HRESULT}
    {tsaListen tsaHandler : TransportAddressSet} {pAuth : Option ObjId} {maxConnections : ℤ}
    {x : OwningTcpThread × Objects}
    (hListen : countValid tsaListen ≠ 0) (hHandler : countValid tsaHandler ≠ 0) :
    FailsWith (init a tsaListen tsaHandler pAuth maxConnections) x hr ↔
      if limit maxConnections ≥ 100000 then hr = E_INVALIDARG else a.refusal = some hr := by
  unfold init
  rw [failsWith_onError_iff]
  unfold initBody
  rw [failsWith_modify_bind, failsWith_get_bind, failsWith_chkIf_bind_iff]
  simp only [decide_eq_true_eq]
  by_cases hlimit : limit maxConnections ≥ 100000
  · exact (if_pos hlimit).to_iff.trans (if_pos hlimit).to_iff.symm
  · -- With a socket to listen on and a limit that is accepted, only the answers of the system are
    -- left.
    have htable :
        ∀ memory, initTable memory { x.1 with maxConnections := limit maxConnections } = -1 ↔
        memory.all = false := fun memory =>
      initTable_eq_neg_one_iff (limit_pos maxConnections) (not_le.mp hlimit)
    refine Iff.trans (if_neg hlimit).to_iff (Iff.trans ?_ (if_neg hlimit).to_iff.symm)
    simp only [failsWith_chkIf_bind_iff, failsWith_modify_bind, failsWith_chkIf_iff,
      decide_eq_true_eq, if_neg hListen, if_neg hHandler]
    unfold limit at htable
    simp only [htable]
    unfold TcpAnswers.refusal
    split_ifs with _ _ _ _ _ _ hmemory
    · exact eq_comm.trans Option.some_inj.symm
    · exact eq_comm.trans Option.some_inj.symm
    · exact eq_comm.trans Option.some_inj.symm
    · exact eq_comm.trans Option.some_inj.symm
    · exact eq_comm.trans Option.some_inj.symm
    · exact eq_comm.trans Option.some_inj.symm
    · exact (and_iff_right hmemory).trans (eq_comm.trans Option.some_inj.symm)
    · exact iff_of_false (fun h => hmemory h.1) nofun

/-! ## `Initialize` -/

namespace CTCPServer

/-- The thread of a configuration with PP has a socket to listen on, and an address to answer
from. -/
theorem countValid_ne_zero {config : CStunServerConfig} (hPP : config.fHasPP = true) :
    OwningTcpThread.countValid (tsaListenAll config) ≠ 0 ∧
      OwningTcpThread.countValid (tsaHandler config) ≠ 0 := by
  have hvalid : ∀ addrListen addrAdvertise,
      (initTSA config.fHasPP addrListen addrAdvertise).fValid = true := by
    intro addrListen addrAdvertise
    rw [hPP]
    rfl
  have hcount : ∀ {tsa : TransportAddressSet}, (tsa .rolePP).fValid = true →
      OwningTcpThread.countValid tsa ≠ 0 := by
    intro tsa htsa
    unfold OwningTcpThread.countValid
    rw [ne_eq, List.length_eq_zero_iff, List.filter_eq_nil_iff]
    exact fun h => h .rolePP (by decide) htsa
  exact ⟨hcount (hvalid _ _), hcount (hvalid _ _)⟩

/-- `Initialize` of a server that was constructed, with one thread for all sockets, fails as `Init`
of the thread does. -/
theorem failsWith_initialize_iff {config : CStunServerConfig} {a : SocketRole → TcpAnswers}
    {provider : ObjId} {objects : Objects} {hr : HRESULT} (hPP : config.fHasPP = true)
    (hthreads : config.fMultiThreadedMode = false) :
    FailsWith (initialize_ config a provider) ({}, objects) hr ↔
      if OwningTcpThread.limit config.nMaxConnections.toInt32.toInt ≥ 100000 then hr = E_INVALIDARG
      else (a .rolePP).refusal = some hr := by
  obtain ⟨hListen, hHandler⟩ := countValid_ne_zero hPP
  unfold initialize_
  rw [failsWith_onError_iff]
  unfold initializeBody
  rw [failsWith_get_bind, failsWith_chkIf_bind_iff, failsWith_modify_bind, if_pos hthreads]
  unfold addThread
  rw [failsWith_get_bind, failsWith_zoom_iff]
  exact OwningTcpThread.failsWith_init_iff hListen hHandler

end CTCPServer

/-! ## The configuration -/

namespace StartupArgs

variable {getifaddrs : Except ℤ (List IfAddrs)} {inet_pton : Family → CString → Option (List UInt8)}

/-- The number of connections in TCP mode is at most 100000, or zero when there is no option. -/
theorem maxConnections_range {strMaxConnections : StdString} {n : ℤ}
    (h : maxConnections true strMaxConnections = .ok n) :
    n = atoi strMaxConnections.c_str ∧ 0 ≤ n ∧ n ≤ 100000 := by
  unfold maxConnections at h
  rw [if_neg (show ¬true = false by decide)] at h
  split_ifs at h with hlength
  · obtain ⟨hn, hlow, hhigh⟩ := (number_eq_ok_iff le_rfl).mp h
    exact ⟨hn, by omega, hhigh⟩
  · obtain rfl : strMaxConnections = [] := List.length_eq_zero_iff.mp (by omega)
    obtain rfl := Except.ok.inj h
    exact ⟨by decide, le_rfl, by decide⟩

/-- A configuration for TCP has one thread, and the number of connections that the option gives. -/
theorem configure_tcp {args : StartupArgs} {config : CStunServerConfig}
    (h : configure getifaddrs inet_pton args = .ok config) (hTCP : config.fTCP = true) :
    config.fHasPP = true ∧ config.fMultiThreadedMode = false ∧
      config.nMaxConnections.toInt32.toInt = atoi args.strMaxConnections.c_str ∧
      atoi args.strMaxConnections.c_str ≤ 100000 := by
  obtain ⟨mode, family, fTCP, n, p, a, config₀, -, -, -, hmax, -, hsockets, hadvertise⟩ :=
    configure_eq_ok_iff.mp h
  obtain ⟨primary, alternate, rfl⟩ := advertise_eq_ok hadvertise
  obtain ⟨hPP, -, hthreads, htcp, hn, -, -⟩ := setsSockets_of_ok hsockets
  obtain rfl : fTCP = true := htcp.symm.trans hTCP
  obtain ⟨hatoi, hlow, hhigh⟩ := maxConnections_range hmax
  refine ⟨hPP, hthreads, ?_, hatoi ▸ hhigh⟩
  -- The number is stored as a `uint32_t` and given to `Init` as an `int`.
  calc config₀.nMaxConnections.toInt32.toInt
      = (UInt32.ofNat n.toNat).toInt32.toInt := by rw [hn]
    _ = (Int32.ofNat n.toNat).toInt := by rw [UInt32.toInt32_ofNat']
    _ = n.toNat := Int32.toInt_ofNat_of_lt (by omega)
    _ = n := Int.toNat_of_nonneg hlow
    _ = atoi args.strMaxConnections.c_str := hatoi

/-- An error of `Initialize` of a server that was constructed is one that the system has given. -/
def FailsOnlyByTheSystem (config : CStunServerConfig) : Prop :=
  ∀ a provider objects hr,
    FailsWith (CTCPServer.initialize_ config a provider) ({}, objects) hr →
      ∃ role, (a role).refusal = some hr

/-- With a single thread, `Initialize` fails only by the system exactly when the thread takes fewer
than 100000 connections. -/
theorem failsOnlyByTheSystem_iff_limit {config : CStunServerConfig} (hPP : config.fHasPP = true)
    (hthreads : config.fMultiThreadedMode = false) :
    FailsOnlyByTheSystem config ↔
      OwningTcpThread.limit config.nMaxConnections.toInt32.toInt < 100000 := by
  unfold FailsOnlyByTheSystem
  simp only [CTCPServer.failsWith_initialize_iff hPP hthreads]
  by_cases hlimit : OwningTcpThread.limit config.nMaxConnections.toInt32.toInt ≥ 100000
  · simp only [if_pos hlimit]
    refine iff_of_false (fun h => ?_) (by omega)
    -- The system refuses nothing, and `Init` fails.
    obtain ⟨role, hrole⟩ := h (fun _ => {}) 0 (fun _ => {}) E_INVALIDARG rfl
    exact absurd hrole (by decide)
  · simp only [if_neg hlimit]
    exact iff_of_true (fun _ _ _ _ h => ⟨.rolePP, h⟩) (by omega)

/-- A configuration that the command line accepts is accepted by the TCP server, but for the largest
number of connections. -/
theorem failsOnlyByTheSystem_iff {args : StartupArgs} {out config : CStunServerConfig}
    (h : buildServerConfigurationFromArgs getifaddrs inet_pton args out = .ok () config)
    (hTCP : config.fTCP = true) :
    FailsOnlyByTheSystem config ↔ atoi args.strMaxConnections.c_str ≠ 100000 := by
  obtain ⟨hPP, hthreads, hn, hmax⟩ :=
    configure_tcp (buildServerConfigurationFromArgs_eq_ok_iff.mp h) hTCP
  rw [failsOnlyByTheSystem_iff_limit hPP hthreads, hn]
  unfold OwningTcpThread.limit c_MaxNumberOfConnectionsDefault
  -- Without an option the number is zero, and the default is below the limit.
  split_ifs
  · omega
  · omega

/-- The largest number of connections that the command line accepts is 100000, and `Init` wants
fewer. -/
theorem not_failsOnlyByTheSystem : ¬∀ (getifaddrs : Except ℤ (List IfAddrs))
    (inet_pton : Family → CString → Option (List UInt8)) (args : StartupArgs)
    (out config : CStunServerConfig),
    buildServerConfigurationFromArgs getifaddrs inet_pton args out = .ok () config →
      config.fTCP = true → FailsOnlyByTheSystem config := by
  intro h
  have hfails := h (.error 0) (fun _ _ => none)
    { strProtocol := OptionValue.tcp.chars, strMaxConnections := [49, 48, 48, 48, 48, 48] }
    {} _ rfl rfl
  rw [failsOnlyByTheSystem_iff_limit rfl rfl] at hfails
  exact absurd hfails (by decide)

/-- A thousand connections are accepted by both. -/
theorem failsOnlyByTheSystem_iff_thousand :
    FailsOnlyByTheSystem
        { fHasPP := true, fTCP := true, nMaxConnections := 1000,
          addrPP := CSocketAddress.setPort 3478 ⟨IPAddress.ofOctets .inet [], 0⟩ } ↔
      atoi (StdString.c_str [49, 48, 48, 48]) ≠ 100000 :=
  @failsOnlyByTheSystem_iff (.error 0) (fun _ _ => none)
    { strProtocol := OptionValue.tcp.chars, strMaxConnections := [49, 48, 48, 48] } {} _ rfl rfl

end StartupArgs

end Stun
