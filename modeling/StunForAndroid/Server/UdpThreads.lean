import StunForAndroid.Server.ServerInit

/-!
# The threads of a UDP server

What `Initialize` of `CStunServer` leaves, when it succeeds: the sockets that are configured are
valid, and the threads share them out. In single threaded mode there is one thread for all of them,
and in multi-threaded mode one thread for each. All threads have the address set of the
configuration, which is also what a TCP server hands its threads (`initialize_listens`).
-/

namespace Stun

open Fallible

open CTCPStunThread (roles)

open CTCPServer (tsaHandler)

namespace CStunServerConfig

/-- The sockets that the threads listen on, thread by thread. -/
def listens (config : CStunServerConfig) : List (List SocketRole) :=
  if config.fMultiThreadedMode = false then [roles.filter config.fHas]
  else (roles.filter config.fHas).map fun role => [role]

/-- Each socket that is configured has a thread. -/
theorem exists_listens {config : CStunServerConfig} {role : SocketRole}
    (h : config.fHas role = true) :
    ∃ socks ∈ config.listens, role ∈ socks := by
  have hmem : role ∈ roles.filter config.fHas := by
    refine List.mem_filter.mpr ⟨?_, h⟩
    cases role <;> decide
  unfold listens
  split_ifs
  · exact ⟨_, List.mem_singleton_self _, hmem⟩
  · exact ⟨[role], List.mem_map_of_mem hmem, List.mem_singleton_self role⟩

end CStunServerConfig

namespace CStunServer

variable {config : CStunServerConfig} {provider : ObjId}

/-- The sockets of some roles are opened, and there are no threads. -/
structure Opened (config : CStunServerConfig) (done : List SocketRole) (frame : Frame) : Prop where
  threads : frame.server.threads = []
  arrSockets : frame.server.arrSockets = fun role => decide (role ∈ done) && config.fHas role
  tsa : frame.tsa = fun role =>
    if role ∈ done then tsaHandler config role else ⟨.zero, false⟩

/-- A role that is not configured has no address. -/
theorem tsaHandler_of_not {role : SocketRole} (h : config.fHas role = false) :
    tsaHandler config role = ⟨.zero, false⟩ := by
  unfold tsaHandler CTCPServer.initTSA
  rw [if_pos h]

/-- `AddSocket` of a role that is configured. -/
theorem addSocket_opened (a : SocketAnswers) {role : SocketRole} (hhas : config.fHas role = true)
    (done : List SocketRole) :
    Ensures (Opened config done)
      (addSocket a role (config.addr role) (config.addrAdvertised role))
      fun _ frame => Opened config (done ++ [role]) frame := by
  intro frame hframe _ frame' h
  unfold addSocket at h
  obtain ⟨_, frame₁, hinit, hopened⟩ := bind_eq_ok_iff.mp h
  -- When no call has failed the role is marked and its address written.
  obtain ⟨-, rfl⟩ := chkIf_eq_ok_iff.mp hinit
  rw [bind_modify] at hopened
  obtain ⟨_, frame₂, henable, hadvertised⟩ := bind_eq_ok_iff.mp hopened
  obtain ⟨-, rfl⟩ := chkIf_eq_ok_iff.mp henable
  cases hadvertised
  refine ⟨hframe.threads, ?_, ?_⟩
  · funext role'
    show Function.update frame₁.server.arrSockets role true role' = _
    rw [hframe.arrSockets, Function.update_apply]
    split_ifs with heq
    · simp [heq, hhas]
    · simp [heq]
  · funext role'
    show Function.update frame₁.tsa role _ role' = _
    rw [hframe.tsa, Function.update_apply]
    split_ifs with heq hmem hmem hmem'
    · unfold tsaHandler CTCPServer.initTSA
      rw [heq, if_neg (by simp [hhas])]
    · simp [heq] at hmem
    · rfl
    · simp [hmem] at hmem'
    · simp_all
    · rfl

/-- Opening the sockets of some roles opens those that are configured. -/
theorem addSockets_opened (a : SocketAnswers) (rs done : List SocketRole) :
    Ensures (Opened config done) (addSockets config a rs)
      fun _ frame => Opened config (done ++ rs) frame := by
  induction rs generalizing done with
  | nil =>
    refine .pure fun frame hframe => ?_
    rw [List.append_nil]
    exact hframe
  | cons role rest ih =>
    intro frame hframe _ frame' h
    rw [List.append_cons]
    unfold addSockets at h
    split_ifs at h with hhas
    · obtain ⟨_, frame₁, hadd, h⟩ := bind_eq_ok_iff.mp h
      have hopened := addSocket_opened a hhas done frame hframe _ frame₁ hadd
      rw [bind_modify] at h
      refine ih (done ++ [role]) { frame₁ with socketcount := frame₁.socketcount + 1 } ?_ _ frame' h
      exact ⟨hopened.threads, hopened.arrSockets, hopened.tsa⟩
    · -- The role stays without a socket and without an address.
      rw [Bool.not_eq_true] at hhas
      refine ih (done ++ [role]) frame ⟨hframe.threads, ?_, ?_⟩ _ frame' h
      · rw [hframe.arrSockets]
        funext role'
        by_cases heq : role' = role
        · simp [heq, hhas]
        · simp [heq]
      · rw [hframe.tsa]
        funext role'
        by_cases heq : role' = role
        · simp [heq, tsaHandler_of_not hhas]
        · simp [heq]

/-- The sockets are opened, and the threads listen on some of them. -/
structure Sharing (config : CStunServerConfig) (listens : List (List SocketRole)) (frame : Frame) :
    Prop where
  arrSockets : frame.server.arrSockets = config.fHas
  tsa : frame.tsa = tsaHandler config
  socks : frame.server.threads.map OwningSocketThread.socks = listens
  initialized : ∀ thread ∈ frame.server.threads,
    CStunSocketThread.Initialized (tsaHandler config) thread.toCStunSocketThread

/-- `Init` of a new thread gives it the sockets of its role, and the thread is initialized. -/
theorem init_sharing {valid : SocketRole → Bool} {tsa : TransportAddressSet} {pAuth : Option ObjId}
    {rolePrimaryRecv : Option SocketRole} {thread thread' : OwningSocketThread}
    {objects objects' : Objects}
    (h : OwningSocketThread.init valid tsa pAuth rolePrimaryRecv (thread, objects) =
      .ok () (thread', objects')) :
    thread'.socks = rolePrimaryRecv.elim (roles.filter valid) (fun role => [role]) ∧
      CStunSocketThread.Initialized tsa thread'.toCStunSocketThread := by
  unfold OwningSocketThread.init at h
  obtain ⟨_, s, hchk, h⟩ := bind_eq_ok_iff.mp h
  obtain ⟨-, rfl⟩ := chkIf_eq_ok_iff.mp hchk
  cases h
  constructor
  · cases rolePrimaryRecv <;> rfl
  · exact CStunSocketThread.initialized_initThreadBuffers
      { thread.toCStunSocketThread with tsa := tsa }

/-- Adding a thread adds the sockets of its role to those that the threads share. -/
theorem addThread_sharing (rolePrimaryRecv : Option SocketRole) (listens : List (List SocketRole)) :
    Ensures (Sharing config listens) (addThread rolePrimaryRecv) fun _ frame =>
      Sharing config (listens ++
        [rolePrimaryRecv.elim (roles.filter config.fHas) fun role => [role]]) frame := by
  intro frame hframe _ frame' h
  unfold addThread at h
  rw [bind_get] at h
  obtain ⟨⟨thread, objects⟩, hinit, rfl⟩ := zoom_eq_ok_iff.mp h
  rw [hframe.arrSockets, hframe.tsa] at hinit
  obtain ⟨hsocks, hinitialized⟩ := init_sharing hinit
  refine ⟨hframe.arrSockets, hframe.tsa, ?_, fun thread' hmem => ?_⟩
  · rw [List.map_append, hframe.socks, ← hsocks]
    rfl
  · rcases List.mem_append.mp hmem with hold | hnew
    · exact hframe.initialized thread' hold
    · rw [List.mem_singleton.mp hnew]
      exact hinitialized

/-- Adding a thread for every socket gives each of them a thread of its own. -/
theorem addThreads_sharing (rs : List SocketRole) (listens : List (List SocketRole)) :
    Ensures (Sharing config listens) (addThreads rs) fun _ frame =>
      Sharing config (listens ++ (rs.filter config.fHas).map fun role => [role]) frame := by
  induction rs generalizing listens with
  | nil =>
    refine .pure fun frame hframe => ?_
    rw [List.filter_nil, List.map_nil, List.append_nil]
    exact hframe
  | cons role rest ih =>
    intro frame hframe _ frame' h
    unfold addThreads at h
    rw [bind_get] at h
    dsimp only at h
    rw [hframe.arrSockets] at h
    split_ifs at h with hvalid
    · obtain ⟨_, frame₁, hadd, h⟩ := bind_eq_ok_iff.mp h
      rw [List.filter_cons_of_pos hvalid, List.map_cons, List.append_cons]
      exact ih _ frame₁ (addThread_sharing (some role) listens frame hframe _ frame₁ hadd)
        _ frame' h
    · rw [List.filter_cons_of_neg hvalid]
      exact ih listens frame hframe _ frame' h

/-- `Initialize` up to `Cleanup` shares the sockets among the threads as the configuration says. -/
theorem initializeBody_sharing (a : SocketAnswers) :
    Ensures (fun frame => frame.server.threads = [] ∧ frame.server.arrSockets = (fun _ => false) ∧
        frame.tsa = fun _ => ⟨.zero, false⟩)
      (initializeBody config a provider) fun _ frame => Sharing config config.listens frame := by
  rintro frame ⟨hthreads, hsockets, htsa⟩ _ frame' h
  unfold initializeBody at h
  rw [bind_modify] at h
  obtain ⟨_, frame₂, hopen, h⟩ := bind_eq_ok_iff.mp h
  have hfirst : Opened config [] { frame with
      spAuth := some provider, objects := frame.objects.createInstanceNoInit provider } :=
    ⟨hthreads, by rw [hsockets]; rfl, by rw [htsa]; rfl⟩
  -- The sockets of all roles that are configured are opened.
  have hopened := addSockets_opened a roles [] _ hfirst _ frame₂ hopen
  rw [bind_get] at h
  obtain ⟨_, frame₃, hchk, hthread⟩ := bind_eq_ok_iff.mp h
  obtain ⟨-, rfl⟩ := chkIf_eq_ok_iff.mp hchk
  have hall : ∀ role : SocketRole, role ∈ ([] ++ roles : List SocketRole) := by
    intro role
    cases role <;> decide
  have hsharing : Sharing config [] frame₃ := by
    refine ⟨?_, ?_, ?_, ?_⟩
    · rw [hopened.arrSockets]
      funext role
      simp only [hall role, decide_true, Bool.true_and]
    · rw [hopened.tsa]
      funext role
      rw [if_pos (hall role)]
    · rw [hopened.threads]
      rfl
    · rw [hopened.threads]
      exact fun thread hmem => absurd hmem List.not_mem_nil
  unfold CStunServerConfig.listens
  -- The threads take them: one takes all, or each takes one.
  split_ifs at hthread ⊢ with hmode
  · exact addThread_sharing none [] frame₃ hsharing _ frame' hthread
  · exact addThreads_sharing roles [] frame₃ hsharing _ frame' hthread

/-- When `Initialize` succeeds, the threads share out the sockets that are configured, and all have
the address set of the configuration. -/
theorem initialize_listens {a : SocketAnswers} {server server' : CStunServer}
    {objects objects' : Objects}
    (h : initialize_ config a provider (server, objects) = .ok () (server', objects')) :
    server'.arrSockets = config.fHas ∧
      server'.threads.map OwningSocketThread.socks = config.listens ∧
      ∀ thread ∈ server'.threads,
        CStunSocketThread.Initialized (tsaHandler config) thread.toCStunSocketThread := by
  unfold initialize_ at h
  dsimp only at h
  split at h
  next u frame hbody =>
    cases h
    have hsharing := initializeBody_sharing a _ ⟨rfl, rfl, rfl⟩ _ frame (onError_eq_ok_iff.mp hbody)
    exact ⟨hsharing.arrSockets, hsharing.socks, hsharing.initialized⟩
  next => cases h

end CStunServer

end Stun
