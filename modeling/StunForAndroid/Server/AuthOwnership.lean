import StunForAndroid.Server.ServerInit

/-!
# Who holds the provider

Each thread takes the provider from its server with `Attach`, which does not count, and releases it.
So when a server is initialized, the count of the provider is too low by the number of its threads,
and it still is when all of them are deleted (`authStates_owed`). In `CStunServer` the provider is
deleted when `Initialize` returns, and in `CTCPServer` when the first thread is deleted.
-/

namespace Stun

open Fallible CRefCountedPtr

open CTCPStunThread (roles)

variable {provider : ObjId}

/-! ## UDP -/

namespace CStunServer

/-- `Shutdown` releases what the server and its threads hold. -/
theorem excess_shutdown (server : CStunServer) (objects : Objects) :
    ((server.shutdown objects).2 provider).m_nRefs = excess provider objects server.holders :=
  m_nRefs_of_all_released OwningSocketThread.spAuth server.threads server.spAuth objects

/-- The count is too low by the number of threads. -/
structure Owing (provider : ObjId) (frame : Frame) : Prop where
  spAuth : frame.spAuth = some provider
  owes : excess provider frame.objects (frame.spAuth :: frame.server.holders) =
    -frame.server.threads.length

/-- A new thread that is initialized holds the provider. -/
theorem init_owing {valid : SocketRole → Bool} {tsa : TransportAddressSet} {pAuth : Option ObjId}
    {rolePrimaryRecv : Option SocketRole} {thread thread' : OwningSocketThread}
    {objects objects' : Objects} (hnew : thread.spAuth = none)
    (h : OwningSocketThread.init valid tsa pAuth rolePrimaryRecv (thread, objects) =
      .ok () (thread', objects')) : thread'.spAuth = pAuth ∧ objects' = objects := by
  unfold OwningSocketThread.init at h
  obtain ⟨_, s, hchk, h⟩ := bind_eq_ok_iff.mp h
  obtain ⟨-, rfl⟩ := chkIf_eq_ok_iff.mp hchk
  cases h
  exact ⟨rfl, congrArg (Objects.release · objects) hnew⟩

/-- Adding a thread keeps what is owed to the provider, and there is a thread then. -/
theorem addThread_owing (rolePrimaryRecv : Option SocketRole) :
    Ensures (Owing provider) (addThread rolePrimaryRecv)
      fun _ frame => Owing provider frame ∧ 1 ≤ frame.server.threads.length := by
  intro frame hframe _ frame' h
  unfold addThread at h
  rw [bind_get] at h
  obtain ⟨⟨thread, objects⟩, hinit, rfl⟩ := zoom_eq_ok_iff.mp h
  obtain ⟨hthread, hobjects⟩ := init_owing rfl hinit
  refine ⟨⟨hframe.spAuth, ?_⟩, ?_⟩
  · -- The thread holds the provider, and nothing was counted for it.
    have howes := hframe.owes
    unfold excess holders at howes ⊢
    have hperm : ((frame.server.threads ++ [thread]).map (·.spAuth)).Perm
        (thread.spAuth :: frame.server.threads.map (·.spAuth)) := by
      rw [List.map_append]
      exact List.perm_append_singleton _ _
    simp only [holding_cons, holding_perm hperm, hthread, hobjects, hframe.spAuth, pointsTo_self,
      List.length_append, List.length_singleton, Nat.cast_add, Nat.cast_one] at howes ⊢
    omega
  · rw [List.length_append]
    exact Nat.le_add_left _ _

/-- Adding a thread for every socket keeps what is owed to the provider, and there is a thread then
if there is a socket. -/
theorem addThreads_owing (rs : List SocketRole) :
    Ensures (fun frame => Owing provider frame ∧
        (1 ≤ frame.server.threads.length ∨ ∃ role ∈ rs, frame.server.arrSockets role = true))
      (addThreads rs) fun _ frame => Owing provider frame ∧ 1 ≤ frame.server.threads.length := by
  induction rs with
  | nil =>
    refine .pure fun frame hframe => ⟨hframe.1, hframe.2.resolve_right ?_⟩
    rintro ⟨role, hrole, -⟩
    cases hrole
  | cons role rest ih =>
    intro frame hframe _ frame' h
    unfold addThreads at h
    rw [bind_get] at h
    dsimp only at h
    split_ifs at h with hvalid
    · obtain ⟨_, frame₁, hadd, h⟩ := bind_eq_ok_iff.mp h
      obtain ⟨howing, hlength⟩ := addThread_owing (some role) frame hframe.1 _ frame₁ hadd
      exact ih frame₁ ⟨howing, .inl hlength⟩ _ frame' h
    · refine ih frame ⟨hframe.1, hframe.2.imp_right ?_⟩ _ frame' h
      rintro ⟨role', hmem, hrole'⟩
      rcases List.mem_cons.mp hmem with rfl | hmem
      · exact absurd hrole' hvalid
      · exact ⟨role', hmem, hrole'⟩

/-- `AddSocket` makes its socket valid and leaves the provider as it is. -/
theorem addSocket_owing (a : SocketAnswers) (role : SocketRole)
    (addrListen addrAdvertise : CSocketAddress) :
    Ensures (Owing provider) (addSocket a role addrListen addrAdvertise)
      fun _ frame => Owing provider frame ∧ frame.server.arrSockets role = true := by
  intro frame hframe _ frame' h
  unfold addSocket at h
  obtain ⟨_, frame₁, hinit, hopened⟩ := bind_eq_ok_iff.mp h
  obtain ⟨-, rfl⟩ := chkIf_eq_ok_iff.mp hinit
  rw [bind_modify] at hopened
  obtain ⟨_, frame₂, henable, hadvertised⟩ := bind_eq_ok_iff.mp hopened
  obtain ⟨-, rfl⟩ := chkIf_eq_ok_iff.mp henable
  cases hadvertised
  exact ⟨⟨hframe.spAuth, hframe.owes⟩, Function.update_self ..⟩

/-- The sockets leave the provider as it is, and when one was counted there is one that is valid. -/
theorem addSockets_owing (config : CStunServerConfig) (a : SocketAnswers) (rs : List SocketRole) :
    Ensures (fun frame => Owing provider frame ∧
        (frame.socketcount ≠ 0 → ∃ role, frame.server.arrSockets role = true))
      (addSockets config a rs) fun _ frame => Owing provider frame ∧
        (frame.socketcount ≠ 0 → ∃ role, frame.server.arrSockets role = true) := by
  induction rs with
  | nil => exact .pure fun _ hframe => hframe
  | cons role rest ih =>
    intro frame hframe _ frame' h
    unfold addSockets at h
    split_ifs at h with hhas
    · obtain ⟨_, frame₁, hadd, h⟩ := bind_eq_ok_iff.mp h
      obtain ⟨howing, hrole⟩ := addSocket_owing a role _ _ frame hframe.1 _ frame₁ hadd
      rw [bind_modify] at h
      refine ih { frame₁ with socketcount := frame₁.socketcount + 1 } ⟨?_, fun _ => ?_⟩ _ frame' h
      · exact ⟨howing.spAuth, howing.owes⟩
      · exact ⟨role, hrole⟩
    · exact ih frame hframe _ frame' h

/-- `Initialize` up to `Cleanup` makes at least one thread, and the count is too low by their
number. -/
theorem initializeBody_owing (config : CStunServerConfig) (a : SocketAnswers) :
    Ensures (fun frame => frame.server.spAuth = none ∧ frame.server.threads = [] ∧
        frame.socketcount = 0)
      (initializeBody config a provider)
      fun _ frame => Owing provider frame ∧ 1 ≤ frame.server.threads.length := by
  rintro frame ⟨hmember, hthreads, hcount⟩ _ frame' h
  unfold initializeBody at h
  rw [bind_modify] at h
  obtain ⟨_, frame₂, hsockets, h⟩ := bind_eq_ok_iff.mp h
  -- The provider has the reference of the local pointer.
  have hcreated : Owing provider { frame with
      spAuth := some provider, objects := frame.objects.createInstanceNoInit provider } := by
    refine ⟨rfl, ?_⟩
    unfold excess holders Objects.createInstanceNoInit holding
    simp [hmember, hthreads, CBasicRefCount.internalAddRef]
  obtain ⟨howing, hvalid⟩ := addSockets_owing config a roles _
    ⟨hcreated, fun hne => absurd hcount hne⟩ _ frame₂ hsockets
  rw [bind_get] at h
  obtain ⟨_, frame₃, hchk, hthread⟩ := bind_eq_ok_iff.mp h
  obtain ⟨hne, rfl⟩ := chkIf_eq_ok_iff.mp hchk
  split_ifs at hthread
  · exact addThread_owing none _ howing _ frame' hthread
  · obtain ⟨role, hrole⟩ := hvalid (of_decide_eq_false hne)
    have hmem : role ∈ roles := by cases role <;> decide
    exact addThreads_owing roles _ ⟨howing, .inr ⟨role, hmem, hrole⟩⟩ _ frame' hthread

/-- After `Initialize` there is at least one thread, and the count is too low by their number. -/
theorem initialize_owing {config : CStunServerConfig} {a : SocketAnswers}
    {server server' : CStunServer} {objects objects' : Objects}
    (h : initialize_ config a provider (server, objects) = .ok () (server', objects')) :
    1 ≤ server'.threads.length ∧
      excess provider objects' server'.holders = -server'.threads.length := by
  unfold initialize_ at h
  dsimp only at h
  split at h
  next u frame hbody =>
    cases h
    obtain ⟨howing, hlength⟩ :=
      initializeBody_owing config a _ ⟨rfl, rfl, rfl⟩ _ frame (onError_eq_ok_iff.mp hbody)
    exact ⟨hlength, (excess_destroy frame.spAuth).trans howing.owes⟩
  next => cases h

end CStunServer

/-! ## TCP -/

namespace OwningTcpThread

/-- A new thread that is initialized holds the provider. -/
theorem init_owing {a : TcpAnswers} {tsaListen tsaHandler : TransportAddressSet}
    {pAuth : Option ObjId} {maxConnections : ℤ} {thread thread' : OwningTcpThread}
    {objects objects' : Objects} (hnew : thread.spAuth = none)
    (h : init a tsaListen tsaHandler pAuth maxConnections (thread, objects) =
      .ok () (thread', objects')) :
    thread'.spAuth = pAuth ∧ objects' = objects := by
  have hbody := onError_eq_ok_iff.mp h
  unfold initBody at hbody
  -- Three checks come before the provider is attached and seven after it, and none changes
  -- anything.
  simp only [bind_modify, bind_get, chkIf_bind_eq_ok_iff, chkIf_eq_ok_iff] at hbody
  obtain ⟨-, -, -, -, -, -, -, -, -, -, hx⟩ := hbody
  cases hx
  exact ⟨rfl, congrArg (Objects.release · objects) hnew⟩

end OwningTcpThread

/-- Filling an empty slot of an array adds one to the slots in use. -/
theorem filterMap_update_perm {ι β : Type} [DecidableEq ι] {l : List ι} {f : ι → Option β}
    {i : ι} {b : β} (hnodup : l.Nodup) (hmem : i ∈ l) (hnone : f i = none) :
    (l.filterMap (Function.update f i (some b))).Perm (b :: l.filterMap f) := by
  -- The slot is at one place of the array only, so the values before it and behind it are the same.
  induction l with
  | nil => cases hmem
  | cons j l ih =>
    obtain ⟨hj, hl⟩ := List.nodup_cons.mp hnodup
    by_cases hij : i = j
    · subst hij
      have hsame : l.filterMap (Function.update f i (some b)) = l.filterMap f :=
        List.filterMap_congr fun k hk => Function.update_of_ne (ne_of_mem_of_not_mem hk hj) _ _
      rw [List.filterMap_cons_some (Function.update_self ..), hsame, List.filterMap_cons_none hnone]
    · have hrest := ih hl ((List.mem_cons.mp hmem).resolve_left hij)
      have hfj : Function.update f i (some b) j = f j := Function.update_of_ne (Ne.symm hij) _ _
      cases hval : f j with
      | none =>
        rw [List.filterMap_cons_none (hfj.trans hval), List.filterMap_cons_none hval]
        exact hrest
      | some b' =>
        rw [List.filterMap_cons_some (hfj.trans hval), List.filterMap_cons_some hval]
        exact (hrest.cons b').trans (.swap ..)

namespace CTCPServer

/-- The threads of the server. -/
def allThreads (server : CTCPServer) : List OwningTcpThread := roles.filterMap server.threads

/-- `Shutdown` releases what the server and its threads hold. -/
theorem excess_shutdown (server : CTCPServer) (objects : Objects) :
    ((server.shutdown objects).2 provider).m_nRefs = excess provider objects server.holders :=
  m_nRefs_of_all_released OwningTcpThread.spAuth server.allThreads server.spAuth objects

/-- The count is too low by the number of threads. -/
structure Owing (provider : ObjId) (x : CTCPServer × Objects) : Prop where
  spAuth : x.1.spAuth = some provider
  owes : excess provider x.2 x.1.holders = -x.1.allThreads.length

/-- Adding a thread keeps what is owed to the provider, and there is a thread then. -/
theorem addThread_owing (config : CStunServerConfig) (a : SocketRole → TcpAnswers)
    (role : SocketRole) (tsaListen : TransportAddressSet) :
    Ensures (fun x => Owing provider x ∧ x.1.threads role = none)
      (addThread config a role tsaListen)
      fun _ x => Owing provider x ∧ 1 ≤ x.1.allThreads.length := by
  rintro ⟨server, objects⟩ ⟨howing, hslot⟩ _ x' h
  unfold addThread at h
  rw [bind_get] at h
  obtain ⟨⟨thread, objects'⟩, hinit, rfl⟩ := zoom_eq_ok_iff.mp h
  obtain ⟨hthread, hobjects⟩ := OwningTcpThread.init_owing rfl hinit
  have hmem : role ∈ roles := by cases role <;> decide
  have hperm := filterMap_update_perm (b := thread) (by decide) hmem hslot
  refine ⟨⟨howing.spAuth, ?_⟩, ?_⟩
  · -- The thread holds the provider, and nothing was counted for it.
    have howes := howing.owes
    have hspAuth : server.spAuth = some provider := howing.spAuth
    unfold excess holders allThreads at howes ⊢
    simp only [holding_cons, holding_perm (hperm.map _), List.map_cons, hperm.length_eq, hthread,
      hobjects, hspAuth, pointsTo_self, List.length_cons, Nat.cast_add, Nat.cast_one] at howes ⊢
    omega
  · unfold allThreads
    rw [hperm.length_eq]
    exact Nat.le_add_left _ _

/-- Adding a thread for every socket keeps what is owed to the provider, and there is a thread then
if there is a socket. -/
theorem addThreads_owing (config : CStunServerConfig) (a : SocketRole → TcpAnswers)
    {rs : List SocketRole} (hnodup : rs.Nodup) :
    Ensures (fun x => Owing provider x ∧ (∀ role ∈ rs, x.1.threads role = none) ∧
        (1 ≤ x.1.allThreads.length ∨ ∃ role ∈ rs, config.fHas role = true))
      (addThreads config a rs)
      fun _ x => Owing provider x ∧ 1 ≤ x.1.allThreads.length := by
  -- The slots that are still to come are empty, so no thread is lost.
  induction rs with
  | nil =>
    refine .pure fun x hx => ⟨hx.1, hx.2.2.resolve_right ?_⟩
    rintro ⟨role, hrole, -⟩
    cases hrole
  | cons role rest ih =>
    obtain ⟨hnotMem, hrest⟩ := List.nodup_cons.mp hnodup
    rintro x ⟨howing, hslots, hsome⟩ _ x' h
    unfold addThreads at h
    split_ifs at h with hvalid
    · obtain ⟨_, x₁, hadd, hthreads⟩ := bind_eq_ok_iff.mp h
      obtain ⟨howing₁, hlength⟩ := addThread_owing config a role _ x
        ⟨howing, hslots role List.mem_cons_self⟩ _ x₁ hadd
      refine ih hrest x₁ ⟨howing₁, fun role' hrole' => ?_, .inl hlength⟩ _ x' hthreads
      -- The other slots are as they were.
      unfold addThread at hadd
      rw [bind_get] at hadd
      obtain ⟨⟨thread, objects'⟩, -, rfl⟩ := zoom_eq_ok_iff.mp hadd
      exact (Function.update_of_ne (ne_of_mem_of_not_mem hrole' hnotMem) _ _).trans
        (hslots role' (List.mem_cons_of_mem _ hrole'))
    · refine ih hrest x ⟨howing, fun role' hrole' => hslots role' (List.mem_cons_of_mem _ hrole'),
        hsome.imp_right ?_⟩ _ x' h
      rintro ⟨role', hmem, hhas⟩
      rcases List.mem_cons.mp hmem with rfl | hmem
      · refine absurd ?_ hvalid
        unfold tsaHandler initTSA
        rw [hhas]
        rfl
      · exact ⟨role', hmem, hhas⟩

/-- A server that was constructed has at least one thread after `Initialize` of some sockets, and
the count is too low by their number. -/
theorem initialize_owing {config : CStunServerConfig} {a : SocketRole → TcpAnswers}
    {objects : Objects} {x : CTCPServer × Objects} (hsockets : ∃ role, config.fHas role = true)
    (h : initialize_ config a provider ({}, objects) = .ok () x) :
    1 ≤ x.1.allThreads.length ∧ excess provider x.2 x.1.holders = -x.1.allThreads.length := by
  have hbody := onError_eq_ok_iff.mp h
  unfold initializeBody at hbody
  rw [bind_get] at hbody
  obtain ⟨_, x₁, hchk, hcreate⟩ := bind_eq_ok_iff.mp hbody
  obtain ⟨-, rfl⟩ := chkIf_eq_ok_iff.mp hchk
  rw [bind_modify] at hcreate
  -- The provider has the reference of the member.
  have hcreated : Owing provider
      (({ spAuth := some provider } : CTCPServer), objects.createInstanceNoInit provider) := by
    refine ⟨rfl, ?_⟩
    unfold excess holders allThreads Objects.createInstanceNoInit holding
    simp [CBasicRefCount.internalAddRef]
  split_ifs at hcreate
  · obtain ⟨howing, hlength⟩ := addThread_owing config a .rolePP _ _ ⟨hcreated, rfl⟩ _ x hcreate
    exact ⟨hlength, howing.owes⟩
  · obtain ⟨role, hhas⟩ := hsockets
    have hmem : role ∈ roles := by cases role <;> decide
    obtain ⟨howing, hlength⟩ := addThreads_owing config a (by decide) _
      ⟨hcreated, fun _ _ => rfl, .inr ⟨role, hmem, hhas⟩⟩ _ x hcreate
    exact ⟨hlength, howing.owes⟩

end CTCPServer

/-! ## The provider -/

/-- The objects, and the pointers that a server and its threads hold. -/
structure AuthState where
  objects : Objects
  holders : List CRefCountedPtr

/-- What there is after `Initialize` of the server that is configured, if it succeeds, and after
`Shutdown`. -/
def authStates (config : CStunServerConfig) (a : SocketAnswers) (tcp : SocketRole → TcpAnswers)
    (provider : ObjId) (objects : Objects) : Option (AuthState × AuthState) :=
  if config.fTCP = false then
    match CStunServer.initialize_ config a provider ({}, objects) with
    | .ok _ (server, objects) =>
      let down := server.shutdown objects
      some (⟨objects, server.holders⟩, ⟨down.2, down.1.holders⟩)
    | .error _ _ => none
  else
    match CTCPServer.initialize_ config tcp provider ({}, objects) with
    | .ok _ (server, objects) =>
      let down := server.shutdown objects
      some (⟨objects, server.holders⟩, ⟨down.2, down.1.holders⟩)
    | .error _ _ => none

/-- The provider is kept while the server is up, and released when it is down: its count is that of
the pointers that hold it, and at least 1, and later it has been 0 once and has never been below. -/
structure AuthKept (provider : ObjId) (up down : AuthState) : Prop where
  counted : (up.objects provider).m_nRefs = holding provider up.holders
  alive : 1 ≤ (up.objects provider).m_nRefs
  once : (down.objects provider).finalReleases = 1
  nonneg : ∀ n ∈ (down.objects provider).counts, 0 ≤ n

/-- The count is too low by the number of threads, which is not zero, while the server is up and
when it is down. -/
theorem authStates_owed {config : CStunServerConfig} {a : SocketAnswers}
    {tcp : SocketRole → TcpAnswers}
    {objects : Objects} {up down : AuthState} (hsockets : ∃ role, config.fHas role = true)
    (h : authStates config a tcp provider objects = some (up, down)) :
    ∃ threads : ℕ, 1 ≤ threads ∧
      (up.objects provider).m_nRefs = holding provider up.holders - threads ∧
      (down.objects provider).m_nRefs = -threads := by
  unfold authStates at h
  split_ifs at h
  · split at h
    next u server objects' hinit =>
      cases h
      obtain ⟨hlength, howes⟩ := CStunServer.initialize_owing hinit
      refine ⟨server.threads.length, hlength, ?_, ?_⟩
      · exact sub_eq_iff_eq_add'.mp howes
      · exact (CStunServer.excess_shutdown server objects').trans howes
    next => cases h
  · split at h
    next u server objects' hinit =>
      cases h
      obtain ⟨hlength, howes⟩ := CTCPServer.initialize_owing hsockets hinit
      refine ⟨server.allThreads.length, hlength, ?_, ?_⟩
      · exact sub_eq_iff_eq_add'.mp howes
      · exact (CTCPServer.excess_shutdown server objects').trans howes
    next => cases h

/-- No server keeps its provider. -/
theorem not_authKept {config : CStunServerConfig} {a : SocketAnswers}
    {tcp : SocketRole → TcpAnswers}
    {objects : Objects} {up down : AuthState} (hsockets : ∃ role, config.fHas role = true)
    (h : authStates config a tcp provider objects = some (up, down)) :
    ¬AuthKept provider up down := by
  intro hkept
  obtain ⟨threads, hthreads, hup, -⟩ := authStates_owed hsockets h
  have hcounted := hkept.counted
  omega

/-- `not_authKept` for a TCP server with two sockets and a thread for each. -/
theorem not_authKept_twoThreads :
    let config : CStunServerConfig :=
      { fHasPP := true, fHasPA := true, fMultiThreadedMode := true, fTCP := true }
    ∃ up down, authStates config ⟨fun _ => S_OK, fun _ => S_OK⟩ (fun _ => {}) 0 (fun _ => {}) =
      some (up, down) ∧ ¬AuthKept 0 up down := by
  intro config
  have hsome : (authStates config ⟨fun _ => S_OK, fun _ => S_OK⟩ (fun _ => {}) 0
    (fun _ => {})).isSome = true := by decide +kernel
  obtain ⟨⟨up, down⟩, h⟩ := Option.isSome_iff_exists.mp hsome
  exact ⟨up, down, h, not_authKept ⟨.rolePP, rfl⟩ h⟩

/-- A UDP server with one socket: the provider is deleted before its thread is started, and released
once more at the end. -/
theorem auth_deleted_before_start :
    ¬ ∀ up down, authStates { fHasPP := true } ⟨fun _ => S_OK, fun _ => S_OK⟩ (fun _ => {}) 0
      (fun _ => {}) = some (up, down) → AuthKept 0 up down := by
  intro hkept
  have hcounts : (authStates { fHasPP := true } ⟨fun _ => S_OK, fun _ => S_OK⟩ (fun _ => {}) 0
      (fun _ => {})).map (fun x => ((x.1.objects 0).m_nRefs, (x.2.objects 0).counts)) =
        some (0, [-1, 0, 1]) := by decide +kernel
  obtain ⟨⟨up, down⟩, h, hvalues⟩ := Option.map_eq_some_iff.mp hcounts
  have halive := (hkept up down h).alive
  rw [(Prod.mk.inj hvalues).1] at halive
  exact absurd halive (by decide)

end Stun
