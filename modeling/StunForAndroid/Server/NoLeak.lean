import StunForAndroid.Server.PooledConnections
import StunForAndroid.Server.SocketThread
import StunForAndroid.Server.TcpLimit
import StunForAndroid.StunCore.Response

/-!
# No state from one request to the next

A thread of the UDP server handles each datagram as if it were its first, and a connection that the
TCP server's pool gives out again is as good as a new one. What is left of earlier requests is in
places that nothing reads: the octets of a buffer past its size, and the slots of a table that are
not in use.
-/

namespace Stun

namespace CTCPStunThread

variable {P : Type} {cfg : TcpConfig} (I : IPolling P)

/-- After any run the pool gives out connections that are the same as new ones. -/
theorem getConnection_after_run (spPolling : P) (socketTable : SocketRole → ℤ) (pipe : ℤ)
    (descriptors : List ℤ) (time : ℤ) (inputs : List RoundInput) :
    ∃ t : CTCPStunThread P cfg,
      run I inputs (init I (start spPolling socketTable pipe descriptors time)) = some t ∧
      ∀ (sock : ℤ) (role : SocketRole) (addrlocal addrremote : CSocketAddress) (memory : ℕ),
        sock ≠ -1 → t.connectionpool.freelist ≠ [] ∨ memory ≠ 0 →
        ∃ c pool conn, t.connectionpool.getConnection sock role addrlocal addrremote memory
            t.descriptors = (some c, pool, t.descriptors) ∧
          pool.deref c = some conn ∧
          conn.SameToPeer (StunConnection.newConnection sock role addrlocal addrremote) := by
  have hstart : Books ∅ (start spPolling socketTable pipe descriptors time : CTCPStunThread P cfg)
      (fun _ => []) [] := books_start (by simp) spPolling socketTable pipe time
  have hinit : Books ∅ (init I (start spPolling socketTable pipe descriptors time :
      CTCPStunThread P cfg)) (fun _ => []) [] :=
    (hstart.setListenSocketsOnEpoll (I := I) true).congr rfl rfl rfl rfl rfl
  have hgood : (init I (start spPolling socketTable pipe descriptors time :
      CTCPStunThread P cfg)).connectionpool.Reusable := by
    unfold init
    rw [setListenSocketsOnEpoll_eq]
    exact fun conn hconn => by cases hconn
  obtain ⟨t, items, hrun, hb⟩ := hinit.run (I := I) inputs
  refine ⟨t, hrun, fun sock role addrlocal addrremote memory hsock hfree => ?_⟩
  obtain ⟨c, pool, conn, hget, -, hderef, -⟩ :=
    hb.gaveOut.getConnection_some hsock hfree role addrlocal addrremote t.descriptors
  obtain ⟨-, htaken⟩ := (keepsReusable_run hgood inputs t hrun).getConnection hget
  obtain ⟨old, hold, rfl⟩ := htaken c rfl conn hderef
  exact ⟨c, pool, _, hget, hderef, hold.sameToPeer hsock role addrlocal addrremote t.descriptors⟩

end CTCPStunThread

/-- What is sent for a datagram, whatever the thread has handled before, depends on the datagram,
the address set and the provider's answer; and after any run of a TCP thread the pool gives out
connections that are the same as new ones. -/
theorem requests_independent (D : Digests) {P : Type} {cfg : TcpConfig} (I : IPolling P) :
    (∀ (t₀ : CStunSocketThread)
        (history : List (Option CStunSocketThread.Datagram × Option IStunAuth))
        (d : CStunSocketThread.Datagram) (pAuth : Option IStunAuth),
      (((t₀.initThreadBuffers.run D history).receive d).processRequestAndSendResponse D pAuth).1 =
        CStunSocketThread.responseTo D t₀.tsa d
          (pAuth.map (· (CStunSocketThread.askedBy d)))) ∧
    ∀ (spPolling : P) (socketTable : SocketRole → ℤ) (pipe : ℤ) (descriptors : List ℤ) (time : ℤ)
      (inputs : List RoundInput), ∃ t : CTCPStunThread P cfg,
        CTCPStunThread.run I inputs
          (CTCPStunThread.init I (CTCPStunThread.start spPolling socketTable pipe
            descriptors time)) = some t ∧
        ∀ (sock : ℤ) (role : SocketRole) (addrlocal addrremote : CSocketAddress) (memory : ℕ),
          sock ≠ -1 → t.connectionpool.freelist ≠ [] ∨ memory ≠ 0 →
          ∃ c pool conn, t.connectionpool.getConnection sock role addrlocal addrremote memory
              t.descriptors = (some c, pool, t.descriptors) ∧
            pool.deref c = some conn ∧
            conn.SameToPeer (StunConnection.newConnection sock role addrlocal addrremote) :=
  ⟨CStunSocketThread.response_after D, CTCPStunThread.getConnection_after_run I⟩

/-- `requests_independent` for a binding request after a datagram that is no message, and for a
thread that has accepted three connections. -/
theorem requests_independent_threeAccepts :
    let D : Digests := .constant (List.replicate 20 0) (List.replicate 16 0) 0 rfl rfl
    let tsa : TransportAddressSet := fun _ => ⟨.zero, true⟩
    let request : CStunSocketThread.Datagram :=
      ⟨CStunRequestHandler.bindingRequest, .zero, .zero, .rolePP⟩
    let history := [(some { request with octets := [0xff] }, none)]
    ((((CStunSocketThread.initThreadBuffers { tsa := tsa }).run D history).receive
        request).processRequestAndSendResponse D none).1 =
          CStunSocketThread.responseTo D tsa request none ∧
      (CStunSocketThread.responseTo D tsa request none).isSome = true ∧
      ∃ (t : CTCPStunThread CEpoll CTCPStunThread.twoConnections) (c : ConnId)
        (pool : CConnectionPool) (conn : StunConnection),
        CTCPStunThread.run CEpoll.polling CTCPStunThread.threeAccepts
          (CTCPStunThread.twoListening.thread CTCPStunThread.twoConnections []
            [some [3], some [3, 4]] 0) = some t ∧
        t.connectionpool.getConnection 20 .rolePA .zero .zero 1 t.descriptors =
          (some c, pool, t.descriptors) ∧
        pool.deref c = some conn ∧
        conn.SameToPeer (StunConnection.newConnection 20 .rolePA .zero .zero) := by
  intro D tsa request history
  obtain ⟨hudp, htcp⟩ := @requests_independent D CEpoll CTCPStunThread.twoConnections CEpoll.polling
  refine ⟨hudp { tsa := tsa } history request none, by decide +kernel, ?_⟩
  rw [CTCPStunThread.Opened.thread_nil]
  obtain ⟨t, hrun, hpool⟩ := htcp (CEpoll.initialize_ 7 [some [3], some [3, 4]])
    CTCPStunThread.twoListening.socketTable 5 [3, 4, 5] 0 CTCPStunThread.threeAccepts
  obtain ⟨c, pool, conn, hget, hderef, hsame⟩ :=
    hpool 20 .rolePA .zero .zero 1 (by decide) (.inr (by decide))
  exact ⟨t, c, pool, conn, hrun, hget, hderef, hsame⟩

end Stun
