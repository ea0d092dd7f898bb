import StunForAndroid.Server.TcpThread

/-!
# What serving a connection does

The functions of `CTCPStunThread` that serve a connection call each other, and each of them may
close the connection at several places. All of them do the same to the thread: they write the
connection, but for its socket and the hint for its table, they change its event set, and at the end
they may close it, once (`Serves`). A function that works on the connection after it was closed
would not be of this form.
-/

namespace Stun

namespace CTCPStunThread

variable {P : Type} {cfg : TcpConfig} (I : IPolling P)

/-- What is done to a connection that stays open: it is written, but for its socket and its hint,
and its event set is changed. -/
inductive Touches (c : ConnId) : CTCPStunThread P cfg → CTCPStunThread P cfg → Prop
  | refl (t : CTCPStunThread P cfg) : Touches c t t
  | write {t t' : CTCPStunThread P cfg} {conn conn' : StunConnection}
      (hc : t.connectionpool.deref c = some conn)
      (hsock : conn'.stunsocket.sock = conn.stunsocket.sock)
      (hhint : conn'.idHashTable = conn.idHashTable) (rest : Touches c (t.setConn c conn') t') :
      Touches c t t'
  | poll {t t' : CTCPStunThread P cfg} (fd : ℤ)
      (rest : Touches c { t with spPolling := (I.changeEventSet fd t.spPolling).2 } t') :
      Touches c t t'

/-- A function serves a connection: it touches it, and at the end it may close it. -/
def Serves (c : ConnId) (t : CTCPStunThread P cfg) (r : Option (CTCPStunThread P cfg)) : Prop :=
  ∃ t', Touches I c t t' ∧ (r = some t' ∨ r = t'.closeConnection I c)

namespace Serves

variable {I} {c : ConnId} {t : CTCPStunThread P cfg} {r : Option (CTCPStunThread P cfg)}

/-- Doing nothing serves the connection. -/
theorem done : Serves I c t (some t) := ⟨t, .refl t, Or.inl rfl⟩

/-- Closing the connection serves it. -/
theorem close : Serves I c t (t.closeConnection I c) := ⟨t, .refl t, Or.inr rfl⟩

/-- A function that first writes the connection serves it when the rest does. -/
theorem write {conn : StunConnection} (hc : t.connectionpool.deref c = some conn)
    (conn' : StunConnection) (hsock : conn'.stunsocket.sock = conn.stunsocket.sock)
    (hhint : conn'.idHashTable = conn.idHashTable) (h : Serves I c (t.setConn c conn') r) :
    Serves I c t r := by
  obtain ⟨t', htouches, hr⟩ := h
  exact ⟨t', .write hc hsock hhint htouches, hr⟩

/-- A function that first changes the event set serves the connection when the rest does. -/
theorem poll (fd : ℤ)
    (h : Serves I c { t with spPolling := (I.changeEventSet fd t.spPolling).2 } r) :
    Serves I c t r := by
  obtain ⟨t', htouches, hr⟩ := h
  exact ⟨t', .poll fd htouches, hr⟩

end Serves

/-! ## The functions -/

variable {c : ConnId} {t : CTCPStunThread P cfg} {conn : StunConnection}

/-- The connection that was written can be touched. -/
theorem deref_setConn (hc : t.connectionpool.deref c = some conn) (conn' : StunConnection) :
    (t.setConn c conn').connectionpool.deref c = some conn' :=
  CConnectionPool.deref_set_self hc conn'

/-- The loop of `ConsumeRemoteClose` serves the connection. -/
theorem consumeLoop_serves (recvs : List RecvResult) : Serves I c t (t.consumeLoop I c recvs) := by
  induction recvs with
  | nil => exact .done
  | cons recv recvs ih =>
    match recv with
    | .wouldBlock => exact .done
    | .failed => exact .close
    | .octets [] => exact .close
    | .octets (_ :: _) => exact ih

/-- `ConsumeRemoteClose` serves the connection. -/
theorem consumeRemoteClose_serves (hc : t.connectionpool.deref c = some conn)
    (recvs : List RecvResult) : Serves I c t (t.consumeRemoteClose I c recvs) := by
  unfold consumeRemoteClose
  rw [hc]
  exact consumeLoop_serves I recvs

/-- The end of `WriteBytesForConnection` serves the connection. -/
theorem finishResponse_serves (hc : t.connectionpool.deref c = some conn)
    (recvs : List RecvResult) : Serves I c t (t.finishResponse I c recvs) := by
  unfold finishResponse
  rw [hc]
  refine .write hc { conn with state := .closing } rfl rfl ?_
  refine .poll conn.stunsocket.sock ?_
  dsimp only [Option.bind_eq_bind, Option.bind_some]
  split
  · exact .close
  · apply consumeRemoteClose_serves
    exact deref_setConn hc _

/-- The loop of `WriteBytesForConnection` serves the connection. -/
theorem writeLoop_serves (bytestotal : ℕ) (recvs : List RecvResult) (sends : List SendResult)
    (hc : t.connectionpool.deref c = some conn) :
    Serves I c t (t.writeLoop I c bytestotal recvs sends) := by
  induction sends generalizing t conn with
  | nil =>
    unfold writeLoop
    rw [hc]
    exact .done
  | cons send sends ih =>
    unfold writeLoop
    rw [hc]
    match send with
    | .wouldBlock => exact .done
    | .failed => exact .close
    | .sent n =>
      dsimp only [Option.bind_eq_bind, Option.bind_some]
      split
      · exact .close
      · refine .write hc { conn with txCount := conn.txCount + n } rfl rfl ?_
        split
        · apply finishResponse_serves
          exact deref_setConn hc _
        · exact ih (deref_setConn hc _)

/-- `WriteBytesForConnection` serves the connection. -/
theorem writeBytesForConnection_serves (hc : t.connectionpool.deref c = some conn)
    (recvs : List RecvResult) (sends : List SendResult) :
    Serves I c t (t.writeBytesForConnection I c recvs sends) := by
  unfold writeBytesForConnection
  rw [hc]
  exact writeLoop_serves I _ recvs sends hc

/-- The answer to a whole message serves the connection. -/
theorem respond_serves (hc : t.connectionpool.deref c = some conn) (recvs : List RecvResult)
    (sends : List SendResult) : Serves I c t (t.respond I c recvs sends) := by
  unfold respond
  rw [hc]
  dsimp only [Option.bind_eq_bind, Option.bind_some]
  split
  next msgOut _ =>
    -- `ProcessRequest` fails, and the buffer may have been written by then.
    refine .write hc { conn with
      spOutputBuffer := msgOut.spBufferOut.getD conn.spOutputBuffer } rfl rfl ?_
    exact .close
  next msgOut _ =>
    refine .write hc { conn with
      spOutputBuffer := msgOut.spBufferOut.getD conn.spOutputBuffer
      state := .transmitting } rfl rfl ?_
    refine .poll conn.stunsocket.sock ?_
    split
    · exact .close
    · apply writeBytesForConnection_serves
      exact deref_setConn hc _

/-- `ReceiveBytesForConnection` serves the connection. -/
theorem receiveBytesForConnection_serves (hc : t.connectionpool.deref c = some conn)
    (sends : List SendResult) (recvs : List RecvResult) :
    Serves I c t (t.receiveBytesForConnection I c sends recvs) := by
  induction recvs generalizing t conn with
  | nil =>
    unfold receiveBytesForConnection
    rw [hc]
    dsimp only [Option.bind_eq_bind, Option.bind_some]
    split
    · exact .close
    · exact .done
  | cons recv recvs ih =>
    unfold receiveBytesForConnection
    rw [hc]
    dsimp only [Option.bind_eq_bind, Option.bind_some]
    split
    · exact .close
    match recv with
    | .wouldBlock => exact .done
    | .failed => exact .close
    | .octets bs =>
      dsimp only
      split
      · exact .close
      -- The octets go to the reader, and its state says what is next.
      refine .write hc { conn with
        reader :=
          (conn.reader.addBytes (bs.take conn.reader.howManyBytesNeeded.toNat)).2 } rfl rfl ?_
      split
      · exact .close
      split
      · apply respond_serves
        exact deref_setConn hc _
      · exact ih (deref_setConn hc _)

end CTCPStunThread

end Stun
