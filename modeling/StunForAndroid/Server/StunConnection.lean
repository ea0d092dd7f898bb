import StunForAndroid.StunCore.ReaderAccess
import StunForAndroid.StunCore.MessageHandler

/-!
# Connections and their pool

`src/server/stunconnection.h` and `stunconnection.cpp`, with what they use of `CStunSocket`. A
`StunConnection*` is the number of the connection among those that the pool has made (`ConnId`), and
the pool is the connections by number and the free list. A connection that is on the free list is
not to be touched: `deref` gives nothing for it, and `releaseConnection` does not take it. `GaveOut`
is the pool's invariant: a connection is once on the free list or among those that are given out.
-/

namespace Stun

open Fallible

/-! ## Sockets -/

/-- `CStunSocket`. -/
structure CStunSocket where
  /-- `_sock`, or -1. -/
  sock : ℤ := -1
  addrlocal : CSocketAddress := .zero
  addrremote : CSocketAddress := .zero
  role : SocketRole := .rolePP

namespace CStunSocket

/-- `Close`, with the descriptors that are open. -/
def close (s : CStunSocket) (descriptors : List ℤ) : CStunSocket × List ℤ :=
  ({}, if s.sock ≠ -1 then descriptors.filter (· ≠ s.sock) else descriptors)

/-- `Attach`, with the addresses that `UpdateAddresses` finds. -/
def attach (sock : ℤ) (addrlocal addrremote : CSocketAddress) (s : CStunSocket)
    (descriptors : List ℤ) : CStunSocket × List ℤ :=
  if sock = -1 then (s, descriptors)
  else
    let r := if sock ≠ s.sock then s.close descriptors else (s, descriptors)
    ({ r.1 with sock := sock, addrlocal := addrlocal, addrremote := addrremote }, r.2)

end CStunSocket

/-! ## Connections -/

/-- `StunConnectionState`. -/
inductive StunConnectionState
  | idle
  | receiving
  | transmitting
  | closing
deriving DecidableEq

/-- `StunConnection`. -/
structure StunConnection where
  state : StunConnectionState := .idle
  stunsocket : CStunSocket := {}
  reader : CStunMessageReader := {}
  /-- `_spReaderBuffer` as it was made. The reader's stream is attached to it, and has what it is
  now. -/
  spReaderBuffer : CBuffer := CBuffer.initWithAllocation MAX_STUN_MESSAGE_SIZE
  spOutputBuffer : CBuffer := CBuffer.initWithAllocation MAX_STUN_MESSAGE_SIZE
  txCount : ℕ := 0
  idHashTable : ℤ := 0

/-- What `_spReaderBuffer` is now: the buffer that the reader's stream was attached to, as the
stream has left it. -/
def StunConnection.readerBuffer (conn : StunConnection) : CBuffer :=
  conn.reader.stream.attachedBuffer.getD conn.spReaderBuffer

/-- A `StunConnection*` of the pool. -/
abbrev ConnId : Type := ℕ

/-- `CConnectionPool`: all connections that were made, and `_freelist`. -/
structure CConnectionPool where
  conns : List StunConnection := []
  freelist : List ConnId := []

namespace CConnectionPool

/-- The connection behind a pointer, unless it was released. -/
def deref (c : ConnId) (pool : CConnectionPool) : Option StunConnection :=
  if c ∈ pool.freelist then none else pool.conns[c]?

/-- A connection is written. -/
def set (c : ConnId) (conn : StunConnection) (pool : CConnectionPool) : CConnectionPool :=
  { pool with conns := pool.conns.set c conn }

/-- A round of the loop of `Grow`. -/
def growOne (pool : CConnectionPool) : CConnectionPool where
  conns := pool.conns ++ [{}]
  freelist := pool.conns.length :: pool.freelist

/-- `Grow`, when there is memory for some connections. -/
def grow : ℕ → CConnectionPool → CConnectionPool
  | 0, pool => pool
  | memory + 1, pool => grow memory pool.growOne

/-- `c_growrate` -/
def c_growrate : ℕ := 50

/-- What `GetConnection` does to the connection that it takes. The reader is attached to the
connection's buffer again, with what its stream has written there. -/
def prepare (sock : ℤ) (role : SocketRole) (addrlocal addrremote : CSocketAddress)
    (conn : StunConnection) (descriptors : List ℤ) : StunConnection × List ℤ :=
  let r := conn.stunsocket.attach sock addrlocal addrremote descriptors
  ({ conn with
      reader := conn.reader.reset.attachStream conn.readerBuffer
      state := .receiving
      stunsocket := { r.1 with role := role }
      txCount := 0
      idHashTable := -1 }, r.2)

/-- `GetConnection`, when there is memory for some connections. -/
def getConnection (sock : ℤ) (role : SocketRole) (addrlocal addrremote : CSocketAddress)
    (memory : ℕ) (pool : CConnectionPool) (descriptors : List ℤ) :
    Option ConnId × CConnectionPool × List ℤ :=
  let pool := if pool.freelist = [] then pool.grow (min memory c_growrate) else pool
  match pool.freelist with
  | [] => (none, pool, descriptors)
  | c :: rest =>
    let r := prepare sock role addrlocal addrremote (pool.conns.getD c {}) descriptors
    (some c, { conns := pool.conns.set c r.1, freelist := rest }, r.2)

/-- `ReleaseConnection`, of a connection that was not released. -/
def releaseConnection (c : ConnId) (pool : CConnectionPool) : Option CConnectionPool :=
  if c ∈ pool.freelist then none else some { pool with freelist := c :: pool.freelist }

/-! ## The connections that are given out -/

/-- The pool has given out some connections: each connection that was made is once on the free list
or among them, and the sockets of those on the free list are closed. -/
structure GaveOut (pool : CConnectionPool) (active : List ConnId) : Prop where
  once : (pool.freelist ++ active).Perm (List.range pool.conns.length)
  idle : ∀ c ∈ pool.freelist, ∀ conn, pool.conns[c]? = some conn → conn.stunsocket.sock = -1

/-- What `deref` gives is not on the free list. -/
theorem deref_eq_some_iff {pool : CConnectionPool} {c : ConnId} {conn : StunConnection} :
    pool.deref c = some conn ↔ c ∉ pool.freelist ∧ pool.conns[c]? = some conn := by
  unfold deref
  split
  next h => simp [h]
  next h => simp [h]

/-- A connection that was written is found in the pool. -/
theorem deref_set_self {pool : CConnectionPool} {c : ConnId} {conn : StunConnection}
    (h : pool.deref c = some conn) (conn' : StunConnection) :
    (pool.set c conn').deref c = some conn' := by
  rw [deref_eq_some_iff] at h ⊢
  obtain ⟨hlt, -⟩ := List.getElem?_eq_some_iff.mp h.2
  exact ⟨h.1, List.getElem?_set_self hlt⟩

/-- Setting a connection leaves the other ones as they are. -/
theorem deref_set_of_ne {pool : CConnectionPool} {c c' : ConnId} (h : c' ≠ c)
    (conn' : StunConnection) : (pool.set c conn').deref c' = pool.deref c' := by
  unfold deref set
  rw [List.getElem?_set_ne (Ne.symm h)]

/-- A connection that is made is not given out. -/
theorem deref_growOne (pool : CConnectionPool) (c : ConnId) :
    pool.growOne.deref c = pool.deref c := by
  unfold deref growOne
  rcases eq_or_ne c pool.conns.length with rfl | hne
  · simp
  · have hget : (pool.conns ++ [({} : StunConnection)])[c]? = pool.conns[c]? := by
      rcases Nat.lt_or_gt_of_ne hne with hlt | hgt
      · exact List.getElem?_append_left hlt
      · rw [List.getElem?_eq_none (by simp; omega), List.getElem?_eq_none (by omega)]
    rw [hget]
    simp [hne]

/-- `Grow` gives out nothing. -/
theorem deref_grow (memory : ℕ) (pool : CConnectionPool) (c : ConnId) :
    (pool.grow memory).deref c = pool.deref c := by
  induction memory generalizing pool with
  | zero => rfl
  | succ memory ih => exact (ih pool.growOne).trans (deref_growOne pool c)

/-- With memory there is something on the free list after `Grow`. -/
theorem freelist_grow (memory : ℕ) {pool : CConnectionPool} (h : memory ≠ 0 ∨ pool.freelist ≠ []) :
    (pool.grow memory).freelist ≠ [] := by
  induction memory generalizing pool with
  | zero => exact h.resolve_left (by simp)
  | succ memory ih => exact ih (Or.inr (by simp [growOne]))

/-- A connection with a closed socket is prepared for a new one. -/
theorem prepare_of_closed {conn : StunConnection} (hclosed : conn.stunsocket.sock = -1) {sock : ℤ}
    (hsock : sock ≠ -1) (role : SocketRole) (addrlocal addrremote : CSocketAddress)
    (descriptors : List ℤ) :
    ∃ conn', prepare sock role addrlocal addrremote conn descriptors = (conn', descriptors) ∧
      conn'.stunsocket.sock = sock ∧ conn'.idHashTable = -1 := by
  have hattach : conn.stunsocket.attach sock addrlocal addrremote descriptors =
      ({ sock := sock, addrlocal := addrlocal, addrremote := addrremote }, descriptors) := by
    unfold CStunSocket.attach CStunSocket.close
    simp [hsock, hclosed]
  unfold prepare
  rw [hattach]
  exact ⟨_, rfl, rfl, rfl⟩

/-- `GetConnection` gives nothing when nothing is free and there is no memory. -/
theorem getConnection_none {pool : CConnectionPool} (hfree : pool.freelist = []) (sock : ℤ)
    (role : SocketRole) (addrlocal addrremote : CSocketAddress) (descriptors : List ℤ) :
    pool.getConnection sock role addrlocal addrremote 0 descriptors =
    (none, pool, descriptors) := by
  have hgrow : pool.grow (min 0 c_growrate) = pool := by rw [Nat.zero_min]; rfl
  unfold getConnection
  rw [if_pos hfree, hgrow]
  simp only [hfree]

namespace GaveOut

variable {pool : CConnectionPool} {active : List ConnId} (hg : pool.GaveOut active)
include hg

/-- No connection is twice on the free list or given out. -/
theorem nodup : (pool.freelist ++ active).Nodup := hg.once.nodup_iff.mpr List.nodup_range

/-- What is given out can be touched. -/
theorem mem_active_iff {c : ConnId} : c ∈ active ↔ ∃ conn, pool.deref c = some conn := by
  have hmem : c ∈ pool.freelist ++ active ↔ c < pool.conns.length := by
    rw [hg.once.mem_iff, List.mem_range]
  have hdisjoint := List.disjoint_of_nodup_append hg.nodup
  constructor
  · intro hc
    have hlt := hmem.mp (List.mem_append_right _ hc)
    refine ⟨pool.conns[c], deref_eq_some_iff.mpr ⟨fun hf => hdisjoint hf hc, ?_⟩⟩
    exact List.getElem?_eq_getElem hlt
  · rintro ⟨conn, hconn⟩
    obtain ⟨hfree, hget⟩ := deref_eq_some_iff.mp hconn
    obtain ⟨hlt, -⟩ := List.getElem?_eq_some_iff.mp hget
    exact (List.mem_append.mp (hmem.mpr hlt)).resolve_left hfree

/-- The order of what is given out does not matter. -/
theorem perm {active' : List ConnId} (h : active.Perm active') : pool.GaveOut active' where
  once := (h.symm.append_left _).trans hg.once
  idle := hg.idle

/-- Writing a connection that is given out leaves the same ones given out. -/
theorem set {c : ConnId} {conn : StunConnection} (hc : pool.deref c = some conn)
    (conn' : StunConnection) : (pool.set c conn').GaveOut active where
  once := by
    show (pool.freelist ++ active).Perm (List.range (pool.conns.set c conn').length)
    rw [List.length_set]
    exact hg.once
  idle := by
    intro c' hc' conn'' hget
    have hne : c' ≠ c := fun h => (deref_eq_some_iff.mp hc).1 (h ▸ hc')
    refine hg.idle c' hc' conn'' ?_
    rw [← List.getElem?_set_ne (Ne.symm hne)]
    exact hget

/-- After a round of `Grow` the same connections are given out. -/
theorem growOne : pool.growOne.GaveOut active where
  once := by
    show (pool.conns.length :: pool.freelist ++ active).Perm
      (List.range (pool.conns ++ [({} : StunConnection)]).length)
    rw [List.length_append, List.length_singleton, List.range_succ]
    exact (hg.once.cons _).trans (List.perm_append_singleton _ _).symm
  idle := by
    intro c hc conn hget
    rcases Nat.lt_or_ge c pool.conns.length with hlt | hge
    · have hfree : c ∈ pool.freelist := (List.mem_cons.mp hc).resolve_left hlt.ne
      refine hg.idle c hfree conn ?_
      rw [← List.getElem?_append_left hlt]
      exact hget
    · have hconn : conn ∈ [({} : StunConnection)] := by
        rw [show pool.growOne.conns = pool.conns ++ [{}] from rfl,
          List.getElem?_append_right hge] at hget
        exact List.mem_of_getElem? hget
      rw [List.mem_singleton.mp hconn]

/-- After `Grow` the same connections are given out. -/
theorem grow (memory : ℕ) : (pool.grow memory).GaveOut active := by
  induction memory generalizing pool with
  | zero => exact hg
  | succ memory ih => exact ih hg.growOne

/-- Else `GetConnection` gives out one more connection, with the socket and in no table. -/
theorem getConnection_some {sock : ℤ} (hsock : sock ≠ -1) {memory : ℕ}
    (hfree : pool.freelist ≠ [] ∨ memory ≠ 0) (role : SocketRole)
    (addrlocal addrremote : CSocketAddress) (descriptors : List ℤ) :
    ∃ c pool' conn,
      pool.getConnection sock role addrlocal addrremote memory descriptors =
        (some c, pool', descriptors) ∧
      pool'.GaveOut (c :: active) ∧ pool'.deref c = some conn ∧ conn.stunsocket.sock = sock ∧
      conn.idHashTable = -1 ∧ ∀ c' ≠ c, pool'.deref c' = pool.deref c' := by
  -- The pool after `Grow`, if it has to grow.
  obtain ⟨grown, hgrown, hg', hderef, hne⟩ : ∃ grown,
      (if pool.freelist = [] then pool.grow (min memory c_growrate) else pool) = grown ∧
      grown.GaveOut active ∧ (∀ c, grown.deref c = pool.deref c) ∧ grown.freelist ≠ [] := by
    split
    next hnil =>
      have hmemory : min memory c_growrate ≠ 0 := by
        have := hfree.resolve_left (fun h => h hnil)
        unfold c_growrate
        omega
      exact ⟨_, rfl, hg.grow _, deref_grow _ pool, freelist_grow _ (Or.inl hmemory)⟩
    next hcons => exact ⟨_, rfl, hg, fun _ => rfl, hcons⟩
  obtain ⟨c, rest, hlist⟩ := List.exists_cons_of_ne_nil hne
  have hmem : c ∈ grown.freelist := hlist ▸ List.mem_cons_self
  have hlt : c < grown.conns.length :=
    List.mem_range.mp (hg'.once.mem_iff.mp (List.mem_append_left _ hmem))
  have hidle := hg'.idle c hmem _ (List.getElem?_eq_getElem hlt)
  have hnodup : (c :: rest ++ active).Nodup := hlist ▸ hg'.nodup
  have hclosed : (grown.conns.getD c {}).stunsocket.sock = -1 := by
    rw [List.getD_eq_getElem?_getD, List.getElem?_eq_getElem hlt]
    exact hidle
  obtain ⟨conn, hprepare, hconn, hhint⟩ :=
    prepare_of_closed hclosed hsock role addrlocal addrremote descriptors
  refine ⟨c, { conns := grown.conns.set c conn, freelist := rest }, conn, ?_, ⟨?_, ?_⟩, ?_, hconn,
    hhint, ?_⟩
  · unfold getConnection
    rw [hgrown]
    simp only [hlist, hprepare]
  · have honce := hg'.once
    rw [hlist] at honce
    rw [List.length_set]
    exact List.perm_middle.trans honce
  · intro c' hc' conn' hget
    have hne' : c' ≠ c := by
      rintro rfl
      exact (List.nodup_cons.mp hnodup).1 (List.mem_append_left _ hc')
    rw [List.getElem?_set_ne (Ne.symm hne')] at hget
    exact hg'.idle c' (hlist ▸ List.mem_cons_of_mem _ hc') conn' hget
  · refine deref_eq_some_iff.mpr ⟨fun hc => ?_, List.getElem?_set_self hlt⟩
    exact (List.nodup_cons.mp hnodup).1 (List.mem_append_left _ hc)
  · intro c' hne'
    rw [← hderef c']
    unfold deref
    rw [List.getElem?_set_ne (Ne.symm hne'), hlist]
    simp [hne']

/-- `ReleaseConnection` takes a connection back whose socket is closed. -/
theorem releaseConnection {c : ConnId} {conn : StunConnection} (hc : pool.deref c = some conn)
    (hsock : conn.stunsocket.sock = -1) :
    ∃ pool', pool.releaseConnection c = some pool' ∧ pool'.GaveOut (active.filter (· ≠ c)) ∧
      pool'.deref c = none ∧ ∀ c' ≠ c, pool'.deref c' = pool.deref c' := by
  obtain ⟨hfree, hget⟩ := deref_eq_some_iff.mp hc
  refine ⟨{ pool with freelist := c :: pool.freelist }, if_neg hfree, ⟨?_, ?_⟩, ?_, ?_⟩
  · -- Taking a connection out of what is given out and putting it first.
    have hactive : active.Perm (c :: active.filter (· ≠ c)) := by
      have hfilter : active.filter (· ≠ c) = active.erase c := by
        rw [hg.nodup.of_append_right.erase_eq_filter c]
        exact List.filter_congr fun x _ => by simp [bne, Bool.beq_eq_decide_eq]
      rw [hfilter]
      exact List.perm_cons_erase (hg.mem_active_iff.mpr ⟨conn, hc⟩)
    exact (List.perm_middle.symm.trans ((hactive.append_left _).symm)).trans hg.once
  · intro c' hc' conn' hget'
    rcases List.mem_cons.mp hc' with rfl | hc'
    · rw [Option.some.inj (hget'.symm.trans hget)]
      exact hsock
    · exact hg.idle c' hc' conn' hget'
  · unfold deref
    simp
  · intro c' hne
    unfold deref
    simp [hne]

end GaveOut

end CConnectionPool

end Stun
