import StunForAndroid.Common.FastHashMap
import StunForAndroid.Server.TcpServing

/-!
# The connections of `CTCPStunThread`

Each connection that the pool has made is in one place: on the free list, in one of the two tables,
or, within `AcceptConnection`, in hand. `Books` says so of a state, with what the tables store and
what is in hand. Here is what keeps the books by serving and closing connections, up to the sweep
and `ThreadCleanup`. Each of them gives something, so that it touches no connection that was
released.

What the thread does with the polling meanwhile is a chain of `PollStep`s.
-/

namespace Stun

namespace CTCPStunThread

variable {P : Type} {cfg : TcpConfig} (I : IPolling P)

/-! ## The books -/

/-- What the tables store without a connection. -/
def without (c : ConnId) (items : TableId → List (ℤ × ConnId)) (id : TableId) :
    List (ℤ × ConnId) :=
  (items id).filter (·.2 ≠ c)

/-- The connections that are given out are those in the tables and those in hand; a connection in a
table is under its own socket and has the table's hint; the sockets are different and open. -/
structure Books (kept : Set ℤ) (t : CTCPStunThread P cfg) (items : TableId → List (ℤ × ConnId))
    (hand : List ConnId) : Prop where
  gaveOut : t.connectionpool.GaveOut
    ((items .one).map Prod.snd ++ (items .two).map Prod.snd ++ hand)
  maps : ∀ id, (t.hashConnections id).Maps (items id)
  listed : ∀ id, ∀ x ∈ items id, ∃ conn, t.connectionpool.deref x.2 = some conn ∧
    conn.stunsocket.sock = x.1 ∧ conn.idHashTable = id.hint
  opened : ∀ c conn, t.connectionpool.deref c = some conn →
    conn.stunsocket.sock ∈ t.descriptors ∧ conn.stunsocket.sock ∉ kept
  distinct : ∀ c c' conn conn', t.connectionpool.deref c = some conn →
    t.connectionpool.deref c' = some conn' → conn.stunsocket.sock = conn'.stunsocket.sock → c = c'
  keeps : ∀ fd ∈ kept, fd ∈ t.descriptors
  lists : t.pNewConnList ≠ t.pOldConnList

/-- What the thread does with the polling and the descriptors while it serves connections. It keeps
some descriptors. -/
inductive PollStep (kept : Set ℤ) : P × List ℤ → P × List ℤ → Prop
  | change (p : P) (descriptors : List ℤ) (fd : ℤ) :
      PollStep kept (p, descriptors) ((I.changeEventSet fd p).2, descriptors)
  | accept (p : P) (descriptors : List ℤ) (fd : ℤ) :
      PollStep kept (p, descriptors) (p, fd :: descriptors)
  | add (p : P) (descriptors : List ℤ) {fd : ℤ} (hopen : fd ∈ descriptors) (hfd : fd ∉ kept) :
      PollStep kept (p, descriptors) ((I.add fd p).2, descriptors)
  | close (p : P) (descriptors : List ℤ) {s : CStunSocket} (hs : s.sock ∉ kept) :
      PollStep kept (p, descriptors) (I.drop s.sock p, (s.close descriptors).2)

/-- What there is of the listening sockets does not change, and the polling changes by such
steps. -/
structure SameListen (kept : Set ℤ) (t t' : CTCPStunThread P cfg) : Prop where
  fListenSocketsOnEpoll : t'.fListenSocketsOnEpoll = t.fListenSocketsOnEpoll
  socketTable : t'.socketTable = t.socketTable
  pipe : t'.pipe = t.pipe
  polls : Relation.ReflTransGen (PollStep I kept) (t.spPolling, t.descriptors)
    (t'.spPolling, t'.descriptors)

/-- Neither what there is of the listening sockets changes nor the two pointers, and nothing is
inserted. -/
structure SameLoop (kept : Set ℤ) (t t' : CTCPStunThread P cfg) : Prop
    extends SameListen I kept t t' where
  inserts : t'.inserts = t.inserts
  pNewConnList : t'.pNewConnList = t.pNewConnList
  pOldConnList : t'.pOldConnList = t.pOldConnList

section Same

variable {I} {kept : Set ℤ} {t t' t'' : CTCPStunThread P cfg}

/-- When nothing changes, what there is of the listening sockets does not. -/
theorem SameListen.refl (t : CTCPStunThread P cfg) : SameListen I kept t t := ⟨rfl, rfl, rfl, .refl⟩

/-- When nothing changes, neither the two pointers nor the listening sockets do. -/
theorem SameLoop.refl (t : CTCPStunThread P cfg) : SameLoop I kept t t := ⟨.refl t, rfl, rfl, rfl⟩

/-- Two steps that leave what there is of the listening sockets do so together. -/
theorem SameListen.trans (h : SameListen I kept t t') (h' : SameListen I kept t' t'') :
    SameListen I kept t t'' where
  fListenSocketsOnEpoll := h'.fListenSocketsOnEpoll.trans h.fListenSocketsOnEpoll
  socketTable := h'.socketTable.trans h.socketTable
  pipe := h'.pipe.trans h.pipe
  polls := h.polls.trans h'.polls

/-- Two steps that leave the two pointers and the listening sockets do so together. -/
theorem SameLoop.trans (h : SameLoop I kept t t') (h' : SameLoop I kept t' t'') :
    SameLoop I kept t t'' where
  toSameListen := h.toSameListen.trans h'.toSameListen
  inserts := h'.inserts.trans h.inserts
  pNewConnList := h'.pNewConnList.trans h.pNewConnList
  pOldConnList := h'.pOldConnList.trans h.pOldConnList

end Same

namespace Books

variable {kept : Set ℤ} {t t' : CTCPStunThread P cfg} {items : TableId → List (ℤ × ConnId)}
    {hand : List ConnId}
  (hb : Books kept t items hand)
include hb

/-- The books are on the pool, the tables, the descriptors and the two pointers. -/
theorem congr (hpool : t'.connectionpool = t.connectionpool)
    (htables : t'.hashConnections = t.hashConnections)
    (hdescriptors : t'.descriptors = t.descriptors)
    (hnew : t'.pNewConnList = t.pNewConnList) (hold : t'.pOldConnList = t.pOldConnList) :
    Books kept t' items hand where
  gaveOut := hpool ▸ hb.gaveOut
  maps := htables ▸ hb.maps
  listed := hpool ▸ hb.listed
  opened := hpool ▸ hdescriptors ▸ hb.opened
  keeps := hdescriptors ▸ hb.keeps
  distinct := hpool ▸ hb.distinct
  lists := hnew ▸ hold ▸ hb.lists

/-- A stored item is of a connection if it is under its socket. -/
theorem key_iff {id : TableId} {x : ℤ × ConnId} (hx : x ∈ items id) {c : ConnId}
    {conn : StunConnection} (hc : t.connectionpool.deref c = some conn) :
    x.1 = conn.stunsocket.sock ↔ x.2 = c := by
  obtain ⟨conn', hconn', hsock, -⟩ := hb.listed id x hx
  constructor
  · exact fun h => hb.distinct _ _ conn' conn hconn' hc (hsock.trans h)
  · rintro rfl
    rw [← hsock, Option.some.inj (hconn'.symm.trans hc)]

/-- The number of connections is that of the stored items. -/
theorem connectionCount_eq : t.connectionCount = (items .one).length + (items .two).length := by
  unfold connectionCount
  rw [(hb.maps _).size_eq, (hb.maps _).size_eq]
  have hlists := hb.lists
  revert hlists
  cases t.pNewConnList <;> cases t.pOldConnList <;> intro hlists
  · exact absurd rfl hlists
  · rfl
  · exact Nat.add_comm _ _
  · exact absurd rfl hlists

/-- A connection is written, but for its socket, with the hint that its table asks for. -/
theorem setConn {c : ConnId} {conn : StunConnection}
    (hc : t.connectionpool.deref c = some conn) (conn' : StunConnection)
    (hsock : conn'.stunsocket.sock = conn.stunsocket.sock)
    (hhint : ∀ id, ∀ x ∈ items id, x.2 = c → conn'.idHashTable = id.hint) :
    Books kept (t.setConn c conn') items hand := by
  -- Each connection after it was written had its socket before.
  have hbefore : ∀ c' conn₁, (t.setConn c conn').connectionpool.deref c' = some conn₁ →
      ∃ conn₂, t.connectionpool.deref c' = some conn₂ ∧
        conn₁.stunsocket.sock = conn₂.stunsocket.sock := by
    intro c' conn₁ hconn₁
    rcases eq_or_ne c' c with rfl | hne
    · rw [deref_setConn hc] at hconn₁
      exact ⟨conn, hc, Option.some.inj hconn₁ ▸ hsock⟩
    · exact ⟨conn₁, (CConnectionPool.deref_set_of_ne hne conn').symm.trans hconn₁, rfl⟩
  constructor
  · exact hb.gaveOut.set hc conn'
  · exact hb.maps
  · intro id x hx
    rcases eq_or_ne x.2 c with heq | hne
    · refine ⟨conn', heq ▸ deref_setConn hc conn', ?_, hhint id x hx heq⟩
      rw [hsock, (hb.key_iff hx hc).mpr heq]
    · obtain ⟨conn₁, hconn₁, hrest⟩ := hb.listed id x hx
      exact ⟨conn₁, (CConnectionPool.deref_set_of_ne hne conn').trans hconn₁, hrest⟩
  · intro c' conn₁ hconn₁
    obtain ⟨conn₂, hconn₂, heq⟩ := hbefore c' conn₁ hconn₁
    rw [heq]
    exact hb.opened c' conn₂ hconn₂
  · intro c₁ c₂ conn₁ conn₂ h₁ h₂ heq
    obtain ⟨conn₃, h₃, heq₁⟩ := hbefore c₁ conn₁ h₁
    obtain ⟨conn₄, h₄, heq₂⟩ := hbefore c₂ conn₂ h₂
    exact hb.distinct c₁ c₂ conn₃ conn₄ h₃ h₄ (heq₁.symm.trans (heq.trans heq₂))
  · exact hb.keeps
  · exact hb.lists

end Books

/-! ## Closing a connection -/

/-- `Remove` with the hint of a table takes the socket out of that table and leaves the other. -/
theorem removeHinted_eq (hint sock : ℤ) (t : CTCPStunThread P cfg) :
    t.removeHinted hint sock = { t with
      hashConnections := fun id =>
        if hint = id.hint then ((t.hashConnections id).remove sock).2 else
          t.hashConnections id } := by
  -- The hints of the two tables differ.
  have hupdate : ∀ id' : TableId, hint = id'.hint →
      Function.update t.hashConnections id' ((t.hashConnections id').remove sock).2 =
        fun id => if hint = id.hint then ((t.hashConnections id).remove sock).2
          else t.hashConnections id := by
    rintro id' rfl
    funext id
    cases id <;> cases id' <;> rfl
  unfold removeHinted setTable
  split
  next h => rw [hupdate .one h]
  next h₁ =>
    split
    next h => rw [hupdate .two h]
    next h₂ =>
      have hsame : t.hashConnections = fun id =>
          if hint = id.hint then ((t.hashConnections id).remove sock).2
            else t.hashConnections id := by
        funext id
        cases id
        · exact (if_neg h₁).symm
        · exact (if_neg h₂).symm
      rw [← hsame]

/-- The thread after a connection was closed and the pool has taken it back. -/
def closed (conn : StunConnection) (pool : CConnectionPool) (t : CTCPStunThread P cfg) :
    CTCPStunThread P cfg :=
  { t with
    spPolling := I.drop conn.stunsocket.sock t.spPolling
    descriptors := (conn.stunsocket.close t.descriptors).2
    hashConnections := fun id =>
      if conn.idHashTable = id.hint then
        ((t.hashConnections id).remove conn.stunsocket.sock).2
      else t.hashConnections id
    connectionpool := pool }

/-- `CloseConnection` of a connection that is given out. -/
theorem closeConnection_eq {t : CTCPStunThread P cfg} {active : List ConnId}
    (hg : t.connectionpool.GaveOut active) {c : ConnId} {conn : StunConnection}
    (hc : t.connectionpool.deref c = some conn) :
    ∃ pool, t.closeConnection I c = some (t.closed I conn pool) ∧
      pool.GaveOut (active.filter (· ≠ c)) ∧ pool.deref c = none ∧
      ∀ c' ≠ c, pool.deref c' = t.connectionpool.deref c' := by
  let conn' : StunConnection := { conn with stunsocket := (conn.stunsocket.close t.descriptors).1 }
  obtain ⟨pool, hpool, hg', hnone, hother⟩ := (hg.set hc conn').releaseConnection
    (CConnectionPool.deref_set_self hc conn') rfl
  refine ⟨pool, ?_, hg', hnone, fun c' hne => ?_⟩
  · unfold closeConnection
    rw [hc]
    simp only [Option.bind_eq_bind, Option.bind_some, removeHinted_eq]
    show (do
      let pool ← (t.connectionpool.set c conn').releaseConnection c
      some (t.closed I conn pool)) = _
    rw [hpool]
    rfl
  · rw [hother c' hne, CConnectionPool.deref_set_of_ne hne conn']

namespace Books

variable {I} {kept : Set ℤ} {t : CTCPStunThread P cfg} {items : TableId → List (ℤ × ConnId)}
    {hand : List ConnId}
  (hb : Books kept t items hand)
include hb

/-- The connection is taken out of its table, if it is in one. -/
theorem maps_closed {c : ConnId} {conn : StunConnection} (hc : t.connectionpool.deref c = some conn)
    (pool : CConnectionPool) (id : TableId) :
    ((t.closed I conn pool).hashConnections id).Maps (without c items id) := by
  show (if conn.idHashTable = id.hint then
    ((t.hashConnections id).remove conn.stunsocket.sock).2 else t.hashConnections id).Maps _
  by_cases hin : ∃ x ∈ items id, x.2 = c
  · obtain ⟨x, hx, rfl⟩ := hin
    obtain ⟨conn', hconn', hsock, hhint⟩ := hb.listed id x hx
    obtain rfl := Option.some.inj (hconn'.symm.trans hc)
    have hitem : (conn'.stunsocket.sock, x.2) ∈ items id := by
      rw [hsock]
      exact hx
    obtain ⟨h', hremove, hmaps⟩ := (hb.maps id).remove_ok hitem
    rw [if_pos hhint, hremove]
    have hfilter : (items id).filter (·.1 ≠ conn'.stunsocket.sock) = without x.2 items id :=
      List.filter_congr fun y hy => by simp only [ne_eq, hb.key_iff hy hc]
    rw [← hfilter]
    exact hmaps
  · -- The connection is in hand, or in the other table: nothing is under its socket here.
    have hfilter : without c items id = items id :=
      List.filter_eq_self.mpr fun x hx => by simpa using fun h => hin ⟨x, hx, h⟩
    have hkey : conn.stunsocket.sock ∉ (items id).map Prod.fst := by
      intro hmem
      obtain ⟨x, hx, heq⟩ := List.mem_map.mp hmem
      exact hin ⟨x, hx, (hb.key_iff hx hc).mp heq⟩
    rw [hfilter, (hb.maps id).remove_none hkey, ite_self]
    exact hb.maps id

/-- `CloseConnection` of a connection that is given out. -/
theorem closeConnection {c : ConnId} {conn : StunConnection}
    (hc : t.connectionpool.deref c = some conn) :
    ∃ t', t.closeConnection I c = some t' ∧
      Books kept t' (without c items) (hand.filter (· ≠ c)) ∧ SameLoop I kept t t' := by
  obtain ⟨pool, hclose, hg, hnone, hother⟩ := closeConnection_eq I hb.gaveOut hc
  -- Another connection is the same as before.
  have hbefore : ∀ c' conn', pool.deref c' = some conn' →
      c' ≠ c ∧ t.connectionpool.deref c' = some conn' := by
    intro c' conn' hconn'
    have hne : c' ≠ c := by
      rintro rfl
      rw [hnone] at hconn'
      contradiction
    exact ⟨hne, (hother c' hne).symm.trans hconn'⟩
  -- What is open stays open, unless it is the socket that is closed.
  have hopen : ∀ fd ∈ t.descriptors, fd ≠ conn.stunsocket.sock →
      fd ∈ (conn.stunsocket.close t.descriptors).2 := by
    intro fd hfd hne
    unfold CStunSocket.close
    split
    · exact List.mem_filter.mpr ⟨hfd, decide_eq_true hne⟩
    · exact hfd
  have hkept := (hb.opened c conn hc).2
  refine ⟨t.closed I conn pool, hclose, ⟨?_, hb.maps_closed hc pool, ?_, ?_, ?_, ?_, hb.lists⟩, ?_⟩
  · simp only [List.filter_append, List.filter_map] at hg
    exact hg
  · intro id x hx
    obtain ⟨hx, hne⟩ := List.mem_filter.mp hx
    obtain ⟨conn', hconn', hrest⟩ := hb.listed id x hx
    exact ⟨conn', (hother x.2 (of_decide_eq_true hne)).trans hconn', hrest⟩
  · intro c' conn' hconn'
    obtain ⟨hne, hconn'⟩ := hbefore c' conn' hconn'
    obtain ⟨hin, hnot⟩ := hb.opened c' conn' hconn'
    exact ⟨hopen _ hin fun heq => hne (hb.distinct c' c conn' conn hconn' hc heq), hnot⟩
  · intro c₁ c₂ conn₁ conn₂ h₁ h₂ heq
    exact hb.distinct c₁ c₂ conn₁ conn₂ (hbefore c₁ conn₁ h₁).2 (hbefore c₂ conn₂ h₂).2 heq
  · exact fun fd hfd => hopen fd (hb.keeps fd hfd) fun heq => hkept (heq ▸ hfd)
  · exact ⟨⟨rfl, rfl, rfl, .single (.close _ _ hkept)⟩, rfl, rfl, rfl⟩

/-- Touching a connection that stays open keeps the books. -/
theorem touches {c : ConnId} {conn : StunConnection} {t' : CTCPStunThread P cfg}
    (hc : t.connectionpool.deref c = some conn) (h : Touches I c t t') :
    Books kept t' items hand ∧ SameLoop I kept t t' ∧
      ∃ conn', t'.connectionpool.deref c = some conn' := by
  induction h generalizing conn with
  | refl t => exact ⟨hb, .refl t, conn, hc⟩
  | write hc' hsock hhint _ ih =>
    have hb' := hb.setConn hc' _ hsock fun id x hx heq => by
      obtain ⟨conn₁, hconn₁, -, hid⟩ := hb.listed id x hx
      rw [hhint, ← hid, Option.some.inj (hconn₁.symm.trans (heq ▸ hc'))]
    obtain ⟨hbooks, hsame, hderef⟩ := ih hb' (deref_setConn hc' _)
    refine ⟨hbooks, .trans ?_ hsame, hderef⟩
    exact ⟨⟨rfl, rfl, rfl, .refl⟩, rfl, rfl, rfl⟩
  | poll fd _ ih =>
    obtain ⟨hbooks, hsame, hderef⟩ := ih (hb.congr rfl rfl rfl rfl rfl) hc
    refine ⟨hbooks, .trans ?_ hsame, hderef⟩
    exact ⟨⟨rfl, rfl, rfl, .single (.change _ _ fd)⟩, rfl, rfl, rfl⟩

end Books

/-! ## What closes connections only -/

/-- What is stored when a table is emptied is some of what there was. -/
theorem sublist_update (items : TableId → List (ℤ × ConnId)) (id id' : TableId) :
    (Function.update items id [] id').Sublist (items id') := by
  rcases eq_or_ne id' id with rfl | hne
  · rw [Function.update_self]
    exact List.nil_sublist _
  · rw [Function.update_of_ne hne]

/-- What a function leaves that does nothing with the connections but serve and close them. -/
def Leaves (kept : Set ℤ) (t : CTCPStunThread P cfg) (items : TableId → List (ℤ × ConnId))
    (r : Option (CTCPStunThread P cfg)) : Prop :=
  ∃ t' items', r = some t' ∧ Books kept t' items' [] ∧ (∀ id, (items' id).Sublist (items id)) ∧
    SameLoop I kept t t'

namespace Books

variable {I} {kept : Set ℤ} {t : CTCPStunThread P cfg} {items : TableId → List (ℤ × ConnId)}
  (hb : Books kept t items [])
include hb

/-- Serving a connection returns and keeps the books. -/
theorem serves {c : ConnId} {conn : StunConnection} (hc : t.connectionpool.deref c = some conn)
    {r : Option (CTCPStunThread P cfg)} (h : Serves I c t r) : Leaves I kept t items r := by
  obtain ⟨t', htouches, hr⟩ := h
  obtain ⟨hb', hsame, conn', hc'⟩ := hb.touches hc htouches
  rcases hr with rfl | rfl
  · exact ⟨t', items, rfl, hb', fun id => .refl _, hsame⟩
  · obtain ⟨t'', hclose, hb'', hsame'⟩ := hb'.closeConnection (I := I) hc'
    exact ⟨t'', _, hclose, hb'', fun id => List.filter_sublist, hsame.trans hsame'⟩

/-- A connection is in one table only. -/
theorem table_unique {id id' : TableId} {x y : ℤ × ConnId} (hx : x ∈ items id) (hy : y ∈ items id')
    (heq : x.2 = y.2) : id = id' := by
  obtain ⟨conn, hconn, -, hhint⟩ := hb.listed id x hx
  obtain ⟨conn', hconn', -, hhint'⟩ := hb.listed id' y hy
  rw [heq] at hconn
  obtain rfl := Option.some.inj (hconn'.symm.trans hconn)
  have hints : id.hint = id'.hint := hhint.symm.trans hhint'
  revert hints
  cases id <;> cases id' <;> decide

/-- `CloseAllConnections` empties the table, and leaves the other one as it was. -/
theorem closeAllConnections (id : TableId) {rounds : ℕ} (hrounds : (items id).length < rounds) :
    ∃ t', t.closeAllConnections I id rounds = some t' ∧
      Books kept t' (Function.update items id []) [] ∧ SameLoop I kept t t' := by
  induction rounds generalizing t items with
  | zero => exact absurd hrounds (Nat.not_lt_zero _)
  | succ rounds ih =>
    obtain ⟨hmaps, hnone, hsome⟩ := (hb.maps id).lookupByIndex_zero
    have hb₁ : Books kept (t.setTable id ((t.hashConnections id).lookupByIndex 0).2) items [] := by
      refine ⟨hb.gaveOut, fun id' => ?_, hb.listed, hb.opened, hb.distinct, hb.keeps, hb.lists⟩
      rcases eq_or_ne id' id with rfl | hne
      · show ((Function.update t.hashConnections id' _) id').Maps _
        rw [Function.update_self]
        exact hmaps
      · show ((Function.update t.hashConnections id _) id').Maps _
        rw [Function.update_of_ne hne]
        exact hb.maps id'
    have hsame₁ : SameLoop I kept t
        (t.setTable id ((t.hashConnections id).lookupByIndex 0).2) :=
      ⟨⟨rfl, rfl, rfl, .refl⟩, rfl, rfl, rfl⟩
    unfold CTCPStunThread.closeAllConnections
    dsimp only
    split
    next heq =>
      have hitems : Function.update items id [] = items :=
        Function.update_eq_self_iff.mpr (hnone.mp heq).symm
      exact ⟨_, rfl, hitems.symm ▸ hb₁, hsame₁⟩
    next x heq =>
      -- The item that was found is of a connection that is given out, which is closed.
      have hx := hsome x heq
      obtain ⟨conn, hconn, -⟩ := hb₁.listed id x hx
      obtain ⟨t₂, hclose, hb₂, hsame₂⟩ := hb₁.closeConnection (I := I) hconn
      have hlt : (without x.2 items id).length < rounds := by
        have hlen : (without x.2 items id).length < (items id).length :=
          List.length_filter_lt_length_iff_exists.mpr ⟨x, hx, by simp⟩
        omega
      obtain ⟨t', hrest, hb', hsame⟩ := ih hb₂ hlt
      have hitems : Function.update (without x.2 items) id [] = Function.update items id [] := by
        funext id'
        rcases eq_or_ne id' id with rfl | hne
        · rw [Function.update_self, Function.update_self]
        · rw [Function.update_of_ne hne, Function.update_of_ne hne]
          refine List.filter_eq_self.mpr fun y hy => ?_
          have hother : y.2 ≠ x.2 := fun heq => hne (hb.table_unique hy hx heq)
          simpa using hother
      refine ⟨t', ?_, hitems ▸ hb', hsame₁.trans (hsame₂.trans hsame)⟩
      rw [hclose]
      exact hrest

/-- `CloseAllConnections` of a table returns, empties it and keeps the books. -/
theorem closeTable (id : TableId) :
    ∃ t', t.closeTable I id = some t' ∧ Books kept t' (Function.update items id []) [] ∧
      SameLoop I kept t t' := by
  refine hb.closeAllConnections id ?_
  rw [(hb.maps id).size_eq]
  exact Nat.lt_succ_self _

/-- `SweepDeadConnections` when it is time: the table of the older connections is emptied, and is
the one of the new connections from then on. -/
theorem sweepDeadConnections_due {timeCurrent : ℤ} (timeSwept : ℤ)
    (hdue : timeCurrent - t.timeLastSweep ≥ c_sweepTimeoutSeconds) :
    ∃ t', t.sweepDeadConnections I timeCurrent timeSwept = some t' ∧
      Books kept t' (Function.update items t.pOldConnList []) [] ∧ SameListen I kept t t' ∧
      t'.inserts = t.inserts ∧ t'.pNewConnList = t.pOldConnList ∧ t'.pOldConnList = t.pNewConnList ∧
      t'.timeLastSweep = timeSwept := by
  obtain ⟨t', hclose, hb', hsame⟩ := hb.closeTable (I := I) t.pOldConnList
  refine ⟨{ t' with
      timeLastSweep := timeSwept
      pOldConnList := t'.pNewConnList
      pNewConnList := t'.pOldConnList }, ?_, ?_, ?_, hsame.inserts, hsame.pOldConnList,
    hsame.pNewConnList, rfl⟩
  · rw [CTCPStunThread.sweepDeadConnections, if_pos hdue, hclose]
    rfl
  · exact ⟨hb'.gaveOut, hb'.maps, hb'.listed, hb'.opened, hb'.distinct, hb'.keeps, hb'.lists.symm⟩
  · exact ⟨hsame.fListenSocketsOnEpoll, hsame.socketTable, hsame.pipe, hsame.polls⟩

/-- `SweepDeadConnections` returns, keeps the books and adds nothing to a table. -/
theorem sweepDeadConnections (timeCurrent timeSwept : ℤ) :
    ∃ t' items', t.sweepDeadConnections I timeCurrent timeSwept = some t' ∧
      Books kept t' items' [] ∧
      (∀ id, (items' id).Sublist (items id)) ∧ SameListen I kept t t' ∧ t'.inserts = t.inserts := by
  by_cases hdue : timeCurrent - t.timeLastSweep ≥ c_sweepTimeoutSeconds
  · obtain ⟨t', hsweep, hb', hsame, hinserts, -⟩ :=
      hb.sweepDeadConnections_due (I := I) timeSwept hdue
    exact ⟨t', _, hsweep, hb', sublist_update items _, hsame, hinserts⟩
  · exact ⟨t, items, if_neg hdue, hb, fun _ => .refl _, .refl t, rfl⟩

/-- `ThreadCleanup` ends with empty tables. -/
theorem threadCleanup : ∃ t', t.threadCleanup I = some t' ∧ Books kept t' (fun _ => []) [] := by
  obtain ⟨t₁, hclose₁, hb₁, hsame₁⟩ := hb.closeTable (I := I) t.pOldConnList
  obtain ⟨t₂, hclose₂, hb₂, hsame₂⟩ := hb₁.closeTable (I := I) t₁.pNewConnList
  have hitems : Function.update (Function.update items t.pOldConnList []) t₁.pNewConnList [] =
      fun _ => [] := by
    have hlists := hb.lists
    rw [hsame₁.pNewConnList]
    -- There are two tables, and these are both.
    funext id
    revert hlists
    cases id <;> cases t.pOldConnList <;> cases t.pNewConnList <;> simp
  refine ⟨t₂, ?_, hitems ▸ hb₂⟩
  unfold CTCPStunThread.threadCleanup
  rw [hclose₁]
  exact hclose₂

end Books

end CTCPStunThread

end Stun
