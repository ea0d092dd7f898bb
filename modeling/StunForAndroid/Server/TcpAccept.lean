import StunForAndroid.Server.TcpBookkeeping

/-!
# Accepting connections

`AcceptConnection` keeps the books, whichever of its steps fails. It gets to the `Insert` if there
is a connection to be had and the two steps before do not fail (`Admits`). What the `Insert` gives
is a matter of the room in the table that is the new one.
-/

namespace Stun

namespace CTCPStunThread

variable {P : Type} {cfg : TcpConfig} (I : IPolling P)

/-! ## A connection in hand -/

/-- A connection can be had for what `accept` gives. -/
def CanTake (a : AcceptAnswer) (t : CTCPStunThread P cfg) : Prop :=
  t.accept a ≠ -1 ∧ (t.connectionpool.freelist ≠ [] ∨ a.memory ≠ 0)

/-- What `accept` gives is not open yet. -/
theorem accept_notMem {a : AcceptAnswer} {t : CTCPStunThread P cfg} (h : t.accept a ≠ -1) :
    t.accept a ∉ t.descriptors := by
  unfold accept at h ⊢
  split at h
  next hcan =>
    rw [if_pos hcan]
    exact hcan.2
  next => exact absurd rfl h

/-- Else `AcceptConnection` leaves the thread as it was. -/
theorem acceptConnection_none {a : AcceptAnswer} {t : CTCPStunThread P cfg} (h : ¬ t.CanTake a)
    (role : SocketRole) : t.acceptConnection I role a = some (none, t) := by
  unfold acceptConnection
  by_cases hsock : t.accept a = -1
  · exact if_pos hsock
  have hempty : t.connectionpool.freelist = [] ∧ a.memory = 0 := by
    by_contra hne
    rw [not_and_or] at hne
    exact h ⟨hsock, hne⟩
  rw [if_neg hsock, hempty.2, CConnectionPool.getConnection_none hempty.1]
  -- The socket is closed, so that the open descriptors are what they were.
  have hdescriptors : (t.accept a :: t.descriptors).filter (· ≠ t.accept a) = t.descriptors := by
    rw [List.filter_cons_of_neg (by simp), List.filter_eq_self]
    intro fd hfd
    exact decide_eq_true fun heq => accept_notMem hsock (heq ▸ hfd)
  dsimp only
  rw [hdescriptors]

/-- The thread with a connection from the pool for a new socket. -/
def taken (sock : ℤ) (pool : CConnectionPool) (t : CTCPStunThread P cfg) : CTCPStunThread P cfg :=
  { t with connectionpool := pool, descriptors := sock :: t.descriptors }

/-- The thread when `Insert` has been called for a connection, with its results. -/
def tracked (c : ConnId) (conn : StunConnection) (code : ℤ) (h : ConnectionMap cfg)
    (t : CTCPStunThread P cfg) : CTCPStunThread P cfg :=
  let t := t.setConn c { conn with idHashTable := t.pNewConnList.hint }
  let t := t.setTable t.pNewConnList h
  { t with inserts := t.inserts ++ [(code, t.connectionCount)] }

/-- What the tables store with one more item in one of them. -/
def withItem (id : TableId) (x : ℤ × ConnId) (items : TableId → List (ℤ × ConnId)) :
    TableId → List (ℤ × ConnId) :=
  Function.update items id (items id ++ [x])

/-- Adding an item to a table stores what was stored and the item in that table. -/
theorem mem_withItem {id id' : TableId} {x y : ℤ × ConnId} {items : TableId → List (ℤ × ConnId)} :
    y ∈ withItem id x items id' ↔ y ∈ items id' ∨ id' = id ∧ y = x := by
  unfold withItem
  rcases eq_or_ne id' id with rfl | hne
  · rw [Function.update_self, List.mem_append, List.mem_singleton]
    simp
  · rw [Function.update_of_ne hne]
    simp [hne]

/-- Adding an item stores its connection and those that were stored. -/
theorem perm_withItem (id : TableId) (x : ℤ × ConnId) (items : TableId → List (ℤ × ConnId)) :
    ((items .one).map Prod.snd ++ (items .two).map Prod.snd ++ [x.2]).Perm
      ((withItem id x items .one).map Prod.snd ++ (withItem id x items .two).map
        Prod.snd ++ []) := by
  unfold withItem
  rw [List.append_nil]
  cases id with
  | one =>
    have hmap : (items .one ++ [x]).map Prod.snd = (items .one).map Prod.snd ++ [x.2] := by simp
    rw [Function.update_self, Function.update_of_ne (by simp), hmap, List.append_assoc,
      List.append_assoc]
    exact List.perm_append_comm.append_left _
  | two =>
    have hmap : (items .two ++ [x]).map Prod.snd = (items .two).map Prod.snd ++ [x.2] := by simp
    rw [Function.update_self, Function.update_of_ne (by simp), hmap, List.append_assoc]

/-- Adding an item makes the tables one item longer together. -/
theorem length_withItem (id : TableId) (x : ℤ × ConnId) (items : TableId → List (ℤ × ConnId)) :
    (withItem id x items .one).length + (withItem id x items .two).length =
      (items .one).length + (items .two).length + 1 := by
  have h := (perm_withItem id x items).length_eq
  simp only [List.length_append, List.length_map, List.length_singleton, List.length_nil] at h
  omega

namespace Books

variable {I} {kept : Set ℤ} {t : CTCPStunThread P cfg} {items : TableId → List (ℤ × ConnId)}

/-- With a connection in hand, the books are kept but for it. -/
theorem taken (hb : Books kept t items []) {a : AcceptAnswer} (h : t.CanTake a)
    (role : SocketRole) :
    ∃ c pool conn, t.connectionpool.getConnection (t.accept a) role a.addrlocal a.addrremote
        a.memory (t.accept a :: t.descriptors) =
        (some c, pool, t.accept a :: t.descriptors) ∧
      Books kept (t.taken (t.accept a) pool) items [c] ∧ pool.deref c = some conn ∧
      conn.stunsocket.sock = t.accept a := by
  obtain ⟨c, pool, conn, hget, hg, hc, hsock, -, hother⟩ := hb.gaveOut.getConnection_some h.1 h.2
    role a.addrlocal a.addrremote (t.accept a :: t.descriptors)
  -- Each connection was there before, unless it is the one that was taken.
  have hbefore : ∀ c' conn', pool.deref c' = some conn' →
      c' = c ∧ conn' = conn ∨ t.connectionpool.deref c' = some conn' := by
    intro c' conn' hconn'
    rcases eq_or_ne c' c with rfl | hne
    · exact Or.inl ⟨rfl, Option.some.inj (hconn'.symm.trans hc)⟩
    · exact Or.inr ((hother c' hne).symm.trans hconn')
  have hfresh : ∀ c' conn', t.connectionpool.deref c' = some conn' →
      conn'.stunsocket.sock ≠ conn.stunsocket.sock := by
    intro c' conn' hconn' heq
    exact accept_notMem h.1 (hsock ▸ heq ▸ (hb.opened c' conn' hconn').1)
  have hkept : t.accept a ∉ kept := fun hin => accept_notMem h.1 (hb.keeps _ hin)
  refine ⟨c, pool, conn, hget, ⟨?_, hb.maps, ?_, ?_, ?_, ?_, hb.lists⟩, hc, hsock⟩
  · rw [List.append_nil] at hg
    exact hg.perm (List.perm_append_singleton _ _).symm
  · intro id x hx
    obtain ⟨conn', hconn', hrest⟩ := hb.listed id x hx
    refine ⟨conn', (hother x.2 ?_).trans hconn', hrest⟩
    -- What is listed was given out before.
    have hmem := hb.gaveOut.mem_active_iff.mpr ⟨conn', hconn'⟩
    exact fun heq => (List.nodup_cons.mp hg.nodup.of_append_right).1 (heq ▸ hmem)
  · intro c' conn' hconn'
    rcases hbefore c' conn' hconn' with ⟨rfl, rfl⟩ | hconn'
    · exact ⟨hsock ▸ List.mem_cons_self, hsock ▸ hkept⟩
    · obtain ⟨hin, hnot⟩ := hb.opened c' conn' hconn'
      exact ⟨List.mem_cons_of_mem _ hin, hnot⟩
  · intro c₁ c₂ conn₁ conn₂ h₁ h₂ heq
    rcases hbefore c₁ conn₁ h₁ with ⟨rfl, rfl⟩ | h₁ <;>
      rcases hbefore c₂ conn₂ h₂ with ⟨rfl, rfl⟩ | h₂
    · rfl
    · exact absurd heq.symm (hfresh c₂ conn₂ h₂)
    · exact absurd heq (hfresh c₁ conn₁ h₁)
    · exact hb.distinct c₁ c₂ conn₁ conn₂ h₁ h₂ heq
  · exact fun fd hfd => List.mem_cons_of_mem _ (hb.keeps fd hfd)

/-- What is in hand is in no table. -/
theorem notMem_of_hand {c : ConnId} (hb : Books kept t items [c]) {id : TableId} {x : ℤ × ConnId}
    (hx : x ∈ items id) : x.2 ≠ c := by
  have hmem : x.2 ∈ (items .one).map Prod.snd ++ (items .two).map Prod.snd := by
    cases id
    · exact List.mem_append_left _ (List.mem_map_of_mem hx)
    · exact List.mem_append_right _ (List.mem_map_of_mem hx)
  have hdisjoint := List.disjoint_of_nodup_append hb.gaveOut.nodup.of_append_right
  exact fun heq => hdisjoint hmem (List.mem_singleton.mpr heq)

/-- Closing the connection in hand returns and balances the books. -/
theorem closeHand {c : ConnId} (hb : Books kept t items [c]) {conn : StunConnection}
    (hc : t.connectionpool.deref c = some conn) :
    ∃ t', t.closeConnection I c = some t' ∧ Books kept t' items [] ∧ SameLoop I kept t t' := by
  obtain ⟨t', hclose, hb', hsame⟩ := hb.closeConnection (I := I) hc
  have hitems : without c items = items := by
    funext id
    exact List.filter_eq_self.mpr fun x hx => decide_eq_true (hb.notMem_of_hand hx)
  have hhand : [c].filter (· ≠ c) = [] := by simp
  rw [hitems, hhand] at hb'
  exact ⟨t', hclose, hb', hsame⟩

/-- The connection in hand goes into a table with room, under its socket. -/
theorem tracked {c : ConnId} (hb : Books kept t items [c]) {conn : StunConnection}
    (hc : t.connectionpool.deref c = some conn)
    (hroom : (items t.pNewConnList).length < cfg.maxConnections) :
    ∃ h, (t.hashConnections t.pNewConnList).insert conn.stunsocket.sock c = (1, h) ∧
      Books kept (t.tracked c conn 1 h)
      (withItem t.pNewConnList (conn.stunsocket.sock, c) items) [] := by
  -- Each descriptor is that of one connection, so the key is new.
  have hkey : conn.stunsocket.sock ∉ (items t.pNewConnList).map Prod.fst := by
    intro hmem
    obtain ⟨x, hx, heq⟩ := List.mem_map.mp hmem
    exact hb.notMem_of_hand hx ((hb.key_iff hx hc).mp heq)
  obtain ⟨h, hinsert, hmaps⟩ := (hb.maps t.pNewConnList).insert_ok hroom hkey c
  have hb₁ := hb.setConn hc { conn with idHashTable := t.pNewConnList.hint } rfl
    fun id x hx heq => absurd heq (hb.notMem_of_hand hx)
  refine ⟨h, hinsert, ?_, ?_, ?_, hb₁.opened, hb₁.distinct, hb.keeps, hb.lists⟩
  · exact hb₁.gaveOut.perm (perm_withItem _ (conn.stunsocket.sock, c) items)
  · intro id
    show ((Function.update t.hashConnections t.pNewConnList h) id).Maps _
    unfold withItem
    rcases eq_or_ne id t.pNewConnList with rfl | hne
    · rw [Function.update_self, Function.update_self]
      exact hmaps
    · rw [Function.update_of_ne hne, Function.update_of_ne hne]
      exact hb.maps id
  · intro id x hx
    rcases mem_withItem.mp hx with hx | ⟨rfl, rfl⟩
    · exact hb₁.listed id x hx
    · exact ⟨_, deref_setConn hc _, rfl, rfl⟩

/-- A full table does not take it, and it stays in hand. -/
theorem tracked_full {c : ConnId} (hb : Books kept t items [c]) {conn : StunConnection}
    (hc : t.connectionpool.deref c = some conn)
    (hfull : (items t.pNewConnList).length = cfg.maxConnections) :
    ∃ h, (t.hashConnections t.pNewConnList).insert conn.stunsocket.sock c = (-1, h) ∧
      Books kept (t.tracked c conn (-1) h) items [c] := by
  refine ⟨_, (hb.maps t.pNewConnList).insert_full hfull _ c, ?_⟩
  have hb₁ := hb.setConn hc { conn with idHashTable := t.pNewConnList.hint } rfl
    fun id x hx heq => absurd heq (hb.notMem_of_hand hx)
  refine hb₁.congr rfl ?_ rfl rfl rfl
  exact Function.update_eq_self _ _

end Books

/-- `AcceptConnection` gets to the `Insert`. -/
def Admits (a : AcceptAnswer) (t : CTCPStunThread P cfg) : Prop :=
  t.CanTake a ∧ ¬ failed a.setNonBlocking ∧ ¬ failed (I.add (t.accept a) t.spPolling).1

/-- `AcceptConnection`, with a connection from the pool, polls its socket and tracks it, or closes
it when the polling fails. -/
theorem acceptConnection_eq {t : CTCPStunThread P cfg} {a : AcceptAnswer} {role : SocketRole}
    {c : ConnId} {pool : CConnectionPool} (hsock : t.accept a ≠ -1)
    (hget : t.connectionpool.getConnection (t.accept a) role a.addrlocal a.addrremote a.memory
      (t.accept a :: t.descriptors) = (some c, pool, t.accept a :: t.descriptors)) :
    t.acceptConnection I role a =
      if failed a.setNonBlocking then
        ((t.taken (t.accept a) pool).closeConnection I c).map (none, ·)
      else
        let t' := { t.taken (t.accept a) pool with
          spPolling := (I.add (t.accept a) t.spPolling).2 }
        if failed (I.add (t.accept a) t.spPolling).1 then (t'.closeConnection I c).map (none, ·)
        else t'.track I c (t.accept a) := by
  unfold acceptConnection
  rw [if_neg hsock, hget]
  dsimp only
  split
  · exact Option.map_eq_bind.symm
  split
  · exact Option.map_eq_bind.symm
  · rfl

/-- The part of `AcceptConnection` that puts a connection into the tables closes it when the
`Insert` fails. -/
theorem track_eq {t : CTCPStunThread P cfg} {c : ConnId} {conn : StunConnection}
    (hc : t.connectionpool.deref c = some conn) {code : ℤ} {h : ConnectionMap cfg}
    (hinsert : (t.hashConnections t.pNewConnList).insert conn.stunsocket.sock c = (code, h)) :
    t.track I c conn.stunsocket.sock =
      if code = -1 then ((t.tracked c conn code h).closeConnection I c).map (none, ·)
      else some (some c, t.tracked c conn code h) := by
  unfold track
  rw [hc]
  show (let r := (t.hashConnections t.pNewConnList).insert conn.stunsocket.sock c
    let t' := t.tracked c conn r.1 r.2
    if r.1 = -1 then (t'.closeConnection I c).bind fun t'' => some (none, t'')
    else some (some c, t')) = _
  rw [hinsert]
  dsimp only
  split
  · exact Option.map_eq_bind.symm
  · rfl

/-- What `AcceptConnection` does. -/
structure Accepted (kept : Set ℤ) (t : CTCPStunThread P cfg) (c : Option ConnId)
    (t' : CTCPStunThread P cfg) (items' : TableId → List (ℤ × ConnId)) : Prop where
  books : Books kept t' items' []
  same : SameListen I kept t t'
  /-- What it gives can be touched. -/
  live : ∀ c', c = some c' → ∃ conn, t'.connectionpool.deref c' = some conn

namespace Books

variable {I} {kept : Set ℤ} {t : CTCPStunThread P cfg} {items : TableId → List (ℤ × ConnId)}
  (hb : Books kept t items [])
include hb

/-- `AcceptConnection` that does not get to the `Insert` leaves the tables as they were. -/
theorem acceptConnection_of_not_admits {a : AcceptAnswer} (h : ¬ t.Admits I a) (role : SocketRole) :
    ∃ t', t.acceptConnection I role a = some (none, t') ∧
      Accepted I kept t none t' items ∧ t'.inserts = t.inserts := by
  by_cases htake : t.CanTake a
  · obtain ⟨c, pool, conn, hget, hb₁, hc, hsock⟩ := hb.taken htake role
    have hkept : t.accept a ∉ kept := hsock ▸ (hb₁.opened c conn hc).2
    rw [acceptConnection_eq I htake.1 hget]
    split
    · -- `SetNonBlocking` fails.
      have hsame₁ : SameListen I kept t (t.taken (t.accept a) pool) :=
        ⟨rfl, rfl, rfl, .single (.accept _ _ _)⟩
      obtain ⟨t', hclose, hb', hsame⟩ := hb₁.closeHand (I := I) hc
      rw [hclose]
      exact ⟨t', rfl, ⟨hb', hsame₁.trans hsame.toSameListen, nofun⟩, hsame.inserts⟩
    next hnon =>
      -- `Add` fails.
      have hsame₁ : SameListen I kept t { t.taken (t.accept a) pool with
          spPolling := (I.add (t.accept a) t.spPolling).2 } :=
        ⟨rfl, rfl, rfl, .tail (.single (.accept _ _ _)) (.add _ _ List.mem_cons_self hkept)⟩
      have hb₂ : Books kept { t.taken (t.accept a) pool with
          spPolling := (I.add (t.accept a) t.spPolling).2 } items [c] :=
        hb₁.congr rfl rfl rfl rfl rfl
      obtain ⟨t', hclose, hb', hsame⟩ := hb₂.closeHand (I := I) hc
      dsimp only
      rw [if_pos (by_contra fun hadd => h ⟨htake, hnon, hadd⟩), hclose]
      exact ⟨t', rfl, ⟨hb', hsame₁.trans hsame.toSameListen, nofun⟩, hsame.inserts⟩
  · exact ⟨t, acceptConnection_none I htake role, ⟨hb, .refl t, nofun⟩, rfl⟩

/-- Else it has a connection in hand that is to go into the tables. -/
theorem acceptConnection_of_admits {a : AcceptAnswer} (h : t.Admits I a) (role : SocketRole) :
    ∃ c t' conn, t.acceptConnection I role a = t'.track I c conn.stunsocket.sock ∧
      Books kept t' items [c] ∧ t'.connectionpool.deref c = some conn ∧
      conn.stunsocket.sock = t.accept a ∧ SameLoop I kept t t' := by
  obtain ⟨htake, hnon, hadd⟩ := h
  obtain ⟨c, pool, conn, hget, hb₁, hc, hsock⟩ := hb.taken htake role
  have hkept : t.accept a ∉ kept := hsock ▸ (hb₁.opened c conn hc).2
  refine ⟨c,
    { t.taken (t.accept a) pool with spPolling := (I.add (t.accept a) t.spPolling).2 }, conn,
    ?_, hb₁.congr rfl rfl rfl rfl rfl, hc, hsock, ?_⟩
  · rw [acceptConnection_eq I htake.1 hget, if_neg hnon, hsock]
    exact if_neg hadd
  · have hopen : t.accept a ∈ (t.taken (t.accept a) pool).descriptors := List.mem_cons_self
    exact ⟨⟨rfl, rfl, rfl, .tail (.single (.accept _ _ _)) (.add _ _ hopen hkept)⟩, rfl, rfl, rfl⟩

/-- With room in the table `AcceptConnection` accepts the connection and puts it there. -/
theorem acceptConnection_of_room {a : AcceptAnswer} (h : t.Admits I a)
    (hroom : (items t.pNewConnList).length < cfg.maxConnections) (role : SocketRole) :
    ∃ c t', t.acceptConnection I role a = some (some c, t') ∧
      Accepted I kept t (some c) t' (withItem t.pNewConnList (t.accept a, c) items) ∧
      t'.inserts = t.inserts ++ [(1, t.connectionCount + 1)] := by
  obtain ⟨c, t₁, conn, haccept, hb₁, hc, hsock, hsame⟩ := hb.acceptConnection_of_admits h role
  rw [← hsame.pNewConnList] at hroom ⊢
  obtain ⟨table, hinsert, hb₂⟩ := hb₁.tracked hc hroom
  refine ⟨c, t₁.tracked c conn 1 table, ?_, ⟨hsock ▸ hb₂, ?_, ?_⟩, ?_⟩
  · rw [haccept, track_eq I hc hinsert]
    rfl
  · exact hsame.toSameListen.trans ⟨rfl, rfl, rfl, .refl⟩
  · intro c' hc'
    obtain rfl := Option.some.inj hc'
    exact ⟨_, deref_setConn hc _⟩
  · have hcount := hb₂.connectionCount_eq
    rw [length_withItem, ← hb.connectionCount_eq] at hcount
    show t₁.inserts ++ [(1, (t₁.tracked c conn 1 table).connectionCount)] = _
    rw [hcount, hsame.inserts]

/-- A full table does not take the connection, and it is closed. -/
theorem acceptConnection_of_full {a : AcceptAnswer} (h : t.Admits I a)
    (hfull : (items t.pNewConnList).length = cfg.maxConnections) (role : SocketRole) :
    ∃ t' count, t.acceptConnection I role a = some (none, t') ∧
      Accepted I kept t none t' items ∧ t'.inserts = t.inserts ++ [(-1, count)] := by
  obtain ⟨c, t₁, conn, haccept, hb₁, hc, hsock, hsame⟩ := hb.acceptConnection_of_admits h role
  rw [← hsame.pNewConnList] at hfull
  obtain ⟨table, hinsert, hb₂⟩ := hb₁.tracked_full hc hfull
  obtain ⟨t', hclose, hb', hsame'⟩ := hb₂.closeHand (I := I) (deref_setConn hc _)
  have hsame₁ : SameListen I kept t₁ (t₁.tracked c conn (-1) table) := ⟨rfl, rfl, rfl, .refl⟩
  refine ⟨t', (t₁.tracked c conn (-1) table).connectionCount, ?_, ⟨hb', ?_, nofun⟩, ?_⟩
  · rw [haccept, track_eq I hc hinsert, if_pos rfl, hclose]
    rfl
  · exact hsame.toSameListen.trans (hsame₁.trans hsame'.toSameListen)
  · rw [hsame'.inserts, ← hsame.inserts]
    rfl

end Books

end CTCPStunThread

end Stun
