import StunForAndroid.Client.FileTransfer
import Mathlib.Data.List.Induction
import Mathlib.Logic.Function.Basic

/-!
# Two clients and the network between them

Both clients run the same threads, and each may give the other a file and ask it for one. A datagram
that was sent to a client may arrive at any time, any number of times and in any order, or never; a
reply that goes to a third party is one that never arrives. Datagrams that are not part of a
transfer, which the server and other clients send, may turn up at any time.

What a client does for a file that it shares and what it does for a file that it has asked for are
apart: `KeepsSharing` and `KeepsAsking` are what the rest of its rounds leaves alone.
-/

namespace Stun

namespace Transfer

/-! ## The two clients -/

/-- The two clients. -/
inductive Side
  | left
  | right
deriving DecidableEq

namespace Side

/-- The client on the other side. -/
def other : Side → Side
  | left => right
  | right => left

/-- The other side of the other side is the side itself. -/
@[simp]
theorem other_other (s : Side) : s.other.other = s := by cases s <;> rfl

/-- The other side is not the side itself. -/
@[simp]
theorem other_ne (s : Side) : s.other ≠ s := by cases s <;> decide

/-- A client is one or the other. -/
theorem eq_or_eq_other (q s : Side) : q = s ∨ q = s.other := by
  cases q <;> cases s <;> decide

end Side

/-- The part of a datagram in the transfer: what a client that asks for a file is sent of it. -/
def Datagram.isOfFile : Datagram → Bool
  | respondFileDesc _ | respondSector _ _ _ => true
  | _ => false

/-- What a client that shares a file is sent about it. -/
def Datagram.isApk : Datagram → Bool
  | respondApkFileDesc | respondApkSector _ => true
  | _ => false

/-- A datagram that anyone may send. -/
def Datagram.isControl : Datagram → Bool
  | requestDoConnect _ _ | respondStatusReady | requestStatusReady | wrong => true
  | _ => false

/-- The datagram that an event sends. -/
def Event.datagram? : Event → Option Datagram
  | sendto _ d => some d
  | _ => none

/-- The data that an event writes. -/
def Event.data? : Event → Option (List UInt8)
  | writeData data => some data
  | _ => none

/-- The datagrams that are sent. -/
def sends (log : List Event) : List Datagram := log.filterMap Event.datagram?

/-- What is written, write by write. -/
def writes (log : List Event) : List (List UInt8) := log.filterMap Event.data?

/-- What is in the file that is written. -/
def written (log : List Event) : List UInt8 := (writes log).flatten

/-- The clients, what was sent to each, what each has received, and what is seen of each. -/
structure State where
  peer : Side → Peer
  sent : Side → List Datagram
  delivered : Side → List Datagram
  log : Side → List Event

/-- The state in which nothing has happened. -/
def State.initial : State := ⟨fun _ => .initial, fun _ => [], fun _ => [], fun _ => []⟩

/-- After a client has gone to a state with some events. -/
def State.after (st : State) (q : Side) (r : Peer × List Event) : State :=
  { st with
    peer := Function.update st.peer q r.1
    sent := Function.update st.sent q.other (st.sent q.other ++ sends r.2)
    log := Function.update st.log q (st.log q ++ r.2) }

/-- What may happen in a transfer. -/
inductive Action
  /-- Someone sends a client a datagram. -/
  | announce (q : Side) (d : Datagram)
  /-- A datagram that was sent to a client arrives, with what the user types in if asked. -/
  | deliver (q : Side) (i : ℕ) (typed : CString)
  /-- The send thread of a client is at the head of its loop. -/
  | readPosition (q : Side)
  /-- The send thread of a client sends. -/
  | sendSectorData (q : Side)

/-- What an action does. `open_` is what the files of a client are. -/
def act (open_ : Side → CString → Option (List UInt8)) (st : State) : Action → State
  | .announce q d =>
    if d.isControl then { st with sent := Function.update st.sent q (st.sent q ++ [d]) } else st
  | .deliver q i typed =>
    match (st.sent q)[i]? with
    | none => st
    | some d =>
      { st.after q ((st.peer q).receiveThreadFunction (open_ q) typed d) with
        delivered := Function.update st.delivered q (st.delivered q ++ [d]) }
  | .readPosition q => st.after q ((st.peer q).readPosition, [])
  | .sendSectorData q => st.after q (st.peer q).sendSectorData

/-- The state after some actions. -/
def run (open_ : Side → CString → Option (List UInt8)) (actions : List Action) : State :=
  actions.foldl (act open_) .initial

/-! ## What a round of a client changes -/

namespace Peer

/-- The blocks of the file that is shared, if one is. -/
def file (p : Peer) : List (List UInt8) := (p.fileReadBuff.map SharedFileBuffer.blocks).getD []

/-- A peer announces as many blocks as the file that it shares has. -/
theorem length_file (p : Peer) : (p.file.length : ℤ) = p.readBlockSize := by
  unfold file readBlockSize
  cases p.fileReadBuff with
  | none => rfl
  | some f => exact f.length_blocks

/-- What a client has of a file that it shares. -/
def sharing (p : Peer) : Option SharedFileBuffer × ℤ × SendThread :=
  (p.fileReadBuff, p.currentfileBlockPosition, p.sendThread)

/-- What a client has of a file that it has asked for. -/
def asking (p : Peer) : ℤ × ℤ := (p.fileBlockSize, p.currentWritefileBlockPosition)

end Peer

/-- What a client does for a file that it has asked for. -/
def Event.isOfAsking : Event → Bool
  | sendto _ d => d.isApk
  | useFileReadBuff _ => false
  | newFileWriteBuff _ | writeData _ | receiveComplete | deleteFileWriteBuff => true

/-- What a client sends of a file that it shares. -/
def Event.isOfSharing : Event → Bool
  | sendto _ d => d.isOfFile
  | _ => false

/-- What happens to a client that is no part of its asking for a file. -/
structure KeepsAsking (p : Peer) (r : Peer × List Event) : Prop where
  asking_eq : r.1.asking = p.asking
  events : ∀ e ∈ r.2, e.isOfAsking = false

/-- What happens to a client that is no part of its sharing a file. -/
structure KeepsSharing (p : Peer) (r : Peer × List Event) : Prop where
  sharing_eq : r.1.sharing = p.sharing
  events : ∀ e ∈ r.2, e.isOfSharing = false

section Rounds

variable (open_ : CString → Option (List UInt8)) (typed : CString) (p : Peer)

/-- Making the object that a file is read from does nothing to the asking. -/
theorem asking_loadFile (fileName : List UInt8) :
    (p.loadFile open_ fileName).asking = p.asking := by
  unfold Peer.loadFile
  split_ifs <;> rfl

/-- A datagram that is not of a file that was asked for does nothing to the asking. -/
theorem receive_keepsAsking {d : Datagram} (h : d.isOfFile = false) :
    KeepsAsking p (p.receiveThreadFunction open_ typed d) := by
  cases d with
  | respondFileDesc size => simp [Datagram.isOfFile] at h
  | respondSector len index data => simp [Datagram.isOfFile] at h
  | requestFileName fileName =>
    refine ⟨asking_loadFile open_ p fileName, fun e he => ?_⟩
    simp only [Peer.receiveThreadFunction, Peer.receiveFileName, List.mem_append] at he
    grind [Event.isOfAsking, Datagram.isApk]
  | respondApkFileDesc =>
    simp only [Peer.receiveThreadFunction, Peer.receiveApkFileDesc]
    split_ifs <;> exact ⟨rfl, by simp [Event.isOfAsking]⟩
  | respondApkSector index =>
    simp only [Peer.receiveThreadFunction]
    split_ifs <;> exact ⟨rfl, by simp⟩
  | respondStatusReady =>
    simp only [Peer.receiveThreadFunction]
    split_ifs <;> exact ⟨rfl, by simp [Event.isOfAsking, Peer.sendRequestFileInfo, Datagram.isApk]⟩
  | requestDoConnect s_addr port =>
    exact ⟨rfl, by simp [Peer.receiveThreadFunction, Event.isOfAsking, Datagram.isApk]⟩
  | requestStatusReady =>
    exact ⟨rfl, by simp [Peer.receiveThreadFunction, Event.isOfAsking, Datagram.isApk]⟩
  | wrong => exact ⟨rfl, by simp [Peer.receiveThreadFunction]⟩

/-- A datagram that is neither a request for a file nor about a file that is shared does nothing to
the sharing. -/
theorem receive_keepsSharing {d : Datagram} (h : d.isApk = false)
    (hname : ∀ fileName, d ≠ .requestFileName fileName) :
    KeepsSharing p (p.receiveThreadFunction open_ typed d) := by
  cases d with
  | respondApkFileDesc => simp [Datagram.isApk] at h
  | respondApkSector index => simp [Datagram.isApk] at h
  | requestFileName fileName => exact (hname fileName rfl).elim
  | respondSector len index data =>
    refine ⟨rfl, fun e he => ?_⟩
    simp only [Peer.receiveThreadFunction, Peer.receiveSector, List.mem_append] at he
    grind [Event.isOfSharing, Datagram.isOfFile]
  | respondStatusReady =>
    simp only [Peer.receiveThreadFunction]
    split_ifs <;>
      exact ⟨rfl, by simp [Event.isOfSharing, Peer.sendRequestFileInfo, Datagram.isOfFile]⟩
  | _ =>
    exact ⟨rfl, by simp [Peer.receiveThreadFunction, Event.isOfSharing, Datagram.isOfFile]⟩

/-- The send thread does nothing to the asking. -/
theorem readPosition_keepsAsking : KeepsAsking p (p.readPosition, []) := by
  refine ⟨?_, by simp⟩
  show p.readPosition.asking = p.asking
  unfold Peer.readPosition
  split
  · split_ifs <;> rfl
  · rfl

/-- Sending a block does nothing to the asking. -/
theorem sendSectorData_keepsAsking : KeepsAsking p p.sendSectorData := by
  unfold Peer.sendSectorData
  split
  · refine ⟨rfl, fun e he => ?_⟩
    grind [Event.isOfAsking, Datagram.isApk]
  · exact ⟨rfl, by simp⟩

/-- Every block that arrives is acknowledged. -/
theorem sends_receiveSector (len i : ℤ) (data : List UInt8) :
    sends (p.receiveSector len i data).2 = [.respondApkSector i] := by
  simp only [Peer.receiveSector]
  split_ifs <;> rfl

/-- The block that comes next is written. -/
theorem writes_receiveSector (len i : ℤ) (data : List UInt8) :
    writes (p.receiveSector len i data).2 =
      if p.currentWritefileBlockPosition = i then [data.take len.toNat] else [] := by
  simp only [Peer.receiveSector]
  split_ifs <;> rfl

/-- When a block arrives the object is made if there is none, the block is written if it comes next,
it is acknowledged, and the last one completes the file. -/
theorem snd_receiveSector (len i : ℤ) (data : List UInt8) :
    ∃ created : List Event, (∀ e ∈ created, e = .newFileWriteBuff p.localFileName) ∧
      (p.receiveSector len i data).2 = created ++
        (if p.currentWritefileBlockPosition = i then [.writeData (data.take len.toNat)] else []) ++
        [.sendto .remoteaddr (.respondApkSector i)] ++
        if i = p.fileBlockSize - 1 then [.receiveComplete, .deleteFileWriteBuff] else [] := by
  refine ⟨if p.fileWriteBuff.isNone then [.newFileWriteBuff p.localFileName] else [], ?_, rfl⟩
  split_ifs <;> simp

end Rounds

/-! ## What is seen of a client -/

/-- What is written goes on with what is written after it. -/
theorem writes_append (log es : List Event) : writes (log ++ es) = writes log ++ writes es :=
  List.filterMap_append

/-- A datagram is sent exactly when there is an event of sending it. -/
theorem mem_sends {es : List Event} {d : Datagram} : d ∈ sends es ↔ ∃ r, Event.sendto r d ∈ es := by
  unfold sends
  rw [List.mem_filterMap]
  constructor
  · rintro ⟨e, he, hd⟩
    cases e with
    | sendto r d' =>
      obtain rfl : d' = d := Option.some.inj hd
      exact ⟨r, he⟩
    | _ => cases hd
  · rintro ⟨r, hr⟩
    exact ⟨_, hr, rfl⟩

/-- What came before each time that an event was seen. -/
def Before (e : Event) (P : List Event → Prop) (log : List Event) : Prop :=
  ∀ pre post, log = pre ++ e :: post → P pre

/-- In an empty log an event never came before a property held. -/
theorem before_nil (e : Event) (P : List Event → Prop) : Before e P [] :=
  fun _ _ h => by simp at h

/-- When one more event is seen, the property held before each such event exactly when it did so far
and, if the new one is such an event, holds of the whole log. -/
theorem before_concat {e x : Event} {P : List Event → Prop} {log : List Event} :
    Before e P (log ++ [x]) ↔ Before e P log ∧ (x = e → P log) := by
  constructor
  · intro h
    refine ⟨fun pre post hlog => h pre (post ++ [x]) (by simp [hlog]), ?_⟩
    rintro rfl
    exact h log [] rfl
  · rintro ⟨hlog, hx⟩ pre post h
    obtain rfl | ⟨post', y, rfl⟩ := List.eq_nil_or_concat post
    · obtain ⟨rfl, he⟩ := List.append_inj' h rfl
      exact hx (List.cons.inj he).1
    · have h' : log ++ [x] = (pre ++ e :: post') ++ [y] := by simpa using h
      exact hlog pre post' (List.append_inj' h' rfl).1

/-- Other events do not matter to what held before an event. -/
theorem before_append {e : Event} {P : List Event → Prop} {log es : List Event} (h : e ∉ es) :
    Before e P (log ++ es) ↔ Before e P log := by
  induction es using List.reverseRecOn with
  | nil => rw [List.append_nil]
  | append_singleton es x ih =>
    rw [List.mem_append, List.mem_singleton, not_or] at h
    rw [← List.append_assoc, before_concat, ih h.1]
    exact and_iff_left fun hx => (h.2 hx.symm).elim

/-- An event that never was seen never came before. -/
theorem before_of_not_mem {e e' : Event} {log : List Event} (h : e' ∉ log) :
    Before e (fun pre => e' ∉ pre) log := by
  rintro pre post rfl hmem
  exact h (List.mem_append_left _ hmem)

namespace KeepsAsking

variable {p : Peer} {r : Peer × List Event} (h : KeepsAsking p r)
include h

/-- A step that keeps asking writes nothing. -/
theorem writes_eq : writes r.2 = [] := by
  refine List.filterMap_eq_nil_iff.mpr fun e he => ?_
  have hno := h.events e he
  cases e <;> simp_all [Event.isOfAsking, Event.data?]

/-- The object that writes a file is not deleted. -/
theorem not_delete : .deleteFileWriteBuff ∉ r.2 := fun he => by
  simpa [Event.isOfAsking] using h.events _ he

/-- A step that keeps asking acknowledges nothing. -/
theorem sends_isApk {d : Datagram} (hd : d ∈ sends r.2) : d.isApk = false := by
  obtain ⟨q, hq⟩ := mem_sends.mp hd
  exact h.events _ hq

end KeepsAsking

/-- A step that keeps sharing sends nothing of a file. -/
theorem KeepsSharing.sends_isOfFile {p : Peer} {r : Peer × List Event} (h : KeepsSharing p r)
    {d : Datagram} (hd : d ∈ sends r.2) : d.isOfFile = false := by
  obtain ⟨q, hq⟩ := mem_sends.mp hd
  exact h.events _ hq

end Transfer

end Stun
