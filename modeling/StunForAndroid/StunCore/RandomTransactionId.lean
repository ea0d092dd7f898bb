import StunForAndroid.StunCore.ClientRequests

/-!
# Where the octets of a transaction id come from

`AddRandomTransactionId` of `src/stuncore/stunbuilder.cpp` fills a local variable that is not
initialized: the cookie, and then octets of the generator up to, and not including,
`STUN_TRANSACTION_ID_LENGTH - 4`. The last four octets of the id are what was on the stack, and they
are sent with every request of the test that the id is made for.
-/

namespace Stun

open Octets CStunMessageBuilder

/-- What the generator would give for the last four octets. -/
def lastOctets (rand : ℕ → UInt8) : List UInt8 := (List.range' 12 4).map rand

/-- A random transaction id is the cookie, eight octets of the generator and four octets of the
stack. -/
theorem id_randomTransactionId (rand : ℕ → UInt8) (stack : StunTransactionId) :
    (randomTransactionId rand stack).id =
      toLE 4 (htonl STUN_COOKIE).toNat ++ (List.range' 4 8).map rand ++ stack.id.drop 12 := by
  refine fixedArray_of_length ?_
  simp only [List.length_append, length_toLE, List.length_map, List.length_range', List.length_drop,
    stack.length_id]
  rfl

/-- Two ids from the same generator are the same when the ends of the stack are. -/
theorem randomTransactionId_eq_iff {rand : ℕ → UInt8} {stack stack' : StunTransactionId} :
    randomTransactionId rand stack = randomTransactionId rand stack' ↔
      stack.id.drop 12 = stack'.id.drop 12 := by
  constructor
  · intro h
    have hid := congrArg StunTransactionId.id h
    rw [id_randomTransactionId, id_randomTransactionId] at hid
    exact List.append_cancel_left hid
  · intro h
    unfold randomTransactionId
    rw [h]

/-- An id is the cookie and twelve octets of the generator when the end of the stack is what the
generator would give. -/
theorem id_randomTransactionId_eq_iff {rand : ℕ → UInt8} {stack : StunTransactionId} :
    (randomTransactionId rand stack).id =
        toLE 4 (htonl STUN_COOKIE).toNat ++ (List.range' 4 12).map rand ↔
      stack.id.drop 12 = lastOctets rand := by
  have hsplit : (List.range' 4 12).map rand = (List.range' 4 8).map rand ++ lastOctets rand := rfl
  rw [id_randomTransactionId, hsplit, ← List.append_assoc]
  exact List.append_right_inj _

/-! ## The requests -/

/-- A request gives its transaction id away. -/
theorem requestDraft_octets_inj {transid transid' : StunTransactionId}
    {change : StunChangeRequestAttribute}
    (h : (requestDraft transid change).octets = (requestDraft transid' change).octets) :
    transid = transid' := by
  have hread := (reads_request transid change).transid
  rw [h] at hread
  exact hread.symm.trans (reads_request transid' change).transid

/-- What `AddRandomTransactionId` does depends on the stack through the id only. -/
theorem addRandomTransactionId_congr {rand : ℕ → UInt8} {stack stack' : StunTransactionId}
    (h : randomTransactionId rand stack = randomTransactionId rand stack') :
    addRandomTransactionId rand stack = addRandomTransactionId rand stack' := by
  unfold addRandomTransactionId
  rw [h]

/-- The request of a test depends on the generator and the stack through the transaction id only. -/
theorem getMessage_congr {rand : ℕ → UInt8} {stack stack' : StunTransactionId}
    (h : randomTransactionId rand stack = randomTransactionId rand stack')
    (config : StunClientLogicConfig) (results : StunClientResults) (spMsg : CBuffer)
    (t : StunClientTest) :
    t.getMessage config results rand stack spMsg =
      t.getMessage config results rand stack' spMsg := by
  have hstart : ∀ t : StunClientTest,
      t.startBindingRequest rand stack = t.startBindingRequest rand stack' := by
    intro t
    unfold StunClientTest.startBindingRequest
    rw [addRandomTransactionId_congr h, h]
  have hbuild : ∀ change, t.buildRequest rand stack change = t.buildRequest rand stack' change := by
    intro change
    unfold StunClientTest.buildRequest
    rw [hstart]
  unfold StunClientTest.getMessage StunClientTest.getMessageWith
  simp only [hbuild]

/-- The first request of a test tells two stacks with different ends apart. -/
theorem getMessage_contents_eq_iff {spMsg : CBuffer}
    (hsize : MAX_STUN_MESSAGE_SIZE ≤ spMsg.getAllocatedSize) (config : StunClientLogicConfig)
    (results : StunClientResults) (rand : ℕ → UInt8) (stack stack' : StunTransactionId)
    {t : StunClientTest} (hfresh : isTransactionIdValid t.transid = false) :
    (t.getMessage config results rand stack spMsg).1.2.contents =
        (t.getMessage config results rand stack' spMsg).1.2.contents ↔
      stack.id.drop 12 = stack'.id.drop 12 := by
  have hmessage : ∀ stack, (t.getMessage config results rand stack spMsg).1.2.contents =
      (requestDraft (randomTransactionId rand stack) t.changeOf).octets := by
    intro stack
    obtain ⟨buf, hget, hcontents⟩ := t.getMessage_spec hsize config results rand stack
    rw [StunClientTest.requestTransid, if_neg (by rw [hfresh]; exact Bool.false_ne_true)]
      at hcontents
    rw [hget]
    exact hcontents
  rw [hmessage, hmessage, ← randomTransactionId_eq_iff]
  exact ⟨requestDraft_octets_inj, fun h => by rw [h]⟩

/-- With two stacks the same is done, the id consists of the cookie and octets of the generator, and
every test sends the same request. -/
structure DeterminedByGenerator (rand : ℕ → UInt8) (stack stack' : StunTransactionId) : Prop where
  sameOutcome : ∀ b, addRandomTransactionId rand stack b = addRandomTransactionId rand stack' b
  fromGenerator : ∀ slot ∈ [stack, stack'], (randomTransactionId rand slot).id =
    toLE 4 (htonl STUN_COOKIE).toNat ++ (List.range' 4 12).map rand
  sameRequests : ∀ (config : StunClientLogicConfig) (results : StunClientResults) (spMsg : CBuffer)
    (t : StunClientTest),
    t.getMessage config results rand stack spMsg = t.getMessage config results rand stack' spMsg

/-- The generator determines the transaction ids on two stacks exactly when both stacks happen to
end with what it would give. -/
theorem determinedByGenerator_iff (rand : ℕ → UInt8) (stack stack' : StunTransactionId) :
    DeterminedByGenerator rand stack stack' ↔
      stack.id.drop 12 = lastOctets rand ∧ stack'.id.drop 12 = lastOctets rand := by
  constructor
  · intro h
    have hslots := h.fromGenerator
    simp only [List.forall_mem_cons, id_randomTransactionId_eq_iff] at hslots
    exact ⟨hslots.1, hslots.2.1⟩
  · rintro ⟨hstack, hstack'⟩
    have hid : randomTransactionId rand stack = randomTransactionId rand stack' :=
      randomTransactionId_eq_iff.mpr (hstack.trans hstack'.symm)
    refine ⟨fun b => by rw [addRandomTransactionId_congr hid], ?_, getMessage_congr hid⟩
    simp only [List.forall_mem_cons, id_randomTransactionId_eq_iff]
    exact ⟨hstack, hstack', nofun⟩

/-- A generator of zeros determines no transaction id on a stack of zeros and on one of ones. -/
theorem not_determinedByGenerator :
    ¬∀ rand stack stack', DeterminedByGenerator rand stack stack' := by
  intro h
  let ones := StunTransactionId.ofOctets (List.replicate 16 1)
  have hslot := (h (fun _ => 0) StunTransactionId.zero ones).fromGenerator ones (by simp)
  have hends : ones.id.drop 12 = lastOctets fun _ => 0 := id_randomTransactionId_eq_iff.mp hslot
  exact absurd hends (by decide)

end Stun
