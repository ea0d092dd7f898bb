import StunForAndroid.StunCore.Builder
import StunForAndroid.StunCore.Reader

/-!
# The tests of the client

`src/stuncore/stunclienttests.cpp`, with the configuration and the results of
`src/stuncore/stunclientlogic.h`. The tests share one configuration and one record of results, which
the program has pointers to and the functions here take and return. `errorBitmask` of the results,
which nothing sets, is left out.

A class of tests is a value of `TestKind`. `_fIsTest3` is part of it, since it does not change once
`Initialize` has made the list of tests. A `ProcessResponse` that fails does so before it changes
anything, so that one that fails returns no more than its error code.
-/

namespace Stun

open Fallible CStunMessageBuilder

/-! ## Configuration and results -/

/-- `StunClientLogicConfig`. -/
structure StunClientLogicConfig where
  /-- The address of the server. -/
  addrServer : CSocketAddress := CSocketAddress.zero
  /-- When set, `timeoutSeconds` is taken to be zero. -/
  fTimeoutIsInstant : Bool := false
  /-- How long to wait for a response; zero is for the default. -/
  timeoutSeconds : UInt32 := 0
  /-- How often to send a request; zero is for the default. -/
  uMaxAttempts : UInt32 := 0
  fBehaviorTest : Bool := false
  fFilteringTest : Bool := false

/-- `NatBehavior`. -/
inductive NatBehavior where
  | unknownBehavior
  | directMapping
  | endpointIndependentMapping
  | addressDependentMapping
  | addressAndPortDependentMapping
deriving DecidableEq

/-- `NatFiltering`. -/
inductive NatFiltering where
  | unknownFiltering
  | directConnectionFiltering
  | endpointIndependentFiltering
  | addressDependentFiltering
  | addressAndPortDependentFiltering
deriving DecidableEq

/-- `StunClientResults`, with the values that `Init` sets. -/
structure StunClientResults where
  fBindingTestSuccess : Bool := false
  fIsDirect : Bool := false
  addrLocal : CSocketAddress := CSocketAddress.zero
  addrMapped : CSocketAddress := CSocketAddress.zero
  fHasOtherAddress : Bool := false
  addrPA : CSocketAddress := CSocketAddress.zero
  addrAP : CSocketAddress := CSocketAddress.zero
  addrAA : CSocketAddress := CSocketAddress.zero
  fBehaviorTestSuccess : Bool := false
  behavior : NatBehavior := .unknownBehavior
  /-- The mapped address in the response to behavior test 2. -/
  addrMappingAP : CSocketAddress := CSocketAddress.zero
  /-- The mapped address in the response to behavior test 3. -/
  addrMappingAA : CSocketAddress := CSocketAddress.zero
  fFilteringTestSuccess : Bool := false
  filtering : NatFiltering := .unknownFiltering
  fGotTest2Response : Bool := false
  fGotTest3Response : Bool := false
deriving DecidableEq

/-! ## The common part -/

/-- The class of a test, with its `_fIsTest3`. -/
inductive TestKind where
  /-- `CBasicBindingTest`. -/
  | basicBinding
  /-- `CBehaviorTest`. -/
  | behavior (fIsTest3 : Bool)
  /-- `CFilteringTest`. -/
  | filtering (fIsTest3 : Bool)
deriving DecidableEq

/-- `CStunClientTestBase`, after `Init`. -/
structure StunClientTest where
  kind : TestKind
  fCompleted : Bool := false
  transid : StunTransactionId := StunTransactionId.zero
deriving DecidableEq

/-- `IsTransactionIdValid`. -/
def isTransactionIdValid (transid : StunTransactionId) : Bool := transid.id.any (· != 0)

namespace StunClientTest

/-- `StartBindingRequest`. The transaction id is made once, and is then used for every request of
the test. -/
def startBindingRequest (rand : ℕ → UInt8) (stack : StunTransactionId) (t : StunClientTest) :
    Fallible CStunMessageBuilder StunClientTest := do
  ignore addBindingRequestHeader
  if isTransactionIdValid t.transid then
    ignore (addTransactionId t.transid)
    return t
  else
    ignore (addRandomTransactionId rand stack)
    return { t with transid := randomTransactionId rand stack }

/-- `BasicReaderValidation`, with the reader that it fills. -/
def basicReaderValidation (spMsg : List UInt8) (t : StunClientTest) :
    Except HRESULT CStunMessageReader :=
  let result := ({} : CStunMessageReader).addBytes spMsg
  if result.1 ≠ .bodyValidated then .error E_FAIL
  else if result.2.transactionid ≠ t.transid then .error E_FAIL
  else .ok result.2

/-- What the three `GetMessage` functions do: build a request with a CHANGE-REQUEST in `spMsg`. They
do not look at the error codes of the builder. -/
def buildRequest (rand : ℕ → UInt8) (stack : StunTransactionId)
    (change : StunChangeRequestAttribute) (t : StunClientTest) :
    Fallible CStunMessageBuilder StunClientTest := do
  let t ← t.startBindingRequest rand stack
  ignore (addChangeRequest change)
  ignore fixLengthField
  return t

/-- What has become of `spMsg` and of the test. -/
def getMessageWith (rand : ℕ → UInt8) (stack : StunTransactionId) (spMsg : CBuffer)
    (change : StunChangeRequestAttribute) (t : StunClientTest) : StunClientTest × CBuffer :=
  match t.buildRequest rand stack change (({} : CStunMessageBuilder).attachStream spMsg) with
  | .ok t b => (t, b.stream.attachedBuffer.getD spMsg)
  | .error _ b => (t, b.stream.attachedBuffer.getD spMsg)

/-- The mapped address of a response, in either of its two attributes. -/
def mappedAddressOf (reader : CStunMessageReader) : Except HRESULT CSocketAddress :=
  match reader.getXorMappedAddress with
  | .ok addrMapped => .ok addrMapped
  | .error _ => reader.getMappedAddress

end StunClientTest

/-! ## `CBasicBindingTest` -/

namespace CBasicBindingTest

/-- `IsReadyToRun`. -/
def isReadyToRun (t : StunClientTest) : Bool := t.fCompleted == false

/-- The results of a response with the mapped address `addrMapped` and, when it has one, the other
address `addrOther`. -/
def storeResponse (config : StunClientLogicConfig) (addrLocal addrMapped : CSocketAddress)
    (addrOther : Option CSocketAddress) (results : StunClientResults) : StunClientResults :=
  let results := { results with
    fBindingTestSuccess := true
    fIsDirect := addrLocal.isSameIP_and_Port addrMapped
    addrLocal := addrLocal
    addrMapped := addrMapped
    fHasOtherAddress := addrOther.isSome }
  match addrOther with
  | none => results
  | some addrOther => { results with
      addrAA := addrOther
      addrPA := config.addrServer.setPort addrOther.getPort
      addrAP := addrOther.setPort config.addrServer.getPort }

/-- `ProcessResponse`. -/
def processResponse (config : StunClientLogicConfig) (results : StunClientResults)
    (spMsg : List UInt8) (addrLocal : CSocketAddress) (t : StunClientTest) :
    Except HRESULT (StunClientTest × StunClientResults) := do
  let reader ← t.basicReaderValidation spMsg
  let addrMapped ← StunClientTest.mappedAddressOf reader
  let addrOther := reader.getOtherAddress.toOption
  return ({ t with fCompleted := true },
    storeResponse config addrLocal addrMapped addrOther results)

/-- The test accepts exactly the responses that pass its checks, and is completed and stores its
results. -/
theorem processResponse_eq_ok_iff {config : StunClientLogicConfig} {results : StunClientResults}
    {spMsg : List UInt8} {addrLocal : CSocketAddress} {t : StunClientTest}
    {result : StunClientTest × StunClientResults} :
    processResponse config results spMsg addrLocal t = .ok result ↔
      ∃ reader, t.basicReaderValidation spMsg = .ok reader ∧
      ∃ addrMapped, StunClientTest.mappedAddressOf reader = .ok addrMapped ∧
        ({ t with fCompleted := true }, storeResponse config addrLocal addrMapped
          reader.getOtherAddress.toOption results) = result := by
  unfold processResponse
  simp only [except_bind_eq_ok_iff, pure, Except.pure, Except.ok.injEq]

/-- A response leaves the filtering result alone. -/
@[simp]
theorem storeResponse_filtering (config : StunClientLogicConfig)
    (addrLocal addrMapped : CSocketAddress) (addrOther : Option CSocketAddress)
    (results : StunClientResults) :
    (storeResponse config addrLocal addrMapped addrOther results).filtering =
      results.filtering := by
  cases addrOther <;> rfl

/-- `NotifyTimeout`. -/
def notifyTimeout (results : StunClientResults) (t : StunClientTest) :
    StunClientTest × StunClientResults :=
  ({ t with fCompleted := true }, { results with fBindingTestSuccess := false })

end CBasicBindingTest

/-! ## `CBehaviorTest` -/

namespace CBehaviorTest

/-- `PreRunCheck`. -/
def preRunCheck (fIsTest3 : Bool) (results : StunClientResults) (t : StunClientTest) :
    StunClientTest × StunClientResults :=
  if fIsTest3 = false ∧ results.fBindingTestSuccess ∧ results.fIsDirect then
    ({ t with fCompleted := true },
      { results with behavior := .directMapping, fBehaviorTestSuccess := true })
  else (t, results)

/-- `IsReadyToRun`. -/
def isReadyToRun (fIsTest3 : Bool) (results : StunClientResults) (t : StunClientTest) : Bool :=
  let fRet := t.fCompleted == false && results.fBindingTestSuccess && results.fHasOtherAddress &&
    results.fBehaviorTestSuccess == false
  if fIsTest3 then fRet && results.addrMappingAP.isIPAddressZero == false else fRet

/-- The results of a response with the mapped address `addrMapped`. -/
def storeResponse (fIsTest3 : Bool) (addrMapped : CSocketAddress) (results : StunClientResults) :
    StunClientResults :=
  if fIsTest3 then { results with
    addrMappingAA := addrMapped
    fBehaviorTestSuccess := true
    behavior := if addrMapped.isSameIP_and_Port results.addrMappingAP then .addressDependentMapping
      else .addressAndPortDependentMapping }
  else
    let results := { results with addrMappingAP := addrMapped }
    if addrMapped.isSameIP_and_Port results.addrMapped then { results with
      fBehaviorTestSuccess := true
      behavior := .endpointIndependentMapping }
    else results

/-- `ProcessResponse`. -/
def processResponse (fIsTest3 : Bool) (results : StunClientResults) (spMsg : List UInt8)
    (t : StunClientTest) : Except HRESULT (StunClientTest × StunClientResults) := do
  let reader ← t.basicReaderValidation spMsg
  let addrMapped ← StunClientTest.mappedAddressOf reader
  return ({ t with fCompleted := true }, storeResponse fIsTest3 addrMapped results)

/-- The test accepts exactly the responses that pass its checks, and is completed and stores its
results. -/
theorem processResponse_eq_ok_iff {fIsTest3 : Bool} {results : StunClientResults}
    {spMsg : List UInt8} {t : StunClientTest} {result : StunClientTest × StunClientResults} :
    processResponse fIsTest3 results spMsg t = .ok result ↔
      ∃ reader, t.basicReaderValidation spMsg = .ok reader ∧
      ∃ addrMapped, StunClientTest.mappedAddressOf reader = .ok addrMapped ∧
        ({ t with fCompleted := true }, storeResponse fIsTest3 addrMapped results) = result := by
  unfold processResponse
  simp only [except_bind_eq_ok_iff, pure, Except.pure, Except.ok.injEq]

/-- A response leaves the results of the other tests alone. -/
theorem storeResponse_frame (fIsTest3 : Bool) (addrMapped : CSocketAddress)
    (results : StunClientResults) :
    let results' := storeResponse fIsTest3 addrMapped results
    results'.filtering = results.filtering ∧
      results'.fBindingTestSuccess = results.fBindingTestSuccess ∧
      results'.fIsDirect = results.fIsDirect := by
  unfold storeResponse
  dsimp only
  split_ifs <;> exact ⟨rfl, rfl, rfl⟩

/-- `NotifyTimeout`. -/
def notifyTimeout (results : StunClientResults) (t : StunClientTest) :
    StunClientTest × StunClientResults :=
  ({ t with fCompleted := true }, { results with fBehaviorTestSuccess := false })

end CBehaviorTest

/-! ## `CFilteringTest` -/

namespace CFilteringTest

/-- `PreRunCheck`. -/
def preRunCheck (fIsTest3 : Bool) (results : StunClientResults) (t : StunClientTest) :
    StunClientTest × StunClientResults :=
  if fIsTest3 = false ∧ results.fBindingTestSuccess ∧ results.fIsDirect then
    ({ t with fCompleted := true },
      { results with filtering := .endpointIndependentFiltering, fFilteringTestSuccess := true })
  else (t, results)

/-- `IsReadyToRun`. -/
def isReadyToRun (results : StunClientResults) (t : StunClientTest) : Bool :=
  t.fCompleted == false && results.fBindingTestSuccess && results.fHasOtherAddress &&
    results.fFilteringTestSuccess == false && results.fGotTest2Response == false

/-- The CHANGE-REQUEST of the test: another IP address and port in test 2, another port of the same
IP address in test 3. -/
def change (fIsTest3 : Bool) : StunChangeRequestAttribute :=
  if fIsTest3 = false then { fChangeIP := true, fChangePort := true }
  else { fChangeIP := false, fChangePort := true }

/-- The results of a response, whatever is in it. -/
def storeResponse (fIsTest3 : Bool) (results : StunClientResults) : StunClientResults :=
  if fIsTest3 then { results with
    fGotTest3Response := true
    fFilteringTestSuccess := true
    filtering := .addressDependentFiltering }
  else { results with
    fGotTest2Response := true
    fFilteringTestSuccess := true
    filtering := .endpointIndependentFiltering }

/-- `ProcessResponse`. -/
def processResponse (fIsTest3 : Bool) (results : StunClientResults) (spMsg : List UInt8)
    (t : StunClientTest) : Except HRESULT (StunClientTest × StunClientResults) := do
  let _ ← t.basicReaderValidation spMsg
  return ({ t with fCompleted := true }, storeResponse fIsTest3 results)

/-- The test accepts exactly the responses that pass its checks, and is completed and stores its
results. -/
theorem processResponse_eq_ok_iff {fIsTest3 : Bool} {results : StunClientResults}
    {spMsg : List UInt8} {t : StunClientTest} {result : StunClientTest × StunClientResults} :
    processResponse fIsTest3 results spMsg t = .ok result ↔
      (∃ reader, t.basicReaderValidation spMsg = .ok reader) ∧
        ({ t with fCompleted := true }, storeResponse fIsTest3 results) = result := by
  unfold processResponse
  simp only [except_bind_eq_ok_iff, pure, Except.pure, Except.ok.injEq, exists_and_right]

/-- What the result of a response is. -/
theorem storeResponse_filtering (fIsTest3 : Bool) (results : StunClientResults) :
    (storeResponse fIsTest3 results).filtering =
      if fIsTest3 then .addressDependentFiltering else .endpointIndependentFiltering := by
  cases fIsTest3 <;> rfl

/-- `NotifyTimeout`. In test 3 no response means that there was none in test 2 either. -/
def notifyTimeout (fIsTest3 : Bool) (results : StunClientResults) (t : StunClientTest) :
    StunClientTest × StunClientResults :=
  ({ t with fCompleted := true },
    if fIsTest3 then { results with
      fFilteringTestSuccess := true
      filtering := .addressAndPortDependentFiltering }
    else results)

end CFilteringTest

/-! ## `IStunClientTest` -/

namespace StunClientTest

/-- `PreRunCheck`, which `CBasicBindingTest` has from its base class. -/
def preRunCheck (results : StunClientResults) (t : StunClientTest) :
    StunClientTest × StunClientResults :=
  match t.kind with
  | .basicBinding => (t, results)
  | .behavior fIsTest3 => CBehaviorTest.preRunCheck fIsTest3 results t
  | .filtering fIsTest3 => CFilteringTest.preRunCheck fIsTest3 results t

/-- `IsReadyToRun`. -/
def isReadyToRun (results : StunClientResults) (t : StunClientTest) : Bool :=
  match t.kind with
  | .basicBinding => CBasicBindingTest.isReadyToRun t
  | .behavior fIsTest3 => CBehaviorTest.isReadyToRun fIsTest3 results t
  | .filtering _ => CFilteringTest.isReadyToRun results t

/-- `GetMessage`, with the test, the request and its destination. -/
def getMessage (config : StunClientLogicConfig) (results : StunClientResults) (rand : ℕ → UInt8)
    (stack : StunTransactionId) (spMsg : CBuffer) (t : StunClientTest) :
    (StunClientTest × CBuffer) × CSocketAddress :=
  match t.kind with
  | .basicBinding => (t.getMessageWith rand stack spMsg {}, config.addrServer)
  | .behavior fIsTest3 => (t.getMessageWith rand stack spMsg {},
      if fIsTest3 = false then results.addrAP else results.addrAA)
  | .filtering fIsTest3 => (t.getMessageWith rand stack spMsg (CFilteringTest.change fIsTest3),
      config.addrServer)

/-- `ProcessResponse`. None of the tests looks at the address that the response is from. -/
def processResponse (config : StunClientLogicConfig) (results : StunClientResults)
    (spMsg : List UInt8) (addrLocal : CSocketAddress) (t : StunClientTest) :
    Except HRESULT (StunClientTest × StunClientResults) :=
  match t.kind with
  | .basicBinding => CBasicBindingTest.processResponse config results spMsg addrLocal t
  | .behavior fIsTest3 => CBehaviorTest.processResponse fIsTest3 results spMsg t
  | .filtering fIsTest3 => CFilteringTest.processResponse fIsTest3 results spMsg t

/-- `NotifyTimeout`. -/
def notifyTimeout (results : StunClientResults) (t : StunClientTest) :
    StunClientTest × StunClientResults :=
  match t.kind with
  | .basicBinding => CBasicBindingTest.notifyTimeout results t
  | .behavior _ => CBehaviorTest.notifyTimeout results t
  | .filtering fIsTest3 => CFilteringTest.notifyTimeout fIsTest3 results t

/-! ## What becomes of a test -/

/-- The early chance of a test completes it, or changes nothing. -/
theorem preRunCheck_cases (results : StunClientResults) (t : StunClientTest) :
    (t.preRunCheck results).1 = { t with fCompleted := true } ∨
      t.preRunCheck results = (t, results) := by
  unfold preRunCheck CBehaviorTest.preRunCheck CFilteringTest.preRunCheck
  split
  · exact .inr rfl
  · split_ifs
    · exact .inl rfl
    · exact .inr rfl
  · split_ifs
    · exact .inl rfl
    · exact .inr rfl

/-- A timeout completes a test. -/
theorem notifyTimeout_fst (results : StunClientResults) (t : StunClientTest) :
    (t.notifyTimeout results).1 = { t with fCompleted := true } := by
  obtain ⟨kind, fCompleted, transid⟩ := t
  cases kind <;> rfl

/-- A message that a test accepts as a response: the reader validates it, and it has the transaction
id of the test. -/
theorem basicReaderValidation_eq_ok_iff {spMsg : List UInt8} {t : StunClientTest}
    {reader : CStunMessageReader} : t.basicReaderValidation spMsg = .ok reader ↔
      (({} : CStunMessageReader).addBytes spMsg).1 = .bodyValidated ∧
      (({} : CStunMessageReader).addBytes spMsg).2.transactionid = t.transid ∧
      (({} : CStunMessageReader).addBytes spMsg).2 = reader := by
  unfold basicReaderValidation
  generalize ({} : CStunMessageReader).addBytes spMsg = result
  show (if result.1 ≠ .bodyValidated then _ else _) = _ ↔ _
  split_ifs with hstate htransid
  · simp [hstate]
  · simp [htransid]
  · rw [not_ne_iff] at hstate htransid
    simp [hstate, htransid]

/-- A response that a test accepts completes it. -/
theorem processResponse_eq_ok {config : StunClientLogicConfig} {results : StunClientResults}
    {spMsg : List UInt8} {addrLocal : CSocketAddress} {t : StunClientTest}
    {result : StunClientTest × StunClientResults}
    (h : t.processResponse config results spMsg addrLocal = .ok result) :
    result.1 = { t with fCompleted := true } ∧
      ∃ reader, t.basicReaderValidation spMsg = .ok reader := by
  unfold processResponse at h
  split at h
  · obtain ⟨reader, hreader, _, -, rfl⟩ := CBasicBindingTest.processResponse_eq_ok_iff.mp h
    exact ⟨rfl, reader, hreader⟩
  · obtain ⟨reader, hreader, _, -, rfl⟩ := CBehaviorTest.processResponse_eq_ok_iff.mp h
    exact ⟨rfl, reader, hreader⟩
  · obtain ⟨hreader, rfl⟩ := CFilteringTest.processResponse_eq_ok_iff.mp h
    exact ⟨rfl, hreader⟩

end StunClientTest

end Stun
