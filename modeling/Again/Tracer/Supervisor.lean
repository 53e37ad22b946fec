import Again.Lib.Session
import Again.Tracer.ForkDecode

/-!
# The stop planner

`tracer_supervisor_state.rs`: pure correlation of ptrace stops with the
responses they ask for. Every stop gets a fresh generation; the caller reads
what the planner asks for, hands the token back, and resumes a task only when
told to. The first refusal poisons the planner for good.

The kernel issuer permits carry no data and are left out; the session brand is
the value the process-wide counter had when the session began.
-/

namespace Again.Tracer

open Lib

abbrev maxPendingChildStops : Nat := maxTasks - 1

inductive SyscallInfoKind where
  | seccompEntry | syscallExit
deriving DecidableEq

inductive ResumeRequest where
  | continue | syscall
deriving DecidableEq

structure ResumeStep where
  sessionBrand : Nat
  rawTid : Int
  stopGeneration : Nat
  request : ResumeRequest
deriving DecidableEq

inductive ResumeStepPosition where
  | onlyOrChild | parent
deriving DecidableEq

inductive ResumeCursor where
  | one (step : ResumeStep)
  | childThenParent (child parent : ResumeStep)
  | parent (step : ResumeStep)
deriving DecidableEq

def ResumeCursor.current : ResumeCursor → ResumeStep × ResumeStepPosition
  | .one step => (step, .onlyOrChild)
  | .childThenParent child _ => (child, .onlyOrChild)
  | .parent step => (step, .parent)

def ResumeCursor.advanced : ResumeCursor → Option ResumeCursor
  | .one _ => none
  | .parent _ => none
  | .childThenParent _ step => some (.parent step)

/-! ## Tokens and intents -/

structure EventMessageRead where
  sessionBrand : Nat
  rawTid : Int
  stopGeneration : Nat
  event : LinuxPtraceEvent
deriving DecidableEq

structure SyscallInfoRead where
  sessionBrand : Nat
  rawTid : Int
  stopGeneration : Nat
  kind : SyscallInfoKind

structure StoppedSeccompTaskPermit where
  sessionBrand : Nat
  rawTid : Int
  stopGeneration : Nat
  frame : DecodedSeccompSyscallInfo

structure Clone3ArgsRead where
  sessionBrand : Nat
  rawTid : Int
  stopGeneration : Nat
  address : UInt64
  byteCount : Nat
  frame : DecodedSeccompSyscallInfo

structure ResumeIntent where
  sessionBrand : Nat
  position : ResumeStepPosition
  rawTid : Int
  stopGeneration : Nat
  request : ResumeRequest

inductive Intent where
  | readEventMessage (read : EventMessageRead)
  | readSyscallInfo (read : SyscallInfoRead)
  | holdStoppedSeccompTask (permit : StoppedSeccompTaskPermit)
  | readClone3Args (read : Clone3ArgsRead)
  | resume (intent : ResumeIntent)
  | waitForNextStop

inductive SupervisorReason where
  | invalidRawTid
  | sessionBrandExhausted
  | unknownRawTid
  | stopGenerationOverflow
  | transportSequenceOverflow
  | stopWhileExchangePending
  | waitStatusDecode (error : LinuxWaitStatusDecodeError)
  | continuedStatusUnsupported
  | eventZeroStopUnsupported
  | eventStopContextAmbiguous
  | childInitialStopCorrelationMissing
  | unexpectedSyscallStop
  | unexpectedPtraceEvent
  | eventMessageResponseOutOfOrder
  | eventMessageCorrelationMismatch
  | eventMessageDecode (error : EventMessageDecodeError)
  | eventMessageShapeMismatch
  | syscallInfoResponseOutOfOrder
  | syscallInfoCorrelationMismatch
  | syscallInfoDecode (error : SyscallInfoDecodeError)
  | syscallInfoShapeMismatch
  | seccompPermitResponseOutOfOrder
  | seccompPermitCorrelationMismatch
  | clone3ArgsReadResponseOutOfOrder
  | clone3ArgsReadCorrelationMismatch
  | clone3ArgsReadUnavailable
  | forkFamilyDecode (error : ForkFamilyDecodeError)
  | pendingForkCapacityExceeded
  | duplicatePendingFork
  | forkEventMismatch
  | duplicatePendingChildStop
  | pendingChildStopCapacityExceeded
  | childInitialStopCorrelationAmbiguous
  | resumeConfirmationOutOfOrder
  | resumeCorrelationMismatch
  | incompleteShutdown
  | taskState (reason : TaskExecuteOnlyReason)
deriving DecidableEq

inductive PendingExchange where
  | none
  | eventMessage (sessionBrand : Nat) (rawTid : Int) (stopGeneration : Nat) (event : LinuxPtraceEvent)
  | syscallInfo (sessionBrand : Nat) (rawTid : Int) (stopGeneration : Nat) (kind : SyscallInfoKind)
  | seccompPermit (sessionBrand : Nat) (rawTid : Int) (stopGeneration : Nat)
  | clone3ArgsRead (sessionBrand : Nat) (rawTid : Int) (stopGeneration : Nat) (address : UInt64)
      (byteCount : Nat)
  | resume (sessionBrand : Nat) (cursor : ResumeCursor)
deriving DecidableEq

/-- A creation syscall in flight; once announced, the child it waits for and the parent's stop. -/
structure PendingFork where
  rawTid : Int
  event : LinuxPtraceEvent
  observation : Option ForkFamilyBirthObservation
  heldChildRawTid : Int
  heldParentStopGeneration : Nat
deriving DecidableEq

def PendingFork.empty : PendingFork := ⟨0, .fork, none, 0, 0⟩

/-- The fork event is still to come. -/
def PendingFork.isAwaiting (pending : PendingFork) : Bool := pending.rawTid != 0 && pending.heldChildRawTid == 0

/-- A child that stopped before its parent announced it. -/
structure PendingChildStop where
  rawTid : Int
  stopGeneration : Nat
deriving DecidableEq

def PendingChildStop.empty : PendingChildStop := ⟨0, 0⟩

def PendingChildStop.isUsed (pending : PendingChildStop) : Bool := pending.rawTid != 0

structure SupervisorState where
  sessionBrand : Nat
  taskState : TaskStateRecorder
  pendingForks : Table maxTasks PendingFork
  pendingChildStops : Table maxPendingChildStops PendingChildStop
  nextStopGeneration : Nat
  nextTransportSequence : Nat
  exchange : PendingExchange
  poisoned : Option SupervisorReason

abbrev SupervisorM := EStateM SupervisorReason SupervisorState

namespace SupervisorState

/-- Start from one running traced task. -/
def begin (brandCounter : Nat) (initialRawTid : Int) (sink : EventSink) :
    Except SupervisorReason SupervisorState := do
  rejectIf (initialRawTid ≤ 0) .invalidRawTid
  rejectIf (checkedSucc brandCounter = none) .sessionBrandExhausted
  match TaskStateRecorder.observe (.initialBirth 1 initialRawTid) sink .new with
  | .error reason _ => .error (.taskState reason)
  | .ok _ taskState => .ok {
      sessionBrand := brandCounter
      taskState := taskState
      pendingForks := fun _ => .empty
      pendingChildStops := fun _ => .empty
      nextStopGeneration := 1
      nextTransportSequence := 2
      exchange := .none
      poisoned := none }

/-! ## Refusals -/

def poison {α : Type} (reason : SupervisorReason) : SupervisorM α := fun s =>
  match s.poisoned with
  | some first => .error first s
  | none => .error reason { s with poisoned := some reason }

def poisonIf (c : Prop) [Decidable c] (reason : SupervisorReason) : SupervisorM Unit :=
  if c then poison reason else pure ()

def okOrPoison {α : Type} (o : Option α) (reason : SupervisorReason) : SupervisorM α :=
  match o with
  | some a => pure a
  | none => poison reason

/-- A decoder's error poisons under the planner's own reason. -/
def decodeOrPoison {ε α : Type} (o : Except ε α) (reason : ε → SupervisorReason) : SupervisorM α :=
  match o with
  | .ok a => pure a
  | .error e => poison (reason e)

def requireHealthy : SupervisorM Unit := do
  match (← get).poisoned with
  | some reason => throw reason
  | none => pure ()

def emitTask (observation : TaskObservation) (sink : EventSink) : SupervisorM Unit := fun s =>
  match TaskStateRecorder.observe observation sink s.taskState with
  | .ok _ taskState => .ok () { s with taskState := taskState }
  | .error reason taskState => poison (.taskState reason) { s with taskState := taskState }

/-! ## Tables and counters -/

def pendingForkIndex (s : SupervisorState) (rawTid : Int) : Option (Fin maxTasks) :=
  s.pendingForks.position fun pending => pending.rawTid == rawTid

def emptyPendingForkIndex (s : SupervisorState) : Option (Fin maxTasks) :=
  s.pendingForks.position fun pending => pending.rawTid == 0

def awaitingForkEventCount (s : SupervisorState) : Nat :=
  s.pendingForks.count PendingFork.isAwaiting

def pendingChildStopCount (s : SupervisorState) : Nat :=
  s.pendingChildStops.count PendingChildStop.isUsed

def pendingChildStopIndex (s : SupervisorState) (rawTid : Int) : Option (Fin maxPendingChildStops) :=
  s.pendingChildStops.position fun pending => pending.rawTid == rawTid

def emptyPendingChildStopIndex (s : SupervisorState) : Option (Fin maxPendingChildStops) :=
  s.pendingChildStopIndex 0

@[simps -fullyApplied] def withFork (s : SupervisorState) (index : Fin maxTasks) (pending : PendingFork) :
    SupervisorState :=
  { s with pendingForks := s.pendingForks.put index pending }

@[simps -fullyApplied] def withStop (s : SupervisorState) (index : Fin maxPendingChildStops) (pending : PendingChildStop) :
    SupervisorState :=
  { s with pendingChildStops := s.pendingChildStops.put index pending }

@[simps -fullyApplied] def withExchange (s : SupervisorState) (exchange : PendingExchange) : SupervisorState :=
  { s with exchange := exchange }

def setPendingFork (index : Fin maxTasks) (pending : PendingFork) : SupervisorM Unit :=
  modify fun s => s.withFork index pending

def setPendingChildStop (index : Fin maxPendingChildStops) (pending : PendingChildStop) : SupervisorM Unit :=
  modify fun s => s.withStop index pending

def setExchange (exchange : PendingExchange) : SupervisorM Unit :=
  modify fun s => s.withExchange exchange

/-- The forks without the one of `rawTid`, if it has one. -/
def forksWithout (forks : Table maxTasks PendingFork) (rawTid : Int) : Table maxTasks PendingFork :=
  match forks.position fun pending => pending.rawTid == rawTid with
  | some index => forks.put index .empty
  | none => forks

@[simps -fullyApplied] def withoutPendingFork (s : SupervisorState) (rawTid : Int) : SupervisorState :=
  { s with pendingForks := forksWithout s.pendingForks rawTid }

def removePendingFork (rawTid : Int) : SupervisorM Unit := do
  modify fun s => s.withoutPendingFork rawTid
  let s ← get
  poisonIf (s.pendingChildStopCount > s.awaitingForkEventCount) .childInitialStopCorrelationAmbiguous

def allocateStopGeneration : SupervisorM Nat := do
  let generation := (← get).nextStopGeneration
  let next ← okOrPoison (checkedSucc generation) .stopGenerationOverflow
  modify fun s => { s with nextStopGeneration := next }
  pure generation

def allocateTransportSequence : SupervisorM Nat := do
  let sequence := (← get).nextTransportSequence
  let next ← okOrPoison (checkedSucc sequence) .transportSequenceOverflow
  modify fun s => { s with nextTransportSequence := next }
  pure sequence

/-! ## Issuing -/

def issueEventMessageRead (rawTid : Int) (stopGeneration : Nat) (event : LinuxPtraceEvent) :
    SupervisorM Intent := do
  let brand := (← get).sessionBrand
  setExchange (.eventMessage brand rawTid stopGeneration event)
  pure (.readEventMessage ⟨brand, rawTid, stopGeneration, event⟩)

def issueSyscallInfoRead (rawTid : Int) (stopGeneration : Nat) (kind : SyscallInfoKind) :
    SupervisorM Intent := do
  let brand := (← get).sessionBrand
  setExchange (.syscallInfo brand rawTid stopGeneration kind)
  pure (.readSyscallInfo ⟨brand, rawTid, stopGeneration, kind⟩)

def resumeStep (s : SupervisorState) (rawTid : Int) (stopGeneration : Nat) (request : ResumeRequest) :
    ResumeStep := ⟨s.sessionBrand, rawTid, stopGeneration, request⟩

def resumeIntent (cursor : ResumeCursor) : ResumeIntent :=
  let (step, position) := cursor.current
  ⟨step.sessionBrand, position, step.rawTid, step.stopGeneration, step.request⟩

def issueResumeCursor (cursor : ResumeCursor) : SupervisorM Intent := do
  setExchange (.resume (← get).sessionBrand cursor)
  pure (.resume (resumeIntent cursor))

def issueOneResume (rawTid : Int) (stopGeneration : Nat) (request : ResumeRequest) : SupervisorM Intent := do
  issueResumeCursor (.one ((← get).resumeStep rawTid stopGeneration request))

/-- Resume the child from its initial stop, then its parent from the fork event. -/
def issueChildThenParentResume (childRawTid : Int) (childStopGeneration : Nat) (parentRawTid : Int)
    (parentStopGeneration : Nat) : SupervisorM Intent := do
  let s ← get
  issueResumeCursor (.childThenParent (s.resumeStep childRawTid childStopGeneration .continue)
    (s.resumeStep parentRawTid parentStopGeneration .syscall))

/-! ## Stops -/

def acceptUnannouncedChildInitialStop (childRawTid : Int) (stopGeneration : Nat) (sink : EventSink) :
    SupervisorM Intent := do
  let s ← get
  poisonIf ((s.pendingChildStopIndex childRawTid).isSome = true) .duplicatePendingChildStop
  poisonIf (s.awaitingForkEventCount = 0) .eventStopContextAmbiguous
  poisonIf (s.pendingChildStopCount ≥ s.awaitingForkEventCount) .childInitialStopCorrelationAmbiguous
  let index ← okOrPoison s.emptyPendingChildStopIndex .pendingChildStopCapacityExceeded
  let sequence ← allocateTransportSequence
  emitTask (.childReady sequence childRawTid) sink
  setPendingChildStop index ⟨childRawTid, stopGeneration⟩
  pure .waitForNextStop

def acceptExactChildInitialStop (childRawTid : Int) (stopGeneration : Nat) (sink : EventSink) :
    SupervisorM Intent := do
  let s ← get
  poisonIf (s.taskState.isAnnouncedChildAwaitingReady childRawTid = false) .eventStopContextAmbiguous
  let parentIndex ← okOrPoison (s.pendingForks.position fun pending => pending.heldChildRawTid == childRawTid)
    .childInitialStopCorrelationMissing
  poisonIf (∃ i, parentIndex < i ∧ (s.pendingForks i).heldChildRawTid = childRawTid)
    .childInitialStopCorrelationAmbiguous
  let parent := s.pendingForks parentIndex
  let sequence ← allocateTransportSequence
  emitTask (.childReady sequence childRawTid) sink
  setPendingFork parentIndex .empty
  issueChildThenParentResume childRawTid stopGeneration parent.rawTid parent.heldParentStopGeneration

def validatePtraceEventForTask (rawTid : Int) (event : LinuxPtraceEvent) : SupervisorM Unit := do
  let s ← get
  match event with
  | .seccomp => poisonIf ((s.taskState.pendingSyscallNumber rawTid).isSome = true) .unexpectedPtraceEvent
  | .fork | .vfork | .clone =>
    let index ← okOrPoison (s.pendingForkIndex rawTid) .unexpectedPtraceEvent
    let pending := s.pendingForks index
    poisonIf (pending.heldChildRawTid ≠ 0 ∨ pending.event ≠ event) .forkEventMismatch
  | .exec =>
    poisonIf ((s.taskState.pendingSyscallNumber rawTid).any TaskStateRecorder.isExecSyscall = false)
      .unexpectedPtraceEvent
  | .exit => pure ()

/-- The stop shape a child's first stop has. -/
def isTrapEventStop : LinuxWaitStatusClass → Bool
  | .ptraceEventStopRequiringContext candidate => candidate.signalShape == .trapInitialChildOrInterrupt
  | _ => false

/-- A stop of a task the recorder does not know. -/
def observeUnknown (rawTid : Int) (status : LinuxWaitStatusClass) (sink : EventSink) : SupervisorM Intent :=
  match status with
  | .ptraceEventStopRequiringContext candidate =>
    if candidate.signalShape = .trapInitialChildOrInterrupt then do
      let stopGeneration ← allocateStopGeneration
      acceptUnannouncedChildInitialStop rawTid stopGeneration sink
    else poison .eventStopContextAmbiguous
  | _ => poison .unknownRawTid

/-- A stop of a live task or of an announced child, under a fresh generation. -/
def observeKnown (rawTid : Int) (status : LinuxWaitStatusClass) (stopGeneration : Nat) (sink : EventSink) :
    SupervisorM Intent :=
  match status with
  | .final termination => do
    let sequence ← allocateTransportSequence
    emitTask (.terminalReap sequence rawTid termination) sink
    removePendingFork rawTid
    pure .waitForNextStop
  | .syscallEntryOrExitStop => do
    poisonIf ((← get).taskState.pendingSyscallNumber rawTid = none) .unexpectedSyscallStop
    issueSyscallInfoRead rawTid stopGeneration .syscallExit
  | .ptraceEvent event => do
    validatePtraceEventForTask rawTid event
    issueEventMessageRead rawTid stopGeneration event
  | .ptraceEventStopRequiringContext candidate => do
    poisonIf (candidate.signalShape ≠ .trapInitialChildOrInterrupt) .eventStopContextAmbiguous
    acceptExactChildInitialStop rawTid stopGeneration sink
  | .eventZeroStopRequiringSiginfo _ => poison .eventZeroStopUnsupported
  | .continued => poison .continuedStatusUnsupported

def observeWait (rawTid : Int) (rawStatus : Int32) (sink : EventSink) : SupervisorM Intent := do
  requireHealthy
  poisonIf ((← get).exchange ≠ .none) .stopWhileExchangePending
  poisonIf (rawTid ≤ 0) .invalidRawTid
  let status ← decodeOrPoison (decodeLinuxWaitStatus rawStatus) .waitStatusDecode
  let s ← get
  let liveTask := s.taskState.containsLiveRawTid rawTid
  let announcedChild := s.taskState.isAnnouncedChildAwaitingReady rawTid
  if (liveTask || announcedChild) = false then observeUnknown rawTid status sink
  else
    poisonIf (announcedChild = true ∧ liveTask = false ∧ isTrapEventStop status = false)
      .eventStopContextAmbiguous
    let stopGeneration ← allocateStopGeneration
    observeKnown rawTid status stopGeneration sink

/-! ## Event messages -/

def acceptForkEventMessage (parentRawTid : Int) (stopGeneration : Nat) (event : LinuxPtraceEvent)
    (childRawTid : Int) (sink : EventSink) : SupervisorM Intent := do
  let s ← get
  let parentIndex ← okOrPoison (s.pendingForkIndex parentRawTid) .unexpectedPtraceEvent
  let pending := s.pendingForks parentIndex
  let observation ← okOrPoison pending.observation .forkEventMismatch
  poisonIf (pending.event ≠ event ∨ pending.heldChildRawTid ≠ 0) .forkEventMismatch
  poisonIf (∃ i, i ≠ parentIndex ∧ (s.pendingForks i).heldChildRawTid = childRawTid)
    .childInitialStopCorrelationAmbiguous
  let pendingChildIndex := s.pendingChildStopIndex childRawTid
  poisonIf (pendingChildIndex = none ∧ s.pendingChildStopCount ≥ s.awaitingForkEventCount)
    .childInitialStopCorrelationAmbiguous
  let sequence ← allocateTransportSequence
  emitTask (.childAnnouncement sequence parentRawTid childRawTid observation.kind observation.relation) sink
  match pendingChildIndex with
  | some childIndex =>
    let childStopGeneration := (s.pendingChildStops childIndex).stopGeneration
    setPendingChildStop childIndex .empty
    setPendingFork parentIndex .empty
    issueChildThenParentResume childRawTid childStopGeneration parentRawTid stopGeneration
  | none =>
    setPendingFork parentIndex
      { pending with heldChildRawTid := childRawTid, heldParentStopGeneration := stopGeneration }
    setExchange .none
    pure .waitForNextStop

def acceptDecodedEventMessage (rawTid : Int) (stopGeneration : Nat) (event : LinuxPtraceEvent)
    (decoded : DecodedEventMessage) (sink : EventSink) : SupervisorM Intent :=
  match event, decoded with
  | .seccomp, .seccompTraceCookieSchemaMatched => issueSyscallInfoRead rawTid stopGeneration .seccompEntry
  | .fork, .childTid childRawTid | .vfork, .childTid childRawTid | .clone, .childTid childRawTid =>
    acceptForkEventMessage rawTid stopGeneration event childRawTid sink
  | .exec, .formerTid formerRawTid => do
    let sequence ← allocateTransportSequence
    emitTask (.exec sequence rawTid formerRawTid) sink
    issueOneResume rawTid stopGeneration .syscall
  | .exit, .exitTermination termination => do
    let sequence ← allocateTransportSequence
    emitTask (.ptraceExitEvent sequence rawTid termination) sink
    removePendingFork rawTid
    issueOneResume rawTid stopGeneration .continue
  | _, _ => poison .eventMessageShapeMismatch

def acceptEventMessage (token : EventMessageRead) (bytes : Table 8 UInt8) (sink : EventSink) :
    SupervisorM Intent := do
  requireHealthy
  let s ← get
  match s.exchange with
  | .eventMessage sessionBrand rawTid stopGeneration event =>
    poisonIf (sessionBrand ≠ s.sessionBrand ∨ token.sessionBrand ≠ sessionBrand ∨ token.rawTid ≠ rawTid
      ∨ token.stopGeneration ≠ stopGeneration ∨ token.event ≠ event) .eventMessageCorrelationMismatch
    let decoded ← decodeOrPoison (decodeEventMessage event bytes) .eventMessageDecode
    acceptDecodedEventMessage rawTid stopGeneration event decoded sink
  | _ => poison .eventMessageResponseOutOfOrder

/-! ## Syscall info -/

def acceptDecodedSyscallInfo (rawTid : Int) (stopGeneration : Nat) (kind : SyscallInfoKind)
    (decoded : DecodedSyscallInfo) (sink : EventSink) : SupervisorM Intent :=
  match kind, decoded with
  | .seccompEntry, .seccomp frame => do
    let brand := (← get).sessionBrand
    setExchange (.seccompPermit brand rawTid stopGeneration)
    pure (.holdStoppedSeccompTask ⟨brand, rawTid, stopGeneration, frame⟩)
  | .syscallExit, .exit frame => do
    let sequence ← allocateTransportSequence
    emitTask (.syscallExit sequence rawTid frame.returnValue) sink
    removePendingFork rawTid
    issueOneResume rawTid stopGeneration .continue
  | _, _ => poison .syscallInfoShapeMismatch

def acceptSyscallInfo (token : SyscallInfoRead) (returnedByteCount : Nat) (buffer : SyscallInfoBuffer)
    (sink : EventSink) : SupervisorM Intent := do
  requireHealthy
  let s ← get
  match s.exchange with
  | .syscallInfo sessionBrand rawTid stopGeneration kind =>
    poisonIf (sessionBrand ≠ s.sessionBrand ∨ token.sessionBrand ≠ sessionBrand ∨ token.rawTid ≠ rawTid
      ∨ token.stopGeneration ≠ stopGeneration ∨ token.kind ≠ kind) .syscallInfoCorrelationMismatch
    let decoded ← decodeOrPoison (decodeSyscallInfo returnedByteCount buffer) .syscallInfoDecode
    acceptDecodedSyscallInfo rawTid stopGeneration kind decoded sink
  | _ => poison .syscallInfoResponseOutOfOrder

/-! ## Seccomp permits -/

/-- The fork event a creation entry announces, tried in the order fork, vfork, clone. -/
def decodePendingFork (syscallNumber : Nat) (arguments : Table 6 UInt64)
    (clone3Capture : Option (Nat × Table clone3ArgsBufferBytes UInt8)) :
    Except SupervisorReason (Option (LinuxPtraceEvent × ForkFamilyBirthObservation)) :=
  let capture : Clone3ArgsCapture := match clone3Capture with
    | some (copiedByteCount, buffer) => .exact copiedByteCount buffer
    | none => .notApplicable
  let rec tryEvents : List LinuxPtraceEvent →
      Except SupervisorReason (Option (LinuxPtraceEvent × ForkFamilyBirthObservation))
    | [] => .error (.forkFamilyDecode .ptraceEventMismatch)
    | event :: events =>
      match decodeForkFamilyEntry syscallNumber arguments capture event with
      | .ok observation => .ok (some (event, observation))
      | .error .ptraceEventMismatch => tryEvents events
      | .error error => .error (.forkFamilyDecode error)
  if TaskStateRecorder.isCreationSyscall syscallNumber = false then .ok none
  else tryEvents [.fork, .vfork, .clone]

def finishStoppedSeccompFrame (rawTid : Int) (stopGeneration : Nat) (frame : DecodedSeccompSyscallInfo)
    (clone3Capture : Option (Nat × Table clone3ArgsBufferBytes UInt8)) (sink : EventSink) :
    SupervisorM Intent := do
  let fork ← decodeOrPoison (decodePendingFork frame.syscallNumber frame.arguments clone3Capture) id
  let s ← get
  match fork with
  | some (event, observation) =>
    poisonIf ((s.pendingForkIndex rawTid).isSome = true) .duplicatePendingFork
    let index ← okOrPoison s.emptyPendingForkIndex .pendingForkCapacityExceeded
    let sequence ← allocateTransportSequence
    emitTask (.seccompEntry sequence rawTid frame.syscallNumber) sink
    setPendingFork index ⟨rawTid, event, some observation, 0, 0⟩
  | none =>
    let sequence ← allocateTransportSequence
    emitTask (.seccompEntry sequence rawTid frame.syscallNumber) sink
  issueOneResume rawTid stopGeneration .syscall

def consumeStoppedSeccompPermit (permit : StoppedSeccompTaskPermit) (sink : EventSink) : SupervisorM Intent := do
  requireHealthy
  let s ← get
  match s.exchange with
  | .seccompPermit sessionBrand rawTid stopGeneration =>
    poisonIf (sessionBrand ≠ s.sessionBrand ∨ permit.sessionBrand ≠ sessionBrand ∨ permit.rawTid ≠ rawTid
      ∨ permit.stopGeneration ≠ stopGeneration) .seccompPermitCorrelationMismatch
    if permit.frame.syscallNumber = clone3Nr then
      let readSpec ← decodeOrPoison (planClone3ArgsRead permit.frame.arguments) .forkFamilyDecode
      setExchange (.clone3ArgsRead s.sessionBrand rawTid stopGeneration readSpec.address readSpec.byteCount)
      pure (.readClone3Args
        ⟨s.sessionBrand, rawTid, stopGeneration, readSpec.address, readSpec.byteCount, permit.frame⟩)
    else finishStoppedSeccompFrame rawTid stopGeneration permit.frame none sink
  | _ => poison .seccompPermitResponseOutOfOrder

/-- Only an exact copy answers a `clone3` read. -/
def exactCapture : Clone3ArgsCapture → Except SupervisorReason (Nat × Table clone3ArgsBufferBytes UInt8)
  | .exact copiedByteCount buffer => .ok (copiedByteCount, buffer)
  | .unavailable => .error .clone3ArgsReadUnavailable
  | .notApplicable => .error (.forkFamilyDecode .unexpectedClone3Capture)

def acceptClone3ArgsRead (token : Clone3ArgsRead) (capture : Clone3ArgsCapture) (sink : EventSink) :
    SupervisorM Intent := do
  requireHealthy
  let s ← get
  match s.exchange with
  | .clone3ArgsRead sessionBrand rawTid stopGeneration address byteCount =>
    poisonIf (sessionBrand ≠ s.sessionBrand ∨ token.sessionBrand ≠ sessionBrand ∨ token.rawTid ≠ rawTid
      ∨ token.stopGeneration ≠ stopGeneration ∨ token.address ≠ address ∨ token.byteCount ≠ byteCount
      ∨ token.frame.syscallNumber ≠ clone3Nr ∨ token.frame.arguments 0 ≠ address
      ∨ (token.frame.arguments 1).toNat ≠ byteCount) .clone3ArgsReadCorrelationMismatch
    let exact_ ← decodeOrPoison (exactCapture capture) id
    finishStoppedSeccompFrame rawTid stopGeneration token.frame (some exact_) sink
  | _ => poison .clone3ArgsReadResponseOutOfOrder

/-! ## Resumes -/

def confirmResumeSucceeded (intent : ResumeIntent) : SupervisorM Intent := do
  requireHealthy
  let s ← get
  match s.exchange with
  | .resume sessionBrand cursor =>
    let (expected, position) := cursor.current
    poisonIf (sessionBrand ≠ s.sessionBrand ∨ expected.sessionBrand ≠ sessionBrand
      ∨ intent.sessionBrand ≠ sessionBrand ∨ intent.position ≠ position ∨ intent.rawTid ≠ expected.rawTid
      ∨ intent.stopGeneration ≠ expected.stopGeneration ∨ intent.request ≠ expected.request)
      .resumeCorrelationMismatch
    match cursor.advanced with
    | some nextCursor =>
      setExchange (.resume sessionBrand nextCursor)
      pure (.resume (resumeIntent nextCursor))
    | none =>
      setExchange .none
      pure .waitForNextStop
  | _ => poison .resumeConfirmationOutOfOrder

end SupervisorState

/-! ## Runs -/

/-- One call to the planner, with any token, buffer and sink answer. -/
inductive SupervisorCall where
  | observeWait (rawTid : Int) (rawStatus : Int32) (sink : EventSink)
  | acceptEventMessage (token : EventMessageRead) (bytes : Table 8 UInt8) (sink : EventSink)
  | acceptSyscallInfo (token : SyscallInfoRead) (returnedByteCount : Nat) (buffer : SyscallInfoBuffer)
      (sink : EventSink)
  | consumeStoppedSeccompPermit (permit : StoppedSeccompTaskPermit) (sink : EventSink)
  | acceptClone3ArgsRead (token : Clone3ArgsRead) (capture : Clone3ArgsCapture) (sink : EventSink)
  | confirmResumeSucceeded (intent : ResumeIntent)

def SupervisorCall.perform : SupervisorCall → SupervisorM Intent
  | .observeWait rawTid rawStatus sink => SupervisorState.observeWait rawTid rawStatus sink
  | .acceptEventMessage token bytes sink => SupervisorState.acceptEventMessage token bytes sink
  | .acceptSyscallInfo token returnedByteCount buffer sink =>
    SupervisorState.acceptSyscallInfo token returnedByteCount buffer sink
  | .consumeStoppedSeccompPermit permit sink => SupervisorState.consumeStoppedSeccompPermit permit sink
  | .acceptClone3ArgsRead token capture sink => SupervisorState.acceptClone3ArgsRead token capture sink
  | .confirmResumeSucceeded intent => SupervisorState.confirmResumeSucceeded intent

/-- A fresh session. -/
def SupervisorState.Begun (s : SupervisorState) : Prop :=
  ∃ brandCounter initialRawTid sink, SupervisorState.begin brandCounter initialRawTid sink = .ok s

/-- Any sequence of calls after `begin`, with the accepted ones and their intents, newest first. -/
abbrev SupervisorRun : List (SupervisorCall × Intent) → SupervisorState → Prop :=
  Session SupervisorCall.perform SupervisorState.Begun

end Again.Tracer
