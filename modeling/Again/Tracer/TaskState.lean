import Again.Lib.Refusal
import Again.Lib.Table
import Again.Tracer.WaitStatus

/-!
# The task lifecycle recorder

`tracer_task_state.rs`: fixed-capacity lifecycle state of the traced tasks.
Raw TIDs are live correlation inputs; normalized events name logical task ids
only. The first refusal poisons the recorder for good.

`u64` counters and sequence numbers are `Nat` with the overflow checks the
code makes. A sink is the answer it gives to the one event a call may emit;
`observe` returns that event when the sink accepted it.
-/

namespace Again.Tracer

open Lib

abbrev maxTasks : Nat := 256

def cloneNr : Nat := 56
def forkNr : Nat := 57
def vforkNr : Nat := 58
def execveNr : Nat := 59
def exitNr : Nat := 60
def exitGroupNr : Nat := 231
def execveatNr : Nat := 322
def clone3Nr : Nat := 435

inductive TaskBirthKind where
  | initial | fork | vfork | clone
deriving DecidableEq

inductive TaskChildBirthKind where
  | fork | vfork | clone
deriving DecidableEq

inductive TaskGroupRelation where
  | newThreadGroup | sharesParentThreadGroup
deriving DecidableEq

def TaskChildBirthKind.normalized : TaskChildBirthKind → TaskBirthKind
  | .fork => .fork
  | .vfork => .vfork
  | .clone => .clone

inductive TaskNoReturnKind where
  | exit | exitGroup
deriving DecidableEq

/-- One control or kernel-derived transition. -/
inductive TaskObservation where
  | initialBirth (sequence : Nat) (rawTid : Int)
  | childAnnouncement (sequence : Nat) (parentRawTid childRawTid : Int) (kind : TaskChildBirthKind)
      (groupRelation : TaskGroupRelation)
  | childReady (sequence : Nat) (childRawTid : Int)
  | exec (sequence : Nat) (rawTid formerRawTid : Int)
  | seccompEntry (sequence : Nat) (rawTid : Int) (syscallNumber : Nat)
  | syscallExit (sequence : Nat) (rawTid result : Int)
  | ptraceExitEvent (sequence : Nat) (rawTid : Int) (termination : LinuxWaitTermination)
  | terminalReap (sequence : Nat) (rawTid : Int) (termination : LinuxWaitTermination)
deriving DecidableEq

def TaskObservation.sequence : TaskObservation → Nat
  | .initialBirth sequence _ => sequence
  | .childAnnouncement sequence _ _ _ _ => sequence
  | .childReady sequence _ => sequence
  | .exec sequence _ _ => sequence
  | .seccompEntry sequence _ _ => sequence
  | .syscallExit sequence _ _ => sequence
  | .ptraceExitEvent sequence _ _ => sequence
  | .terminalReap sequence _ _ => sequence

def TaskObservation.isInitialBirth : TaskObservation → Bool
  | .initialBirth _ _ => true
  | _ => false

inductive NormalizedTaskEvent where
  | birth (transportSequence logicalTaskId : Nat) (parentLogicalTaskId : Option Nat)
      (threadGroupLogicalTaskId : Nat) (kind : TaskBirthKind)
  | exec (transportSequence logicalTaskId syscallNumber : Nat)
  | seccompEntry (transportSequence logicalTaskId syscallNumber : Nat)
  | syscallExit (transportSequence logicalTaskId syscallNumber : Nat)
  | ptraceExitEvent (transportSequence logicalTaskId : Nat) (termination : LinuxWaitTermination)
      (resolvedNoReturn : Option TaskNoReturnKind)
  | terminalReap (transportSequence logicalTaskId : Nat) (termination : LinuxWaitTermination)
deriving DecidableEq

/-- A sink's answer to the event a call emits: `true` is `Ok(())`. -/
abbrev EventSink := NormalizedTaskEvent → Bool

inductive TaskExecuteOnlyReason where
  | sequenceMismatch | counterOverflow | invalidRawTid | unknownRawTid | duplicateRawTid
  | initialBirthRequired | duplicateInitialBirth | taskCapacityExceeded | parentNotRunning
  | selfParentTid | childAnnouncementWithoutEntry | childAnnouncementSyscallMismatch
  | duplicateChildAnnouncement | duplicateChildReady | childNotReady | missingChildAnnouncement
  | childResultMismatch | birthGroupRelationMismatch | duplicateExec | execWithoutEntry
  | execSyscallMismatch | execTidReplacementUnsupported | execThreadTeardownUnsupported
  | duplicateSeccompEntry | syscallExitWithoutEntry | syscallRestartUnsupported
  | noReturnResolutionRequired | missingExecEvent | execResultMismatch | outstandingSyscall
  | duplicatePtraceExit | lateLifecycleEvent | reapBeforePtraceExit | invalidTermination
  | terminationMismatch | sinkRejected | incompleteShutdown
deriving DecidableEq

inductive TaskPhase where
  | unused | running | exitObserved | reaped
deriving DecidableEq

structure TaskSlot where
  logicalTaskId : Nat
  threadGroupLogicalTaskId : Nat
  rawTid : Int
  phase : TaskPhase
  pendingSyscall : Option Nat
  childReadySeenForPending : Bool
  pendingChildRawTid : Int
  execEventSeenForPending : Bool
  execSeenEver : Bool
  termination : Option LinuxWaitTermination
deriving DecidableEq

def TaskSlot.empty : TaskSlot :=
  ⟨0, 0, 0, .unused, none, false, 0, false, false, none⟩

structure PendingChildAnnouncement where
  parentIndex : Fin maxTasks
  kind : TaskChildBirthKind
  groupRelation : TaskGroupRelation
deriving DecidableEq

structure PendingChildCorrelation where
  rawTid : Int
  announcement : Option PendingChildAnnouncement
  readySeen : Bool
deriving DecidableEq

def PendingChildCorrelation.empty : PendingChildCorrelation := ⟨0, none, false⟩

structure TaskCounters where
  acceptedTransitionCount : Nat
  initialBirthCount : Nat
  childAnnouncementCount : Nat
  childReadyCount : Nat
  forkBirthCount : Nat
  vforkBirthCount : Nat
  cloneBirthCount : Nat
  execCount : Nat
  seccompEntryCount : Nat
  syscallExitCount : Nat
  noReturnResolutionCount : Nat
  ptraceExitEventCount : Nat
  terminalReapCount : Nat
deriving DecidableEq

def TaskCounters.zero : TaskCounters := ⟨0, 0, 0, 0, 0, 0, 0, 0, 0, 0, 0, 0, 0⟩

inductive CounterKind where
  | initialBirth | childAnnouncement | childReady | exec | seccompEntry | syscallExit
  | ptraceExitEvent | terminalReap
deriving DecidableEq

/-- `u64::checked_add(1)`. -/
def checkedSucc (n : Nat) : Option Nat := if n + 1 < 2 ^ 64 then some (n + 1) else none

/-- `u32::checked_add(1)`. -/
def checkedSucc32 (n : Nat) : Option Nat := if n + 1 < 2 ^ 32 then some (n + 1) else none

/-- A checked increment, refusing with `CounterOverflow`. -/
def succOrOverflow (n : Nat) : Except TaskExecuteOnlyReason Nat :=
  match checkedSucc n with
  | some m => .ok m
  | none => .error .counterOverflow

def TaskCounters.incremented (c : TaskCounters) (kind : CounterKind) :
    Except TaskExecuteOnlyReason TaskCounters := do
  let c := { c with acceptedTransitionCount := ← succOrOverflow c.acceptedTransitionCount }
  match kind with
  | .initialBirth => return { c with initialBirthCount := ← succOrOverflow c.initialBirthCount }
  | .childAnnouncement =>
    return { c with childAnnouncementCount := ← succOrOverflow c.childAnnouncementCount }
  | .childReady => return { c with childReadyCount := ← succOrOverflow c.childReadyCount }
  | .exec => return { c with execCount := ← succOrOverflow c.execCount }
  | .seccompEntry => return { c with seccompEntryCount := ← succOrOverflow c.seccompEntryCount }
  | .syscallExit => return { c with syscallExitCount := ← succOrOverflow c.syscallExitCount }
  | .ptraceExitEvent =>
    return { c with ptraceExitEventCount := ← succOrOverflow c.ptraceExitEventCount }
  | .terminalReap => return { c with terminalReapCount := ← succOrOverflow c.terminalReapCount }

def TaskCounters.withCorrelatedBirth (c : TaskCounters) (kind : TaskChildBirthKind) :
    Except TaskExecuteOnlyReason TaskCounters := do
  match kind with
  | .fork => return { c with forkBirthCount := ← succOrOverflow c.forkBirthCount }
  | .vfork => return { c with vforkBirthCount := ← succOrOverflow c.vforkBirthCount }
  | .clone => return { c with cloneBirthCount := ← succOrOverflow c.cloneBirthCount }

def TaskCounters.withNoReturnResolution (c : TaskCounters) :
    Except TaskExecuteOnlyReason TaskCounters := do
  return { c with noReturnResolutionCount := ← succOrOverflow c.noReturnResolutionCount }

structure TaskStateRecorder where
  tasks : Table maxTasks TaskSlot
  pendingChildren : Table maxTasks PendingChildCorrelation
  slotsUsed : Nat
  nextLogicalTaskId : Nat
  nextTransportSequence : Nat
  counters : TaskCounters
  poisoned : Option TaskExecuteOnlyReason

abbrev RecorderM := EStateM TaskExecuteOnlyReason TaskStateRecorder

/-- What an accepted handler hands back: the event to emit and the next counters. -/
abbrev Accepted := Option NormalizedTaskEvent × TaskCounters

namespace TaskStateRecorder

def new : TaskStateRecorder where
  tasks := fun _ => .empty
  pendingChildren := fun _ => .empty
  slotsUsed := 0
  nextLogicalTaskId := 1
  nextTransportSequence := 1
  counters := .zero
  poisoned := none

/-! ## Lookups -/

def isLiveAt (r : TaskStateRecorder) (rawTid : Int) (i : Fin maxTasks) : Bool :=
  decide (i.val < r.slotsUsed) && (r.tasks i).rawTid == rawTid && (r.tasks i).phase != .reaped

def findLiveTask (r : TaskStateRecorder) (rawTid : Int) : Option (Fin maxTasks) :=
  Fin.find? (r.isLiveAt rawTid)

def containsLiveRawTid (r : TaskStateRecorder) (rawTid : Int) : Bool := (r.findLiveTask rawTid).isSome

def isAnnouncedChildAwaitingReady (r : TaskStateRecorder) (rawTid : Int) : Bool :=
  (r.pendingChildren.position fun pending =>
    pending.rawTid == rawTid && pending.announcement.isSome && !pending.readySeen).isSome

def pendingSyscallNumber (r : TaskStateRecorder) (rawTid : Int) : Option Nat :=
  (r.findLiveTask rawTid).bind fun index => (r.tasks index).pendingSyscall

def creationSyscallPermits (syscallNumber : Option Nat) (kind : TaskChildBirthKind) : Bool :=
  match syscallNumber with
  | some n =>
    if n = forkNr then kind == .fork
    else if n = vforkNr then kind == .vfork
    else decide (n = cloneNr) || decide (n = clone3Nr)
  | none => false

def isCreationSyscall (n : Nat) : Bool := [cloneNr, forkNr, vforkNr, clone3Nr].contains n

def isExecSyscall (n : Nat) : Bool := [execveNr, execveatNr].contains n

def isExitSyscall (n : Nat) : Bool := [exitNr, exitGroupNr].contains n

def isRestartResult (result : Int) : Bool := [-512, -513, -514, -516].contains result

def requirePositiveTid (rawTid : Int) : RecorderM Unit := refuseIf (rawTid ≤ 0) .invalidRawTid

def liveTaskIndex (rawTid : Int) : RecorderM (Fin maxTasks) := do
  requirePositiveTid rawTid
  okOr ((← get).findLiveTask rawTid) .unknownRawTid

def runningTaskIndex (rawTid : Int) : RecorderM (Fin maxTasks) := do
  let index ← liveTaskIndex rawTid
  match ((← get).tasks index).phase with
  | .running => pure index
  | .exitObserved => throw .lateLifecycleEvent
  | .unused | .reaped => throw .unknownRawTid

/-! ## Table updates -/

/-- A task as `insert_task` writes it. -/
def newTask (logicalTaskId : Nat) (rawTid : Int) (inheritedThreadGroup : Option Nat) : TaskSlot where
  logicalTaskId := logicalTaskId
  threadGroupLogicalTaskId := inheritedThreadGroup.getD logicalTaskId
  rawTid := rawTid
  phase := .running
  pendingSyscall := none
  childReadySeenForPending := false
  pendingChildRawTid := 0
  execEventSeenForPending := false
  execSeenEver := false
  termination := none

def withTask (r : TaskStateRecorder) (index : Fin maxTasks) (task : TaskSlot) : TaskStateRecorder :=
  { r with tasks := r.tasks.put index task }

def withChild (r : TaskStateRecorder) (index : Fin maxTasks) (pending : PendingChildCorrelation) :
    TaskStateRecorder :=
  { r with pendingChildren := r.pendingChildren.put index pending }

/-- The next slot taken by a new task. -/
def withNewTask (r : TaskStateRecorder) (h : r.slotsUsed < maxTasks) (rawTid : Int)
    (inheritedThreadGroup : Option Nat) : TaskStateRecorder :=
  { r with
    tasks := r.tasks.put ⟨r.slotsUsed, h⟩ (newTask r.nextLogicalTaskId rawTid inheritedThreadGroup)
    slotsUsed := r.slotsUsed + 1
    nextLogicalTaskId := r.nextLogicalTaskId + 1 }

def setTask (index : Fin maxTasks) (task : TaskSlot) : RecorderM Unit :=
  modify fun r => r.withTask index task

def setPendingChild (index : Fin maxTasks) (pending : PendingChildCorrelation) : RecorderM Unit :=
  modify fun r => r.withChild index pending

def insertTask (rawTid : Int) (inheritedThreadGroup : Option Nat) : RecorderM Nat := do
  requirePositiveTid rawTid
  let r ← get
  refuseIf ((r.findLiveTask rawTid).isSome = true) .duplicateRawTid
  if h : r.slotsUsed < maxTasks then
    let logicalTaskId := r.nextLogicalTaskId
    refuseIf (logicalTaskId = 0) .counterOverflow
    let nextLogicalTaskId ← okOr (checkedSucc32 logicalTaskId) .counterOverflow
    set { r.withNewTask h rawTid inheritedThreadGroup with nextLogicalTaskId := nextLogicalTaskId }
    pure logicalTaskId
  else
    throw .taskCapacityExceeded

def pendingChildCount (r : TaskStateRecorder) : Nat :=
  r.pendingChildren.count fun pending => pending.rawTid != 0

def pendingChildIndexOrInsert (rawTid : Int) : RecorderM (Fin maxTasks) := do
  let r ← get
  match r.pendingChildren.position fun pending => pending.rawTid == rawTid with
  | some index => pure index
  | none =>
    refuseIf (r.slotsUsed + r.pendingChildCount ≥ maxTasks) .taskCapacityExceeded
    let index ← okOr (r.pendingChildren.position fun pending => pending.rawTid == 0) .taskCapacityExceeded
    setPendingChild index ⟨rawTid, none, false⟩
    pure index

/-! ## Handlers -/

def observeInitialBirth (sequence : Nat) (rawTid : Int) : RecorderM Accepted := do
  refuseIf ((← get).slotsUsed ≠ 0) .duplicateInitialBirth
  let logicalTaskId ← insertTask rawTid none
  let counters ← attempt ((← get).counters.incremented .initialBirth)
  pure (some (.birth sequence logicalTaskId none logicalTaskId .initial), counters)

/-- Turn a pending child that is both announced and ready into a task. -/
def finishChildCorrelation (sequence : Nat) (pendingIndex : Fin maxTasks) (nextCounters : TaskCounters) :
    RecorderM Accepted := do
  let r ← get
  let pending := r.pendingChildren pendingIndex
  match pending.announcement with
  | none => pure (none, nextCounters)
  | some announcement =>
    if pending.readySeen = false then pure (none, nextCounters)
    else
      let parent := r.tasks announcement.parentIndex
      refuseIf (parent.phase ≠ .running) .parentNotRunning
      refuseIf (parent.pendingChildRawTid ≠ pending.rawTid
        ∨ creationSyscallPermits parent.pendingSyscall announcement.kind = false)
        .childAnnouncementSyscallMismatch
      let inheritedThreadGroup := match announcement.groupRelation with
        | .newThreadGroup => none
        | .sharesParentThreadGroup => some parent.threadGroupLogicalTaskId
      let logicalTaskId ← insertTask pending.rawTid inheritedThreadGroup
      setTask announcement.parentIndex
        { (← get).tasks announcement.parentIndex with childReadySeenForPending := true }
      setPendingChild pendingIndex .empty
      let counters ← attempt (nextCounters.withCorrelatedBirth announcement.kind)
      pure (some (.birth sequence logicalTaskId (some parent.logicalTaskId)
        (inheritedThreadGroup.getD logicalTaskId) announcement.kind.normalized), counters)

def observeChildAnnouncement (sequence : Nat) (parentRawTid childRawTid : Int)
    (kind : TaskChildBirthKind) (groupRelation : TaskGroupRelation) : RecorderM Accepted := do
  requirePositiveTid parentRawTid
  requirePositiveTid childRawTid
  refuseIf (parentRawTid = childRawTid) .selfParentTid
  let r ← get
  let parentIndex ← okOr (r.findLiveTask parentRawTid) .unknownRawTid
  let parent := r.tasks parentIndex
  refuseIf (parent.phase ≠ .running) .parentNotRunning
  let creationSyscall ← okOr parent.pendingSyscall .childAnnouncementWithoutEntry
  refuseIf (creationSyscallPermits (some creationSyscall) kind = false) .childAnnouncementSyscallMismatch
  refuseIf (parent.pendingChildRawTid ≠ 0) .duplicateChildAnnouncement
  refuseIf (kind ≠ .clone ∧ groupRelation ≠ .newThreadGroup) .birthGroupRelationMismatch
  refuseIf ((r.findLiveTask childRawTid).isSome = true) .duplicateRawTid
  let pendingIndex ← pendingChildIndexOrInsert childRawTid
  let pending := (← get).pendingChildren pendingIndex
  refuseIf (pending.announcement.isSome = true) .duplicateChildAnnouncement
  setPendingChild pendingIndex { pending with announcement := some ⟨parentIndex, kind, groupRelation⟩ }
  setTask parentIndex { parent with pendingChildRawTid := childRawTid }
  let nextCounters ← attempt ((← get).counters.incremented .childAnnouncement)
  finishChildCorrelation sequence pendingIndex nextCounters

def observeChildReady (sequence : Nat) (childRawTid : Int) : RecorderM Accepted := do
  requirePositiveTid childRawTid
  refuseIf (((← get).findLiveTask childRawTid).isSome = true) .duplicateChildReady
  let pendingIndex ← pendingChildIndexOrInsert childRawTid
  let pending := (← get).pendingChildren pendingIndex
  refuseIf (pending.readySeen = true) .duplicateChildReady
  setPendingChild pendingIndex { pending with readySeen := true }
  let nextCounters ← attempt ((← get).counters.incremented .childReady)
  finishChildCorrelation sequence pendingIndex nextCounters

/-- The live tasks of one thread group. -/
def liveGroupCount (r : TaskStateRecorder) (threadGroup : Nat) : Nat :=
  (Finset.univ.filter fun i : Fin maxTasks => i.val < r.slotsUsed ∧ (r.tasks i).rawTid > 0
    ∧ (r.tasks i).phase ≠ .reaped ∧ (r.tasks i).threadGroupLogicalTaskId = threadGroup).card

def observeExec (sequence : Nat) (rawTid formerRawTid : Int) : RecorderM Accepted := do
  requirePositiveTid formerRawTid
  refuseIf (rawTid ≠ formerRawTid) .execTidReplacementUnsupported
  let index ← runningTaskIndex rawTid
  let r ← get
  let task := r.tasks index
  let syscallNumber ← okOr task.pendingSyscall .execWithoutEntry
  refuseIf (isExecSyscall syscallNumber = false) .execSyscallMismatch
  refuseIf (task.execEventSeenForPending = true ∨ task.execSeenEver = true) .duplicateExec
  refuseIf (r.liveGroupCount task.threadGroupLogicalTaskId ≠ 1) .execThreadTeardownUnsupported
  setTask index { task with execEventSeenForPending := true, execSeenEver := true }
  let counters ← attempt (r.counters.incremented .exec)
  pure (some (.exec sequence task.logicalTaskId syscallNumber), counters)

/-- Forget the pending syscall and all that was correlated with it. -/
def clearPending (task : TaskSlot) : TaskSlot :=
  { task with
    pendingSyscall := none, childReadySeenForPending := false
    pendingChildRawTid := 0, execEventSeenForPending := false }

def observeSeccompEntry (sequence : Nat) (rawTid : Int) (syscallNumber : Nat) : RecorderM Accepted := do
  let index ← runningTaskIndex rawTid
  let r ← get
  let task := r.tasks index
  refuseIf (task.pendingSyscall.isSome = true) .duplicateSeccompEntry
  setTask index { clearPending task with pendingSyscall := some syscallNumber }
  let counters ← attempt (r.counters.incremented .seccompEntry)
  pure (some (.seccompEntry sequence task.logicalTaskId syscallNumber), counters)

/-- An exec event is followed by result 0, a failed exec by an errno. -/
def checkExecResult (execEventSeen : Bool) (result : Int) : Except TaskExecuteOnlyReason Unit :=
  if (execEventSeen = true ∧ result = 0) ∨ (execEventSeen = false ∧ -4095 ≤ result ∧ result ≤ -1) then .ok ()
  else if execEventSeen = false ∧ result = 0 then .error .missingExecEvent
  else .error .execResultMismatch

/-- A creation syscall returns an errno without a child, or the TID of its ready child. -/
def checkCreationResult (task : TaskSlot) (result : Int) : Except TaskExecuteOnlyReason Unit :=
  if (-4095 ≤ result ∧ result ≤ -1) ∧ task.pendingChildRawTid = 0 then .ok ()
  else if 1 ≤ result ∧ task.pendingChildRawTid = 0 then .error .missingChildAnnouncement
  else if 1 ≤ result ∧ task.childReadySeenForPending = false then .error .childNotReady
  else if 1 ≤ result ∧ result = task.pendingChildRawTid then .ok ()
  else .error .childResultMismatch

def observeSyscallExit (sequence : Nat) (rawTid result : Int) : RecorderM Accepted := do
  let index ← runningTaskIndex rawTid
  let r ← get
  let task := r.tasks index
  let syscallNumber ← okOr task.pendingSyscall .syscallExitWithoutEntry
  refuseIf (isRestartResult result = true) .syscallRestartUnsupported
  refuseIf (isExitSyscall syscallNumber = true) .noReturnResolutionRequired
  attempt (if isExecSyscall syscallNumber then checkExecResult task.execEventSeenForPending result
    else .ok ())
  attempt (if isCreationSyscall syscallNumber then checkCreationResult task result else .ok ())
  setTask index (clearPending task)
  let counters ← attempt (r.counters.incremented .syscallExit)
  pure (some (.syscallExit sequence task.logicalTaskId syscallNumber), counters)

/-- Which no-return syscall an exit event resolves. -/
def resolveNoReturn (termination : LinuxWaitTermination) (pendingSyscall : Option Nat) :
    Except TaskExecuteOnlyReason (Option TaskNoReturnKind) :=
  match termination, pendingSyscall with
  | .exited _, some n =>
    if n = exitNr then .ok (some .exit)
    else if n = exitGroupNr then .ok (some .exitGroup)
    else .error .outstandingSyscall
  | .exited _, none => .error .noReturnResolutionRequired
  | .signaled _ _, some _ => .error .outstandingSyscall
  | .signaled _ _, none => .ok none

def observePtraceExit (sequence : Nat) (rawTid : Int) (termination : LinuxWaitTermination) :
    RecorderM Accepted := do
  refuseIf (termination.valid = false) .invalidTermination
  let index ← liveTaskIndex rawTid
  let r ← get
  let task := r.tasks index
  match task.phase with
  | .exitObserved => throw .duplicatePtraceExit
  | .unused | .reaped => throw .unknownRawTid
  | .running =>
    let resolvedNoReturn ← attempt (resolveNoReturn termination task.pendingSyscall)
    setTask index { clearPending task with phase := .exitObserved, termination := some termination }
    let counters ← attempt (r.counters.incremented .ptraceExitEvent)
    let counters ← attempt (if resolvedNoReturn.isSome then counters.withNoReturnResolution else .ok counters)
    pure (some (.ptraceExitEvent sequence task.logicalTaskId termination resolvedNoReturn), counters)

def observeTerminalReap (sequence : Nat) (rawTid : Int) (termination : LinuxWaitTermination) :
    RecorderM Accepted := do
  refuseIf (termination.valid = false) .invalidTermination
  let index ← liveTaskIndex rawTid
  let r ← get
  let task := r.tasks index
  match task.phase with
  | .running => throw .reapBeforePtraceExit
  | .unused | .reaped => throw .unknownRawTid
  | .exitObserved =>
    refuseIf (task.termination ≠ some termination) .terminationMismatch
    setTask index { clearPending task with phase := .reaped, rawTid := 0 }
    let counters ← attempt (r.counters.incremented .terminalReap)
    pure (some (.terminalReap sequence task.logicalTaskId termination), counters)

def handle : TaskObservation → RecorderM Accepted
  | .initialBirth sequence rawTid => observeInitialBirth sequence rawTid
  | .childAnnouncement sequence parentRawTid childRawTid kind groupRelation =>
    observeChildAnnouncement sequence parentRawTid childRawTid kind groupRelation
  | .childReady sequence childRawTid => observeChildReady sequence childRawTid
  | .exec sequence rawTid formerRawTid => observeExec sequence rawTid formerRawTid
  | .seccompEntry sequence rawTid syscallNumber => observeSeccompEntry sequence rawTid syscallNumber
  | .syscallExit sequence rawTid result => observeSyscallExit sequence rawTid result
  | .ptraceExitEvent sequence rawTid termination => observePtraceExit sequence rawTid termination
  | .terminalReap sequence rawTid termination => observeTerminalReap sequence rawTid termination

/-- Record the first refusal and return it from then on. -/
def poison {α : Type} (reason : TaskExecuteOnlyReason) : RecorderM α := fun r =>
  match r.poisoned with
  | some first => .error first r
  | none => .error reason { r with poisoned := some reason }

/-- A refusal of `x` poisons the recorder as `x` left it. -/
def orPoison {α : Type} (x : RecorderM α) : RecorderM α := fun r =>
  match x r with
  | .ok a r' => .ok a r'
  | .error reason r' => poison reason r'

def observe (observation : TaskObservation) (sink : EventSink) : RecorderM (Option NormalizedTaskEvent) := do
  let r ← get
  match r.poisoned with
  | some reason => throw reason
  | none =>
    orPoison (refuseIf (observation.sequence ≠ r.nextTransportSequence) .sequenceMismatch)
    orPoison (refuseIf (r.slotsUsed = 0 ∧ observation.isInitialBirth = false) .initialBirthRequired)
    let nextTransportSequence ← orPoison (okOr (checkedSucc r.nextTransportSequence) .counterOverflow)
    let (event, nextCounters) ← orPoison (handle observation)
    orPoison (refuseIf (event.any (fun e => !sink e) = true) .sinkRejected)
    modify fun r => { r with counters := nextCounters, nextTransportSequence := nextTransportSequence }
    pure event

end TaskStateRecorder

end Again.Tracer
