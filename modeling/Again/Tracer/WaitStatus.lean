import Mathlib.Tactic.SplitIfs
import Mathlib.Tactic.ByContra

/-!
# Wait statuses

`tracer_wait_status.rs`: classification of one raw `waitpid(__WALL)` status
word of x86_64 Linux. Only status words the ptrace protocol expects are
classified; every other bit pattern is refused with its own error.
-/

namespace Again.Tracer

/-- A final wait termination, shared by transport, lifecycle and records. -/
inductive LinuxWaitTermination where
  | exited (code : UInt8)
  | signaled (signal : UInt8) (coreDumped : Bool)
deriving DecidableEq

/-- Signals whose default action on x86_64 dumps core. -/
def coreDumpSignals : List UInt8 := [3, 4, 5, 6, 7, 8, 11, 24, 25, 31]

def LinuxWaitTermination.valid : LinuxWaitTermination → Bool
  | .exited _ => true
  | .signaled signal coreDumped =>
    decide (1 ≤ signal) && decide (signal ≤ 64) && (!coreDumped || coreDumpSignals.contains signal)

/-- Ptrace events admitted by the tracer; `PTRACE_EVENT_VFORK_DONE` is not enabled. -/
inductive LinuxPtraceEvent where
  | fork | vfork | clone | exec | exit | seccomp
deriving DecidableEq

def LinuxPtraceEvent.code : LinuxPtraceEvent → UInt16
  | .fork => 1
  | .vfork => 2
  | .clone => 3
  | .exec => 4
  | .exit => 6
  | .seccomp => 7

/-- Signal shape of a `PTRACE_EVENT_STOP`. -/
inductive EventStopSignalShape where
  | trapInitialChildOrInterrupt
  | jobControlGroupStop
deriving DecidableEq

structure EventStopCandidate where
  stopSignal : UInt8
  signalShape : EventStopSignalShape
deriving DecidableEq

inductive LinuxWaitStatusClass where
  | final (termination : LinuxWaitTermination)
  | syscallEntryOrExitStop
  | ptraceEvent (event : LinuxPtraceEvent)
  | ptraceEventStopRequiringContext (candidate : EventStopCandidate)
  | eventZeroStopRequiringSiginfo (stopSignal : UInt8)
  | continued
deriving DecidableEq

inductive LinuxWaitStatusDecodeError where
  | ptraceEventBitsOnNonStop
  | coreFlagWithoutSignal
  | reservedContinuationEncoding
  | invalidTerminationSignal (signal : UInt8)
  | signaledTerminationHasExitPayload
  | coreFlagForNonCoreDumpSignal (signal : UInt8)
  | invalidEventZeroStopSignal (stopSignal : UInt8)
  | ptraceEventSignalMismatch (eventCode : UInt16) (stopSignal : UInt8)
  | unsupportedPtraceEventVforkDone
  | ptraceEventStopSignalMismatch (stopSignal : UInt8)
  | unknownPtraceEvent (eventCode : UInt16)
deriving DecidableEq

def sigtrap : UInt8 := 5
/-- `SIGTRAP | 0x80`, the stop signal of a `PTRACE_O_TRACESYSGOOD` syscall stop. -/
def tracesysgoodStopSignal : UInt8 := 0x85
def maxSignal : UInt8 := 64

/-- SIGSTOP, SIGTSTP, SIGTTIN, SIGTTOU. -/
def isJobControlStopSignal (signal : UInt8) : Bool := [19, 20, 21, 22].contains signal

def decodePtraceEventStop (stopSignal : UInt8) :
    Except LinuxWaitStatusDecodeError LinuxWaitStatusClass :=
  if stopSignal = sigtrap then
    .ok (.ptraceEventStopRequiringContext ⟨stopSignal, .trapInitialChildOrInterrupt⟩)
  else if isJobControlStopSignal stopSignal then
    .ok (.ptraceEventStopRequiringContext ⟨stopSignal, .jobControlGroupStop⟩)
  else
    .error (.ptraceEventStopSignalMismatch stopSignal)

/-- An event stop must carry SIGTRAP. -/
def decodeEventWithTrap (event : LinuxPtraceEvent) (stopSignal : UInt8) :
    Except LinuxWaitStatusDecodeError LinuxWaitStatusClass :=
  if stopSignal ≠ sigtrap then .error (.ptraceEventSignalMismatch event.code stopSignal)
  else .ok (.ptraceEvent event)

def decodeLinuxPtraceStop (status : UInt32) :
    Except LinuxWaitStatusDecodeError LinuxWaitStatusClass :=
  let stopSignal : UInt8 := ((status >>> 8) &&& 0xff).toUInt8
  let eventCode : UInt16 := (status >>> 16).toUInt16
  if eventCode = 0 then
    if stopSignal = tracesysgoodStopSignal then .ok .syscallEntryOrExitStop
    else if stopSignal = 0 ∨ maxSignal < stopSignal then .error (.invalidEventZeroStopSignal stopSignal)
    else .ok (.eventZeroStopRequiringSiginfo stopSignal)
  else if eventCode = 1 then decodeEventWithTrap .fork stopSignal
  else if eventCode = 2 then decodeEventWithTrap .vfork stopSignal
  else if eventCode = 3 then decodeEventWithTrap .clone stopSignal
  else if eventCode = 4 then decodeEventWithTrap .exec stopSignal
  else if eventCode = 5 then
    if stopSignal ≠ sigtrap then .error (.ptraceEventSignalMismatch eventCode stopSignal)
    else .error .unsupportedPtraceEventVforkDone
  else if eventCode = 6 then decodeEventWithTrap .exit stopSignal
  else if eventCode = 7 then decodeEventWithTrap .seccomp stopSignal
  else if eventCode = 128 then decodePtraceEventStop stopSignal
  else .error (.unknownPtraceEvent eventCode)

def decodeLinuxTerminalSignal (status : UInt32) (lowByte : UInt8) :
    Except LinuxWaitStatusDecodeError LinuxWaitStatusClass :=
  let signal : UInt8 := lowByte &&& 0x7f
  let coreDumped : Bool := lowByte &&& 0x80 ≠ 0
  if signal = 0 ∨ maxSignal < signal then .error (.invalidTerminationSignal signal)
  else if status &&& 0x0000ff00 ≠ 0 then .error .signaledTerminationHasExitPayload
  else if coreDumped ∧ ¬ (LinuxWaitTermination.signaled signal coreDumped).valid then
    .error (.coreFlagForNonCoreDumpSignal signal)
  else .ok (.final (.signaled signal coreDumped))

/-- Classify one raw status; the `i32` word is read as its 32 bits. -/
def decodeLinuxWaitStatus (rawStatus : Int32) :
    Except LinuxWaitStatusDecodeError LinuxWaitStatusClass :=
  let status : UInt32 := rawStatus.toUInt32
  let lowByte : UInt8 := (status &&& 0xff).toUInt8
  -- event bits are legal only on a stop, and this conflict is refused first
  if status &&& 0xffff0000 ≠ 0 ∧ lowByte ≠ 0x7f then .error .ptraceEventBitsOnNonStop
  else if status = 0x0000ffff then .ok .continued
  else if lowByte = 0 then .ok (.final (.exited ((status >>> 8) &&& 0xff).toUInt8))
  else if lowByte = 0x80 then .error .coreFlagWithoutSignal
  else if lowByte = 0x7f then decodeLinuxPtraceStop status
  else if lowByte = 0xff then .error .reservedContinuationEncoding
  else decodeLinuxTerminalSignal status lowByte

end Again.Tracer
