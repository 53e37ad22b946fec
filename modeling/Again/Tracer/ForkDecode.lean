import Again.Tracer.SyscallInfo
import Again.Tracer.TaskState
import Mathlib.Data.Nat.Bitwise

/-!
# Fork-family entries

`tracer_fork_decode.rs`: from the argument words of a `fork`, `vfork`, `clone`
or `clone3` entry, and for `clone3` an exact copy of its argument block, to
the kind of birth the kernel will report.
-/

namespace Again.Tracer

open Lib

abbrev clone3ArgsBufferBytes : Nat := 88

inductive Clone3ArgsCapture where
  | notApplicable
  | unavailable
  | exact (copiedByteCount : Nat) (buffer : Table clone3ArgsBufferBytes UInt8)

/-- The bounded copy one `clone3` entry asks for. -/
structure Clone3ArgsReadSpec where
  address : UInt64
  byteCount : Nat
deriving DecidableEq

structure ForkFamilyBirthObservation where
  kind : TaskChildBirthKind
  relation : TaskGroupRelation
deriving DecidableEq

inductive ForkFamilyDecodeError where
  | unsupportedSyscall
  | unexpectedClone3Capture
  | clone3ArgsUnavailable
  | clone3NullArgsPointer
  | clone3DeclaredSizeTooSmall
  | clone3DeclaredSizeTooLarge
  | clone3DeclaredSizeAmbiguous
  | clone3CopiedByteCountMismatch
  | clone3UncopiedTailNonzero
  | legacyCloneHighFlagBitsNonzero
  | exitSignalOutOfRange
  | clone3SignalBitsInFlags
  | traceSuppressionFlag
  | reservedCloneFlag
  | unsupportedCloneFlags
  | invalidCloneFlagCombination
  | sharedThreadGroupWithExitSignal
  | vforkSharedThreadGroupUnsupported
  | legacyCloneInactiveFieldNonzero
  | clone3InactiveFieldNonzero
  | clone3ActiveFieldZero
  | clone3SetTidExternalReadUnsupported
  | clone3FlagRequiresNewerVersion
  | clone3StackShapeInvalid
  | clone3PidfdParentTidAlias
  | ptraceEventMismatch
deriving DecidableEq

/-! ## Clone flags -/

def csignalMask : UInt64 := 0x000000ff
def sigchld : UInt64 := 17
def maxSignalWord : UInt64 := 64

def cloneVm : UInt64 := 0x00000100
def cloneFs : UInt64 := 0x00000200
def cloneFiles : UInt64 := 0x00000400
def cloneSighand : UInt64 := 0x00000800
def clonePidfd : UInt64 := 0x00001000
def cloneVfork : UInt64 := 0x00004000
def cloneParent : UInt64 := 0x00008000
def cloneThread : UInt64 := 0x00010000
def cloneNewns : UInt64 := 0x00020000
def cloneSysvsem : UInt64 := 0x00040000
def cloneSettls : UInt64 := 0x00080000
def cloneParentSettid : UInt64 := 0x00100000
def cloneChildCleartid : UInt64 := 0x00200000
def cloneDetached : UInt64 := 0x00400000
def cloneUntraced : UInt64 := 0x00800000
def cloneChildSettid : UInt64 := 0x01000000
def cloneNewcgroup : UInt64 := 0x02000000
def cloneNewuts : UInt64 := 0x04000000
def cloneNewipc : UInt64 := 0x08000000
def cloneNewuser : UInt64 := 0x10000000
def cloneNewpid : UInt64 := 0x20000000
def cloneNewnet : UInt64 := 0x40000000
def cloneIo : UInt64 := 0x80000000
/-- Overlaps the signal byte of `clone`; admitted in the flags field of `clone3` only. -/
def cloneNewtime : UInt64 := 0x00000080
def cloneClearSighand : UInt64 := 0x100000000
def cloneIntoCgroup : UInt64 := 0x200000000

def legacyCloneAdmittedFlags : UInt64 :=
  cloneVm ||| cloneFs ||| cloneFiles ||| cloneSighand ||| clonePidfd ||| cloneVfork ||| cloneParent
    ||| cloneThread ||| cloneNewns ||| cloneSysvsem ||| cloneSettls ||| cloneParentSettid
    ||| cloneChildCleartid ||| cloneChildSettid ||| cloneNewcgroup ||| cloneNewuts ||| cloneNewipc
    ||| cloneNewuser ||| cloneNewpid ||| cloneNewnet ||| cloneIo

def clone3AdmittedFlags : UInt64 :=
  legacyCloneAdmittedFlags ||| cloneNewtime ||| cloneClearSighand ||| cloneIntoCgroup

/-- Some bit of `mask` is set. -/
def hasFlag (flags mask : UInt64) : Bool := flags &&& mask != 0

/-! ## Decoding -/

/-- A syscall has six arguments. -/
instance neZero_six : NeZero 6 := ⟨by decide⟩

/-- Validate the pointer and size of a `clone3` entry before asking for memory. -/
def planClone3ArgsRead (arguments : Table 6 UInt64) : Except ForkFamilyDecodeError Clone3ArgsReadSpec := do
  rejectIf (arguments 0 = 0) .clone3NullArgsPointer
  let declaredSize := (arguments 1).toNat
  rejectIf (declaredSize < 64) .clone3DeclaredSizeTooSmall
  rejectIf (declaredSize > 88) .clone3DeclaredSizeTooLarge
  rejectIf (¬ (declaredSize = 64 ∨ declaredSize = 80 ∨ declaredSize = 88)) .clone3DeclaredSizeAmbiguous
  pure ⟨arguments 0, declaredSize⟩

def requireNoClone3Capture : Clone3ArgsCapture → Except ForkFamilyDecodeError Unit
  | .notApplicable => .ok ()
  | .unavailable => .error .unexpectedClone3Capture
  | .exact _ _ => .error .unexpectedClone3Capture

def validateCommonFlags (flags exitSignal : UInt64) (clone3 : Bool) : Except ForkFamilyDecodeError Unit := do
  rejectIf (hasFlag flags cloneUntraced) .traceSuppressionFlag
  rejectIf (hasFlag flags cloneDetached) .reservedCloneFlag
  let admittedFlags := if clone3 then clone3AdmittedFlags else legacyCloneAdmittedFlags
  rejectIf (hasFlag flags (~~~admittedFlags)) .unsupportedCloneFlags
  rejectIf ((hasFlag flags cloneSighand && !hasFlag flags cloneVm)
    || (hasFlag flags cloneThread && !hasFlag flags cloneSighand)
    || (hasFlag flags cloneThread && hasFlag flags (cloneNewuser ||| cloneNewpid))
    || (hasFlag flags cloneNewns && hasFlag flags cloneFs)
    || (hasFlag flags cloneNewuser && hasFlag flags cloneFs)
    || (hasFlag flags cloneClearSighand && hasFlag flags cloneSighand)) .invalidCloneFlagCombination
  rejectIf (hasFlag flags cloneThread ∧ exitSignal ≠ 0) .sharedThreadGroupWithExitSignal
  -- Linux permits this pair, but shared groups are admitted for a `Clone` birth only
  rejectIf (flags &&& (cloneThread ||| cloneVfork) = cloneThread ||| cloneVfork)
    .vforkSharedThreadGroupUnsupported
  rejectIf (clone3 ∧ hasFlag flags cloneParent ∧ exitSignal ≠ 0) .invalidCloneFlagCombination

def validateLegacyCloneFields (flags : UInt64) (arguments : Table 6 UInt64) :
    Except ForkFamilyDecodeError Unit := do
  rejectIf (flags &&& (clonePidfd ||| cloneParentSettid) = clonePidfd ||| cloneParentSettid)
    .invalidCloneFlagCombination
  let parentWordIsActive := hasFlag flags (clonePidfd ||| cloneParentSettid)
  let childWordIsActive := hasFlag flags (cloneChildSettid ||| cloneChildCleartid)
  let tlsWordIsActive := hasFlag flags cloneSettls
  rejectIf ((!parentWordIsActive && arguments 2 != 0) || (!childWordIsActive && arguments 3 != 0)
    || (!tlsWordIsActive && arguments 4 != 0)) .legacyCloneInactiveFieldNonzero

structure Clone3Fields where
  flags : UInt64
  pidfd : UInt64
  childTid : UInt64
  parentTid : UInt64
  exitSignal : UInt64
  stack : UInt64
  stackSize : UInt64
  tls : UInt64
  setTid : UInt64
  setTidSize : UInt64
  cgroup : UInt64

def Clone3Fields.decode (buffer : Table clone3ArgsBufferBytes UInt8) : Clone3Fields where
  flags := readU64 buffer 0
  pidfd := readU64 buffer 8
  childTid := readU64 buffer 16
  parentTid := readU64 buffer 24
  exitSignal := readU64 buffer 32
  stack := readU64 buffer 40
  stackSize := readU64 buffer 48
  tls := readU64 buffer 56
  setTid := readU64 buffer 64
  setTidSize := readU64 buffer 72
  cgroup := readU64 buffer 80

def validateClone3Fields (fields : Clone3Fields) (declaredSize : Nat) : Except ForkFamilyDecodeError Unit := do
  let cgroupIsActive := hasFlag fields.flags cloneIntoCgroup
  rejectIf (cgroupIsActive ∧ declaredSize < 88) .clone3FlagRequiresNewerVersion
  rejectIf (cgroupIsActive ∧ fields.cgroup.toNat > 2 ^ 31 - 1) .invalidCloneFlagCombination
  let pidfdIsActive := hasFlag fields.flags clonePidfd
  let childTidIsActive := hasFlag fields.flags (cloneChildSettid ||| cloneChildCleartid)
  let parentTidIsActive := hasFlag fields.flags cloneParentSettid
  let tlsIsActive := hasFlag fields.flags cloneSettls
  rejectIf ((!pidfdIsActive && fields.pidfd != 0) || (!childTidIsActive && fields.childTid != 0)
    || (!parentTidIsActive && fields.parentTid != 0) || (!tlsIsActive && fields.tls != 0)
    || (!cgroupIsActive && fields.cgroup != 0)) .clone3InactiveFieldNonzero
  rejectIf ((pidfdIsActive && fields.pidfd == 0) || (childTidIsActive && fields.childTid == 0)
    || (parentTidIsActive && fields.parentTid == 0) || (tlsIsActive && fields.tls == 0))
    .clone3ActiveFieldZero
  rejectIf (fields.setTid ≠ 0 ∨ fields.setTidSize ≠ 0) .clone3SetTidExternalReadUnsupported
  rejectIf ((fields.stack == 0) ≠ (fields.stackSize == 0)) .clone3StackShapeInvalid
  rejectIf (pidfdIsActive ∧ parentTidIsActive ∧ fields.pidfd = fields.parentTid) .clone3PidfdParentTidAlias

def classifyCloneBirth (flags exitSignal : UInt64) : ForkFamilyBirthObservation where
  kind := if hasFlag flags cloneVfork then .vfork else if exitSignal ≠ sigchld then .clone else .fork
  relation := if hasFlag flags cloneThread then .sharesParentThreadGroup else .newThreadGroup

def decodeLegacyClone (arguments : Table 6 UInt64) :
    Except ForkFamilyDecodeError ForkFamilyBirthObservation := do
  let rawFlags := arguments 0
  rejectIf (rawFlags >>> 32 ≠ 0) .legacyCloneHighFlagBitsNonzero
  let exitSignal := rawFlags &&& csignalMask
  rejectIf (exitSignal > maxSignalWord) .exitSignalOutOfRange
  let flags := rawFlags &&& ~~~csignalMask
  validateCommonFlags flags exitSignal false
  validateLegacyCloneFields flags arguments
  pure (classifyCloneBirth flags exitSignal)

/-- Only an exact capture can be decoded. -/
def Clone3ArgsCapture.exactBytes :
    Clone3ArgsCapture → Except ForkFamilyDecodeError (Nat × Table clone3ArgsBufferBytes UInt8)
  | .exact copiedByteCount buffer => .ok (copiedByteCount, buffer)
  | .notApplicable => .error .clone3ArgsUnavailable
  | .unavailable => .error .clone3ArgsUnavailable

def decodeClone3 (arguments : Table 6 UInt64) (capture : Clone3ArgsCapture) :
    Except ForkFamilyDecodeError ForkFamilyBirthObservation := do
  let readSpec ← planClone3ArgsRead arguments
  let (copiedByteCount, buffer) ← capture.exactBytes
  rejectIf (copiedByteCount ≠ readSpec.byteCount) .clone3CopiedByteCountMismatch
  rejectIf (∃ i : Fin clone3ArgsBufferBytes, copiedByteCount ≤ i.val ∧ buffer i ≠ 0) .clone3UncopiedTailNonzero
  let fields := Clone3Fields.decode buffer
  rejectIf (fields.exitSignal > maxSignalWord) .exitSignalOutOfRange
  rejectIf (hasFlag fields.flags (csignalMask &&& ~~~cloneNewtime)) .clone3SignalBitsInFlags
  validateCommonFlags fields.flags fields.exitSignal true
  validateClone3Fields fields readSpec.byteCount
  pure (classifyCloneBirth fields.flags fields.exitSignal)

def ptraceEventMatchesBirthKind : LinuxPtraceEvent → TaskChildBirthKind → Bool
  | .fork, .fork => true
  | .vfork, .vfork => true
  | .clone, .clone => true
  | _, _ => false

/-- The birth a syscall entry announces, before the event is compared. -/
def decodeForkFamilyBirth (syscallNumber : Nat) (arguments : Table 6 UInt64) (clone3Capture : Clone3ArgsCapture) :
    Except ForkFamilyDecodeError ForkFamilyBirthObservation :=
  if syscallNumber = forkNr then do
    requireNoClone3Capture clone3Capture
    pure ⟨.fork, .newThreadGroup⟩
  else if syscallNumber = vforkNr then do
    requireNoClone3Capture clone3Capture
    pure ⟨.vfork, .newThreadGroup⟩
  else if syscallNumber = cloneNr then do
    requireNoClone3Capture clone3Capture
    decodeLegacyClone arguments
  else if syscallNumber = clone3Nr then decodeClone3 arguments clone3Capture
  else .error .unsupportedSyscall

def decodeForkFamilyEntry (syscallNumber : Nat) (arguments : Table 6 UInt64) (clone3Capture : Clone3ArgsCapture)
    (ptraceEvent : LinuxPtraceEvent) : Except ForkFamilyDecodeError ForkFamilyBirthObservation := do
  let observation ← decodeForkFamilyBirth syscallNumber arguments clone3Capture
  rejectIf (ptraceEventMatchesBirthKind ptraceEvent observation.kind = false) .ptraceEventMismatch
  pure observation

/-! ## What the decoder promises -/

/-- Both single-bit flags are set exactly when their union is. -/
theorem both_flags {flags : UInt64} (ht : hasFlag flags cloneThread = true) (hv : hasFlag flags cloneVfork = true) :
    flags &&& (cloneThread ||| cloneVfork) = cloneThread ||| cloneVfork := by
  have single : ∀ mask : UInt64, ∀ k, mask.toNat = 2 ^ k → hasFlag flags mask = true →
      flags.toNat &&& 2 ^ k = 2 ^ k := by
    intro mask k hk h
    have hne : flags.toNat &&& 2 ^ k ≠ 0 := by
      rw [← hk, ← UInt64.toNat_and]
      exact fun h0 => by simp [hasFlag, UInt64.toNat_inj.1 (h0.trans UInt64.toNat_zero.symm)] at h
    rw [Nat.and_two_pow] at hne ⊢
    cases hb : flags.toNat.testBit k <;> simp_all
  refine UInt64.toNat_inj.1 ?_
  rw [UInt64.toNat_and, UInt64.toNat_or, Nat.and_or_distrib_left]
  rw [show cloneThread.toNat = 2 ^ 16 from rfl, show cloneVfork.toNat = 2 ^ 14 from rfl,
    single cloneThread 16 rfl ht, single cloneVfork 14 rfl hv]

/-- A child that is not a `Clone` birth starts its own thread group. -/
theorem classifyCloneBirth_group {flags exitSignal : UInt64} {clone3 : Bool}
    (h : validateCommonFlags flags exitSignal clone3 = .ok ())
    (hk : (classifyCloneBirth flags exitSignal).kind ≠ .clone) :
    (classifyCloneBirth flags exitSignal).relation = .newThreadGroup := by
  simp only [validateCommonFlags, bind_eq_ok, rejectIf_eq_ok, exists_unit] at h
  obtain ⟨-, -, -, -, hsignal, hpair, -⟩ := h
  by_cases ht : hasFlag flags cloneThread = true
  · -- a shared group has no exit signal and is no vfork, so the birth is a `Clone`
    have h0 : exitSignal = 0 := by
      by_contra hne
      exact hsignal ⟨ht, hne⟩
    have hv : hasFlag flags cloneVfork = false := by
      by_contra hne
      exact hpair (both_flags ht (by simpa using hne))
    exact absurd (by simp [classifyCloneBirth, hv, h0, sigchld]) hk
  · simp [classifyCloneBirth, ht]

/-- The event the kernel reports a birth with. -/
def TaskChildBirthKind.event : TaskChildBirthKind → LinuxPtraceEvent
  | .fork => .fork
  | .vfork => .vfork
  | .clone => .clone

/-- The flags and the exit signal an entry runs with. -/
def cloneWords (syscallNumber : Nat) (arguments : Table 6 UInt64) (capture : Clone3ArgsCapture) : UInt64 × UInt64 :=
  if syscallNumber = forkNr then (0, sigchld)
  else if syscallNumber = vforkNr then (cloneVfork ||| cloneVm, sigchld)
  else if syscallNumber = cloneNr then (arguments 0 &&& ~~~csignalMask, arguments 0 &&& csignalMask)
  else match capture with
    | .exact _ buffer => (readU64 buffer 0, readU64 buffer 32)
    | _ => (0, 0)

variable {n : Nat} {arguments : Table 6 UInt64} {capture : Clone3ArgsCapture} {birth : ForkFamilyBirthObservation}

theorem decodeForkFamilyEntry_eq (event : LinuxPtraceEvent) : decodeForkFamilyEntry n arguments capture event =
    (decodeForkFamilyBirth n arguments capture).bind fun birth =>
      if event = birth.kind.event then .ok birth else .error .ptraceEventMismatch := by
  unfold decodeForkFamilyEntry
  cases decodeForkFamilyBirth n arguments capture with
  | error e => rfl
  | ok birth =>
    obtain ⟨kind, relation⟩ := birth
    cases event <;> cases kind <;> rfl

theorem decodeForkFamilyEntry_ok {event : LinuxPtraceEvent} : decodeForkFamilyEntry n arguments capture event = .ok birth ↔
    decodeForkFamilyBirth n arguments capture = .ok birth ∧ event = birth.kind.event := by
  rw [decodeForkFamilyEntry_eq]
  cases decodeForkFamilyBirth n arguments capture with
  | error e => simp [Except.bind]
  | ok b =>
    by_cases h : event = b.kind.event
    · simp only [Except.bind, if_pos h, Except.ok.injEq]
      exact ⟨fun hb => ⟨hb, hb ▸ h⟩, And.left⟩
    · simp only [Except.bind, if_neg h, Except.ok.injEq, reduceCtorEq, false_iff, not_and]
      exact fun hb => hb ▸ h

/-- Every birth is the classification of the entry's flags and exit signal, which passed the common checks. -/
theorem decodeForkFamilyBirth_ok (h : decodeForkFamilyBirth n arguments capture = .ok birth) :
    (∃ clone3, validateCommonFlags (cloneWords n arguments capture).1 (cloneWords n arguments capture).2 clone3 = .ok ()) ∧
      birth = classifyCloneBirth (cloneWords n arguments capture).1 (cloneWords n arguments capture).2 := by
  unfold decodeForkFamilyBirth at h
  unfold cloneWords
  split_ifs at h ⊢ with hfork hvfork hclone hclone3
  · cases capture <;> cases h
    exact ⟨⟨false, by decide⟩, by decide⟩
  · cases capture <;> cases h
    exact ⟨⟨false, by decide⟩, by decide⟩
  · cases capture <;> try cases h
    simp only [requireNoClone3Capture, ok_bind, decodeLegacyClone, bind_eq_ok, rejectIf_eq_ok, exists_unit, pure_eq_ok] at h
    obtain ⟨-, -, hflags, -, rfl⟩ := h
    exact ⟨⟨false, hflags⟩, rfl⟩
  · simp only [decodeClone3, bind_eq_ok, rejectIf_eq_ok, exists_unit, pure_eq_ok] at h
    obtain ⟨_, -, _, hbytes, -, -, -, -, hflags, -, rfl⟩ := h
    cases capture <;> cases hbytes
    exact ⟨⟨true, hflags⟩, rfl⟩

/-- What the tracer relies on once an entry was decoded: the syscall permits the birth, the event
announces it, and only a `Clone` birth can join its parent's thread group. -/
structure ForkFamilyBirthObservation.Promised (obs : ForkFamilyBirthObservation) (syscallNumber : Nat)
    (event : LinuxPtraceEvent) : Prop where
  permitted : TaskStateRecorder.creationSyscallPermits (some syscallNumber) obs.kind = true
  matched : ptraceEventMatchesBirthKind event obs.kind = true
  group : obs.kind ≠ .clone → obs.relation = .newThreadGroup

theorem decodeForkFamilyEntry_promised {event : LinuxPtraceEvent}
    (h : decodeForkFamilyEntry n arguments capture event = .ok birth) : birth.Promised n event := by
  obtain ⟨hbirth, rfl⟩ := decodeForkFamilyEntry_ok.1 h
  refine ⟨?_, ?_, fun hk => ?_⟩
  · unfold decodeForkFamilyBirth at hbirth
    split_ifs at hbirth with hn hn hn hn <;> subst hn
    · cases capture <;> cases hbirth
      rfl
    · cases capture <;> cases hbirth
      rfl
    · rfl
    · rfl
  · cases birth.kind <;> rfl
  · obtain ⟨⟨clone3, hflags⟩, rfl⟩ := decodeForkFamilyBirth_ok hbirth
    exact classifyCloneBirth_group hflags hk

end Again.Tracer
