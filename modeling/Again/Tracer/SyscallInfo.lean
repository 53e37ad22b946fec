import Again.Lib.Guards
import Again.Tracer.EventMessage

/-!
# Syscall-info records

`tracer_syscall_info.rs`: decoding the 84-byte buffer of one successful
`PTRACE_GET_SYSCALL_INFO`. Only the seccomp record (84 bytes) and the exit
record (33 bytes) of x86_64 are admitted.
-/

namespace Again.Tracer

open Lib

abbrev syscallInfoBufferBytes : Nat := 84
def exitBytes : Nat := 33
def seccompBytes : Nat := 84

def auditArchX8664 : Nat := 0xc000003e
def x32SyscallBit : Nat := 0x40000000
def maxErrno : Int := 4095

inductive SyscallInfoDecodeError where
  | unsupportedReturnedByteCount
  | unsupportedOperation
  | exitReturnedByteCountMismatch
  | seccompReturnedByteCountMismatch
  | headerReservedByteNonzero
  | headerFlagsNonzero
  | architectureMismatch
  | seccompSyscallNumberDoesNotFitU32
  | seccompSyscallNumberUsesX32Abi
  | seccompSyscallNumberNotCanonicalNative
  | seccompCookieMismatch
  | exitTailNonzero
  | exitIsErrorInvalid
  | exitResultShapeMismatch
deriving DecidableEq

structure DecodedSeccompSyscallInfo where
  instructionPointer : UInt64
  syscallNumber : Nat
  arguments : Table 6 UInt64

structure DecodedExitSyscallInfo where
  instructionPointer : UInt64
  returnValue : Int

inductive DecodedSyscallInfo where
  | seccomp (info : DecodedSeccompSyscallInfo)
  | exit (info : DecodedExitSyscallInfo)

abbrev SyscallInfoBuffer := Table syscallInfoBufferBytes UInt8

/-- `u64::from_le_bytes` at an offset. -/
def readU64 {n : Nat} (buffer : Table n UInt8) (offset : Nat) : UInt64 := UInt64.ofNat (readLe buffer offset 8)

/-- The same word as an `i64`. -/
def readI64 {n : Nat} (buffer : Table n UInt8) (offset : Nat) : Int := (readU64 buffer offset).toInt64.toInt

def validateCommonHeader (buffer : SyscallInfoBuffer) : Except SyscallInfoDecodeError Unit := do
  rejectIf (byteAt buffer 1 ≠ 0) .headerReservedByteNonzero
  rejectIf (readLe buffer 2 2 ≠ 0) .headerFlagsNonzero
  rejectIf (readLe buffer 4 4 ≠ auditArchX8664) .architectureMismatch

def decodeSeccomp (buffer : SyscallInfoBuffer) : Except SyscallInfoDecodeError DecodedSyscallInfo := do
  let rawSyscallNumber := readLe buffer 24 8
  rejectIf (rawSyscallNumber ≥ 2 ^ 32) .seccompSyscallNumberDoesNotFitU32
  rejectIf (rawSyscallNumber &&& x32SyscallBit ≠ 0) .seccompSyscallNumberUsesX32Abi
  -- the kernel sign-extends its `int`, so a zero-extended bit 31 is not canonical
  rejectIf (rawSyscallNumber > 2 ^ 31 - 1) .seccompSyscallNumberNotCanonicalNative
  rejectIf (readLe buffer 80 4 ≠ traceAllNativeSeccompCookie) .seccompCookieMismatch
  pure (.seccomp ⟨readU64 buffer 8, rawSyscallNumber, fun k => readU64 buffer (32 + k.val * 8)⟩)

/-- An `is_error` byte is 0 or 1. -/
def decodeIsError (byte : UInt8) : Except SyscallInfoDecodeError Bool :=
  if byte = 0 then .ok false else if byte = 1 then .ok true else .error .exitIsErrorInvalid

def hasErrnoShape (returnValue : Int) : Bool := decide (-maxErrno ≤ returnValue) && decide (returnValue ≤ -1)

def decodeExit (buffer : SyscallInfoBuffer) : Except SyscallInfoDecodeError DecodedSyscallInfo := do
  rejectIf (∃ i : Fin syscallInfoBufferBytes, exitBytes ≤ i.val ∧ buffer i ≠ 0) .exitTailNonzero
  let isError ← decodeIsError (byteAt buffer 32)
  let returnValue := readI64 buffer 24
  rejectIf (isError ≠ hasErrnoShape returnValue) .exitResultShapeMismatch
  pure (.exit ⟨readU64 buffer 8, returnValue⟩)

/-- Decode one caller-zeroed buffer with the byte count ptrace returned. -/
def decodeSyscallInfo (returnedByteCount : Nat) (buffer : SyscallInfoBuffer) :
    Except SyscallInfoDecodeError DecodedSyscallInfo :=
  if returnedByteCount ≠ exitBytes ∧ returnedByteCount ≠ seccompBytes then
    .error .unsupportedReturnedByteCount
  else if byteAt buffer 0 = 2 then do
    rejectIf (returnedByteCount ≠ exitBytes) .exitReturnedByteCountMismatch
    validateCommonHeader buffer
    decodeExit buffer
  else if byteAt buffer 0 = 3 then do
    rejectIf (returnedByteCount ≠ seccompBytes) .seccompReturnedByteCountMismatch
    validateCommonHeader buffer
    decodeSeccomp buffer
  else .error .unsupportedOperation

end Again.Tracer
