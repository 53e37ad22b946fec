import Again.Lib.Words
import Again.Tracer.WaitWords

/-!
# Event messages

`tracer_event_message.rs`: decoding the eight bytes one successful
`PTRACE_GETEVENTMSG` writes for an already classified event.
-/

namespace Again.Tracer

open Lib

def maxPossibleTid : Nat := 4 * 1024 * 1024 - 1

/-- The `SECCOMP_RET_DATA` cookie of the trace-all filter, `tracer_seccomp.rs`. -/
def traceAllNativeSeccompCookie : Nat := 0xa731

inductive DecodedEventMessage where
  | childTid (rawTid : Int)
  | formerTid (rawTid : Int)
  | exitTermination (termination : LinuxWaitTermination)
  | seccompTraceCookieSchemaMatched
deriving DecidableEq

inductive EventMessageDecodeError where
  | upperWordNonzero
  | tidZero
  | tidExceedsLinuxLimit
  | exitMessageMalformed (error : LinuxWaitStatusDecodeError)
  | exitMessageIsNotFinal
  | seccompReservedBitsNonzero
  | seccompTraceCookieSchemaMismatch
deriving DecidableEq

def decodeTid (rawMessage : Nat) : Except EventMessageDecodeError Int :=
  if rawMessage = 0 then .error .tidZero
  else if rawMessage > maxPossibleTid then .error .tidExceedsLinuxLimit
  else .ok rawMessage

def decodeExitMessage (rawMessage : Nat) : Except EventMessageDecodeError DecodedEventMessage :=
  match decodeLinuxWaitStatus (UInt32.ofNat rawMessage).toInt32 with
  | .ok (.final termination) => .ok (.exitTermination termination)
  | .ok _ => .error .exitMessageIsNotFinal
  | .error error => .error (.exitMessageMalformed error)

def decodeSeccompCookie (rawMessage : Nat) : Except EventMessageDecodeError DecodedEventMessage :=
  if rawMessage > 0xffff then .error .seccompReservedBitsNonzero
  else if rawMessage ≠ traceAllNativeSeccompCookie then .error .seccompTraceCookieSchemaMismatch
  else .ok .seccompTraceCookieSchemaMatched

def decodeEventMessage (event : LinuxPtraceEvent) (bytes : Table 8 UInt8) :
    Except EventMessageDecodeError DecodedEventMessage :=
  let rawMessage := readLe bytes 0 8
  if rawMessage > 0xffffffff then .error .upperWordNonzero
  else match event with
    | .fork | .vfork | .clone => (decodeTid rawMessage).map .childTid
    | .exec => (decodeTid rawMessage).map .formerTid
    | .exit => decodeExitMessage rawMessage
    | .seccomp => decodeSeccompCookie rawMessage

/-! ## What the decoder promises -/

variable {rawMessage : Nat} {m : DecodedEventMessage}

theorem decodeTid_pos {tid : Int} (h : decodeTid rawMessage = .ok tid) : 0 < tid := by
  unfold decodeTid at h
  split at h
  · cases h
  · split at h
    · cases h
    · cases h
      omega

/-- The facts a decoded message carries: its TID is positive, its termination valid. -/
def DecodedEventMessage.Valid : DecodedEventMessage → Prop
  | .childTid tid => 0 < tid
  | .formerTid tid => 0 < tid
  | .exitTermination termination => termination.valid = true
  | .seccompTraceCookieSchemaMatched => True

theorem decodeExitMessage_valid (h : decodeExitMessage rawMessage = .ok m) : m.Valid := by
  unfold decodeExitMessage at h
  split at h
  · cases h
    exact decodeLinuxWaitStatus_final_valid ‹_›
  · cases h
  · cases h

theorem decodeSeccompCookie_valid (h : decodeSeccompCookie rawMessage = .ok m) : m.Valid := by
  unfold decodeSeccompCookie at h
  repeat' split at h
  all_goals cases h
  trivial

theorem decodeTid_map_valid {c : Int → DecodedEventMessage} (h : (decodeTid rawMessage).map c = .ok m)
    (hc : ∀ tid, 0 < tid → (c tid).Valid) : m.Valid := by
  cases ht : decodeTid rawMessage with
  | error e => rw [ht] at h; cases h
  | ok tid =>
    rw [ht] at h
    cases h
    exact hc tid (decodeTid_pos ht)

theorem decodeEventMessage_valid {event : LinuxPtraceEvent} {bytes : Table 8 UInt8}
    (h : decodeEventMessage event bytes = .ok m) : m.Valid := by
  unfold decodeEventMessage at h
  dsimp only at h
  split at h
  · cases h
  · cases event with
    | fork | vfork | clone | exec => exact decodeTid_map_valid h fun _ hpos => hpos
    | exit => exact decodeExitMessage_valid h
    | seccomp => exact decodeSeccompCookie_valid h

end Again.Tracer
