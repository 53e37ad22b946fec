import Again.Lib.ClassicBpf
import Again.Lib.Guards
import Mathlib.Data.Nat.Bitwise

/-!
# The workload filter

`execute_only_seccomp.rs`: the system call filter the workload runs under. It
is built from two lists of system calls, and what the kernel hands back is
checked instruction by instruction before it is compared with what was built.
-/

namespace Again.Tracer

open Lib ClassicBpf

def seccompDataNrOffsetV1 : UInt32 := 0
def seccompDataArchOffsetV1 : UInt32 := 4
def auditArchX8664V1 : UInt32 := 0xc000003e
def x32SyscallBitV1 : UInt32 := 0x40000000
def seccompRetKillProcessV1 : UInt32 := 0x80000000
def seccompRetTraceV1 : UInt32 := 0x7ff00000
def workloadTraceCookieV1 : UInt16 := 0xb503
def workloadTraceResultV1 : UInt32 := seccompRetTraceV1 ||| workloadTraceCookieV1.toUInt32
def workloadFilterMaxInstructionsV1 : Nat := 256

structure LinuxSeccompDataX8664V1 where
  syscallNumber : Int32
  architecture : UInt32
  instructionPointer : UInt64
  arguments : Vector UInt64 6

/-- The words of the structure as the kernel lays them out. -/
def LinuxSeccompDataX8664V1.words (data : LinuxSeccompDataX8664V1) : List UInt32 :=
  [data.syscallNumber.toUInt32, data.architecture] ++
    (data.instructionPointer :: data.arguments.toList).flatMap fun word : UInt64 => [word.toUInt32, (word >>> 32).toUInt32]

def LinuxSeccompDataX8664V1.load (data : LinuxSeccompDataX8664V1) (offset : UInt32) : Option UInt32 :=
  if offset % 4 = 0 then data.words[offset.toNat / 4]? else none

def stmtV1 (code : UInt16) (operand : UInt32) : Instruction := ⟨code, 0, 0, operand⟩

def jumpV1 (code : UInt16) (operand : UInt32) (jumpTrue jumpFalse : UInt8) : Instruction :=
  ⟨code, jumpTrue, jumpFalse, operand⟩

/-- Trace one system call, or go on behind the return. -/
def traceBlock (number : UInt32) : List Instruction :=
  [jumpV1 jmpJeqK number 0 1, stmtV1 retK workloadTraceResultV1]

def workloadFilterPrefix : List Instruction :=
  [stmtV1 ldWAbs seccompDataArchOffsetV1, jumpV1 jmpJeqK auditArchX8664V1 1 0, stmtV1 retK seccompRetKillProcessV1,
    stmtV1 ldWAbs seccompDataNrOffsetV1, jumpV1 jmpJsetK x32SyscallBitV1 0 1, stmtV1 retK seccompRetKillProcessV1]

section

variable (traced control : List UInt32)

def buildWorkloadFilterV1 : List Instruction :=
  workloadFilterPrefix ++ traced.flatMap traceBlock ++ control.flatMap traceBlock ++
    [stmtV1 retK seccompRetKillProcessV1]

def workloadFilterInstructionCountV1 : Nat := 6 + traced.length * 2 + (control.length * 2 + 1)

inductive FilterVerificationRefusalV1 where
  | instructionCount | invalidOpcode | invalidLoad | invalidJump | invalidReturn | unreachableInstruction
deriving DecidableEq

/-- The checks of one instruction: how many it may skip, a load none. -/
def jumps (i : Instruction) : Except FilterVerificationRefusalV1 (List UInt8) :=
  if i.code = ldWAbs then do
    rejectIf (i.jumpTrue ≠ 0 ∨ i.jumpFalse ≠ 0 ∨
      ¬ (i.operand = seccompDataNrOffsetV1 ∨ i.operand = seccompDataArchOffsetV1)) .invalidLoad
    pure [0]
  else if i.code = jmpJeqK ∨ i.code = jmpJsetK then pure [i.jumpTrue, i.jumpFalse]
  else if i.code = retK then do
    rejectIf (i.jumpTrue ≠ 0 ∨ i.jumpFalse ≠ 0 ∨
      ¬ (i.operand = seccompRetKillProcessV1 ∨ i.operand = workloadTraceResultV1)) .invalidReturn
    pure []
  else .error .invalidOpcode

def successors (length index : Nat) (i : Instruction) : Except FilterVerificationRefusalV1 (List Nat) := do
  (← jumps i).mapM fun jump => do
    let target := index + (1 + jump.toNat)
    rejectIf (¬ (index < target ∧ target < length)) .invalidJump
    pure target

/-- The marks after one pass over the instructions from `index` on. -/
def markReachable (length : Nat) : Nat → List Instruction → (Nat → Bool) → Except FilterVerificationRefusalV1 (Nat → Bool)
  | _, [], reachable => .ok reachable
  | index, i :: rest, reachable =>
    if reachable index then do
      let targets ← successors length index i
      markReachable length (index + 1) rest fun k => reachable k || targets.contains k
    else markReachable length (index + 1) rest reachable

/-- `verify_filter_v1` up to the fingerprint. -/
def verifyFilterV1 (program : List Instruction) : Except FilterVerificationRefusalV1 Unit := do
  rejectIf (program.length ≠ workloadFilterInstructionCountV1 traced control ∨
    workloadFilterMaxInstructionsV1 < program.length) .instructionCount
  let reachable ← markReachable program.length 0 program (· == 0)
  rejectIf ((List.range program.length).any (fun index => !reachable index)) .unreachableInstruction

end

/-! ## The built filter -/

variable {traced control : List UInt32} {data : LinuxSeccompDataX8664V1}

theorem run_traceBlocks (load : UInt32 → Option UInt32) (number : UInt32) (numbers : List UInt32)
    (before : List Instruction)
    {steps : Nat} (hsteps : numbers.length + 1 < steps) :
    run load (before ++ (numbers.flatMap traceBlock ++ [stmtV1 retK seccompRetKillProcessV1])) steps before.length number =
      some (if number ∈ numbers then workloadTraceResultV1 else seccompRetKillProcessV1) := by
  induction numbers generalizing before steps with
  | nil =>
    obtain ⟨steps, rfl⟩ : ∃ k, steps = k + 1 := ⟨steps - 1, by omega⟩
    simp only [List.flatMap_nil, List.nil_append, run, step_append]
    rfl
  | cons n numbers ih =>
    rw [List.length_cons] at hsteps
    obtain ⟨steps, rfl⟩ : ∃ k, steps = k + 2 := ⟨steps - 2, by omega⟩
    have hjump : (jumpV1 jmpJeqK n 0 1).execute load before.length number =
        .next (before.length + 1 + (if number == n then (0 : UInt8) else 1).toNat) number := rfl
    rw [List.flatMap_cons, List.append_assoc, run, traceBlock, List.cons_append, step_append, hjump]
    by_cases hn : number = n
    · -- the return right behind the jump
      subst hn
      have hret : ∀ rest : List Instruction, step load (before ++ jumpV1 jmpJeqK number 0 1 ::
          stmtV1 retK workloadTraceResultV1 :: rest) (before.length + 1) number = .result workloadTraceResultV1 := by
        simp [step]
        rfl
      simp [run, hret]
    · have hrest := ih (before ++ traceBlock n) (show numbers.length + 1 < steps + 1 by omega)
      simpa [traceBlock, hn] using hrest

theorem and_x32SyscallBit {number : UInt32} (h : number < x32SyscallBitV1) : number &&& x32SyscallBitV1 = 0 := by
  rw [← UInt32.toNat_inj, UInt32.toNat_and]
  have hbit : x32SyscallBitV1.toNat = 2 ^ 30 := rfl
  rw [hbit, Nat.and_two_pow, Nat.testBit_lt_two_pow h]
  rfl

theorem run_buildWorkloadFilterV1 :
    run data.load (buildWorkloadFilterV1 traced control) (buildWorkloadFilterV1 traced control).length 0 0 =
      some (if data.architecture = auditArchX8664V1 ∧ data.syscallNumber.toUInt32 &&& x32SyscallBitV1 = 0 ∧
          data.syscallNumber.toUInt32 ∈ traced ++ control then workloadTraceResultV1 else seccompRetKillProcessV1) := by
  have hprogram : buildWorkloadFilterV1 traced control =
      workloadFilterPrefix ++ ((traced ++ control).flatMap traceBlock ++ [stmtV1 retK seccompRetKillProcessV1]) := by
    simp [buildWorkloadFilterV1]
  have hlength : (buildWorkloadFilterV1 traced control).length = (2 * (traced ++ control).length + 3) + 4 := by
    simp [buildWorkloadFilterV1, workloadFilterPrefix, traceBlock]
    omega
  have hblocks := run_traceBlocks data.load data.syscallNumber.toUInt32 (traced ++ control) workloadFilterPrefix
    (show (traced ++ control).length + 1 < 2 * (traced ++ control).length + 3 by omega)
  rw [hlength, hprogram]
  generalize (traced ++ control).flatMap traceBlock ++ [stmtV1 retK seccompRetKillProcessV1] = rest at hblocks ⊢
  rw [run_next (show step data.load (workloadFilterPrefix ++ rest) 0 0 = .next 1 data.architecture from rfl)]
  have harch : step data.load (workloadFilterPrefix ++ rest) 1 data.architecture =
      .next (2 + (if data.architecture == auditArchX8664V1 then (1 : UInt8) else 0).toNat) data.architecture := rfl
  rw [run_next harch]
  by_cases hnative : data.architecture = auditArchX8664V1
  · rw [if_pos (beq_iff_eq.mpr hnative), show 2 + (1 : UInt8).toNat = 3 from rfl,
      run_next (show step data.load (workloadFilterPrefix ++ rest) 3 data.architecture = .next 4 _ from rfl)]
    have hbit : step data.load (workloadFilterPrefix ++ rest) 4 data.syscallNumber.toUInt32 = .next (5 +
        (if data.syscallNumber.toUInt32 &&& x32SyscallBitV1 != 0 then (0 : UInt8) else 1).toNat) _ := rfl
    rw [run_next hbit]
    by_cases hx32 : data.syscallNumber.toUInt32 &&& x32SyscallBitV1 = 0
    · simp only [hnative, hx32, true_and]
      exact hblocks
    · rw [if_pos (bne_iff_ne.mpr hx32), if_neg (fun h => hx32 h.2.1)]
      exact run_result rfl
  · rw [if_neg (by simpa using hnative), if_neg (fun h => hnative h.1)]
    exact run_result rfl

/-! ## Checked programs -/

variable {program : List Instruction} {length index : Nat} {i : Instruction} {targets : List Nat}

theorem successors_ok (h : successors length index i = .ok targets) : ∃ js, jumps i = .ok js ∧
    (∀ jump ∈ js, index + 1 + jump.toNat < length) ∧ ∀ target ∈ targets, index < target := by
  obtain ⟨js, hjs, htargets⟩ := bind_eq_ok.mp h
  refine ⟨js, hjs, ?_, ?_⟩
  · intro jump hmem
    obtain ⟨target, htarget⟩ := mapM_isOk_iff.mp ⟨targets, htargets⟩ jump hmem
    simp only [bind_eq_ok, rejectIf_eq_ok, not_not, exists_unit, ← Nat.add_assoc] at htarget
    exact htarget.1.2
  · intro target hmem
    obtain ⟨jump, -, htarget⟩ := (mem_of_mapM htargets).mp hmem
    simp only [bind_eq_ok, pure_eq_ok, exists_unit] at htarget
    omega

/-- What the checks of one instruction say of its execution. -/
theorem successors_sound (h : successors length index i = .ok targets) (data : LinuxSeccompDataX8664V1)
    (accumulator : UInt32) :
    (i.code = ldWAbs → i.operand = seccompDataNrOffsetV1 ∨ i.operand = seccompDataArchOffsetV1) ∧
      (i.execute data.load index accumulator).Sound
        (fun value => value = seccompRetKillProcessV1 ∨ value = workloadTraceResultV1) length index := by
  obtain ⟨js, hjs, hinside, -⟩ := successors_ok h
  unfold jumps at hjs
  unfold Instruction.execute
  split_ifs at hjs with hload hjump
  · simp only [bind_eq_ok, rejectIf_eq_ok, exists_unit, pure_eq_ok] at hjs
    obtain ⟨hbad, rfl⟩ := hjs
    have hoperand : i.operand = seccompDataNrOffsetV1 ∨ i.operand = seccompDataArchOffsetV1 := by tauto
    have hword : ∃ word, data.load i.operand = some word := by
      rcases hoperand with hoperand | hoperand
      · exact ⟨data.syscallNumber.toUInt32, hoperand ▸ rfl⟩
      · exact ⟨data.architecture, hoperand ▸ rfl⟩
    obtain ⟨word, hword⟩ := hword
    rw [if_pos hload, hword]
    exact ⟨fun _ => hoperand, .next (by omega) (hinside 0 (by simp))⟩
  · cases hjs
    have htaken : ∀ taken : Bool, index + 1 + (if taken then i.jumpTrue else i.jumpFalse).toNat < length := by
      intro taken
      cases taken <;> exact hinside _ (by simp)
    refine ⟨fun hcode => absurd hcode hload, ?_⟩
    rw [if_neg hload]
    rcases hjump with hcode | hcode
    · rw [if_pos hcode]
      exact .next (by omega) (htaken _)
    · rw [if_neg (by rw [hcode]; decide), if_pos hcode]
      exact .next (by omega) (htaken _)
  · rw [bind_eq_ok, exists_unit, rejectIf_eq_ok] at hjs
    refine ⟨fun hcode => absurd hcode hload, ?_⟩
    rw [if_neg hload, if_neg (by tauto), if_neg (by tauto), if_pos ‹_›]
    exact .result (by tauto)

/-- A mark is final once the pass is behind it. -/
theorem markReachable_ok {rest : List Instruction} {reachable marks : Nat → Bool}
    (h : markReachable length index rest reachable = .ok marks) :
    (∀ k ≤ index, marks k = reachable k) ∧
      ∀ j i, rest[j]? = some i → marks (index + j) = true → ∃ targets, successors length (index + j) i = .ok targets := by
  induction rest generalizing index reachable with
  | nil =>
    simp only [markReachable, Except.ok.injEq] at h
    simp [h]
  | cons head rest ih =>
    -- either way the marks up to `index` stay, and a marked instruction was checked
    obtain ⟨next, hrest, hkeeps, hhead⟩ : ∃ next, markReachable length (index + 1) rest next = .ok marks ∧
        (∀ k ≤ index, next k = reachable k) ∧
        (reachable index = true → ∃ targets, successors length index head = .ok targets) := by
      unfold markReachable at h
      split at h
      · rw [bind_eq_ok] at h
        obtain ⟨targets, htargets, hrest⟩ := h
        refine ⟨_, hrest, ?_, fun _ => ⟨targets, htargets⟩⟩
        intro k hk
        obtain ⟨-, -, -, hforward⟩ := successors_ok htargets
        have hnot : k ∉ targets := fun hmem => absurd (hforward k hmem) (by omega)
        simp [hnot]
      · exact ⟨reachable, h, fun _ _ => rfl, fun hmarked => absurd hmarked ‹_›⟩
    obtain ⟨hfinal, hchecked⟩ := ih hrest
    have hmarks : ∀ k ≤ index, marks k = reachable k := fun k hk => (hfinal k (by omega)).trans (hkeeps k hk)
    refine ⟨hmarks, ?_⟩
    intro j i hi hmarked
    cases j with
    | zero =>
      simp only [List.getElem?_cons_zero, Option.some.injEq] at hi
      exact hi ▸ hhead ((hmarks index le_rfl).symm.trans hmarked)
    | succ j =>
      rw [Nat.add_succ, ← Nat.succ_add] at hmarked ⊢
      exact hchecked j i hi hmarked

/-- Every instruction is reachable, so every instruction was checked. -/
theorem verifyFilterV1_checked (h : verifyFilterV1 traced control program = .ok ()) :
    0 < program.length ∧ ∀ pc i, program[pc]? = some i → ∃ targets, successors program.length pc i = .ok targets := by
  simp only [verifyFilterV1, bind_eq_ok, rejectIf_eq_ok, exists_unit, not_or, not_not, List.any_eq_true, not_exists,
    not_and, Bool.not_eq_true, Bool.not_eq_false', List.mem_range] at h
  obtain ⟨⟨hcount, -⟩, marks, hmarks, hreachable⟩ := h
  refine ⟨by rw [hcount, workloadFilterInstructionCountV1]; omega, ?_⟩
  intro pc i hi
  obtain ⟨hpc, -⟩ := List.getElem?_eq_some_iff.mp hi
  obtain ⟨targets, htargets⟩ := (markReachable_ok hmarks).2 pc i hi (by rw [Nat.zero_add]; exact hreachable pc hpc)
  exact ⟨targets, by rwa [Nat.zero_add] at htargets⟩

theorem workload_filter_semantics :
    (∀ traced control : List UInt32, (∀ number ∈ traced ++ control, number < x32SyscallBitV1) →
      ∀ data : LinuxSeccompDataX8664V1,
        let program := buildWorkloadFilterV1 traced control
        let number := data.syscallNumber.toUInt32
        (data.architecture ≠ auditArchX8664V1 ∨ number &&& x32SyscallBitV1 ≠ 0 →
          run data.load program program.length 0 0 = some seccompRetKillProcessV1) ∧
        (data.architecture = auditArchX8664V1 → number ∈ traced ∨ number ∈ control →
          run data.load program program.length 0 0 = some workloadTraceResultV1) ∧
        (number ∉ traced → number ∉ control →
          run data.load program program.length 0 0 = some seccompRetKillProcessV1)) ∧
    ∀ (traced control : List UInt32) (program : List Instruction), verifyFilterV1 traced control program = .ok () →
      ∀ data : LinuxSeccompDataX8664V1,
        let Allowed value := value = seccompRetKillProcessV1 ∨ value = workloadTraceResultV1
        (∃ value, run data.load program program.length 0 0 = some value ∧ Allowed value) ∧
        ∀ (pc : Nat) (i : Instruction), program[pc]? = some i →
          (i.code = ldWAbs → i.operand = seccompDataNrOffsetV1 ∨ i.operand = seccompDataArchOffsetV1) ∧
          ∀ accumulator, (i.execute data.load pc accumulator).Sound Allowed program.length pc := by
  refine ⟨?_, ?_⟩
  · intro traced control hsmall data
    dsimp only
    rw [run_buildWorkloadFilterV1]
    refine ⟨?_, ?_, ?_⟩
    · intro hforeign
      rw [if_neg (by tauto)]
    · intro hnative hlisted
      have hmem := List.mem_append.mpr hlisted
      rw [if_pos ⟨hnative, and_x32SyscallBit (hsmall _ hmem), hmem⟩]
    · intro htraced hcontrol
      rw [if_neg (by simp [htraced, hcontrol])]
  · intro traced control program hverified data
    obtain ⟨hpositive, hchecked⟩ := verifyFilterV1_checked hverified
    refine ⟨run_of_sound ?_ hpositive (by omega) 0, ?_⟩
    · intro pc hpc accumulator
      have hi := List.getElem?_eq_getElem hpc
      obtain ⟨targets, htargets⟩ := hchecked pc _ hi
      rw [step, hi]
      exact (successors_sound htargets data accumulator).2
    · intro pc i hi
      obtain ⟨targets, htargets⟩ := hchecked pc i hi
      exact ⟨(successors_sound htargets data 0).1, fun accumulator => (successors_sound htargets data accumulator).2⟩

/-- A read call on x86-64, under a filter that traces reads and exits. -/
theorem workload_filter_semantics_read :
    let data : LinuxSeccompDataX8664V1 := ⟨0, auditArchX8664V1, 0, Vector.replicate 6 0⟩
    run data.load (buildWorkloadFilterV1 [0] [60]) 11 0 0 = some workloadTraceResultV1 ∧
      ∃ value, run data.load (buildWorkloadFilterV1 [0] [60]) 11 0 0 = some value := by
  obtain ⟨hbuilt, hchecked⟩ := workload_filter_semantics
  obtain ⟨value, hvalue, -⟩ := (hchecked [0] [60] (buildWorkloadFilterV1 [0] [60]) (by rfl) _).1
  exact ⟨(hbuilt [0] [60] (by simp [x32SyscallBitV1]) _).2.1 rfl (by decide), value, hvalue⟩

end Again.Tracer
