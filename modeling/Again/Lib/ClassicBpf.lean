import Mathlib.Data.List.Basic

/-!
# Classic BPF

The part of the kernel's filter machine that system call filters use: word
loads from the filtered data, two conditional jumps and constant returns. A
program counter, an accumulator; any other instruction stops the machine.
-/

namespace Again.Lib.ClassicBpf

/-- `struct sock_filter`. -/
structure Instruction where
  code : UInt16
  jumpTrue : UInt8
  jumpFalse : UInt8
  operand : UInt32
deriving DecidableEq

def ldWAbs : UInt16 := 0x20
def jmpJeqK : UInt16 := 0x15
def jmpJsetK : UInt16 := 0x45
def retK : UInt16 := 0x06

inductive Outcome where
  | next (pc : Nat) (accumulator : UInt32)
  | result (value : UInt32)
  | fault
deriving DecidableEq

/-- Jump offsets are unsigned and count from the next instruction. -/
def Instruction.execute (load : UInt32 → Option UInt32) (i : Instruction) (pc : Nat) (accumulator : UInt32) : Outcome :=
  let jump (taken : Bool) := Outcome.next (pc + 1 + (if taken then i.jumpTrue else i.jumpFalse).toNat) accumulator
  if i.code = ldWAbs then
    match load i.operand with
    | some word => .next (pc + 1) word
    | none => .fault
  else if i.code = jmpJeqK then jump (accumulator == i.operand)
  else if i.code = jmpJsetK then jump (accumulator &&& i.operand != 0)
  else if i.code = retK then .result i.operand
  else .fault

variable (load : UInt32 → Option UInt32) (program : List Instruction)

def step (pc : Nat) (accumulator : UInt32) : Outcome :=
  match program[pc]? with
  | some i => i.execute load pc accumulator
  | none => .fault

/-- At most `steps` instructions. -/
def run : Nat → Nat → UInt32 → Option UInt32
  | 0, _, _ => none
  | steps + 1, pc, accumulator =>
    match step load program pc accumulator with
    | .next pc accumulator => run steps pc accumulator
    | .result value => some value
    | .fault => none

/-- The machine goes on behind `pc` and inside the program, or returns an allowed value. -/
inductive Outcome.Sound (allowed : UInt32 → Prop) (length pc : Nat) : Outcome → Prop
  | next {target : Nat} {accumulator : UInt32} (forward : pc < target) (inside : target < length) :
    Sound allowed length pc (.next target accumulator)
  | result {value : UInt32} (h : allowed value) : Sound allowed length pc (.result value)

variable {load program} {allowed : UInt32 → Prop}

/-- A program whose every step is sound returns within its length. -/
theorem run_of_sound (h : ∀ pc < program.length, ∀ a, (step load program pc a).Sound allowed program.length pc)
    {steps pc : Nat} (hpc : pc < program.length) (hsteps : program.length ≤ pc + steps) (accumulator : UInt32) :
    ∃ value, run load program steps pc accumulator = some value ∧ allowed value := by
  induction steps generalizing pc accumulator with
  | zero => omega
  | succ steps ih =>
    have hsound := h pc hpc accumulator
    unfold run
    generalize step load program pc accumulator = outcome at hsound
    cases hsound with
    | next forward inside => exact ih inside (by omega) _
    | result hvalue => exact ⟨_, rfl, hvalue⟩

section

variable {steps pc : Nat} {accumulator : UInt32}

theorem run_next {target : Nat} {word : UInt32} (h : step load program pc accumulator = .next target word) :
    run load program (steps + 1) pc accumulator = run load program steps target word := by
  rw [run, h]

theorem run_result {value : UInt32} (h : step load program pc accumulator = .result value) :
    run load program (steps + 1) pc accumulator = some value := by
  rw [run, h]

end

theorem step_append (before rest : List Instruction) (i : Instruction) (accumulator : UInt32) :
    step load (before ++ i :: rest) before.length accumulator = i.execute load before.length accumulator := by
  simp [step]

end Again.Lib.ClassicBpf
