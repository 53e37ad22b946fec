import Again.Tracer.SupervisorMoves

/-!
# The event of a fork-family entry

An entry's flags and exit signal settle the birth, and the birth settles the
event it is reported with. The kernel runs `fork` and `vfork` as clones with
flags of their own, so one classification covers the four syscalls.
-/

namespace Again.Tracer

open Lib SupervisorState

variable {n : Nat} {arguments : Table 6 UInt64} {capture : Clone3ArgsCapture} {birth : ForkFamilyBirthObservation}

/-- A refusal that does not come from the event does not depend on it. -/
theorem decodeForkFamilyEntry_error {event : LinuxPtraceEvent} {e : ForkFamilyDecodeError}
    (h : decodeForkFamilyEntry n arguments capture event = .error e) (he : e ≠ .ptraceEventMismatch)
    (other : LinuxPtraceEvent) : decodeForkFamilyEntry n arguments capture other = .error e := by
  rw [decodeForkFamilyEntry_eq] at h ⊢
  cases hb : decodeForkFamilyBirth n arguments capture with
  | error e' => rw [hb] at h; exact h
  | ok b =>
    rw [hb] at h
    simp only [Except.bind] at h
    split at h <;> cases h
    exact absurd rfl he

theorem decodeForkFamilyBirth_unsupported (h : TaskStateRecorder.isCreationSyscall n = false) :
    decodeForkFamilyBirth n arguments capture = .error .unsupportedSyscall := by
  simp [TaskStateRecorder.isCreationSyscall] at h
  simp [decodeForkFamilyBirth, h]

theorem decodePendingFork_some {copied : Option (Nat × Table clone3ArgsBufferBytes UInt8)} {event : LinuxPtraceEvent} :
    decodePendingFork n arguments copied = .ok (some (event, birth)) ↔
      decodeForkFamilyEntry n arguments (captured copied) event = .ok birth := by
  rw [decodePendingFork_eq, decodeForkFamilyEntry_ok]
  by_cases hn : TaskStateRecorder.isCreationSyscall n = false
  · rw [if_pos hn, decodeForkFamilyBirth_unsupported hn]
    simp
  · rw [if_neg hn]
    cases decodeForkFamilyBirth n arguments (captured copied) with
    | error e => simp
    | ok b =>
      simp only [Except.ok.injEq, Option.some.injEq, Prod.mk.injEq]
      constructor
      · rintro ⟨rfl, rfl⟩
        exact ⟨rfl, rfl⟩
      · rintro ⟨rfl, rfl⟩
        exact ⟨rfl, rfl⟩

/-- A shared thread group: the kind, the exit signal and the flags it requires. -/
theorem classifyCloneBirth_shared {flags signal : UInt64} {clone3 : Bool}
    (h : validateCommonFlags flags signal clone3 = .ok ()) (ht : hasFlag flags cloneThread = true) :
    (classifyCloneBirth flags signal).kind = .clone ∧ signal = 0 ∧ hasFlag flags cloneSighand = true ∧
      hasFlag flags cloneVm = true := by
  have hkind : (classifyCloneBirth flags signal).kind = .clone := by
    by_contra hne
    have := classifyCloneBirth_group h hne
    simp [classifyCloneBirth, ht] at this
  simp only [validateCommonFlags, bind_eq_ok, rejectIf_eq_ok, exists_unit] at h
  grind

/-- The structure sizes a `clone3` entry may declare. -/
def SupportedClone3Size (d : Nat) : Prop := d = 64 ∨ d = 80 ∨ d = 88

/-- Without a cgroup, bytes that are zero anyway may be declared or not. -/
theorem decodeClone3_size {buffer : Table clone3ArgsBufferBytes UInt8} {d : Nat} (hd : SupportedClone3Size d)
    (hzero : ∀ i, d ≤ i.val → buffer i = 0) (hcgroup : hasFlag (readU64 buffer 0) cloneIntoCgroup = false) :
    decodeClone3 (arguments.put 1 (.ofNat d)) (.exact d buffer) =
      decodeClone3 (arguments.put 1 88) (.exact 88 buffer) := by
  have hplan : ∀ d, SupportedClone3Size d → planClone3ArgsRead (arguments.put 1 (.ofNat d)) =
      rejectIf (arguments 0 = 0) .clone3NullArgsPointer >>= fun _ => .ok ⟨arguments 0, d⟩ := by
    rintro d (rfl | rfl | rfl) <;> simp [planClone3ArgsRead, Table.put_other, rejectIf]
  have hfields : validateClone3Fields (.decode buffer) d = validateClone3Fields (.decode buffer) 88 := by
    have hactive : hasFlag (Clone3Fields.decode buffer).flags cloneIntoCgroup = false := hcgroup
    simp [validateClone3Fields, hactive]
  have htail : ¬ ∃ i : Fin clone3ArgsBufferBytes, d ≤ i.val ∧ buffer i ≠ 0 := by
    rintro ⟨i, hi, hne⟩
    exact hne (hzero i hi)
  have hend : ¬ ∃ i : Fin clone3ArgsBufferBytes, 88 ≤ i.val ∧ buffer i ≠ 0 := by
    rintro ⟨i, hi, -⟩
    exact absurd i.isLt (not_lt.2 hi)
  unfold decodeClone3
  rw [hplan d hd, show (88 : UInt64) = .ofNat 88 from rfl, hplan 88 (.inr (.inr rfl))]
  simp only [bind_assoc, ok_bind, Clone3ArgsCapture.exactBytes, hfields, rejectIf, ne_eq, not_true_eq_false, if_false,
    if_neg htail, if_neg hend]

/-- An entry decodes for one event at most, a refusal that is not about the event holds for every event, and
the supervisor finds that event and its birth. The birth follows from the flags and the exit signal alone,
whichever of the syscalls carries them and whatever size is declared for the same `clone3` arguments. -/
theorem fork_family_decoding :
    (∀ (n : Nat) (arguments : Table 6 UInt64) (capture : Clone3ArgsCapture) (event : LinuxPtraceEvent),
      (∀ birth, decodeForkFamilyEntry n arguments capture event = .ok birth →
        (∀ other birth', decodeForkFamilyEntry n arguments capture other = .ok birth' → other = event) ∧
        (birth.relation = .sharesParentThreadGroup ↔ hasFlag (cloneWords n arguments capture).1 cloneThread = true) ∧
        (birth.relation = .sharesParentThreadGroup → birth.kind = .clone ∧ (cloneWords n arguments capture).2 = 0 ∧
          hasFlag (cloneWords n arguments capture).1 cloneSighand = true ∧
          hasFlag (cloneWords n arguments capture).1 cloneVm = true)) ∧
      ∀ e, decodeForkFamilyEntry n arguments capture event = .error e → e ≠ .ptraceEventMismatch →
        ∀ other, decodeForkFamilyEntry n arguments capture other = .error e) ∧
    (∀ n arguments copied event birth, decodePendingFork n arguments copied = .ok (some (event, birth)) ↔
      decodeForkFamilyEntry n arguments (captured copied) event = .ok birth) ∧
    (∀ (arguments : Table 6 UInt64) buffer d d' event, SupportedClone3Size d → SupportedClone3Size d' →
      (∀ i, min d d' ≤ i.val → buffer i = 0) → hasFlag (readU64 buffer 0) cloneIntoCgroup = false →
      decodeForkFamilyEntry clone3Nr (arguments.put 1 (.ofNat d)) (.exact d buffer) event =
        decodeForkFamilyEntry clone3Nr (arguments.put 1 (.ofNat d')) (.exact d' buffer) event) ∧
    ∀ arguments arguments' capture capture' event event' birth birth',
      cloneWords cloneNr arguments capture = cloneWords clone3Nr arguments' capture' →
      decodeForkFamilyEntry cloneNr arguments capture event = .ok birth →
      decodeForkFamilyEntry clone3Nr arguments' capture' event' = .ok birth' → birth = birth' := by
  refine ⟨fun n arguments capture event => ⟨fun birth h => ⟨fun other birth' h' => ?_, ?_⟩, ?_⟩, ?_, ?_, ?_⟩
  · rw [decodeForkFamilyEntry_ok] at h h'
    cases h.1.symm.trans h'.1
    exact h'.2.trans h.2.symm
  · obtain ⟨⟨clone3, hflags⟩, rfl⟩ := decodeForkFamilyBirth_ok (decodeForkFamilyEntry_ok.1 h).1
    have hshared := classifyCloneBirth_shared hflags
    by_cases ht : hasFlag (cloneWords n arguments capture).1 cloneThread = true
    · exact ⟨⟨fun _ => ht, fun _ => if_pos ht⟩, fun _ => hshared ht⟩
    · have hnew : (classifyCloneBirth (cloneWords n arguments capture).1 (cloneWords n arguments capture).2).relation =
          .newThreadGroup := if_neg ht
      simp [hnew, ht]
  · exact fun e he hne => decodeForkFamilyEntry_error he hne
  · exact fun n arguments copied event birth => decodePendingFork_some
  · intro arguments buffer d d' event hd hd' hzero hcgroup
    have hbirth : ∀ arguments capture, decodeForkFamilyBirth clone3Nr arguments capture = decodeClone3 arguments capture :=
      fun _ _ => rfl
    simp only [decodeForkFamilyEntry_eq, hbirth]
    rw [decodeClone3_size hd (fun i hi => hzero i ((min_le_left d d').trans hi)) hcgroup,
      decodeClone3_size hd' (fun i hi => hzero i ((min_le_right d d').trans hi)) hcgroup]
  · intro arguments arguments' capture capture' event event' birth birth' hwords h h'
    rw [(decodeForkFamilyBirth_ok (decodeForkFamilyEntry_ok.1 h).1).2,
      (decodeForkFamilyBirth_ok (decodeForkFamilyEntry_ok.1 h').1).2, hwords]

end Again.Tracer
