import Again.Pytest.RequestKeys

/-!
# Dispositions

A record stays out of promotion for a reason, or it is a candidate. The reason
is derived from the first failure, the streams and the wait status; a candidate
is judged by the masks and the counters as well. The two never overlap, and
they leave out the records whose counters contradict their masks.
-/

namespace Again.Pytest

open Lib

/-- The counters of a run traced from its first event to its last reap. -/
def TraceCountersV1.agree (counters : TraceCountersV1) : Bool :=
  counters.finalSequence == counters.eventCount && counters.eventCount != 0 &&
    counters.syscallEventCount == counters.eventCount && counters.seccompTraceCount == counters.syscallEventCount &&
    counters.ptraceEventCount.toNat ==
      counters.taskBirthCount.toNat + counters.taskExecCount.toNat + counters.taskExitCount.toNat &&
    decide (counters.eventCount ≤ counters.traceEncodedBytes) && counters.taskBirthCount != 0 &&
    counters.taskExecCount != 0 && counters.taskBirthCount == counters.taskExitCount &&
    counters.taskExitCount == counters.taskReapCount && counters.deniedOperationCount == 0 &&
    counters.unsupportedOperationCount == 0 && counters.decoderErrorCount == 0 && counters.lostEventCount == 0 &&
    counters.finalAckCount == 1

/-- Both streams were kept whole and the run exited with zero. -/
def EffectResultV2.succeeded (result : EffectResultV2) : Bool :=
  result.stdout.completeBlob.isSome && result.stderr.completeBlob.isSome && result.rawLinuxWaitStatus.isSuccess

/-- A trace without a failure has its masks complete. -/
theorem TraceCompletenessV2.candidateComplete_eq {trace : TraceCompletenessV2} (h : trace.validate = .ok ()) :
    trace.candidateComplete = (trace.firstFailure == none && trace.counters.agree) := by
  have hmasks := h
  simp only [validate, rejectIf_eq_ok, not_or, not_and, not_not] at hmasks
  obtain ⟨hrequired, -, -, -, -, -, -, -, -, -, -, hfailure, -⟩ := hmasks
  cases hfirst : trace.firstFailure with
  | some failure => simp [candidateComplete, hfirst]
  | none =>
    obtain ⟨hcomplete, hunsupported, hviolation⟩ :
        trace.complete = trace.required ∧ trace.unsupported = 0 ∧ trace.violation = 0 := by
      by_contra hbad
      exact hfailure (by tauto) hfirst
    simp [candidateComplete, TraceCountersV1.agree, h, hfirst, hrequired, hcomplete, hunsupported, hviolation]

theorem streamReason_eq_none {limit : ExecuteOnlyCode} {capture : StreamCaptureV2} :
    streamReason limit capture = none ↔ capture.completeBlob.isSome = true := by
  cases capture <;> simp [streamReason, StreamCaptureV2.completeBlob]

variable {hash : Blake3} {record : EffectRecordV2} {reason : Option ExecuteOnlyCode} {primary : Option RecordId}

theorem derivedExecuteOnlyReason_eq_none (hfinal : record.result.rawLinuxWaitStatus.isFinal = true) :
    derivedExecuteOnlyReason record = none ↔ record.trace.firstFailure = none ∧ record.result.succeeded = true := by
  obtain ⟨termination, hstatus⟩ := Option.isSome_iff_exists.mp hfinal
  simp only [derivedExecuteOnlyReason, Option.or_eq_none_iff, Option.map_eq_none_iff, streamReason_eq_none,
    EffectResultV2.succeeded, Bool.and_eq_true, RawLinuxWaitStatusV1.isSuccess, RawLinuxWaitStatusV1.terminatingSignal,
    RawLinuxWaitStatusV1.exitCode, hstatus]
  cases termination <;> simp [and_assoc]

namespace EffectRecordV2

/-- The content under a choice of the other three fields. -/
def withDisposition (record : EffectRecordV2) (disposition : EffectRecordDispositionV2)
    (reason : Option ExecuteOnlyCode) (primary : Option RecordId) : EffectRecordV2 :=
  { record with disposition := disposition, dispositionReason := reason, primaryRecordId := primary }

/-- `validate` accepts the content under some choice with this disposition. -/
def Accepts (hash : Blake3) (record : EffectRecordV2) (disposition : EffectRecordDispositionV2) : Prop :=
  ∃ reason primary, (record.withDisposition disposition reason primary).validate hash = .ok ()

theorem validate_eq_ok : record.validate hash = .ok () ↔ record.validateShared hash = .ok () ∧
    (record.disposition ≠ .executedOnly → record.hasCompleteSuccessResult = true) ∧ record.checkDisposition = .ok () := by
  simp only [validate, bind_eq_ok, exists_unit, rejectIf_eq_ok, not_and, Bool.not_eq_false]

variable (h : record.validateShared hash = .ok ())
include h

theorem trace_of_validateShared : record.trace.validate = .ok () ∧ record.result.rawLinuxWaitStatus.isFinal = true := by
  simp only [validateShared, bind_eq_ok, exists_unit, malformedRecordIf_eq_ok, not_or] at h
  obtain ⟨-, htrace, -, -, _, -, _, -, _, -, -, -, -, -, -, hformed⟩ := h
  rw [Bool.not_eq_false] at hformed
  exact ⟨htrace, (Bool.and_eq_true_iff.mp hformed).2⟩

theorem hasCompleteSuccessResult_eq : record.hasCompleteSuccessResult =
    (record.trace.firstFailure == none && record.trace.counters.agree && record.result.succeeded) := by
  simp [hasCompleteSuccessResult, EffectResultV2.succeeded,
    TraceCompletenessV2.candidateComplete_eq (trace_of_validateShared h).1, Bool.and_assoc]

theorem validate_withDisposition (disposition : EffectRecordDispositionV2) :
    (record.withDisposition disposition reason primary).validate hash = .ok () ↔
      (disposition ≠ .executedOnly → record.hasCompleteSuccessResult = true) ∧
        (record.withDisposition disposition reason primary).checkDisposition = .ok () :=
  validate_eq_ok.trans (and_iff_right h)

theorem validate_executedOnly : (record.withDisposition .executedOnly reason primary).validate hash = .ok () ↔
    reason = derivedExecuteOnlyReason record ∧ reason ≠ none ∧ primary = none := by
  rw [validate_withDisposition h, and_iff_right (fun hne => absurd rfl hne)]
  refine malformedRecordIf_eq_ok.trans ?_
  rw [not_or, not_or, not_not, not_not]
  rfl

theorem accepts_executedOnly : record.Accepts hash .executedOnly ↔ derivedExecuteOnlyReason record ≠ none := by
  simp [Accepts, validate_executedOnly h]

/-- A shadow can name some record: an id that is neither nil nor its own. -/
theorem accepts_candidate {disposition : EffectRecordDispositionV2} (hcandidate : disposition ≠ .executedOnly) :
    record.Accepts hash disposition ↔ record.hasCompleteSuccessResult = true := by
  constructor
  · rintro ⟨reason, primary, hvalid⟩
    exact ((validate_withDisposition h _).mp hvalid).1 hcandidate
  · intro hcomplete
    suffices hchoice : ∃ primary, (record.withDisposition disposition none primary).checkDisposition = .ok () by
      obtain ⟨primary, hcheck⟩ := hchoice
      exact ⟨none, primary, (validate_withDisposition h _).mpr ⟨fun _ => hcomplete, hcheck⟩⟩
    cases disposition with
    | executedOnly => exact absurd rfl hcandidate
    | primaryCandidate => exact ⟨none, rfl⟩
    | shadowCandidate =>
      obtain ⟨id, hnil, hother⟩ : ∃ id : RecordId, isNil id = false ∧ id ≠ record.recordId := by
        by_cases hone : record.recordId = Octets.fill 16 1
        · exact ⟨Octets.fill 16 2, by decide, hone ▸ by decide⟩
        · exact ⟨Octets.fill 16 1, by decide, fun heq => hone heq.symm⟩
      refine ⟨some id, malformedRecordIf_eq_ok.mpr ?_⟩
      simpa [withDisposition, hnil, Subtype.ext_iff] using hother

end EffectRecordV2

open EffectRecordV2 in
theorem dispositions_partition (hash : Blake3) (record : EffectRecordV2) (h : record.validateShared hash = .ok ()) :
    ¬ (record.Accepts hash .executedOnly ∧ record.Accepts hash .primaryCandidate) ∧
    (record.Accepts hash .executedOnly ∨ record.Accepts hash .primaryCandidate ↔
      (record.trace.firstFailure = none → record.result.succeeded = true → record.trace.counters.agree = true)) ∧
    (record.Accepts hash .shadowCandidate ↔ record.Accepts hash .primaryCandidate) ∧
    ∀ reason reason' primary primary',
      (record.withDisposition .executedOnly reason primary).validate hash = .ok () →
      (record.withDisposition .executedOnly reason' primary').validate hash = .ok () → reason = reason' := by
  have hreason := derivedExecuteOnlyReason_eq_none (trace_of_validateShared h).2
  rw [accepts_executedOnly h, accepts_candidate h (by decide), accepts_candidate h (by decide),
    hasCompleteSuccessResult_eq h, Ne, hreason]
  refine ⟨?_, ?_, Iff.rfl, ?_⟩
  · simp only [Bool.and_eq_true, beq_iff_eq]
    tauto
  · simp only [Bool.and_eq_true, beq_iff_eq]
    tauto
  · intro reason reason' primary primary' hleft hright
    exact ((validate_executedOnly h).mp hleft).1.trans ((validate_executedOnly h).mp hright).1.symm

theorem onceRecord_validateShared : onceRecord.validateShared sampleHash = .ok () :=
  (EffectRecordV2.validate_eq_ok.mp onceRecord_validate).1

theorem dispositions_partition_once :
    onceRecord.Accepts sampleHash .shadowCandidate ∧ ¬ onceRecord.Accepts sampleHash .executedOnly := by
  obtain ⟨hnot, -, hshadow, -⟩ := dispositions_partition sampleHash onceRecord onceRecord_validateShared
  have hcomplete := (EffectRecordV2.validate_eq_ok.mp onceRecord_validate).2.1 (by decide)
  have hprimary : onceRecord.Accepts sampleHash .primaryCandidate :=
    (EffectRecordV2.accepts_candidate onceRecord_validateShared (by decide)).mpr hcomplete
  exact ⟨hshadow.mpr hprimary, fun hexecuted => hnot ⟨hexecuted, hprimary⟩⟩

/-- The sample run, whose supervisor never acknowledged the end of the trace. -/
def unacknowledgedRecord : EffectRecordV2 :=
  { onceRecord with
    trace := { onceRecord.trace with counters := { onceRecord.trace.counters with finalAckCount := 0 } } }

/-- No failure is named, every mask is complete, and no disposition is accepted. -/
theorem unacknowledgedRecord_refused :
    unacknowledgedRecord.validateShared sampleHash = .ok () ∧
      ¬ unacknowledgedRecord.Accepts sampleHash .executedOnly ∧
      ¬ unacknowledgedRecord.Accepts sampleHash .primaryCandidate := by
  have hshared : unacknowledgedRecord.validateShared sampleHash = .ok () := by decide +kernel
  have hcounters : unacknowledgedRecord.trace.counters.agree = false := by decide
  rw [EffectRecordV2.accepts_executedOnly hshared, EffectRecordV2.accepts_candidate hshared (by decide),
    EffectRecordV2.hasCompleteSuccessResult_eq hshared, hcounters]
  exact ⟨hshared, by decide, by simp⟩

end Again.Pytest
