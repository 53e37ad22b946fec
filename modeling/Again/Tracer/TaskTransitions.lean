import Again.Lib.Guards
import Again.Tracer.TaskInvariant

/-!
# What one observation does

`Handled` lists every way a healthy recorder accepts an observation, with the
guards that held and the tables it leaves. `handle_runs` says `handle` does
one of these or refuses, and which refusals cannot happen when the observation
was `Correlated`: sent in sequence about tasks the recorder knows.
-/

namespace Again.Tracer

open Lib

variable {kind : CounterKind} {ev : Option NormalizedTaskEvent} {a : PendingChildAnnouncement} {parent : Option Nat}
  {id : Nat} {i : Fin maxTasks}

/-! ## What an accepted observation counts -/

/-- The counter an observation goes to. -/
def TaskObservation.counterKind : TaskObservation → CounterKind
  | .initialBirth .. => .initialBirth
  | .childAnnouncement .. => .childAnnouncement
  | .childReady .. => .childReady
  | .exec .. => .exec
  | .seccompEntry .. => .seccompEntry
  | .syscallExit .. => .syscallExit
  | .ptraceExitEvent .. => .ptraceExitEvent
  | .terminalReap .. => .terminalReap

namespace TaskCounters

/-- One more transition of a kind. -/
def bumped (c : TaskCounters) (kind : CounterKind) : TaskCounters :=
  let c := { c with acceptedTransitionCount := c.acceptedTransitionCount + 1 }
  match kind with
  | .initialBirth => { c with initialBirthCount := c.initialBirthCount + 1 }
  | .childAnnouncement => { c with childAnnouncementCount := c.childAnnouncementCount + 1 }
  | .childReady => { c with childReadyCount := c.childReadyCount + 1 }
  | .exec => { c with execCount := c.execCount + 1 }
  | .seccompEntry => { c with seccompEntryCount := c.seccompEntryCount + 1 }
  | .syscallExit => { c with syscallExitCount := c.syscallExitCount + 1 }
  | .ptraceExitEvent => { c with ptraceExitEventCount := c.ptraceExitEventCount + 1 }
  | .terminalReap => { c with terminalReapCount := c.terminalReapCount + 1 }

/-- What the event of a transition adds: a correlated birth, or a syscall that does not return. -/
def withEvent (c : TaskCounters) : Option NormalizedTaskEvent → TaskCounters
  | some (.birth _ _ _ _ .fork) => { c with forkBirthCount := c.forkBirthCount + 1 }
  | some (.birth _ _ _ _ .vfork) => { c with vforkBirthCount := c.vforkBirthCount + 1 }
  | some (.birth _ _ _ _ .clone) => { c with cloneBirthCount := c.cloneBirthCount + 1 }
  | some (.ptraceExitEvent _ _ _ (some _)) => { c with noReturnResolutionCount := c.noReturnResolutionCount + 1 }
  | _ => c

end TaskCounters

theorem succOrOverflow_ok {n m : Nat} (h : succOrOverflow n = .ok m) : m = n + 1 ∧ n + 1 < 2 ^ 64 := by
  unfold succOrOverflow checkedSucc at h
  split at h
  · rename_i k hk
    split at hk
    · cases hk
      cases h
      exact ⟨rfl, by assumption⟩
    · cases hk
  · cases h

variable {c c' : TaskCounters}

/-- An increment that is not refused counts one transition, and the total fits. -/
theorem incremented_ok (h : c.incremented kind = .ok c') :
    c' = c.bumped kind ∧ c.acceptedTransitionCount + 1 < 2 ^ 64 := by
  unfold TaskCounters.incremented at h
  rw [bind_eq_ok] at h
  obtain ⟨total, htotal, h⟩ := h
  obtain ⟨rfl, hbound⟩ := succOrOverflow_ok htotal
  refine ⟨?_, hbound⟩
  cases kind <;>
  · rw [bind_eq_ok] at h
    obtain ⟨count, hcount, h⟩ := h
    obtain ⟨rfl, -⟩ := succOrOverflow_ok hcount
    cases h
    rfl

theorem withCorrelatedBirth_ok {kind : TaskChildBirthKind} {s group : Nat} (h : c.withCorrelatedBirth kind = .ok c') :
    c' = c.withEvent (some (.birth s id parent group kind.normalized)) := by
  cases kind <;>
  · obtain ⟨count, hcount, h⟩ := bind_eq_ok.1 h
    obtain ⟨rfl, -⟩ := succOrOverflow_ok hcount
    cases h
    rfl

theorem withNoReturnResolution_ok {s : Nat} {term : LinuxWaitTermination} {kind : TaskNoReturnKind}
    (h : c.withNoReturnResolution = .ok c') : c' = c.withEvent (some (.ptraceExitEvent s id term (some kind))) := by
  obtain ⟨count, hcount, h⟩ := bind_eq_ok.1 h
  obtain ⟨rfl, -⟩ := succOrOverflow_ok hcount
  cases h
  rfl

/-- The counters after an accepted observation. -/
structure Counts (c : TaskCounters) (kind : CounterKind) (a : Accepted) : Prop where
  counted : a.2 = (c.bumped kind).withEvent a.1
  bounded : c.acceptedTransitionCount + 1 < 2 ^ 64

namespace TaskStateRecorder

/-! ## What an observation does to the tables -/

/-- The thread group a child inherits from its parent. -/
def inherited (relation : TaskGroupRelation) (parent : TaskSlot) : Option Nat :=
  match relation with
  | .newThreadGroup => none
  | .sharesParentThreadGroup => some parent.threadGroupLogicalTaskId

/-- The parent `parent` of a child correlated in slot `j` sees it born. -/
def withBirth (r : TaskStateRecorder) (h : r.slotsUsed < maxTasks) (i : Fin maxTasks) (parent : TaskSlot)
    (j : Fin maxTasks) (tid : Int) (group : Option Nat) : TaskStateRecorder :=
  ((r.withTask i parent).withChild j .empty).withNewTask h tid group

/-- The `Birth` event of a correlated child. -/
def birthEvent (r : TaskStateRecorder) (sequence : Nat) (parent : TaskSlot) (kind : TaskChildBirthKind)
    (relation : TaskGroupRelation) : NormalizedTaskEvent :=
  .birth sequence r.nextLogicalTaskId (some parent.logicalTaskId)
    ((inherited relation parent).getD r.nextLogicalTaskId) kind.normalized

/-- The ways a recorder accepts an observation. -/
inductive Handled (r : TaskStateRecorder) :
    TaskObservation → Option NormalizedTaskEvent → TaskStateRecorder → Prop
  | initialBirth {s : Nat} {tid : Int} (h0 : r.slotsUsed = 0) (hpos : 0 < tid)
      (hnew : r.findLiveTask tid = none) (hcap : r.slotsUsed < maxTasks) :
      Handled r (.initialBirth s tid)
        (some (.birth s r.nextLogicalTaskId none r.nextLogicalTaskId .initial)) (r.withNewTask hcap tid none)
  | announce {s : Nat} {p c : Int} {kind : TaskChildBirthKind} {rel : TaskGroupRelation} {i j : Fin maxTasks}
      {n : Nat} (hpc : p ≠ c) (hc : 0 < c) (hp : r.findLiveTask p = some i)
      (hrun : (r.tasks i).phase = .running) (hn : (r.tasks i).pendingSyscall = some n)
      (hk : creationSyscallPermits (some n) kind = true) (h0 : (r.tasks i).pendingChildRawTid = 0)
      (hnew : r.findLiveTask c = none) (habs : r.findPendingChild c = none)
      (hcap : r.slotsUsed + r.pendingChildCount < maxTasks) (hj : (r.pendingChildren j).rawTid = 0) :
      Handled r (.childAnnouncement s p c kind rel) none
        ((r.withTask i { r.tasks i with pendingChildRawTid := c }).withChild j ⟨c, some ⟨i, kind, rel⟩, false⟩)
  | announceReady {s : Nat} {p c : Int} {kind : TaskChildBirthKind} {rel : TaskGroupRelation}
      {i j : Fin maxTasks} {n : Nat} (hpc : p ≠ c) (hc : 0 < c) (hp : r.findLiveTask p = some i)
      (hrun : (r.tasks i).phase = .running) (hn : (r.tasks i).pendingSyscall = some n)
      (hk : creationSyscallPermits (some n) kind = true) (h0 : (r.tasks i).pendingChildRawTid = 0)
      (hnew : r.findLiveTask c = none) (hj : r.pendingChildren j = ⟨c, none, true⟩)
      (hcap : r.slotsUsed < maxTasks) :
      Handled r (.childAnnouncement s p c kind rel) (some (r.birthEvent s (r.tasks i) kind rel))
        (r.withBirth hcap i { r.tasks i with pendingChildRawTid := c, childReadySeenForPending := true } j c
          (inherited rel (r.tasks i)))
  | ready {s : Nat} {c : Int} {j : Fin maxTasks} (hc : 0 < c) (hnew : r.findLiveTask c = none)
      (habs : r.findPendingChild c = none) (hcap : r.slotsUsed + r.pendingChildCount < maxTasks)
      (hj : (r.pendingChildren j).rawTid = 0) :
      Handled r (.childReady s c) none (r.withChild j ⟨c, none, true⟩)
  | readyAnnounced {s : Nat} {c : Int} {i j : Fin maxTasks} {kind : TaskChildBirthKind}
      {rel : TaskGroupRelation} (hc : 0 < c) (hnew : r.findLiveTask c = none)
      (hj : r.pendingChildren j = ⟨c, some ⟨i, kind, rel⟩, false⟩) (hcap : r.slotsUsed < maxTasks) :
      Handled r (.childReady s c) (some (r.birthEvent s (r.tasks i) kind rel))
        (r.withBirth hcap i { r.tasks i with childReadySeenForPending := true } j c
          (inherited rel (r.tasks i)))
  | exec {s : Nat} {tid : Int} {i : Fin maxTasks} {n : Nat} (hl : r.findLiveTask tid = some i)
      (hrun : (r.tasks i).phase = .running) (hn : (r.tasks i).pendingSyscall = some n)
      (hexec : isExecSyscall n = true) (hever : (r.tasks i).execSeenEver = false) :
      Handled r (.exec s tid tid) (some (.exec s (r.tasks i).logicalTaskId n))
        (r.withTask i { r.tasks i with execEventSeenForPending := true, execSeenEver := true })
  | seccompEntry {s : Nat} {tid : Int} {i : Fin maxTasks} {n : Nat} (hl : r.findLiveTask tid = some i)
      (hrun : (r.tasks i).phase = .running) (hn : (r.tasks i).pendingSyscall = none) :
      Handled r (.seccompEntry s tid n) (some (.seccompEntry s (r.tasks i).logicalTaskId n))
        (r.withTask i { clearPending (r.tasks i) with pendingSyscall := some n })
  | syscallExit {s : Nat} {tid result : Int} {i : Fin maxTasks} {n : Nat}
      (hl : r.findLiveTask tid = some i) (hrun : (r.tasks i).phase = .running)
      (hn : (r.tasks i).pendingSyscall = some n) (hexit : isExitSyscall n = false)
      (hcreate : isCreationSyscall n = true → checkCreationResult (r.tasks i) result = .ok ()) :
      Handled r (.syscallExit s tid result) (some (.syscallExit s (r.tasks i).logicalTaskId n))
        (r.withTask i (clearPending (r.tasks i)))
  | ptraceExit {s : Nat} {tid : Int} {t : LinuxWaitTermination} {i : Fin maxTasks}
      {resolved : Option TaskNoReturnKind} (hl : r.findLiveTask tid = some i)
      (hrun : (r.tasks i).phase = .running)
      (hres : resolveNoReturn t (r.tasks i).pendingSyscall = .ok resolved) :
      Handled r (.ptraceExitEvent s tid t) (some (.ptraceExitEvent s (r.tasks i).logicalTaskId t resolved))
        (r.withTask i { clearPending (r.tasks i) with phase := .exitObserved, termination := some t })
  | terminalReap {s : Nat} {tid : Int} {t : LinuxWaitTermination} {i : Fin maxTasks}
      (hl : r.findLiveTask tid = some i) (hphase : (r.tasks i).phase = .exitObserved)
      (ht : (r.tasks i).termination = some t) :
      Handled r (.terminalReap s tid t) (some (.terminalReap s (r.tasks i).logicalTaskId t))
        (r.withTask i { clearPending (r.tasks i) with phase := .reaped, rawTid := 0 })

/-- An observation is accepted: its tables and its counters. -/
def Taken (r : TaskStateRecorder) (obs : TaskObservation) (a : Accepted) (r' : TaskStateRecorder) : Prop :=
  Handled r obs a.1 r' ∧ Counts r.counters obs.counterKind a

theorem counts_of_incremented {c c' : TaskCounters} (h : c.incremented kind = .ok c')
    (hev : ∀ d : TaskCounters, d.withEvent ev = d) : Counts c kind (ev, c') := by
  obtain ⟨rfl, hbound⟩ := incremented_ok h
  exact ⟨(hev _).symm, hbound⟩

theorem counts_of_birth {c c' d : TaskCounters} {birth : TaskChildBirthKind} (h : c.incremented kind = .ok c')
    (hd : c'.withCorrelatedBirth birth = .ok d) {s group : Nat} :
    Counts c kind (some (.birth s id parent group birth.normalized), d) := by
  obtain ⟨rfl, hbound⟩ := incremented_ok h
  exact ⟨withCorrelatedBirth_ok hd, hbound⟩

/-- The refusals the planner's own checks are there to exclude. -/
def plannerExcluded : List TaskExecuteOnlyReason :=
  [.sequenceMismatch, .initialBirthRequired, .duplicateInitialBirth, .invalidRawTid, .unknownRawTid,
    .parentNotRunning, .childAnnouncementWithoutEntry, .childAnnouncementSyscallMismatch,
    .duplicateChildAnnouncement, .duplicateChildReady, .birthGroupRelationMismatch, .execWithoutEntry,
    .execSyscallMismatch, .duplicateSeccompEntry, .syscallExitWithoutEntry, .invalidTermination]

/-- What a planner must know of the recorder before it sends an observation. -/
def Correlated (r : TaskStateRecorder) : TaskObservation → Prop
  | .initialBirth _ _ => False
  | .childAnnouncement _ p c kind rel => 0 < c ∧
      (∃ t n, r.task p = some t ∧ t.phase = .running ∧ t.pendingSyscall = some n ∧
        creationSyscallPermits (some n) kind = true ∧ t.pendingChildRawTid = 0) ∧
      (kind ≠ .clone → rel = .newThreadGroup) ∧ ∀ q k g, r.child c ≠ some (.announced q k g)
  | .childReady _ c => 0 < c ∧ r.task c = none ∧ r.child c ≠ some .ready
  | .exec _ tid former => 0 < former ∧
      ∃ t n, r.task tid = some t ∧ t.pendingSyscall = some n ∧ isExecSyscall n = true
  | .seccompEntry _ tid _ => ∃ t, r.task tid = some t ∧ t.pendingSyscall = none
  | .syscallExit _ tid _ => ∃ t n, r.task tid = some t ∧ t.pendingSyscall = some n
  | .ptraceExitEvent _ tid t => t.valid = true ∧ ∃ u, r.task tid = some u
  | .terminalReap _ tid t => t.valid = true ∧ ∃ u, r.task tid = some u

/-- A refusal of `obs`; correlation rules out the ones the planner excludes. -/
def Refusal (r : TaskStateRecorder) (obs : TaskObservation) (e : TaskExecuteOnlyReason)
    (r' : TaskStateRecorder) : Prop :=
  r'.poisoned = r.poisoned ∧ (r.Correlated obs → e ∉ plannerExcluded)

/-! ## Lookups and counters -/

section

variable {r : TaskStateRecorder} {tid : Int} {Q : Fin maxTasks → TaskStateRecorder → Prop}
  {E : TaskExecuteOnlyReason → TaskStateRecorder → Prop}

theorem runs_liveTaskIndex :
    Runs (liveTaskIndex tid) r Q E ↔ (tid ≤ 0 → E .invalidRawTid r) ∧
      (¬ tid ≤ 0 → (r.findLiveTask tid = none → E .unknownRawTid r) ∧
        ∀ i, r.findLiveTask tid = some i → Q i r) := by
  simp [liveTaskIndex, requirePositiveTid]

theorem phase_of_find (hi : r.Inv) (h : r.findLiveTask tid = some i) :
    (r.tasks i).phase = .running ∨ (r.tasks i).phase = .exitObserved := by
  obtain ⟨⟨hu, hr⟩, -⟩ := findLiveTask_some h
  have hun := hi.phases i hu
  cases hp : (r.tasks i).phase <;> simp_all

theorem runs_runningTaskIndex (hi : r.Inv) :
    Runs (runningTaskIndex tid) r Q E ↔ (tid ≤ 0 → E .invalidRawTid r) ∧
      (¬ tid ≤ 0 → (r.findLiveTask tid = none → E .unknownRawTid r) ∧
        ∀ i, r.findLiveTask tid = some i →
          ((r.tasks i).phase ≠ .running → E .lateLifecycleEvent r) ∧
          ((r.tasks i).phase = .running → Q i r)) := by
  simp only [runningTaskIndex, runs_bind, runs_liveTaskIndex, runs_get]
  refine and_congr_right fun _ => imp_congr_right fun _ => and_congr_right fun _ => forall_congr' fun i => ?_
  refine imp_congr_right fun h => ?_
  rcases phase_of_find hi h with hp | hp <;> simp [hp]

end

variable {n : Nat} {e : TaskExecuteOnlyReason} {c : TaskCounters} {r' : TaskStateRecorder} {obs : TaskObservation}

theorem succOrOverflow_error (h : succOrOverflow n = .error e) : e = .counterOverflow := by
  unfold succOrOverflow at h
  split at h <;> cases h
  rfl

theorem succOrOverflow_map_error {α : Type} {f : Nat → α} (h : (do return f (← succOrOverflow n)) = Except.error e) :
    e = .counterOverflow := by
  cases hs : succOrOverflow n with
  | ok m => rw [hs] at h; cases h
  | error e' => rw [hs] at h; cases h; exact succOrOverflow_error hs

theorem incremented_error (h : c.incremented kind = .error e) : e = .counterOverflow := by
  unfold TaskCounters.incremented at h
  cases hs : succOrOverflow c.acceptedTransitionCount with
  | error e' => rw [hs] at h; cases h; exact succOrOverflow_error hs
  | ok m =>
    rw [hs] at h
    cases kind <;> exact succOrOverflow_map_error h

theorem withCorrelatedBirth_error {kind : TaskChildBirthKind} (h : c.withCorrelatedBirth kind = .error e) :
    e = .counterOverflow := by
  cases kind <;> exact succOrOverflow_map_error h

variable {r : TaskStateRecorder}

/-- A refusal the planner does not exclude. -/
theorem refusal_other (hp : r'.poisoned = r.poisoned) (he : e ∉ plannerExcluded) :
    Refusal r obs e r' := ⟨hp, fun _ => he⟩

theorem refusal_overflow (hp : r'.poisoned = r.poisoned) (he : e = .counterOverflow) :
    Refusal r obs e r' :=
  refusal_other hp (by rw [he]; decide)

theorem refusal_incremented (hp : r'.poisoned = r.poisoned) (e : TaskExecuteOnlyReason)
    (he : c.incremented kind = .error e) : Refusal r obs e r' := refusal_overflow hp (incremented_error he)

/-! ## One task at a time -/

theorem checkExecResult_error {seen : Bool} {result : Int} (h : checkExecResult seen result = .error e) :
    e ∉ plannerExcluded := by
  unfold checkExecResult at h
  repeat' split at h
  all_goals cases h
  all_goals decide

theorem checkCreationResult_error {t : TaskSlot} {result : Int} (h : checkCreationResult t result = .error e) :
    e ∉ plannerExcluded := by
  unfold checkCreationResult at h
  repeat' split at h
  all_goals cases h
  all_goals decide

theorem resolveNoReturn_error {t : LinuxWaitTermination} {o : Option Nat} (h : resolveNoReturn t o = .error e) :
    e ∉ plannerExcluded := by
  unfold resolveNoReturn at h
  repeat' split at h
  all_goals cases h
  all_goals decide

section

variable {r : TaskStateRecorder} (hi : r.Inv)

include hi

theorem observeSeccompEntry_runs (s : Nat) (tid : Int) (n : Nat) :
    Runs (observeSeccompEntry s tid n) r (Taken r (.seccompEntry s tid n))
      (Refusal r (.seccompEntry s tid n)) := by
  simp only [observeSeccompEntry, runs_bind, runs_runningTaskIndex hi, runs_get, runs_refuseIf, setTask,
    runs_modify, runs_attempt, runs_pure]
  refine ⟨fun hneg => ⟨rfl, ?_⟩, fun _ => ⟨fun hnone => ⟨rfl, ?_⟩, fun i hl =>
    ⟨fun _ => refusal_other rfl (by decide), fun hrun => ⟨fun hsome => ⟨rfl, ?_⟩, fun hn =>
      ⟨refusal_incremented rfl, fun c hc => ?_⟩⟩⟩⟩⟩
  · rintro ⟨t, ht, -⟩
    exact absurd (task_pos hi ht) (by omega)
  · rintro ⟨t, ht, -⟩
    simp [task, hnone] at ht
  · rintro ⟨t, ht, hnone⟩
    rw [task_of_find hl, Option.some.injEq] at ht
    simp [ht, hnone] at hsome
  · exact ⟨.seccompEntry hl hrun (by simpa using hn), counts_of_incremented hc fun _ => rfl⟩

theorem observeExec_runs (s : Nat) (tid former : Int) :
    Runs (observeExec s tid former) r (Taken r (.exec s tid former))
      (Refusal r (.exec s tid former)) := by
  simp only [observeExec, requirePositiveTid, runs_bind, runs_runningTaskIndex hi, runs_get, runs_refuseIf,
    setTask, runs_modify, runs_attempt, runs_pure, runs_okOr]
  refine ⟨fun hneg => ⟨rfl, ?_⟩, fun _ => ⟨fun _ => refusal_other rfl (by decide), fun heq =>
    ⟨fun hneg => ⟨rfl, ?_⟩, fun _ => ⟨fun hnone => ⟨rfl, ?_⟩, fun i hl =>
    ⟨fun _ => refusal_other rfl (by decide), fun hrun => ⟨fun hnone => ⟨rfl, ?_⟩, fun n hn =>
    ⟨fun hexec => ⟨rfl, ?_⟩, fun hexec => ⟨fun _ => refusal_other rfl (by decide), fun hdup =>
    ⟨fun _ => refusal_other rfl (by decide), fun _ =>
      ⟨refusal_incremented rfl, fun c hc => ?_⟩⟩⟩⟩⟩⟩⟩⟩⟩⟩
  · rintro ⟨hpos, -⟩
    omega
  · rintro ⟨-, t, n, ht, -⟩
    exact absurd (task_pos hi ht) (by omega)
  · rintro ⟨-, t, n, ht, -⟩
    simp [task, hnone] at ht
  · rintro ⟨-, t, n, ht, hn, -⟩
    rw [task_of_find hl, Option.some.injEq] at ht
    simp [ht, hn] at hnone
  · rintro ⟨-, t, m, ht, hm, hok⟩
    rw [task_of_find hl, Option.some.injEq] at ht
    rw [ht, hm, Option.some.injEq] at hn
    rw [← hn, hok] at hexec
    cases hexec
  · obtain rfl : tid = former := by simpa using heq
    exact ⟨.exec hl hrun hn (by simpa using hexec) (by simpa using (not_or.1 hdup).2),
      counts_of_incremented hc fun _ => rfl⟩

theorem observeSyscallExit_runs (s : Nat) (tid result : Int) :
    Runs (observeSyscallExit s tid result) r (Taken r (.syscallExit s tid result))
      (Refusal r (.syscallExit s tid result)) := by
  simp only [observeSyscallExit, runs_bind, runs_runningTaskIndex hi, runs_get, runs_refuseIf, setTask,
    runs_modify, runs_attempt, runs_pure, runs_okOr]
  refine ⟨fun hneg => ⟨rfl, ?_⟩, fun _ => ⟨fun hnone => ⟨rfl, ?_⟩, fun i hl =>
    ⟨fun _ => refusal_other rfl (by decide), fun hrun => ⟨fun hnone => ⟨rfl, ?_⟩, fun n hn =>
    ⟨fun _ => refusal_other rfl (by decide), fun _ => ⟨fun _ => refusal_other rfl (by decide), fun hexit =>
    ⟨fun e he => refusal_other rfl ?_, fun _ _ => ⟨fun e he => refusal_other rfl ?_, fun _ hcreate =>
      ⟨refusal_incremented rfl, fun c hc => ?_⟩⟩⟩⟩⟩⟩⟩⟩⟩
  · rintro ⟨t, n, ht, -⟩
    exact absurd (task_pos hi ht) (by omega)
  · rintro ⟨t, n, ht, -⟩
    simp [task, hnone] at ht
  · rintro ⟨t, n, ht, hn⟩
    rw [task_of_find hl, Option.some.injEq] at ht
    simp [ht, hn] at hnone
  · split at he
    · exact checkExecResult_error he
    · cases he
  · split at he
    · exact checkCreationResult_error he
    · cases he
  · exact ⟨.syscallExit hl hrun hn (by simpa using hexit) fun hc => by simpa [hc] using hcreate,
      counts_of_incremented hc fun _ => rfl⟩

theorem observePtraceExit_runs (s : Nat) (tid : Int) (t : LinuxWaitTermination) :
    Runs (observePtraceExit s tid t) r (Taken r (.ptraceExitEvent s tid t))
      (Refusal r (.ptraceExitEvent s tid t)) := by
  simp only [observePtraceExit, runs_bind, runs_liveTaskIndex, runs_get, runs_refuseIf]
  refine ⟨fun hv => ⟨rfl, ?_⟩, fun _ => ⟨fun hneg => ⟨rfl, ?_⟩, fun _ => ⟨fun hnone => ⟨rfl, ?_⟩, fun i hl => ?_⟩⟩⟩
  · rintro ⟨hok, -⟩
    rw [hok] at hv
    cases hv
  · rintro ⟨-, u, hu⟩
    exact absurd (task_pos hi hu) (by omega)
  · rintro ⟨-, u, hu⟩
    simp [task, hnone] at hu
  · rcases phase_of_find hi hl with hp | hp
    · simp only [hp, setTask, runs_bind, runs_modify, runs_attempt, runs_pure]
      refine ⟨fun e he => refusal_other rfl (resolveNoReturn_error he), fun resolved hres =>
        ⟨refusal_incremented rfl, fun c hc =>
        ⟨fun e he => refusal_overflow rfl ?_, fun c' hc' => ⟨.ptraceExit hl hp hres, ?_⟩⟩⟩⟩
      · split at he
        · exact succOrOverflow_map_error he
        · cases he
      · obtain ⟨rfl, hbound⟩ := incremented_ok hc
        refine ⟨?_, hbound⟩
        cases resolved with
        | none =>
          cases hc'
          rfl
        | some kind => exact withNoReturnResolution_ok hc'
    · simp only [hp, runs_throw]
      exact refusal_other rfl (by decide)

theorem observeTerminalReap_runs (s : Nat) (tid : Int) (t : LinuxWaitTermination) :
    Runs (observeTerminalReap s tid t) r (Taken r (.terminalReap s tid t))
      (Refusal r (.terminalReap s tid t)) := by
  simp only [observeTerminalReap, runs_bind, runs_liveTaskIndex, runs_get, runs_refuseIf]
  refine ⟨fun hv => ⟨rfl, ?_⟩, fun _ => ⟨fun hneg => ⟨rfl, ?_⟩, fun _ => ⟨fun hnone => ⟨rfl, ?_⟩, fun i hl => ?_⟩⟩⟩
  · rintro ⟨hok, -⟩
    rw [hok] at hv
    cases hv
  · rintro ⟨-, u, hu⟩
    exact absurd (task_pos hi hu) (by omega)
  · rintro ⟨-, u, hu⟩
    simp [task, hnone] at hu
  · rcases phase_of_find hi hl with hp | hp
    · simp only [hp, runs_throw]
      exact refusal_other rfl (by decide)
    · simp only [hp, setTask, runs_bind, runs_modify, runs_attempt, runs_pure, runs_refuseIf]
      exact ⟨fun _ => refusal_other rfl (by decide), fun ht =>
        ⟨refusal_incremented rfl, fun c hc =>
          ⟨.terminalReap hl hp (by simpa using ht), counts_of_incremented hc fun _ => rfl⟩⟩⟩

end

/-! ## Children -/

@[simp] theorem withChild_findLiveTask (r : TaskStateRecorder) (j : Fin maxTasks)
    (p : PendingChildCorrelation) (tid : Int) : (r.withChild j p).findLiveTask tid = r.findLiveTask tid := rfl

/-- Rewriting a slot without touching its TID or phase moves no live task. -/
theorem withTask_findLiveTask {t : TaskSlot} (hraw : t.rawTid = (r.tasks i).rawTid)
    (hphase : t.phase = (r.tasks i).phase) (tid : Int) : (r.withTask i t).findLiveTask tid = r.findLiveTask tid := by
  unfold findLiveTask
  congr 1
  funext k
  rw [Bool.eq_iff_iff, isLiveAt_iff, isLiveAt_iff]
  by_cases hk : k = i
  · subst hk
    simp [LiveAt, hraw, hphase]
  · simp [LiveAt, Table.put_other _ _ hk]

section

variable {r : TaskStateRecorder} {E : TaskExecuteOnlyReason → TaskStateRecorder → Prop}

theorem runs_insertTask (hid : r.nextLogicalTaskId = r.slotsUsed + 1) {tid : Int} {group : Option Nat}
    {Q : Nat → TaskStateRecorder → Prop} :
    Runs (insertTask tid group) r Q E ↔ (tid ≤ 0 → E .invalidRawTid r) ∧
      (¬ tid ≤ 0 → ((r.findLiveTask tid).isSome = true → E .duplicateRawTid r) ∧
        (¬ (r.findLiveTask tid).isSome = true → (¬ r.slotsUsed < maxTasks → E .taskCapacityExceeded r) ∧
          ∀ h : r.slotsUsed < maxTasks, Q r.nextLogicalTaskId (r.withNewTask h tid group))) := by
  simp only [insertTask, requirePositiveTid, runs_bind, runs_refuseIf, runs_get]
  by_cases h : r.slotsUsed < maxTasks
  · -- ids are bounded by the slots, so neither id check fires
    have hs : checkedSucc32 r.nextLogicalTaskId = some (r.nextLogicalTaskId + 1) := by
      have hm : maxTasks = 256 := rfl
      simp only [checkedSucc32, ite_eq_left_iff]
      omega
    have h0 : r.nextLogicalTaskId ≠ 0 := by omega
    simp [h, hs, h0, withNewTask]
  · simp [h]

theorem runs_pendingChildIndexOrInsert {tid : Int} {Q : Fin maxTasks → TaskStateRecorder → Prop} :
    Runs (pendingChildIndexOrInsert tid) r Q E ↔ (∀ j, r.findPendingChild tid = some j → Q j r) ∧
      (r.findPendingChild tid = none →
        (r.slotsUsed + r.pendingChildCount ≥ maxTasks → E .taskCapacityExceeded r) ∧
        (¬ r.slotsUsed + r.pendingChildCount ≥ maxTasks →
          (r.pendingChildren.position (fun pending => pending.rawTid == 0) = none → E .taskCapacityExceeded r) ∧
          ∀ j, r.pendingChildren.position (fun pending => pending.rawTid == 0) = some j →
            Q j (r.withChild j ⟨tid, none, false⟩))) := by
  simp only [pendingChildIndexOrInsert, runs_bind, runs_get]
  cases hf : r.findPendingChild tid with
  | some j =>
    simp only [findPendingChild] at hf
    simp [hf]
  | none =>
    simp only [findPendingChild] at hf
    simp [hf, setPendingChild, withChild]

variable {s : Nat} {j : Fin maxTasks} {c : TaskCounters}

variable {Q : Accepted → TaskStateRecorder → Prop}

theorem runs_finish_unannounced
    (ha : (r.pendingChildren j).announcement = none) : Runs (finishChildCorrelation s j c) r Q E ↔ Q (none, c) r := by
  simp [finishChildCorrelation, ha]

theorem runs_finish_not_ready
    (ha : (r.pendingChildren j).announcement = some a) (hready : (r.pendingChildren j).readySeen = false) :
    Runs (finishChildCorrelation s j c) r Q E ↔ Q (none, c) r := by
  simp [finishChildCorrelation, ha, hready]

/-- A child announced by a running parent and ready is born, unless a slot or a counter runs out. -/
theorem runs_finish_birth (hid : r.nextLogicalTaskId = r.slotsUsed + 1)
    (ha : (r.pendingChildren j).announcement = some a) (hready : (r.pendingChildren j).readySeen = true)
    (hrun : (r.tasks a.parentIndex).phase = .running) (hused : a.parentIndex.val < r.slotsUsed)
    (hchild : (r.tasks a.parentIndex).pendingChildRawTid = (r.pendingChildren j).rawTid)
    (hk : creationSyscallPermits (r.tasks a.parentIndex).pendingSyscall a.kind = true)
    (hpos : 0 < (r.pendingChildren j).rawTid) (hnew : r.findLiveTask (r.pendingChildren j).rawTid = none)
    (hcapE : E .taskCapacityExceeded r) (hover : ∀ r', r'.poisoned = r.poisoned → E .counterOverflow r')
    (hQ : ∀ (hcap : r.slotsUsed < maxTasks) (c' : TaskCounters), c.withCorrelatedBirth a.kind = .ok c' →
      Q (some (r.birthEvent s (r.tasks a.parentIndex) a.kind a.groupRelation), c')
        (r.withBirth hcap a.parentIndex
          { r.tasks a.parentIndex with childReadySeenForPending := true } j (r.pendingChildren j).rawTid
          (inherited a.groupRelation (r.tasks a.parentIndex)))) : Runs (finishChildCorrelation s j c) r Q E := by
  simp only [finishChildCorrelation, runs_bind, runs_get, ha, hready, Bool.true_eq_false, ↓reduceIte,
    runs_refuseIf, hrun, ne_eq, not_true_eq_false, false_imp_iff, hchild, hk, or_self, not_false_eq_true,
    true_imp_iff, true_and, runs_insertTask hid, setTask, setPendingChild, runs_modify, runs_attempt, runs_pure]
  refine ⟨fun h => absurd hpos (by omega), fun _ => ⟨fun h => by simp [hnew] at h, fun _ =>
    ⟨fun _ => hcapE, fun hcap => ⟨fun e he => ?_, fun c' hc' => ?_⟩⟩⟩⟩
  · rw [withCorrelatedBirth_error he]
    exact hover _ rfl
  · -- the parent's slot is not the new one, so the two writes commute
    have hne : a.parentIndex ≠ ⟨r.slotsUsed, hcap⟩ := fun h => by simp [h] at hused
    have hstate := hQ hcap c' hc'
    simp only [withBirth, withTask, withChild, withNewTask, birthEvent, inherited] at hstate ⊢
    rw [Table.put_comm _ _ _ hne.symm, Table.put_other _ _ hne]
    exact hstate

end

section

variable {r : TaskStateRecorder} (hi : r.Inv)

include hi

theorem observeInitialBirth_runs (s : Nat) (tid : Int) :
    Runs (observeInitialBirth s tid) r (Taken r (.initialBirth s tid))
      (Refusal r (.initialBirth s tid)) := by
  simp only [observeInitialBirth, runs_bind, runs_get, runs_refuseIf, runs_insertTask hi.nextId, runs_attempt,
    runs_pure]
  refine ⟨fun _ => ⟨rfl, False.elim⟩, fun h0 => ⟨fun _ => ⟨rfl, False.elim⟩, fun hpos => ?_⟩⟩
  refine ⟨fun _ => ⟨rfl, False.elim⟩, fun hnew => ⟨fun _ => ⟨rfl, False.elim⟩, fun hcap => ?_⟩⟩
  refine ⟨fun _ _ => ⟨rfl, False.elim⟩, fun c hc => ?_⟩
  exact ⟨.initialBirth (by simpa using h0) (by omega) (by simpa using hnew) hcap, counts_of_incremented hc fun _ => rfl⟩

theorem observeChildReady_runs (s : Nat) (c : Int) :
    Runs (observeChildReady s c) r (Taken r (.childReady s c))
      (Refusal r (.childReady s c)) := by
  simp only [observeChildReady, requirePositiveTid, runs_bind, runs_get, runs_refuseIf,
    runs_pendingChildIndexOrInsert, setPendingChild, runs_modify, runs_attempt]
  refine ⟨fun hneg => ⟨rfl, fun hc => absurd hc.1 (by omega)⟩, fun hpos => ⟨fun hlive => ⟨rfl, ?_⟩, fun hnew =>
    ⟨fun j hj => ⟨fun hready => ⟨rfl, ?_⟩, fun hready => ⟨refusal_incremented rfl,
      fun c' hc' => ?_⟩⟩, fun habs => ⟨fun _ => refusal_other rfl (by decide), fun hcap =>
    ⟨fun _ => refusal_other rfl (by decide), fun j hj => ?_⟩⟩⟩⟩⟩
  · rintro ⟨-, hnone, -⟩
    simp [task, Option.isSome_iff_exists] at hlive hnone
    simp [hnone] at hlive
  · rintro ⟨hc, -, hchild⟩
    have hraw : (r.pendingChildren j).rawTid = c := by simpa using Table.position_some hj
    refine fun _ => hchild ((child_eq_some hi).2 ⟨by omega, j, hraw, ?_⟩)
    simp [childStateAt, (hi.childHalf j (by omega)).2 hready]
  · -- the slot was announced: the child is born
    have hraw : (r.pendingChildren j).rawTid = c := by simpa using Table.position_some hj
    have h0 : (r.pendingChildren j).rawTid ≠ 0 := by omega
    have hready' : (r.pendingChildren j).readySeen = false := by simpa using hready
    obtain ⟨a, ha⟩ : ∃ a, (r.pendingChildren j).announcement = some a :=
      Option.ne_none_iff_exists'.1 fun h => hready ((hi.childHalf j h0).1 h)
    obtain ⟨⟨hused, -⟩, hrun, hpc, -, hk⟩ := hi.childParent j a h0 ha
    have hnew' : r.findLiveTask c = none := by simpa using hnew
    refine runs_finish_birth (a := a) (r := r.withChild j _) hi.nextId (by simp [ha])
      (by simp) hrun hused (by simpa using hpc) hk (by simpa [hraw] using hpos)
      ?_ (refusal_other rfl (by decide)) (fun r' h => refusal_overflow h rfl) fun hcap c'' hc'' => ?_
    · simpa [hraw] using hnew'
    · have hbirth := Handled.readyAnnounced (s := s) (by omega : 0 < c) hnew'
        (show r.pendingChildren j = ⟨c, some ⟨a.parentIndex, a.kind, a.groupRelation⟩, false⟩ by
          rw [← hraw, ← hready', ← ha]) hcap
      exact ⟨by simpa [withBirth, withTask_withChild, hraw, birthEvent] using hbirth, counts_of_birth hc' hc''⟩
  · -- a fresh slot: the child waits for its announcement
    simp only [withChild_pendingChildren, Table.put_self, withChild_withChild, Bool.false_eq_true, false_imp_iff,
      not_false_eq_true, true_imp_iff, true_and]
    refine ⟨refusal_incremented rfl, fun c' hc' => ?_⟩
    rw [runs_finish_unannounced (by simp)]
    exact ⟨.ready (by omega) (by simpa using hnew) habs (by omega) (by simpa using Table.position_some hj),
      counts_of_incremented hc' fun _ => rfl⟩

theorem observeChildAnnouncement_runs (s : Nat) (p c : Int) (kind : TaskChildBirthKind)
    (rel : TaskGroupRelation) :
    Runs (observeChildAnnouncement s p c kind rel) r
      (Taken r (.childAnnouncement s p c kind rel))
      (Refusal r (.childAnnouncement s p c kind rel)) := by
  simp only [observeChildAnnouncement, requirePositiveTid, runs_bind, runs_get, runs_refuseIf, runs_okOr,
    runs_pendingChildIndexOrInsert, setPendingChild, setTask, runs_modify, runs_attempt]
  -- what correlation says once the parent's slot is found
  have hknown : ∀ i, r.findLiveTask p = some i → r.Correlated (.childAnnouncement s p c kind rel) →
      ∃ n, (r.tasks i).phase = .running ∧ (r.tasks i).pendingSyscall = some n ∧
        creationSyscallPermits (some n) kind = true ∧ (r.tasks i).pendingChildRawTid = 0 := by
    rintro i hl ⟨-, ⟨t, n, ht, hrun, hn, hk, h0⟩, -⟩
    rw [task_of_find hl, Option.some.injEq] at ht
    exact ⟨n, ht ▸ hrun, ht ▸ hn, hk, ht ▸ h0⟩
  refine ⟨fun hneg => ⟨rfl, ?_⟩, fun _ => ⟨fun hneg => ⟨rfl, fun hc => absurd hc.1 (by omega)⟩, fun hpos =>
    ⟨fun _ => refusal_other rfl (by decide), fun hpc => ⟨fun hnone => ⟨rfl, ?_⟩, fun i hl =>
    ⟨fun hphase => ⟨rfl, fun hc => ?_⟩, fun hrun => ⟨fun hnone => ⟨rfl, fun hc => ?_⟩, fun n hn =>
    ⟨fun hk => ⟨rfl, fun hc => ?_⟩, fun hk => ⟨fun h0 => ⟨rfl, fun hc => ?_⟩, fun h0 =>
    ⟨fun hrel => ⟨rfl, fun hc => absurd (hc.2.2.1 hrel.1) hrel.2⟩, fun _ =>
    ⟨fun _ => refusal_other rfl (by decide), fun hnew => ⟨fun j hj => ⟨fun hann => ⟨rfl, fun hc => ?_⟩,
      fun hann => ⟨refusal_incremented rfl, fun c' hc' => ?_⟩⟩, fun habs =>
    ⟨fun _ => refusal_other rfl (by decide), fun hcap => ⟨fun _ => refusal_other rfl (by decide),
      fun j hj => ?_⟩⟩⟩⟩⟩⟩⟩⟩⟩⟩⟩⟩⟩
  · rintro ⟨-, ⟨t, n, ht, -⟩, -⟩
    exact absurd (task_pos hi ht) (by omega)
  · rintro ⟨-, ⟨t, n, ht, -⟩, -⟩
    simp [task, hnone] at ht
  · obtain ⟨n, hrun, -⟩ := hknown i hl hc
    exact absurd hrun hphase
  · obtain ⟨n, -, hn, -⟩ := hknown i hl hc
    simp [hn] at hnone
  · obtain ⟨m, -, hm, hok, -⟩ := hknown i hl hc
    rw [hm, Option.some.injEq] at hn
    simp [← hn, hok] at hk
  · obtain ⟨m, -, -, -, hz⟩ := hknown i hl hc
    exact absurd hz h0
  · -- an announced child has a parent on record
    have hraw : (r.pendingChildren j).rawTid = c := by simpa using Table.position_some hj
    obtain ⟨a, ha⟩ := Option.isSome_iff_exists.1 hann
    refine absurd ((child_eq_some hi).2 ⟨by omega, j, hraw, rfl⟩) ?_
    simp only [childStateAt, ha]
    exact hc.2.2.2 _ _ _
  · -- the child is already stopped: it is born now
    have hraw : (r.pendingChildren j).rawTid = c := by simpa using Table.position_some hj
    have hnone : (r.pendingChildren j).announcement = none := by simpa using hann
    have hready : (r.pendingChildren j).readySeen = true := (hi.childHalf j (by omega)).1 hnone
    have hnew' : r.findLiveTask c = none := by simpa using hnew
    obtain ⟨⟨hused, -⟩, -⟩ := findLiveTask_some hl
    refine runs_finish_birth (a := ⟨i, kind, rel⟩)
      (r := (r.withChild j { r.pendingChildren j with announcement := some ⟨i, kind, rel⟩ }).withTask i
        { r.tasks i with pendingChildRawTid := c }) hi.nextId (by simp) (by simpa using hready)
      (by simpa using hrun) hused (by simp [hraw]) (by simpa [hn] using hk) (by simp [hraw]; omega) ?_
      (refusal_other rfl (by decide)) (fun r' h => refusal_overflow h rfl) fun hcap c'' hc'' => ?_
    · refine (withTask_findLiveTask (by simp) (by simp) _).trans ?_
      simpa [hraw] using hnew'
    · have hbirth : Handled r (.childAnnouncement s p c kind rel) _ _ :=
        .announceReady (by simpa using hpc) (by omega) hl (by simpa using hrun) hn (by simpa using hk)
          (by simpa using h0) hnew' (show r.pendingChildren j = ⟨c, none, true⟩ by rw [← hraw, ← hnone, ← hready]) hcap
      have hparent : inherited rel { r.tasks i with pendingChildRawTid := c } = inherited rel (r.tasks i) := by
        cases rel <;> rfl
      exact ⟨by simpa [withBirth, withTask, withChild, hraw, birthEvent, hparent] using hbirth, counts_of_birth hc' hc''⟩
  · -- a fresh slot: the parent is held until the child stops
    simp only [withChild_pendingChildren, Table.put_self, withChild_withChild, Option.isSome_none,
      Bool.false_eq_true, false_imp_iff, not_false_eq_true, true_imp_iff, true_and]
    refine ⟨refusal_incremented rfl, fun c' hc' => ?_⟩
    rw [runs_finish_not_ready (a := ⟨i, kind, rel⟩) (by simp) (by simp)]
    exact ⟨.announce (by simpa using hpc) (by omega) hl (by simpa using hrun) hn (by simpa using hk)
      (by simpa using h0) (by simpa using hnew) habs (by omega) (by simpa using Table.position_some hj),
      counts_of_incremented hc' fun _ => rfl⟩

/-- Every way `handle` can end. -/
theorem handle_runs (obs : TaskObservation) :
    Runs (handle obs) r (Taken r obs) (Refusal r obs) := by
  cases obs with
  | initialBirth s tid => exact observeInitialBirth_runs hi s tid
  | childAnnouncement s p c kind rel => exact observeChildAnnouncement_runs hi s p c kind rel
  | childReady s c => exact observeChildReady_runs hi s c
  | exec s tid former => exact observeExec_runs hi s tid former
  | seccompEntry s tid n => exact observeSeccompEntry_runs hi s tid n
  | syscallExit s tid result => exact observeSyscallExit_runs hi s tid result
  | ptraceExitEvent s tid t => exact observePtraceExit_runs hi s tid t
  | terminalReap s tid t => exact observeTerminalReap_runs hi s tid t

end

/-! ## One call -/

/-- A recorder after an accepted observation: the tables `Handled` leaves, counted and in sequence. -/
structure Observed (r : TaskStateRecorder) (obs : TaskObservation) (ev : Option NormalizedTaskEvent)
    (r' : TaskStateRecorder) : Prop where
  inSequence : obs.sequence = r.nextTransportSequence
  started : r.slotsUsed = 0 → obs.isInitialBirth = true
  handled : ∃ tables : TaskStateRecorder, Handled r obs ev tables ∧ ∃ counters,
    r' = { tables with counters := counters, nextTransportSequence := r.nextTransportSequence + 1 }

theorem runs_orPoison {α : Type} {x : RecorderM α} (hp : r.poisoned = none)
    {Q : α → TaskStateRecorder → Prop} {E : TaskExecuteOnlyReason → TaskStateRecorder → Prop}
    (h : Runs x r Q fun e r' => r'.poisoned = r.poisoned ∧ E e { r' with poisoned := some e }) :
    Runs (orPoison x) r Q E := by
  unfold Runs orPoison at *
  cases hx : x r with
  | ok a r' => simpa [hx] using h
  | error e r' =>
    simp only [hx, hp] at h
    simp only [poison, h.1]
    exact h.2

theorem handled_poisoned (h : Handled r obs ev r') : r'.poisoned = r.poisoned := by
  cases h <;> rfl

theorem checkedSucc_some {m : Nat} (h : checkedSucc n = some m) : m = n + 1 := by
  unfold checkedSucc at h
  split at h <;> cases h
  rfl

/-- Every way a call to a healthy recorder can end: it accepts the observation, or it is poisoned
with the reason it returns, which correlation in sequence limits. -/
theorem observe_runs (hi : r.Inv) (hp : r.poisoned = none) (obs : TaskObservation)
    (sink : EventSink) :
    Runs (observe obs sink) r (fun ev r' => Observed r obs ev r' ∧ (∀ e, ev = some e → sink e = true) ∧
        Counts r.counters obs.counterKind (ev, r'.counters))
      (fun e r' => r'.poisoned = some e ∧
        (r.Correlated obs → obs.sequence = r.nextTransportSequence → 0 < r.slotsUsed → e ∉ plannerExcluded)) := by
  simp only [observe, runs_bind, runs_get, hp]
  refine runs_orPoison hp ((runs_refuseIf _ _).2 ⟨fun hseq => ⟨rfl, rfl, fun _ h => absurd h hseq⟩, fun hseq => ?_⟩)
  refine runs_orPoison hp ((runs_refuseIf _ _).2 ⟨fun h => ⟨rfl, rfl, fun _ _ hu => absurd h.1 (by omega)⟩,
    fun hstart => ?_⟩)
  refine runs_orPoison hp ((runs_okOr _ _).2 ⟨fun _ => ⟨rfl, rfl, fun _ _ _ => by decide⟩, fun next hnext => ?_⟩)
  refine runs_orPoison hp ((handle_runs hi obs).mono ?_ fun e r' he => ⟨he.1, rfl, fun hc _ _ => he.2 hc⟩)
  rintro ⟨ev, counters⟩ r' ⟨hh, hcounts⟩
  have hp' : r'.poisoned = none := (handled_poisoned hh).trans hp
  refine runs_orPoison hp' ((runs_refuseIf _ _).2 ⟨fun _ => ⟨rfl, rfl, fun _ _ _ => by decide⟩, fun hsink => ?_⟩)
  refine ⟨⟨by simpa using hseq, fun h0 => by simpa [h0] using hstart, r', hh, counters, ?_⟩, ?_, hcounts⟩
  · rw [checkedSucc_some hnext]
  · rintro e rfl
    simpa using hsink

end TaskStateRecorder

end Again.Tracer
