import Again.Lib.Lockstep
import Again.Tracer.TaskCompletion

/-!
# The two orders of a child's arrival

The kernel reports a new child twice: its parent's announcement, and the stop
of the child itself. Nothing fixes which comes first. The two orders go through
different slots of the recorder, and in between the recorder is in one of two
states that differ only in how far that child is: announced, or stopped. Every
observation that concerns neither the child nor the parent's creation syscall
is taken or refused alike from both, so the order shows nowhere once the child
is born.
-/

namespace Again.Tracer

open Lib TaskObservation Table TaskCounters

variable {i j : Fin maxTasks} {s a : TaskStateRecorder} {ev : Option NormalizedTaskEvent}
  {calls : List (TaskObservation × EventSink)}

variable {r t b : TaskStateRecorder} {obs : TaskObservation} {kind : TaskChildBirthKind} {rel : TaskGroupRelation}
  {between : List (TaskObservation × EventSink)} {es : List (Option NormalizedTaskEvent)} {p tid c : Int}
  {ca : TaskCounters}

/-- The observation names the child, or opens, closes or uses a creation syscall of the parent. -/
def TaskObservation.touches (parentRawTid childRawTid : Int) : TaskObservation → Bool
  | .initialBirth _ rawTid => rawTid == childRawTid
  | .childAnnouncement _ parent child _ _ => parent == childRawTid || child == childRawTid || parent == parentRawTid
  | .childReady _ child => child == childRawTid
  | .exec _ rawTid formerRawTid => rawTid == childRawTid || formerRawTid == childRawTid
  | .seccompEntry _ rawTid _ => rawTid == childRawTid || rawTid == parentRawTid
  | .syscallExit _ rawTid _ => rawTid == childRawTid || rawTid == parentRawTid
  | .ptraceExitEvent _ rawTid _ => rawTid == childRawTid
  | .terminalReap _ rawTid _ => rawTid == childRawTid

/-- Seen of the task, the observation says it is not inside a creation syscall. -/
def TaskObservation.outsideCreation (tid : Int) : TaskObservation → Prop
  | .exec _ rawTid _ | .ptraceExitEvent _ rawTid _ | .terminalReap _ rawTid _ => rawTid = tid
  | _ => False

/-! ## Counters -/

namespace TaskCounters

/-- Every accepted transition is counted under one kind. -/
def Summed (c : TaskCounters) : Prop :=
  c.acceptedTransitionCount = c.initialBirthCount + c.childAnnouncementCount + c.childReadyCount + c.execCount +
    c.seccompEntryCount + c.syscallExitCount + c.ptraceExitEventCount + c.terminalReapCount

/-- The counters of two recorders that saw the same, but one the announcement and the other the stop. -/
def Twinned (ca cb : TaskCounters) : Prop :=
  ∃ c : TaskCounters, ca = c.bumped .childAnnouncement ∧ cb = c.bumped .childReady

theorem bumped_comm (c : TaskCounters) (k l : CounterKind) : (c.bumped k).bumped l = (c.bumped l).bumped k := by
  cases k <;> cases l <;> rfl

end TaskCounters

theorem succOrOverflow_eq (n : Nat) :
    succOrOverflow n = if n + 1 < 2 ^ 64 then .ok (n + 1) else .error .counterOverflow := by
  unfold succOrOverflow checkedSucc
  split <;> rename_i h <;> split at h <;> simp_all

/-- When the total fits so does every counter. -/
theorem incremented_eq {c : TaskCounters} (h : c.Summed) (kind : CounterKind) :
    c.incremented kind =
      if c.acceptedTransitionCount + 1 < 2 ^ 64 then .ok (c.bumped kind) else .error .counterOverflow := by
  unfold TaskCounters.Summed at h
  unfold incremented
  rw [succOrOverflow_eq]
  split
  · cases kind <;>
    · simp only [ok_bind, succOrOverflow_eq]
      rw [if_pos (by omega)]
      rfl
  · rfl

namespace TaskStateRecorder

variable {m : Fin maxTasks}

theorem Counted.summed (h : Counted r) : r.counters.Summed := h.total

section
variable {cb : TaskCounters}

theorem both_incremented (h : ca.acceptedTransitionCount = cb.acceptedTransitionCount) (ha : ca.Summed) (hb : cb.Summed)
    (k l : CounterKind) :
    Both (ca.incremented k) (cb.incremented l) fun ca' cb' => ca' = ca.bumped k ∧ cb' = cb.bumped l := by
  rw [incremented_eq ha, incremented_eq hb, h]
  split
  · exact ⟨rfl, rfl⟩
  · trivial

variable (h : ca.Twinned cb)
include h

theorem twinned_accepted : ca.acceptedTransitionCount = cb.acceptedTransitionCount := by
  obtain ⟨c, rfl, rfl⟩ := h
  rfl

theorem twinned_bumped (kind : CounterKind) : (ca.bumped kind).Twinned (cb.bumped kind) := by
  obtain ⟨c, rfl, rfl⟩ := h
  exact ⟨c.bumped kind, bumped_comm _ _ _, bumped_comm _ _ _⟩

theorem twinned_withCorrelatedBirth (kind : TaskChildBirthKind) :
    Both (ca.withCorrelatedBirth kind) (cb.withCorrelatedBirth kind) TaskCounters.Twinned := by
  obtain ⟨c, rfl, rfl⟩ := h
  obtain ⟨d, hd⟩ : ∃ d, d = c.withEvent (some (.birth 0 0 none 0 kind.normalized)) := ⟨_, rfl⟩
  cases kind <;>
  · simp only [withCorrelatedBirth, bumped, succOrOverflow_eq]
    split
    · exact ⟨d, hd ▸ rfl, hd ▸ rfl⟩
    · trivial

theorem twinned_withNoReturnResolution (resolved : Bool) :
    Both (if resolved then ca.withNoReturnResolution else .ok ca)
      (if resolved then cb.withNoReturnResolution else .ok cb)
      TaskCounters.Twinned := by
  cases resolved with
  | false => exact h
  | true =>
    obtain ⟨c, rfl, rfl⟩ := h
    simp only [withNoReturnResolution, bumped, succOrOverflow_eq, if_true]
    split
    · exact ⟨{ c with noReturnResolutionCount := c.noReturnResolutionCount + 1 }, rfl, rfl⟩
    · trivial

end

/-! ## A child reported once -/

/-- A child reported once: its parent's slot and its own, and what the announcement says of it. -/
structure HalfReported where
  parentIndex : Fin maxTasks
  pendingIndex : Fin maxTasks
  childRawTid : Int
  kind : TaskChildBirthKind
  groupRelation : TaskGroupRelation

/-- `b` as it would be with the child announced and not stopped, where `b` saw it stop unannounced. -/
def announcedTwin (b : TaskStateRecorder) (x : HalfReported) (counters : TaskCounters) : TaskStateRecorder :=
  { (b.withTask x.parentIndex { b.tasks x.parentIndex with pendingChildRawTid := x.childRawTid }).withChild
      x.pendingIndex ⟨x.childRawTid, some ⟨x.parentIndex, x.kind, x.groupRelation⟩, false⟩ with
    counters := counters }

/-- What the recorder that saw the child stop knows of it and of its parent. -/
structure Waits (b : TaskStateRecorder) (x : HalfReported) : Prop where
  used : x.parentIndex.val < b.slotsUsed
  running : (b.tasks x.parentIndex).phase = .running
  permits : creationSyscallPermits (b.tasks x.parentIndex).pendingSyscall x.kind = true
  idle : (b.tasks x.parentIndex).pendingChildRawTid = 0
  childPos : 0 < x.childRawTid
  stopped : b.pendingChildren x.pendingIndex = ⟨x.childRawTid, none, true⟩

section
variable {x : HalfReported} {k : Fin maxTasks}

theorem twin_tasks (hk : k ≠ x.parentIndex) : (b.announcedTwin x ca).tasks k = b.tasks k := put_other _ _ hk

theorem twin_pendingChildren (hk : k ≠ x.pendingIndex) :
    (b.announcedTwin x ca).pendingChildren k = b.pendingChildren k := put_other _ _ hk

theorem twin_phase : ((b.announcedTwin x ca).tasks k).phase = (b.tasks k).phase := by
  by_cases hk : k = x.parentIndex
  · subst hk
    simp [announcedTwin, withChild, withTask]
  · rw [twin_tasks hk]

theorem twin_findLiveTask (tid : Int) : (b.announcedTwin x ca).findLiveTask tid = b.findLiveTask tid :=
  withTask_findLiveTask (t := { b.tasks x.parentIndex with pendingChildRawTid := x.childRawTid }) rfl rfl tid

theorem twin_withTask (hk : k ≠ x.parentIndex) (t : TaskSlot) :
    (b.withTask k t).announcedTwin x ca = (b.announcedTwin x ca).withTask k t := by
  simp only [announcedTwin, withTask, withChild, put_other _ _ hk.symm, put_comm _ _ _ hk]

theorem twin_withChild (hk : k ≠ x.pendingIndex) (q : PendingChildCorrelation) :
    (b.withChild k q).announcedTwin x ca = (b.announcedTwin x ca).withChild k q := by
  simp only [announcedTwin, withTask, withChild, put_comm _ _ _ hk]

theorem twin_withNewTask (hw : x.parentIndex.val < b.slotsUsed) (hcap : b.slotsUsed < maxTasks) (tid : Int)
    (group : Option Nat) :
    (b.withNewTask hcap tid group).announcedTwin x ca = (b.announcedTwin x ca).withNewTask hcap tid group := by
  have hne : (⟨b.slotsUsed, hcap⟩ : Fin maxTasks) ≠ x.parentIndex := fun h => by simp [← h] at hw
  simp only [announcedTwin, withTask, withChild, withNewTask, put_other _ _ hne.symm, put_comm _ _ _ hne]

theorem twin_liveGroupCount (group : Nat) :
    (b.announcedTwin x ca).liveGroupCount group = b.liveGroupCount group := by
  unfold liveGroupCount
  congr 2
  funext k
  by_cases hk : k = x.parentIndex
  · subst hk
    simp [announcedTwin, withChild, withTask]
  · rw [twin_tasks hk]
    rfl

/-- The two recorders' slots hold the same TIDs. -/
theorem twin_rawTid (hw : b.Waits x) :
    ((b.announcedTwin x ca).pendingChildren k).rawTid = (b.pendingChildren k).rawTid := by
  by_cases hk : k = x.pendingIndex
  · subst hk
    simp [announcedTwin, withChild, withTask, hw.stopped]
  · rw [twin_pendingChildren hk]

end

/-! ## Handlers in step -/

theorem withCounters_findLiveTask {c : TaskCounters} :
    ({ r with counters := c } : TaskStateRecorder).findLiveTask tid = r.findLiveTask tid := rfl

-- a scan over all slots is never evaluated below
attribute [local irreducible] findLiveTask

/-- Two accepted observations of the two recorders: the same event, and the recorders differ as before. -/
def Alike (x : HalfReported) (ca : TaskCounters) (u : Accepted) (s : TaskStateRecorder) (v : Accepted)
    (t : TaskStateRecorder) : Prop :=
  u.1 = v.1 ∧ s = t.announcedTwin x ca ∧ u.2.Twinned v.2

section
variable {x : HalfReported}

theorem liveTaskIndex_inStep (hother : b.findLiveTask tid ≠ some x.parentIndex) :
    InStep (liveTaskIndex tid) (b.announcedTwin x ca) (liveTaskIndex tid) b
      fun k s l t => k = l ∧ k ≠ x.parentIndex ∧ s = b.announcedTwin x ca ∧ t = b := by
  refine inStep_refusing ?_
  refine inStep_get_bind ?_
  rw [twin_findLiveTask]
  cases hfind : b.findLiveTask tid with
  | none => exact inStep_throw _ _
  | some k => exact inStep_pure ⟨rfl, fun h => hother (h ▸ hfind), rfl, rfl⟩

theorem runningTaskIndex_inStep (hother : b.findLiveTask tid ≠ some x.parentIndex) :
    InStep (runningTaskIndex tid) (b.announcedTwin x ca) (runningTaskIndex tid) b
      fun k s l t => k = l ∧ k ≠ x.parentIndex ∧ s = b.announcedTwin x ca ∧ t = b := by
  refine (liveTaskIndex_inStep hother).bind ?_
  rintro k s _ t ⟨rfl, hk, rfl, rfl⟩
  refine inStep_get_bind ?_
  rw [twin_phase]
  cases (t.tasks k).phase with
  | running => exact inStep_pure ⟨rfl, hk, rfl, rfl⟩
  | exitObserved | unused | reaped => exact inStep_throw _ _

variable (hc : ca.Twinned b.counters) (hsa : ca.Summed) (hsb : b.counters.Summed)
include hc hsa hsb

/-- A slot other than the parent's is written and the transition counted. -/
theorem setTask_inStep {k : Fin maxTasks} (hk : k ≠ x.parentIndex) (t : TaskSlot) (kind : CounterKind)
    (ev : Option NormalizedTaskEvent) :
    InStep (do setTask k t; let c ← attempt (ca.incremented kind); pure (ev, c) : RecorderM Accepted)
      (b.announcedTwin x ca) (do setTask k t; let c ← attempt (b.counters.incremented kind); pure (ev, c)) b
      (Alike x ca) := by
  refine inStep_modify_bind (inStep_attempt_bind (both_incremented (twinned_accepted hc) hsa hsb kind kind) ?_)
  rintro _ _ ⟨rfl, rfl⟩ - -
  exact inStep_pure ⟨rfl, (twin_withTask hk t).symm, twinned_bumped hc kind⟩

variable (hother : b.findLiveTask tid ≠ some x.parentIndex)
include hother

theorem observeSeccompEntry_inStep (s n : Nat) :
    InStep (observeSeccompEntry s tid n) (b.announcedTwin x ca) (observeSeccompEntry s tid n) b (Alike x ca) := by
  refine (runningTaskIndex_inStep hother).bind ?_
  rintro k _ _ t ⟨rfl, hk, rfl, rfl⟩
  refine inStep_get_bind ?_
  rw [twin_tasks hk]
  exact inStep_refusing (setTask_inStep hc hsa hsb hk _ _ _)

theorem observeExec_inStep (s : Nat) (former : Int) :
    InStep (observeExec s tid former) (b.announcedTwin x ca) (observeExec s tid former) b (Alike x ca) := by
  refine inStep_refusing (inStep_refusing ?_)
  refine (runningTaskIndex_inStep hother).bind ?_
  rintro k _ _ t ⟨rfl, hk, rfl, rfl⟩
  refine inStep_get_bind ?_
  dsimp only
  rw [twin_tasks hk, twin_liveGroupCount]
  refine inStep_okOr_bind rfl fun n _ => ?_
  refine inStep_refusing (inStep_refusing ?_)
  exact inStep_refusing (setTask_inStep hc hsa hsb hk _ _ _)

theorem observeSyscallExit_inStep (s : Nat) (result : Int) :
    InStep (observeSyscallExit s tid result) (b.announcedTwin x ca)
      (observeSyscallExit s tid result) b (Alike x ca) := by
  refine (runningTaskIndex_inStep hother).bind ?_
  rintro k _ _ t ⟨rfl, hk, rfl, rfl⟩
  refine inStep_get_bind ?_
  rw [twin_tasks hk]
  refine inStep_okOr_bind rfl fun n _ => ?_
  refine inStep_refusing (inStep_refusing ?_)
  refine inStep_attempt_bind_same fun _ _ => inStep_attempt_bind_same fun _ _ => ?_
  exact setTask_inStep hc hsa hsb hk _ _ _

theorem observePtraceExit_inStep (s : Nat) (term : LinuxWaitTermination) :
    InStep (observePtraceExit s tid term) (b.announcedTwin x ca) (observePtraceExit s tid term) b (Alike x ca) := by
  refine inStep_refusing ((liveTaskIndex_inStep hother).bind ?_)
  rintro k _ _ t ⟨rfl, hk, rfl, rfl⟩
  refine inStep_get_bind ?_
  dsimp only
  rw [twin_tasks hk]
  cases (t.tasks k).phase with
  | exitObserved | unused | reaped => exact inStep_throw _ _
  | running =>
    refine inStep_attempt_bind_same fun resolved _ => inStep_modify_bind ?_
    refine inStep_attempt_bind (both_incremented (twinned_accepted hc) hsa hsb _ _) ?_
    rintro _ _ ⟨rfl, rfl⟩ - -
    refine inStep_attempt_bind (twinned_withNoReturnResolution (twinned_bumped hc _) resolved.isSome) ?_
    exact fun _ _ htwin _ _ => inStep_pure ⟨rfl, (twin_withTask hk _).symm, htwin⟩

theorem observeTerminalReap_inStep (s : Nat) (term : LinuxWaitTermination) :
    InStep (observeTerminalReap s tid term) (b.announcedTwin x ca) (observeTerminalReap s tid term) b (Alike x ca) := by
  refine inStep_refusing ((liveTaskIndex_inStep hother).bind ?_)
  rintro k _ _ t ⟨rfl, hk, rfl, rfl⟩
  refine inStep_get_bind ?_
  dsimp only
  rw [twin_tasks hk]
  cases (t.tasks k).phase with
  | running | unused | reaped => exact inStep_throw _ _
  | exitObserved => exact inStep_refusing (setTask_inStep hc hsa hsb hk _ _ _)

end

/-! ## Children in step -/

theorem checkedSucc32_some {n m : Nat} (h : checkedSucc32 n = some m) : m = n + 1 := by
  unfold checkedSucc32 at h
  split at h <;> cases h
  rfl

theorem insertTask_inStep {group : Option Nat} (hfind : s.findLiveTask tid = t.findLiveTask tid)
    (hslots : s.slotsUsed = t.slotsUsed) (hid : s.nextLogicalTaskId = t.nextLogicalTaskId) :
    InStep (insertTask tid group) s (insertTask tid group) t fun u s' v t' => u = v ∧ v = t.nextLogicalTaskId ∧
      ∃ hs ht, s' = s.withNewTask hs tid group ∧ t' = t.withNewTask ht tid group := by
  refine inStep_refusing ?_
  refine inStep_refuseIf_bind (by rw [hfind]) fun _ _ => ?_
  by_cases ht : t.slotsUsed < maxTasks
  · have hs : s.slotsUsed < maxTasks := hslots ▸ ht
    rw [dif_pos hs, dif_pos ht]
    refine inStep_refuseIf_bind (by rw [hid]) fun _ _ => ?_
    refine inStep_okOr_bind (by rw [hid]) fun next hnext => ?_
    refine inStep_set_bind (inStep_pure ⟨hid, rfl, hs, ht, ?_, ?_⟩)
    · rw [checkedSucc32_some hnext]
      rfl
    · rw [hid] at hnext
      rw [checkedSucc32_some hnext]
      rfl
  · have hs : ¬ s.slotsUsed < maxTasks := hslots ▸ ht
    rw [dif_neg hs, dif_neg ht]
    exact inStep_throw _ _

/-- What a correlation that both recorders finish does to each. -/
inductive Finished (q : Nat) (s t : TaskStateRecorder) (m : Fin maxTasks) (ca cb : TaskCounters) :
    Accepted → TaskStateRecorder → Accepted → TaskStateRecorder → Prop
  | waits (h : (t.pendingChildren m).announcement = none ∨ (t.pendingChildren m).readySeen = false) :
      Finished q s t m ca cb (none, ca) s (none, cb) t
  | born {a : PendingChildAnnouncement} {ca' cb' : TaskCounters} (hs : s.slotsUsed < maxTasks)
      (ht : t.slotsUsed < maxTasks) (ha : (t.pendingChildren m).announcement = some a)
      (hca : ca.withCorrelatedBirth a.kind = .ok ca') (hcb : cb.withCorrelatedBirth a.kind = .ok cb') :
      Finished q s t m ca cb
        (some (t.birthEvent q (t.tasks a.parentIndex) a.kind a.groupRelation), ca')
        (s.withBirth hs a.parentIndex { t.tasks a.parentIndex with childReadySeenForPending := true } m
          (t.pendingChildren m).rawTid (inherited a.groupRelation (t.tasks a.parentIndex)))
        (some (t.birthEvent q (t.tasks a.parentIndex) a.kind a.groupRelation), cb')
        (t.withBirth ht a.parentIndex { t.tasks a.parentIndex with childReadySeenForPending := true } m
          (t.pendingChildren m).rawTid (inherited a.groupRelation (t.tasks a.parentIndex)))

/-- The parent's slot is not the one a birth fills. -/
theorem withBirth_eq (h : r.slotsUsed < maxTasks) (hi : i.val < r.slotsUsed) (parent : TaskSlot) (m : Fin maxTasks)
    (tid : Int) (group : Option Nat) :
    ((r.withNewTask h tid group).withTask i parent).withChild m .empty = r.withBirth h i parent m tid group := by
  have hne : i ≠ ⟨r.slotsUsed, h⟩ := fun heq => by simp [heq] at hi
  simp only [withBirth, withTask, withChild, withNewTask]
  rw [put_comm _ _ _ hne.symm]

theorem withNewTask_tasks (h : r.slotsUsed < maxTasks) (hi : i.val < r.slotsUsed) (tid : Int) (group : Option Nat) :
    (r.withNewTask h tid group).tasks i = r.tasks i :=
  put_other _ _ fun heq => by simp [heq] at hi

theorem finishChildCorrelation_inStep {cb : TaskCounters} (q : Nat)
    (hpending : s.pendingChildren m = t.pendingChildren m) (hfind : ∀ tid, s.findLiveTask tid = t.findLiveTask tid)
    (hslots : s.slotsUsed = t.slotsUsed) (hid : s.nextLogicalTaskId = t.nextLogicalTaskId)
    (hparent : ∀ a, (t.pendingChildren m).announcement = some a →
      s.tasks a.parentIndex = t.tasks a.parentIndex ∧ a.parentIndex.val < t.slotsUsed)
    {R : TaskCounters → TaskCounters → Prop}
    (hcounters : ∀ kind, Both (ca.withCorrelatedBirth kind) (cb.withCorrelatedBirth kind) R) :
    InStep (finishChildCorrelation q m ca) s (finishChildCorrelation q m cb) t (Finished q s t m ca cb) := by
  refine inStep_get_bind ?_
  dsimp only
  rw [hpending]
  cases ha : (t.pendingChildren m).announcement with
  | none => exact inStep_pure (.waits (.inl ha))
  | some a =>
    obtain ⟨htask, hused⟩ := hparent a ha
    dsimp only
    by_cases hready : (t.pendingChildren m).readySeen = false
    · rw [if_pos hready, if_pos hready]
      exact inStep_pure (.waits (.inr hready))
    rw [if_neg hready, if_neg hready, htask]
    refine inStep_refusing (inStep_refusing ?_)
    refine (insertTask_inStep (hfind _) hslots hid).bind ?_
    rintro _ _ _ _ ⟨rfl, rfl, hs, ht, rfl, rfl⟩
    refine inStep_get_bind ?_
    refine inStep_modify_bind (inStep_modify_bind (inStep_attempt_bind (hcounters a.kind) fun ca' cb' _ hca hcb => ?_))
    rw [withNewTask_tasks hs (hslots ▸ hused), withNewTask_tasks ht hused, withBirth_eq hs (hslots ▸ hused),
      withBirth_eq ht hused, htask]
    exact inStep_pure (.born hs ht ha hca hcb)

section
variable {x : HalfReported}

theorem twin_withBirth (hi : i ≠ x.parentIndex) (hm : m ≠ x.pendingIndex) (hused : x.parentIndex.val < b.slotsUsed)
    (h : b.slotsUsed < maxTasks) (parent : TaskSlot) (tid : Int) (group : Option Nat) :
    (b.withBirth h i parent m tid group).announcedTwin x ca =
      (b.announcedTwin x ca).withBirth h i parent m tid group := by
  have hslots : ((b.withTask i parent).withChild m .empty).announcedTwin x ca =
      ((b.announcedTwin x ca).withTask i parent).withChild m .empty := by
    rw [twin_withChild hm, twin_withTask hi]
  refine (twin_withNewTask (b := (b.withTask i parent).withChild m .empty) hused h tid group).trans ?_
  simp only [hslots]
  rfl

/-- A correlation in another slot, announced by another parent. -/
theorem finish_twin {ca' cb' : TaskCounters} (q : Nat) (hm : m ≠ x.pendingIndex)
    (hused : x.parentIndex.val < b.slotsUsed) (hparent : ∀ a, (b.pendingChildren m).announcement = some a →
      a.parentIndex ≠ x.parentIndex ∧ a.parentIndex.val < b.slotsUsed) (htwin : ca'.Twinned cb') :
    InStep (finishChildCorrelation q m ca') (b.announcedTwin x ca) (finishChildCorrelation q m cb') b (Alike x ca) := by
  have hbirth := twinned_withCorrelatedBirth htwin
  refine (finishChildCorrelation_inStep q (twin_pendingChildren hm) twin_findLiveTask rfl rfl ?_ hbirth).mono ?_
  · intro a ha
    obtain ⟨hne, hlt⟩ := hparent a ha
    exact ⟨twin_tasks hne, hlt⟩
  · intro u s v t hfin
    cases hfin with
    | waits h => exact ⟨rfl, rfl, htwin⟩
    | born hs ht ha hca hcb =>
      exact ⟨rfl, (twin_withBirth (hparent _ ha).1 hm hused ht _ _ _).symm, (hbirth _).ok hca hcb⟩

variable (hw : b.Waits x)
include hw

theorem pendingChildIndexOrInsert_inStep {d : Int} (hd : d ≠ x.childRawTid) :
    InStep (pendingChildIndexOrInsert d) (b.announcedTwin x ca) (pendingChildIndexOrInsert d) b
      fun m s l t => m = l ∧ m ≠ x.pendingIndex ∧ s = t.announcedTwin x ca ∧ t.counters = b.counters ∧
        t.slotsUsed = b.slotsUsed ∧
          ((t = b ∧ (b.pendingChildren m).rawTid = d) ∨ t = b.withChild m ⟨d, none, false⟩) := by
  have hscan : ∀ p : Int → Bool, (b.announcedTwin x ca).pendingChildren.position (fun pending => p pending.rawTid) =
      b.pendingChildren.position fun pending => p pending.rawTid := fun p =>
    position_congr fun k => by rw [twin_rawTid hw]
  have hcount : (b.announcedTwin x ca).pendingChildCount = b.pendingChildCount :=
    count_congr fun k => by rw [twin_rawTid hw]
  have hslot : (b.pendingChildren x.pendingIndex).rawTid = x.childRawTid := by rw [hw.stopped]
  refine inStep_get_bind ?_
  rw [hscan fun tid => tid == d, hscan fun tid => tid == 0, hcount]
  cases hfound : b.pendingChildren.position fun pending => pending.rawTid == d with
  | some m =>
    have hraw : (b.pendingChildren m).rawTid = d := by simpa using position_some hfound
    refine inStep_pure ⟨rfl, ?_, rfl, rfl, rfl, .inl ⟨rfl, hraw⟩⟩
    rintro rfl
    exact hd (hraw.symm.trans hslot)
  | none =>
    refine inStep_refusing (inStep_okOr_bind rfl fun m hm => ?_)
    have hraw : (b.pendingChildren m).rawTid = 0 := by simpa using position_some hm
    have hne : m ≠ x.pendingIndex := by
      rintro rfl
      exact hw.childPos.ne' (hslot.symm.trans hraw)
    exact inStep_modify_bind (inStep_pure ⟨rfl, hne, (twin_withChild hne _).symm, rfl, rfl, .inr rfl⟩)

variable (hinv : b.Inv) (hc : ca.Twinned b.counters) (hsa : ca.Summed) (hsb : b.counters.Summed) {d : Int}
  (hd : d ≠ x.childRawTid)
include hc hsa hsb hd

theorem observeChildAnnouncement_inStep (q : Nat) (hp : b.findLiveTask p ≠ some x.parentIndex)
    (kind : TaskChildBirthKind) (rel : TaskGroupRelation) :
    InStep (observeChildAnnouncement q p d kind rel) (b.announcedTwin x ca) (observeChildAnnouncement q p d kind rel) b
      (Alike x ca) := by
  refine inStep_refusing (inStep_refusing ?_)
  refine inStep_refusing ?_
  refine inStep_get_bind ?_
  rw [twin_findLiveTask, twin_findLiveTask]
  refine inStep_okOr_bind rfl fun k hfind => ?_
  have hk : k ≠ x.parentIndex := fun h => hp (h ▸ hfind)
  rw [twin_tasks hk]
  refine inStep_refusing (inStep_okOr_bind rfl fun n _ => ?_)
  refine inStep_refusing (inStep_refusing ?_)
  refine inStep_refusing (inStep_refusing ?_)
  refine (pendingChildIndexOrInsert_inStep hw hd).bind ?_
  rintro m _ _ t ⟨rfl, hm, rfl, hcounters, hslots, ht⟩
  refine inStep_get_bind ?_
  rw [twin_pendingChildren hm]
  refine inStep_refusing ?_
  refine inStep_modify_bind (inStep_modify_bind ?_)
  rw [← twin_withChild hm, ← twin_withTask hk]
  refine inStep_attempt_bind
    (hcounters ▸ both_incremented (twinned_accepted hc) hsa hsb .childAnnouncement .childAnnouncement) ?_
  rintro _ _ ⟨rfl, rfl⟩ - -
  refine finish_twin q hm (hslots ▸ hw.used) ?_ (hcounters ▸ twinned_bumped hc _)
  intro a ha
  simp only [withTask_pendingChildren, withChild_pendingChildren, put_self, Option.some.injEq] at ha
  subst ha
  exact ⟨hk, hslots ▸ (findLiveTask_some hfind).1.1⟩

include hinv

theorem observeChildReady_inStep (q : Nat) :
    InStep (observeChildReady q d) (b.announcedTwin x ca) (observeChildReady q d) b (Alike x ca) := by
  refine inStep_refuseIf_bind Iff.rfl fun hpos _ => ?_
  refine inStep_get_bind ?_
  rw [twin_findLiveTask]
  refine inStep_refusing ?_
  refine (pendingChildIndexOrInsert_inStep hw hd).bind ?_
  rintro m _ _ t ⟨rfl, hm, rfl, hcounters, hslots, ht⟩
  refine inStep_get_bind ?_
  rw [twin_pendingChildren hm]
  refine inStep_refusing ?_
  refine inStep_modify_bind ?_
  rw [← twin_withChild hm]
  refine inStep_attempt_bind (hcounters ▸ both_incremented (twinned_accepted hc) hsa hsb .childReady .childReady) ?_
  rintro _ _ ⟨rfl, rfl⟩ - -
  refine finish_twin q hm (hslots ▸ hw.used) ?_ (hcounters ▸ twinned_bumped hc _)
  intro a ha
  simp only [withChild_pendingChildren, put_self] at ha
  -- an announced child in another slot has another parent: this one has no child on record
  rcases ht with ⟨rfl, hraw⟩ | rfl
  · have h0 : (t.pendingChildren m).rawTid ≠ 0 := by omega
    exact ⟨no_child_of_zero hinv hw.idle m a h0 ha, (hinv.childParent m a h0 ha).1.1⟩
  · simp at ha

end

/-! ## The first report -/

theorem finish_unready (h : (r.pendingChildren j).readySeen = false) (q : Nat) (c : TaskCounters) :
    finishChildCorrelation q j c r = .ok (none, c) r := by
  apply eq_ok_of_runs
  cases ha : (r.pendingChildren j).announcement with
  | none => exact (runs_finish_unannounced ha).2 ⟨rfl, rfl⟩
  | some a => exact (runs_finish_not_ready ha h).2 ⟨rfl, rfl⟩

/-- What lets a parent announce a child, apart from what is known of the child. -/
structure MayAnnounce (r : TaskStateRecorder) (p c : Int) (kind : TaskChildBirthKind) (rel : TaskGroupRelation)
    (i : Fin maxTasks) : Prop where
  parentPos : 0 < p
  childPos : 0 < c
  distinct : p ≠ c
  found : r.findLiveTask p = some i
  running : (r.tasks i).phase = .running
  permits : creationSyscallPermits (r.tasks i).pendingSyscall kind = true
  idle : (r.tasks i).pendingChildRawTid = 0
  group : ¬ (kind ≠ .clone ∧ rel ≠ .newThreadGroup)

theorem MayAnnounce.pendingSyscall (h : r.MayAnnounce p c kind rel i) :
    ∃ n, (r.tasks i).pendingSyscall = some n ∧ creationSyscallPermits (some n) kind = true := by
  have hk := h.permits
  cases hn : (r.tasks i).pendingSyscall with
  | none =>
    rw [hn] at hk
    cases hk
  | some n => exact ⟨n, rfl, hn ▸ hk⟩

/-- The first report of a child nothing is known of: either one fills the same slot. -/
theorem first_inStep (hs : r.counters.Summed) (h : r.MayAnnounce p c kind rel i) (habs : r.findPendingChild c = none)
    (q : Nat) :
    InStep (observeChildAnnouncement q p c kind rel) r (observeChildReady q c) r fun u s v t =>
      u.1 = none ∧ v.1 = none ∧ u.2.Twinned v.2 ∧ ∃ j, t = r.withChild j ⟨c, none, true⟩ ∧
        s = t.announcedTwin ⟨i, j, c, kind, rel⟩ r.counters := by
  obtain ⟨n, hn, hk⟩ := h.pendingSyscall
  refine inStep_left (refuseIf_pass (not_le.2 h.parentPos)) ?_
  refine inStep_refusing ?_
  refine inStep_left (refuseIf_pass h.distinct) ?_
  refine inStep_get_bind ?_
  refine inStep_left (okOr_pass h.found) ?_
  refine inStep_left (refuseIf_pass (not_not.2 h.running)) ?_
  refine inStep_left (okOr_pass hn) ?_
  refine inStep_left (refuseIf_pass (by simp [hk])) ?_
  refine inStep_left (refuseIf_pass (not_not.2 h.idle)) ?_
  refine inStep_left (refuseIf_pass h.group) ?_
  refine inStep_refusing ?_
  refine (inStep_same (pendingChildIndexOrInsert c) r).bind ?_
  rintro j t _ _ ⟨rfl, rfl, hinsert⟩
  have hslot : t = r.withChild j ⟨c, none, false⟩ := by
    have hruns : Runs (pendingChildIndexOrInsert c) r (fun j t => t = r.withChild j ⟨c, none, false⟩)
        fun _ _ => True := by
      rw [runs_pendingChildIndexOrInsert]
      exact ⟨fun j hj => by simp [habs] at hj, fun _ => ⟨fun _ => trivial, fun _ => ⟨fun _ => trivial, fun _ _ => rfl⟩⟩⟩
    exact hruns.ok hinsert
  subst hslot
  refine inStep_get_bind ?_
  refine inStep_left (refuseIf_pass (by simp)) (inStep_right (refuseIf_pass (by simp)) ?_)
  refine inStep_left (z := setPendingChild j _) (c := ⟨⟩) rfl ?_
  refine inStep_modify_bind ?_
  refine inStep_attempt_bind (both_incremented rfl hs hs _ _) ?_
  rintro _ _ ⟨rfl, rfl⟩ - -
  unfold InStep
  rw [finish_unready (by simp), eq_ok_of_runs ((runs_finish_unannounced (by simp)).2 ⟨rfl, rfl⟩)]
  refine ⟨rfl, rfl, ⟨_, rfl, rfl⟩, j, by simp, ?_⟩
  simp [announcedTwin, withTask, withChild]

/-! ## The second report -/

theorem pendingChildIndexOrInsert_found (h : r.findPendingChild c = some j) :
    pendingChildIndexOrInsert c r = .ok j r := by
  have hruns : Runs (pendingChildIndexOrInsert c) r (fun k t => k = j ∧ t = r) fun _ _ => False := by
    rw [runs_pendingChildIndexOrInsert, h]
    refine ⟨fun k hk => ?_, nofun⟩
    cases hk
    exact ⟨rfl, rfl⟩
  exact eq_ok_of_runs hruns

variable {x : HalfReported}

/-- Whichever report comes second, the same child is born. -/
theorem last_inStep (hw : b.Waits x) (hinv : b.Inv) (hc : ca.Twinned b.counters) (hsa : ca.Summed)
    (hsb : b.counters.Summed) (hann : b.MayAnnounce p x.childRawTid x.kind x.groupRelation x.parentIndex) (q : Nat) :
    InStep (observeChildReady q x.childRawTid) (b.announcedTwin x ca)
      (observeChildAnnouncement q p x.childRawTid x.kind x.groupRelation) b fun u s v t =>
      u = v ∧ u.1 = some (b.birthEvent q (b.tasks x.parentIndex) x.kind x.groupRelation) ∧
        s = { t with counters := ca } := by
  obtain ⟨n, hn, hk⟩ := hann.pendingSyscall
  have hslot : (b.pendingChildren x.pendingIndex).rawTid = x.childRawTid := by rw [hw.stopped]
  have hfound : b.findPendingChild x.childRawTid = some x.pendingIndex := by
    have h := findPendingChild_eq hinv (hslot ▸ hw.childPos.ne')
    rwa [hslot] at h
  have hfound' : (b.announcedTwin x ca).findPendingChild x.childRawTid = some x.pendingIndex := by
    rw [← hfound]
    exact position_congr fun k => by rw [twin_rawTid hw]
  refine inStep_right (refuseIf_pass (not_le.2 hann.parentPos)) ?_
  refine inStep_refusing ?_
  refine inStep_right (refuseIf_pass hann.distinct) ?_
  refine inStep_get_bind ?_
  rw [twin_findLiveTask]
  refine inStep_right (okOr_pass hann.found) ?_
  refine inStep_right (refuseIf_pass (not_not.2 hann.running)) ?_
  refine inStep_right (okOr_pass hn) ?_
  refine inStep_right (refuseIf_pass (by simp [hk])) ?_
  refine inStep_right (refuseIf_pass (not_not.2 hann.idle)) ?_
  refine inStep_right (refuseIf_pass hann.group) ?_
  refine inStep_refusing ?_
  refine inStep_left (pendingChildIndexOrInsert_found hfound') ?_
  refine inStep_right (pendingChildIndexOrInsert_found hfound) ?_
  refine inStep_get_bind ?_
  have hunready : ((b.announcedTwin x ca).pendingChildren x.pendingIndex) =
      ⟨x.childRawTid, some ⟨x.parentIndex, x.kind, x.groupRelation⟩, false⟩ := put_self _ _ _
  rw [hunready, hw.stopped]
  refine inStep_left (refuseIf_pass (by simp)) (inStep_right (refuseIf_pass (by simp)) ?_)
  refine inStep_right (z := setPendingChild x.pendingIndex _) (c := ⟨⟩) rfl ?_
  refine inStep_modify_bind ?_
  refine inStep_attempt_bind (both_incremented (twinned_accepted hc) hsa hsb _ _) ?_
  rintro _ _ ⟨rfl, rfl⟩ - -
  -- both counted both reports by now
  have hcounted : ca.bumped .childReady = b.counters.bumped .childAnnouncement := by
    obtain ⟨c, hca, hcb⟩ := hc
    rw [hca, hcb, bumped_comm]
  rw [hcounted]
  have hstate : (b.announcedTwin x ca).withChild x.pendingIndex
        ⟨x.childRawTid, some ⟨x.parentIndex, x.kind, x.groupRelation⟩, true⟩ =
      { (b.withChild x.pendingIndex ⟨x.childRawTid, some ⟨x.parentIndex, x.kind, x.groupRelation⟩, true⟩).withTask
        x.parentIndex { b.tasks x.parentIndex with pendingChildRawTid := x.childRawTid } with counters := ca } := by
    simp [announcedTwin, withTask, withChild]
  rw [hstate]
  refine (finishChildCorrelation_inStep q ?_ ?_ ?_ ?_ ?_ fun _ => both_same _).mono ?_
  · rfl
  · exact fun _ => withCounters_findLiveTask
  · rfl
  · rfl
  · intro a ha
    obtain rfl : a = ⟨x.parentIndex, x.kind, x.groupRelation⟩ := by simpa using ha.symm
    exact ⟨rfl, hw.used⟩
  · intro u s v t hfin
    cases hfin with
    | waits h => simp at h
    | @born a c d hs ht ha hca hcb =>
      obtain rfl : a = ⟨x.parentIndex, x.kind, x.groupRelation⟩ := by simpa using ha.symm
      rw [hca] at hcb
      cases hcb
      have hparent : ∀ t : TaskSlot, inherited x.groupRelation { t with pendingChildRawTid := x.childRawTid } =
          inherited x.groupRelation t := fun t => by cases x.groupRelation <;> rfl
      refine ⟨rfl, ?_, rfl⟩
      simp [birthEvent, hparent]

/-! ## Between the two reports -/

section
variable {x : HalfReported}

/-- What the recorder that saw the child stop knows of it stays, whatever else it accepts. -/
theorem handled_keeps (hinv : b.Inv) (hw : b.Waits x)
    (hfar : obs.touches (b.tasks x.parentIndex).rawTid x.childRawTid = false) (h : Handled b obs ev t) :
    t.tasks x.parentIndex = b.tasks x.parentIndex ∧
    t.pendingChildren x.pendingIndex = b.pendingChildren x.pendingIndex ∧
      b.slotsUsed ≤ t.slotsUsed := by
  -- the slots other observations write are not the parent's, nor the child's
  have hlive : ∀ {tid : Int} {k : Fin maxTasks}, b.findLiveTask tid = some k →
      tid ≠ (b.tasks x.parentIndex).rawTid → k ≠ x.parentIndex := by
    rintro tid k hk hne rfl
    exact hne (findLiveTask_some hk).2.symm
  have hfree : ∀ {m : Fin maxTasks}, (b.pendingChildren m).rawTid ≠ x.childRawTid → x.pendingIndex ≠ m := by
    rintro m hm rfl
    exact hm (by rw [hw.stopped])
  have hnext : ∀ hcap : b.slotsUsed < maxTasks, x.parentIndex ≠ ⟨b.slotsUsed, hcap⟩ := fun hcap heq => by
    have hused := hw.used
    rw [heq] at hused
    exact lt_irrefl _ hused
  have hc := hw.childPos
  cases h with
  | initialBirth h0 => exact absurd hw.used (by omega)
  | announce hpc hc' hp hrun hn hk h0 hnew habs hcap hj =>
    simp [touches] at hfar
    exact ⟨put_other _ _ (hlive hp hfar.2).symm, put_other _ _ (hfree (by omega)), le_refl _⟩
  | announceReady hpc hc' hp hrun hn hk h0 hnew hj hcap =>
    simp [touches] at hfar
    refine ⟨(put_other _ _ (hnext hcap)).trans (put_other _ _ (hlive hp hfar.2).symm),
      put_other _ _ (hfree ?_), Nat.le_succ _⟩
    rw [hj]
    exact hfar.1.2
  | ready hc' hnew habs hcap hj => exact ⟨rfl, put_other _ _ (hfree (by omega)), le_refl _⟩
  | @readyAnnounced s c i j kind rel hc' hnew hj hcap =>
    simp [touches] at hfar
    have h0 : (b.pendingChildren j).rawTid ≠ 0 := by simp [hj, hc'.ne']
    have hne : i ≠ x.parentIndex := no_child_of_zero hinv hw.idle j ⟨i, kind, rel⟩ h0 (by rw [hj])
    refine ⟨(put_other _ _ (hnext hcap)).trans (put_other _ _ hne.symm), put_other _ _ (hfree ?_),
      Nat.le_succ _⟩
    rw [hj]
    exact hfar
  | @exec s tid i n hl hrun hn hexec hever =>
    refine ⟨put_other _ _ ?_, rfl, le_refl _⟩
    rintro rfl
    have hk := hw.permits
    rw [hn, exec_not_creation hexec] at hk
    cases hk
  | seccompEntry hl hrun hn | syscallExit hl hrun hn hexit hcreate =>
    simp [touches] at hfar
    exact ⟨put_other _ _ (hlive hl hfar.2).symm, rfl, le_refl _⟩
  | ptraceExit hl hrun hres =>
    refine ⟨put_other _ _ ?_, rfl, le_refl _⟩
    rintro rfl
    have hk := hw.permits
    rw [resolved_not_creation hres] at hk
    cases hk
  | terminalReap hl hphase ht =>
    refine ⟨put_other _ _ ?_, rfl, le_refl _⟩
    rintro rfl
    have hrun := hw.running
    rw [hphase] at hrun
    cases hrun

theorem Waits.observed (hinv : b.Inv) (hw : b.Waits x)
    (hfar : obs.touches (b.tasks x.parentIndex).rawTid x.childRawTid = false) (h : Observed b obs ev t) :
    t.Waits x ∧ t.tasks x.parentIndex = b.tasks x.parentIndex := by
  obtain ⟨tables, hh, counters, rfl⟩ := h.handled
  obtain ⟨htask, hchild, hslots⟩ := handled_keeps hinv hw hfar hh
  refine ⟨⟨hw.used.trans_le hslots, ?_, ?_, ?_, hw.childPos, ?_⟩, htask⟩
  · exact htask ▸ hw.running
  · exact htask ▸ hw.permits
  · exact htask ▸ hw.idle
  · exact hchild.trans hw.stopped

/-- A task inside a creation syscall takes no part in what concerns a task outside it. -/
theorem handle_refuses (hinv : r.Inv) (hfind : r.findLiveTask tid = some i) (hrun : (r.tasks i).phase = .running)
    (hk : creationSyscallPermits (r.tasks i).pendingSyscall kind = true) (hobs : obs.outsideCreation tid) :
    Runs (handle obs) r (fun _ _ => False) fun _ _ => True := by
  refine (handle_runs hinv obs).mono (fun a r' hh => ?_) fun _ _ _ => trivial
  obtain ⟨hh, -⟩ := hh
  generalize a.1 = ev at hh
  have hslot : ∀ {k : Fin maxTasks}, r.findLiveTask tid = some k → k = i :=
    fun hl => Option.some.inj (hl.symm.trans hfind)
  cases hh with
  | exec hl _ hn hexec _ =>
    obtain rfl := hobs
    rw [← hslot hl, hn, exec_not_creation hexec] at hk
    cases hk
  | ptraceExit hl _ hres =>
    obtain rfl := hobs
    rw [← hslot hl, resolved_not_creation hres] at hk
    cases hk
  | terminalReap hl hphase _ =>
    obtain rfl := hobs
    rw [← hslot hl, hphase] at hrun
    cases hrun
  | _ => exact hobs.elim

theorem handle_inStep (hinv : b.Inv) (hinv' : (b.announcedTwin x ca).Inv) (hw : b.Waits x) (hc : ca.Twinned b.counters)
    (hsa : ca.Summed) (hsb : b.counters.Summed)
    (hfar : obs.touches (b.tasks x.parentIndex).rawTid x.childRawTid = false) :
    InStep (handle obs) (b.announcedTwin x ca) (handle obs) b (Alike x ca) := by
  have hother : ∀ tid, tid ≠ (b.tasks x.parentIndex).rawTid → b.findLiveTask tid ≠ some x.parentIndex :=
    fun tid hne hfind => hne (findLiveTask_some hfind).2.symm
  have hinside : ∀ {tid : Int} {obs : TaskObservation}, b.findLiveTask tid = some x.parentIndex →
      obs.outsideCreation tid → InStep (handle obs) (b.announcedTwin x ca) (handle obs) b (Alike x ca) := by
    intro tid obs hfind hobs
    have hpending : ((b.announcedTwin x ca).tasks x.parentIndex).pendingSyscall =
        (b.tasks x.parentIndex).pendingSyscall := by simp [announcedTwin, withTask, withChild]
    exact inStep_of_refusals (handle_refuses hinv' ((twin_findLiveTask tid).trans hfind) (twin_phase.trans hw.running)
      (hpending ▸ hw.permits) hobs) (handle_refuses hinv hfind hw.running hw.permits hobs)
  cases obs with
  | initialBirth q tid =>
    refine inStep_refuseIf_bind Iff.rfl fun _ hfirst => ?_
    exact absurd hw.used (by simp at hfirst; omega)
  | childAnnouncement q p d kind rel =>
    simp [touches] at hfar
    exact observeChildAnnouncement_inStep hw hc hsa hsb hfar.1.2 q (hother p hfar.2) kind rel
  | childReady q d =>
    simp [touches] at hfar
    exact observeChildReady_inStep hw hinv hc hsa hsb hfar q
  | exec q tid former =>
    by_cases hfind : b.findLiveTask tid = some x.parentIndex
    · exact hinside hfind rfl
    · exact observeExec_inStep hc hsa hsb hfind q former
  | seccompEntry q tid n =>
    simp [touches] at hfar
    exact observeSeccompEntry_inStep hc hsa hsb (hother tid hfar.2) q n
  | syscallExit q tid result =>
    simp [touches] at hfar
    exact observeSyscallExit_inStep hc hsa hsb (hother tid hfar.2) q result
  | ptraceExitEvent q tid term =>
    by_cases hfind : b.findLiveTask tid = some x.parentIndex
    · exact hinside hfind rfl
    · exact observePtraceExit_inStep hc hsa hsb hfind q term
  | terminalReap q tid term =>
    by_cases hfind : b.findLiveTask tid = some x.parentIndex
    · exact hinside hfind rfl
    · exact observeTerminalReap_inStep hc hsa hsb hfind q term

end

/-! ## Calls in step -/

theorem orPoison_inStep {α β : Type} {x : RecorderM α} {y : RecorderM β}
    {Q : α → TaskStateRecorder → β → TaskStateRecorder → Prop} (h : InStep x s y t Q) :
    InStep (orPoison x) s (orPoison y) t Q := by
  have hpoison : ∀ {γ : Type} (e : TaskExecuteOnlyReason) (r : TaskStateRecorder),
      ∃ e' r', poison (α := γ) e r = .error e' r' := by
    intro γ e r
    unfold poison
    split <;> exact ⟨_, _, rfl⟩
  unfold InStep at h ⊢
  unfold orPoison
  cases hx : x s with
  | ok a s' =>
    cases hy : y t with
    | ok b t' =>
      rw [hx, hy] at h
      exact h
    | error e t' =>
      rw [hx, hy] at h
      exact h.elim
  | error e s' =>
    cases hy : y t with
    | ok b t' =>
      rw [hx, hy] at h
      exact h.elim
    | error e' t' =>
      obtain ⟨e₁, s₁, hs⟩ := hpoison (γ := α) e s'
      obtain ⟨e₂, t₁, ht⟩ := hpoison (γ := β) e' t'
      simp only [hs, ht]

/-- The recorder after an accepted observation that left `tables` and `counters`. -/
def accepted (tables : TaskStateRecorder) (counters : TaskCounters) (sequence : Nat) : TaskStateRecorder :=
  { tables with counters := counters, nextTransportSequence := sequence }

/-- Two calls whose handlers are in step and agree on the event. -/
theorem observe_inStep {o w : TaskObservation} (hs : s.poisoned = none) (ht : t.poisoned = none)
    (hseq : s.nextTransportSequence = t.nextTransportSequence) (hslots : s.slotsUsed = t.slotsUsed)
    (ho : o.sequence = w.sequence) (hborn : o.isInitialBirth = w.isInitialBirth)
    {R : Accepted → TaskStateRecorder → Accepted → TaskStateRecorder → Prop}
    (hstep : (t.slotsUsed = 0 → w.isInitialBirth = true) →
      InStep (handle o) s (handle w) t fun u s' v t' => u.1 = v.1 ∧ R u s' v t') (sink : EventSink) :
    InStep (observe o sink) s (observe w sink) t fun e s' f t' => e = f ∧ ∃ u v s₁ t₁, e = u.1 ∧ R u s₁ v t₁ ∧
      s' = s₁.accepted u.2 (t.nextTransportSequence + 1) ∧ t' = t₁.accepted v.2 (t.nextTransportSequence + 1) := by
  refine inStep_get_bind ?_
  rw [hs, ht, ho, hseq, hslots, hborn]
  refine (orPoison_inStep (Q := fun _ s' _ t' => s = s' ∧ t = t') ?_).bind ?_
  · exact inStep_refuseIf Iff.rfl fun _ _ => ⟨rfl, rfl⟩
  rintro _ _ _ _ ⟨rfl, rfl⟩
  refine (orPoison_inStep
    (Q := fun _ s' _ t' => (t.slotsUsed = 0 → w.isInitialBirth = true) ∧ s = s' ∧ t = t') ?_).bind ?_
  · exact inStep_refuseIf Iff.rfl fun _ hstart => ⟨fun h0 => by simpa [h0] using hstart, rfl, rfl⟩
  rintro _ _ _ _ ⟨hstart, rfl, rfl⟩
  refine (orPoison_inStep (Q := fun n s' m t' => n = m ∧ m = t.nextTransportSequence + 1 ∧ s = s' ∧ t = t') ?_).bind ?_
  · cases hnext : checkedSucc t.nextTransportSequence with
    | none => exact inStep_throw _ _
    | some n => exact inStep_pure ⟨rfl, checkedSucc_some hnext, rfl, rfl⟩
  rintro _ _ _ _ ⟨rfl, rfl, rfl, rfl⟩
  refine (orPoison_inStep (hstep hstart)).bind ?_
  rintro ⟨e, cu⟩ s₁ ⟨f, cv⟩ t₁ ⟨hev, hR⟩
  obtain rfl : e = f := hev
  refine (orPoison_inStep (Q := fun _ s' _ t' => s₁ = s' ∧ t₁ = t') ?_).bind ?_
  · exact inStep_refuseIf Iff.rfl fun _ _ => ⟨rfl, rfl⟩
  rintro _ _ _ _ ⟨rfl, rfl⟩
  exact inStep_modify_bind (inStep_pure ⟨rfl, _, _, _, _, rfl, hR, rfl, rfl⟩)

/-- Observe one call after another. -/
def observeAll : List (TaskObservation × EventSink) → RecorderM (List (Option NormalizedTaskEvent))
  | [] => pure []
  | call :: calls => do
    let event ← observe call.1 call.2
    let events ← observeAll calls
    pure (event :: events)

/-- A healthy recorder. -/
structure Healthy (r : TaskStateRecorder) : Prop where
  inv : r.Inv
  counted : Counted r
  unpoisoned : r.poisoned = none

theorem Healthy.observe (h : r.Healthy) (obs : TaskObservation) (sink : EventSink) :
    Runs (observe obs sink) r (fun ev t => t.Healthy ∧ Observed r obs ev t) fun _ _ => True := by
  refine (observe_counted h.inv h.counted h.unpoisoned obs sink).mono (fun ev t ht => ?_) fun _ _ _ => trivial
  obtain ⟨hobs, hcounted⟩ := ht
  exact ⟨⟨(observed_step h.inv hobs).1, hcounted, (observed_poisoned hobs).trans h.unpoisoned⟩, hobs⟩

/-- What every accepted call keeps, a row of them keeps. -/
theorem Healthy.observeAll {P : TaskStateRecorder → Prop}
    (hstep : ∀ call ∈ calls, ∀ r ev t, r.Healthy → Observed r call.1 ev t → P r → P t) (h : r.Healthy) (hP : P r) :
    Runs (observeAll calls) r (fun _ t => t.Healthy ∧ P t) fun _ _ => True := by
  induction calls generalizing r with
  | nil => exact ⟨h, hP⟩
  | cons call calls ih =>
    rw [TaskStateRecorder.observeAll, runs_bind]
    refine (h.observe call.1 call.2).imp fun ev t ht => ?_
    obtain ⟨ht, hobs⟩ := ht
    rw [runs_bind]
    refine ih (fun call' hmem => hstep call' (List.mem_cons_of_mem _ hmem)) ht ?_
    exact hstep call List.mem_cons_self r ev t h hobs hP

/-- Two recorders that differ in which report of the child they saw. -/
structure Parted (x : HalfReported) (a b : TaskStateRecorder) : Prop where
  twin : a = b.announcedTwin x a.counters
  counters : a.counters.Twinned b.counters
  left : a.Healthy
  right : b.Healthy
  waits : b.Waits x

theorem parted_observe (h : Parted x a b)
    (hfar : obs.touches (b.tasks x.parentIndex).rawTid x.childRawTid = false) (sink : EventSink) :
    InStep (observe obs sink) a (observe obs sink) b fun e s f t =>
      e = f ∧ Parted x s t ∧ t.tasks x.parentIndex = b.tasks x.parentIndex := by
  obtain ⟨htwin, hc, ha, hb, hw⟩ := h
  have hslots : a.slotsUsed = b.slotsUsed := by rw [htwin]; rfl
  have hseq : a.nextTransportSequence = b.nextTransportSequence := by rw [htwin]; rfl
  have hhandle : InStep (handle obs) a (handle obs) b (Alike x a.counters) := by
    have hinv := ha.inv
    rw [htwin] at hinv ⊢
    exact handle_inStep hb.inv hinv hw hc ha.counted.summed hb.counted.summed hfar
  refine ((observe_inStep ha.unpoisoned hb.unpoisoned hseq hslots rfl rfl (fun _ => hhandle) sink).and_runs
    (ha.observe obs sink) (hb.observe obs sink)).mono ?_
  rintro e s f t ⟨⟨rfl, u, v, s₁, t₁, -, ⟨htwin', hcount⟩, rfl, rfl⟩, ⟨hs, -⟩, ht, hobs⟩
  obtain ⟨hw', hparent⟩ := hw.observed hb.inv hfar hobs
  refine ⟨rfl, ⟨?_, hcount, hs, ht, hw'⟩, hparent⟩
  rw [htwin']
  rfl

theorem parted_observeAll (hfar : ∀ call ∈ calls, call.1.touches p x.childRawTid = false)
    (h : Parted x a b) (hp : (b.tasks x.parentIndex).rawTid = p) :
    InStep (observeAll calls) a (observeAll calls) b fun es s fs t => es = fs ∧ (calls = [] → es = [] ∧ t = b) ∧
      Parted x s t ∧ t.tasks x.parentIndex = b.tasks x.parentIndex := by
  induction calls generalizing a b with
  | nil => exact inStep_pure ⟨rfl, fun _ => ⟨rfl, rfl⟩, h, rfl⟩
  | cons call calls ih =>
    have hcall := hfar call List.mem_cons_self
    rw [← hp] at hcall
    refine (parted_observe h hcall call.2).bind ?_
    rintro e s _ t ⟨rfl, hst, hparent⟩
    refine (ih (fun call' hmem => hfar call' (List.mem_cons_of_mem _ hmem)) hst (hparent ▸ hp)).bind ?_
    rintro es s' _ t' ⟨rfl, -, hst', hparent'⟩
    exact inStep_pure ⟨rfl, nofun, hst', hparent'.trans hparent⟩

theorem observeAll_append (xs ys : List (TaskObservation × EventSink)) :
    observeAll (xs ++ ys) = observeAll xs >>= fun es => observeAll ys >>= fun fs => pure (es ++ fs) := by
  induction xs with
  | nil => simp [observeAll]
  | cons call xs ih => simp [observeAll, ih, bind_assoc]

theorem observeAll_single (call : TaskObservation × EventSink) :
    observeAll [call] = observe call.1 call.2 >>= fun e => pure [e] := by
  simp [observeAll]

/-! ## Both reports -/

section
/-- Either order of the two reports of a new child, with the same calls in between. -/
theorem orders_inStep (h : r.Healthy) (hann : r.MayAnnounce p c kind rel i) (habs : r.findPendingChild c = none)
    (hfar : ∀ call ∈ between, call.1.touches p c = false) (n m : Nat) (first last : EventSink) :
    InStep (observeAll ((.childAnnouncement n p c kind rel, first) :: (between ++ [(.childReady m c, last)]))) r
      (observeAll ((.childReady n c, first) :: (between ++ [(.childAnnouncement m p c kind rel, last)]))) r
      fun es s fs t => es = fs ∧ s = t ∧ ∃ middle id, (between = [] → middle = [] ∧ id = r.nextLogicalTaskId) ∧
        es = none :: middle ++ [some (.birth m id (some (r.tasks i).logicalTaskId)
          ((inherited rel (r.tasks i)).getD id) kind.normalized)] := by
  obtain ⟨⟨hused, -⟩, hp⟩ := findLiveTask_some hann.found
  rw [observeAll, observeAll, observeAll_append, observeAll_append, observeAll_single, observeAll_single]
  have hfirst := observe_inStep (o := .childAnnouncement n p c kind rel) (w := .childReady n c) h.unpoisoned
    h.unpoisoned rfl rfl rfl rfl
    (fun _ => (first_inStep h.counted.summed hann habs n).mono fun u s v t hq => ⟨hq.1.trans hq.2.1.symm, hq⟩) first
  refine (hfirst.and_runs (h.observe _ _) (h.observe _ _)).bind ?_
  rintro e a _ b ⟨⟨rfl, u, v, a₁, b₁, he, ⟨hnone, -, hcount, j, hslot, htwin⟩, rfl, rfl⟩, ⟨ha, -⟩, hb, -⟩
  obtain rfl : e = none := he.trans hnone
  subst hslot htwin
  have hwaits :
      Waits ((r.withChild j ⟨c, none, true⟩).accepted v.2 (r.nextTransportSequence + 1)) ⟨i, j, c, kind, rel⟩ :=
    ⟨hused, hann.running, hann.permits, hann.idle, hann.childPos, put_self _ _ _⟩
  refine InStep.bind (Q := fun es s fs t => es = fs ∧ s = t ∧ ∃ middle id,
    (between = [] → middle = [] ∧ id = r.nextLogicalTaskId) ∧ es = middle ++ [some (.birth m id
      (some (r.tasks i).logicalTaskId) ((inherited rel (r.tasks i)).getD id) kind.normalized)])
    (InStep.bind (parted_observeAll hfar ⟨rfl, hcount, ha, hb, hwaits⟩ hp) ?_) ?_
  · rintro middle s _ t ⟨rfl, hempty, hst, hparent⟩
    have hfound : t.findLiveTask p = some i := by
      have hlive : t.LiveAt i := ⟨hst.waits.used, by rw [hst.waits.running]; decide⟩
      have hfind := findLiveTask_eq hst.right.inv hlive
      rw [hparent] at hfind
      exact hp ▸ hfind
    have hann' : t.MayAnnounce p c kind rel i :=
      ⟨hann.parentPos, hann.childPos, hann.distinct, hfound, hst.waits.running, hst.waits.permits, hst.waits.idle,
        hann.group⟩
    obtain ⟨htwin, hcount, hs, ht, hw⟩ := hst
    have hlast := last_inStep hw ht.inv hcount hs.counted.summed ht.counted.summed hann' m
    rw [← htwin] at hlast
    have hstep := observe_inStep (o := .childReady m c) (w := .childAnnouncement m p c kind rel) hs.unpoisoned
      ht.unpoisoned (by rw [htwin]; rfl) (by rw [htwin]; rfl) rfl rfl
      (fun _ => hlast.mono fun u s v t hq => ⟨congrArg Prod.fst hq.1, hq⟩) last
    refine InStep.bind (Q := fun es s' fs t' => es = fs ∧ s' = t' ∧ es = [some (t.birthEvent m (t.tasks i) kind rel)])
      (InStep.bind hstep ?_) ?_
    · rintro e s' _ t' ⟨rfl, u, _, s₁, t₁, rfl, ⟨rfl, hev, rfl⟩, rfl, rfl⟩
      exact inStep_pure ⟨rfl, rfl, by rw [hev]⟩
    · rintro es s' _ t' ⟨rfl, rfl, rfl⟩
      refine inStep_pure ⟨rfl, rfl, middle, t.nextLogicalTaskId, fun hnil => ?_, ?_⟩
      · obtain ⟨hmiddle, rfl⟩ := hempty hnil
        exact ⟨hmiddle, rfl⟩
      · have hslot : t.tasks i = r.tasks i := hparent
        rw [birthEvent, hslot]
  · rintro es s _ t ⟨rfl, rfl, middle, id, hnil, rfl⟩
    exact inStep_pure ⟨rfl, rfl, middle, id, hnil, rfl⟩

end

end TaskStateRecorder

/-! ## What the registry says of either order -/

namespace Registry

open TaskStateRecorder

variable {g g' : Registry}

/-- The task is inside a creation syscall that has announced no child yet. -/
def Opened (g : Registry) (p : Int) (kind : TaskChildBirthKind) : Prop :=
  ∃ t, g.task p = some t ∧ t.phase = .running ∧ creationSyscallPermits t.pendingSyscall kind = true ∧
    t.pendingChildRawTid = 0

theorem Step.announcement {s : Nat} (h : Step g (.childAnnouncement s p c kind rel) g') :
    p ≠ c ∧ 0 < c ∧ g.Opened p kind ∧ g.task c = none ∧ (g.child c = none ∨ g'.task c ≠ none) := by
  cases h with
  | announce hpc hc ht hrun hn hk h0 hnew habs =>
    exact ⟨hpc, hc, ⟨_, ht, hrun, by rw [hn]; exact hk, h0⟩, hnew, .inl habs⟩
  | announceReady hpc hc ht hrun hn hk h0 hnew hready =>
    exact ⟨hpc, hc, ⟨_, ht, hrun, by rw [hn]; exact hk, h0⟩, hnew, .inr (by simp [birth])⟩

theorem Step.readiness {s : Nat} (h : Step g (.childReady s c) g') :
    0 < c ∧ g.task c = none ∧ ((g.child c = none ∧ g'.task = g.task) ∨ g'.task c ≠ none) := by
  cases h with
  | ready hc hnew habs => exact ⟨hc, hnew, .inl ⟨habs, rfl⟩⟩
  | readyAnnounced hc hnew hann ht hrun hk htid => exact ⟨hc, hnew, .inr (by simp [birth])⟩

/-- A task stays until its own reaping. -/
theorem Step.live (h : Step g obs g') (hfar : obs.touches p c = false) (hlive : g.task c ≠ none) :
    g'.task c ≠ none := by
  cases h <;> simp only [setTask, birth, Function.update_apply] <;> try exact hlive
  case terminalReap =>
    simp [touches] at hfar
    rw [if_neg (Ne.symm hfar)]
    exact hlive
  all_goals
    repeat' split
    all_goals first | exact hlive | simp

/-- Only the parent's own syscall entry opens its creation syscall. -/
theorem Step.opened (h : Step g obs g') (hfar : obs.touches p c = false) (hopen : g'.Opened p kind) :
    g.Opened p kind := by
  obtain ⟨t, ht, hrun, hk, h0⟩ := hopen
  have hkeep (ht : g.task p = some t) : g.Opened p kind := ⟨t, ht, hrun, hk, h0⟩
  have hnew : ∀ {id : Nat} {tid : Int} {group : Option Nat}, newTask id tid group ≠ t := by
    rintro id tid group rfl
    cases hk
  cases h with
  | initialBirth hpos hnone hchild =>
    simp only [setTask, Function.update_apply] at ht
    split at ht
    · exact absurd (Option.some.inj ht) hnew
    · exact hkeep ht
  | announce hpc hc ht' hrun' hn hk' h0' hnew' habs =>
    simp [touches] at hfar
    simp only [Function.update_apply, if_neg (Ne.symm hfar.2)] at ht
    exact hkeep ht
  | announceReady hpc hc ht' hrun' hn hk' h0' hnew' hready =>
    simp [touches] at hfar
    simp only [birth, Function.update_apply, if_neg (Ne.symm hfar.2)] at ht
    split at ht
    · exact absurd (Option.some.inj ht) hnew
    · exact hkeep ht
  | ready hc hnew' habs => exact hkeep ht
  | readyAnnounced hc hnew' hann ht' hrun' hk' htid =>
    simp only [birth, Function.update_apply] at ht
    split at ht
    · exact absurd (Option.some.inj ht) hnew
    · split at ht
      · -- this parent is the one whose child was born
        obtain rfl := Option.some.inj ht
        exact absurd (htid.symm.trans h0) hc.ne'
      · exact hkeep ht
  | @exec s tid u n ht' hrun' hn hexec =>
    simp only [setTask, Function.update_apply] at ht
    split at ht
    · rename_i heq
      obtain rfl := Option.some.inj ht
      exact ⟨u, heq ▸ ht', hrun, hk, h0⟩
    · exact hkeep ht
  | seccompEntry ht' hrun' hn | syscallExit ht' hrun' hn hcreate =>
    simp [touches] at hfar
    simp only [setTask, Function.update_apply, if_neg (Ne.symm hfar.2)] at ht
    exact hkeep ht
  | ptraceExit ht' hrun' hres =>
    simp only [setTask, Function.update_apply] at ht
    split at ht
    · obtain rfl := Option.some.inj ht
      cases hrun
    · exact hkeep ht
  | terminalReap ht' hphase =>
    simp only [Function.update_apply] at ht
    split at ht
    · cases ht
    · exact hkeep ht

end Registry

namespace TaskStateRecorder

section
theorem findPendingChild_eq_none (hc : c ≠ 0) (h : r.child c = none) : r.findPendingChild c = none :=
  position_none.2 fun j => by simpa using (child_eq_none hc).1 h j

theorem mayAnnounce_of_opened (hinv : r.Inv) (hc : 0 < c) (hpc : p ≠ c)
    (hgroup : ¬ (kind ≠ .clone ∧ rel ≠ .newThreadGroup))
    (hopen : r.registry.Opened p kind) : ∃ i, r.MayAnnounce p c kind rel i := by
  obtain ⟨t, ht, hrun, hk, h0⟩ := hopen
  obtain ⟨i, hl, hraw, rfl⟩ := (task_eq_some hinv).1 ht
  refine ⟨i, task_pos hinv ht, hc, hpc, ?_, hrun, hk, h0, hgroup⟩
  rw [← hraw]
  exact findLiveTask_eq hinv hl

theorem runs_orPoison_ok {α : Type} {x : RecorderM α} {Q : α → TaskStateRecorder → Prop}
    (h : Runs x r Q fun _ _ => True) : Runs (orPoison x) r Q fun _ _ => True := by
  unfold Runs orPoison at *
  cases hx : x r with
  | ok a r' => simpa [hx] using h
  | error e r' =>
    simp only
    unfold poison
    split <;> rename_i heq <;> split at heq <;> cases heq <;> trivial

theorem observe_refuses (h : Runs (handle obs) r (fun _ _ => False) fun _ _ => True) (sink : EventSink) :
    Runs (observe obs sink) r (fun _ _ => False) fun _ _ => True := by
  rw [observe, runs_bind, runs_get]
  cases r.poisoned with
  | some e => exact trivial
  | none =>
    simp only [runs_bind]
    iterate 2 refine runs_orPoison_ok ((runs_refuseIf _ _).2 ⟨fun _ => trivial, fun _ => ?_⟩)
    refine runs_orPoison_ok ((runs_okOr _ _).2 ⟨fun _ => trivial, fun _ _ => ?_⟩)
    exact runs_orPoison_ok (h.mono (fun _ _ hfalse => hfalse.elim) fun _ _ _ => trivial)

/-- An accepted announcement names a group relation its kind allows. -/
theorem announcement_group {n : Nat} {sink : EventSink}
    (h : observe (.childAnnouncement n p c kind rel) sink r = .ok ev t) :
    ¬ (kind ≠ .clone ∧ rel ≠ .newThreadGroup) := by
  intro hbad
  have hruns : Runs (handle (.childAnnouncement n p c kind rel)) r (fun _ _ => False) fun _ _ => True := by
    simp only [handle, observeChildAnnouncement, requirePositiveTid, runs_bind, runs_refuseIf, runs_get, runs_okOr,
      implies_true, true_and]
    exact fun _ _ _ _ _ _ _ _ _ _ hgroup => absurd hbad hgroup
  exact (observe_refuses hruns sink).ok h

/-- A row of calls returns when its first, its last and those between do. -/
theorem observeAll_ends {first last : TaskObservation × EventSink}
    (h : observeAll (first :: (between ++ [last])) r = .ok es t) : ∃ e s fs s' f,
      observe first.1 first.2 r = .ok e s ∧ observeAll between s = .ok fs s' ∧ observe last.1 last.2 s' = .ok f t := by
  rw [observeAll, observeAll_append, observeAll_single] at h
  obtain ⟨e, s, hfirst, h⟩ := bind_ok_iff.1 h
  obtain ⟨_, s₁, h, hpure⟩ := bind_ok_iff.1 h
  cases hpure
  obtain ⟨fs, s', hbetween, h⟩ := bind_ok_iff.1 h
  obtain ⟨_, s₂, h, hpure⟩ := bind_ok_iff.1 h
  cases hpure
  obtain ⟨f, s₃, hlast, hpure⟩ := bind_ok_iff.1 h
  cases hpure
  exact ⟨e, s, fs, s', f, hfirst, hbetween, hlast⟩

variable (h : r.Healthy) {n m : Nat} {first last : EventSink} (hfar : ∀ call ∈ between, call.1.touches p c = false)
include h hfar

/-- A child born at the first report is a task by the second. -/
theorem live_between (hlive : r.task c ≠ none) (hok : observeAll between r = .ok es s) :
    s.Healthy ∧ s.task c ≠ none := by
  refine (Healthy.observeAll (P := fun r => r.registry.task c ≠ none) ?_ h hlive).ok hok
  intro call hmem r ev t hr hobs hlive
  exact (observed_step hr.inv hobs).2.live (hfar call hmem) hlive

theorem announced_first
    (hok : observeAll ((.childAnnouncement n p c kind rel, first) :: (between ++ [(.childReady m c, last)])) r =
      .ok es t) :
    ∃ i, r.MayAnnounce p c kind rel i ∧ r.findPendingChild c = none := by
  obtain ⟨e, s, fs, s', f, hfirst, hbetween, hlast⟩ := observeAll_ends hok
  obtain ⟨hs, hobs⟩ := (h.observe _ _).ok hfirst
  obtain ⟨hpc, hc, hopen, -, hchild⟩ := (observed_step h.inv hobs).2.announcement
  obtain ⟨i, hann⟩ : ∃ i, r.MayAnnounce p c kind rel i :=
    mayAnnounce_of_opened h.inv hc hpc (announcement_group hfirst) hopen
  refine ⟨i, hann, ?_⟩
  rcases hchild with habs | hlive
  · exact findPendingChild_eq_none hc.ne' habs
  · obtain ⟨hs', hlive'⟩ := live_between hs hfar hlive hbetween
    obtain ⟨-, hobs'⟩ := (hs'.observe _ _).ok hlast
    exact absurd (observed_step hs'.inv hobs').2.readiness.2.1 hlive'

theorem readied_first
    (hok : observeAll ((.childReady n c, first) :: (between ++ [(.childAnnouncement m p c kind rel, last)])) r =
      .ok es t) :
    ∃ i, r.MayAnnounce p c kind rel i ∧ r.findPendingChild c = none := by
  obtain ⟨e, s, fs, s', f, hfirst, hbetween, hlast⟩ := observeAll_ends hok
  obtain ⟨hs, hobs⟩ := (h.observe _ _).ok hfirst
  obtain ⟨hc, -, hchild⟩ := (observed_step h.inv hobs).2.readiness
  rcases hchild with ⟨habs, htask⟩ | hlive
  · -- the parent was inside its creation syscall all along
    have hback : s'.Healthy ∧ (s'.registry.Opened p kind → s.registry.Opened p kind) := by
      refine (Healthy.observeAll
        (P := fun r => r.registry.Opened p kind → s.registry.Opened p kind) ?_ hs id).ok hbetween
      intro call hmem r ev t hr hobs hrest hopen
      exact hrest ((observed_step hr.inv hobs).2.opened (hfar call hmem) hopen)
    obtain ⟨hs', hback⟩ := hback
    obtain ⟨-, hobs'⟩ := (hs'.observe _ _).ok hlast
    obtain ⟨hpc, -, hopen, -⟩ := (observed_step hs'.inv hobs').2.announcement
    obtain ⟨u, hu, hrest⟩ := hback hopen
    obtain ⟨i, hann⟩ : ∃ i, r.MayAnnounce p c kind rel i :=
      mayAnnounce_of_opened h.inv hc hpc (announcement_group hlast)
      ⟨u, (congrFun htask p).symm.trans hu, hrest⟩
    exact ⟨i, hann, findPendingChild_eq_none hc.ne' habs⟩
  · obtain ⟨hs', hlive'⟩ := live_between hs hfar hlive hbetween
    obtain ⟨-, hobs'⟩ := (hs'.observe _ _).ok hlast
    exact absurd (observed_step hs'.inv hobs').2.announcement.2.2.2.1 hlive'

end

end TaskStateRecorder

open TaskStateRecorder in
/-- From every healthy recorder a run reaches, the two reports of a child are accepted in one order exactly
when they are in the other, whatever else is observed in between, with the same events and the same recorder
in the end. The first report emits nothing and the second the birth of the child. -/
theorem child_report_orders {log : List ((TaskObservation × EventSink) × Option NormalizedTaskEvent)}
    {r : TaskStateRecorder} (hrun : RecorderRun log r) (hp : r.poisoned = none) (n m : Nat) (p c : Int)
    (kind : TaskChildBirthKind) (rel : TaskGroupRelation) (first last : EventSink)
    (between : List (TaskObservation × EventSink)) (hfar : ∀ call ∈ between, call.1.touches p c = false)
    (es : List (Option NormalizedTaskEvent)) (t : TaskStateRecorder) :
    (observeAll ((.childAnnouncement n p c kind rel, first) :: (between ++ [(.childReady m c, last)])) r = .ok es t ↔
      observeAll ((.childReady n c, first) :: (between ++ [(.childAnnouncement m p c kind rel, last)])) r = .ok es t) ∧
    (observeAll ((.childReady n c, first) :: (between ++ [(.childAnnouncement m p c kind rel, last)])) r = .ok es t →
      ∃ parent middle id, r.task p = some parent ∧ (between = [] → middle = [] ∧ id = r.nextLogicalTaskId) ∧
        es = none :: middle ++ [some (.birth m id (some parent.logicalTaskId) ((inherited rel parent).getD id)
          kind.normalized)]) := by
  obtain ⟨hinv, hcounted⟩ := recorder_run_counted hrun hp
  have h : r.Healthy := ⟨hinv, hcounted, hp⟩
  refine ⟨⟨fun hok => ?_, fun hok => ?_⟩, fun hok => ?_⟩
  · obtain ⟨i, hann, habs⟩ := announced_first h hfar hok
    obtain ⟨_, _, hok', rfl, rfl, -⟩ := (orders_inStep h hann habs hfar n m first last).ok_right hok
    exact hok'
  · obtain ⟨i, hann, habs⟩ := readied_first h hfar hok
    obtain ⟨_, _, hok', rfl, rfl, -⟩ := (orders_inStep h hann habs hfar n m first last).ok_left hok
    exact hok'
  · obtain ⟨i, hann, habs⟩ := readied_first h hfar hok
    obtain ⟨_, _, -, rfl, rfl, middle, id, hnil, hes⟩ := (orders_inStep h hann habs hfar n m first last).ok_left hok
    exact ⟨r.tasks i, middle, id, task_of_find hann.found, hnil, hes⟩

/-- Task 100 is inside a `clone`. -/
def cloningCalls : List (TaskObservation × EventSink) :=
  let sink : EventSink := fun _ => true
  [(.initialBirth 1 100, sink), (.seccompEntry 2 100 cloneNr, sink)]

open TaskStateRecorder in
theorem child_report_orders_clone : ∃ log r t, RecorderRun log r ∧
    observeAll [(.childAnnouncement 3 100 101 .clone .sharesParentThreadGroup, fun _ => true),
      (.childReady 4 102, fun _ => true), (.childReady 5 101, fun _ => true)] r =
        .ok [none, none, some (.birth 5 2 (some 1) 1 .clone)] t ∧
    observeAll [(.childReady 3 101, fun _ => true), (.childReady 4 102, fun _ => true),
      (.childAnnouncement 5 100 101 .clone .sharesParentThreadGroup, fun _ => true)] r =
        .ok [none, none, some (.birth 5 2 (some 1) 1 .clone)] t := by
  have hstart : RecorderRun [] .new := .start rfl
  have hrun := hstart.play cloningCalls
  obtain ⟨t, hok⟩ : ∃ t, observeAll [(.childReady 3 101, fun _ => true), (.childReady 4 102, fun _ => true),
      (.childAnnouncement 5 100 101 .clone .sharesParentThreadGroup, fun _ => true)]
        (play (fun call => observe call.1 call.2) cloningCalls ([], .new)).2 =
        .ok [none, none, some (.birth 5 2 (some 1) 1 .clone)] t := returned_eq_some (by decide +kernel)
  have horders := child_report_orders hrun (by decide +kernel) 3 5 100 101 .clone .sharesParentThreadGroup
    (fun _ => true) (fun _ => true) [(.childReady 4 102, fun _ => true)] (by simp [TaskObservation.touches])
  exact ⟨_, _, t, hrun, (horders _ _).1.2 hok, hok⟩

end Again.Tracer
