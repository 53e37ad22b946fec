import Again.Tracer.TaskState

/-!
# What a healthy recorder holds

`Inv` is what every recorder that was never poisoned satisfies. Under it the
two tables read as partial maps keyed by raw TID: `task` gives the live task
of a TID, `child` the child that TID is correlated for but that is not a task
yet. Each TID names at most one of the two.
-/

namespace Again.Tracer.TaskStateRecorder

open Lib

/-- The slot holds a task that was not reaped. -/
def LiveAt (r : TaskStateRecorder) (i : Fin maxTasks) : Prop :=
  i.val < r.slotsUsed ∧ (r.tasks i).phase ≠ .reaped

structure Inv (r : TaskStateRecorder) : Prop where
  nextId : r.nextLogicalTaskId = r.slotsUsed + 1
  ids : ∀ i, i.val < r.slotsUsed → (r.tasks i).logicalTaskId = i.val + 1
  phases : ∀ i, i.val < r.slotsUsed → (r.tasks i).phase ≠ .unused
  tidPos : ∀ i, r.LiveAt i → 0 < (r.tasks i).rawTid
  tidInj : ∀ i j, r.LiveAt i → r.LiveAt j → (r.tasks i).rawTid = (r.tasks j).rawTid → i = j
  idle : ∀ i, r.LiveAt i → (r.tasks i).phase ≠ .running → (r.tasks i).pendingSyscall = none
  unborn : ∀ i, r.LiveAt i → (r.tasks i).pendingChildRawTid = 0 → (r.tasks i).childReadySeenForPending = false
  childPos : ∀ j, (r.pendingChildren j).rawTid ≠ 0 → 0 < (r.pendingChildren j).rawTid
  childInj : ∀ j k, (r.pendingChildren j).rawTid ≠ 0 →
    (r.pendingChildren j).rawTid = (r.pendingChildren k).rawTid → j = k
  childNotLive : ∀ i j, r.LiveAt i → (r.pendingChildren j).rawTid ≠ 0 →
    (r.tasks i).rawTid ≠ (r.pendingChildren j).rawTid
  childHalf : ∀ j, (r.pendingChildren j).rawTid ≠ 0 →
    ((r.pendingChildren j).announcement = none ↔ (r.pendingChildren j).readySeen = true)
  childParent : ∀ j a, (r.pendingChildren j).rawTid ≠ 0 → (r.pendingChildren j).announcement = some a →
    r.LiveAt a.parentIndex ∧ (r.tasks a.parentIndex).phase = .running ∧
    (r.tasks a.parentIndex).pendingChildRawTid = (r.pendingChildren j).rawTid ∧
    (r.tasks a.parentIndex).childReadySeenForPending = false ∧
    creationSyscallPermits (r.tasks a.parentIndex).pendingSyscall a.kind = true
  capacity : r.slotsUsed + r.pendingChildCount ≤ maxTasks
  start : r.slotsUsed = 0 → ∀ j, (r.pendingChildren j).rawTid = 0

theorem inv_new : Inv new where
  nextId := rfl
  ids := nofun
  phases := nofun
  tidPos := nofun
  tidInj := nofun
  idle := nofun
  unborn := nofun
  childPos := fun _ h => absurd rfl h
  childInj := fun _ _ h => absurd rfl h
  childNotLive := nofun
  childHalf := fun _ h => absurd rfl h
  childParent := fun _ _ h => absurd rfl h
  capacity := by
    have h0 : new.pendingChildCount = 0 := Table.count_eq_zero.2 fun _ => rfl
    rw [h0]
    exact Nat.zero_le _
  start := fun _ _ => rfl

/-! ## Table updates -/

section

variable (r : TaskStateRecorder) (i j : Fin maxTasks) (t : TaskSlot) (p q : PendingChildCorrelation)

@[simp] theorem withTask_tasks : (r.withTask i t).tasks = r.tasks.put i t := rfl
@[simp] theorem withTask_pendingChildren : (r.withTask i t).pendingChildren = r.pendingChildren := rfl
@[simp] theorem withTask_slotsUsed : (r.withTask i t).slotsUsed = r.slotsUsed := rfl
@[simp] theorem withTask_nextId : (r.withTask i t).nextLogicalTaskId = r.nextLogicalTaskId := rfl
@[simp] theorem withChild_tasks : (r.withChild j p).tasks = r.tasks := rfl
@[simp] theorem withChild_pendingChildren :
    (r.withChild j p).pendingChildren = r.pendingChildren.put j p := rfl
@[simp] theorem withChild_slotsUsed : (r.withChild j p).slotsUsed = r.slotsUsed := rfl
@[simp] theorem withChild_nextId : (r.withChild j p).nextLogicalTaskId = r.nextLogicalTaskId := rfl

@[simp] theorem withChild_withChild : (r.withChild j p).withChild j q = r.withChild j q := by
  simp [withChild]

theorem withTask_withChild : (r.withTask i t).withChild j p = (r.withChild j p).withTask i t := rfl

end

/-! ## Live tasks by raw TID -/

variable {tid c : Int}

variable {r : TaskStateRecorder} {i : Fin maxTasks}

theorem isLiveAt_iff :
    r.isLiveAt tid i = true ↔ r.LiveAt i ∧ (r.tasks i).rawTid = tid := by
  simp only [isLiveAt, LiveAt, Bool.and_eq_true, decide_eq_true_eq, beq_iff_eq, bne_iff_ne]
  tauto

theorem findLiveTask_some (h : r.findLiveTask tid = some i) :
    r.LiveAt i ∧ (r.tasks i).rawTid = tid :=
  isLiveAt_iff.1 (Fin.eq_true_of_find?_eq_some h)

theorem findLiveTask_none :
    r.findLiveTask tid = none ↔ ∀ i, r.LiveAt i → (r.tasks i).rawTid ≠ tid := by
  simp only [findLiveTask, Fin.find?_eq_none_iff, Bool.eq_false_iff, ne_eq, isLiveAt_iff, not_and]

theorem findLiveTask_eq (hi : r.Inv) (hl : r.LiveAt i) :
    r.findLiveTask (r.tasks i).rawTid = some i := by
  cases hf : r.findLiveTask (r.tasks i).rawTid with
  | none => exact absurd rfl (findLiveTask_none.1 hf i hl)
  | some j =>
    obtain ⟨hj, ht⟩ := findLiveTask_some hf
    rw [hi.tidInj j i hj hl ht]

/-- The live task a raw TID names. -/
def task (r : TaskStateRecorder) (tid : Int) : Option TaskSlot := (r.findLiveTask tid).map r.tasks

theorem task_eq_some (hi : r.Inv) {t : TaskSlot} :
    r.task tid = some t ↔ ∃ i, r.LiveAt i ∧ (r.tasks i).rawTid = tid ∧ r.tasks i = t := by
  constructor
  · intro h
    obtain ⟨i, hf, rfl⟩ := Option.map_eq_some_iff.1 h
    obtain ⟨hl, ht⟩ := findLiveTask_some hf
    exact ⟨i, hl, ht, rfl⟩
  · rintro ⟨i, hl, rfl, rfl⟩
    simp [task, findLiveTask_eq hi hl]

theorem task_eq_none : r.task tid = none ↔ ∀ i, r.LiveAt i → (r.tasks i).rawTid ≠ tid := by
  simp only [task, Option.map_eq_none_iff, findLiveTask_none]

theorem task_of_find (h : r.findLiveTask tid = some i) :
    r.task tid = some (r.tasks i) := by
  simp [task, h]

theorem task_pos (hi : r.Inv) {t : TaskSlot} (h : r.task tid = some t) : 0 < tid := by
  obtain ⟨i, hl, rfl, -⟩ := (task_eq_some hi).1 h
  exact hi.tidPos i hl

theorem task_isSome : (r.task tid).isSome = r.containsLiveRawTid tid := by
  simp [task, containsLiveRawTid]

theorem pendingSyscallNumber_eq (tid : Int) :
    r.pendingSyscallNumber tid = (r.task tid).bind (·.pendingSyscall) := by
  simp [pendingSyscallNumber, task, Option.bind_map]

/-! ## Pending children by raw TID -/

/-- A child before it is a task: stopped but not announced, or announced and not stopped yet. -/
inductive ChildState where
  | ready
  | announced (parentRawTid : Int) (kind : TaskChildBirthKind) (groupRelation : TaskGroupRelation)
deriving DecidableEq

/-- What a pending slot says of its child. -/
def childStateAt (r : TaskStateRecorder) (j : Fin maxTasks) : ChildState :=
  match (r.pendingChildren j).announcement with
  | none => .ready
  | some a => .announced (r.tasks a.parentIndex).rawTid a.kind a.groupRelation

def findPendingChild (r : TaskStateRecorder) (tid : Int) : Option (Fin maxTasks) :=
  r.pendingChildren.position fun pending => pending.rawTid == tid

/-- The child a raw TID is correlated for; `0` marks an empty slot. -/
def child (r : TaskStateRecorder) (tid : Int) : Option ChildState :=
  if tid = 0 then none else (r.findPendingChild tid).map r.childStateAt

theorem findPendingChild_eq (hi : r.Inv) {j : Fin maxTasks}
    (hj : (r.pendingChildren j).rawTid ≠ 0) : r.findPendingChild (r.pendingChildren j).rawTid = some j := by
  refine Table.position_eq_some (by simp) fun k hk => ?_
  exact (hi.childInj j k hj (by simpa using (beq_iff_eq.1 hk).symm)).symm

theorem child_eq_some (hi : r.Inv) {c : ChildState} :
    r.child tid = some c ↔ tid ≠ 0 ∧ ∃ j, (r.pendingChildren j).rawTid = tid ∧ r.childStateAt j = c := by
  unfold child
  split
  · simp_all
  · rename_i h0
    constructor
    · intro h
      obtain ⟨j, hf, rfl⟩ := Option.map_eq_some_iff.1 h
      exact ⟨h0, j, by simpa using Table.position_some hf, rfl⟩
    · rintro ⟨-, j, rfl, rfl⟩
      rw [findPendingChild_eq hi h0]
      rfl

theorem child_eq_none (h0 : tid ≠ 0) :
    r.child tid = none ↔ ∀ j, (r.pendingChildren j).rawTid ≠ tid := by
  simp [child, h0, findPendingChild, Table.position_none]

theorem child_pos (hi : r.Inv) {x : ChildState} (h : r.child c = some x) : 0 < c := by
  obtain ⟨h0, j, rfl, -⟩ := (child_eq_some hi).1 h
  exact hi.childPos j h0

theorem task_of_child (hi : r.Inv) {x : ChildState} (h : r.child c = some x) :
    r.task c = none := by
  obtain ⟨h0, j, rfl, -⟩ := (child_eq_some hi).1 h
  exact task_eq_none.2 fun i hl => hi.childNotLive i j hl h0

theorem isAnnounced_iff (hi : r.Inv) (h0 : c ≠ 0) :
    r.isAnnouncedChildAwaitingReady c = true ↔ ∃ p k g, r.child c = some (.announced p k g) := by
  rw [isAnnouncedChildAwaitingReady, Table.position, Fin.isSome_find?_iff]
  simp only [Bool.and_eq_true, beq_iff_eq, Option.isSome_iff_exists, Bool.not_eq_true', child_eq_some hi]
  constructor
  · rintro ⟨j, ⟨rfl, a, ha⟩, -⟩
    refine ⟨(r.tasks a.parentIndex).rawTid, a.kind, a.groupRelation, h0, j, rfl, ?_⟩
    simp only [childStateAt, ha]
  · rintro ⟨p, k, g, -, j, rfl, hstate⟩
    unfold childStateAt at hstate
    split at hstate
    · cases hstate
    · rename_i a ha
      refine ⟨j, ⟨rfl, a, ha⟩, ?_⟩
      have hhalf := hi.childHalf j h0
      simpa [ha] using hhalf

/-- A ready child fills a slot that saw its stop and no announcement. -/
theorem child_ready_iff (hi : r.Inv) (h0 : c ≠ 0) :
    r.child c = some .ready ↔ ∃ j, (r.pendingChildren j).rawTid = c ∧ (r.pendingChildren j).announcement = none ∧
      (r.pendingChildren j).readySeen = true := by
  rw [child_eq_some hi]
  constructor
  · rintro ⟨-, j, rfl, hstate⟩
    unfold childStateAt at hstate
    split at hstate
    · rename_i ha
      exact ⟨j, rfl, ha, (hi.childHalf j h0).1 ha⟩
    · cases hstate
  · rintro ⟨j, rfl, ha, -⟩
    exact ⟨h0, j, rfl, by simp only [childStateAt, ha]⟩

/-- An announced child fills a slot that saw its announcement by a live task and no stop. -/
theorem child_announced_iff (hi : r.Inv) {p : Int} (h0 : c ≠ 0) :
    (∃ k rel, r.child c = some (.announced p k rel)) ↔ ∃ j a, (r.pendingChildren j).rawTid = c ∧
      (r.pendingChildren j).announcement = some a ∧ (r.pendingChildren j).readySeen = false ∧
      r.findLiveTask p = some a.parentIndex := by
  simp only [child_eq_some hi]
  constructor
  · rintro ⟨k, rel, -, j, rfl, hstate⟩
    unfold childStateAt at hstate
    split at hstate
    · cases hstate
    · rename_i a ha
      cases hstate
      obtain ⟨hl, -⟩ := hi.childParent j a h0 ha
      have hhalf := hi.childHalf j h0
      exact ⟨j, a, rfl, ha, by simpa [ha] using hhalf, findLiveTask_eq hi hl⟩
  · rintro ⟨j, a, rfl, ha, -, hp⟩
    refine ⟨a.kind, a.groupRelation, h0, j, rfl, ?_⟩
    simp only [childStateAt, ha, (findLiveTask_some hp).2]

-- from here on the two maps are read through their lemmas
attribute [irreducible] task child

end Again.Tracer.TaskStateRecorder
