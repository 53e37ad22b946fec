import Again.Tracer.TaskTransitions

/-!
# Table updates under the invariant

The recorder changes its tables in a few ways only: it rewrites a live task,
reaps one, adds or drops a pending child, and turns a pending child into a
task. Each keeps `Inv` and acts on the maps `task` and `child` at one or two
TIDs.
-/

namespace Again.Tracer.TaskStateRecorder

open Lib Table

variable {r s : TaskStateRecorder} {i j k : Fin maxTasks} {t : TaskSlot} {p : PendingChildCorrelation}

/-! ## Recorders that agree on a TID -/

/-- The same slots hold the TID, with the same task in them. -/
theorem task_congr {tid : Int} (hi : r.Inv) (hs : s.Inv)
    (h : ∀ k, s.LiveAt k ∧ (s.tasks k).rawTid = tid ↔ r.LiveAt k ∧ (r.tasks k).rawTid = tid)
    (hsame : ∀ k, r.LiveAt k → (r.tasks k).rawTid = tid → s.tasks k = r.tasks k) : s.task tid = r.task tid := by
  refine Option.ext fun u => ?_
  rw [task_eq_some hs, task_eq_some hi]
  refine exists_congr fun k => ?_
  rw [← and_assoc, ← and_assoc, h k]
  refine and_congr_right fun hk => ?_
  rw [hsame k hk.1 hk.2]

/-- The same pending slots hold the TID, and their parents keep theirs. -/
theorem child_congr {tid : Int} (hi : r.Inv) (hs : s.Inv)
    (h : tid ≠ 0 → ∀ j, (s.pendingChildren j).rawTid = tid ∨ (r.pendingChildren j).rawTid = tid →
      s.pendingChildren j = r.pendingChildren j ∧ ∀ a, (r.pendingChildren j).announcement = some a →
        (s.tasks a.parentIndex).rawTid = (r.tasks a.parentIndex).rawTid) : s.child tid = r.child tid := by
  refine Option.ext fun c => ?_
  rw [child_eq_some hs, child_eq_some hi]
  refine and_congr_right fun h0 => exists_congr fun j => ?_
  by_cases hj : (s.pendingChildren j).rawTid = tid ∨ (r.pendingChildren j).rawTid = tid
  · obtain ⟨hslot, hparent⟩ := h h0 j hj
    have hstate : s.childStateAt j = r.childStateAt j := by
      simp only [childStateAt, hslot]
      cases ha : (r.pendingChildren j).announcement with
      | none => rfl
      | some a => simp only [hparent a ha]
    rw [hslot, hstate]
  · rw [not_or] at hj
    simp [hj]

/-! ## Rewriting one task -/

theorem inv_putTask (hi : r.Inv) (hid : t.logicalTaskId = (r.tasks i).logicalTaskId) (hphase : t.phase ≠ .unused)
    (hlive : t.phase ≠ .reaped → r.LiveAt i ∧ t.rawTid = (r.tasks i).rawTid ∧
      (t.phase ≠ .running → t.pendingSyscall = none) ∧
      (t.pendingChildRawTid = 0 → t.childReadySeenForPending = false))
    (hchild : ∀ j a, (r.pendingChildren j).rawTid ≠ 0 → (r.pendingChildren j).announcement = some a →
      a.parentIndex ≠ i) : (r.withTask i t).Inv := by
  -- what is live now was live under the same TID
  have hold : ∀ k, (r.withTask i t).LiveAt k →
      r.LiveAt k ∧ ((r.withTask i t).tasks k).rawTid = (r.tasks k).rawTid ∧
      (((r.withTask i t).tasks k).phase ≠ .running → ((r.withTask i t).tasks k).pendingSyscall = none) ∧
      (((r.withTask i t).tasks k).pendingChildRawTid = 0 →
        ((r.withTask i t).tasks k).childReadySeenForPending = false) := by
    intro k hk
    by_cases hki : k = i
    · subst hki
      simpa using hlive (by simpa using hk.2)
    · have hk' : r.LiveAt k := by simpa [LiveAt, put_other _ _ hki] using hk
      simpa [put_other _ _ hki] using ⟨hk', hi.idle k hk', hi.unborn k hk'⟩
  exact
    { nextId := hi.nextId
      ids := fun k hk => by
        by_cases hki : k = i
        · subst hki
          simpa [hid] using hi.ids k hk
        · simpa [put_other _ _ hki] using hi.ids k hk
      phases := fun k hk => by
        by_cases hki : k = i
        · subst hki
          simpa using hphase
        · simpa [put_other _ _ hki] using hi.phases k hk
      tidPos := fun k hk => (hold k hk).2.1 ▸ hi.tidPos k (hold k hk).1
      tidInj := fun k m hk hm h => by
        rw [(hold k hk).2.1, (hold m hm).2.1] at h
        exact hi.tidInj k m (hold k hk).1 (hold m hm).1 h
      idle := fun k hk => (hold k hk).2.2.1
      unborn := fun k hk => (hold k hk).2.2.2
      __ := hi
      childNotLive := fun k j hk hj => (hold k hk).2.1 ▸ hi.childNotLive k j (hold k hk).1 hj
      childParent := fun j a hj ha => by
        simpa [LiveAt, put_other _ _ (hchild j a hj ha)] using hi.childParent j a hj ha
      start := hi.start }

/-- A rewritten slot keeps its identity and stays live. -/
structure SameTask (t t' : TaskSlot) : Prop where
  id : t'.logicalTaskId = t.logicalTaskId
  rawTid : t'.rawTid = t.rawTid
  phase : t'.phase = .running ∨ t'.phase = .exitObserved
  idle : t'.phase ≠ .running → t'.pendingSyscall = none
  unborn : t'.pendingChildRawTid = 0 → t'.childReadySeenForPending = false

theorem SameTask.not_reaped {t' : TaskSlot} (h : SameTask t t') : t'.phase ≠ .reaped := by
  rcases h.phase with h | h <;> simp [h]

theorem liveAt_withTask (hl : r.LiveAt i) (ht : t.phase ≠ .reaped) (k : Fin maxTasks) :
    (r.withTask i t).LiveAt k ↔ r.LiveAt k := by
  by_cases hk : k = i
  · subst hk
    simp [LiveAt, hl.1, hl.2, ht]
  · simp [LiveAt, put_other _ _ hk]

theorem rawTid_withTask (ht : SameTask (r.tasks i) t) (k : Fin maxTasks) :
    ((r.withTask i t).tasks k).rawTid = (r.tasks k).rawTid := by
  by_cases hk : k = i
  · subst hk
    simp [ht.rawTid]
  · simp [put_other _ _ hk]

theorem inv_withTask (hi : r.Inv) (hl : r.LiveAt i) (ht : SameTask (r.tasks i) t)
    (hchild : ∀ j a, (r.pendingChildren j).rawTid ≠ 0 → (r.pendingChildren j).announcement = some a →
      a.parentIndex ≠ i) : (r.withTask i t).Inv := by
  refine inv_putTask hi ht.id ?_ (fun _ => ⟨hl, ht.rawTid, ht.idle, ht.unborn⟩) hchild
  rcases ht.phase with h | h <;> simp [h]

theorem task_withTask (hi : r.Inv) (hl : r.LiveAt i) (ht : SameTask (r.tasks i) t) (hi' : (r.withTask i t).Inv)
    (tid : Int) : (r.withTask i t).task tid = if tid = (r.tasks i).rawTid then some t else r.task tid := by
  split
  · rename_i h
    subst h
    refine (task_eq_some hi').2 ⟨i, (liveAt_withTask hl ht.not_reaped i).2 hl, ?_, by simp⟩
    rw [rawTid_withTask ht]
  · rename_i h
    refine task_congr hi hi' (fun k => ?_) fun k _ hk => ?_
    · rw [liveAt_withTask hl ht.not_reaped, rawTid_withTask ht]
    · have hki : k ≠ i := fun e => h (by rw [← hk, e])
      simp [put_other _ _ hki]

theorem child_withTask (ht : SameTask (r.tasks i) t) (tid : Int) : (r.withTask i t).child tid = r.child tid := by
  have hstate : (r.withTask i t).childStateAt = r.childStateAt := by
    funext j
    simp only [childStateAt, withTask_pendingChildren, rawTid_withTask ht]
  simp only [child, findPendingChild, withTask_pendingChildren, hstate]

/-! ## Reaping -/

/-- The slot of a reaped task. -/
def reapedTask (t : TaskSlot) : TaskSlot := { clearPending t with phase := .reaped, rawTid := 0 }

theorem liveAt_reap : (r.withTask i (reapedTask (r.tasks i))).LiveAt k ↔ r.LiveAt k ∧ k ≠ i := by
  by_cases hk : k = i
  · subst hk
    simp [LiveAt, reapedTask]
  · simp [LiveAt, put_other _ _ hk, hk]

/-- The parent of an announced child is running, so it is not the task being reaped. -/
theorem parent_not_reaped (hi : r.Inv) (hphase : (r.tasks i).phase ≠ .running) (j : Fin maxTasks)
    (a : PendingChildAnnouncement) (hj : (r.pendingChildren j).rawTid ≠ 0)
    (ha : (r.pendingChildren j).announcement = some a) : a.parentIndex ≠ i := fun h =>
  hphase (h ▸ (hi.childParent j a hj ha).2.1)

theorem inv_reap (hi : r.Inv) (hphase : (r.tasks i).phase ≠ .running) :
    (r.withTask i (reapedTask (r.tasks i))).Inv :=
  inv_putTask hi rfl (by simp [reapedTask]) (fun h => absurd rfl h) (parent_not_reaped hi hphase)

theorem task_reap (hi : r.Inv) (hl : r.LiveAt i) (hphase : (r.tasks i).phase ≠ .running) (tid : Int) :
    (r.withTask i (reapedTask (r.tasks i))).task tid =
      if tid = (r.tasks i).rawTid then none else r.task tid := by
  split
  · rename_i h
    refine task_eq_none.2 fun k hk => ?_
    obtain ⟨hk, hki⟩ := liveAt_reap.1 hk
    simp only [withTask_tasks, put_other _ _ hki]
    exact fun e => hki (hi.tidInj k i hk hl (e.trans h))
  · rename_i h
    have hother : ∀ k, (r.tasks k).rawTid = tid → k ≠ i := fun k hk e => h (by rw [← hk, e])
    refine task_congr hi (inv_reap hi hphase) (fun k => ?_) fun k _ hk => by simp [put_other _ _ (hother k hk)]
    rw [liveAt_reap]
    by_cases hki : k = i
    · subst hki
      simpa using fun _ e => h e.symm
    · simp [put_other _ _ hki, hki]

theorem child_reap (hi : r.Inv) (hphase : (r.tasks i).phase ≠ .running) (tid : Int) :
    (r.withTask i (reapedTask (r.tasks i))).child tid = r.child tid := by
  refine child_congr hi (inv_reap hi hphase) fun h0 j hj => ⟨rfl, fun a ha => ?_⟩
  have hj : (r.pendingChildren j).rawTid = tid := hj.elim id id
  have hne := parent_not_reaped hi hphase j a (hj ▸ h0) ha
  simp [put_other _ _ hne]

/-! ## Pending children -/

/-- The announcement of a child by a running task. -/
abbrev Announces (r : TaskStateRecorder) (a : PendingChildAnnouncement) (child : Int) : Prop :=
  r.LiveAt a.parentIndex ∧ (r.tasks a.parentIndex).phase = .running ∧
    (r.tasks a.parentIndex).pendingChildRawTid = child ∧
    (r.tasks a.parentIndex).childReadySeenForPending = false ∧
    creationSyscallPermits (r.tasks a.parentIndex).pendingSyscall a.kind = true

theorem inv_putChild (hi : r.Inv) (hp : p.rawTid ≠ 0 → 0 < p.rawTid ∧ r.findLiveTask p.rawTid = none ∧
      r.findPendingChild p.rawTid = none ∧ (p.announcement = none ↔ p.readySeen = true) ∧
      ∀ a, p.announcement = some a → r.Announces a p.rawTid)
    (hcap : r.slotsUsed + (r.withChild j p).pendingChildCount ≤ maxTasks) (hstart : r.slotsUsed = 0 → p.rawTid = 0) :
    (r.withChild j p).Inv where
  __ := hi
  childPos := fun k => by
    by_cases hkj : k = j
    · subst hkj
      simpa using fun h => (hp h).1
    · simpa [put_other _ _ hkj] using hi.childPos k
  childInj := by
    refine Table.Keyed.put (t := r.pendingChildren) hi.childInj fun h k _ => ?_
    have habs := (hp h).2.2.1
    simp only [findPendingChild, position_none, beq_eq_false_iff_ne] at habs
    exact habs k
  childNotLive := fun i k hl => by
    by_cases hkj : k = j
    · subst hkj
      simpa using fun h => findLiveTask_none.1 (hp h).2.1 i hl
    · simpa [put_other _ _ hkj] using hi.childNotLive i k hl
  childHalf := fun k => by
    by_cases hkj : k = j
    · subst hkj
      simpa using fun h => (hp h).2.2.2.1
    · simpa [put_other _ _ hkj] using hi.childHalf k
  childParent := fun k a => by
    by_cases hkj : k = j
    · subst hkj
      rw [withChild_pendingChildren, put_self]
      exact fun h => (hp h).2.2.2.2 a
    · rw [withChild_pendingChildren, put_other _ _ hkj]
      exact hi.childParent k a
  capacity := hcap
  start := fun h k => by
    by_cases hkj : k = j
    · subst hkj
      simpa using hstart h
    · simpa [put_other _ _ hkj] using hi.start h k

/-- A fresh child in an empty slot: stopped, or announced by a running parent. -/
theorem inv_withChild (hi : r.Inv) (hstart : r.slotsUsed ≠ 0) (hj : (r.pendingChildren j).rawTid = 0)
    (hpos : 0 < p.rawTid) (hnew : r.findLiveTask p.rawTid = none) (habs : r.findPendingChild p.rawTid = none)
    (hcap : r.slotsUsed + r.pendingChildCount < maxTasks) (hhalf : p.announcement = none ↔ p.readySeen = true)
    (hparent : ∀ a, p.announcement = some a → r.Announces a p.rawTid) : (r.withChild j p).Inv := by
  have hcount : (r.withChild j p).pendingChildCount = r.pendingChildCount + 1 :=
    count_put_add (by simp [hj]) (by simp [hpos.ne'])
  exact inv_putChild hi (fun _ => ⟨hpos, hnew, habs, hhalf, hparent⟩) (by omega) fun h => absurd h hstart

theorem child_withChild (hi : r.Inv) (hi' : (r.withChild j p).Inv) (hj : (r.pendingChildren j).rawTid = 0)
    (hp : p.rawTid ≠ 0) (tid : Int) :
    (r.withChild j p).child tid = if tid = p.rawTid then some ((r.withChild j p).childStateAt j)
      else r.child tid := by
  split
  · rename_i h
    exact (child_eq_some hi').2 ⟨by rw [h]; exact hp, j, by simp [h], rfl⟩
  · rename_i h
    refine child_congr hi hi' fun h0 k hk => ⟨?_, fun _ _ => rfl⟩
    refine put_other _ _ ?_
    rintro rfl
    rcases hk with hk | hk
    · exact h (by simpa using hk.symm)
    · exact h0 (hk.symm.trans hj)

theorem task_withChild (tid : Int) : (r.withChild j p).task tid = r.task tid := by
  simp only [task]
  rfl

theorem pendingChildCount_dropChild (hj : (r.pendingChildren j).rawTid ≠ 0) :
    (r.withChild j .empty).pendingChildCount + 1 = r.pendingChildCount :=
  count_put_sub (by simp [hj]) (by simp [PendingChildCorrelation.empty])

theorem dropChild_rawTid (hk : ((r.withChild j .empty).pendingChildren k).rawTid ≠ 0) : k ≠ j := by
  rintro rfl
  simp [PendingChildCorrelation.empty] at hk

theorem inv_dropChild (hi : r.Inv) (hj : (r.pendingChildren j).rawTid ≠ 0) : (r.withChild j .empty).Inv := by
  have hcount := pendingChildCount_dropChild hj
  have hcap := hi.capacity
  exact inv_putChild hi (fun h => absurd rfl h) (by omega) fun _ => rfl

theorem child_dropChild (hi : r.Inv) (hj : (r.pendingChildren j).rawTid ≠ 0) (tid : Int) :
    (r.withChild j .empty).child tid = if tid = (r.pendingChildren j).rawTid then none else r.child tid := by
  split
  · rename_i h
    refine (child_eq_none (by rw [h]; exact hj)).2 fun k hk => ?_
    have hkj := dropChild_rawTid (by rw [hk, h]; exact hj)
    simp only [withChild_pendingChildren, put_other _ _ hkj] at hk
    exact hkj (hi.childInj j k hj (by rw [hk, h])).symm
  · rename_i h
    refine child_congr hi (inv_dropChild hi hj) fun h0 k hk => ⟨?_, fun _ _ => rfl⟩
    refine put_other _ _ ?_
    rintro rfl
    rcases hk with hk | hk
    · exact h0 (by simpa [PendingChildCorrelation.empty] using hk.symm)
    · exact h hk.symm

/-! ## A new task -/

section

variable {hcap : r.slotsUsed < maxTasks} {tid : Int} {group : Option Nat}

theorem liveAt_withNewTask :
    (r.withNewTask hcap tid group).LiveAt k ↔ r.LiveAt k ∨ k = ⟨r.slotsUsed, hcap⟩ := by
  by_cases hk : k = ⟨r.slotsUsed, hcap⟩
  · subst hk
    simp [LiveAt, withNewTask, newTask]
  · have hne : k.val ≠ r.slotsUsed := fun h => hk (Fin.ext h)
    simp only [LiveAt, withNewTask, put_other _ _ hk, hk, or_false]
    refine and_congr_left fun _ => ?_
    omega

theorem tasks_withNewTask_old (hk : k.val < r.slotsUsed) : (r.withNewTask hcap tid group).tasks k = r.tasks k := by
  have hne : k ≠ ⟨r.slotsUsed, hcap⟩ := fun h => by simp [h] at hk
  simp [withNewTask, put_other _ _ hne]

theorem tasks_withNewTask_new :
    (r.withNewTask hcap tid group).tasks ⟨r.slotsUsed, hcap⟩ = newTask r.nextLogicalTaskId tid group := by
  simp [withNewTask]

theorem inv_withNewTask (hi : r.Inv) (hpos : 0 < tid) (hnew : r.findLiveTask tid = none)
    (habs : ∀ j, (r.pendingChildren j).rawTid ≠ tid) (hroom : r.slotsUsed + r.pendingChildCount < maxTasks) :
    (r.withNewTask hcap tid group).Inv where
  nextId := by simp [withNewTask, hi.nextId]
  ids := fun k hk => by
    rcases Nat.lt_succ_iff_lt_or_eq.1 hk with hk | hk
    · rw [tasks_withNewTask_old hk]
      exact hi.ids k hk
    · obtain rfl : k = ⟨r.slotsUsed, hcap⟩ := Fin.ext hk
      simp [tasks_withNewTask_new, newTask, hi.nextId]
  phases := fun k hk => by
    rcases Nat.lt_succ_iff_lt_or_eq.1 hk with hk | hk
    · rw [tasks_withNewTask_old hk]
      exact hi.phases k hk
    · obtain rfl : k = ⟨r.slotsUsed, hcap⟩ := Fin.ext hk
      simp [tasks_withNewTask_new, newTask]
  tidPos := fun k hk => by
    rcases liveAt_withNewTask.1 hk with hk | rfl
    · rw [tasks_withNewTask_old hk.1]
      exact hi.tidPos k hk
    · simpa [tasks_withNewTask_new, newTask] using hpos
  tidInj := fun k m hk hm h => by
    have hother : ∀ k, r.LiveAt k → (r.tasks k).rawTid ≠ tid := findLiveTask_none.1 hnew
    rcases liveAt_withNewTask.1 hk with hk | rfl <;>
      rcases liveAt_withNewTask.1 hm with hm | rfl
    · rw [tasks_withNewTask_old hk.1, tasks_withNewTask_old hm.1] at h
      exact hi.tidInj k m hk hm h
    · rw [tasks_withNewTask_old hk.1, tasks_withNewTask_new] at h
      exact absurd h (hother k hk)
    · rw [tasks_withNewTask_old hm.1, tasks_withNewTask_new] at h
      exact absurd h.symm (hother m hm)
    · rfl
  idle := fun k hk => by
    rcases liveAt_withNewTask.1 hk with hk | rfl
    · rw [tasks_withNewTask_old hk.1]
      exact hi.idle k hk
    · simp [tasks_withNewTask_new, newTask]
  unborn := fun k hk => by
    rcases liveAt_withNewTask.1 hk with hk | rfl
    · rw [tasks_withNewTask_old hk.1]
      exact hi.unborn k hk
    · simp [tasks_withNewTask_new, newTask]
  __ := hi
  childNotLive := fun k j hk hj => by
    rcases liveAt_withNewTask.1 hk with hk | rfl
    · rw [tasks_withNewTask_old hk.1]
      exact hi.childNotLive k j hk hj
    · simpa [tasks_withNewTask_new, newTask] using fun h => habs j h.symm
  childParent := fun j a hj ha => by
    obtain ⟨hl, hrest⟩ := hi.childParent j a hj ha
    rw [tasks_withNewTask_old hl.1]
    exact ⟨liveAt_withNewTask.2 (.inl hl), hrest⟩
  capacity := by
    show r.slotsUsed + 1 + r.pendingChildCount ≤ maxTasks
    omega
  start := fun h => absurd h (Nat.succ_ne_zero _)

theorem task_withNewTask (hi : r.Inv) (hi' : (r.withNewTask hcap tid group).Inv) (u : Int) :
    (r.withNewTask hcap tid group).task u =
      if u = tid then some (newTask r.nextLogicalTaskId tid group) else r.task u := by
  split
  · rename_i h
    refine (task_eq_some hi').2 ⟨_, liveAt_withNewTask.2 (.inr rfl), ?_,
      tasks_withNewTask_new⟩
    rw [tasks_withNewTask_new, h]
    rfl
  · rename_i h
    refine task_congr hi hi' (fun k => ?_) fun k hk _ => tasks_withNewTask_old hk.1
    rw [liveAt_withNewTask]
    constructor
    · rintro ⟨hk | rfl, hraw⟩
      · exact ⟨hk, tasks_withNewTask_old hk.1 ▸ hraw⟩
      · rw [tasks_withNewTask_new] at hraw
        exact absurd hraw.symm h
    · rintro ⟨hk, hraw⟩
      exact ⟨.inl hk, (tasks_withNewTask_old hk.1).symm ▸ hraw⟩

theorem child_withNewTask (hi : r.Inv) (hi' : (r.withNewTask hcap tid group).Inv) (u : Int) :
    (r.withNewTask hcap tid group).child u = r.child u := by
  refine child_congr hi hi' fun h0 j hj => ⟨rfl, fun a ha => ?_⟩
  have hj : (r.pendingChildren j).rawTid = u := hj.elim id id
  have hl := (hi.childParent j a (hj ▸ h0) ha).1
  rw [tasks_withNewTask_old hl.1]

end

/-! ## A birth -/

/-- The child in slot `j` becomes a task and its parent `i` is told. -/
structure Birth (r : TaskStateRecorder) (i j : Fin maxTasks) (parent : TaskSlot) (c : Int) : Prop where
  child : (r.pendingChildren j).rawTid = c
  pos : 0 < c
  new : r.findLiveTask c = none
  live : r.LiveAt i
  same : SameTask (r.tasks i) parent
  only : ∀ k a, k ≠ j → (r.pendingChildren k).rawTid ≠ 0 → (r.pendingChildren k).announcement = some a →
    a.parentIndex ≠ i

section

variable {parent : TaskSlot} {c : Int} (hi : r.Inv) (hb : Birth r i j parent c)

include hb

theorem Birth.rawTid_ne : (r.pendingChildren j).rawTid ≠ 0 := by
  rw [hb.child]
  exact hb.pos.ne'

include hi

/-- The tables between the child leaving its pending slot and taking a task slot. -/
theorem Birth.inv_middle : ((r.withTask i parent).withChild j .empty).Inv := by
  refine inv_withTask (inv_dropChild hi (hb.rawTid_ne)) hb.live hb.same fun k a hk ha => ?_
  have hkj := dropChild_rawTid hk
  simp only [withChild_pendingChildren, put_other _ _ hkj] at hk ha
  exact hb.only k a hkj hk ha

theorem Birth.inv (hcap : r.slotsUsed < maxTasks) (group : Option Nat) :
    (r.withBirth hcap i parent j c group).Inv := by
  refine inv_withNewTask (r := (r.withTask i parent).withChild j .empty) (hb.inv_middle hi) hb.pos ?_ ?_ ?_
  · refine findLiveTask_none.2 fun k hk => ?_
    rw [withChild_tasks, rawTid_withTask hb.same]
    exact findLiveTask_none.1 hb.new k ((liveAt_withTask hb.live hb.same.not_reaped k).1 hk)
  · intro k hk
    have hkj : k ≠ j := dropChild_rawTid (r := r.withTask i parent) (by rw [hk]; exact hb.pos.ne')
    simp only [withChild_pendingChildren, withTask_pendingChildren, put_other _ _ hkj] at hk
    exact hkj (hi.childInj j k (hb.rawTid_ne) (by rw [hk, hb.child])).symm
  · have hc := pendingChildCount_dropChild (r := r.withTask i parent) (j := j) (hb.rawTid_ne)
    have hle := hi.capacity
    have heq : (r.withTask i parent).pendingChildCount = r.pendingChildCount := rfl
    simp only [withChild_slotsUsed, withTask_slotsUsed]
    omega

theorem Birth.task (hcap : r.slotsUsed < maxTasks) (group : Option Nat) :
    (r.withBirth hcap i parent j c group).task =
      Function.update (Function.update r.task (r.tasks i).rawTid (some parent)) c
        (some (newTask r.nextLogicalTaskId c group)) := by
  have hmid := hb.inv_middle hi
  funext u
  have hdrop := inv_dropChild hi (hb.rawTid_ne)
  rw [withBirth, task_withNewTask (r := (r.withTask i parent).withChild j .empty) hmid
    (hb.inv hi hcap group) u, Function.update_apply]
  split
  · rfl
  · rw [Function.update_apply, withTask_withChild]
    rw [task_withTask hdrop hb.live hb.same hmid u, task_withChild, withChild_tasks]

theorem Birth.child_eq (hcap : r.slotsUsed < maxTasks) (group : Option Nat) :
    (r.withBirth hcap i parent j c group).child = Function.update r.child c none := by
  have hmid := hb.inv_middle hi
  funext u
  rw [withBirth, child_withNewTask (r := (r.withTask i parent).withChild j .empty) hmid
    (hb.inv hi hcap group) u, withTask_withChild, child_withTask (r := r.withChild j .empty) hb.same,
    child_dropChild hi (hb.rawTid_ne), hb.child, Function.update_apply]

end

end Again.Tracer.TaskStateRecorder
