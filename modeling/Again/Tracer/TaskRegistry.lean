import Again.Tracer.TaskTables

/-!
# The recorder as a registry

`Inv` is kept by every accepted observation, and an accepted observation acts
on the maps `task` and `child` in one of the ways `Registry.Step` lists. These
are the facts the planner's proofs use; none of them looks at the recorder's
tables again.
-/

namespace Again.Tracer

open Lib

/-- The recorder seen from outside: which TID names which task, and which is a child in waiting. -/
structure Registry where
  task : Int → Option TaskSlot
  child : Int → Option TaskStateRecorder.ChildState

namespace Registry

open TaskStateRecorder

def setTask (g : Registry) (tid : Int) (t : TaskSlot) : Registry :=
  { g with task := Function.update g.task tid (some t) }

/-- The child `c` of `p` becomes a task. -/
def birth (g : Registry) (p : Int) (parent : TaskSlot) (c : Int) (t : TaskSlot) : Registry where
  task := Function.update (Function.update g.task p (some parent)) c (some t)
  child := Function.update g.child c none

/-- What an accepted observation does to the registry. -/
inductive Step (g : Registry) : TaskObservation → Registry → Prop
  | initialBirth {s : Nat} {tid : Int} {id : Nat} (hpos : 0 < tid) (hnone : ∀ u, g.task u = none)
      (hchild : ∀ u, g.child u = none) :
      Step g (.initialBirth s tid) (g.setTask tid (newTask id tid none))
  | announce {s : Nat} {p c : Int} {kind : TaskChildBirthKind} {rel : TaskGroupRelation} {t : TaskSlot} {n : Nat}
      (hpc : p ≠ c) (hc : 0 < c) (ht : g.task p = some t) (hrun : t.phase = .running)
      (hn : t.pendingSyscall = some n) (hk : creationSyscallPermits (some n) kind = true)
      (h0 : t.pendingChildRawTid = 0) (hnew : g.task c = none) (habs : g.child c = none) :
      Step g (.childAnnouncement s p c kind rel)
        { task := Function.update g.task p (some { t with pendingChildRawTid := c })
          child := Function.update g.child c (some (.announced p kind rel)) }
  | announceReady {s : Nat} {p c : Int} {kind : TaskChildBirthKind} {rel : TaskGroupRelation} {t : TaskSlot}
      {n id : Nat} {group : Option Nat} (hpc : p ≠ c) (hc : 0 < c) (ht : g.task p = some t)
      (hrun : t.phase = .running) (hn : t.pendingSyscall = some n)
      (hk : creationSyscallPermits (some n) kind = true) (h0 : t.pendingChildRawTid = 0)
      (hnew : g.task c = none) (hready : g.child c = some .ready) :
      Step g (.childAnnouncement s p c kind rel)
        (g.birth p { t with pendingChildRawTid := c, childReadySeenForPending := true } c (newTask id c group))
  | ready {s : Nat} {c : Int} (hc : 0 < c) (hnew : g.task c = none) (habs : g.child c = none) :
      Step g (.childReady s c) { g with child := Function.update g.child c (some .ready) }
  | readyAnnounced {s : Nat} {p c : Int} {kind : TaskChildBirthKind} {rel : TaskGroupRelation} {t : TaskSlot}
      {id : Nat} {group : Option Nat} (hc : 0 < c) (hnew : g.task c = none)
      (hann : g.child c = some (.announced p kind rel)) (ht : g.task p = some t) (hrun : t.phase = .running)
      (hk : creationSyscallPermits t.pendingSyscall kind = true) (htid : t.pendingChildRawTid = c) :
      Step g (.childReady s c) (g.birth p { t with childReadySeenForPending := true } c (newTask id c group))
  | exec {s : Nat} {tid : Int} {t : TaskSlot} {n : Nat} (ht : g.task tid = some t) (hrun : t.phase = .running)
      (hn : t.pendingSyscall = some n) (hexec : isExecSyscall n = true) :
      Step g (.exec s tid tid)
        (g.setTask tid { t with execEventSeenForPending := true, execSeenEver := true })
  | seccompEntry {s : Nat} {tid : Int} {n : Nat} {t : TaskSlot} (ht : g.task tid = some t)
      (hrun : t.phase = .running) (hn : t.pendingSyscall = none) :
      Step g (.seccompEntry s tid n) (g.setTask tid { clearPending t with pendingSyscall := some n })
  | syscallExit {s : Nat} {tid result : Int} {t : TaskSlot} {n : Nat} (ht : g.task tid = some t)
      (hrun : t.phase = .running) (hn : t.pendingSyscall = some n)
      (hcreate : isCreationSyscall n = true → checkCreationResult t result = .ok ()) :
      Step g (.syscallExit s tid result) (g.setTask tid (clearPending t))
  | ptraceExit {s : Nat} {tid : Int} {t : TaskSlot} {term : LinuxWaitTermination}
      {resolved : Option TaskNoReturnKind} (ht : g.task tid = some t) (hrun : t.phase = .running)
      (hres : resolveNoReturn term t.pendingSyscall = .ok resolved) :
      Step g (.ptraceExitEvent s tid term)
        (g.setTask tid { clearPending t with phase := .exitObserved, termination := some term })
  | terminalReap {s : Nat} {tid : Int} {t : TaskSlot} {term : LinuxWaitTermination} (ht : g.task tid = some t)
      (hphase : t.phase = .exitObserved) :
      Step g (.terminalReap s tid term) { g with task := Function.update g.task tid none }

/-- What every registry of a healthy recorder satisfies. -/
structure WellFormed (g : Registry) : Prop where
  taskPos : ∀ tid t, g.task tid = some t → 0 < tid
  childPos : ∀ c x, g.child c = some x → 0 < c
  childNew : ∀ c x, g.child c = some x → g.task c = none
  parent : ∀ p c k rel, g.child c = some (.announced p k rel) → ∃ t, g.task p = some t ∧ t.phase = .running ∧
    t.pendingChildRawTid = c ∧ t.childReadySeenForPending = false ∧ creationSyscallPermits t.pendingSyscall k = true

end Registry

namespace TaskStateRecorder

variable {r : TaskStateRecorder}

/-- The registry a recorder holds. -/
def registry (r : TaskStateRecorder) : Registry := ⟨r.task, r.child⟩

@[simp] theorem registry_task : r.registry.task = r.task := rfl
@[simp] theorem registry_child : r.registry.child = r.child := rfl

/-! ## Which updates keep a task's identity -/

variable {t : TaskSlot} {i j : Fin maxTasks} {n : Nat} {kind : TaskChildBirthKind} {p c tid : Int}

theorem sameTask_running {u : TaskSlot} (hid : u.logicalTaskId = t.logicalTaskId) (hraw : u.rawTid = t.rawTid)
    (hrun : u.phase = .running) (hchild : u.pendingChildRawTid = 0 → u.childReadySeenForPending = false) :
    SameTask t u :=
  ⟨hid, hraw, .inl hrun, fun h => absurd hrun h, hchild⟩

/-- A parent without a pending child announces none. -/
theorem no_child_of_zero (hi : r.Inv) (h0 : (r.tasks i).pendingChildRawTid = 0) :
    ∀ j a, (r.pendingChildren j).rawTid ≠ 0 → (r.pendingChildren j).announcement = some a →
      a.parentIndex ≠ i := by
  rintro j a hj ha rfl
  exact hj (by rw [← (hi.childParent j a hj ha).2.2.1, h0])

/-- A task outside every creation syscall announces no child. -/
theorem no_child_of_syscall (hi : r.Inv) (hk : ∀ kind, creationSyscallPermits (r.tasks i).pendingSyscall kind = false) :
    ∀ j a, (r.pendingChildren j).rawTid ≠ 0 → (r.pendingChildren j).announcement = some a →
      a.parentIndex ≠ i := by
  rintro j a hj ha rfl
  have hok := (hi.childParent j a hj ha).2.2.2.2
  rw [hk a.kind] at hok
  cases hok

theorem permits_creation (h : creationSyscallPermits (some n) kind = true) : isCreationSyscall n = true := by
  simp only [isCreationSyscall, List.contains_eq_mem, List.mem_cons, List.not_mem_nil, or_false,
    decide_eq_true_eq]
  simp only [creationSyscallPermits] at h
  split at h
  · tauto
  · split at h
    · tauto
    · simp only [Bool.or_eq_true, decide_eq_true_eq] at h
      tauto

theorem exec_not_creation (h : isExecSyscall n = true) (kind : TaskChildBirthKind) :
    creationSyscallPermits (some n) kind = false := by
  simp only [isExecSyscall, List.contains_eq_mem, List.mem_cons, List.not_mem_nil, or_false,
    decide_eq_true_eq] at h
  rcases h with rfl | rfl <;> rfl

theorem resolved_not_creation {term : LinuxWaitTermination} {o : Option Nat} {resolved : Option TaskNoReturnKind}
    (h : resolveNoReturn term o = .ok resolved) (kind : TaskChildBirthKind) :
    creationSyscallPermits o kind = false := by
  unfold resolveNoReturn at h
  split at h
  · split at h
    · rename_i hn
      rw [hn]
      rfl
    · split at h
      · rename_i hn
        rw [hn]
        rfl
      · cases h
  · cases h
  · cases h
  · rfl

/-- A creation syscall returns with no child announced, or with its child ready. -/
theorem checkCreationResult_ok {result : Int} (h : checkCreationResult t result = .ok ()) :
    t.pendingChildRawTid = 0 ∨ t.childReadySeenForPending = true := by
  unfold checkCreationResult at h
  split at h
  · rename_i hc
    exact .inl hc.2
  · split at h
    · cases h
    · split at h
      · cases h
      · rename_i hready
        split at h
        · rename_i hres
          refine .inr ?_
          by_contra hr
          exact hready ⟨hres.1, by simpa using hr⟩
        · cases h

theorem no_child_of_result (hi : r.Inv) {result : Int} (hn : (r.tasks i).pendingSyscall = some n)
    (hcreate : isCreationSyscall n = true → checkCreationResult (r.tasks i) result = .ok ()) :
    ∀ j a, (r.pendingChildren j).rawTid ≠ 0 → (r.pendingChildren j).announcement = some a →
      a.parentIndex ≠ i := by
  rintro j a hj ha rfl
  obtain ⟨-, -, htid, hready, hk⟩ := hi.childParent j a hj ha
  rw [hn] at hk
  rcases checkCreationResult_ok (hcreate (permits_creation hk)) with h | h
  · exact hj (htid ▸ h)
  · rw [hready] at h
    cases h

/-! ## Every accepted observation is a step of the registry -/

theorem birth_announced (hi : r.Inv) (hc : 0 < c) (hp : r.findLiveTask p = some i) (hrun : (r.tasks i).phase = .running)
    (h0 : (r.tasks i).pendingChildRawTid = 0) (hnew : r.findLiveTask c = none)
    (hj : r.pendingChildren j = ⟨c, none, true⟩) :
    Birth r i j { r.tasks i with pendingChildRawTid := c, childReadySeenForPending := true } c where
  child := by rw [hj]
  pos := hc
  new := hnew
  live := (findLiveTask_some hp).1
  same := sameTask_running rfl rfl hrun fun h => absurd h hc.ne'
  only := fun k a _ hk ha => no_child_of_zero hi h0 k a hk ha

theorem birth_ready (hi : r.Inv) {rel : TaskGroupRelation} (hc : 0 < c) (hnew : r.findLiveTask c = none)
    (hj : r.pendingChildren j = ⟨c, some ⟨i, kind, rel⟩, false⟩) :
    Birth r i j { r.tasks i with childReadySeenForPending := true } c := by
  have h0 : (r.pendingChildren j).rawTid ≠ 0 := by simp [hj, hc.ne']
  obtain ⟨hl, hrun, htid, -⟩ := hi.childParent j ⟨i, kind, rel⟩ h0 (by rw [hj])
  refine ⟨by rw [hj], hc, hnew, hl, sameTask_running rfl rfl hrun fun h => ?_, fun k a hkj hk ha hki => hkj ?_⟩
  · exact absurd (htid.symm.trans h) h0
  -- two children of one parent would share its pending TID
  have hother := (hi.childParent k a hk ha).2.2.1
  rw [hki, htid] at hother
  exact (hi.childInj j k h0 hother).symm

/-- Rewriting a live task that announces no child. -/
theorem registry_withTask (hi : r.Inv) (hl : r.findLiveTask tid = some i) (ht : SameTask (r.tasks i) t)
    (hchild : ∀ j a, (r.pendingChildren j).rawTid ≠ 0 → (r.pendingChildren j).announcement = some a →
      a.parentIndex ≠ i) : (r.withTask i t).Inv ∧ (r.withTask i t).registry = r.registry.setTask tid t := by
  obtain ⟨hlive, rfl⟩ := findLiveTask_some hl
  have hi' := inv_withTask hi hlive ht hchild
  refine ⟨hi', ?_⟩
  simp only [registry, Registry.setTask, Registry.mk.injEq]
  refine ⟨funext fun u => ?_, funext (child_withTask ht)⟩
  rw [task_withTask hi hlive ht hi', Function.update_apply]

theorem registry_withChild (hi : r.Inv) {p : PendingChildCorrelation} (hi' : (r.withChild j p).Inv)
    (hj : (r.pendingChildren j).rawTid = 0) (hp : p.rawTid ≠ 0) : (r.withChild j p).registry =
      { r.registry with
        child := Function.update r.registry.child p.rawTid (some ((r.withChild j p).childStateAt j)) } := by
  simp only [registry, Registry.mk.injEq]
  refine ⟨funext task_withChild, funext fun u => ?_⟩
  rw [child_withChild hi hi' hj hp, Function.update_apply]

theorem registry_withBirth (hi : r.Inv) {parent : TaskSlot} (hb : Birth r i j parent c) (hp : (r.tasks i).rawTid = p)
    (hcap : r.slotsUsed < maxTasks) (group : Option Nat) : (r.withBirth hcap i parent j c group).registry =
      r.registry.birth p parent c (newTask r.nextLogicalTaskId c group) := by
  simp only [registry, Registry.birth, Registry.mk.injEq]
  exact ⟨hp ▸ hb.task hi hcap group, hb.child_eq hi hcap group⟩

theorem registry_of_find (h : r.findLiveTask tid = some i) : r.registry.task tid = some (r.tasks i) := by
  rw [registry_task, task_of_find h]

theorem registry_fresh (h : r.findLiveTask tid = none) : r.registry.task tid = none := by
  simp [task, h]

theorem registry_no_child (h : r.findPendingChild tid = none) : r.registry.child tid = none := by
  simp [child, h]

theorem registry_of_slot (hi : r.Inv) {o : Option PendingChildAnnouncement} {ready : Bool} (hc : 0 < c)
    (hj : r.pendingChildren j = ⟨c, o, ready⟩) : r.registry.child c = some (r.childStateAt j) := by
  exact (child_eq_some hi).2 ⟨hc.ne', j, by rw [hj], rfl⟩

/-- An accepted observation keeps the invariant and is a step of the registry. -/
theorem handled_step (hi : r.Inv) {obs : TaskObservation} {ev : Option NormalizedTaskEvent}
    {r' : TaskStateRecorder} (hstart : r.slotsUsed = 0 → obs.isInitialBirth = true) (h : Handled r obs ev r') :
    r'.Inv ∧ Registry.Step r.registry obs r'.registry := by
  cases h with
  | @initialBirth s tid h0 hpos hnew hcap =>
    have hempty := hi.start h0
    have hcount : r.pendingChildCount = 0 := Table.count_eq_zero.2 fun j => by simp [hempty j]
    have hi' : (r.withNewTask hcap tid none).Inv :=
      inv_withNewTask hi hpos hnew (fun j => by rw [hempty j]; omega) (by omega)
    refine ⟨hi', ?_⟩
    have hreg : (r.withNewTask hcap tid none).registry =
        r.registry.setTask tid (newTask r.nextLogicalTaskId tid none) := by
      simp only [registry, Registry.setTask, Registry.mk.injEq]
      refine ⟨funext fun u => ?_, funext (child_withNewTask hi hi')⟩
      rw [task_withNewTask hi hi', Function.update_apply]
    rw [hreg]
    refine .initialBirth hpos (fun u => ?_) fun u => ?_
    · exact task_eq_none.2 fun i hl => absurd hl.1 (by omega)
    by_cases hu : u = 0
    · simp [child, hu]
    · exact (child_eq_none hu).2 fun j => by rw [hempty j]; exact fun h => hu h.symm
  | @announce s p c kind rel i j n hpc hc hp hrun hn hk h0 hnew habs hcap hj =>
    have hl := findLiveTask_some hp
    have hsame : SameTask (r.tasks i) { r.tasks i with pendingChildRawTid := c } :=
      sameTask_running rfl rfl hrun fun h => absurd h hc.ne'
    obtain ⟨hmid, hreg⟩ := registry_withTask hi hp hsame (no_child_of_zero hi h0)
    have hu : r.slotsUsed ≠ 0 := fun h => absurd hl.1.1 (by omega)
    have hi' : ((r.withTask i { r.tasks i with pendingChildRawTid := c }).withChild j
        ⟨c, some ⟨i, kind, rel⟩, false⟩).Inv := by
      refine inv_withChild hmid hu hj hc ?_ habs hcap (by simp) ?_
      · rw [withTask_findLiveTask (by simp) (by simp)]
        exact hnew
      · rintro a ⟨⟩
        refine ⟨(liveAt_withTask hl.1 hsame.not_reaped i).2 hl.1, ?_⟩
        simp [hrun, hn, hk, hi.unborn i hl.1 h0]
    refine ⟨hi', ?_⟩
    have hstep : Registry.Step r.registry (.childAnnouncement s p c kind rel) _ :=
      .announce hpc hc (registry_of_find hp) hrun hn hk h0 (registry_fresh hnew) (registry_no_child habs)
    convert hstep using 1
    rw [registry_withChild hmid hi' hj hc.ne', hreg]
    simp [Registry.setTask, childStateAt, hl.2]
  | announceReady hpc hc hp hrun hn hk h0 hnew hj hcap =>
    have hb := birth_announced hi hc hp hrun h0 hnew hj
    refine ⟨hb.inv hi hcap _, ?_⟩
    rw [registry_withBirth hi hb (findLiveTask_some hp).2 hcap]
    refine .announceReady hpc hc (registry_of_find hp) hrun hn hk h0 (registry_fresh hnew) ?_
    exact (registry_of_slot hi hc hj).trans (by simp [childStateAt, hj])
  | @ready s c j hc hnew habs hcap hj =>
    have hu : r.slotsUsed ≠ 0 := fun h => by simpa [TaskObservation.isInitialBirth] using hstart h
    have hi' := inv_withChild (p := ⟨c, none, true⟩) hi hu hj hc hnew habs hcap (by simp) (by simp)
    refine ⟨hi', ?_⟩
    rw [registry_withChild hi hi' hj hc.ne']
    have hstep := Registry.Step.ready (s := s) (g := r.registry) hc (registry_fresh hnew) (registry_no_child habs)
    simpa [childStateAt] using hstep
  | @readyAnnounced s c i j kind rel hc hnew hj hcap =>
    have hb := birth_ready hi hc hnew hj
    have h0 : (r.pendingChildren j).rawTid ≠ 0 := hb.rawTid_ne
    obtain ⟨hl, hrun, htid, -, hk⟩ := hi.childParent j ⟨i, kind, rel⟩ h0 (by rw [hj])
    refine ⟨hb.inv hi hcap _, ?_⟩
    rw [registry_withBirth hi hb rfl hcap]
    have hann : r.registry.child c = some (.announced (r.tasks i).rawTid kind rel) :=
      (registry_of_slot hi hc hj).trans (by simp [childStateAt, hj])
    refine .readyAnnounced hc (registry_fresh hnew) hann (registry_of_find (findLiveTask_eq hi hl)) hrun hk ?_
    rw [htid, hj]
  | exec hl hrun hn hexec hever =>
    have hlive := (findLiveTask_some hl).1
    obtain ⟨hi', hreg⟩ := registry_withTask hi hl
      (sameTask_running (u := { r.tasks _ with execEventSeenForPending := true, execSeenEver := true }) rfl rfl hrun
        (hi.unborn _ hlive))
      (no_child_of_syscall hi fun kind => hn ▸ exec_not_creation hexec kind)
    exact ⟨hi', hreg ▸ .exec (registry_of_find hl) hrun hn hexec⟩
  | @seccompEntry s tid i n hl hrun hn =>
    obtain ⟨hi', hreg⟩ := registry_withTask hi hl
      (sameTask_running (u := { clearPending (r.tasks i) with pendingSyscall := some n }) rfl rfl hrun fun _ => rfl)
      (no_child_of_syscall hi fun kind => hn ▸ rfl)
    exact ⟨hi', hreg ▸ .seccompEntry (registry_of_find hl) hrun hn⟩
  | syscallExit hl hrun hn hexit hcreate =>
    obtain ⟨hi', hreg⟩ := registry_withTask hi hl
      (sameTask_running (u := clearPending (r.tasks _)) rfl rfl hrun fun _ => rfl) (no_child_of_result hi hn hcreate)
    exact ⟨hi', hreg ▸ .syscallExit (registry_of_find hl) hrun hn hcreate⟩
  | @ptraceExit s tid t i resolved hl hrun hres =>
    obtain ⟨hi', hreg⟩ := registry_withTask hi hl
      (t := { clearPending (r.tasks i) with phase := .exitObserved, termination := some t })
      ⟨rfl, rfl, .inr rfl, fun _ => rfl, fun _ => rfl⟩ (no_child_of_syscall hi (resolved_not_creation hres))
    exact ⟨hi', hreg ▸ .ptraceExit (registry_of_find hl) hrun hres⟩
  | @terminalReap s tid t i hl hphase ht =>
    obtain ⟨hlive, htid⟩ := findLiveTask_some hl
    have hnot : (r.tasks i).phase ≠ .running := by simp [hphase]
    refine ⟨inv_reap hi hnot, ?_⟩
    have hreg : (r.withTask i (reapedTask (r.tasks i))).registry =
        { r.registry with task := Function.update r.task tid none } := by
      simp only [registry, Registry.mk.injEq]
      refine ⟨funext fun u => ?_, funext (child_reap hi hnot)⟩
      rw [task_reap hi hlive hnot, htid, Function.update_apply]
    exact hreg ▸ .terminalReap (registry_of_find hl) hphase

/-! ## What a call leaves -/

section

variable {obs : TaskObservation} {ev : Option NormalizedTaskEvent} {r' : TaskStateRecorder}

theorem handled_used (h : Handled r obs ev r') (hstart : r.slotsUsed = 0 → obs.isInitialBirth = true) :
    0 < r'.slotsUsed := by
  by_cases h0 : r.slotsUsed = 0
  · cases h <;> simp_all [TaskObservation.isInitialBirth, withNewTask]
  · cases h <;> simp [withNewTask, withBirth] <;> omega

theorem observed_step (hi : r.Inv) (h : Observed r obs ev r') :
    r'.Inv ∧ Registry.Step r.registry obs r'.registry := by
  obtain ⟨tables, hh, counters, rfl⟩ := h.handled
  obtain ⟨hi', hstep⟩ := handled_step hi h.started hh
  refine ⟨⟨hi'.nextId, hi'.ids, hi'.phases, hi'.tidPos, hi'.tidInj, hi'.idle, hi'.unborn, hi'.childPos, hi'.childInj,
    hi'.childNotLive, hi'.childHalf, hi'.childParent, hi'.capacity, hi'.start⟩, ?_⟩
  have hreg : ({ tables with counters := counters, nextTransportSequence := r.nextTransportSequence + 1 } :
      TaskStateRecorder).registry = tables.registry := by
    simp only [registry, Registry.mk.injEq]
    exact ⟨funext fun _ => by simp only [task]; rfl, funext fun _ => by simp only [child]; rfl⟩
  rw [hreg]
  exact hstep

theorem observed_poisoned (h : Observed r obs ev r') : r'.poisoned = r.poisoned := by
  obtain ⟨tables, hh, counters, rfl⟩ := h.handled
  have hp := handled_poisoned hh
  exact hp

theorem observed_sequence (h : Observed r obs ev r') : r'.nextTransportSequence = r.nextTransportSequence + 1 := by
  obtain ⟨tables, hh, counters, rfl⟩ := h.handled
  rfl

theorem observed_used (h : Observed r obs ev r') : 0 < r'.slotsUsed := by
  obtain ⟨tables, hh, counters, rfl⟩ := h.handled
  have hu := handled_used hh h.started
  exact hu

end

/-- An announced child waits for a parent that is inside the creation syscall. -/
theorem announced_parent (hi : r.Inv) {rel : TaskGroupRelation} (h : r.child c = some (.announced p kind rel)) :
    ∃ t, r.task p = some t ∧ t.phase = .running ∧
      t.pendingChildRawTid = c ∧ t.childReadySeenForPending = false ∧
      creationSyscallPermits t.pendingSyscall kind = true := by
  obtain ⟨h0, j, rfl, hstate⟩ := (child_eq_some hi).1 h
  unfold childStateAt at hstate
  split at hstate
  · cases hstate
  · rename_i a ha
    cases hstate
    obtain ⟨hl, hrest⟩ := hi.childParent j a h0 ha
    exact ⟨_, (task_eq_some hi).2 ⟨_, hl, rfl, rfl⟩, hrest⟩

theorem registry_wellFormed (hi : r.Inv) : r.registry.WellFormed where
  taskPos := fun _ _ h => task_pos hi h
  childPos := fun _ _ h => child_pos hi h
  childNew := fun _ _ h => task_of_child hi h
  parent := fun _ _ _ _ h => announced_parent hi h

end TaskStateRecorder

end Again.Tracer
