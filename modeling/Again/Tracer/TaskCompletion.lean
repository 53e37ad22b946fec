import Again.Tracer.TaskLog

/-!
# Completing a recorder

`complete` checks thirteen counters against the slots. Each counter is updated
where an observation is accepted, and a healthy recorder's counters are at all
times what its slots say, so the only thing a completion can find missing is a
task that was not reaped or a child that was not born.
-/

namespace Again.Tracer

open Lib TaskStateRecorder Table

/-- `u64::checked_add`. -/
def checkedAdd (a b : Nat) : Option Nat := if a + b < 2 ^ 64 then some (a + b) else none

structure TaskCompletionSummary where
  taskCount : Nat
  counters : TaskCounters
deriving DecidableEq

namespace TaskCounters

/-- `expected_transition_count`. -/
def expectedTransitionCount (c : TaskCounters) : Option Nat := do
  let count ← checkedAdd c.initialBirthCount c.childAnnouncementCount
  let count ← checkedAdd count c.childReadyCount
  let count ← checkedAdd count c.execCount
  let count ← checkedAdd count c.seccompEntryCount
  let count ← checkedAdd count c.syscallExitCount
  let count ← checkedAdd count c.ptraceExitEventCount
  checkedAdd count c.terminalReapCount

/-- The births of every kind. -/
def birthCount (c : TaskCounters) : Option Nat := do
  let count ← checkedAdd c.forkBirthCount c.vforkBirthCount
  checkedAdd count c.cloneBirthCount

end TaskCounters

namespace TaskStateRecorder

/-- Some slot in use holds a task that was not reaped, or that kept its raw TID. -/
def hasUnreapedTask (r : TaskStateRecorder) : Prop :=
  ∃ i : Fin maxTasks, i.val < r.slotsUsed ∧ ((r.tasks i).phase ≠ .reaped ∨ (r.tasks i).rawTid ≠ 0)

def hasPendingChild (r : TaskStateRecorder) : Prop := ∃ j, (r.pendingChildren j).rawTid ≠ 0

instance (r : TaskStateRecorder) : Decidable r.hasUnreapedTask :=
  inferInstanceAs (Decidable (∃ _ : Fin maxTasks, _))

instance (r : TaskStateRecorder) : Decidable r.hasPendingChild :=
  inferInstanceAs (Decidable (∃ _ : Fin maxTasks, _))

/-- The conditions under which `complete` refuses with `IncompleteShutdown`. -/
def incompleteShutdown (r : TaskStateRecorder) (resolvedSyscallCount expectedTransitionCount : Nat) : Prop :=
  r.slotsUsed = 0 ∨ r.hasUnreapedTask ∨ r.hasPendingChild ∨ r.counters.initialBirthCount ≠ 1 ∨
    r.counters.acceptedTransitionCount ≠ expectedTransitionCount ∨
    r.counters.childAnnouncementCount ≠ r.counters.childReadyCount ∨
    r.counters.childReadyCount ≠ r.slotsUsed - 1 ∨ r.counters.birthCount ≠ some (r.slotsUsed - 1) ∨
    r.counters.ptraceExitEventCount ≠ r.slotsUsed ∨ r.counters.terminalReapCount ≠ r.slotsUsed ∨
    r.slotsUsed < r.counters.execCount ∨
    r.counters.ptraceExitEventCount < r.counters.noReturnResolutionCount ∨
    r.counters.seccompEntryCount ≠ resolvedSyscallCount

instance (r : TaskStateRecorder) (resolved expected : Nat) : Decidable (r.incompleteShutdown resolved expected) :=
  inferInstanceAs (Decidable (_ ∨ _))

/-- `TracerTaskStateRecorderV1::complete`, which consumes the recorder. -/
def complete (r : TaskStateRecorder) : Except TaskExecuteOnlyReason TaskCompletionSummary :=
  match r.poisoned with
  | some reason => .error reason
  | none =>
    match checkedAdd r.counters.syscallExitCount r.counters.noReturnResolutionCount with
    | none => .error .counterOverflow
    | some resolvedSyscallCount =>
      match r.counters.expectedTransitionCount with
      | none => .error .counterOverflow
      | some expectedTransitionCount =>
        if r.incompleteShutdown resolvedSyscallCount expectedTransitionCount then .error .incompleteShutdown
        else if r.slotsUsed < 2 ^ 16 then .ok { taskCount := r.slotsUsed, counters := r.counters }
        else .error .counterOverflow

/-! ## Counters and slots -/

/-- The slot holds a task that has exited, reaped or not. -/
def hasExited (t : TaskSlot) : Bool := t.phase == .exitObserved || t.phase == .reaped

/-- The counters of a healthy recorder are what its slots say. -/
structure Counted (r : TaskStateRecorder) : Prop where
  fresh : ∀ i : Fin maxTasks, r.slotsUsed ≤ i.val → r.tasks i = .empty
  free : ∀ j, (r.pendingChildren j).rawTid = 0 → r.pendingChildren j = .empty
  resolved : ∀ i, (r.tasks i).phase ≠ .running → (r.tasks i).pendingSyscall = none
  erased : ∀ i, (r.tasks i).phase = .reaped → (r.tasks i).rawTid = 0
  bounded : r.counters.acceptedTransitionCount < 2 ^ 64
  total : r.counters.acceptedTransitionCount = r.counters.initialBirthCount + r.counters.childAnnouncementCount +
    r.counters.childReadyCount + r.counters.execCount + r.counters.seccompEntryCount + r.counters.syscallExitCount +
    r.counters.ptraceExitEventCount + r.counters.terminalReapCount
  initial : r.counters.initialBirthCount = if r.slotsUsed = 0 then 0 else 1
  announcements : r.counters.childAnnouncementCount =
    r.slotsUsed - 1 + r.pendingChildren.count (·.announcement.isSome)
  readies : r.counters.childReadyCount = r.slotsUsed - 1 + r.pendingChildren.count (·.readySeen)
  births : r.counters.forkBirthCount + r.counters.vforkBirthCount + r.counters.cloneBirthCount = r.slotsUsed - 1
  execs : r.counters.execCount = r.tasks.count (·.execSeenEver)
  entries : r.counters.seccompEntryCount = r.counters.syscallExitCount + r.counters.noReturnResolutionCount +
    r.tasks.count (·.pendingSyscall.isSome)
  exits : r.counters.ptraceExitEventCount = r.tasks.count hasExited
  reaps : r.counters.terminalReapCount = r.tasks.count (·.phase == .reaped)
  noReturns : r.counters.noReturnResolutionCount ≤ r.counters.ptraceExitEventCount

theorem counted_new : Counted new where
  fresh := fun _ _ => rfl
  free := fun _ _ => rfl
  resolved := fun _ _ => rfl
  erased := nofun
  bounded := by decide
  total := rfl
  initial := rfl
  announcements := by
    rw [count_eq_zero.2 fun _ => rfl]
    rfl
  readies := by
    rw [count_eq_zero.2 fun _ => rfl]
    rfl
  births := rfl
  execs := (count_eq_zero.2 fun _ => rfl).symm
  entries := by
    rw [count_eq_zero.2 fun _ => rfl]
    rfl
  exits := (count_eq_zero.2 fun _ => rfl).symm
  reaps := (count_eq_zero.2 fun _ => rfl).symm
  noReturns := Nat.le_refl _

section
variable {r : TaskStateRecorder}

/-- The counters that only births move are as they were. -/
structure SameBirths (c d : TaskCounters) : Prop where
  initial : d.initialBirthCount = c.initialBirthCount
  announcements : d.childAnnouncementCount = c.childAnnouncementCount
  readies : d.childReadyCount = c.childReadyCount
  forks : d.forkBirthCount = c.forkBirthCount
  vforks : d.vforkBirthCount = c.vforkBirthCount
  clones : d.cloneBirthCount = c.cloneBirthCount

variable {i : Fin maxTasks} {t : TaskSlot} {c : TaskCounters} {next : Nat}

/-- One task's slot is rewritten, and the counters move by what left the slot and what entered it. -/
theorem Counted.withTask (h : Counted r) (hused : i.val < r.slotsUsed) (hbirths : SameBirths r.counters c)
    (hresolved : t.phase ≠ .running → t.pendingSyscall = none) (herased : t.phase = .reaped → t.rawTid = 0)
    (hbound : c.acceptedTransitionCount < 2 ^ 64)
    (htotal : c.acceptedTransitionCount + (r.counters.execCount + r.counters.seccompEntryCount +
        r.counters.syscallExitCount + r.counters.ptraceExitEventCount + r.counters.terminalReapCount) =
      r.counters.acceptedTransitionCount + (c.execCount + c.seccompEntryCount + c.syscallExitCount +
        c.ptraceExitEventCount + c.terminalReapCount))
    (hexecs : c.execCount + (r.tasks i).execSeenEver.toNat = r.counters.execCount + t.execSeenEver.toNat)
    (hentries : c.seccompEntryCount + r.counters.syscallExitCount + r.counters.noReturnResolutionCount +
        (r.tasks i).pendingSyscall.isSome.toNat =
      r.counters.seccompEntryCount + c.syscallExitCount + c.noReturnResolutionCount + t.pendingSyscall.isSome.toNat)
    (hexits : c.ptraceExitEventCount + (hasExited (r.tasks i)).toNat =
      r.counters.ptraceExitEventCount + (hasExited t).toNat)
    (hreaps : c.terminalReapCount + ((r.tasks i).phase == .reaped).toNat =
      r.counters.terminalReapCount + (t.phase == .reaped).toNat)
    (hnoReturns : c.noReturnResolutionCount ≤ c.ptraceExitEventCount) :
    Counted { r.withTask i t with counters := c, nextTransportSequence := next } where
  fresh := fun k hk => (put_other _ _ (by rintro rfl; exact absurd hused (Nat.not_lt.2 hk))).trans (h.fresh k hk)
  free := h.free
  resolved := put_forall (P := fun t : TaskSlot => t.phase ≠ .running → t.pendingSyscall = none) hresolved
    fun k _ => h.resolved k
  erased := put_forall (P := fun t : TaskSlot => t.phase = .reaped → t.rawTid = 0) herased fun k _ => h.erased k
  bounded := hbound
  total := by
    have htotal' := h.total
    obtain ⟨_, _, _, _, _, _⟩ := hbirths
    dsimp only
    omega
  initial := hbirths.initial.trans h.initial
  announcements := hbirths.announcements.trans h.announcements
  readies := hbirths.readies.trans h.readies
  births := by
    have hkinds := h.births
    rw [← hbirths.forks, ← hbirths.vforks, ← hbirths.clones] at hkinds
    exact hkinds
  execs := count_moved h.execs hexecs
  entries := by
    have hput := count_put r.tasks (·.pendingSyscall.isSome) i t
    have hcount := h.entries
    dsimp only [withTask_tasks]
    omega
  exits := count_moved h.exits hexits
  reaps := count_moved h.reaps hreaps
  noReturns := hnoReturns

/-- The counters that births leave alone are as they were. -/
structure SameLifetimes (c d : TaskCounters) : Prop where
  execs : d.execCount = c.execCount
  entries : d.seccompEntryCount = c.seccompEntryCount
  syscallExits : d.syscallExitCount = c.syscallExitCount
  noReturns : d.noReturnResolutionCount = c.noReturnResolutionCount
  exits : d.ptraceExitEventCount = c.ptraceExitEventCount
  reaps : d.terminalReapCount = c.terminalReapCount

theorem SameLifetimes.entries_eq {n : Nat} (h : SameLifetimes r.counters c)
    (hentries : r.counters.seccompEntryCount = r.counters.syscallExitCount + r.counters.noReturnResolutionCount + n) :
    c.seccompEntryCount = c.syscallExitCount + c.noReturnResolutionCount + n := by
  rw [h.entries, h.syscallExits, h.noReturns, hentries]

theorem SameLifetimes.noReturns_le (h : SameLifetimes r.counters c)
    (hle : r.counters.noReturnResolutionCount ≤ r.counters.ptraceExitEventCount) :
    c.noReturnResolutionCount ≤ c.ptraceExitEventCount := by
  rwa [h.noReturns, h.exits]

/-- A pending slot is rewritten, and the counters of announcements and stops follow. -/
theorem Counted.withChild (h : Counted r) {j : Fin maxTasks} {p : PendingChildCorrelation}
    (hlifetimes : SameLifetimes r.counters c) (hp : p.rawTid ≠ 0)
    (hinitial : c.initialBirthCount = r.counters.initialBirthCount)
    (hbirths : c.forkBirthCount + c.vforkBirthCount + c.cloneBirthCount =
      r.counters.forkBirthCount + r.counters.vforkBirthCount + r.counters.cloneBirthCount)
    (hbound : c.acceptedTransitionCount < 2 ^ 64)
    (htotal : c.acceptedTransitionCount + (r.counters.childAnnouncementCount + r.counters.childReadyCount) =
      r.counters.acceptedTransitionCount + (c.childAnnouncementCount + c.childReadyCount))
    (hannouncements : c.childAnnouncementCount + (r.pendingChildren j).announcement.isSome.toNat =
      r.counters.childAnnouncementCount + p.announcement.isSome.toNat)
    (hreadies : c.childReadyCount + (r.pendingChildren j).readySeen.toNat =
      r.counters.childReadyCount + p.readySeen.toNat) :
    Counted { r.withChild j p with counters := c, nextTransportSequence := next } where
  __ := h
  free := put_forall (P := fun p : PendingChildCorrelation => p.rawTid = 0 → p = .empty)
    (fun h0 => absurd h0 hp) fun k _ => h.free k
  bounded := hbound
  total := by
    have htotal' := h.total
    obtain ⟨_, _, _, _, _, _⟩ := hlifetimes
    dsimp only
    omega
  initial := hinitial.trans h.initial
  announcements := by
    have hput := count_put r.pendingChildren (·.announcement.isSome) j p
    have hcount := h.announcements
    dsimp only [withChild_pendingChildren, withChild_slotsUsed]
    omega
  readies := by
    have hput := count_put r.pendingChildren (·.readySeen) j p
    have hcount := h.readies
    dsimp only [withChild_pendingChildren, withChild_slotsUsed]
    omega
  births := hbirths.trans h.births
  execs := hlifetimes.execs.trans h.execs
  entries := hlifetimes.entries_eq h.entries
  exits := hlifetimes.exits.trans h.exits
  reaps := hlifetimes.reaps.trans h.reaps
  noReturns := hlifetimes.noReturns_le h.noReturns

/-- A new task takes the next slot; `children` is what is left of the pending ones. -/
theorem Counted.withNewTask (h : Counted r) (hcap : r.slotsUsed < maxTasks) {tid : Int} {group : Option Nat}
    {children : Table maxTasks PendingChildCorrelation} (hlifetimes : SameLifetimes r.counters c)
    (hfree : ∀ j, (children j).rawTid = 0 → children j = .empty) (hbound : c.acceptedTransitionCount < 2 ^ 64)
    (htotal : c.acceptedTransitionCount + (r.counters.initialBirthCount + r.counters.childAnnouncementCount +
        r.counters.childReadyCount) =
      r.counters.acceptedTransitionCount + (c.initialBirthCount + c.childAnnouncementCount + c.childReadyCount))
    (hinitial : c.initialBirthCount = 1)
    (hbirths : c.forkBirthCount + c.vforkBirthCount + c.cloneBirthCount = r.slotsUsed)
    (hannouncements : c.childAnnouncementCount = r.slotsUsed + children.count (·.announcement.isSome))
    (hreadies : c.childReadyCount = r.slotsUsed + children.count (·.readySeen)) :
    Counted { r.withNewTask hcap tid group with
      pendingChildren := children, counters := c, nextTransportSequence := next } := by
  have hslot : r.tasks ⟨r.slotsUsed, hcap⟩ = .empty := h.fresh _ (Nat.le_refl _)
  -- an empty slot counts for nothing, and neither does a new task
  have hcount {p : TaskSlot → Bool} (hempty : p .empty = false) (hnew : p (newTask r.nextLogicalTaskId tid group) = false) :
      (r.withNewTask hcap tid group).tasks.count p = r.tasks.count p :=
    count_put_eq (by rw [hslot, hempty, hnew])
  constructor
  case fresh =>
    intro k hk
    have hne : k ≠ ⟨r.slotsUsed, hcap⟩ := by
      rintro rfl
      exact absurd hk (by simp [TaskStateRecorder.withNewTask])
    exact (put_other _ _ hne).trans (h.fresh k (Nat.le_of_succ_le hk))
  case free => exact hfree
  case resolved =>
    exact put_forall (P := fun t : TaskSlot => t.phase ≠ .running → t.pendingSyscall = none) (fun _ => rfl) fun k _ =>
      h.resolved k
  case erased =>
    refine put_forall (P := fun t : TaskSlot => t.phase = .reaped → t.rawTid = 0) ?_ fun k _ => h.erased k
    intro hreaped
    cases hreaped
  case bounded => exact hbound
  case total =>
    have htotal' := h.total
    obtain ⟨_, _, _, _, _, _⟩ := hlifetimes
    dsimp only
    omega
  case initial => exact hinitial
  case announcements => exact hannouncements
  case readies => exact hreadies
  case births => exact hbirths
  case execs => exact (hlifetimes.execs.trans h.execs).trans (hcount rfl rfl).symm
  case entries => exact hlifetimes.entries_eq (by rw [h.entries, hcount rfl rfl])
  case exits => exact (hlifetimes.exits.trans h.exits).trans (hcount rfl rfl).symm
  case reaps => exact (hlifetimes.reaps.trans h.reaps).trans (hcount rfl rfl).symm
  case noReturns => exact hlifetimes.noReturns_le h.noReturns

/-- An update of a parent's slot that no counter sees. -/
theorem Counted.withParent (h : Counted r) (hused : i.val < r.slotsUsed) (hphase : t.phase = (r.tasks i).phase)
    (hpending : t.pendingSyscall = (r.tasks i).pendingSyscall) (hraw : t.rawTid = (r.tasks i).rawTid)
    (hexec : t.execSeenEver = (r.tasks i).execSeenEver) : Counted (r.withTask i t) := by
  have hcounted : Counted { r.withTask i t with
      counters := r.counters, nextTransportSequence := r.nextTransportSequence } := by
    refine h.withTask hused ⟨rfl, rfl, rfl, rfl, rfl, rfl⟩ ?_ ?_ h.bounded rfl ?_ ?_ ?_ ?_ h.noReturns
    · rw [hphase, hpending]
      exact h.resolved i
    · rw [hphase, hraw]
      exact h.erased i
    · rw [hexec]
    · rw [hpending]
    · unfold hasExited
      rw [hphase]
    · rw [hphase]
  exact hcounted

/-- One correlated birth more. -/
structure AddsBirth (c d : TaskCounters) : Prop where
  lifetimes : SameLifetimes c d
  accepted : d.acceptedTransitionCount = c.acceptedTransitionCount
  initial : d.initialBirthCount = c.initialBirthCount
  announcements : d.childAnnouncementCount = c.childAnnouncementCount
  readies : d.childReadyCount = c.childReadyCount
  births : d.forkBirthCount + d.vforkBirthCount + d.cloneBirthCount =
    c.forkBirthCount + c.vforkBirthCount + c.cloneBirthCount + 1

theorem addsBirth_withEvent (c : TaskCounters) (s : Nat) (parent : TaskSlot) (kind : TaskChildBirthKind)
    (rel : TaskGroupRelation) : AddsBirth c (c.withEvent (some (r.birthEvent s parent kind rel))) := by
  cases kind <;> refine ⟨⟨rfl, rfl, rfl, rfl, rfl, rfl⟩, rfl, rfl, rfl, rfl, ?_⟩ <;>
    simp only [birthEvent, TaskCounters.withEvent, TaskChildBirthKind.normalized] <;> omega

/-- The half of a birth that completes what the pending slot holds. -/
inductive CompletesHalf (p : PendingChildCorrelation) : CounterKind → Prop
  | announcement (hnone : p.announcement = none) (hready : p.readySeen = true) : CompletesHalf p .childAnnouncement
  | ready (hsome : p.announcement.isSome = true) (hready : p.readySeen = false) : CompletesHalf p .childReady

/-- A child whose slot `j` is given up is born to the task in slot `i`. -/
theorem Counted.withBirth (h : Counted r) (hstart : r.slotsUsed ≠ 0) (hcap : r.slotsUsed < maxTasks) {j : Fin maxTasks}
    (hused : i.val < r.slotsUsed) {tid : Int} {group : Option Nat} (hphase : t.phase = (r.tasks i).phase)
    (hpending : t.pendingSyscall = (r.tasks i).pendingSyscall) (hraw : t.rawTid = (r.tasks i).rawTid)
    (hexec : t.execSeenEver = (r.tasks i).execSeenEver) {kind : CounterKind}
    (hhalf : CompletesHalf (r.pendingChildren j) kind) (hbirth : AddsBirth (r.counters.bumped kind) c)
    (hbound : r.counters.acceptedTransitionCount + 1 < 2 ^ 64) :
    Counted { r.withBirth hcap i t j tid group with counters := c, nextTransportSequence := next } := by
  have hparent : Counted (r.withTask i t) := h.withParent hused hphase hpending hraw hexec
  have hcounted : Counted { (r.withTask i t).withNewTask hcap tid group with
      pendingChildren := r.pendingChildren.put j .empty, counters := c, nextTransportSequence := next } := by
    have hone : r.counters.initialBirthCount = 1 := by rw [h.initial, if_neg hstart]
    have hannounced := count_put r.pendingChildren (·.announcement.isSome) j .empty
    have hready := count_put r.pendingChildren (·.readySeen) j .empty
    have hannouncements := h.announcements
    have hreadies := h.readies
    have hbirths := h.births
    obtain ⟨⟨he, hn, hs, hr, hx, ht⟩, _, _, _, _, _⟩ := hbirth
    have hfree : ∀ k, (r.pendingChildren.put j .empty k).rawTid = 0 → r.pendingChildren.put j .empty k = .empty :=
      put_forall (P := fun p : PendingChildCorrelation => p.rawTid = 0 → p = .empty) (fun _ => rfl) fun k _ => h.free k
    cases hhalf with
    | announcement hnone hseen | ready hnone hseen =>
      simp only [PendingChildCorrelation.empty, hnone, hseen, Option.isSome_none, Bool.toNat_false, Bool.toNat_true,
        TaskCounters.bumped] at *
      refine hparent.withNewTask hcap ⟨he, hn, hs, hr, hx, ht⟩ hfree ?_ ?_ ?_ ?_ ?_ ?_
      all_goals try simp only [TaskStateRecorder.withTask]
      all_goals omega
  exact hcounted

/-- An exit event resolves the syscall the task is in, when it is in one. -/
theorem resolveNoReturn_isSome {term : LinuxWaitTermination} {pending : Option Nat} {resolved : Option TaskNoReturnKind}
    (h : resolveNoReturn term pending = .ok resolved) : resolved.isSome = pending.isSome := by
  unfold resolveNoReturn at h
  split at h
  · split at h
    · cases h
      rfl
    · split at h <;> cases h
      rfl
  · cases h
  · cases h
  · cases h
    rfl

attribute [local simp] TaskObservation.counterKind TaskCounters.bumped TaskCounters.withEvent hasExited clearPending

/-- Every accepted observation keeps counters and slots in step. -/
theorem Counted.handled (hi : r.Inv) (h : Counted r) {obs : TaskObservation} {ev : Option NormalizedTaskEvent}
    {tables : TaskStateRecorder} (hstart : r.slotsUsed = 0 → obs.isInitialBirth = true) (hh : Handled r obs ev tables)
    (hc : c = (r.counters.bumped obs.counterKind).withEvent ev)
    (hbound : r.counters.acceptedTransitionCount + 1 < 2 ^ 64) :
    Counted { tables with counters := c, nextTransportSequence := next } := by
  subst hc
  have hused {tid : Int} {i : Fin maxTasks} (hl : r.findLiveTask tid = some i) : i.val < r.slotsUsed :=
    (findLiveTask_some hl).1.1
  have hzero (hobs : obs.isInitialBirth = false) : r.slotsUsed ≠ 0 := fun h0 => by simp [hstart h0] at hobs
  cases hh with
  | @initialBirth s tid h0 hpos hnew hcap =>
    have hinitial := h.initial
    have hannouncements := h.announcements
    have hreadies := h.readies
    have hbirths := h.births
    rw [if_pos h0] at hinitial
    have hcounted : Counted { r.withNewTask hcap tid none with
        pendingChildren := r.pendingChildren
        counters := r.counters.bumped .initialBirth
        nextTransportSequence := next } := by
      refine h.withNewTask hcap ⟨rfl, rfl, rfl, rfl, rfl, rfl⟩ h.free hbound ?_ ?_ ?_ ?_ ?_
      all_goals simp only [TaskCounters.bumped]
      all_goals omega
    exact hcounted
  | @announce s p child kind rel i j n hpc hpos hp hrun hn hk h0 hnew habs hcap hj =>
    have hparent : Counted (r.withTask i { r.tasks i with pendingChildRawTid := child }) :=
      h.withParent (hused hp) rfl rfl rfl rfl
    have hempty : r.pendingChildren j = .empty := h.free j hj
    refine hparent.withChild ⟨rfl, rfl, rfl, rfl, rfl, rfl⟩ hpos.ne' rfl rfl hbound ?_ ?_ ?_
    all_goals simp [hempty, PendingChildCorrelation.empty, TaskStateRecorder.withTask]
    omega
  | @announceReady s p child kind rel i j n hpc hpos hp hrun hn hk h0 hnew hj hcap =>
    exact h.withBirth (hzero rfl) hcap (hused hp) rfl rfl rfl rfl (.announcement (by rw [hj]) (by rw [hj]))
      (addsBirth_withEvent ..) hbound
  | @ready s child j hpos hnew habs hcap hj =>
    have hempty : r.pendingChildren j = .empty := h.free j hj
    refine h.withChild ⟨rfl, rfl, rfl, rfl, rfl, rfl⟩ hpos.ne' rfl rfl hbound ?_ ?_ ?_
    all_goals simp [hempty, PendingChildCorrelation.empty]
    omega
  | @readyAnnounced s child i j kind rel hpos hnew hj hcap =>
    have hparent := (hi.childParent j ⟨i, kind, rel⟩ (by simp [hj, hpos.ne']) (by simp [hj])).1.1
    exact h.withBirth (hzero rfl) hcap hparent rfl rfl rfl rfl (.ready (by rw [hj]; rfl) (by rw [hj]))
      (addsBirth_withEvent ..) hbound
  | @exec s tid i n hl hrun hn hexec hever =>
    refine h.withTask (hused hl) ⟨rfl, rfl, rfl, rfl, rfl, rfl⟩ ?_ ?_ hbound ?_ ?_ ?_ ?_ ?_ h.noReturns
    all_goals simp [hrun, hn, hever]
    omega
  | @seccompEntry s tid i n hl hrun hn | @syscallExit s tid result i n hl hrun hn hexit hcreate =>
    refine h.withTask (hused hl) ⟨rfl, rfl, rfl, rfl, rfl, rfl⟩ ?_ ?_ hbound ?_ ?_ ?_ ?_ ?_ h.noReturns
    all_goals simp [hrun, hn]
    all_goals omega
  | @ptraceExit s tid term i resolved hl hrun hres =>
    have hsome := resolveNoReturn_isSome hres
    have hle := h.noReturns
    have hrunning : (TaskPhase.running == .reaped) = false := rfl
    have hexited : (TaskPhase.exitObserved == .reaped) = false := rfl
    cases resolved with
    | none =>
      refine h.withTask (hused hl) ⟨rfl, rfl, rfl, rfl, rfl, rfl⟩ ?_ ?_ hbound ?_ ?_ ?_ ?_ ?_ (Nat.le_succ_of_le hle)
      all_goals simp [hrun, hrunning, hexited, ← hsome]
      omega
    | some kind =>
      refine h.withTask (hused hl) ⟨rfl, rfl, rfl, rfl, rfl, rfl⟩ ?_ ?_ hbound ?_ ?_ ?_ ?_ ?_ (Nat.succ_le_succ hle)
      all_goals simp [hrun, hrunning, hexited, ← hsome]
      all_goals omega
  | @terminalReap s tid term i hl hphase hterm =>
    have hnone : (r.tasks i).pendingSyscall = none := h.resolved i (by simp [hphase])
    refine h.withTask (hused hl) ⟨rfl, rfl, rfl, rfl, rfl, rfl⟩ ?_ ?_ hbound ?_ ?_ ?_ ?_ ?_ h.noReturns
    all_goals simp [hphase, hnone]
    all_goals omega

end

/-! ## Completion -/

section
variable {r : TaskStateRecorder}

theorem checkedAdd_eq {a b : Nat} (h : a + b < 2 ^ 64) : checkedAdd a b = some (a + b) := if_pos h

/-- The transitions add up without an overflow. -/
theorem Counted.expectedTransitionCount (h : Counted r) :
    r.counters.expectedTransitionCount = some r.counters.acceptedTransitionCount := by
  have hbound := h.bounded
  rw [h.total] at hbound ⊢
  simp (disch := omega) only [TaskCounters.expectedTransitionCount, checkedAdd_eq, Option.bind_eq_bind,
    Option.bind_some]

theorem Counted.birthCount (hi : r.Inv) (h : Counted r) : r.counters.birthCount = some (r.slotsUsed - 1) := by
  have hbirths := h.births
  have hcap := hi.capacity
  have hmax : maxTasks = 256 := rfl
  simp only [TaskCounters.birthCount, bind, Option.bind]
  rw [checkedAdd_eq (by omega)]
  dsimp only
  rw [checkedAdd_eq (by omega), hbirths]

/-- With every task reaped and no child pending, every equation that `complete` checks holds. -/
theorem Counted.complete_ok (hi : r.Inv) (h : Counted r) (hp : r.poisoned = none) (hborn : r.slotsUsed ≠ 0)
    (hreaped : ∀ i : Fin maxTasks, i.val < r.slotsUsed → (r.tasks i).phase = .reaped)
    (hpending : ∀ j, (r.pendingChildren j).rawTid = 0) :
    r.complete = .ok { taskCount := r.slotsUsed, counters := r.counters } := by
  have hcap := hi.capacity
  have hmax : maxTasks = 256 := rfl
  have hslots : r.slotsUsed ≤ maxTasks := by omega
  -- what an empty slot does not pass, only a slot in use does
  have hused (p : TaskSlot → Bool) (hempty : p .empty = false) (i : Fin maxTasks) (hp : p (r.tasks i) = true) :
      i.val < r.slotsUsed := by
    by_contra hout
    rw [h.fresh i (by omega), hempty] at hp
    cases hp
  have hreaps : r.counters.terminalReapCount = r.slotsUsed := by
    rw [h.reaps]
    exact count_eq_of_below hslots fun i => ⟨hused (·.phase == .reaped) rfl i, fun hlt => by simp [hreaped i hlt]⟩
  have hexits : r.counters.ptraceExitEventCount = r.slotsUsed := by
    rw [h.exits]
    exact count_eq_of_below hslots fun i => ⟨hused hasExited rfl i, fun hlt => by simp [hasExited, hreaped i hlt]⟩
  have hentries : r.counters.seccompEntryCount =
      r.counters.syscallExitCount + r.counters.noReturnResolutionCount := by
    rw [h.entries]
    have hnone : r.tasks.count (·.pendingSyscall.isSome) = 0 := by
      refine count_eq_zero.2 fun i => Bool.eq_false_iff.2 fun hsome => ?_
      rw [h.resolved i (by rw [hreaped i (hused (·.pendingSyscall.isSome) rfl i hsome)]; decide)] at hsome
      cases hsome
    rw [hnone]
    rfl
  have hexecs : r.counters.execCount ≤ r.slotsUsed := by
    rw [h.execs]
    exact count_le_of_below (hused (·.execSeenEver) rfl)
  have hempty : ∀ j, r.pendingChildren j = .empty := fun j => h.free j (hpending j)
  have hannouncements : r.counters.childAnnouncementCount = r.slotsUsed - 1 := by
    rw [h.announcements, count_eq_zero.2 fun j => by rw [hempty j]; rfl]
    rfl
  have hreadies : r.counters.childReadyCount = r.slotsUsed - 1 := by
    rw [h.readies, count_eq_zero.2 fun j => by rw [hempty j]; rfl]
    rfl
  have hinitial : r.counters.initialBirthCount = 1 := by rw [h.initial, if_neg hborn]
  have hresolved : checkedAdd r.counters.syscallExitCount r.counters.noReturnResolutionCount =
      some r.counters.seccompEntryCount := by
    have hbound := h.bounded
    rw [h.total] at hbound
    rw [checkedAdd_eq (by omega), hentries]
  have hcomplete : ¬ r.incompleteShutdown r.counters.seccompEntryCount r.counters.acceptedTransitionCount := by
    unfold incompleteShutdown hasUnreapedTask hasPendingChild
    rw [h.birthCount hi]
    push Not
    refine ⟨hborn, fun i hlt => ⟨hreaped i hlt, h.erased i (hreaped i hlt)⟩, hpending, hinitial, rfl, ?_, hreadies,
      rfl, hexits, hreaps, hexecs, h.noReturns, rfl⟩
    rw [hannouncements, hreadies]
  unfold complete
  rw [hp, hresolved, h.expectedTransitionCount]
  dsimp only
  rw [if_neg hcomplete, if_pos (by omega)]

/-- A healthy recorder accepts an observation and counts it, or is poisoned. -/
theorem observe_counted (hi : r.Inv) (h : Counted r) (hp : r.poisoned = none) (obs : TaskObservation) (sink : EventSink) :
    Runs (observe obs sink) r (fun ev t => Observed r obs ev t ∧ Counted t) fun e t => t.poisoned = some e := by
  refine (observe_runs hi hp obs sink).mono (fun ev t ht => ?_) fun e t he => he.1
  obtain ⟨hobs, -, hcounts⟩ := ht
  refine ⟨hobs, ?_⟩
  obtain ⟨tables, hhandled, counters, rfl⟩ := hobs.handled
  exact h.handled hi hobs.started hhandled hcounts.counted hcounts.bounded

/-- Every healthy recorder has its counters right. -/
theorem recorder_run_counted {log : List ((TaskObservation × EventSink) × Option NormalizedTaskEvent)}
    (h : RecorderRun log r) (hp : r.poisoned = none) : r.Inv ∧ Counted r := by
  have hkept : Kept (fun call : TaskObservation × EventSink => observe call.1 call.2) (· = TaskStateRecorder.new)
      TaskStateRecorder.poisoned (fun _ r => r.Inv ∧ Counted r) fun _ => True := by
    refine ⟨?_, fun log r call hp ⟨hinv, hcounted⟩ => ?_⟩
    · rintro r rfl
      exact ⟨rfl, inv_new, counted_new⟩
    · refine (observe_counted hinv hcounted hp call.1 call.2).mono (fun ev t ht => ?_) fun e t he => ⟨he, trivial⟩
      obtain ⟨hobs, hcounted'⟩ := ht
      exact ⟨(observed_poisoned hobs).trans hp, (observed_step hinv hobs).1, hcounted'⟩
  exact (h.kept recorder_sticky hkept).1 hp

/-- A completion that succeeds found a healthy recorder, no unreaped task and no pending child. -/
theorem not_incomplete_of_complete {summary : TaskCompletionSummary} (h : r.complete = .ok summary) :
    r.poisoned = none ∧ 0 < r.slotsUsed ∧
      (∀ i : Fin maxTasks, i.val < r.slotsUsed → (r.tasks i).phase = .reaped) ∧
      ∀ j, (r.pendingChildren j).rawTid = 0 := by
  unfold complete at h
  split at h
  · cases h
  · split at h
    · cases h
    · split at h
      · cases h
      · split at h
        · cases h
        · rename_i hp _ _ _ _ _ _ hcomplete
          unfold incompleteShutdown hasUnreapedTask hasPendingChild at hcomplete
          push Not at hcomplete
          exact ⟨hp, Nat.pos_of_ne_zero hcomplete.1, fun i hi => (hcomplete.2.1 i hi).1, hcomplete.2.2.1⟩

end

end TaskStateRecorder

/-- A recorder completes exactly when it is healthy, a task was born, every task
is reaped and no child is pending; the summary then holds its counters. -/
theorem recorder_run_complete {log : List ((TaskObservation × EventSink) × Option NormalizedTaskEvent)}
    {r : TaskStateRecorder} (h : RecorderRun log r) :
    ((∃ summary, r.complete = .ok summary) ↔ r.poisoned = none ∧ 0 < r.slotsUsed ∧
      (∀ i : Fin maxTasks, i.val < r.slotsUsed → (r.tasks i).phase = .reaped) ∧
      ∀ j, (r.pendingChildren j).rawTid = 0) ∧
    ∀ summary, r.complete = .ok summary → summary = { taskCount := r.slotsUsed, counters := r.counters } := by
  constructor
  · refine ⟨fun ⟨_, hsummary⟩ => not_incomplete_of_complete hsummary, ?_⟩
    rintro ⟨hp, hborn, hreaped, hpending⟩
    obtain ⟨hinv, hcounted⟩ := recorder_run_counted h hp
    exact ⟨_, hcounted.complete_ok hinv hp hborn.ne' hreaped hpending⟩
  · intro summary hsummary
    obtain ⟨hp, hborn, hreaped, hpending⟩ := not_incomplete_of_complete hsummary
    obtain ⟨hinv, hcounted⟩ := recorder_run_counted h hp
    rw [hcounted.complete_ok hinv hp hborn.ne' hreaped hpending, Except.ok.injEq] at hsummary
    exact hsummary.symm

/-- One task that exits and is reaped. -/
def singleTaskCalls : List (TaskObservation × EventSink) :=
  let sink : EventSink := fun _ => true
  [(.initialBirth 1 100, sink), (.seccompEntry 2 100 exitGroupNr, sink), (.ptraceExitEvent 3 100 (.exited 0), sink),
    (.terminalReap 4 100 (.exited 0), sink)]

theorem recorder_run_complete_single : ∃ log r, RecorderRun log r ∧
    ∃ summary, r.complete = .ok summary ∧ summary.taskCount = 1 := by
  have hstart : RecorderRun [] .new := .start rfl
  have hrun := hstart.play singleTaskCalls
  refine ⟨_, _, hrun, ?_⟩
  obtain ⟨⟨_, hok⟩, hsummary⟩ := recorder_run_complete hrun
  obtain ⟨summary, hcomplete⟩ := hok ⟨by decide +kernel, by decide +kernel, by decide +kernel, by decide +kernel⟩
  refine ⟨summary, hcomplete, ?_⟩
  rw [hsummary summary hcomplete]
  decide +kernel

end Again.Tracer
