import Again.Lib.Session
import Again.Tracer.TaskRegistry

/-!
# The event list a recorder emits

What a reader of the normalized events may rely on, with no recorder at hand:
sequence numbers grow, tasks are born in order, a child is born to a parent
inside the syscall that creates it, and the events of one task follow a small
grammar from birth to reap. The recorder's slots are where each task stands in
that grammar, so one observation appends one event the grammar allows next.
-/

namespace Again.Tracer

open Lib

variable {n s : Nat} {kind : TaskBirthKind} {parent group : Option Nat} {i : Fin maxTasks}

variable {t : TaskSlot} {id : Nat}

namespace NormalizedTaskEvent

def transportSequence : NormalizedTaskEvent → Nat
  | .birth sequence _ _ _ _ => sequence
  | .exec sequence _ _ => sequence
  | .seccompEntry sequence _ _ => sequence
  | .syscallExit sequence _ _ => sequence
  | .ptraceExitEvent sequence _ _ _ => sequence
  | .terminalReap sequence _ _ => sequence

/-- The task an event is about; for a birth, the one born. -/
def logicalTaskId : NormalizedTaskEvent → Nat
  | .birth _ id _ _ _ => id
  | .exec _ id _ => id
  | .seccompEntry _ id _ => id
  | .syscallExit _ id _ => id
  | .ptraceExitEvent _ id _ _ => id
  | .terminalReap _ id _ => id

def bornId : NormalizedTaskEvent → Option Nat
  | .birth _ id _ _ _ => some id
  | _ => none

def parentId : NormalizedTaskEvent → Option Nat
  | .birth _ _ parent _ _ => parent
  | _ => none

def isExec : NormalizedTaskEvent → Bool
  | .exec _ _ _ => true
  | _ => false

def isPtraceExit : NormalizedTaskEvent → Bool
  | .ptraceExitEvent _ _ _ _ => true
  | _ => false

end NormalizedTaskEvent

open NormalizedTaskEvent TaskStateRecorder

/-! ## The grammar of one task -/

/-- Where a task stands between two of its events. -/
inductive TaskStage where
  | outside
  | inside (syscallNumber : Nat) (execSeen : Bool)
  | exited (termination : LinuxWaitTermination)
  | reaped

/-- The events of one task, oldest first: its birth, then entry and exit of syscalls with an exec inside
`execve` and `execveat` only, then the exit event and the reap. -/
inductive TaskTrace (id : Nat) : List NormalizedTaskEvent → TaskStage → Prop
  | birth {s group : Nat} {parent : Option Nat} {kind : TaskBirthKind} :
      TaskTrace id [.birth s id parent group kind] .outside
  | seccompEntry {events : List NormalizedTaskEvent} {s n : Nat} (h : TaskTrace id events .outside) :
      TaskTrace id (events ++ [.seccompEntry s id n]) (.inside n false)
  | exec {events : List NormalizedTaskEvent} {s n : Nat} (h : TaskTrace id events (.inside n false))
      (hn : isExecSyscall n = true) : TaskTrace id (events ++ [.exec s id n]) (.inside n true)
  | syscallExit {events : List NormalizedTaskEvent} {s n : Nat} {execSeen : Bool}
      (h : TaskTrace id events (.inside n execSeen)) : TaskTrace id (events ++ [.syscallExit s id n]) .outside
  | exited {events : List NormalizedTaskEvent} {s n : Nat} {execSeen : Bool} {code : UInt8}
      {resolved : Option TaskNoReturnKind} (h : TaskTrace id events (.inside n execSeen))
      (hn : isExitSyscall n = true) :
      TaskTrace id (events ++ [.ptraceExitEvent s id (.exited code) resolved]) (.exited (.exited code))
  | signaled {events : List NormalizedTaskEvent} {s : Nat} {signal : UInt8} {core : Bool}
      {resolved : Option TaskNoReturnKind}
      (h : TaskTrace id events .outside) :
      TaskTrace id (events ++ [.ptraceExitEvent s id (.signaled signal core) resolved]) (.exited (.signaled signal core))
  | terminalReap {events : List NormalizedTaskEvent} {s : Nat} {termination : LinuxWaitTermination}
      (h : TaskTrace id events (.exited termination)) :
      TaskTrace id (events ++ [.terminalReap s id termination]) .reaped

/-- The events about one task. -/
def project (id : Nat) (events : List NormalizedTaskEvent) : List NormalizedTaskEvent :=
  events.filter fun e => e.logicalTaskId == id

/-! ## The whole list -/

/-- `parent` is inside a creation syscall, and had no child in it yet. -/
def OpenCreation (parent : Nat) (events : List NormalizedTaskEvent) : Prop :=
  ∃ before s n after, events = before ++ .seccompEntry s parent n :: after ∧ isCreationSyscall n = true ∧
    ∀ e ∈ after, e.logicalTaskId ≠ parent ∧ e.parentId ≠ some parent

/-- A birth after the events in `before`: the initial one comes first, any other names a parent that
was born, has not exited and is inside a creation syscall. -/
def BirthOk (before : List NormalizedTaskEvent) : NormalizedTaskEvent → Prop
  | .birth _ id none group kind => kind = .initial ∧ before = [] ∧ group = id
  | .birth _ id (some parent) group kind => kind ≠ .initial ∧
      (∃ s grandparent parentGroup parentKind, .birth s parent grandparent parentGroup parentKind ∈ before ∧
        (group = id ∨ group = parentGroup)) ∧
      (∀ e ∈ before, e.logicalTaskId = parent → e.isPtraceExit = false) ∧ OpenCreation parent before
  | _ => True

structure WellFormedLog (events : List NormalizedTaskEvent) : Prop where
  sequences : (events.map transportSequence).Pairwise (· < ·)
  ids : ∃ n, events.filterMap bornId = List.range' 1 n
  births : ∀ before e after, events = before ++ e :: after → BirthOk before e
  tasks : ∀ id, project id events = [] ∨
    (∃ stage, TaskTrace id (project id events) stage) ∧ (project id events).countP isExec ≤ 1

/-! ## Appending an event -/

section

variable {events : List NormalizedTaskEvent} {e : NormalizedTaskEvent}

theorem project_same (h : e.logicalTaskId = id) : project id (events ++ [e]) = project id events ++ [e] := by
  simp [project, h]

theorem project_other (h : e.logicalTaskId ≠ id) : project id (events ++ [e]) = project id events := by
  simp [project, h]

theorem OpenCreation.append (h : OpenCreation id events) (hid : e.logicalTaskId ≠ id) (hpar : e.parentId ≠ some id) :
    OpenCreation id (events ++ [e]) := by
  obtain ⟨before, s, n, after, rfl, hn, hafter⟩ := h
  refine ⟨before, s, n, after ++ [e], by simp, hn, ?_⟩
  exact List.forall_mem_append.2 ⟨hafter, List.forall_mem_singleton.2 ⟨hid, hpar⟩⟩

variable {stage : TaskStage}

/-- A running task has no exit event. -/
theorem TaskTrace.no_exit (h : TaskTrace id events stage)
    (hstage : stage = .outside ∨ ∃ n execSeen, stage = .inside n execSeen) : ∀ e ∈ events, e.isPtraceExit = false := by
  induction h with
  | birth => exact List.forall_mem_singleton.2 rfl
  | seccompEntry h ih => exact List.forall_mem_append.2 ⟨ih (.inl rfl), List.forall_mem_singleton.2 rfl⟩
  | exec h hn ih | syscallExit h ih =>
    exact List.forall_mem_append.2 ⟨ih (.inr ⟨_, _, rfl⟩), List.forall_mem_singleton.2 rfl⟩
  | exited | signaled | terminalReap => rcases hstage with h | ⟨_, _, h⟩ <;> cases h

/-- Inside a syscall that already saw its exec, the task has one. -/
theorem TaskTrace.exec_seen (h : TaskTrace id events (.inside n true)) : 0 < events.countP isExec := by
  generalize hstage : TaskStage.inside n true = stage at h
  cases h with
  | exec h hn => simp [List.countP_append, isExec]
  | _ => cases hstage

end

/-! ## A task's slot and its events -/

/-- The slot's phase and pending syscall are a stage of the grammar. -/
def AtStage (t : TaskSlot) : TaskStage → Prop
  | .outside => t.phase = .running ∧ t.pendingSyscall = none
  | .inside n _ => t.phase = .running ∧ t.pendingSyscall = some n
  | .exited termination => t.phase = .exitObserved ∧ t.termination = some termination
  | .reaped => t.phase = .reaped

structure TaskStory (events : List NormalizedTaskEvent) (id : Nat) (t : TaskSlot) : Prop where
  trace : ∃ stage, AtStage t stage ∧ TaskTrace id (project id events) stage
  execs : (project id events).countP isExec = t.execSeenEver.toNat
  group : ∃ s parent kind, .birth s id parent t.threadGroupLogicalTaskId kind ∈ events
  creation : ∀ n, t.phase = .running → t.pendingSyscall = some n → isCreationSyscall n = true →
    t.childReadySeenForPending = false → OpenCreation id events

/-- What a slot may change while its task stays where it is in the grammar. -/
structure SameStage (t t' : TaskSlot) : Prop where
  phase : t'.phase = t.phase
  pending : t'.pendingSyscall = t.pendingSyscall
  termination : t'.termination = t.termination
  execs : t'.execSeenEver = t.execSeenEver
  group : t'.threadGroupLogicalTaskId = t.threadGroupLogicalTaskId
  unborn : t'.childReadySeenForPending = false → t.childReadySeenForPending = false

section

variable {events : List NormalizedTaskEvent} {e : NormalizedTaskEvent} {t' : TaskSlot}

theorem SameStage.refl (t : TaskSlot) : SameStage t t := ⟨rfl, rfl, rfl, rfl, rfl, fun h => h⟩

theorem SameStage.atStage (h : SameStage t t') (ha : AtStage t stage) : AtStage t' stage := by
  cases stage with
  | outside | inside n execSeen => exact ⟨h.phase.trans ha.1, h.pending.trans ha.2⟩
  | exited termination => exact ⟨h.phase.trans ha.1, h.termination.trans ha.2⟩
  | reaped => exact h.phase.trans ha

theorem TaskStory.same (h : TaskStory events id t) (hs : SameStage t t') : TaskStory events id t' := by
  obtain ⟨⟨stage, hat, htrace⟩, hexecs, hgroup, hcreation⟩ := h
  refine ⟨⟨stage, hs.atStage hat, htrace⟩, hs.execs ▸ hexecs, hs.group ▸ hgroup, fun n hrun hn hc hun => ?_⟩
  exact hcreation n (hs.phase ▸ hrun) (hs.pending ▸ hn) hc (hs.unborn hun)

/-- An event about another task; a birth to this one only when the slot says so. -/
theorem TaskStory.other (h : TaskStory events id t) (hid : e.logicalTaskId ≠ id)
    (hpar : e.parentId = some id → t.childReadySeenForPending = true) : TaskStory (events ++ [e]) id t := by
  obtain ⟨htrace, hexecs, ⟨s, parent, kind, hbirth⟩, hcreation⟩ := h
  refine ⟨?_, ?_, ⟨s, parent, kind, List.mem_append_left _ hbirth⟩, fun n hrun hn hc hun => ?_⟩
  · rwa [project_other hid]
  · rwa [project_other hid]
  · refine (hcreation n hrun hn hc hun).append hid fun hp => ?_
    rw [hpar hp] at hun
    cases hun

/-- The task's own next event. -/
theorem TaskStory.own (h : TaskStory events id t) (hid : e.logicalTaskId = id)
    (htrace : TaskTrace id (project id events ++ [e]) stage) (hat : AtStage t' stage)
    (hexecs : t'.execSeenEver.toNat = t.execSeenEver.toNat + (isExec e).toNat)
    (hgroup : t'.threadGroupLogicalTaskId = t.threadGroupLogicalTaskId)
    (hcreation : ∀ n, t'.phase = .running → t'.pendingSyscall = some n → isCreationSyscall n = true →
      ∃ s, e = .seccompEntry s id n) : TaskStory (events ++ [e]) id t' := by
  obtain ⟨s, parent, kind, hbirth⟩ := h.group
  refine ⟨⟨stage, hat, ?_⟩, ?_, ⟨s, parent, kind, ?_⟩, fun n hrun hn hc _ => ?_⟩
  · rwa [project_same hid]
  · rw [project_same hid, List.countP_append, h.execs, hexecs]
    cases hex : isExec e <;> simp [hex]
  · rw [hgroup]
    exact List.mem_append_left _ hbirth
  · obtain ⟨s', rfl⟩ := hcreation n hrun hn hc
    exact ⟨events, s', n, [], rfl, hc, nofun⟩

/-- A task's first event is its birth. -/
theorem taskStory_new (hnone : project id events = []) {tid : Int} :
    TaskStory (events ++ [.birth s id parent (group.getD id) kind]) id (newTask id tid group) := by
  have hproject : project id (events ++ [.birth s id parent (group.getD id) kind]) =
      [.birth s id parent (group.getD id) kind] := by
    simp [project, logicalTaskId] at hnone ⊢
    exact hnone
  refine ⟨⟨.outside, ⟨rfl, rfl⟩, ?_⟩, ?_, ⟨s, parent, kind, ?_⟩, nofun⟩
  · rw [hproject]
    exact .birth
  · rw [hproject]
    rfl
  · exact List.mem_append_right _ (List.mem_singleton_self _)

end

/-! ## The recorder and its events -/

/-- The events a healthy recorder has emitted, read against its slots. -/
structure Narrated (events : List NormalizedTaskEvent) (r : TaskStateRecorder) : Prop where
  sequences : (events.map transportSequence).Pairwise (· < ·)
  below : ∀ e ∈ events, e.transportSequence < r.nextTransportSequence
  ids : events.filterMap bornId = List.range' 1 r.slotsUsed
  known : ∀ e ∈ events, 0 < e.logicalTaskId ∧ e.logicalTaskId ≤ r.slotsUsed
  births : ∀ before e after, events = before ++ e :: after → BirthOk before e
  tasks : ∀ i, i.val < r.slotsUsed → TaskStory events (i.val + 1) (r.tasks i)

section

variable {events : List NormalizedTaskEvent} {e : NormalizedTaskEvent} {r r' : TaskStateRecorder}

theorem Narrated.unborn (h : Narrated events r) (hid : r.slotsUsed < id) : project id events = [] := by
  unfold project
  rw [List.filter_eq_nil_iff]
  intro e he heq
  have hle := (h.known e he).2
  rw [beq_iff_eq.1 heq] at hle
  omega

/-- One more event: the parts that do not depend on which one it is. -/
theorem Narrated.append (h : Narrated events r) (hseq : e.transportSequence = r.nextTransportSequence)
    (hnext : r'.nextTransportSequence = r.nextTransportSequence + 1) (hused : r.slotsUsed ≤ r'.slotsUsed)
    (hid : 0 < e.logicalTaskId ∧ e.logicalTaskId ≤ r'.slotsUsed)
    (hids : (events ++ [e]).filterMap bornId = List.range' 1 r'.slotsUsed) (hbirth : BirthOk events e)
    (htasks : ∀ i, i.val < r'.slotsUsed → TaskStory (events ++ [e]) (i.val + 1) (r'.tasks i)) :
    Narrated (events ++ [e]) r' where
  sequences := by
    rw [List.map_append, List.pairwise_append]
    refine ⟨h.sequences, List.pairwise_singleton _ _, fun a ha b hb => ?_⟩
    obtain ⟨e', he', rfl⟩ := List.mem_map.1 ha
    rw [List.mem_singleton.1 hb, hseq]
    exact h.below e' he'
  below := by
    rw [hnext]
    refine List.forall_mem_append.2 ⟨fun e' he' => (h.below e' he').trans (Nat.lt_succ_self _), ?_⟩
    exact List.forall_mem_singleton.2 (hseq ▸ Nat.lt_succ_self _)
  ids := hids
  known := by
    refine List.forall_mem_append.2 ⟨fun e' he' => ?_, List.forall_mem_singleton.2 hid⟩
    exact ⟨(h.known e' he').1, (h.known e' he').2.trans hused⟩
  births := by
    intro before e' after heq
    -- the split is at the new event or before it
    rcases List.eq_nil_or_concat after with rfl | ⟨after', last, rfl⟩
    · obtain ⟨rfl, hlast⟩ := List.append_inj' heq rfl
      cases hlast
      exact hbirth
    · rw [List.concat_eq_append, ← List.cons_append, ← List.append_assoc] at heq
      obtain ⟨hevents, -⟩ := List.append_inj' heq rfl
      exact h.births before e' after' hevents
  tasks := htasks

/-- An event of a task that is no birth: only its slot changes. -/
theorem Narrated.own (h : Narrated events r) (hi : i.val < r.slotsUsed)
    (hseq : e.transportSequence = r.nextTransportSequence)
    (hnext : r'.nextTransportSequence = r.nextTransportSequence + 1) (hused : r'.slotsUsed = r.slotsUsed)
    (htasks : r'.tasks = r.tasks.put i t) (hid : e.logicalTaskId = i.val + 1) (hborn : e.bornId = none)
    (hstory : TaskStory (events ++ [e]) (i.val + 1) t) : Narrated (events ++ [e]) r' := by
  have hpar : e.parentId = none := by cases e <;> first | rfl | cases hborn
  refine h.append hseq hnext hused.ge ?_ ?_ ?_ fun k hk => ?_
  · omega
  · rw [List.filterMap_append, hused, h.ids]
    simp [hborn]
  · cases e <;> trivial
  · rw [htasks]
    by_cases hki : k = i
    · rw [hki, Table.put_self]
      exact hstory
    · rw [Table.put_other _ _ hki]
      refine (h.tasks k (hused ▸ hk)).other ?_ ?_
      · rw [hid]
        exact fun heq => hki (Fin.ext (Nat.succ.inj heq).symm)
      · rw [hpar]
        nofun

/-- An observation without an event: every task stays where it is in the grammar. -/
theorem Narrated.quiet (h : Narrated events r) (hnext : r'.nextTransportSequence = r.nextTransportSequence + 1)
    (hused : r'.slotsUsed = r.slotsUsed) (hsame : ∀ i, SameStage (r.tasks i) (r'.tasks i)) : Narrated events r' where
  __ := h
  below := fun e he => hnext ▸ (h.below e he).trans (Nat.lt_succ_self _)
  ids := hused ▸ h.ids
  known := fun e he => hused ▸ h.known e he
  tasks := fun i hi => (h.tasks i (hused ▸ hi)).same (hsame i)

/-- A birth takes the next slot and the next id. -/
theorem Narrated.newborn (h : Narrated events r) {c : Int} (hseq : s = r.nextTransportSequence)
    (hnext : r'.nextTransportSequence = r.nextTransportSequence + 1) (hused : r'.slotsUsed = r.slotsUsed + 1)
    (hnew : ∀ i, i.val = r.slotsUsed → r'.tasks i = newTask (r.slotsUsed + 1) c group)
    (hbirth : BirthOk events (.birth s (r.slotsUsed + 1) parent (group.getD (r.slotsUsed + 1)) kind))
    (hold : ∀ i, i.val < r.slotsUsed → TaskStory
      (events ++ [.birth s (r.slotsUsed + 1) parent (group.getD (r.slotsUsed + 1)) kind]) (i.val + 1) (r'.tasks i)) :
    Narrated (events ++ [.birth s (r.slotsUsed + 1) parent (group.getD (r.slotsUsed + 1)) kind]) r' := by
  refine h.append hseq hnext (by omega) ?_ ?_ hbirth fun i hi => ?_
  · rw [hused]
    exact ⟨Nat.succ_pos _, Nat.le_refl _⟩
  · rw [List.filterMap_append, h.ids, hused, List.range'_concat, Nat.one_mul, Nat.add_comm 1]
    rfl
  · rcases Nat.lt_or_eq_of_le (Nat.lt_succ_iff.1 (hused ▸ hi)) with hlt | heq
    · exact hold i hlt
    · rw [hnew i heq, heq]
      exact taskStory_new (h.unborn (Nat.lt_succ_self _))

/-- A child is born to a parent inside its creation syscall. -/
theorem Narrated.childBirth (hinv : r.Inv) (h : Narrated events r) (hcap : r.slotsUsed < maxTasks) {j : Fin maxTasks}
    {c : Int} {kind : TaskChildBirthKind} {rel : TaskGroupRelation} {parent : TaskSlot}
    (hr : r'.slotsUsed = (r.withBirth hcap i parent j c (inherited rel (r.tasks i))).slotsUsed ∧
      r'.tasks = (r.withBirth hcap i parent j c (inherited rel (r.tasks i))).tasks) (hi : i.val < r.slotsUsed)
    (hrun : (r.tasks i).phase = .running) (hn : (r.tasks i).pendingSyscall = some n)
    (hcreate : isCreationSyscall n = true) (hun : (r.tasks i).childReadySeenForPending = false)
    (hsame : SameStage (r.tasks i) parent) (hready : parent.childReadySeenForPending = true)
    (hseq : s = r.nextTransportSequence) (hnext : r'.nextTransportSequence = r.nextTransportSequence + 1) :
    Narrated (events ++ [r.birthEvent s (r.tasks i) kind rel]) r' := by
  have hstory := h.tasks i hi
  have hold : ∀ k : Fin maxTasks, k.val < r.slotsUsed → r'.tasks k = r.tasks.put i parent k := by
    intro k hk
    rw [hr.2]
    apply Table.put_other
    rintro rfl
    exact absurd hk (Nat.lt_irrefl _)
  unfold birthEvent
  rw [hinv.nextId, hinv.ids i hi]
  refine h.newborn (c := c) hseq hnext hr.1 (fun k hk => ?_) ?_ fun k hk => ?_
  · obtain rfl : k = ⟨r.slotsUsed, hcap⟩ := Fin.ext hk
    rw [hr.2, ← hinv.nextId]
    exact Table.put_self _ _ _
  · obtain ⟨s', grandparent, kind', hbirth⟩ := hstory.group
    obtain ⟨stage, hat, htrace⟩ := hstory.trace
    refine ⟨?_, ⟨s', grandparent, _, kind', hbirth, ?_⟩, fun e he hid => ?_, hstory.creation n hrun hn hcreate hun⟩
    · cases kind <;> nofun
    · cases rel with
      | newThreadGroup => exact .inl rfl
      | sharesParentThreadGroup => exact .inr rfl
    · refine htrace.no_exit ?_ e (List.mem_filter.2 ⟨he, beq_iff_eq.2 hid⟩)
      cases stage with
      | outside => exact .inl rfl
      | inside m execSeen => exact .inr ⟨m, execSeen, rfl⟩
      | exited t => cases hrun.symm.trans hat.1
      | reaped => cases hrun.symm.trans hat
  · rw [hold k hk]
    have hne : r.slotsUsed + 1 ≠ k.val + 1 := by omega
    by_cases hki : k = i
    · subst hki
      rw [Table.put_self]
      exact (hstory.same hsame).other hne fun _ => hready
    · rw [Table.put_other _ _ hki]
      refine (h.tasks k hk).other hne fun hp => ?_
      exact absurd (Fin.ext (Nat.succ.inj (Option.some.inj hp))).symm hki

/-- A stage of a running task that is in no syscall, or in `n`. -/
theorem AtStage.running (h : AtStage t stage) (hrun : t.phase = .running) :
    (t.pendingSyscall = none → stage = .outside) ∧
      ∀ n, t.pendingSyscall = some n → ∃ execSeen, stage = .inside n execSeen := by
  cases stage with
  | outside => exact ⟨fun _ => rfl, fun n hn => absurd (h.2.symm.trans hn) nofun⟩
  | inside m execSeen =>
    refine ⟨fun hn => absurd (h.2.symm.trans hn) nofun, fun n hn => ?_⟩
    cases h.2.symm.trans hn
    exact ⟨execSeen, rfl⟩
  | exited t => cases hrun.symm.trans h.1
  | reaped => cases hrun.symm.trans h

theorem TaskStory.outside (h : TaskStory events id t) (hrun : t.phase = .running) (hn : t.pendingSyscall = none) :
    TaskTrace id (project id events) .outside := by
  obtain ⟨stage, hat, htrace⟩ := h.trace
  rwa [(hat.running hrun).1 hn] at htrace

theorem TaskStory.inside (h : TaskStory events id t) (hrun : t.phase = .running) (hn : t.pendingSyscall = some n) :
    ∃ execSeen, TaskTrace id (project id events) (.inside n execSeen) := by
  obtain ⟨stage, hat, htrace⟩ := h.trace
  obtain ⟨execSeen, rfl⟩ := (hat.running hrun).2 n hn
  exact ⟨execSeen, htrace⟩

/-- The exit event the grammar allows is the one `resolveNoReturn` lets through. -/
theorem TaskStory.exit (h : TaskStory events id t) (hrun : t.phase = .running) {term : LinuxWaitTermination}
    {resolved : Option TaskNoReturnKind} (hres : resolveNoReturn term t.pendingSyscall = .ok resolved) :
    TaskTrace id (project id events ++ [.ptraceExitEvent s id term resolved]) (.exited term) := by
  cases term with
  | exited code =>
    cases hn : t.pendingSyscall with
    | none =>
      rw [hn] at hres
      cases hres
    | some n =>
      obtain ⟨execSeen, htrace⟩ := h.inside hrun hn
      refine .exited htrace ?_
      rw [hn] at hres
      simp only [isExitSyscall, List.contains_eq_mem, List.mem_cons, List.not_mem_nil, or_false, decide_eq_true_eq]
      by_contra hother
      rw [not_or] at hother
      simp [resolveNoReturn, hother.1, hother.2] at hres
  | signaled signal core =>
    cases hn : t.pendingSyscall with
    | none => exact .signaled (h.outside hrun hn)
    | some n =>
      rw [hn] at hres
      cases hres

theorem execSyscall_not_creation (h : isExecSyscall n = true) : isCreationSyscall n = false := by
  simp only [isExecSyscall, List.contains_eq_mem, List.mem_cons, List.not_mem_nil, or_false, decide_eq_true_eq] at h
  rcases h with rfl | rfl <;> rfl

/-- An accepted observation appends the event it emits, if any. -/
theorem Narrated.step (hinv : r.Inv) (h : Narrated events r) {obs : TaskObservation} {ev : Option NormalizedTaskEvent}
    (hobs : Observed r obs ev r') : Narrated (events ++ ev.toList) r' := by
  obtain ⟨tables, hh, counters, rfl⟩ := hobs.handled
  have hseq := hobs.inSequence
  have hlive : ∀ {tid : Int} {i : Fin maxTasks}, r.findLiveTask tid = some i →
      i.val < r.slotsUsed ∧ (r.tasks i).logicalTaskId = i.val + 1 := by
    intro tid i hl
    obtain ⟨⟨hi, -⟩, -⟩ := findLiveTask_some hl
    exact ⟨hi, hinv.ids i hi⟩
  cases hh with
  | @initialBirth s tid h0 hpos hnew hcap =>
    have hnil : events = [] := by
      cases events with
      | nil => rfl
      | cons e rest =>
        have hk := h.known e List.mem_cons_self
        omega
    subst hnil
    rw [hinv.nextId]
    show Narrated ([] ++ [.birth s (r.slotsUsed + 1) none (Option.getD none (r.slotsUsed + 1)) .initial]) _
    refine h.newborn (c := tid) hseq rfl rfl (fun k hk => ?_) ⟨rfl, rfl, rfl⟩ fun k hk => absurd hk (by omega)
    obtain rfl : k = ⟨r.slotsUsed, hcap⟩ := Fin.ext hk
    rw [← hinv.nextId]
    exact Table.put_self _ _ _
  | @announce s p c kind rel i j n hpc hc hp hrun hn hk h0 hnew habs hcap hj =>
    rw [Option.toList_none, List.append_nil]
    refine h.quiet rfl rfl fun k => ?_
    show SameStage (r.tasks k) (r.tasks.put i { r.tasks i with pendingChildRawTid := c } k)
    by_cases hki : k = i
    · rw [hki, Table.put_self]
      exact ⟨rfl, rfl, rfl, rfl, rfl, fun hun => hun⟩
    · rw [Table.put_other _ _ hki]
      exact .refl _
  | @announceReady s p c kind rel i j n hpc hc hp hrun hn hk h0 hnew hj hcap =>
    obtain ⟨hi, -⟩ := hlive hp
    have hun := hinv.unborn i (findLiveTask_some hp).1 h0
    exact h.childBirth hinv hcap ⟨rfl, rfl⟩ hi hrun hn (permits_creation hk) hun ⟨rfl, rfl, rfl, rfl, rfl, nofun⟩ rfl
      hseq rfl
  | ready hc hnew habs hcap hj =>
    rw [Option.toList_none, List.append_nil]
    exact h.quiet rfl rfl fun k => .refl _
  | @readyAnnounced s c i j kind rel hc hnew hj hcap =>
    have hj0 : (r.pendingChildren j).rawTid ≠ 0 := by rw [hj]; exact hc.ne'
    obtain ⟨hl, hrun, -, hun, hk⟩ := hinv.childParent j ⟨i, kind, rel⟩ hj0 (by rw [hj])
    cases hn : (r.tasks i).pendingSyscall with
    | none =>
      rw [hn] at hk
      cases hk
    | some n =>
      rw [hn] at hk
      exact h.childBirth hinv hcap ⟨rfl, rfl⟩ hl.1 hrun hn (permits_creation hk) hun ⟨rfl, rfl, rfl, rfl, rfl, nofun⟩ rfl
        hseq rfl
  | @exec s tid i n hl hrun hn hexec hever =>
    obtain ⟨hi, hid⟩ := hlive hl
    rw [hid]
    have hstory := h.tasks i hi
    obtain ⟨execSeen, htrace⟩ := hstory.inside hrun hn
    have hfirst : execSeen = false := by
      by_contra hseen
      rw [Bool.not_eq_false] at hseen
      subst hseen
      have hpos := htrace.exec_seen
      rw [hstory.execs, hever] at hpos
      cases hpos
    subst hfirst
    refine h.own hi hseq rfl rfl rfl rfl rfl (hstory.own rfl (.exec htrace hexec) ⟨hrun, hn⟩ ?_ rfl ?_)
    · simp [hever, isExec]
    · -- no creation syscall execs
      intro m _ hm hcreate
      cases hn.symm.trans hm
      exact absurd hcreate (by rw [execSyscall_not_creation hexec]; nofun)
  | @seccompEntry s tid i n hl hrun hn =>
    obtain ⟨hi, hid⟩ := hlive hl
    rw [hid]
    have hstory := h.tasks i hi
    refine h.own hi hseq rfl rfl rfl rfl rfl
      (hstory.own rfl (.seccompEntry (hstory.outside hrun hn)) ⟨hrun, rfl⟩ rfl rfl fun m _ hm _ => ?_)
    cases hm
    exact ⟨s, rfl⟩
  | @syscallExit s tid result i n hl hrun hn hexit hcreate =>
    obtain ⟨hi, hid⟩ := hlive hl
    rw [hid]
    have hstory := h.tasks i hi
    obtain ⟨execSeen, htrace⟩ := hstory.inside hrun hn
    exact h.own hi hseq rfl rfl rfl rfl rfl (hstory.own rfl (.syscallExit htrace) ⟨hrun, rfl⟩ rfl rfl nofun)
  | @ptraceExit s tid term i resolved hl hrun hres =>
    obtain ⟨hi, hid⟩ := hlive hl
    rw [hid]
    have hstory := h.tasks i hi
    exact h.own hi hseq rfl rfl rfl rfl rfl (hstory.own rfl (hstory.exit hrun hres) ⟨rfl, rfl⟩ rfl rfl nofun)
  | @terminalReap s tid term i hl hphase hterm =>
    obtain ⟨hi, hid⟩ := hlive hl
    rw [hid]
    have hstory := h.tasks i hi
    obtain ⟨stage, hat, htrace⟩ := hstory.trace
    cases stage with
    | exited term' =>
      cases hterm.symm.trans hat.2
      exact h.own hi hseq rfl rfl rfl rfl rfl (hstory.own rfl (.terminalReap htrace) rfl rfl rfl nofun)
    | outside | inside n execSeen => cases hphase.symm.trans hat.1
    | reaped => cases hphase.symm.trans hat

theorem narrated_new : Narrated [] .new where
  sequences := List.Pairwise.nil
  below := nofun
  ids := rfl
  known := nofun
  births := by
    intro before e after heq
    cases before <;> cases heq
  tasks := nofun

/-- Read off the slots, the events are well formed. -/
theorem Narrated.wellFormed (hinv : r.Inv) (h : Narrated events r) : WellFormedLog events where
  __ := h
  ids := ⟨r.slotsUsed, h.ids⟩
  tasks := by
    intro id
    by_cases hid : 0 < id ∧ id ≤ r.slotsUsed
    · right
      have hcap := hinv.capacity
      obtain ⟨k, rfl⟩ := Nat.exists_eq_add_of_lt hid.1
      rw [Nat.zero_add] at hid ⊢
      have hstory := h.tasks ⟨k, by omega⟩ hid.2
      obtain ⟨stage, -, htrace⟩ := hstory.trace
      exact ⟨⟨stage, htrace⟩, hstory.execs ▸ Bool.toNat_le _⟩
    · -- no event is about a task that was never born
      left
      unfold project
      rw [List.filter_eq_nil_iff]
      intro e he heq
      rw [← beq_iff_eq.1 heq] at hid
      exact hid (h.known e he)

end

/-! ## Runs -/

/-- A recorder from `new`, given any observations and sinks. -/
abbrev RecorderRun := Session (fun call : TaskObservation × EventSink => observe call.1 call.2) (· = TaskStateRecorder.new)

/-- The events the sinks accepted, oldest first. -/
def acceptedEvents : List ((TaskObservation × EventSink) × Option NormalizedTaskEvent) → List NormalizedTaskEvent
  | [] => []
  | entry :: log => acceptedEvents log ++ entry.2.toList

theorem recorder_sticky :
    Poisoning (fun call : TaskObservation × EventSink => observe call.1 call.2) TaskStateRecorder.poisoned where
  sticky call r e h := by
    have hget : (get : RecorderM _) r = .ok r r := rfl
    simp only [observe, bind, EStateM.bind, hget, h]
    rfl

/-- Every recorder emits a well-formed list of events, all of them accepted by the sink they were
sent to. -/
theorem recorder_run_wellFormed {log : List ((TaskObservation × EventSink) × Option NormalizedTaskEvent)}
    {r : TaskStateRecorder} (h : RecorderRun log r) :
    (∀ entry ∈ log, ∀ e, entry.2 = some e → entry.1.2 e = true) ∧ WellFormedLog (acceptedEvents log) := by
  have hkept : Kept (fun call : TaskObservation × EventSink => observe call.1 call.2) (· = TaskStateRecorder.new)
      TaskStateRecorder.poisoned (fun log r => r.Inv ∧ (∀ entry ∈ log, ∀ e, entry.2 = some e → entry.1.2 e = true) ∧
        Narrated (acceptedEvents log) r) fun _ => True := by
    refine ⟨?_, fun log r call hp ⟨hinv, hsink, hn⟩ => ?_⟩
    · rintro r rfl
      exact ⟨rfl, inv_new, fun _ hmem => absurd hmem List.not_mem_nil, narrated_new⟩
    · refine (observe_runs hinv hp call.1 call.2).mono (fun ev r' hobs => ?_) fun e r' he => ⟨he.1, trivial⟩
      obtain ⟨hobs, haccepted, -⟩ := hobs
      refine ⟨(observed_poisoned hobs).trans hp, (observed_step hinv hobs).1, ?_, hn.step hinv hobs⟩
      exact List.forall_mem_cons.2 ⟨haccepted, hsink⟩
  obtain ⟨-, -, r₀, -, hinv, hsink, hn⟩ := h.kept recorder_sticky hkept
  exact ⟨hsink, hn.wellFormed hinv⟩

/-- Task 100 forks child 101, which stops before it is announced. -/
def earlyForkCalls : List (TaskObservation × EventSink) :=
  let sink : EventSink := fun _ => true
  [(.initialBirth 1 100, sink), (.seccompEntry 2 100 forkNr, sink), (.childReady 3 101, sink),
    (.childAnnouncement 4 100 101 .fork .newThreadGroup, sink), (.syscallExit 5 100 101, sink)]

theorem recorder_run_wellFormed_fork : ∃ log r, RecorderRun log r ∧
    acceptedEvents log = [.birth 1 1 none 1 .initial, .seccompEntry 2 1 forkNr, .birth 4 2 (some 1) 2 .fork,
      .syscallExit 5 1 forkNr] ∧ WellFormedLog (acceptedEvents log) := by
  have hstart : RecorderRun [] .new := .start rfl
  have hrun := hstart.play earlyForkCalls
  refine ⟨_, _, hrun, ?_, (recorder_run_wellFormed hrun).2⟩
  decide +kernel

end Again.Tracer
