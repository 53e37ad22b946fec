import Again.Tracer.Supervisor
import Again.Tracer.TaskRegistry

/-!
# What one call does

`Inv` ties the planner's two tables to the recorder: forks are the tasks inside
a creation syscall, held forks wait for the announced children, child stops
are the children that stopped first. `Accepts` lists every way a call is
accepted. `perform_runs` says a call from such a state does one of these, or
poisons the planner with a reason that is not `unreachable`.
-/

namespace Again.Tracer

open Lib TaskStateRecorder

variable {copied : Option (Nat × Table clone3ArgsBufferBytes UInt8)} {st : LinuxWaitStatusClass} {i : Fin maxTasks}

variable {Q : Unit → SupervisorState → Prop} {s : SupervisorState}

/-- The refusals that never happen: the planner's own bookkeeping errors and the recorder refusals
its checks exclude. -/
def SupervisorReason.unreachable : SupervisorReason → Bool
  | .duplicatePendingFork => true
  | .pendingForkCapacityExceeded => true
  | .pendingChildStopCapacityExceeded => true
  | .childInitialStopCorrelationMissing => true
  | .taskState reason => plannerExcluded.contains reason
  | _ => false

namespace SupervisorState

/-! ## State updates -/

/-- One stop generation handed out. -/
@[simps -fullyApplied] def stopped (s : SupervisorState) : SupervisorState :=
  { s with nextStopGeneration := s.nextStopGeneration + 1 }

/-- One observation accepted by the recorder. -/
@[simps -fullyApplied] def recorded (s : SupervisorState) (taskState : TaskStateRecorder) : SupervisorState :=
  { s with taskState := taskState, nextTransportSequence := s.nextTransportSequence + 1 }

/-! ## The invariant -/

/-- What is known of the task whose stop is being handled. -/
def ExchangeOk (s : SupervisorState) : PendingExchange → Prop
  | .none => True
  | .eventMessage _ tid _ event => ∃ t, s.taskState.task tid = some t ∧
      (event = .seccomp → t.pendingSyscall = none) ∧
      (event = .exec → ∃ n, t.pendingSyscall = some n ∧ isExecSyscall n = true)
  | .syscallInfo _ tid _ kind => ∃ t, s.taskState.task tid = some t ∧
      (kind = .seccompEntry → t.pendingSyscall = none) ∧ (kind = .syscallExit → ∃ n, t.pendingSyscall = some n)
  | .seccompPermit _ tid _ => ∃ t, s.taskState.task tid = some t ∧ t.pendingSyscall = none
  | .clone3ArgsRead _ tid _ _ _ => ∃ t, s.taskState.task tid = some t ∧ t.pendingSyscall = none
  | .resume _ _ => True

/-- A fork slot in use: its task is inside the creation syscall the fork was decoded from, and no
child is pending unless the fork holds it. -/
def ForkOk (g : Registry) (fork : PendingFork) : Prop :=
  ∃ t n obs, g.task fork.rawTid = some t ∧ t.phase = .running ∧ t.pendingSyscall = some n ∧
    fork.observation = some obs ∧ obs.Promised n fork.event ∧
    (fork.heldChildRawTid = 0 → t.pendingChildRawTid = 0) ∧
    (fork.heldChildRawTid ≠ 0 → ∃ k rel, g.child fork.heldChildRawTid = some (.announced fork.rawTid k rel))

/-- The planner's tables and the recorder's children say the same. -/
structure Linked (g : Registry) (forks : Table maxTasks PendingFork)
    (stops : Table maxPendingChildStops PendingChildStop) : Prop where
  forkInj : forks.Keyed PendingFork.rawTid
  forkEmpty : ∀ i, (forks i).rawTid = 0 → (forks i).heldChildRawTid = 0
  forkOk : ∀ i, (forks i).rawTid ≠ 0 → ForkOk g (forks i)
  held : ∀ p c k rel, g.child c = some (.announced p k rel) →
    ∃ i, (forks i).rawTid = p ∧ (forks i).heldChildRawTid = c
  stopInj : stops.Keyed PendingChildStop.rawTid
  stopReady : ∀ j, (stops j).rawTid ≠ 0 → g.child (stops j).rawTid = some .ready
  readyStop : ∀ c, g.child c = some .ready → ∃ j, (stops j).rawTid = c

structure Inv (s : SupervisorState) : Prop where
  healthy : s.poisoned = none
  recorder : s.taskState.Inv
  recorderHealthy : s.taskState.poisoned = none
  sequence : s.nextTransportSequence = s.taskState.nextTransportSequence
  started : 0 < s.taskState.slotsUsed
  linked : Linked s.taskState.registry s.pendingForks s.pendingChildStops
  counts : s.pendingChildStopCount ≤ s.awaitingForkEventCount
  exchange : s.ExchangeOk s.exchange

/-! ## Accepted calls -/

/-- A status word of the shape a child's first stop has. -/
def TrapStop (rawStatus : Int32) : Prop :=
  ∃ status, decodeLinuxWaitStatus rawStatus = .ok status ∧ isTrapEventStop status = true

/-- A status word that ends a task. -/
def FinalStatus (rawStatus : Int32) (termination : LinuxWaitTermination) : Prop :=
  decodeLinuxWaitStatus rawStatus = .ok (.final termination)

/-- The recorder accepted `obs` as the next observation. -/
def Records (s : SupervisorState) (obs : Nat → TaskObservation) (r : TaskStateRecorder) : Prop :=
  ∃ ev, TaskStateRecorder.Observed s.taskState (obs s.nextTransportSequence) ev r

/-- The event a task may stop with. -/
def EventExpected (s : SupervisorState) (tid : Int) (event : LinuxPtraceEvent) : Prop :=
  match event with
  | .seccomp => s.taskState.pendingSyscallNumber tid = none
  | .exec => ∃ n, s.taskState.pendingSyscallNumber tid = some n ∧ isExecSyscall n = true
  | .exit => True
  | _ => ∃ i, s.pendingForkIndex tid = some i ∧ (s.pendingForks i).heldChildRawTid = 0 ∧
      (s.pendingForks i).event = event

def isForkEvent : LinuxPtraceEvent → Bool
  | .fork => true
  | .vfork => true
  | .clone => true
  | _ => false

/-- The one resume a finished stop asks for. -/
def oneResume (s : SupervisorState) (tid : Int) (generation : Nat) (request : ResumeRequest) : ResumeCursor :=
  .one (s.resumeStep tid generation request)

/-- The two resumes of a birth. -/
def birthResume (s : SupervisorState) (child : Int) (childGeneration : Nat) (parent : Int)
    (parentGeneration : Nat) : ResumeCursor :=
  .childThenParent (s.resumeStep child childGeneration .continue) (s.resumeStep parent parentGeneration .syscall)

/-- The planner waits for `cursor`'s current step to be confirmed. -/
def resuming (s : SupervisorState) (cursor : ResumeCursor) : SupervisorState :=
  s.withExchange (.resume s.sessionBrand cursor)

/-- The stop whose permit or argument copy the planner waits for. -/
def AtEntry (s : SupervisorState) (tid : Int) (generation : Nat) : Prop :=
  (∃ b, s.exchange = .seccompPermit b tid generation) ∨
    ∃ b address count, s.exchange = .clone3ArgsRead b tid generation address count

/-- The calls that complete a syscall entry. -/
def isEntryCall : SupervisorCall → Bool
  | .consumeStoppedSeccompPermit _ _ => true
  | .acceptClone3ArgsRead _ _ _ => true
  | _ => false

/-- The ways a call is accepted. -/
inductive Accepts (s : SupervisorState) : SupervisorCall → Intent → SupervisorState → Prop
  | reap {tid : Int} {status : Int32} {sink : EventSink} {term : LinuxWaitTermination} {r : TaskStateRecorder}
      (hx : s.exchange = .none) (hfinal : FinalStatus status term)
      (hrec : s.Records (.terminalReap · tid term) r)
      (hcount : ((s.stopped.recorded r).withoutPendingFork tid).pendingChildStopCount ≤
        ((s.stopped.recorded r).withoutPendingFork tid).awaitingForkEventCount) :
      Accepts s (.observeWait tid status sink) .waitForNextStop ((s.stopped.recorded r).withoutPendingFork tid)
  | syscallStop {tid : Int} {status : Int32} {sink : EventSink} {n : Nat} (hx : s.exchange = .none)
      (hstatus : decodeLinuxWaitStatus status = .ok .syscallEntryOrExitStop)
      (hn : s.taskState.pendingSyscallNumber tid = some n) :
      Accepts s (.observeWait tid status sink)
        (.readSyscallInfo ⟨s.sessionBrand, tid, s.nextStopGeneration, .syscallExit⟩)
        (s.stopped.withExchange (.syscallInfo s.sessionBrand tid s.nextStopGeneration .syscallExit))
  | eventStop {tid : Int} {status : Int32} {sink : EventSink} {event : LinuxPtraceEvent} {t : TaskSlot}
      (hx : s.exchange = .none) (hstatus : decodeLinuxWaitStatus status = .ok (.ptraceEvent event))
      (ht : s.taskState.task tid = some t) (hok : s.EventExpected tid event) :
      Accepts s (.observeWait tid status sink)
        (.readEventMessage ⟨s.sessionBrand, tid, s.nextStopGeneration, event⟩)
        (s.stopped.withExchange (.eventMessage s.sessionBrand tid s.nextStopGeneration event))
  | childEarly {tid : Int} {status : Int32} {sink : EventSink} {j : Fin maxPendingChildStops}
      {r : TaskStateRecorder} (hx : s.exchange = .none) (htrap : TrapStop status) (hpos : 0 < tid)
      (hnew : s.taskState.task tid = none) (hchild : s.taskState.child tid = none)
      (hcount : s.pendingChildStopCount < s.awaitingForkEventCount) (hj : (s.pendingChildStops j).rawTid = 0)
      (hrec : s.Records (.childReady · tid) r) :
      Accepts s (.observeWait tid status sink) .waitForNextStop
        ((s.stopped.recorded r).withStop j ⟨tid, s.nextStopGeneration⟩)
  | childExact {tid : Int} {status : Int32} {sink : EventSink} {i : Fin maxTasks} {r : TaskStateRecorder}
      (hx : s.exchange = .none) (htrap : TrapStop status) (hpos : 0 < tid)
      (hi : (s.pendingForks i).heldChildRawTid = tid) (hrec : s.Records (.childReady · tid) r) :
      Accepts s (.observeWait tid status sink)
        (.resume (resumeIntent (s.birthResume tid s.nextStopGeneration (s.pendingForks i).rawTid
          (s.pendingForks i).heldParentStopGeneration)))
        (((s.stopped.recorded r).withFork i .empty).resuming (s.birthResume tid s.nextStopGeneration
          (s.pendingForks i).rawTid (s.pendingForks i).heldParentStopGeneration))
  | seccompEvent {token : EventMessageRead} {bytes : Table 8 UInt8} {sink : EventSink} {b : Nat} {tid : Int} {g : Nat}
      (hx : s.exchange = .eventMessage b tid g .seccomp) (htoken : token = ⟨b, tid, g, .seccomp⟩) :
      Accepts s (.acceptEventMessage token bytes sink) (.readSyscallInfo ⟨s.sessionBrand, tid, g, .seccompEntry⟩)
        (s.withExchange (.syscallInfo s.sessionBrand tid g .seccompEntry))
  | announceEarly {token : EventMessageRead} {bytes : Table 8 UInt8} {sink : EventSink} {b : Nat} {p c : Int} {g : Nat}
      {event : LinuxPtraceEvent} {i : Fin maxTasks} {j : Fin maxPendingChildStops}
      {obs : ForkFamilyBirthObservation} {r : TaskStateRecorder}
      (hx : s.exchange = .eventMessage b p g event) (htoken : token = ⟨b, p, g, event⟩)
      (hmsg : decodeEventMessage event bytes = .ok (.childTid c)) (hev : isForkEvent event = true) (hc : 0 < c)
      (hi : (s.pendingForks i).rawTid = p) (hi0 : (s.pendingForks i).heldChildRawTid = 0)
      (hobs : (s.pendingForks i).observation = some obs) (hj : (s.pendingChildStops j).rawTid = c)
      (hrec : s.Records (.childAnnouncement · p c obs.kind obs.relation) r) :
      Accepts s (.acceptEventMessage token bytes sink)
        (.resume (resumeIntent (s.birthResume c (s.pendingChildStops j).stopGeneration p g)))
        ((((s.recorded r).withStop j .empty).withFork i .empty).resuming
          (s.birthResume c (s.pendingChildStops j).stopGeneration p g))
  | announceHold {token : EventMessageRead} {bytes : Table 8 UInt8} {sink : EventSink} {b : Nat} {p c : Int} {g : Nat}
      {event : LinuxPtraceEvent} {i : Fin maxTasks} {obs : ForkFamilyBirthObservation} {r : TaskStateRecorder}
      (hx : s.exchange = .eventMessage b p g event) (htoken : token = ⟨b, p, g, event⟩)
      (hmsg : decodeEventMessage event bytes = .ok (.childTid c)) (hev : isForkEvent event = true) (hc : 0 < c)
      (hi : (s.pendingForks i).rawTid = p) (hi0 : (s.pendingForks i).heldChildRawTid = 0)
      (hobs : (s.pendingForks i).observation = some obs) (hno : ∀ j, (s.pendingChildStops j).rawTid ≠ c)
      (hcount : s.pendingChildStopCount < s.awaitingForkEventCount)
      (hrec : s.Records (.childAnnouncement · p c obs.kind obs.relation) r) :
      Accepts s (.acceptEventMessage token bytes sink) .waitForNextStop
        (((s.recorded r).withFork i
          { s.pendingForks i with heldChildRawTid := c, heldParentStopGeneration := g }).withExchange .none)
  | exec {token : EventMessageRead} {bytes : Table 8 UInt8} {sink : EventSink} {b : Nat} {tid : Int} {g : Nat}
      {former : Int} {r : TaskStateRecorder} (hx : s.exchange = .eventMessage b tid g .exec)
      (htoken : token = ⟨b, tid, g, .exec⟩) (hrec : s.Records (.exec · tid former) r) :
      Accepts s (.acceptEventMessage token bytes sink) (.resume (resumeIntent (s.oneResume tid g .syscall)))
        ((s.recorded r).resuming (s.oneResume tid g .syscall))
  | exitEvent {token : EventMessageRead} {bytes : Table 8 UInt8} {sink : EventSink} {b : Nat} {tid : Int} {g : Nat}
      {term : LinuxWaitTermination} {r : TaskStateRecorder} (hx : s.exchange = .eventMessage b tid g .exit)
      (htoken : token = ⟨b, tid, g, .exit⟩) (hrec : s.Records (.ptraceExitEvent · tid term) r)
      (hcount : ((s.recorded r).withoutPendingFork tid).pendingChildStopCount ≤
        ((s.recorded r).withoutPendingFork tid).awaitingForkEventCount) :
      Accepts s (.acceptEventMessage token bytes sink) (.resume (resumeIntent (s.oneResume tid g .continue)))
        (((s.recorded r).withoutPendingFork tid).resuming (s.oneResume tid g .continue))
  | permit {token : SyscallInfoRead} {count : Nat} {buffer : SyscallInfoBuffer} {sink : EventSink} {b : Nat}
      {tid : Int} {g : Nat} {frame : DecodedSeccompSyscallInfo}
      (hx : s.exchange = .syscallInfo b tid g .seccompEntry) :
      Accepts s (.acceptSyscallInfo token count buffer sink)
        (.holdStoppedSeccompTask ⟨s.sessionBrand, tid, g, frame⟩)
        (s.withExchange (.seccompPermit s.sessionBrand tid g))
  | syscallExit {token : SyscallInfoRead} {count : Nat} {buffer : SyscallInfoBuffer} {sink : EventSink} {b : Nat}
      {tid : Int} {g : Nat} {result : Int} {r : TaskStateRecorder}
      (hx : s.exchange = .syscallInfo b tid g .syscallExit) (hrec : s.Records (.syscallExit · tid result) r)
      (hcount : ((s.recorded r).withoutPendingFork tid).pendingChildStopCount ≤
        ((s.recorded r).withoutPendingFork tid).awaitingForkEventCount) :
      Accepts s (.acceptSyscallInfo token count buffer sink) (.resume (resumeIntent (s.oneResume tid g .continue)))
        (((s.recorded r).withoutPendingFork tid).resuming (s.oneResume tid g .continue))
  | clone3Read {permit : StoppedSeccompTaskPermit} {sink : EventSink} {b : Nat} {tid : Int} {g : Nat}
      {spec : Clone3ArgsReadSpec} (hx : s.exchange = .seccompPermit b tid g) :
      Accepts s (.consumeStoppedSeccompPermit permit sink)
        (.readClone3Args ⟨s.sessionBrand, tid, g, spec.address, spec.byteCount, permit.frame⟩)
        (s.withExchange (.clone3ArgsRead s.sessionBrand tid g spec.address spec.byteCount))
  | entry {call : SupervisorCall} {tid : Int} {g n : Nat} {r : TaskStateRecorder} (hcall : isEntryCall call = true)
      (hx : s.AtEntry tid g) (hn : isCreationSyscall n = false)
      (hrec : s.Records (.seccompEntry · tid n) r) :
      Accepts s call (.resume (resumeIntent (s.oneResume tid g .syscall)))
        ((s.recorded r).resuming (s.oneResume tid g .syscall))
  | entryFork {call : SupervisorCall} {tid : Int} {g n : Nat} {i : Fin maxTasks} {event : LinuxPtraceEvent}
      {obs : ForkFamilyBirthObservation} {r : TaskStateRecorder} (hcall : isEntryCall call = true)
      (hx : s.AtEntry tid g) (hobs : obs.Promised n event) (hi : (s.pendingForks i).rawTid = 0)
      (hrec : s.Records (.seccompEntry · tid n) r) :
      Accepts s call (.resume (resumeIntent (s.oneResume tid g .syscall)))
        (((s.recorded r).withFork i ⟨tid, event, some obs, 0, 0⟩).resuming (s.oneResume tid g .syscall))
  | confirmNext {intent : ResumeIntent} {b : Nat} {cursor next : ResumeCursor}
      (hx : s.exchange = .resume b cursor) (hintent : intent = resumeIntent cursor)
      (hnext : cursor.advanced = some next) :
      Accepts s (.confirmResumeSucceeded intent) (.resume (resumeIntent next))
        (s.withExchange (.resume b next))
  | confirmLast {intent : ResumeIntent} {b : Nat} {cursor : ResumeCursor} (hx : s.exchange = .resume b cursor)
      (hintent : intent = resumeIntent cursor) (hnext : cursor.advanced = none) :
      Accepts s (.confirmResumeSucceeded intent) .waitForNextStop (s.withExchange .none)

/-! ## Running a method -/

/-- The planner is poisoned with the reason the call returns, and that reason can happen. -/
def Rejected (e : SupervisorReason) (s : SupervisorState) : Prop := s.poisoned = some e ∧ e.unreachable = false

section

variable (hp : s.poisoned = none)

include hp

variable {α : Type} {e : SupervisorReason}

theorem runs_poison {Q : α → SupervisorState → Prop} :
    Runs (poison e : SupervisorM α) s Q Rejected ↔ e.unreachable = false := by
  simp [Runs, poison, hp, Rejected]

theorem runs_poisonIf {c : Prop} [Decidable c] :
    Runs (poisonIf c e) s Q Rejected ↔ (c → e.unreachable = false) ∧ (¬ c → Q () s) := by
  by_cases h : c <;> simp [poisonIf, h, runs_poison hp]

theorem runs_okOrPoison {o : Option α} {Q : α → SupervisorState → Prop} :
    Runs (okOrPoison o e) s Q Rejected ↔ (o = none → e.unreachable = false) ∧ ∀ a, o = some a → Q a s := by
  cases o <;> simp [okOrPoison, runs_poison hp]

theorem runs_decodeOrPoison {ε : Type} {o : Except ε α} {f : ε → SupervisorReason} {Q : α → SupervisorState → Prop} :
    Runs (decodeOrPoison o f) s Q Rejected ↔
      (∀ e, o = .error e → (f e).unreachable = false) ∧ ∀ a, o = .ok a → Q a s := by
  cases o <;> simp [decodeOrPoison, runs_poison hp]

theorem runs_requireHealthy : Runs requireHealthy s Q Rejected ↔ Q () s := by
  simp [requireHealthy, hp]

theorem runs_allocateStopGeneration {Q : Nat → SupervisorState → Prop} (hQ : Q s.nextStopGeneration s.stopped) :
    Runs allocateStopGeneration s Q Rejected := by
  simp only [allocateStopGeneration, runs_bind, runs_get, runs_okOrPoison hp, runs_modify, runs_pure]
  refine ⟨fun _ => rfl, fun next hnext => ?_⟩
  rw [checkedSucc_some hnext]
  exact hQ

theorem runs_removePendingFork {tid : Int}
    (hQ : (s.withoutPendingFork tid).pendingChildStopCount ≤ (s.withoutPendingFork tid).awaitingForkEventCount →
      Q () (s.withoutPendingFork tid)) : Runs (removePendingFork tid) s Q Rejected := by
  have hp' : (s.withoutPendingFork tid).poisoned = none := hp
  simp only [removePendingFork, runs_bind, runs_modify, runs_get, runs_poisonIf hp']
  exact ⟨fun _ => rfl, fun h => hQ (Nat.le_of_not_gt h)⟩

end

theorem Inv.stopped (hi : s.Inv) : s.stopped.Inv :=
  { hi with }

/-- Sending one correlated observation under the next sequence number. -/
theorem runs_record (hi : s.Inv) {obs : Nat → TaskObservation} {sink : EventSink} (hseq : ∀ n, (obs n).sequence = n)
    (hcorr : s.taskState.Correlated (obs s.nextTransportSequence)) (hQ : ∀ r, s.Records obs r → Q () (s.recorded r)) :
    Runs allocateTransportSequence s (fun q t => Runs (emitTask (obs q) sink) t Q Rejected) Rejected := by
  simp only [allocateTransportSequence, runs_bind, runs_get, runs_okOrPoison hi.healthy, runs_modify, runs_pure]
  refine ⟨fun _ => rfl, fun next hnext => ?_⟩
  rw [checkedSucc_some hnext]
  have hobs := observe_runs hi.recorder hi.recorderHealthy (obs s.nextTransportSequence) sink
  unfold Runs emitTask at *
  cases ho : observe (obs s.nextTransportSequence) sink s.taskState with
  | ok ev r =>
    rw [ho] at hobs
    exact hQ r ⟨ev, hobs.1⟩
  | error e r =>
    rw [ho] at hobs
    have hnot := hobs.2 hcorr ((hseq _).trans hi.sequence) hi.started
    simp only [poison, hi.healthy]
    exact ⟨rfl, by simpa [SupervisorReason.unreachable] using hnot⟩

/-! ## Looking up a slot -/

section

variable {tid : Int}

theorem pendingForkIndex_none : s.pendingForkIndex tid = none ↔ ∀ i, (s.pendingForks i).rawTid ≠ tid := by
  simp [pendingForkIndex, Table.position_none]

theorem pendingForkIndex_some (h : s.pendingForkIndex tid = some i) :
    (s.pendingForks i).rawTid = tid := beq_iff_eq.1 (Table.position_some h)

theorem pendingChildStopIndex_none :
    s.pendingChildStopIndex tid = none ↔ ∀ j, (s.pendingChildStops j).rawTid ≠ tid := by
  simp [pendingChildStopIndex, Table.position_none]

theorem pendingChildStopIndex_some {j : Fin maxPendingChildStops} (h : s.pendingChildStopIndex tid = some j) :
    (s.pendingChildStops j).rawTid = tid := beq_iff_eq.1 (Table.position_some h)

end

/-! ## Room in the tables -/

section

variable (hi : s.Inv)

include hi

theorem Inv.exchangeOk {x : PendingExchange} (hx : s.exchange = x) : s.ExchangeOk x :=
  hx ▸ hi.exchange

/-- With every fork slot in use, every task slot holds the live task of some fork. -/
theorem Inv.forks_cover (hall : ∀ i, (s.pendingForks i).rawTid ≠ 0) (k : Fin maxTasks) :
    s.taskState.LiveAt k ∧ ∃ i, (s.taskState.tasks k).rawTid = (s.pendingForks i).rawTid := by
  have hslot : ∀ i, ∃ k, s.taskState.LiveAt k ∧ (s.taskState.tasks k).rawTid = (s.pendingForks i).rawTid := by
    intro i
    obtain ⟨t, n, obs, ht, -⟩ := hi.linked.forkOk i (hall i)
    obtain ⟨k, hl, hraw, -⟩ := (task_eq_some hi.recorder).1 ht
    exact ⟨k, hl, hraw⟩
  choose f hlive hraw using hslot
  have hinj : Function.Injective f := by
    intro i j hij
    refine hi.linked.forkInj i j (hall i) ?_
    rw [← hraw i, ← hraw j, hij]
  obtain ⟨i, rfl⟩ := Finite.injective_iff_surjective.1 hinj k
  exact ⟨hlive i, i, hraw i⟩

theorem Inv.fork_room {tid : Int} {t : TaskSlot} (ht : s.taskState.task tid = some t)
    (hno : ∀ i, (s.pendingForks i).rawTid ≠ tid) : ∃ i, (s.pendingForks i).rawTid = 0 := by
  by_contra hfull
  obtain ⟨k, hl, hraw, -⟩ := (task_eq_some hi.recorder).1 ht
  obtain ⟨-, i, hki⟩ := hi.forks_cover (not_exists.1 hfull) k
  exact hno i (hki.symm.trans hraw)

/-- A child stop always finds a slot: a full table would leave the recorder no room for children. -/
theorem Inv.stop_room (hlt : s.pendingChildStopCount < s.awaitingForkEventCount) :
    ∃ j, (s.pendingChildStops j).rawTid = 0 := by
  by_contra hfull
  have hfull := not_exists.1 hfull
  have hstops : s.pendingChildStopCount = maxPendingChildStops :=
    Table.count_eq_capacity.2 fun j => by simpa [PendingChildStop.isUsed] using hfull j
  have hforks : s.awaitingForkEventCount = maxTasks := by
    have hle : s.awaitingForkEventCount ≤ maxTasks := Table.count_le _ _
    have hm : maxTasks = 256 := rfl
    have hm' : maxPendingChildStops = 255 := rfl
    omega
  have hall : ∀ i, (s.pendingForks i).rawTid ≠ 0 := by
    intro i
    have := Table.count_eq_capacity.1 hforks i
    simp only [PendingFork.isAwaiting, Bool.and_eq_true, bne_iff_ne] at this
    exact this.1
  have hused : 255 < s.taskState.slotsUsed := (hi.forks_cover hall ⟨255, by decide⟩).1.1
  have hready := hi.linked.stopReady ⟨0, by decide⟩ (hfull _)
  obtain ⟨h0, j, hj, -⟩ := (child_eq_some hi.recorder).1 hready
  have hpos : 0 < s.taskState.pendingChildCount := Table.count_pos.2 ⟨j, by simpa [hj] using h0⟩
  have hcap := hi.recorder.capacity
  have hm : maxTasks = 256 := rfl
  omega

end

/-! ## Stops -/

section

variable (hi : s.Inv) {tid : Int} {status : Int32} {sink : EventSink}

include hi

theorem Inv.no_child (hstop : ∀ j, (s.pendingChildStops j).rawTid ≠ tid)
    (hann : ∀ p k g, s.taskState.child tid ≠ some (.announced p k g)) : s.taskState.child tid = none := by
  cases hc : s.taskState.child tid with
  | none => rfl
  | some x =>
    cases x with
    | ready =>
      obtain ⟨j, hj⟩ := hi.linked.readyStop tid hc
      exact absurd hj (hstop j)
    | announced p k g => exact absurd hc (hann p k g)

theorem acceptUnannouncedChildInitialStop_runs (hx : s.exchange = .none) (htrap : TrapStop status) (hpos : 0 < tid)
    (hnew : s.taskState.task tid = none) (hann : ∀ p k g, s.taskState.child tid ≠ some (.announced p k g)) :
    Runs (acceptUnannouncedChildInitialStop tid s.nextStopGeneration sink) s.stopped
      (Accepts s (.observeWait tid status sink)) Rejected := by
  have hi' := hi.stopped
  simp only [acceptUnannouncedChildInitialStop, runs_bind, runs_get, runs_poisonIf hi'.healthy,
    runs_okOrPoison hi'.healthy, emptyPendingChildStopIndex]
  refine ⟨fun _ => rfl, fun hdup => ⟨fun _ => rfl, fun _ => ⟨fun _ => rfl, fun hcount =>
    ⟨fun hfull => ?_, fun j hj => ?_⟩⟩⟩⟩
  · obtain ⟨j, hj⟩ := hi'.stop_room (Nat.lt_of_not_ge hcount)
    exact absurd hj (pendingChildStopIndex_none.1 hfull j)
  · have hstop := pendingChildStopIndex_none.1 (Option.not_isSome_iff_eq_none.1 hdup)
    have hchild := hi'.no_child hstop hann
    refine runs_record hi' (fun _ => rfl) ⟨hpos, hnew, by rw [hchild]; simp⟩ fun r hr => ?_
    exact Accepts.childEarly hx htrap hpos hnew hchild (Nat.lt_of_not_ge hcount) (pendingChildStopIndex_some hj) hr

theorem acceptExactChildInitialStop_runs (hx : s.exchange = .none) (htrap : TrapStop status) (hpos : 0 < tid) :
    Runs (acceptExactChildInitialStop tid s.nextStopGeneration sink) s.stopped
      (Accepts s (.observeWait tid status sink)) Rejected := by
  have hi' := hi.stopped
  simp only [acceptExactChildInitialStop, runs_bind, runs_get, runs_poisonIf hi'.healthy,
    runs_okOrPoison hi'.healthy]
  refine ⟨fun _ => rfl, fun hann => ?_⟩
  obtain ⟨p, k, g, hchild⟩ := (isAnnounced_iff hi'.recorder hpos.ne').1 (by simpa using hann)
  refine ⟨fun hmissing => ?_, fun i hfound => ⟨fun _ => rfl, fun _ => ?_⟩⟩
  · obtain ⟨i, -, hheld⟩ := hi'.linked.held p tid k g hchild
    exact absurd hheld (beq_eq_false_iff_ne.1 (Table.position_none.1 hmissing i))
  · refine runs_record hi' (fun _ => rfl)
      ⟨hpos, task_of_child hi'.recorder hchild, by rw [hchild]; simp⟩ fun r hr => ?_
    exact Accepts.childExact hx htrap hpos (beq_iff_eq.1 (Table.position_some hfound)) hr

theorem validatePtraceEventForTask_runs {event : LinuxPtraceEvent} (hQ : s.EventExpected tid event → Q () s) :
    Runs (validatePtraceEventForTask tid event) s Q Rejected := by
  cases event with
  | seccomp =>
    simp only [validatePtraceEventForTask, runs_bind, runs_get, runs_poisonIf hi.healthy]
    exact ⟨fun _ => rfl, fun h => hQ (Option.not_isSome_iff_eq_none.1 h)⟩
  | exec =>
    simp only [validatePtraceEventForTask, runs_bind, runs_get, runs_poisonIf hi.healthy]
    refine ⟨fun _ => rfl, fun h => hQ ?_⟩
    cases hn : s.taskState.pendingSyscallNumber tid with
    | none => simp [hn] at h
    | some n => exact ⟨n, hn, by simpa [hn] using h⟩
  | exit =>
    exact hQ trivial
  | fork | vfork | clone =>
    simp only [validatePtraceEventForTask, runs_bind, runs_get, runs_okOrPoison hi.healthy, runs_poisonIf hi.healthy]
    refine ⟨fun _ => rfl, fun i hfork => ⟨fun _ => rfl, fun h => hQ ⟨i, hfork, ?_⟩⟩⟩
    simpa using h

theorem observeUnknown_runs (hx : s.exchange = .none) (hdec : decodeLinuxWaitStatus status = .ok st) (hpos : 0 < tid)
    (hnew : s.taskState.task tid = none) (hann : ∀ p k g, s.taskState.child tid ≠ some (.announced p k g)) :
    Runs (observeUnknown tid st sink) s (Accepts s (.observeWait tid status sink)) Rejected := by
  unfold observeUnknown
  split
  · rw [runs_ite, runs_bind]
    refine ⟨fun hshape => ?_, fun _ => (runs_poison hi.healthy).2 rfl⟩
    refine runs_allocateStopGeneration hi.healthy ?_
    exact acceptUnannouncedChildInitialStop_runs hi hx ⟨_, hdec, by simp [isTrapEventStop, hshape]⟩ hpos hnew hann
  · exact (runs_poison hi.healthy).2 rfl

theorem observeKnown_runs (hx : s.exchange = .none) (hdec : decodeLinuxWaitStatus status = .ok st) (hpos : 0 < tid)
    (hknown : (∃ t, s.taskState.task tid = some t) ∨ isTrapEventStop st = true) :
    Runs (observeKnown tid st s.nextStopGeneration sink) s.stopped
      (Accepts s (.observeWait tid status sink)) Rejected := by
  have hi' := hi.stopped
  cases st with
  | final term =>
    have hlive := hknown.resolve_right (by simp [isTrapEventStop])
    simp only [observeKnown, runs_bind]
    refine runs_record hi' (fun _ => rfl) ⟨decodeLinuxWaitStatus_final_valid hdec, hlive⟩ fun r hr => ?_
    refine runs_removePendingFork (s := s.stopped.recorded r) hi'.healthy fun hcount => ?_
    exact .reap hx hdec hr hcount
  | syscallEntryOrExitStop =>
    simp only [observeKnown, issueSyscallInfoRead, setExchange, runs_bind, runs_get, runs_poisonIf hi'.healthy,
      runs_modify, runs_pure]
    refine ⟨fun _ => rfl, fun hn => ?_⟩
    obtain ⟨n, hn⟩ := Option.ne_none_iff_exists'.1 hn
    exact .syscallStop hx hdec hn
  | ptraceEvent event =>
    obtain ⟨t, ht⟩ := hknown.resolve_right (by simp [isTrapEventStop])
    simp only [observeKnown, issueEventMessageRead, setExchange, runs_bind]
    refine validatePtraceEventForTask_runs hi' fun hok => ?_
    exact .eventStop hx hdec ht hok
  | ptraceEventStopRequiringContext candidate =>
    simp only [observeKnown, runs_bind, runs_poisonIf hi'.healthy]
    refine ⟨fun _ => rfl, fun hshape => ?_⟩
    exact acceptExactChildInitialStop_runs hi hx ⟨_, hdec, by simpa [isTrapEventStop] using hshape⟩ hpos
  | eventZeroStopRequiringSiginfo signal | continued => exact (runs_poison hi'.healthy).2 rfl

theorem observeWait_runs :
    Runs (observeWait tid status sink) s (Accepts s (.observeWait tid status sink)) Rejected := by
  simp only [observeWait, runs_bind, runs_get, runs_requireHealthy hi.healthy, runs_poisonIf hi.healthy,
    runs_decodeOrPoison hi.healthy, runs_ite]
  refine ⟨fun _ => rfl, fun hx => ⟨fun _ => rfl, fun hpos => ⟨fun _ _ => rfl, fun st hdec => ⟨fun hunknown => ?_,
    fun hknown => ⟨fun _ => rfl, fun hexact => ?_⟩⟩⟩⟩⟩
  · obtain ⟨hlive, hann⟩ := Bool.or_eq_false_iff.1 hunknown
    have hpos : 0 < tid := Int.lt_of_not_ge hpos
    refine observeUnknown_runs hi (not_not.1 hx) hdec hpos ?_ fun p k g hc => ?_
    · rw [← task_isSome] at hlive
      exact Option.not_isSome_iff_eq_none.1 (by simp [hlive])
    · rw [(isAnnounced_iff hi.recorder hpos.ne').2 ⟨p, k, g, hc⟩] at hann
      cases hann
  · refine runs_allocateStopGeneration hi.healthy ?_
    refine observeKnown_runs hi (not_not.1 hx) hdec (Int.lt_of_not_ge hpos) ?_
    -- an announced child may only stop with the trap of its first stop
    rw [← task_isSome] at hknown hexact
    cases ht : s.taskState.task tid with
    | some t => exact .inl ⟨t, rfl⟩
    | none =>
      rw [ht] at hknown hexact
      simpa using fun h => hexact ⟨by simpa using hknown, rfl, h⟩

/-! ## Event messages -/

variable {token : EventMessageRead} {bytes : Table 8 UInt8} {b g : Nat} {event : LinuxPtraceEvent}

/-- What the recorder needs before a child is announced, from the fork that waits for it. -/
theorem Inv.announcement_correlated {p c : Int} {obs : ForkFamilyBirthObservation} {n : Nat} (hp : p ≠ 0) (hc : 0 < c)
    (hfork : (s.pendingForks i).rawTid = p) (hi0 : (s.pendingForks i).heldChildRawTid = 0)
    (hobs : (s.pendingForks i).observation = some obs) (hother : ¬ ∃ k, k ≠ i ∧ (s.pendingForks k).heldChildRawTid = c) :
    s.taskState.Correlated (.childAnnouncement n p c obs.kind obs.relation) := by
  obtain ⟨t, m, obs', ht, hrun, hm, hobs', hpromise, hfree, -⟩ := hi.linked.forkOk i (by rw [hfork]; exact hp)
  rw [hobs, Option.some.injEq] at hobs'
  subst hobs'
  refine ⟨hc, ⟨t, m, hfork ▸ ht, hrun, hm, hpromise.permitted, hfree hi0⟩, hpromise.group, fun q k g hann => ?_⟩
  obtain ⟨j, -, hheld⟩ := hi.linked.held q c k g hann
  by_cases hji : j = i
  · subst hji
    omega
  · exact hother ⟨j, hji, hheld⟩

theorem acceptForkEventMessage_runs {p c : Int} (hx : s.exchange = .eventMessage b p g event)
    (htoken : token = ⟨b, p, g, event⟩) (hmsg : decodeEventMessage event bytes = .ok (.childTid c))
    (hev : isForkEvent event = true) (hc : 0 < c) :
    Runs (acceptForkEventMessage p g event c sink) s (Accepts s (.acceptEventMessage token bytes sink)) Rejected := by
  obtain ⟨t, ht, -⟩ := hi.exchangeOk hx
  have hp : p ≠ 0 := (task_pos hi.recorder ht).ne'
  simp only [acceptForkEventMessage, runs_bind, runs_get, runs_poisonIf hi.healthy, runs_okOrPoison hi.healthy]
  refine ⟨fun _ => rfl, fun i hfork => ⟨fun _ => rfl, fun obs hobs => ⟨fun _ => rfl, fun hmatch => ⟨fun _ => rfl,
    fun hother => ⟨fun _ => rfl, fun hcount => ?_⟩⟩⟩⟩⟩
  have hfork := pendingForkIndex_some hfork
  have hi0 : (s.pendingForks i).heldChildRawTid = 0 := by
    by_contra h
    exact hmatch (.inr h)
  refine runs_record hi (fun _ => rfl) (hi.announcement_correlated hp hc hfork hi0 hobs hother) fun r hr => ?_
  cases hstop : s.pendingChildStopIndex c with
  | some j =>
    exact Accepts.announceEarly hx htoken hmsg hev hc hfork hi0 hobs (pendingChildStopIndex_some hstop) hr
  | none =>
    refine Accepts.announceHold hx htoken hmsg hev hc hfork hi0 hobs (pendingChildStopIndex_none.1 hstop) ?_ hr
    exact Nat.lt_of_not_ge fun h => hcount ⟨hstop, h⟩

theorem acceptDecodedEventMessage_runs (hx : s.exchange = .eventMessage b tid g event)
    (htoken : token = ⟨b, tid, g, event⟩) {m : DecodedEventMessage} (hmsg : decodeEventMessage event bytes = .ok m) :
    Runs (acceptDecodedEventMessage tid g event m sink) s (Accepts s (.acceptEventMessage token bytes sink))
      Rejected := by
  obtain ⟨t, ht, -, hexec⟩ := hi.exchangeOk hx
  have hm := decodeEventMessage_valid hmsg
  unfold acceptDecodedEventMessage
  split
  · exact Accepts.seccompEvent hx htoken
  iterate 3 · exact acceptForkEventMessage_runs hi hx htoken hmsg rfl hm
  · obtain ⟨n, hn, hexec⟩ := hexec rfl
    simp only [runs_bind]
    refine runs_record hi (fun _ => rfl) ⟨hm, t, n, ht, hn, hexec⟩ fun r hr => ?_
    exact Accepts.exec hx htoken hr
  · simp only [runs_bind]
    refine runs_record hi (fun _ => rfl) ⟨hm, t, ht⟩ fun r hr => ?_
    refine runs_removePendingFork (s := s.recorded r) hi.healthy fun hcount => ?_
    exact Accepts.exitEvent hx htoken hr hcount
  · exact (runs_poison hi.healthy).2 rfl

theorem acceptEventMessage_runs :
    Runs (acceptEventMessage token bytes sink) s (Accepts s (.acceptEventMessage token bytes sink)) Rejected := by
  simp only [acceptEventMessage, runs_bind, runs_get, runs_requireHealthy hi.healthy]
  cases hx : s.exchange with
  | eventMessage b tid g event =>
    simp only [runs_bind, runs_poisonIf hi.healthy, runs_decodeOrPoison hi.healthy]
    refine ⟨fun _ => rfl, fun hmatch => ⟨fun _ _ => rfl, fun m hm => ?_⟩⟩
    refine acceptDecodedEventMessage_runs hi hx ?_ hm
    simp only [not_or, not_not] at hmatch
    obtain ⟨-, hbrand, htid, hgen, hevent⟩ := hmatch
    rw [← hbrand, ← htid, ← hgen, ← hevent]
  | _ => exact (runs_poison hi.healthy).2 rfl

end

/-! ## Syscall info -/

section

variable (hi : s.Inv) {tid : Int} {sink : EventSink} {token : SyscallInfoRead} {count : Nat}
  {buffer : SyscallInfoBuffer} {b g : Nat} {kind : SyscallInfoKind}

include hi

theorem acceptDecodedSyscallInfo_runs (hx : s.exchange = .syscallInfo b tid g kind) (info : DecodedSyscallInfo) :
    Runs (acceptDecodedSyscallInfo tid g kind info sink) s (Accepts s (.acceptSyscallInfo token count buffer sink))
      Rejected := by
  obtain ⟨t, ht, -, hexit⟩ := hi.exchangeOk hx
  unfold acceptDecodedSyscallInfo
  split
  · exact Accepts.permit hx
  · obtain ⟨n, hn⟩ := hexit rfl
    simp only [runs_bind]
    refine runs_record hi (fun _ => rfl) ⟨t, n, ht, hn⟩ fun r hr => ?_
    refine runs_removePendingFork (s := s.recorded r) hi.healthy fun hcount => ?_
    exact Accepts.syscallExit hx hr hcount
  · exact (runs_poison hi.healthy).2 rfl

theorem acceptSyscallInfo_runs :
    Runs (acceptSyscallInfo token count buffer sink) s (Accepts s (.acceptSyscallInfo token count buffer sink))
      Rejected := by
  simp only [acceptSyscallInfo, runs_bind, runs_get, runs_requireHealthy hi.healthy]
  cases hx : s.exchange with
  | syscallInfo b tid g kind =>
    simp only [runs_bind, runs_poisonIf hi.healthy, runs_decodeOrPoison hi.healthy]
    exact ⟨fun _ => rfl, fun _ => ⟨fun _ _ => rfl, fun info _ => acceptDecodedSyscallInfo_runs hi hx info⟩⟩
  | _ => exact (runs_poison hi.healthy).2 rfl

end

/-! ## Syscall entries -/

variable {n : Nat} {arguments : Table 6 UInt64} {fork : Option (LinuxPtraceEvent × ForkFamilyBirthObservation)}

/-- The capture a supervisor holds when it looks for the event. -/
def captured : Option (Nat × Table clone3ArgsBufferBytes UInt8) → Clone3ArgsCapture
  | some (copiedByteCount, buffer) => .exact copiedByteCount buffer
  | none => .notApplicable

/-- Trying the three events in turn finds the one of the birth. -/
theorem decodePendingFork_eq (copied : Option (Nat × Table clone3ArgsBufferBytes UInt8)) :
    decodePendingFork n arguments copied = if isCreationSyscall n = false then .ok none else
      match decodeForkFamilyBirth n arguments (captured copied) with
      | .ok birth => .ok (some (birth.kind.event, birth))
      | .error e => .error (.forkFamilyDecode e) := by
  show (if _ then _ else decodePendingFork.tryEvents n arguments (captured copied) _) = _
  simp only [decodePendingFork.tryEvents, decodeForkFamilyEntry_eq]
  cases decodeForkFamilyBirth n arguments (captured copied) with
  | error e => cases e <;> rfl
  | ok birth =>
    obtain ⟨kind, relation⟩ := birth
    cases kind <;> rfl

theorem decodePendingFork_error {e : SupervisorReason} (h : decodePendingFork n arguments copied = .error e) :
    e.unreachable = false := by
  rw [decodePendingFork_eq] at h
  split_ifs at h
  split at h <;> cases h
  rfl

/-- A creation entry is recorded with the birth it promises, every other entry without. -/
theorem decodePendingFork_ok (h : decodePendingFork n arguments copied = .ok fork) :
    (fork = none ∧ isCreationSyscall n = false) ∨
      ∃ event obs, fork = some (event, obs) ∧ obs.Promised n event := by
  rw [decodePendingFork_eq] at h
  split_ifs at h with hn
  · cases h
    exact .inl ⟨rfl, hn⟩
  · split at h <;> cases h
    exact .inr ⟨_, _, rfl, decodeForkFamilyEntry_promised (decodeForkFamilyEntry_ok.2 ⟨‹_›, rfl⟩)⟩

section

variable (hi : s.Inv) {tid : Int} {sink : EventSink} {g : Nat}

include hi

theorem Inv.entry_task (hx : s.AtEntry tid g) : ∃ t, s.taskState.task tid = some t ∧ t.pendingSyscall = none := by
  rcases hx with ⟨b, hx⟩ | ⟨b, address, count, hx⟩ <;> exact hi.exchangeOk hx

/-- A task about to enter a syscall has no fork. -/
theorem Inv.no_fork {t : TaskSlot} (ht : s.taskState.task tid = some t) (hn : t.pendingSyscall = none) :
    ∀ i, (s.pendingForks i).rawTid ≠ tid := by
  rintro i rfl
  have h0 : (s.pendingForks i).rawTid ≠ 0 := (task_pos hi.recorder ht).ne'
  obtain ⟨t', n, obs, ht', -, hn', -⟩ := hi.linked.forkOk i h0
  obtain rfl : t = t' := Option.some.inj (ht.symm.trans ht')
  rw [hn] at hn'
  cases hn'

theorem finishStoppedSeccompFrame_runs {call : SupervisorCall} (hcall : isEntryCall call = true)
    (hx : s.AtEntry tid g) (frame : DecodedSeccompSyscallInfo)
    (capture : Option (Nat × Table clone3ArgsBufferBytes UInt8)) :
    Runs (finishStoppedSeccompFrame tid g frame capture sink) s (Accepts s call) Rejected := by
  obtain ⟨t, ht, hn⟩ := hi.entry_task hx
  have hno := hi.no_fork ht hn
  simp only [finishStoppedSeccompFrame, runs_bind, runs_get, runs_decodeOrPoison hi.healthy]
  refine ⟨fun e he => decodePendingFork_error he, fun fork hfork => ?_⟩
  rcases decodePendingFork_ok hfork with ⟨rfl, hcreate⟩ | ⟨event, obs, rfl, hobs⟩
  · simp only [runs_bind]
    refine runs_record hi (fun _ => rfl) ⟨t, ht, hn⟩ fun r hr => ?_
    exact Accepts.entry hcall hx hcreate hr
  · simp only [runs_bind, runs_poisonIf hi.healthy, runs_okOrPoison hi.healthy]
    refine ⟨fun hdup => ?_, fun _ => ⟨fun hfull => ?_, fun i hempty => ?_⟩⟩
    · rw [pendingForkIndex_none.2 hno] at hdup
      cases hdup
    · obtain ⟨i, h0⟩ := hi.fork_room ht hno
      exact absurd h0 (pendingForkIndex_none.1 hfull i)
    · refine runs_record hi (fun _ => rfl) ⟨t, ht, hn⟩ fun r hr => ?_
      exact Accepts.entryFork hcall hx hobs (pendingForkIndex_some hempty) hr

theorem consumeStoppedSeccompPermit_runs (permit : StoppedSeccompTaskPermit) :
    Runs (consumeStoppedSeccompPermit permit sink) s (Accepts s (.consumeStoppedSeccompPermit permit sink))
      Rejected := by
  simp only [consumeStoppedSeccompPermit, runs_bind, runs_get, runs_requireHealthy hi.healthy]
  cases hx : s.exchange with
  | seccompPermit b tid g =>
    simp only [runs_bind, runs_poisonIf hi.healthy, runs_ite, runs_decodeOrPoison hi.healthy, setExchange, runs_modify,
      runs_pure]
    refine ⟨fun _ => rfl, fun _ => ⟨fun _ => ⟨fun _ _ => rfl, fun spec _ => ?_⟩, fun _ => ?_⟩⟩
    · exact .clone3Read hx
    · exact finishStoppedSeccompFrame_runs hi rfl (.inl ⟨b, hx⟩) permit.frame none
  | _ => exact (runs_poison hi.healthy).2 rfl

theorem acceptClone3ArgsRead_runs (token : Clone3ArgsRead) (capture : Clone3ArgsCapture) :
    Runs (acceptClone3ArgsRead token capture sink) s (Accepts s (.acceptClone3ArgsRead token capture sink))
      Rejected := by
  simp only [acceptClone3ArgsRead, runs_bind, runs_get, runs_requireHealthy hi.healthy]
  cases hx : s.exchange with
  | clone3ArgsRead b tid g address count =>
    simp only [runs_bind, runs_poisonIf hi.healthy, runs_decodeOrPoison hi.healthy]
    refine ⟨fun _ => rfl, fun _ => ⟨fun e he => ?_, fun exact_ _ => ?_⟩⟩
    · cases capture <;> cases he <;> rfl
    · exact finishStoppedSeccompFrame_runs hi rfl (.inr ⟨b, address, count, hx⟩) token.frame (some exact_)
  | _ => exact (runs_poison hi.healthy).2 rfl

/-! ## Resumes -/

theorem confirmResumeSucceeded_runs (intent : ResumeIntent) :
    Runs (confirmResumeSucceeded intent) s (Accepts s (.confirmResumeSucceeded intent)) Rejected := by
  simp only [confirmResumeSucceeded, runs_bind, runs_get, runs_requireHealthy hi.healthy]
  cases hx : s.exchange with
  | resume b cursor =>
    simp only [runs_bind, runs_poisonIf hi.healthy, not_or, not_not]
    refine ⟨fun _ => rfl, ?_⟩
    rintro ⟨_, hbrand, hbrand', hpos, htid, hgen, hreq⟩
    have hintent : intent = resumeIntent cursor := by
      cases intent
      simp_all [resumeIntent]
    cases hnext : cursor.advanced with
    | some next =>
      exact Accepts.confirmNext hx hintent hnext
    | none =>
      exact Accepts.confirmLast hx hintent hnext
  | _ => exact (runs_poison hi.healthy).2 rfl

/-- Every way a call can end. -/
theorem perform_runs (call : SupervisorCall) : Runs call.perform s (Accepts s call) Rejected := by
  cases call with
  | observeWait tid status sink => exact observeWait_runs hi
  | acceptEventMessage token bytes sink => exact acceptEventMessage_runs hi
  | acceptSyscallInfo token count buffer sink => exact acceptSyscallInfo_runs hi
  | consumeStoppedSeccompPermit permit sink => exact consumeStoppedSeccompPermit_runs hi permit
  | acceptClone3ArgsRead token capture sink => exact acceptClone3ArgsRead_runs hi token capture
  | confirmResumeSucceeded intent => exact confirmResumeSucceeded_runs hi intent

end

end SupervisorState

end Again.Tracer
