import Again.Tracer.SupervisorSafety

/-!
# Every accepted stop is resumed once

A stop accepted by `observe_wait` gets a fresh generation. From then on that
generation waits in one place: the exchange, a child-stop slot or a held fork;
it leaves the last of these in one resume intent for the same task. The proof
is an account of the places: every accepted call moves a stop from one to the
next, and only `observe_wait` brings a new one.
-/

namespace Again.Tracer

open Lib SupervisorState Table

variable {s : SupervisorState} {log : List (SupervisorCall × Intent)} {stop : PendingChildStop} {fork : PendingFork}

/-! ## What the log says -/

/-- A status that ends a task leaves no stop behind. -/
def isFinalStatus (rawStatus : Int32) : Bool :=
  match decodeLinuxWaitStatus rawStatus with
  | .ok (.final _) => true
  | _ => false

def isObserveWait : SupervisorCall → Bool
  | .observeWait _ _ _ => true
  | _ => false

/-- The stop a call brings, as raw TID and generation. -/
def stopsOf (generation : Nat) : SupervisorCall → List (Int × Nat)
  | .observeWait tid status _ => if isFinalStatus status then [] else [(tid, generation)]
  | _ => []

/-- The resume an intent asks for. -/
def resumesOf : Intent → List (Int × Nat)
  | .resume intent => [(intent.rawTid, intent.stopGeneration)]
  | _ => []

/-- How many `observe_wait` calls were accepted; each took the next generation. -/
def waitCount : List (SupervisorCall × Intent) → Nat
  | [] => 0
  | entry :: log => waitCount log + (isObserveWait entry.1).toNat

/-- The stops accepted so far, each under the generation it was given. -/
def acceptedStops : List (SupervisorCall × Intent) → List (Int × Nat)
  | [] => []
  | entry :: log => stopsOf (waitCount log + 1) entry.1 ++ acceptedStops log

/-- The resumes issued so far. -/
def issuedResumes : List (SupervisorCall × Intent) → List (Int × Nat)
  | [] => []
  | entry :: log => resumesOf entry.2 ++ issuedResumes log

/-! ## Where a stop waits -/

/-- The stops an exchange holds back: the one being answered, or the parent queued behind its child. -/
def waitingStops : PendingExchange → List (Int × Nat)
  | .none => []
  | .eventMessage _ tid generation _ => [(tid, generation)]
  | .syscallInfo _ tid generation _ => [(tid, generation)]
  | .seccompPermit _ tid generation => [(tid, generation)]
  | .clone3ArgsRead _ tid generation _ _ => [(tid, generation)]
  | .resume _ (.childThenParent _ parent) => [(parent.rawTid, parent.stopGeneration)]
  | .resume _ (.one _) => []
  | .resume _ (.parent _) => []

attribute [local simp] waitingStops resumesOf oneResume birthResume resumeIntent resumeStep ResumeCursor.current

def stopAt (p : Int × Nat) (stop : PendingChildStop) : Bool :=
  stop.rawTid != 0 && (stop.rawTid, stop.stopGeneration) == p

def heldAt (p : Int × Nat) (fork : PendingFork) : Bool :=
  fork.heldChildRawTid != 0 && (fork.rawTid, fork.heldParentStopGeneration) == p

/-- How often a stop waits in a state. -/
def waitingCount (s : SupervisorState) (p : Int × Nat) : Nat :=
  (waitingStops s.exchange).count p + s.pendingChildStops.count (stopAt p) + s.pendingForks.count (heldAt p)

/-! ## One call -/

theorem count_singleton (x p : Int × Nat) : List.count p [x] = (x == p).toNat := by
  rw [List.count_singleton]
  cases x == p <;> rfl

theorem stopAt_used (h : stop.rawTid ≠ 0) (p : Int × Nat) :
    stopAt p stop = ((stop.rawTid, stop.stopGeneration) == p) := by
  simp only [stopAt, bne_iff_ne.2 h, Bool.true_and]

theorem stopAt_unused (h : stop.rawTid = 0) (p : Int × Nat) : stopAt p stop = false := by
  simp [stopAt, h]

theorem heldAt_held (h : fork.heldChildRawTid ≠ 0) (p : Int × Nat) :
    heldAt p fork = ((fork.rawTid, fork.heldParentStopGeneration) == p) := by
  simp only [heldAt, bne_iff_ne.2 h, Bool.true_and]

theorem heldAt_unheld (h : fork.heldChildRawTid = 0) (p : Int × Nat) : heldAt p fork = false := by
  simp [heldAt, h]

@[simp] theorem stopAt_empty (p : Int × Nat) : stopAt p .empty = false := rfl

@[simp] theorem heldAt_empty (p : Int × Nat) : heldAt p .empty = false := rfl

variable {tid : Int} {call : SupervisorCall} {s' : SupervisorState} {intent : Intent}

theorem count_forksWithout {forks : Table maxTasks PendingFork}
    (h0 : ∀ i, (forks i).rawTid = tid → (forks i).heldChildRawTid = 0) (p : Int × Nat) :
    (forksWithout forks tid).count (heldAt p) = forks.count (heldAt p) := by
  rcases forksWithout_cases forks tid with ⟨i, hi, heq⟩ | ⟨-, heq⟩
  · rw [heq]
    exact count_put_eq ((heldAt_empty p).trans (heldAt_unheld (h0 i hi) p).symm)
  · rw [heq]

theorem isFinalStatus_of_trap {status : Int32} (h : TrapStop status) : isFinalStatus status = false := by
  obtain ⟨st, hst, htrap⟩ := h
  unfold isFinalStatus
  rw [hst]
  cases st <;> first | rfl | cases htrap

theorem atEntry_waiting {g : Nat} (hx : s.AtEntry tid g) : waitingStops s.exchange = [(tid, g)] := by
  rcases hx with ⟨b, h⟩ | ⟨b, address, count, h⟩ <;> rw [h] <;> rfl

theorem entryCall_stops (hcall : isEntryCall call = true) (g : Nat) : stopsOf g call = [] := by
  cases call <;> first | rfl | cases hcall

theorem entryCall_waits (hcall : isEntryCall call = true) : isObserveWait call = false := by
  cases call <;> first | rfl | cases hcall

/-- A task whose syscall returned holds no child. -/
theorem exit_unheld (hi : s.Inv) {result : Int} {r : TaskStateRecorder} (hrec : s.Records (.syscallExit · tid result) r) :
    ∀ i, (s.pendingForks i).rawTid = tid → (s.pendingForks i).heldChildRawTid = 0 := by
  rintro i rfl
  have hstep := hrec.step hi
  generalize r.registry = g' at hstep
  cases hstep with
  | syscallExit ht hrun hn hcreate => exact hi.linked.returned hi.wellFormed ht hn hcreate

/-- A call moves stops between the places: what is waiting afterwards and what was resumed is what
was waiting before and what came in. -/
theorem waitingCount_step (hi : s.Inv) (h : Accepts s call intent s') (p : Int × Nat) :
    waitingCount s' p + (resumesOf intent).count p =
      waitingCount s p + (stopsOf s.nextStopGeneration call).count p := by
  have hw := hi.wellFormed
  unfold waitingCount
  cases h with
  | @reap tid status sink term r hx hfinal hrec hcount =>
    -- the reaped task has no fork, and a final status is no stop
    obtain ⟨hno, -⟩ := hi.linked.terminalReap hw (hrec.step hi)
    have hforks : forksWithout s.pendingForks tid = s.pendingForks := forksWithout_of_none hno
    have hstatus : isFinalStatus status = true := by
      unfold isFinalStatus
      rw [show decodeLinuxWaitStatus status = _ from hfinal]
    simp [stopsOf, resumesOf, hforks, hx, hstatus]
  | @syscallStop tid status sink n hx hstatus hn =>
    -- a new stop enters the exchange
    have hstop : isFinalStatus status = false := by simp [isFinalStatus, hstatus]
    simp [hx, waitingStops, stopsOf, hstop, resumesOf, count_singleton]
    omega
  | @eventStop tid status sink event t hx hstatus ht hok =>
    have hstop : isFinalStatus status = false := by simp [isFinalStatus, hstatus]
    simp [hx, waitingStops, stopsOf, hstop, resumesOf, count_singleton]
    omega
  | @childEarly tid status sink j r hx htrap hpos hnew hchild hcount hj hrec =>
    -- a new stop enters an empty child slot
    have hput := count_put s.pendingChildStops (stopAt p) j ⟨tid, s.nextStopGeneration⟩
    rw [stopAt_unused hj, stopAt_used hpos.ne'] at hput
    simp [hx, waitingStops, stopsOf, isFinalStatus_of_trap htrap, resumesOf, count_singleton] at hput ⊢
    omega
  | @childExact tid status sink i r hx htrap hpos hheld hrec =>
    -- the new stop is resumed at once, and the held parent is queued behind it
    have hput := count_put s.pendingForks (heldAt p) i .empty
    rw [heldAt_empty, heldAt_held (hheld ▸ hpos.ne')] at hput
    simp [hx, stopsOf, isFinalStatus_of_trap htrap, count_singleton, resuming] at hput ⊢
    omega
  | seccompEvent hx | permit hx | clone3Read hx => simp [hx, waitingStops, stopsOf, resumesOf]
  | @announceEarly token bytes sink b parent c g event i j obs r hx htoken hmsg hev hc hp hi0 hobs hj hrec =>
    -- the child's slot is emptied into the resume, the parent's stop stays queued
    have hstops := count_put s.pendingChildStops (stopAt p) j .empty
    have hforks : (s.pendingForks.put i .empty).count (heldAt p) = s.pendingForks.count (heldAt p) :=
      count_put_eq ((heldAt_empty p).trans (heldAt_unheld hi0 p).symm)
    rw [stopAt_empty, stopAt_used (hj ▸ hc.ne'), hj] at hstops
    simp [hx, stopsOf, count_singleton, resuming, hforks] at hstops ⊢
    omega
  | @announceHold token bytes sink b parent c g event i obs r hx htoken hmsg hev hc hp hi0 hobs hno hcount hrec =>
    -- the parent's stop moves from the exchange into its fork
    have hput := count_put s.pendingForks (heldAt p) i
      { s.pendingForks i with heldChildRawTid := c, heldParentStopGeneration := g }
    rw [heldAt_unheld hi0, heldAt_held hc.ne', hp] at hput
    simp [hx, waitingStops, stopsOf, resumesOf, count_singleton] at hput ⊢
    omega
  | exec hx htoken hrec =>
    -- the stop of a task that is not held is resumed from the exchange
    simp [hx, stopsOf, resuming]
    omega
  | @exitEvent token bytes sink b tid g term r hx htoken hrec hcount =>
    obtain ⟨hno, -⟩ := hi.linked.ptraceExit hw (hrec.step hi)
    have hforks : forksWithout s.pendingForks tid = s.pendingForks := forksWithout_of_none hno
    simp [hx, stopsOf, resuming, hforks]
    omega
  | syscallExit hx hrec hcount =>
    -- a fork may be dropped here, but not one that holds a stop
    have hforks := count_forksWithout (exit_unheld hi hrec) p
    simp [hx, stopsOf, resuming, hforks]
    omega
  | entry hcall hx hn hrec =>
    rw [atEntry_waiting hx]
    simp [entryCall_stops hcall, resuming]
    omega
  | @entryFork call tid g n i event obs r hcall hx hobs hi0 hrec =>
    -- the new fork holds nothing yet
    have hforks : (s.pendingForks.put i ⟨tid, event, some obs, 0, 0⟩).count (heldAt p) = s.pendingForks.count (heldAt p) :=
      count_put_eq ((heldAt_unheld rfl p).trans (heldAt_unheld (hi.linked.forkEmpty i hi0) p).symm)
    rw [atEntry_waiting hx]
    simp [entryCall_stops hcall, resuming, hforks]
    omega
  | @confirmNext intent b cursor next hx hintent hnext =>
    -- the queued parent is issued
    cases cursor with
    | one step | parent step => cases hnext
    | childThenParent child parent =>
      cases hnext
      simp [hx, waitingStops, stopsOf, resumesOf, resumeIntent, ResumeCursor.current]
      omega
  | @confirmLast intent b cursor hx hintent hnext =>
    cases cursor with
    | one step | parent step => simp [hx, waitingStops, stopsOf, resumesOf]
    | childThenParent child parent => cases hnext

theorem nextStopGeneration_step (h : Accepts s call intent s') :
    s'.nextStopGeneration = s.nextStopGeneration + (isObserveWait call).toNat := by
  cases h with
  | @entry _ _ _ _ _ hcall | @entryFork _ _ _ _ _ _ _ _ hcall =>
    rw [entryCall_waits hcall]
    rfl
  | _ => rfl

/-! ## Whole sessions -/

/-- The account of a session: every generation handed out belongs to one accepted wait, and the
stops that came in are the ones waiting or resumed. -/
structure Accounted (log : List (SupervisorCall × Intent)) (s : SupervisorState) : Prop where
  generation : s.nextStopGeneration = waitCount log + 1
  balance : ∀ p, waitingCount s p + (issuedResumes log).count p = (acceptedStops log).count p

theorem accounted_begun (h : s.Begun) : Accounted [] s := by
  obtain ⟨brand, tid, ev, r, -, rfl⟩ := begun_eq h
  refine ⟨rfl, fun p => ?_⟩
  have hstops : count (fun _ : Fin maxPendingChildStops => PendingChildStop.empty) (stopAt p) = 0 :=
    count_eq_zero.2 fun _ => rfl
  have hforks : count (fun _ : Fin maxTasks => PendingFork.empty) (heldAt p) = 0 :=
    count_eq_zero.2 fun _ => rfl
  exact congrArg₂ (· + ·) (congrArg₂ (· + ·) (congrArg₂ (· + ·) rfl hstops) hforks) rfl

theorem accounted_step (hi : s.Inv) (h : Accounted log s) (ha : Accepts s call intent s') :
    Accounted ((call, intent) :: log) s' := by
  refine ⟨?_, fun p => ?_⟩
  · rw [nextStopGeneration_step ha, h.generation]
    exact Nat.add_right_comm _ _ _
  · have hstep := waitingCount_step hi ha p
    have hbal := h.balance p
    rw [h.generation] at hstep
    simp only [issuedResumes, acceptedStops, List.count_append]
    omega

theorem acceptedStops_le (log : List (SupervisorCall × Intent)) : ∀ p ∈ acceptedStops log, p.2 ≤ waitCount log := by
  induction log with
  | nil => simp [acceptedStops]
  | cons entry log ih =>
    intro p hp
    rw [acceptedStops, List.mem_append] at hp
    rcases hp with hp | hp
    · -- the new stop has the generation of its own wait
      obtain ⟨call, intent⟩ := entry
      cases call <;> simp only [stopsOf, List.not_mem_nil] at hp
      split at hp
      · cases hp
      · rw [List.mem_singleton.1 hp]
        exact Nat.le_refl _
    · exact (ih p hp).trans (Nat.le_add_right _ _)

theorem acceptedStops_nodup (log : List (SupervisorCall × Intent)) : ((acceptedStops log).map Prod.snd).Nodup := by
  induction log with
  | nil => exact List.nodup_nil
  | cons entry log ih =>
    obtain ⟨call, intent⟩ := entry
    cases call with
    | observeWait tid status sink =>
      simp only [acceptedStops, stopsOf]
      split
      · exact ih
      · refine List.nodup_cons.2 ⟨fun hmem => ?_, ih⟩
        obtain ⟨p, hp, heq⟩ := List.mem_map.1 hmem
        have hle := acceptedStops_le log p hp
        omega
    | _ => exact ih

theorem acceptedStops_inj {p q : Int × Nat} (hp : p ∈ acceptedStops log) (hq : q ∈ acceptedStops log) (h : p.2 = q.2) :
    p = q :=
  List.inj_on_of_nodup_map (acceptedStops_nodup log) hp hq h

theorem acceptedStops_count {p : Int × Nat} (hp : p ∈ acceptedStops log) : (acceptedStops log).count p = 1 :=
  List.count_eq_one_of_mem (acceptedStops_nodup log).of_map hp

/-- Where a stop can be. -/
inductive StopPlace where
  | exchange
  | childStop (slot : Fin maxPendingChildStops)
  | heldFork (slot : Fin maxTasks)
  | resumed

/-- The stop is there. A stop in the current step of a resume exchange is no longer held: its intent
was issued. -/
def StopIn (log : List (SupervisorCall × Intent)) (s : SupervisorState) (p : Int × Nat) : StopPlace → Prop
  | .exchange => p ∈ waitingStops s.exchange
  | .childStop j => (s.pendingChildStops j).rawTid ≠ 0 ∧
      (s.pendingChildStops j).rawTid = p.1 ∧ (s.pendingChildStops j).stopGeneration = p.2
  | .heldFork i => (s.pendingForks i).heldChildRawTid ≠ 0 ∧
      (s.pendingForks i).rawTid = p.1 ∧ (s.pendingForks i).heldParentStopGeneration = p.2
  | .resumed => (issuedResumes log).count p = 1

section

variable {p : Int × Nat}

theorem stopIn_exchange : StopIn log s p .exchange ↔ 0 < (waitingStops s.exchange).count p :=
  List.count_pos_iff.symm

theorem stopIn_childStop {j : Fin maxPendingChildStops} :
    StopIn log s p (.childStop j) ↔ stopAt p (s.pendingChildStops j) = true := by
  simp only [StopIn, stopAt, Bool.and_eq_true, bne_iff_ne, beq_iff_eq, Prod.ext_iff]

theorem stopIn_heldFork {i : Fin maxTasks} : StopIn log s p (.heldFork i) ↔ heldAt p (s.pendingForks i) = true := by
  simp only [StopIn, heldAt, Bool.and_eq_true, bne_iff_ne, beq_iff_eq, Prod.ext_iff]

variable {place : StopPlace}

/-- What is anywhere was accepted. -/
theorem Accounted.accepted_of_stopIn (h : Accounted log s) (hin : StopIn log s p place) : p ∈ acceptedStops log := by
  have hbal := h.balance p
  refine List.count_pos_iff.1 ?_
  unfold waitingCount at hbal
  cases place with
  | exchange =>
    have hpos := stopIn_exchange.1 hin
    omega
  | childStop j =>
    have hpos := count_pos.2 ⟨j, stopIn_childStop.1 hin⟩
    omega
  | heldFork i =>
    have hpos := count_pos.2 ⟨i, stopIn_heldFork.1 hin⟩
    omega
  | resumed =>
    have hone : (issuedResumes log).count p = 1 := hin
    omega

/-- The total of the places is one, so no two of them hold the stop. -/
theorem Accounted.stopIn_unique (h : Accounted log s) (hp : p ∈ acceptedStops log) {place' : StopPlace}
    (hin : StopIn log s p place) (hin' : StopIn log s p place') : place = place' := by
  have hbal := h.balance p
  rw [acceptedStops_count hp] at hbal
  unfold waitingCount at hbal
  have hstops : ∀ j, StopIn log s p (.childStop j) → 0 < s.pendingChildStops.count (stopAt p) :=
    fun j hj => count_pos.2 ⟨j, stopIn_childStop.1 hj⟩
  have hforks : ∀ i, StopIn log s p (.heldFork i) → 0 < s.pendingForks.count (heldAt p) :=
    fun i hi => count_pos.2 ⟨i, stopIn_heldFork.1 hi⟩
  have hresumed : StopIn log s p .resumed → 0 < (issuedResumes log).count p := fun h1 => (Nat.le_of_eq (Eq.symm h1))
  have hexchange : StopIn log s p .exchange → 0 < (waitingStops s.exchange).count p := stopIn_exchange.1
  cases place <;> cases place'
  case childStop.childStop j k =>
    rw [count_le_one (by omega) (stopIn_childStop.1 hin) (stopIn_childStop.1 hin')]
  case heldFork.heldFork j k =>
    rw [count_le_one (by omega) (stopIn_heldFork.1 hin) (stopIn_heldFork.1 hin')]
  all_goals grind

theorem Accounted.stopIn_exists (h : Accounted log s) (hp : p ∈ acceptedStops log) : ∃ place, StopIn log s p place := by
  have hbal := h.balance p
  rw [acceptedStops_count hp] at hbal
  unfold waitingCount at hbal
  by_cases hx : 0 < (waitingStops s.exchange).count p
  · exact ⟨.exchange, stopIn_exchange.2 hx⟩
  by_cases hs : 0 < s.pendingChildStops.count (stopAt p)
  · obtain ⟨j, hj⟩ := count_pos.1 hs
    exact ⟨.childStop j, stopIn_childStop.2 hj⟩
  by_cases hf : 0 < s.pendingForks.count (heldAt p)
  · obtain ⟨i, hi⟩ := count_pos.1 hf
    exact ⟨.heldFork i, stopIn_heldFork.2 hi⟩
  · refine ⟨.resumed, ?_⟩
    show (issuedResumes log).count p = 1
    omega

/-- Every resume was issued for an accepted stop, and no generation twice. -/
theorem Accounted.issued (h : Accounted log s) :
    ((issuedResumes log).map Prod.snd).Nodup ∧ ∀ q ∈ issuedResumes log, q ∈ acceptedStops log := by
  have hle : ∀ q, (issuedResumes log).count q ≤ (acceptedStops log).count q := fun q => by
    have hbal := h.balance q
    omega
  have hsub : ∀ q ∈ issuedResumes log, q ∈ acceptedStops log := fun q hq =>
    List.count_pos_iff.1 ((List.count_pos_iff.2 hq).trans_le (hle q))
  refine ⟨List.Nodup.map_on (fun q hq q' hq' heq => ?_) ?_, hsub⟩
  · exact acceptedStops_inj (hsub q hq) (hsub q' hq') heq
  · refine List.nodup_iff_count_le_one.2 fun q => (hle q).trans ?_
    exact List.nodup_iff_count_le_one.1 (acceptedStops_nodup log).of_map q

/-- An accepted stop is conserved. While the session is healthy its generation is in one place, under
the TID it came from; over the whole session no generation is resumed twice, and nothing is resumed
that was not accepted. -/
theorem supervisor_run_conserves (h : SupervisorRun log s) :
    (s.poisoned = none → s.nextStopGeneration = waitCount log + 1 ∧ ∀ p ∈ acceptedStops log,
      (∃! place, StopIn log s p place) ∧ ∀ tid place, StopIn log s (tid, p.2) place → tid = p.1) ∧
    ((issuedResumes log).map Prod.snd).Nodup ∧ ∀ p ∈ issuedResumes log, p ∈ acceptedStops log := by
  obtain ⟨hhealthy, -, s₀, -, h₀⟩ := run_kept (P := Accounted) (fun _ => accounted_begun)
    (fun log s call intent s' hi hP ha => accounted_step hi hP ha) h
  refine ⟨fun hp => ?_, h₀.issued⟩
  obtain ⟨-, hacc⟩ := hhealthy hp
  refine ⟨hacc.generation, fun p hin => ⟨?_, fun tid place hplace => ?_⟩⟩
  · obtain ⟨place, hplace⟩ := hacc.stopIn_exists hin
    exact ⟨place, hplace, fun place' hplace' => hacc.stopIn_unique hin hplace' hplace⟩
  · exact congrArg Prod.fst (acceptedStops_inj (hacc.accepted_of_stopIn hplace) hin rfl)

end

/-- Task 100 forks child 101 and both are resumed. -/
def birthCalls : List SupervisorCall :=
  forkCalls ++ [.observeWait 101 0x80057f fun _ => true, .confirmResumeSucceeded ⟨1, .onlyOrChild, 101, 3, .continue⟩,
    .confirmResumeSucceeded ⟨1, .parent, 100, 2, .syscall⟩]

/-- After a birth all three stops are resumed, the held parent's last. -/
theorem supervisor_run_conserves_birth : ∃ log s, SupervisorRun log s ∧ s.poisoned = none ∧
    acceptedStops log = [(101, 3), (100, 2), (100, 1)] ∧ issuedResumes log = [(100, 2), (101, 3), (100, 1)] ∧
    (∀ p ∈ acceptedStops log, ∃! place, StopIn log s p place) := by
  obtain ⟨log, s, hrun, hcheck⟩ := played_run birthCalls (fun log s => s.poisoned.isNone &&
    acceptedStops log == [(101, 3), (100, 2), (100, 1)] && issuedResumes log == [(100, 2), (101, 3), (100, 1)])
    (by decide +kernel)
  simp only [Bool.and_eq_true, Option.isNone_iff_eq_none, beq_iff_eq] at hcheck
  obtain ⟨⟨hp, hacc⟩, hiss⟩ := hcheck
  exact ⟨log, s, hrun, hp, hacc, hiss, fun p hin => (((supervisor_run_conserves hrun).1 hp).2 p hin).1⟩

end Again.Tracer
