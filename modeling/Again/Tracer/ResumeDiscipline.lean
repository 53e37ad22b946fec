import Again.Tracer.Conservation

/-!
# Which resume a task runs under

A task inside a syscall was last resumed with `Syscall`, so that its exit is
seen; any other task was last resumed with `Continue`. The planner never
stores this: it follows from what each accepted call records about the task
and which request it then issues. Only the steps of a resume still being
confirmed are exempt.
-/

namespace Again.Tracer

open Lib SupervisorState TaskStateRecorder

variable {term : LinuxWaitTermination} {c p : Int} {kind : TaskChildBirthKind} {request : ResumeRequest}
  {rel : TaskGroupRelation} {cursor : ResumeCursor}

variable {call : SupervisorCall} {log : List (SupervisorCall × Intent)} {tid : Int} {s : SupervisorState}

/-! ## Lifetimes -/

/-- The call reaped `tid`. -/
def endsTask (tid : Int) : SupervisorCall → Bool
  | .observeWait u status _ => u == tid && isFinalStatus status
  | _ => false

/-- The call confirmed a resume of `tid`. -/
def confirmedRequest (tid : Int) : SupervisorCall → Option ResumeRequest
  | .confirmResumeSucceeded intent => if intent.rawTid = tid then some intent.request else none
  | _ => none

/-- The last confirmed resume request of `tid` since it was last reaped. -/
def lastConfirmed (tid : Int) : List (SupervisorCall × Intent) → Option ResumeRequest
  | [] => none
  | entry :: log => if endsTask tid entry.1 then none else confirmedRequest tid entry.1 <|> lastConfirmed tid log

theorem lastConfirmed_skip {intent : Intent} (hend : endsTask tid call = false)
    (hconf : confirmedRequest tid call = none) : lastConfirmed tid ((call, intent) :: log) = lastConfirmed tid log := by
  simp [lastConfirmed, hend, hconf]

/-- A call that neither reaps a task nor confirms a resume. -/
def isQuiet : SupervisorCall → Bool
  | .observeWait _ status _ => !isFinalStatus status
  | .confirmResumeSucceeded _ => false
  | _ => true

theorem lastConfirmed_quiet (h : isQuiet call = true) (intent : Intent) (log : List (SupervisorCall × Intent))
    (tid : Int) : lastConfirmed tid ((call, intent) :: log) = lastConfirmed tid log := by
  cases call with
  | confirmResumeSucceeded i => cases h
  | observeWait u status sink =>
    have hstop : isFinalStatus status = false := by simpa [isQuiet] using h
    exact lastConfirmed_skip (by simp [endsTask, hstop]) rfl
  | _ => exact lastConfirmed_skip rfl rfl

theorem quiet_of_entryCall (h : isEntryCall call = true) : isQuiet call = true := by
  cases call <;> first | rfl | cases h

/-! ## The invariant -/

def ResumeCursor.steps : ResumeCursor → List ResumeStep
  | .one step => [step]
  | .childThenParent first second => [first, second]
  | .parent step => [step]

theorem ResumeCursor.steps_next {next : ResumeCursor} (h : cursor.advanced = some next) :
    cursor.steps = cursor.current.1 :: next.steps := by
  cases cursor <;> cases h
  rfl

theorem ResumeCursor.steps_last (h : cursor.advanced = none) : cursor.steps = [cursor.current.1] := by
  cases cursor <;> first | rfl | cases h

/-- The resumes still to be confirmed. -/
def exchangeSteps : PendingExchange → List ResumeStep
  | .resume _ cursor => cursor.steps
  | _ => []

/-- The request fits what the recorder knows of a task: `Syscall` inside a syscall, `Continue` outside
and after the exit event. -/
structure Fits (t : TaskSlot) (request : ResumeRequest) : Prop where
  syscall : request = .syscall ↔ t.pendingSyscall ≠ none
  exited : t.phase = .exitObserved → request = .continue

structure Disciplined (log : List (SupervisorCall × Intent)) (s : SupervisorState) : Prop where
  steps : ∀ step ∈ exchangeSteps s.exchange, ∃ t, s.taskState.task step.rawTid = some t ∧ Fits t step.request
  unborn : ∀ tid, s.taskState.task tid = none → lastConfirmed tid log = none
  settled : ∀ tid t, s.taskState.task tid = some t → (∀ step ∈ exchangeSteps s.exchange, step.rawTid ≠ tid) →
    ∀ request, lastConfirmed tid log = some request → Fits t request
  exited : ∀ tid t, s.taskState.task tid = some t → (∀ step ∈ exchangeSteps s.exchange, step.rawTid ≠ tid) →
    t.phase = .exitObserved → lastConfirmed tid log ≠ none

/-- The tasks a call does not resume are in the syscall they were in. -/
def Undisturbed (task task' : Int → Option TaskSlot) (tid : Int) : Prop :=
  ∀ t', task' tid = some t' → ∃ t, task tid = some t ∧ t'.pendingSyscall = t.pendingSyscall ∧ t'.phase = t.phase

/-- A call that leaves the log's confirmations alone: the tasks it changes are the ones it resumes. -/
theorem Disciplined.quiet {s' : SupervisorState} {intent : Intent} (h : Disciplined log s)
    (hx : exchangeSteps s.exchange = []) (hcall : isQuiet call = true)
    (hsteps : ∀ step ∈ exchangeSteps s'.exchange, ∃ t, s'.taskState.task step.rawTid = some t ∧ Fits t step.request)
    (hborn : ∀ tid, s'.taskState.task tid = none → s.taskState.task tid = none)
    (hsame : ∀ tid, (∀ step ∈ exchangeSteps s'.exchange, step.rawTid ≠ tid) →
      Undisturbed s.taskState.task s'.taskState.task tid) : Disciplined ((call, intent) :: log) s' := by
  have hfree : ∀ tid, ∀ step ∈ exchangeSteps s.exchange, step.rawTid ≠ tid := by simp [hx]
  refine ⟨hsteps, fun tid hnone => ?_, fun tid t' ht' hout request hlast => ?_, fun tid t' ht' hout hphase => ?_⟩
  · rw [lastConfirmed_quiet hcall]
    exact h.unborn tid (hborn tid hnone)
  · rw [lastConfirmed_quiet hcall] at hlast
    obtain ⟨t, ht, hpending, hp⟩ := hsame tid hout t' ht'
    obtain ⟨hsys, hexit⟩ := h.settled tid t ht (hfree tid) request hlast
    exact ⟨hpending ▸ hsys, hp ▸ hexit⟩
  · rw [lastConfirmed_quiet hcall]
    obtain ⟨t, ht, -, hp⟩ := hsame tid hout t' ht'
    exact h.exited tid t ht (hfree tid) (hp ▸ hphase)

theorem atEntry_steps {g : Nat} (hx : s.AtEntry tid g) : exchangeSteps s.exchange = [] := by
  rcases hx with ⟨b, h⟩ | ⟨b, address, count, h⟩ <;> rw [h] <;> rfl

/-! ## What an observation leaves behind -/

/-- Only `tid` changed, and `request` fits it now. -/
def Resumed (g g' : Registry) (tid : Int) (request : ResumeRequest) : Prop :=
  (∃ t, g'.task tid = some t ∧ Fits t request) ∧ ∀ u, u ≠ tid → g'.task u = g.task u

theorem resumed_setTask {g : Registry} {t : TaskSlot} (h : Fits t request) : Resumed g (g.setTask tid t) tid request :=
  ⟨⟨t, Function.update_self _ _ _, h⟩, fun _ hu => Function.update_of_ne hu _ _⟩

section

variable {g g' : Registry} {n : Nat}

theorem exec_resumed {former : Int} (h : g.Step (.exec n tid former) g') : Resumed g g' tid .syscall := by
  cases h with
  | exec ht hrun hn hexec => exact resumed_setTask ⟨by simp [hn], by simp [hrun]⟩

theorem seccompEntry_resumed {m : Nat} (h : g.Step (.seccompEntry n tid m) g') : Resumed g g' tid .syscall := by
  cases h with
  | seccompEntry ht hrun hn => exact resumed_setTask ⟨by simp, by simp [clearPending, hrun]⟩

theorem syscallExit_resumed {result : Int} (h : g.Step (.syscallExit n tid result) g') :
    Resumed g g' tid .continue := by
  cases h with
  | syscallExit ht hrun hn hcreate => exact resumed_setTask ⟨by simp [clearPending], fun _ => rfl⟩

theorem ptraceExit_resumed (h : g.Step (.ptraceExitEvent n tid term) g') : Resumed g g' tid .continue := by
  cases h with
  | ptraceExit ht hrun hres => exact resumed_setTask ⟨by simp [clearPending], fun _ => rfl⟩

theorem reaped_task (h : g.Step (.terminalReap n tid term) g') : g'.task = Function.update g.task tid none := by
  cases h
  rfl

theorem ready_task (hnone : g.child c = none) (h : g.Step (.childReady n c) g') : g'.task = g.task := by
  cases h with
  | ready hc hnew habs => rfl
  | readyAnnounced hc hnew hann => cases hnone.symm.trans hann

/-- The child `c` is a new task outside any syscall, and its parent `p` is inside the one that
created it. -/
structure Born (g g' : Registry) (p c : Int) : Prop where
  child : ∃ t, g'.task c = some t ∧ Fits t .continue
  parent : ∃ t, g'.task p = some t ∧ Fits t .syscall
  others : ∀ u, u ≠ p → u ≠ c → g'.task u = g.task u

theorem born_birth {t u : TaskSlot} (hpc : p ≠ c) (ht : Fits t .syscall) (hu : Fits u .continue) :
    Born g (g.birth p t c u) p c where
  child := ⟨u, Function.update_self _ _ _, hu⟩
  parent := ⟨t, by simp [Registry.birth, hpc], ht⟩
  others := fun v hp hc => by simp [Registry.birth, hp, hc]

theorem fits_newTask {id : Nat} {group : Option Nat} : Fits (newTask id c group) .continue := by
  exact ⟨by simp [newTask], fun _ => rfl⟩

theorem announceReady_born (hready : g.child c = some .ready) (h : g.Step (.childAnnouncement n p c kind rel) g') :
    Born g g' p c := by
  cases h with
  | announce hpc hc ht hrun hn hk h0 hnew habs => cases hready.symm.trans habs
  | announceReady hpc hc ht hrun hn => exact born_birth hpc ⟨by simp [hn], by simp [hrun]⟩ fits_newTask

theorem readyAnnounced_born (hann : g.child c = some (.announced p kind rel)) (h : g.Step (.childReady n c) g') :
    Born g g' p c := by
  cases h with
  | ready hc hnew habs => cases hann.symm.trans habs
  | readyAnnounced hc hnew hann' ht hrun hk htid =>
    obtain ⟨rfl, -, -⟩ : p = _ ∧ _ ∧ _ := by simpa using hann.symm.trans hann'
    refine born_birth (fun heq => ?_) ?_ fits_newTask
    · rw [heq] at ht
      cases hnew.symm.trans ht
    · -- the kind of an announcement is only permitted inside a creation syscall
      refine ⟨⟨fun _ hnone => ?_, fun _ => rfl⟩, by simp [hrun]⟩
      rw [hnone] at hk
      cases hk

end

/-! ## One call -/

section

variable {s' : SupervisorState} {intent : Intent}

/-- No observation was made and no resume issued. -/
theorem Disciplined.unrecorded (h : Disciplined log s) (hx : exchangeSteps s.exchange = [])
    (hcall : isQuiet call = true) (hx' : exchangeSteps s'.exchange = []) (hr : s'.taskState = s.taskState) :
    Disciplined ((call, intent) :: log) s' := by
  refine h.quiet hx hcall (by simp [hx']) (fun u hu => hr ▸ hu) fun u _ t ht => ⟨t, hr ▸ ht, rfl, rfl⟩

/-- One resume follows the observation. -/
theorem Disciplined.resumed (h : Disciplined log s) (hx : exchangeSteps s.exchange = []) (hcall : isQuiet call = true)
    {b tid g : _} (hx' : s'.exchange = .resume b (s.oneResume tid g request))
    (hr : Resumed s.taskState.registry s'.taskState.registry tid request) : Disciplined ((call, intent) :: log) s' := by
  obtain ⟨⟨t, ht, hfits⟩, hother⟩ := hr
  have hsteps : exchangeSteps s'.exchange = [s.resumeStep tid g request] := by rw [hx']; rfl
  refine h.quiet hx hcall ?_ (fun u hnone => ?_) fun u hout t' ht' => ?_
  · rw [hsteps]
    exact List.forall_mem_singleton.2 ⟨t, ht, hfits⟩
  · by_cases hu : u = tid
    · rw [hu] at hnone
      cases hnone.symm.trans ht
    · exact (hother u hu).symm.trans hnone
  · have hu : u ≠ tid := fun heq => hout _ (hsteps ▸ List.mem_singleton_self _) heq.symm
    exact ⟨t', (hother u hu).symm.trans ht', rfl, rfl⟩

/-- The two resumes of a birth follow it. -/
theorem Disciplined.born (h : Disciplined log s) (hx : exchangeSteps s.exchange = []) (hcall : isQuiet call = true)
    {b cg pg : Nat} (hx' : s'.exchange = .resume b (s.birthResume c cg p pg))
    (hb : Born s.taskState.registry s'.taskState.registry p c) : Disciplined ((call, intent) :: log) s' := by
  obtain ⟨⟨t, ht, hfits⟩, ⟨t₂, ht₂, hfits₂⟩, hother⟩ := hb
  have hsteps : exchangeSteps s'.exchange = [s.resumeStep c cg .continue, s.resumeStep p pg .syscall] := by
    rw [hx']; rfl
  refine h.quiet hx hcall ?_ (fun u hnone => ?_) fun u hout t' ht' => ?_
  · rw [hsteps]
    intro step hstep
    simp only [List.mem_cons, List.not_mem_nil, or_false] at hstep
    rcases hstep with rfl | rfl
    · exact ⟨t, ht, hfits⟩
    · exact ⟨t₂, ht₂, hfits₂⟩
  · by_cases hc : u = c
    · rw [hc] at hnone
      cases hnone.symm.trans ht
    by_cases hp : u = p
    · rw [hp] at hnone
      cases hnone.symm.trans ht₂
    · exact (hother u hp hc).symm.trans hnone
  · rw [hsteps] at hout
    have hc : u ≠ c := fun heq => hout _ (List.mem_cons_self) heq.symm
    have hp : u ≠ p := fun heq => hout _ (List.mem_cons_of_mem _ (List.mem_singleton_self _)) heq.symm
    exact ⟨t', (hother u hp hc).symm.trans ht', rfl, rfl⟩

/-- A reaped task starts over. -/
theorem Disciplined.reaped (h : Disciplined log s) (hx : s.exchange = .none) {status : Int32} {sink : EventSink}
    (hfinal : FinalStatus status term) {r : TaskStateRecorder} (hr : s'.taskState = r) (hx' : s'.exchange = .none)
    (htask : r.task = Function.update s.taskState.task tid none) :
    Disciplined ((.observeWait tid status sink, intent) :: log) s' := by
  have hstatus : isFinalStatus status = true := by
    unfold isFinalStatus
    rw [show decodeLinuxWaitStatus status = _ from hfinal]
  have hself : lastConfirmed tid ((.observeWait tid status sink, intent) :: log) = none := by
    simp [lastConfirmed, endsTask, hstatus]
  have hother : ∀ u, u ≠ tid →
      lastConfirmed u ((.observeWait tid status sink, intent) :: log) = lastConfirmed u log := fun u hu =>
    lastConfirmed_skip (by simp [endsTask, hu.symm]) rfl
  have hlive : ∀ u t, s'.taskState.task u = some t → u ≠ tid ∧ s.taskState.task u = some t := by
    intro u t ht
    rw [hr, htask] at ht
    by_cases hu : u = tid
    · rw [hu, Function.update_self] at ht
      cases ht
    · exact ⟨hu, by rwa [Function.update_of_ne hu] at ht⟩
  have hfree : ∀ u, ∀ step ∈ exchangeSteps s.exchange, step.rawTid ≠ u := by
    rw [hx]
    nofun
  refine ⟨by rw [hx']; nofun, fun u hnone => ?_, fun u t ht _ request hlast => ?_, fun u t ht _ hphase => ?_⟩
  · by_cases hu : u = tid
    · rw [hu, hself]
    · rw [hother u hu]
      refine h.unborn u ?_
      rwa [hr, htask, Function.update_of_ne hu] at hnone
  · obtain ⟨hu, ht⟩ := hlive u t ht
    rw [hother u hu] at hlast
    exact h.settled u t ht (hfree u) request hlast
  · obtain ⟨hu, ht⟩ := hlive u t ht
    rw [hother u hu]
    exact h.exited u t ht (hfree u) hphase

/-- The first outstanding step is confirmed. -/
theorem Disciplined.confirmed (h : Disciplined log s) {step : ResumeStep} {rest : List ResumeStep} {i : ResumeIntent}
    (hx : exchangeSteps s.exchange = step :: rest) (hi : i.rawTid = step.rawTid ∧ i.request = step.request)
    (hx' : exchangeSteps s'.exchange = rest) (hr : s'.taskState = s.taskState) :
    Disciplined ((.confirmResumeSucceeded i, intent) :: log) s' := by
  obtain ⟨t₀, ht₀, hfits⟩ := h.steps step (hx ▸ List.mem_cons_self)
  have hself : lastConfirmed step.rawTid ((.confirmResumeSucceeded i, intent) :: log) = some step.request := by
    simp [lastConfirmed, endsTask, confirmedRequest, hi.1, hi.2]
  have hother : ∀ u, u ≠ step.rawTid →
      lastConfirmed u ((.confirmResumeSucceeded i, intent) :: log) = lastConfirmed u log := fun u hu =>
    lastConfirmed_skip rfl (by simp [confirmedRequest, hi.1, hu.symm])
  -- a task that is neither confirmed here nor later was not waiting before
  have hfree : ∀ u, u ≠ step.rawTid → (∀ later ∈ exchangeSteps s'.exchange, later.rawTid ≠ u) →
      ∀ later ∈ exchangeSteps s.exchange, later.rawTid ≠ u := by
    intro u hu hout later hlater
    rw [hx] at hlater
    rcases List.mem_cons.1 hlater with rfl | hlater
    · exact hu.symm
    · exact hout later (hx' ▸ hlater)
  refine ⟨?_, fun u hnone => ?_, fun u t ht hout request hlast => ?_, fun u t ht hout hphase => ?_⟩
  · rw [hx', hr]
    exact fun later hlater => h.steps later (hx ▸ List.mem_cons_of_mem _ hlater)
  · rw [hr] at hnone
    have hu : u ≠ step.rawTid := by
      rintro rfl
      cases hnone.symm.trans ht₀
    rw [hother u hu]
    exact h.unborn u hnone
  · rw [hr] at ht
    by_cases hu : u = step.rawTid
    · subst hu
      rw [hself, Option.some.injEq] at hlast
      rw [ht₀, Option.some.injEq] at ht
      rwa [← hlast, ← ht]
    · rw [hother u hu] at hlast
      exact h.settled u t ht (hfree u hu hout) request hlast
  · rw [hr] at ht
    by_cases hu : u = step.rawTid
    · rw [hu, hself]
      nofun
    · rw [hother u hu]
      exact h.exited u t ht (hfree u hu hout) hphase

theorem Disciplined.step (hi : s.Inv) (h : Disciplined log s) (ha : Accepts s call intent s') :
    Disciplined ((call, intent) :: log) s' := by
  cases ha with
  | reap hx hfinal hrec hcount => exact h.reaped hx hfinal rfl hx (reaped_task (hrec.step hi))
  | syscallStop hx hstatus hn | eventStop hx hstatus ht hok =>
    exact h.unrecorded (by rw [hx]; rfl) (by simp [isQuiet, isFinalStatus, hstatus]) rfl rfl
  | @childEarly tid status sink j r hx htrap hpos hnew hchild hcount hj hrec =>
    have htask : r.task = s.taskState.task := ready_task hchild (hrec.step hi)
    refine h.quiet (by rw [hx]; rfl) (by simp [isQuiet, isFinalStatus_of_trap htrap]) ?_ (fun u hu => ?_) fun u _ t ht => ?_
    · show ∀ step ∈ exchangeSteps s.exchange, _
      rw [hx]
      exact List.forall_mem_nil _
    · exact (congrFun htask u).symm.trans hu
    · exact ⟨t, (congrFun htask u).symm.trans ht, rfl, rfl⟩
  | childExact hx htrap hpos hheld hrec =>
    obtain ⟨k, rel, hann⟩ := hi.linked.held_child hpos.ne' hheld
    exact h.born (by rw [hx]; rfl) (by simp [isQuiet, isFinalStatus_of_trap htrap]) rfl
      (readyAnnounced_born hann (hrec.step hi))
  | seccompEvent hx | permit hx | clone3Read hx =>
    exact h.unrecorded (by rw [hx]; rfl) rfl rfl rfl
  | @announceEarly token bytes sink b p c g event i j obs r hx htoken hmsg hev hc hp hi0 hobs hj hrec =>
    have hready := hi.linked.stopReady j (hj ▸ hc.ne')
    rw [hj] at hready
    exact h.born (by rw [hx]; rfl) rfl rfl (announceReady_born hready (hrec.step hi))
  | @announceHold token bytes sink b p c g event i obs r hx htoken hmsg hev hc hp hi0 hobs hno hcount hrec =>
    -- the parent's slot names its child now, and is in the same syscall
    rcases announced_child (hrec.step hi) with ⟨hready, -⟩ | ⟨-, u, hu, hg⟩
    · obtain ⟨j, hj⟩ := hi.linked.readyStop c hready
      exact absurd hj (hno j)
    have htask : r.task = Function.update s.taskState.task p (some { u with pendingChildRawTid := c }) :=
      congrArg Registry.task hg
    refine h.quiet (by rw [hx]; rfl) rfl (List.forall_mem_nil _) (fun v hv => ?_) fun v _ t ht => ?_
    · have hv : r.task v = none := hv
      rw [htask] at hv
      by_cases hvp : v = p
      · rw [hvp, Function.update_self] at hv
        cases hv
      · rwa [Function.update_of_ne hvp] at hv
    · have ht : r.task v = some t := ht
      rw [htask] at ht
      by_cases hvp : v = p
      · rw [hvp, Function.update_self] at ht
        cases ht
        exact ⟨u, hvp ▸ hu, rfl, rfl⟩
      · rw [Function.update_of_ne hvp] at ht
        exact ⟨t, ht, rfl, rfl⟩
  | exec hx htoken hrec =>
    exact h.resumed (by rw [hx]; rfl) rfl rfl (exec_resumed (hrec.step hi))
  | exitEvent hx htoken hrec hcount =>
    exact h.resumed (by rw [hx]; rfl) rfl rfl (ptraceExit_resumed (hrec.step hi))
  | syscallExit hx hrec hcount =>
    exact h.resumed (by rw [hx]; rfl) rfl rfl (syscallExit_resumed (hrec.step hi))
  | entry hcall hx hn hrec | entryFork hcall hx hobs hi0 hrec =>
    exact h.resumed (atEntry_steps hx) (quiet_of_entryCall hcall) rfl (seccompEntry_resumed (hrec.step hi))
  | @confirmNext intent b cursor next hx hintent hnext =>
    have hsteps : exchangeSteps s.exchange = cursor.current.1 :: next.steps := by
      rw [hx]
      exact ResumeCursor.steps_next hnext
    exact h.confirmed hsteps (by rw [hintent]; exact ⟨rfl, rfl⟩) rfl rfl
  | @confirmLast intent b cursor hx hintent hnext =>
    have hsteps : exchangeSteps s.exchange = [cursor.current.1] := by
      rw [hx]
      exact ResumeCursor.steps_last hnext
    exact h.confirmed hsteps (by rw [hintent]; exact ⟨rfl, rfl⟩) rfl rfl

theorem disciplined_begun (h : s.Begun) : Disciplined [] s := by
  obtain ⟨brand, tid, ev, r, hobs, rfl⟩ := begun_eq h
  have hstep := (observed_step inv_new hobs).2
  refine ⟨fun step hmem => absurd hmem List.not_mem_nil, fun _ _ => rfl,
    fun _ _ _ _ _ hlast => (by cases hlast), fun u t ht _ hphase => ?_⟩
  -- the only task is running
  rw [← registry_task] at ht
  generalize r.registry = g' at hstep ht
  cases hstep with
  | initialBirth hpos hnone hchild =>
    unfold Registry.setTask at ht
    dsimp only at ht
    by_cases hu : u = tid
    · rw [hu, Function.update_self] at ht
      cases ht
      cases hphase
    · rw [Function.update_of_ne hu, hnone u] at ht
      cases ht

theorem run_disciplined (h : SupervisorRun log s) (hp : s.poisoned = none) : Disciplined log s :=
  ((run_kept (P := Disciplined) (fun _ => disciplined_begun) (fun _ _ _ _ _ hi hP ha => hP.step hi ha) h).1 hp).2

/-- Between stops, a task that has been resumed in its current lifetime runs under `Syscall` exactly
when it is inside a syscall and under `Continue` otherwise, held fork parents included; a task past
its exit event runs under `Continue`. -/
theorem supervisor_run_resume_matches (h : SupervisorRun log s) (hp : s.poisoned = none) (hx : s.exchange = .none)
    {tid : Int} {k : Fin maxTasks} (hk : s.taskState.findLiveTask tid = some k) :
    ((s.taskState.tasks k).phase = .running → ∀ request, lastConfirmed tid log = some request →
      (request = .syscall ↔ (s.taskState.tasks k).pendingSyscall ≠ none) ∧
      (request = .continue ↔ (s.taskState.tasks k).pendingSyscall = none)) ∧
    ((s.taskState.tasks k).phase = .exitObserved → lastConfirmed tid log = some .continue) := by
  have hd := run_disciplined h hp
  have ht : s.taskState.task tid = some (s.taskState.tasks k) := by
    obtain ⟨hlive, hraw⟩ := TaskStateRecorder.findLiveTask_some hk
    exact (TaskStateRecorder.task_eq_some (run_inv h hp).recorder).2 ⟨k, hlive, hraw, rfl⟩
  have hfree : ∀ step ∈ exchangeSteps s.exchange, step.rawTid ≠ tid := by
    rw [hx]
    nofun
  refine ⟨fun hrun request hlast => ?_, fun hphase => ?_⟩
  · have hfits := (hd.settled tid _ ht hfree request hlast).syscall
    cases request with
    | «syscall» => simpa using hfits.1 rfl
    | «continue» =>
      simp only [reduceCtorEq, false_iff, not_not] at hfits
      simp [hfits]
  · obtain ⟨request, hlast⟩ := Option.ne_none_iff_exists'.1 (hd.exited tid _ ht hfree hphase)
    rw [hlast, (hd.settled tid _ ht hfree request hlast).exited hphase]

/-- After a birth the parent runs under `Syscall` and the child under `Continue`. -/
theorem supervisor_run_resume_matches_birth : ∃ log s, SupervisorRun log s ∧ s.poisoned = none ∧ s.exchange = .none ∧
    lastConfirmed 100 log = some .syscall ∧ (s.taskState.tasks 0).pendingSyscall ≠ none ∧
    lastConfirmed 101 log = some .continue ∧ (s.taskState.tasks 1).pendingSyscall = none := by
  obtain ⟨log, s, hrun, hcheck⟩ := played_run birthCalls (fun log s => s.poisoned.isNone && s.exchange == .none &&
    lastConfirmed 100 log == some .syscall && s.taskState.findLiveTask 100 == some 0 &&
    (s.taskState.tasks 0).phase == .running && lastConfirmed 101 log == some .continue &&
    s.taskState.findLiveTask 101 == some 1 && (s.taskState.tasks 1).phase == .running) (by decide +kernel)
  simp only [Bool.and_eq_true, Option.isNone_iff_eq_none, beq_iff_eq] at hcheck
  obtain ⟨⟨⟨⟨⟨⟨⟨hp, hx⟩, hparent⟩, hk⟩, hrunning⟩, hchild⟩, hk'⟩, hrunning'⟩ := hcheck
  have hsys := (supervisor_run_resume_matches hrun hp hx hk).1 hrunning _ hparent
  have hcont := (supervisor_run_resume_matches hrun hp hx hk').1 hrunning' _ hchild
  exact ⟨log, s, hrun, hp, hx, hparent, hsys.1.1 rfl, hchild, hcont.2.1 rfl⟩

end

end Again.Tracer
