import Again.Tracer.ResumeDiscipline

/-!
# The first stop and the first resume of a task

A TID names one task from its first stop to its reap and another one after
that. The log is read back to the last reap: a TID that is no task has not been
resumed since, one that is not a pending child either has not even stopped, and
a child that stopped early did so with the status of an initial stop.
-/

namespace Again.Tracer

open Lib SupervisorState

variable {c : Int} {x : Int32 × Nat}

/-! ## Reading the log back to the last reap -/

def stopOf (tid : Int) (generation : Nat) : SupervisorCall → Option (Int32 × Nat)
  | .observeWait u status _ => if u = tid then some (status, generation) else none
  | _ => none

def resumeOf (tid : Int) : Intent → Option ResumeIntent
  | .resume intent => if intent.rawTid = tid then some intent else none
  | _ => none

/-- The status and generation of the first stop of `tid` since it was last reaped. -/
def firstStop (tid : Int) : List (SupervisorCall × Intent) → Option (Int32 × Nat)
  | [] => none
  | entry :: log =>
    if endsTask tid entry.1 then none else firstStop tid log <|> stopOf tid (waitCount log + 1) entry.1

/-- The first resume of `tid` since it was last reaped. -/
def firstResume (tid : Int) : List (SupervisorCall × Intent) → Option ResumeIntent
  | [] => none
  | entry :: log => if endsTask tid entry.1 then none else firstResume tid log <|> resumeOf tid entry.2

section

variable {tid : Int} {call : SupervisorCall} {intent : Intent} {log later : List (SupervisorCall × Intent)}

theorem firstStop_keep (hend : endsTask tid call = false) (h : firstStop tid log = some x) :
    firstStop tid ((call, intent) :: log) = some x := by
  simp [firstStop, hend, h]

theorem firstStop_new (hend : endsTask tid call = false) (h : firstStop tid log = none) :
    firstStop tid ((call, intent) :: log) = stopOf tid (waitCount log + 1) call := by
  simp [firstStop, hend, h]

theorem firstResume_keep {x : ResumeIntent} (hend : endsTask tid call = false) (h : firstResume tid log = some x) :
    firstResume tid ((call, intent) :: log) = some x := by
  simp [firstResume, hend, h]

theorem firstResume_new (hend : endsTask tid call = false) (h : firstResume tid log = none) :
    firstResume tid ((call, intent) :: log) = resumeOf tid intent := by
  simp [firstResume, hend, h]

/-- What came first stays first until the task is reaped. -/
theorem firstStop_append (hend : ∀ entry ∈ later, endsTask tid entry.1 = false) (h : firstStop tid log = some x) :
    firstStop tid (later ++ log) = some x := by
  induction later with
  | nil => exact h
  | cons entry later ih =>
    apply firstStop_keep (hend entry List.mem_cons_self)
    exact ih fun e he => hend e (List.mem_cons_of_mem _ he)

theorem firstResume_append {x : ResumeIntent} (hend : ∀ entry ∈ later, endsTask tid entry.1 = false)
    (h : firstResume tid log = some x) : firstResume tid (later ++ log) = some x := by
  induction later with
  | nil => exact h
  | cons entry later ih =>
    apply firstResume_keep (hend entry List.mem_cons_self)
    exact ih fun e he => hend e (List.mem_cons_of_mem _ he)

end

/-! ## What a call does to the registry -/

section

variable {g g' : Registry} {obs : TaskObservation}

/-- A task only goes when it is reaped. -/
theorem step_task_gone (h : g.Step obs g') (hc : g'.task c = none) :
    g.task c = none ∨ ∃ n term, obs = .terminalReap n c term := by
  cases h with
  | @terminalReap n tid t term ht hphase =>
    by_cases hct : c = tid
    · exact .inr ⟨n, term, by rw [hct]⟩
    · left
      have hc : Function.update g.task tid none c = none := hc
      rwa [Function.update_of_ne hct] at hc
  | _ =>
    simp only [Registry.setTask, Registry.birth, Function.update_apply] at hc
    grind

/-- A child that is ready stays so until it is born. -/
theorem step_ready_gone (h : g.Step obs g') (hready : g.child c = some .ready) (hc : g'.task c = none) :
    g'.child c = some .ready := by
  cases h <;> simp only [Registry.setTask, Registry.birth, Function.update_apply] at hc ⊢ <;> grind

end

section

variable {s s' : SupervisorState} {call : SupervisorCall} {intent : Intent}

/-- An accepted call leaves the recorder alone or has it accept one observation, a reap only for a
final status. -/
theorem accepts_step (hi : s.Inv) (h : Accepts s call intent s') :
    s'.taskState = s.taskState ∨ ∃ obs, s.taskState.registry.Step obs s'.taskState.registry ∧
      ∀ n tid term, obs = .terminalReap n tid term → endsTask tid call = true := by
  cases h with
  | @reap tid status sink term r hx hfinal hrec hcount =>
    refine .inr ⟨_, hrec.step hi, ?_⟩
    intro n u term' heq
    cases heq
    simp [endsTask, isFinalStatus, show decodeLinuxWaitStatus status = _ from hfinal]
  | childEarly hx htrap hpos hnew hchild hcount hj hrec | childExact hx htrap hpos hheld hrec =>
    exact .inr ⟨_, hrec.step hi, by simp⟩
  | announceEarly hx htoken hmsg hev hc hp hi0 hobs hj hrec => exact .inr ⟨_, hrec.step hi, by simp⟩
  | announceHold hx htoken hmsg hev hc hp hi0 hobs hno hcount hrec | exec hx htoken hrec =>
    exact .inr ⟨_, hrec.step hi, by simp⟩
  | exitEvent hx htoken hrec hcount | syscallExit hx hrec hcount | entry hcall hx hn hrec =>
    exact .inr ⟨_, hrec.step hi, by simp⟩
  | entryFork hcall hx hobs hi0 hrec => exact .inr ⟨_, hrec.step hi, by simp⟩
  | _ => exact .inl rfl

theorem accepts_task_gone (hi : s.Inv) (h : Accepts s call intent s') (hend : endsTask c call = false)
    (hc : s'.taskState.task c = none) : s.taskState.task c = none := by
  rcases accepts_step hi h with hsame | ⟨obs, hstep, hreap⟩
  · rwa [hsame] at hc
  · rcases step_task_gone hstep hc with hgone | ⟨n, term, rfl⟩
    · exact hgone
    · rw [hreap n c term rfl] at hend
      cases hend

theorem accepts_ready_gone (hi : s.Inv) (h : Accepts s call intent s') (hready : s.taskState.child c = some .ready)
    (hc : s'.taskState.task c = none) : s'.taskState.child c = some .ready := by
  rcases accepts_step hi h with hsame | ⟨obs, hstep, -⟩
  · rwa [hsame]
  · exact step_ready_gone hstep hready hc

theorem entryCall_endsTask (hcall : isEntryCall call = true) (c : Int) : endsTask c call = false := by
  cases call <;> first | rfl | cases hcall

/-- A reaped TID was a task. -/
theorem endsTask_live (hi : s.Inv) (h : Accepts s call intent s') (hend : endsTask c call = true) :
    s.taskState.task c ≠ none := by
  cases h with
  | @reap tid status sink term r hx hfinal hrec hcount =>
    have htid : tid = c := by
      simp only [endsTask, Bool.and_eq_true, beq_iff_eq] at hend
      exact hend.1
    have hstep := hrec.step hi
    generalize r.registry = g' at hstep
    cases hstep with
    | terminalReap ht hphase =>
      rw [← htid]
      intro hnone
      cases hnone.symm.trans ht
  | syscallStop hx hstatus hn | eventStop hx hstatus ht hok => simp [endsTask, isFinalStatus, hstatus] at hend
  | childEarly hx htrap hpos hnew hchild hcount hj hrec | childExact hx htrap hpos hheld hrec =>
    simp [endsTask, isFinalStatus_of_trap htrap] at hend
  | entry hcall hx hn hrec | entryFork hcall hx hobs hi0 hrec => rw [entryCall_endsTask hcall] at hend; cases hend
  | _ => cases hend

/-- A resume names a task the exchange then waits for. -/
theorem resume_current {i : ResumeIntent} (h : Accepts s call (.resume i) s') :
    ∃ step ∈ exchangeSteps s'.exchange, step.rawTid = i.rawTid := by
  generalize hint : Intent.resume i = intent at h
  cases h <;> cases hint
  case confirmNext b cursor next hx hintent hnext =>
    exact ⟨next.current.1, by cases next <;> exact List.mem_cons_self, rfl⟩
  all_goals exact ⟨_, List.mem_cons_self, rfl⟩

/-- A TID that is no task stops only as a child: early, or as the one a fork is held for. -/
theorem wait_unborn {status : Int32} {sink : EventSink} (hi : s.Inv)
    (h : Accepts s (.observeWait c status sink) intent s') (hnew : s.taskState.task c = none) :
    s'.taskState.child c = some .ready ∨ s'.taskState.task c ≠ none := by
  have hacc := h
  cases h with
  | @reap tid status sink term r hx hfinal hrec hcount =>
    have hend : endsTask c (.observeWait c status sink) = true := by
      simp [endsTask, isFinalStatus, show decodeLinuxWaitStatus status = _ from hfinal]
    exact absurd hnew (endsTask_live hi hacc hend)
  | syscallStop hx hstatus hn =>
    rw [TaskStateRecorder.pendingSyscallNumber_eq, hnew] at hn
    cases hn
  | eventStop hx hstatus ht hok => cases hnew.symm.trans ht
  | @childEarly tid status sink j r hx htrap hpos hnew' hchild hcount hj hrec =>
    left
    have hstep := hrec.step hi
    show r.registry.child c = some .ready
    generalize r.registry = g' at hstep ⊢
    cases hstep with
    | ready hc hnone habs => exact Function.update_self _ _ _
    | readyAnnounced hc hnone hann => cases hchild.symm.trans hann
  | childExact hx htrap hpos hheld hrec =>
    right
    obtain ⟨k, rel, hann⟩ := hi.linked.held_child hpos.ne' hheld
    obtain ⟨t, ht, -⟩ := (readyAnnounced_born hann (hrec.step hi)).child
    intro hnone
    cases hnone.symm.trans ht
  | entry hcall | entryFork hcall => cases hcall

end

/-! ## The invariant -/

/-- What the log says of TIDs that are no tasks yet, and of the stop being handled. -/
structure Fresh (log : List (SupervisorCall × Intent)) (s : SupervisorState) : Prop where
  unresumed : ∀ c, s.taskState.task c = none → firstResume c log = none
  unstopped : ∀ c, s.taskState.task c = none → s.taskState.child c ≠ some .ready → firstStop c log = none
  early : ∀ j, (s.pendingChildStops j).rawTid ≠ 0 → ∃ status, TrapStop status ∧
    firstStop (s.pendingChildStops j).rawTid log = some (status, (s.pendingChildStops j).stopGeneration)
  message : ∀ b tid g event, s.exchange = .eventMessage b tid g event → ∃ status sink rest,
    log = (.observeWait tid status sink, .readEventMessage ⟨b, tid, g, event⟩) :: rest ∧
      decodeLinuxWaitStatus status = .ok (.ptraceEvent event) ∧ g = waitCount rest + 1

/-- All that is kept about a session and its log. -/
structure Tracked (log : List (SupervisorCall × Intent)) (s : SupervisorState) : Prop where
  accounted : Accounted log s
  disciplined : Disciplined log s
  fresh : Fresh log s

section

variable {log : List (SupervisorCall × Intent)} {s s' : SupervisorState} {call : SupervisorCall} {intent : Intent}

theorem Fresh.unresumed_step (hi : s.Inv) (h : Fresh log s) (hd : Disciplined ((call, intent) :: log) s')
    (ha : Accepts s call intent s') (c : Int) (hc : s'.taskState.task c = none) :
    firstResume c ((call, intent) :: log) = none := by
  cases hend : endsTask c call with
  | true => simp [firstResume, hend]
  | false =>
    rw [firstResume_new hend (h.unresumed c (accepts_task_gone hi ha hend hc))]
    -- a resume would name a task
    cases intent with
    | resume i =>
      obtain ⟨step, hmem, hstep⟩ := resume_current ha
      obtain ⟨t, ht, -⟩ := hd.steps step hmem
      apply if_neg
      intro heq
      rw [hstep, heq] at ht
      cases hc.symm.trans ht
    | _ => rfl

theorem Fresh.unstopped_step (hi : s.Inv) (h : Fresh log s) (ha : Accepts s call intent s') (c : Int)
    (hc : s'.taskState.task c = none) (hready : s'.taskState.child c ≠ some .ready) :
    firstStop c ((call, intent) :: log) = none := by
  cases hend : endsTask c call with
  | true => simp [firstStop, hend]
  | false =>
    have hnew := accepts_task_gone hi ha hend hc
    have hwas : s.taskState.child c ≠ some .ready := fun hwas => hready (accepts_ready_gone hi ha hwas hc)
    rw [firstStop_new hend (h.unstopped c hnew hwas)]
    cases call with
    | observeWait u status sink =>
      apply if_neg
      rintro rfl
      rcases wait_unborn hi ha hnew with hr | hborn
      · exact absurd hr hready
      · exact absurd hc hborn
    | _ => rfl

/-- A child stop was there before, or is the early stop of a new child. -/
theorem stops_step (ha : Accepts s call intent s') {j : Fin maxPendingChildStops}
    (hj : (s'.pendingChildStops j).rawTid ≠ 0) :
    s'.pendingChildStops j = s.pendingChildStops j ∨ ∃ tid status sink, call = .observeWait tid status sink ∧
      TrapStop status ∧ s.taskState.task tid = none ∧ s.taskState.child tid = none ∧
      s'.pendingChildStops j = ⟨tid, s.nextStopGeneration⟩ := by
  cases ha with
  | @childEarly tid status sink k r hx htrap hpos hnew hchild hcount hk hrec =>
    by_cases hjk : j = k
    · refine .inr ⟨tid, status, sink, rfl, htrap, hnew, hchild, ?_⟩
      rw [hjk]
      exact Table.put_self _ _ _
    · exact .inl (Table.put_other _ _ hjk)
  | announceEarly hx htoken hmsg hev hc hp hi0 hobs hk hrec =>
    left
    apply Table.put_other
    rintro rfl
    exact hj (congrArg PendingChildStop.rawTid (Table.put_self _ _ _))
  | _ => exact .inl rfl

theorem Fresh.early_step (hi : s.Inv) (h : Fresh log s) (hacc : Accounted log s) (ha : Accepts s call intent s')
    (j : Fin maxPendingChildStops) (hj : (s'.pendingChildStops j).rawTid ≠ 0) : ∃ status, TrapStop status ∧
      firstStop (s'.pendingChildStops j).rawTid ((call, intent) :: log) =
        some (status, (s'.pendingChildStops j).stopGeneration) := by
  rcases stops_step ha hj with hsame | ⟨tid, status, sink, rfl, htrap, hnew, hchild, heq⟩
  · rw [hsame] at hj ⊢
    obtain ⟨status, htrap, hfirst⟩ := h.early j hj
    refine ⟨status, htrap, firstStop_keep ?_ hfirst⟩
    -- a pending child is no task, so it is not reaped
    have hnew := hi.wellFormed.childNew _ _ (hi.linked.stopReady j hj)
    by_contra hend
    exact endsTask_live hi ha (by simpa using hend) hnew
  · rw [heq]
    refine ⟨status, htrap, ?_⟩
    have hend : endsTask tid (.observeWait tid status sink) = false := by
      simp [endsTask, isFinalStatus_of_trap htrap]
    rw [firstStop_new hend (h.unstopped tid hnew (by simp [hchild])), ← hacc.generation]
    simp [stopOf]

theorem Fresh.message_step (hacc : Accounted log s) (ha : Accepts s call intent s') {b : Nat} {tid : Int} {g : Nat}
    {event : LinuxPtraceEvent} (hx' : s'.exchange = .eventMessage b tid g event) : ∃ status sink rest,
      (call, intent) :: log = (.observeWait tid status sink, .readEventMessage ⟨b, tid, g, event⟩) :: rest ∧
        decodeLinuxWaitStatus status = .ok (.ptraceEvent event) ∧ g = waitCount rest + 1 := by
  cases ha with
  | @eventStop u status sink event' t hx hstatus ht hok =>
    cases hx'
    exact ⟨status, sink, log, rfl, hstatus, hacc.generation⟩
  | reap hx | childEarly hx =>
    -- these leave the exchange empty
    have hx' : s.exchange = _ := hx'
    rw [hx] at hx'
    cases hx'
  | _ => cases hx'

theorem Tracked.step (hi : s.Inv) (h : Tracked log s) (ha : Accepts s call intent s') :
    Tracked ((call, intent) :: log) s' := by
  have hd := h.disciplined.step hi ha
  refine ⟨accounted_step hi h.accounted ha, hd, ?_⟩
  exact ⟨h.fresh.unresumed_step hi hd ha, h.fresh.unstopped_step hi ha, h.fresh.early_step hi h.accounted ha,
    fun b tid g event hx => Fresh.message_step h.accounted ha hx⟩

theorem tracked_begun (h : s.Begun) : Tracked [] s := by
  refine ⟨accounted_begun h, disciplined_begun h, fun _ _ => rfl, fun _ _ _ => rfl, ?_, ?_⟩
  all_goals
    obtain ⟨brand, tid, ev, r, -, rfl⟩ := begun_eq h
  · intro j hj
    exact absurd rfl hj
  · intro b u g event hx
    cases hx

theorem run_tracked (h : SupervisorRun log s) (hp : s.poisoned = none) : Tracked log s :=
  ((run_kept (P := Tracked) (fun _ => tracked_begun) (fun _ _ _ _ _ hi hP ha => hP.step hi ha) h).1 hp).2

end

end Again.Tracer
