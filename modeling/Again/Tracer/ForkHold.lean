import Again.Tracer.Lifetimes

/-!
# A fork parent waits for its child

From its fork event on, a parent is held: in its fork slot until the child's
initial stop, then behind the child in the resume exchange. The confirmation
of the child's first resume is what releases it. A birth therefore goes through
three phases, and no other call moves it: other tasks come and go meanwhile,
and a further stop of the parent itself cannot be answered.
-/

namespace Again.Tracer

open Lib SupervisorState TaskStateRecorder

variable {sink : EventSink} {i : ResumeIntent} {status : Int32} {tid : Int}

variable {call : SupervisorCall} {intent : Intent}

/-- The fork slot that holds `parent` at its stop `g` until `child` stops. -/
def InForkSlot (s : SupervisorState) (parent child : Int) (g : Nat) : Prop :=
  ∃ i, (s.pendingForks i).rawTid = parent ∧ (s.pendingForks i).heldChildRawTid = child ∧
    (s.pendingForks i).heldParentStopGeneration = g

/-- The exchange resumes `child` from its stop `cg` and then `parent` from its stop `g`. -/
def InBirthExchange (s : SupervisorState) (b : Nat) (parent child : Int) (g cg : Nat) : Prop :=
  ∃ b', s.exchange = .resume b' (.childThenParent ⟨b, child, cg, .continue⟩ ⟨b, parent, g, .syscall⟩)

/-- The parent is held: by its fork, or behind its child. -/
def HoldsParent (s : SupervisorState) (parent child : Int) (g : Nat) : Prop :=
  InForkSlot s parent child g ∨ ∃ b cg, InBirthExchange s b parent child g cg

/-- No resume in the log names `tid`. -/
def Unresumed (tid : Int) (log : List (SupervisorCall × Intent)) : Prop :=
  ∀ entry ∈ log, resumeOf tid entry.2 = none

/-- The child's first stop was an initial stop, and its first resume continues it from there. -/
def ChildStarted (log : List (SupervisorCall × Intent)) (b : Nat) (child : Int) (cg : Nat) : Prop :=
  (∃ status, TrapStop status ∧ firstStop child log = some (status, cg)) ∧
    firstResume child log = some ⟨b, .onlyOrChild, child, cg, .continue⟩

/-! ## Stops of a held parent -/

/-- The call is refused, or it asks for no resume and every call after it is refused. -/
def LeadsToPoison (s : SupervisorState) (call : SupervisorCall) : Prop :=
  match call.perform s with
  | .error e s' => s'.poisoned = some e
  | .ok intent s' => (∀ tid, resumeOf tid intent = none) ∧
      ∀ next : SupervisorCall, ∃ e s'', next.perform s' = .error e s'' ∧ s''.poisoned = some e

section

variable {s s' : SupervisorState} {parent child : Int} {g : Nat}

/-- A held parent is a running task inside a creation syscall. -/
theorem held_task (hi : s.Inv) {i : Fin maxTasks} (hheld : (s.pendingForks i).heldChildRawTid ≠ 0) :
    ∃ t n kind, s.taskState.task (s.pendingForks i).rawTid = some t ∧ t.pendingSyscall = some n ∧
      creationSyscallPermits (some n) kind = true := by
  have hused : (s.pendingForks i).rawTid ≠ 0 := fun h0 => hheld (hi.linked.forkEmpty i h0)
  obtain ⟨t, n, obs, ht, -, hn, -, hpromise, -⟩ := hi.linked.forkOk i hused
  exact ⟨t, n, _, ht, hn, hpromise.permitted⟩

/-- A call no case of `Accepts` covers is refused. -/
theorem refused_of_not_accepts (hi : s.Inv) (hno : ∀ intent s', ¬ Accepts s call intent s') :
    ∃ e s'', call.perform s = .error e s'' ∧ s''.poisoned = some e := by
  have hruns := perform_runs hi call
  cases hc : call.perform s with
  | ok intent s' => exact absurd (hruns.ok hc) (hno intent s')
  | error e s'' => exact ⟨e, s'', rfl, (hruns.error hc).1⟩

/-- An exchange about a syscall exit is only answered by recording that exit. -/
theorem accepts_at_syscallExit {b : Nat} (hx : s.exchange = .syscallInfo b tid g .syscallExit)
    (ha : Accepts s call intent s') : ∃ result r, s.Records (.syscallExit · tid result) r := by
  cases ha with
  | @syscallExit token count buffer sink b' tid' g' result r hx' hrec hcount =>
    cases hx.symm.trans hx'
    exact ⟨result, r, hrec⟩
  | entry hcall hx' | entryFork hcall hx' =>
    rcases hx' with ⟨b', hx'⟩ | ⟨b', address, count, hx'⟩ <;> cases hx.symm.trans hx'
  | reap hx' | syscallStop hx' | eventStop hx' | childEarly hx' | childExact hx' | seccompEvent hx' | announceEarly hx'
  | announceHold hx' | exec hx' | exitEvent hx' | permit hx' | clone3Read hx' | confirmNext hx' | confirmLast hx' =>
    cases hx.symm.trans hx'

/-- An exchange about an exit event is only answered by recording it. -/
theorem accepts_at_exitEvent {b : Nat} (hx : s.exchange = .eventMessage b tid g .exit) (ha : Accepts s call intent s') :
    ∃ term r, s.Records (.ptraceExitEvent · tid term) r := by
  cases ha with
  | @exitEvent token bytes sink b' tid' g' term r hx' htoken hrec hcount =>
    cases hx.symm.trans hx'
    exact ⟨term, r, hrec⟩
  | announceEarly hx' htoken hmsg hev | announceHold hx' htoken hmsg hev =>
    cases hx.symm.trans hx'
    cases hev
  | entry hcall hx' | entryFork hcall hx' =>
    rcases hx' with ⟨b', hx'⟩ | ⟨b', address, count, hx'⟩ <;> cases hx.symm.trans hx'
  | reap hx' | syscallStop hx' | eventStop hx' | childEarly hx' | childExact hx' | seccompEvent hx' | exec hx'
  | permit hx' | syscallExit hx' | clone3Read hx' | confirmNext hx' | confirmLast hx' => cases hx.symm.trans hx'

/-- A stop of a task inside its fork slot is refused, or leaves an exchange that nothing answers. -/
theorem wait_held (hi : s.Inv) {i : Fin maxTasks} (hheld : (s.pendingForks i).heldChildRawTid ≠ 0)
    (ha : Accepts s (.observeWait (s.pendingForks i).rawTid status sink) intent s') :
    (∀ tid, resumeOf tid intent = none) ∧ ∀ next i' s'', ¬ Accepts s' next i' s'' := by
  have hi' := inv_accepts hi ha
  obtain ⟨t, n, kind, ht, hn, hcreate⟩ := held_task hi hheld
  cases ha with
  | reap hx hfinal hrec hcount => exact absurd rfl ((hi.linked.terminalReap hi.wellFormed (hrec.step hi)).1 i)
  | syscallStop hx hstatus hn' =>
    refine ⟨fun _ => rfl, fun next i' s'' hnext => ?_⟩
    obtain ⟨result, r, hrec⟩ := accepts_at_syscallExit rfl hnext
    exact hheld (exit_unheld hi' hrec i rfl)
  | @eventStop _ _ _ event t' hx hstatus ht' hok =>
    refine ⟨fun _ => rfl, fun next i' s'' hnext => ?_⟩
    cases event with
    | seccomp =>
      rw [EventExpected, pendingSyscallNumber_eq, ht] at hok
      cases hn.symm.trans hok
    | exec =>
      obtain ⟨m, hm, hexec⟩ := hok
      rw [pendingSyscallNumber_eq, ht] at hm
      cases hn.symm.trans hm
      rw [exec_not_creation hexec] at hcreate
      cases hcreate
    | exit =>
      obtain ⟨term, r, hrec⟩ := accepts_at_exitEvent rfl hnext
      exact (hi'.linked.ptraceExit hi'.wellFormed (hrec.step hi')).1 i rfl
    | fork | vfork | clone =>
      obtain ⟨k, hk, h0, -⟩ := hok
      have hused : (s.pendingForks i).rawTid ≠ 0 := fun h0 => hheld (hi.linked.forkEmpty i h0)
      cases hi.linked.forkInj i k hused (pendingForkIndex_some hk).symm
      exact hheld h0
  | childEarly hx htrap hpos hnew => cases hnew.symm.trans ht
  | childExact hx htrap hpos hk =>
    obtain ⟨kind, rel, hann⟩ := hi.linked.held_child hpos.ne' hk
    cases (hi.wellFormed.childNew _ _ hann).symm.trans ht
  | entry hcall | entryFork hcall => cases hcall

/-- A stop is only taken between exchanges. -/
theorem wait_exchange (ha : Accepts s (.observeWait tid status sink) intent s') : s.exchange = .none := by
  cases ha with
  | reap hx | syscallStop hx | eventStop hx | childEarly hx | childExact hx => exact hx
  | entry hcall | entryFork hcall => cases hcall

/-- While the parent is held, any status reported for it leads to a poisoned planner. -/
theorem HoldsParent.wait_poisons (hi : s.Inv) (hc : child ≠ 0) (h : HoldsParent s parent child g) (status : Int32)
    (sink : EventSink) : LeadsToPoison s (.observeWait parent status sink) := by
  have hruns := perform_runs hi (.observeWait parent status sink)
  unfold LeadsToPoison
  cases hcall : SupervisorCall.perform (.observeWait parent status sink) s with
  | error e s' => exact (hruns.error hcall).1
  | ok intent s' =>
    have ha := hruns.ok hcall
    rcases h with ⟨i, rfl, hheld, -⟩ | ⟨b, cg, b', hx⟩
    · obtain ⟨hresume, hstuck⟩ := wait_held hi (hheld ▸ hc) ha
      exact ⟨hresume, fun next => refused_of_not_accepts (inv_accepts hi ha) (hstuck next)⟩
    · -- no stop is taken while an exchange is open
      cases hx.symm.trans (wait_exchange ha)

/-! ## The phases of a birth -/

/-- The one call that ends the wait: the child's own initial stop. -/
def ChildStops (s : SupervisorState) (parent child : Int) (g : Nat) (call : SupervisorCall) (intent : Intent)
    (s' : SupervisorState) : Prop :=
  ∃ status sink, call = .observeWait child status sink ∧ TrapStop status ∧
    intent = .resume ⟨s.sessionBrand, .onlyOrChild, child, s.nextStopGeneration, .continue⟩ ∧
    InBirthExchange s' s.sessionBrand parent child g s.nextStopGeneration

/-- Any other accepted call leaves the parent in its slot and resumes someone else. -/
theorem slot_step (hi : s.Inv) (hc : child ≠ 0) (hslot : InForkSlot s parent child g)
    (hout : ∀ step ∈ exchangeSteps s.exchange, step.rawTid ≠ parent) (ha : Accepts s call intent s') :
    (InForkSlot s' parent child g ∧ ∀ step ∈ exchangeSteps s'.exchange, step.rawTid ≠ parent) ∨
      ChildStops s parent child g call intent s' := by
  have hw := hi.wellFormed
  obtain ⟨i, hp, hheld, hg⟩ := hslot
  have hheld0 : (s.pendingForks i).heldChildRawTid ≠ 0 := hheld ▸ hc
  have hused : (s.pendingForks i).rawTid ≠ 0 := fun h0 => hheld0 (hi.linked.forkEmpty i h0)
  obtain ⟨t, n, kind, ht, hn, hcreate⟩ := held_task hi hheld0
  rw [hp] at ht
  have hkeep : ∀ k fork, k ≠ i → InForkSlot (s.withFork k fork) parent child g := by
    intro k fork hk
    have hsame : s.pendingForks.put k fork i = s.pendingForks i := Table.put_other _ _ hk.symm
    refine ⟨i, ?_, ?_, ?_⟩ <;> rw [withFork_pendingForks, hsame] <;> assumption
  have hwithout : ∀ tid, (s.pendingForks i).rawTid ≠ tid → InForkSlot (s.withoutPendingFork tid) parent child g := by
    intro tid hne
    have hsame : forksWithout s.pendingForks tid i = s.pendingForks i := by
      rcases forksWithout_cases s.pendingForks tid with ⟨k, hk, heq⟩ | ⟨-, heq⟩ <;> rw [heq]
      apply Table.put_other
      rintro rfl
      exact hne hk
    refine ⟨i, ?_, ?_, ?_⟩ <;> rw [withoutPendingFork_pendingForks, hsame] <;> assumption
  have hother : ∀ tid, (s.pendingForks i).rawTid ≠ tid → ∀ b request, ∀ step ∈ [ResumeStep.mk s.sessionBrand tid b request],
      step.rawTid ≠ parent := by
    intro tid hne b request
    exact List.forall_mem_singleton.2 fun heq => hne (hp.trans heq.symm)
  cases ha with
  | @reap tid status sink term r hx hfinal hrec hcount =>
    obtain ⟨hno, -⟩ := hi.linked.terminalReap hw (hrec.step hi)
    exact .inl ⟨hwithout tid (hno i), hout⟩
  | childEarly hx htrap hpos hnew hchild hcount hj hrec => exact .inl ⟨⟨i, hp, hheld, hg⟩, hout⟩
  | @childExact tid status sink k r hx htrap hpos hk hrec =>
    by_cases hki : k = i
    · -- this is the child the slot waits for
      right
      subst hki
      cases hk.symm.trans hheld
      refine ⟨status, sink, rfl, htrap, rfl, s.sessionBrand, ?_⟩
      rw [← hp, ← hg]
      rfl
    · left
      refine ⟨hkeep k .empty hki, ?_⟩
      obtain ⟨kind', rel, hann⟩ := hi.linked.held_child hpos.ne' hk
      refine List.forall_mem_cons.2 ⟨?_, List.forall_mem_singleton.2 fun heq => ?_⟩
      · -- the other child is no task yet
        rintro rfl
        cases (hw.childNew _ _ hann).symm.trans ht
      · exact hki (hi.linked.forkInj i k hused (hp.trans heq.symm)).symm
  | @announceEarly token bytes sink b p c g' event k j obs r hx htoken hmsg hev hpos hk hk0 hobs hj hrec =>
    left
    have hki : k ≠ i := by
      rintro rfl
      exact hheld0 hk0
    refine ⟨hkeep k .empty hki, ?_⟩
    have hready := hi.linked.stopReady j (hj ▸ hpos.ne')
    rw [hj] at hready
    refine List.forall_mem_cons.2 ⟨?_, List.forall_mem_singleton.2 fun heq => ?_⟩
    · rintro rfl
      cases (hw.childNew _ _ hready).symm.trans ht
    · exact hki (hi.linked.forkInj i k hused (hp.trans (heq.symm.trans hk.symm))).symm
  | @announceHold token bytes sink b p c g' event k obs r hx htoken hmsg hev hpos hk hk0 hobs hno hcount hrec =>
    left
    refine ⟨hkeep k _ ?_, nofun⟩
    rintro rfl
    exact hheld0 hk0
  | @exec token bytes sink b tid g' former r hx htoken hrec =>
    left
    refine ⟨⟨i, hp, hheld, hg⟩, List.forall_mem_singleton.2 ?_⟩
    rintro rfl
    -- a task inside an exec is not inside a creation syscall
    have hstep := hrec.step hi
    generalize r.registry = g'' at hstep
    cases hstep with
    | exec ht' hrun hn' hexec =>
      cases ht.symm.trans ht'
      cases hn.symm.trans hn'
      rw [exec_not_creation hexec] at hcreate
      cases hcreate
  | @exitEvent token bytes sink b tid g' term r hx htoken hrec hcount =>
    obtain ⟨hno, -⟩ := hi.linked.ptraceExit hw (hrec.step hi)
    exact .inl ⟨hwithout tid (hno i), hother tid (hno i) g' _⟩
  | @syscallExit token count buffer sink b tid g' result r hx hrec hcount =>
    have hne : (s.pendingForks i).rawTid ≠ tid := fun heq => hheld0 (exit_unheld hi hrec i heq)
    exact .inl ⟨hwithout tid hne, hother tid hne g' _⟩
  | @entry call tid g' n r hcall hx hn hrec =>
    obtain ⟨hno, -⟩ := hi.linked.seccompEntry hw (hrec.step hi)
    exact .inl ⟨⟨i, hp, hheld, hg⟩, hother tid (hno i) g' _⟩
  | @entryFork call tid g' n k event obs r hcall hx hobs hk0 hrec =>
    obtain ⟨hno, -⟩ := hi.linked.seccompEntry hw (hrec.step hi)
    refine .inl ⟨hkeep k _ ?_, hother tid (hno i) g' _⟩
    rintro rfl
    exact hused hk0
  | @confirmNext intent b cursor next hx hintent hnext =>
    refine .inl ⟨⟨i, hp, hheld, hg⟩, fun step hstep => hout step ?_⟩
    rw [hx]
    show step ∈ cursor.steps
    rw [ResumeCursor.steps_next hnext]
    exact List.mem_cons_of_mem _ hstep
  | _ => exact .inl ⟨⟨i, hp, hheld, hg⟩, nofun⟩

end

/-- Where a birth stands, given the calls accepted since the fork event's message and those before. -/
inductive BirthPhase (earlier : List (SupervisorCall × Intent)) (parent child : Int) (g : Nat) :
    List (SupervisorCall × Intent) → SupervisorState → Prop
  | waiting {since : List (SupervisorCall × Intent)} {s : SupervisorState} (hslot : InForkSlot s parent child g)
      (hout : ∀ step ∈ exchangeSteps s.exchange, step.rawTid ≠ parent) (hun : Unresumed parent since) :
      BirthPhase earlier parent child g since s
  | releasing {since : List (SupervisorCall × Intent)} {s : SupervisorState} {b cg : Nat}
      (hx : InBirthExchange s b parent child g cg) (hun : Unresumed parent since)
      (hchild : ChildStarted (since ++ earlier) b child cg) : BirthPhase earlier parent child g since s
  | released (post : List (SupervisorCall × Intent)) {pre : List (SupervisorCall × Intent)} {s : SupervisorState}
      {b cg : Nat} (hun : Unresumed parent pre) (hchild : ChildStarted (pre ++ earlier) b child cg) :
      BirthPhase earlier parent child g (post ++ (.confirmResumeSucceeded ⟨b, .onlyOrChild, child, cg, .continue⟩,
        .resume ⟨b, .parent, parent, g, .syscall⟩) :: pre) s

section

variable {s s' : SupervisorState} {parent child : Int} {g : Nat} {since earlier log : List (SupervisorCall × Intent)}

theorem Unresumed.cons (h : Unresumed parent since) (hnew : resumeOf parent intent = none) :
    Unresumed parent ((call, intent) :: since) :=
  List.forall_mem_cons.2 ⟨hnew, h⟩

/-- A resume names a step of the exchange it opens. -/
theorem resumeOf_none (ha : Accepts s call intent s') (hout : ∀ step ∈ exchangeSteps s'.exchange, step.rawTid ≠ parent) :
    resumeOf parent intent = none := by
  cases intent with
  | resume i =>
    obtain ⟨step, hmem, hstep⟩ := resume_current ha
    exact if_neg fun heq => hout step hmem (hstep.trans heq)
  | _ => rfl

/-- The child's initial stop is its first stop, and the resume it is given its first resume. -/
theorem childStarted_of_stop (ht : Tracked log s) (hnew : s.taskState.task child = none)
    (hready : s.taskState.child child ≠ some .ready) (htrap : TrapStop status) (b : Nat) :
    ChildStarted ((.observeWait child status sink,
      .resume ⟨b, .onlyOrChild, child, s.nextStopGeneration, .continue⟩) :: log) b child s.nextStopGeneration := by
  have hend : endsTask child (.observeWait child status sink) = false := by
    simp [endsTask, isFinalStatus_of_trap htrap]
  refine ⟨⟨status, htrap, ?_⟩, ?_⟩
  · rw [firstStop_new hend (ht.fresh.unstopped child hnew hready), ← ht.accounted.generation]
    simp [stopOf]
  · rw [firstResume_new hend (ht.fresh.unresumed child hnew)]
    simp [resumeOf]

theorem BirthPhase.step (hi : s.Inv) (hc : child ≠ 0) (hpc : child ≠ parent) (ht : Tracked (since ++ earlier) s)
    (h : BirthPhase earlier parent child g since s) (ha : Accepts s call intent s') :
    BirthPhase earlier parent child g ((call, intent) :: since) s' := by
  cases h with
  | waiting hslot hout hun =>
    rcases slot_step hi hc hslot hout ha with ⟨hslot', hout'⟩ | ⟨status, sink, rfl, htrap, rfl, hx'⟩
    · exact .waiting hslot' hout' (hun.cons (resumeOf_none ha hout'))
    · -- the held child is announced, so it is no task and has not stopped
      obtain ⟨i, -, hheld, -⟩ := hslot
      obtain ⟨kind, rel, hann⟩ := hi.linked.held_child hc hheld
      refine .releasing hx' (hun.cons (if_neg hpc)) ?_
      exact childStarted_of_stop ht (hi.wellFormed.childNew _ _ hann)
        (fun hready => absurd (hann.symm.trans hready) nofun) htrap _
  | releasing hx hun hchild =>
    -- only the confirmation of the child's resume is accepted here
    obtain ⟨b', hx⟩ := hx
    cases ha with
    | confirmNext hx' hintent hnext =>
      cases hx.symm.trans hx'
      cases hnext
      rw [hintent]
      exact .released [] hun hchild
    | confirmLast hx' hintent hnext =>
      cases hx.symm.trans hx'
      cases hnext
    | entry hcall hx' | entryFork hcall hx' =>
      rcases hx' with ⟨b'', hx'⟩ | ⟨b'', address, count, hx'⟩ <;> cases hx.symm.trans hx'
    | reap hx' | syscallStop hx' | eventStop hx' | childEarly hx' | childExact hx' | seccompEvent hx' | announceEarly hx'
    | announceHold hx' | exec hx' | exitEvent hx' | permit hx' | syscallExit hx' | clone3Read hx' =>
      cases hx.symm.trans hx'
  | released post hun hchild => exact .released ((call, intent) :: post) hun hchild

theorem announcement_ne {n : Nat} {p c : Int} {kind : TaskChildBirthKind} {rel : TaskGroupRelation} {r r' : Registry}
    (h : r.Step (.childAnnouncement n p c kind rel) r') : p ≠ c := by
  cases h with
  | announce hpc | announceReady hpc => exact hpc

/-- The accepted message of a fork event opens the birth. -/
theorem birthPhase_announced (hi : s.Inv) (ht : Tracked earlier s) {token : EventMessageRead} {bytes : Table 8 UInt8}
    (hev : isForkEvent token.event = true) (hmsg : decodeEventMessage token.event bytes = .ok (.childTid child))
    (ha : Accepts s (.acceptEventMessage token bytes sink) intent s') :
    child ≠ 0 ∧ child ≠ token.rawTid ∧ s.exchange = .eventMessage token.sessionBrand token.rawTid token.stopGeneration
      token.event ∧ BirthPhase earlier token.rawTid child token.stopGeneration
        [(.acceptEventMessage token bytes sink, intent)] s' := by
  cases ha with
  | @announceEarly _ _ _ b p c g event i j obs r hx htoken hmsg' hfork hc hp hi0 hobs hj hrec =>
    subst htoken
    cases hmsg.symm.trans hmsg'
    have hpc := announcement_ne (hrec.step hi)
    have hready := hi.linked.stopReady j (hj ▸ hc.ne')
    obtain ⟨status, htrap, hstop⟩ := ht.fresh.early j (hj ▸ hc.ne')
    rw [hj] at hready hstop
    refine ⟨hc.ne', hpc.symm, hx, .releasing ⟨s.sessionBrand, rfl⟩ ?_ ⟨⟨status, htrap, ?_⟩, ?_⟩⟩
    · exact List.forall_mem_singleton.2 (if_neg hpc.symm)
    · exact firstStop_keep rfl hstop
    · refine (firstResume_new rfl (ht.fresh.unresumed child (hi.wellFormed.childNew _ _ hready))).trans ?_
      exact if_pos rfl
  | @announceHold _ _ _ b p c g event i obs r hx htoken hmsg' hfork hc hp hi0 hobs hno hcount hrec =>
    subst htoken
    cases hmsg.symm.trans hmsg'
    refine ⟨hc.ne', (announcement_ne (hrec.step hi)).symm, hx, .waiting ⟨i, ?_⟩ nofun ?_⟩
    · rw [withExchange_pendingForks, withFork_pendingForks, Table.put_self]
      exact ⟨hp, rfl, rfl⟩
    · exact List.forall_mem_singleton.2 rfl
  | seccompEvent hx htoken | exec hx htoken | exitEvent hx htoken =>
    rw [htoken] at hev
    cases hev
  | entry hcall | entryFork hcall => cases hcall

/-! ## The order of resumes -/

theorem resumeOf_ne (h : i.rawTid = parent) : resumeOf parent (.resume i) ≠ none := by
  simp [resumeOf, h]

/-- The oldest entry with a property splits a log in one way. -/
theorem oldest_unique {α : Type} {q : α → Prop} {post pre post' pre' : List α} {x x' : α}
    (heq : post ++ x :: pre = post' ++ x' :: pre') (hx : q x) (hx' : q x') (hpre : ∀ y ∈ pre, ¬ q y)
    (hpre' : ∀ y ∈ pre', ¬ q y) : x = x' ∧ pre = pre' := by
  rcases List.append_eq_append_iff.1 heq with ⟨mid, -, hmid⟩ | ⟨mid, -, hmid⟩
  · cases mid with
    | nil => exact List.cons.inj hmid
    | cons y mid =>
      obtain ⟨-, rfl⟩ := List.cons.inj hmid
      exact absurd hx' (hpre x' (List.mem_append_right _ List.mem_cons_self))
  · cases mid with
    | nil =>
      obtain ⟨rfl, rfl⟩ := List.cons.inj hmid
      exact ⟨rfl, rfl⟩
    | cons y mid =>
      obtain ⟨-, rfl⟩ := List.cons.inj hmid
      exact absurd hx (hpre' x (List.mem_append_right _ List.mem_cons_self))

theorem BirthPhase.holds (h : BirthPhase earlier parent child g since s) (hun : Unresumed parent since) :
    HoldsParent s parent child g := by
  cases h with
  | waiting hslot hout => exact .inl hslot
  | releasing hx => exact .inr ⟨_, _, hx⟩
  | released post => exact absurd (hun _ (List.mem_append_right _ List.mem_cons_self)) (resumeOf_ne rfl)

theorem BirthPhase.release (h : BirthPhase earlier parent child g since s) {post pre : List (SupervisorCall × Intent)}
    (heq : since = post ++ (call, .resume i) :: pre) (hi : i.rawTid = parent) (hpre : Unresumed parent pre) :
    ∃ b cg, call = .confirmResumeSucceeded ⟨b, .onlyOrChild, child, cg, .continue⟩ ∧
      i = ⟨b, .parent, parent, g, .syscall⟩ ∧ ChildStarted (pre ++ earlier) b child cg := by
  cases h with
  | waiting hslot hout hun | releasing hx hun =>
    exact absurd (hun (call, .resume i) (heq ▸ List.mem_append_right _ List.mem_cons_self)) (resumeOf_ne hi)
  | @released post' pre' _ b cg hun hchild =>
    obtain ⟨hentry, rfl⟩ := oldest_unique (q := fun e => resumeOf parent e.2 ≠ none) heq
      (resumeOf_ne rfl) (resumeOf_ne hi) (fun e he h => h (hun e he)) (fun e he h => h (hpre e he))
    cases hentry
    exact ⟨b, cg, rfl, rfl, hchild⟩

theorem BirthPhase.child_first (h : BirthPhase earlier parent child g since s) (hi : s.Inv)
    (ht : Tracked (since ++ earlier) s) (hc : child ≠ 0) (hend : ∀ entry ∈ since, endsTask child entry.1 = false)
    (hfirst : firstResume child (since ++ earlier) = some i) : ∃ b cg, ChildStarted (since ++ earlier) b child cg := by
  cases h with
  | waiting hslot hout hun =>
    -- a child that is waited for has not been resumed
    obtain ⟨k, -, hheld, -⟩ := hslot
    obtain ⟨kind, rel, hann⟩ := hi.linked.held_child hc hheld
    cases hfirst.symm.trans (ht.fresh.unresumed child (hi.wellFormed.childNew _ _ hann))
  | releasing hx hun hchild => exact ⟨_, _, hchild⟩
  | @released post pre _ b cg hun hchild =>
    obtain ⟨⟨status, htrap, hstop⟩, hresume⟩ := hchild
    refine ⟨b, cg, ⟨status, htrap, ?_⟩, ?_⟩ <;> rw [List.append_cons, List.append_assoc]
    · exact firstStop_append (fun e he => hend e (by rw [List.append_cons]; exact List.mem_append_left _ he)) hstop
    · exact firstResume_append (fun e he => hend e (by rw [List.append_cons]; exact List.mem_append_left _ he)) hresume

/-- A parent whose fork event is accepted is not resumed before its child runs. The event's message
answers the parent's own stop, under that stop's generation. From then on, while no resume names the
parent, it is held and any status reported for it leads to a poisoned planner. The first resume that
does name it answers the confirmation of the child's resume and is a `Syscall` from the stop at the
fork event; by then the child has made its initial stop and that resume was its first, a `Continue`
from there. It stays the child's first for as long as the child is not reaped. -/
theorem supervisor_run_birth_order {later : List (SupervisorCall × Intent)} {token : EventMessageRead}
    {bytes : Table 8 UInt8} {sink : EventSink}
    (h : SupervisorRun (later ++ (.acceptEventMessage token bytes sink, intent) :: earlier) s)
    (hev : isForkEvent token.event = true)
    (hmsg : decodeEventMessage token.event bytes = .ok (.childTid child)) :
    (∃ status sink' rest, earlier = (.observeWait token.rawTid status sink', .readEventMessage token) :: rest ∧
      decodeLinuxWaitStatus status = .ok (.ptraceEvent token.event) ∧ token.stopGeneration = waitCount rest + 1) ∧
    (s.poisoned = none → Unresumed token.rawTid (later ++ [(.acceptEventMessage token bytes sink, intent)]) →
      HoldsParent s token.rawTid child token.stopGeneration ∧
      ∀ status sink', LeadsToPoison s (.observeWait token.rawTid status sink')) ∧
    (∀ post pre call i, later ++ [(.acceptEventMessage token bytes sink, intent)] = post ++ (call, .resume i) :: pre →
      i.rawTid = token.rawTid → Unresumed token.rawTid pre → ∃ b cg,
        call = .confirmResumeSucceeded ⟨b, .onlyOrChild, child, cg, .continue⟩ ∧
        i = ⟨b, .parent, token.rawTid, token.stopGeneration, .syscall⟩ ∧ ChildStarted (pre ++ earlier) b child cg) ∧
    ((∀ entry ∈ later, endsTask child entry.1 = false) → ∀ i,
      firstResume child (later ++ (.acceptEventMessage token bytes sink, intent) :: earlier) = some i →
      i.request = .continue ∧ ∃ status, TrapStop status ∧
        firstStop child (later ++ (.acceptEventMessage token bytes sink, intent) :: earlier) =
          some (status, i.stopGeneration)) := by
  obtain ⟨s₁, s₂, h₁, hcall, hrest⟩ := h.split
  obtain ⟨hp₁, ha⟩ := run_accepts h₁ hcall
  have hi₁ := run_inv h₁ hp₁
  have ht₁ := run_tracked h₁ hp₁
  obtain ⟨hc, hpc, hx, hphase⟩ := birthPhase_announced hi₁ ht₁ hev hmsg ha
  obtain ⟨hhealthy, -, s₀, hi₀, ht₀, hphase₀⟩ := kept_from
    (P := fun later s => Tracked ((later ++ [(.acceptEventMessage token bytes sink, intent)]) ++ earlier) s ∧
      BirthPhase earlier token.rawTid child token.stopGeneration
        (later ++ [(.acceptEventMessage token bytes sink, intent)]) s)
    (by rintro s rfl; exact ⟨inv_accepts hi₁ ha, ht₁.step hi₁ ha, hphase⟩)
    (fun later s call i s' hi ⟨ht, hph⟩ hacc => ⟨ht.step hi hacc, hph.step hi hc hpc ht hacc⟩) hrest
  have happend : later ++ (.acceptEventMessage token bytes sink, intent) :: earlier =
      (later ++ [(.acceptEventMessage token bytes sink, intent)]) ++ earlier := by simp
  refine ⟨?_, fun hp hun => ?_, fun post pre call i heq hi hun => ?_, fun hend i hi => ?_⟩
  · obtain ⟨status, sink', rest, heq, hstatus, hgen⟩ := ht₁.fresh.message _ _ _ _ hx
    exact ⟨status, sink', rest, heq, hstatus, hgen⟩
  · obtain ⟨hi, -, hph⟩ := hhealthy hp
    have hholds := hph.holds hun
    exact ⟨hholds, hholds.wait_poisons hi hc⟩
  · exact hphase₀.release heq hi hun
  · rw [happend] at hi ⊢
    have hend' : ∀ entry ∈ later ++ [(.acceptEventMessage token bytes sink, intent)], endsTask child entry.1 = false :=
      List.forall_mem_append.2 ⟨hend, List.forall_mem_singleton.2 rfl⟩
    obtain ⟨b, cg, ⟨status, htrap, hstop⟩, hresume⟩ := hphase₀.child_first hi₀ ht₀ hc hend' hi
    cases hi.symm.trans hresume
    exact ⟨rfl, status, htrap, hstop⟩

/-- The four newest entries after a birth: both confirmations, the child's stop and the announcement. -/
def isBirthLog : List (SupervisorCall × Intent) → Bool
  | _ :: (_, .resume i) :: stop :: (.acceptEventMessage token bytes _, intent) :: _ =>
    i.rawTid == 100 && token == ⟨1, 100, 2, .fork⟩ &&
      (decodeEventMessage token.event bytes).toOption == some (.childTid 101) &&
      [stop.2, intent].all fun answer => (resumeOf 100 answer).isNone
  | _ => false

theorem supervisor_run_birth_order_forked : ∃ later token bytes sink intent earlier s,
    SupervisorRun (later ++ (.acceptEventMessage token bytes sink, intent) :: earlier) s ∧
    token = ⟨1, 100, 2, .fork⟩ ∧ decodeEventMessage token.event bytes = .ok (.childTid 101) ∧
    ∃ b cg, (.confirmResumeSucceeded ⟨b, .onlyOrChild, 101, cg, .continue⟩, .resume ⟨b, .parent, 100, 2, .syscall⟩) ∈
      later := by
  obtain ⟨log, s, hrun, hcheck⟩ := played_run birthCalls (fun log _ => isBirthLog log) (by decide +kernel)
  unfold isBirthLog at hcheck
  split at hcheck
  · rename_i last call i stop token bytes sink intent earlier
    simp only [Bool.and_eq_true, beq_iff_eq, List.all_cons, List.all_nil, Option.isNone_iff_eq_none, and_true] at hcheck
    obtain ⟨⟨⟨hi, htoken⟩, hmsg⟩, hstop, hannounce⟩ := hcheck
    have hmsg : decodeEventMessage token.event bytes = .ok (.childTid 101) := by
      cases hd : decodeEventMessage token.event bytes with
      | error e =>
        rw [hd] at hmsg
        cases hmsg
      | ok m =>
        rw [hd] at hmsg
        cases hmsg
        rfl
    refine ⟨[last, (call, .resume i), stop], token, bytes, sink, intent, earlier, s, hrun, htoken, hmsg, ?_⟩
    have hrun : SupervisorRun ([last, (call, .resume i), stop] ++
      (.acceptEventMessage token bytes sink, intent) :: earlier) s := hrun
    obtain ⟨-, -, hrelease, -⟩ := supervisor_run_birth_order hrun (by rw [htoken]; rfl) hmsg
    obtain ⟨b, cg, hcall, hi', -⟩ := hrelease [last] [stop, (.acceptEventMessage token bytes sink, intent)] call i rfl
      (by rw [hi, htoken]) (by
        rw [htoken]
        intro entry hentry
        simp only [List.mem_cons, List.not_mem_nil, or_false] at hentry
        rcases hentry with rfl | rfl
        · exact hstop
        · exact hannounce)
    rw [htoken] at hi'
    exact ⟨b, cg, by simp [hcall, hi']⟩
  · cases hcheck

end

end Again.Tracer
