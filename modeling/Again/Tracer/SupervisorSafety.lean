import Again.Tracer.SupervisorMoves

/-!
# The planner agrees with the recorder

Every accepted call keeps `Inv`. The planner's bookkeeping refusals, and the
recorder refusals its checks are there to exclude, never happen.
-/

namespace Again.Tracer.SupervisorState

open Lib TaskStateRecorder PendingFork Table

variable {j : Fin maxPendingChildStops} {term : LinuxWaitTermination} {kind : TaskChildBirthKind}
  {rel : TaskGroupRelation} {r : TaskStateRecorder} {call : SupervisorCall} {p : Int}

variable {tid : Int} {n : Nat}

/-! ## Linked tables -/

section

variable {forks : Table maxTasks PendingFork} {stops : Table maxPendingChildStops PendingChildStop} {i k : Fin maxTasks}

variable {g g' : Registry} (h : Linked g forks stops)

include h

variable {c : Int} {t : TaskSlot}

theorem Linked.held_child (hc : c ≠ 0) (hi : (forks i).heldChildRawTid = c) :
    ∃ k rel, g.child c = some (.announced (forks i).rawTid k rel) := by
  have hused : (forks i).rawTid ≠ 0 := fun h0 => hc (hi.symm.trans (h.forkEmpty i h0))
  obtain ⟨-, -, -, -, -, -, -, -, -, hann⟩ := h.forkOk i hused
  exact hi ▸ hann (hi ▸ hc)

/-- Only a task without a fork changed. -/
theorem Linked.other_task (hno : ∀ i, (forks i).rawTid ≠ tid) (hchild : g'.child = g.child)
    (htask : ∀ u, u ≠ tid → g'.task u = g.task u) : Linked g' forks stops where
  __ := h
  forkOk := fun i hi => by
    obtain ⟨t, n, obs, ht, hrest⟩ := h.forkOk i hi
    refine ⟨t, n, obs, (htask _ (hno i)).trans ht, ?_⟩
    rw [hchild]
    exact hrest
  held := hchild ▸ h.held
  stopReady := hchild ▸ h.stopReady
  readyStop := hchild ▸ h.readyStop

theorem Linked.put_forkEmpty {fork : PendingFork} (h0 : fork.rawTid = 0 → fork.heldChildRawTid = 0) :
    ∀ k, (forks.put i fork k).rawTid = 0 → (forks.put i fork k).heldChildRawTid = 0 :=
  put_forall (P := fun fork : PendingFork => fork.rawTid = 0 → fork.heldChildRawTid = 0) h0 fun k _ => h.forkEmpty k

/-- An announced child is still held once a slot is written that does not hold it. -/
theorem Linked.held_put {fork : PendingFork} (hc : g.child c = some (.announced p kind rel))
    (hne : (forks i).heldChildRawTid ≠ c) :
    ∃ k, (forks.put i fork k).rawTid = p ∧ (forks.put i fork k).heldChildRawTid = c := by
  obtain ⟨k, hp, hheld⟩ := h.held p c kind rel hc
  have hki : k ≠ i := fun e => hne (e ▸ hheld)
  exact ⟨k, by rw [put_other _ _ hki]; exact ⟨hp, hheld⟩⟩

/-- A fork without a child leaves. -/
theorem Linked.drop_fork (hkeep : ∀ p c k rel, g.child c = some (.announced p k rel) → (forks i).heldChildRawTid ≠ c) :
    Linked g (forks.put i .empty) stops where
  forkInj := h.forkInj.put fun h0 => absurd rfl h0
  forkEmpty := h.put_forkEmpty fun _ => rfl
  forkOk := put_forall (P := fun fork => fork.rawTid ≠ 0 → ForkOk g fork) (absurd rfl) fun k _ => h.forkOk k
  held := fun p c kind rel hc => h.held_put hc (hkeep p c kind rel hc)
  __ := h

/-- A creation syscall begins. -/
theorem Linked.add_fork {fork : PendingFork} (hi : (forks i).rawTid = 0) (hpos : ∀ c x, g.child c = some x → c ≠ 0)
    (h0 : fork.rawTid ≠ 0) (hnew : ∀ k, (forks k).rawTid ≠ fork.rawTid) (hok : ForkOk g fork) :
    Linked g (forks.put i fork) stops where
  forkInj := h.forkInj.put fun _ k _ => hnew k
  forkEmpty := h.put_forkEmpty fun hk => absurd hk h0
  forkOk := put_forall (P := fun fork => fork.rawTid ≠ 0 → ForkOk g fork) (fun _ => hok) fun k _ => h.forkOk k
  held := fun _ c _ _ hc => h.held_put hc fun e => hpos c _ hc (e.symm.trans (h.forkEmpty i hi))
  __ := h

/-- A child stops before it is announced. -/
theorem Linked.add_stop (hc : c ≠ 0) (hpos : ∀ c x, g.child c = some x → c ≠ 0) (hj : (stops j).rawTid = 0)
    (habs : g.child c = none) :
    Linked { g with child := Function.update g.child c (some .ready) } forks (stops.put j ⟨c, n⟩) where
  __ := h
  forkOk := fun i hi => by
    obtain ⟨t, m, obs, ht, hrun, hm, hobs, hpromise, hfree, hheld⟩ := h.forkOk i hi
    refine ⟨t, m, obs, ht, hrun, hm, hobs, hpromise, hfree, fun h0 => ?_⟩
    obtain ⟨kind, rel, hchild⟩ := hheld h0
    have hne : (forks i).heldChildRawTid ≠ c := fun e => by rw [e, habs] at hchild; cases hchild
    exact ⟨kind, rel, by simpa [hne] using hchild⟩
  held := fun p c' kind rel hc' => by
    by_cases hcc : c' = c
    · subst hcc
      simp at hc'
    · simp only [Function.update_of_ne hcc] at hc'
      exact h.held p c' kind rel hc'
  stopInj := h.stopInj.put fun _ k _ hk => by
    have hready := h.stopReady k (hk ▸ hc)
    rw [hk, habs] at hready
    cases hready
  stopReady := fun k hk => by
    by_cases hkj : k = j
    · subst hkj
      simp
    · rw [put_other _ _ hkj] at hk ⊢
      have hready := h.stopReady k hk
      have hne : (stops k).rawTid ≠ c := fun e => by rw [e, habs] at hready; cases hready
      simpa [hne] using hready
  readyStop := fun c' hc' => by
    by_cases hcc : c' = c
    · exact ⟨j, by rw [put_self, hcc]⟩
    · simp only [Function.update_of_ne hcc] at hc'
      obtain ⟨k, hk⟩ := h.readyStop c' hc'
      have hkj : k ≠ j := by
        rintro rfl
        exact hpos c' _ hc' (hk.symm.trans hj)
      exact ⟨k, by rw [put_other _ _ hkj, hk]⟩

/-- The stops left once the child `c` is a task. -/
structure Dropped (stops stops' : Table maxPendingChildStops PendingChildStop) (c : Int) : Prop where
  old : ∀ j, (stops' j).rawTid ≠ 0 → stops' j = stops j ∧ (stops j).rawTid ≠ c
  keep : ∀ j, (stops j).rawTid ≠ c → stops' j = stops j

omit h in
theorem dropped_none (hno : ∀ j, (stops j).rawTid ≠ c) : Dropped stops stops c :=
  ⟨fun j _ => ⟨rfl, hno j⟩, fun _ _ => rfl⟩

theorem Linked.dropped_stop (hj : (stops j).rawTid = c) :
    Dropped stops (stops.put j .empty) c where
  old := fun k hk => by
    have hkj : k ≠ j := by
      rintro rfl
      simp [PendingChildStop.empty] at hk
    rw [put_other _ _ hkj] at hk ⊢
    exact ⟨rfl, fun e => hkj (h.stopInj k j hk (e.trans hj.symm))⟩
  keep := fun k hk => put_other _ _ fun e => hk (e ▸ hj)

/-- The child `c` becomes a task and the fork of its parent is done. -/
theorem Linked.birth {stops' : Table maxPendingChildStops PendingChildStop} {parent : TaskSlot}
    (hi : (forks i).rawTid = p) (hnew : g.task c = none) (hstops : Dropped stops stops' c)
    (hheld : ∀ k, k ≠ i → (forks k).heldChildRawTid ≠ c)
    (hother : ∀ q c' k rel, c' ≠ c → g.child c' = some (.announced q k rel) → (forks i).heldChildRawTid ≠ c') :
    Linked (g.birth p parent c t) (forks.put i .empty) stops' where
  forkInj := h.forkInj.put fun h0 => absurd rfl h0
  forkEmpty := h.put_forkEmpty fun _ => rfl
  forkOk := put_forall (P := fun fork => fork.rawTid ≠ 0 → ForkOk _ fork) (absurd rfl) fun k hki hk => by
    obtain ⟨u, n, obs, hu, hrun, hn, hobs, hpromise, hfree, hann⟩ := h.forkOk k hk
    have hkp : (forks k).rawTid ≠ p := fun e => hki (h.forkInj k i hk (e.trans hi.symm))
    have hkc : (forks k).rawTid ≠ c := fun e => by rw [e, hnew] at hu; cases hu
    refine ⟨u, n, obs, by simpa [Registry.birth, hkp, hkc] using hu, hrun, hn, hobs, hpromise, hfree, fun h0 => ?_⟩
    obtain ⟨kind, rel, hchild⟩ := hann h0
    exact ⟨kind, rel, by simpa [Registry.birth, hheld k hki] using hchild⟩
  held := fun q c' kind rel hc' => by
    by_cases hcc : c' = c
    · subst hcc
      simp [Registry.birth] at hc'
    · simp only [Registry.birth, Function.update_of_ne hcc] at hc'
      exact h.held_put hc' (hother q c' kind rel hcc hc')
  stopInj := fun k m hk hkm => by
    obtain ⟨hk', -⟩ := hstops.old k hk
    obtain ⟨hm', -⟩ := hstops.old m (hkm ▸ hk)
    simp only [hk', hm'] at hk hkm
    exact h.stopInj k m hk hkm
  stopReady := fun k hk => by
    obtain ⟨hk', hne⟩ := hstops.old k hk
    rw [hk'] at hk ⊢
    simpa [Registry.birth, hne] using h.stopReady k hk
  readyStop := fun c' hc' => by
    by_cases hcc : c' = c
    · subst hcc
      simp [Registry.birth] at hc'
    · simp only [Registry.birth, Function.update_of_ne hcc] at hc'
      obtain ⟨k, hk⟩ := h.readyStop c' hc'
      exact ⟨k, by rw [hstops.keep k (hk ▸ hcc), hk]⟩

/-- The fork in slot `i` announces the child `c` and is held until it stops. -/
theorem Linked.hold (hi : (forks i).rawTid = p) (hp : p ≠ 0) (hi0 : (forks i).heldChildRawTid = 0) (hc : c ≠ 0)
    (hpos : ∀ c x, g.child c = some x → c ≠ 0) (ht : g.task p = some t) (habs : g.child c = none) :
    Linked { task := Function.update g.task p (some { t with pendingChildRawTid := c })
             child := Function.update g.child c (some (.announced p kind rel)) }
      (forks.put i { forks i with heldChildRawTid := c, heldParentStopGeneration := n }) stops where
  forkInj := h.forkInj.put fun h0 k hki hk => hki (h.forkInj k i (hk ▸ h0) hk)
  forkEmpty := h.put_forkEmpty fun hk => absurd (hi.symm.trans hk) hp
  forkOk := by
    refine put_forall (P := fun fork => fork.rawTid ≠ 0 → ForkOk _ fork) (fun _ => ?_) fun k hki hk => ?_
    · obtain ⟨u, m, obs, hu, hrun, hm, hobs, hpromise, -⟩ := h.forkOk i (hi ▸ hp)
      rw [hi, ht, Option.some.injEq] at hu
      subst hu
      refine ⟨{ t with pendingChildRawTid := c }, m, obs, ?_⟩
      simp [hi, hrun, hm, hobs, hpromise, hc]
    · obtain ⟨u, m, obs, hu, hrun, hm, hobs, hpromise, hfree, hann⟩ := h.forkOk k hk
      have hkp : (forks k).rawTid ≠ p := fun e => hki (h.forkInj k i hk (e.trans hi.symm))
      refine ⟨u, m, obs, by simpa [hkp] using hu, hrun, hm, hobs, hpromise, hfree, fun h0 => ?_⟩
      obtain ⟨kind', rel', hchild⟩ := hann h0
      have hne : (forks k).heldChildRawTid ≠ c := fun e => by rw [e, habs] at hchild; cases hchild
      exact ⟨kind', rel', by simpa [hne] using hchild⟩
  held := fun q c' kind' rel' hc' => by
    by_cases hcc : c' = c
    · subst hcc
      simp only [Function.update_self, Option.some.injEq, TaskStateRecorder.ChildState.announced.injEq] at hc'
      exact ⟨i, by simp [hi, hc'.1]⟩
    · simp only [Function.update_of_ne hcc] at hc'
      exact h.held_put hc' fun e => hpos c' _ hc' (e.symm.trans hi0)
  stopInj := h.stopInj
  stopReady := fun k hk => by
    have hready := h.stopReady k hk
    have hne : (stops k).rawTid ≠ c := fun e => by rw [e, habs] at hready; cases hready
    simpa [hne] using hready
  readyStop := fun c' hc' => by
    by_cases hcc : c' = c
    · subst hcc
      simp at hc'
    · simp only [Function.update_of_ne hcc] at hc'
      exact h.readyStop c' hc'

/-! ## One observation -/

variable (hw : g.WellFormed)

include hw

/-- A task that is not running inside a creation syscall has no fork. -/
theorem Linked.no_fork (ht : g.task tid = some t)
    (hidle : t.phase ≠ .running ∨ ∀ kind, creationSyscallPermits t.pendingSyscall kind = false) :
    ∀ i, (forks i).rawTid ≠ tid := by
  rintro i rfl
  obtain ⟨u, m, obs, hu, hrun, hm, -, hpromise, -⟩ := h.forkOk i (hw.taskPos _ t ht).ne'
  rw [ht, Option.some.injEq] at hu
  subst hu
  rcases hidle with hphase | hkind
  · exact hphase hrun
  · have hperm := hpromise.permitted
    rw [← hm, hkind] at hperm
    cases hperm

theorem Linked.terminalReap (hs : g.Step (.terminalReap n tid term) g') :
    (∀ i, (forks i).rawTid ≠ tid) ∧ Linked g' forks stops := by
  cases hs with
  | terminalReap ht hphase =>
    have hno := h.no_fork hw ht (.inl (by simp [hphase]))
    exact ⟨hno, h.other_task hno rfl fun u hu => Function.update_of_ne hu _ _⟩

theorem Linked.ptraceExit (hs : g.Step (.ptraceExitEvent n tid term) g') :
    (∀ i, (forks i).rawTid ≠ tid) ∧ Linked g' forks stops := by
  cases hs with
  | ptraceExit ht hrun hres =>
    have hno := h.no_fork hw ht (.inr (resolved_not_creation hres))
    exact ⟨hno, h.other_task hno rfl fun u hu => Function.update_of_ne hu _ _⟩

theorem Linked.exec {former : Int} (hs : g.Step (.exec n tid former) g') : Linked g' forks stops := by
  cases hs with
  | exec ht hrun hn hexec =>
    have hno := h.no_fork hw ht (.inr fun kind => hn ▸ exec_not_creation hexec kind)
    exact h.other_task hno rfl fun u hu => Function.update_of_ne hu _ _

theorem Linked.seccompEntry {m : Nat} (hs : g.Step (.seccompEntry n tid m) g') :
    (∀ i, (forks i).rawTid ≠ tid) ∧ Linked g' forks stops := by
  cases hs with
  | seccompEntry ht hrun hn =>
    have hno := h.no_fork hw ht (.inr fun kind => hn ▸ rfl)
    exact ⟨hno, h.other_task hno rfl fun u hu => Function.update_of_ne hu _ _⟩

/-- A creation syscall that returns has announced no child, or the child is born. -/
theorem Linked.returned {m : Nat} {result : Int} (ht : g.task (forks i).rawTid = some t)
    (hn : t.pendingSyscall = some m)
    (hcreate : isCreationSyscall m = true → checkCreationResult t result = .ok ()) :
    (forks i).heldChildRawTid = 0 := by
  by_contra hheld
  obtain ⟨u, m', obs, hu, -, hm', -, hpromise, -, hann⟩ := h.forkOk i (hw.taskPos _ t ht).ne'
  rw [ht, Option.some.injEq] at hu
  subst hu
  rw [hn, Option.some.injEq] at hm'
  subst hm'
  obtain ⟨kind, rel, hchild⟩ := hann hheld
  obtain ⟨v, hv, -, htid, hready, -⟩ := hw.parent _ _ _ _ hchild
  rw [ht, Option.some.injEq] at hv
  subst hv
  rcases checkCreationResult_ok (hcreate (permits_creation hpromise.permitted))
    with h0 | h0
  · exact hheld (htid.symm.trans h0)
  · rw [hready] at h0
    cases h0

theorem Linked.syscallExit {result : Int} {forks' : Table maxTasks PendingFork}
    (hforks : (∃ i, (forks i).rawTid = tid ∧ forks' = forks.put i .empty) ∨
      ((∀ i, (forks i).rawTid ≠ tid) ∧ forks' = forks))
    (hs : g.Step (.syscallExit n tid result) g') : Linked g' forks' stops := by
  cases hs with
  | syscallExit ht hrun hn hcreate =>
    have hpos := hw.taskPos _ _ ht
    rcases hforks with ⟨i, rfl, rfl⟩ | ⟨hno, rfl⟩
    · have h0 := h.returned hw ht hn hcreate
      have hdrop := h.drop_fork (i := i) fun p c k rel hc => by
        rw [h0]
        exact (hw.childPos c _ hc).ne
      have hno : ∀ k, (forks.put i .empty k).rawTid ≠ (forks i).rawTid :=
        put_forall (P := fun fork : PendingFork => fork.rawTid ≠ (forks i).rawTid) hpos.ne fun k hki hk =>
          hki (h.forkInj k i (hk ▸ hpos.ne') hk)
      exact hdrop.other_task hno rfl fun u hu => Function.update_of_ne hu _ _
    · exact h.other_task hno rfl fun u hu => Function.update_of_ne hu _ _

end

/-! ## Every accepted call -/

section

theorem forksWithout_cases (forks : Table maxTasks PendingFork) (tid : Int) :
    (∃ i, (forks i).rawTid = tid ∧ forksWithout forks tid = forks.put i .empty) ∨
      ((∀ i, (forks i).rawTid ≠ tid) ∧ forksWithout forks tid = forks) := by
  unfold forksWithout
  split
  · rename_i i hfound
    exact .inl ⟨i, beq_iff_eq.1 (position_some hfound), rfl⟩
  · rename_i hnone
    exact .inr ⟨fun i => beq_eq_false_iff_ne.1 (position_none.1 hnone i), rfl⟩

theorem forksWithout_of_none {forks : Table maxTasks PendingFork} (hno : ∀ i, (forks i).rawTid ≠ tid) :
    forksWithout forks tid = forks := by
  rcases forksWithout_cases forks tid with ⟨i, hi, -⟩ | ⟨-, heq⟩
  · exact absurd hi (hno i)
  · exact heq

variable {s : SupervisorState}

theorem Records.step (hi : s.Inv) {obs : Nat → TaskObservation} (h : s.Records obs r) :
    s.taskState.registry.Step (obs s.nextTransportSequence) r.registry := by
  obtain ⟨ev, hobs⟩ := h
  exact (observed_step hi.recorder hobs).2

variable {s' : SupervisorState} {P : List (SupervisorCall × Intent) → SupervisorState → Prop}
  {log : List (SupervisorCall × Intent)}

/-- The invariant after an observation, once the tables are known to be linked again. -/
theorem Inv.recorded (hi : s.Inv) {obs : Nat → TaskObservation} (hrec : s.Records obs r)
    (hpoison : s'.poisoned = s.poisoned) (htask : s'.taskState = r)
    (hseq : s'.nextTransportSequence = s.nextTransportSequence + 1)
    (hlinked : Linked r.registry s'.pendingForks s'.pendingChildStops)
    (hcounts : s'.pendingChildStopCount ≤ s'.awaitingForkEventCount) (hx : s'.ExchangeOk s'.exchange) : s'.Inv := by
  obtain ⟨ev, hobs⟩ := hrec
  subst htask
  refine ⟨hpoison.trans hi.healthy, (observed_step hi.recorder hobs).1,
    (observed_poisoned hobs).trans hi.recorderHealthy, ?_, observed_used hobs,
    hlinked, hcounts, hx⟩
  rw [hseq, observed_sequence hobs, hi.sequence]

/-- The invariant after a change of exchange only. -/
theorem Inv.withExchange (hi : s.Inv) {x : PendingExchange} (hx : s.ExchangeOk x) : (s.withExchange x).Inv :=
  { hi with exchange := hx }

theorem Inv.wellFormed (hi : s.Inv) : s.taskState.registry.WellFormed := registry_wellFormed hi.recorder

theorem exchangeOk_eventStop {b : Nat} {g : Nat} {event : LinuxPtraceEvent} {t : TaskSlot}
    (ht : s.taskState.task tid = some t) (hok : s.EventExpected tid event) :
    s.ExchangeOk (.eventMessage b tid g event) := by
  have hn : s.taskState.pendingSyscallNumber tid = t.pendingSyscall := by rw [pendingSyscallNumber_eq, ht, Option.bind_some]
  refine ⟨t, ht, ?_, ?_⟩
  · rintro rfl
    exact hn.symm.trans hok
  · rintro rfl
    obtain ⟨n, hsome, hexec⟩ := hok
    exact ⟨n, hn.symm.trans hsome, hexec⟩

theorem exchangeOk_syscallStop {b : Nat} {g : Nat} (hn : s.taskState.pendingSyscallNumber tid = some n) :
    s.ExchangeOk (.syscallInfo b tid g .syscallExit) := by
  rw [pendingSyscallNumber_eq] at hn
  obtain ⟨t, ht, hn⟩ := Option.bind_eq_some_iff.1 hn
  exact ⟨t, ht, nofun, fun _ => ⟨n, hn⟩⟩

/-- A child is announced: to a child that stopped first, or to one still to stop. -/
theorem announced_child {c : Int} {g' : Registry}
    (hs : s.taskState.registry.Step (.childAnnouncement n p c kind rel) g') :
    (s.taskState.child c = some .ready ∧ s.taskState.task c = none ∧
      ∃ parent t, g' = s.taskState.registry.birth p parent c t) ∨
    (s.taskState.child c = none ∧ ∃ t, s.taskState.task p = some t ∧
      g' = { task := Function.update s.taskState.task p (some { t with pendingChildRawTid := c })
             child := Function.update s.taskState.child c (some (.announced p kind rel)) }) := by
  cases hs with
  | announce hpc hc ht hrun hn hk h0 hnew habs => exact .inr ⟨habs, _, ht, rfl⟩
  | announceReady hpc hc ht hrun hn hk h0 hnew hready => exact .inl ⟨hready, hnew, _, _, rfl⟩

theorem inv_accepts (hi : s.Inv) {intent : Intent} (h : Accepts s call intent s') : s'.Inv := by
  have hw := hi.wellFormed
  cases h with
  | @reap tid status sink term r hx hfinal hrec hcount =>
    obtain ⟨hno, hlinked⟩ := hi.linked.terminalReap hw (hrec.step hi)
    refine hi.recorded hrec rfl rfl rfl ?_ hcount ?_
    · show Linked r.registry (forksWithout s.pendingForks tid) s.pendingChildStops
      rw [forksWithout_of_none hno]
      exact hlinked
    · simp only [withoutPendingFork_exchange, recorded_exchange, stopped_exchange, hx]
      trivial
  | syscallStop hx hstatus hn => exact hi.stopped.withExchange (exchangeOk_syscallStop hn)
  | eventStop hx hstatus ht hok => exact hi.stopped.withExchange (exchangeOk_eventStop ht hok)
  | @childEarly tid status sink j r hx htrap hpos hnew hchild hcount hj hrec =>
    refine hi.recorded hrec rfl rfl rfl ?_ ?_ ?_
    · have hstep := hrec.step hi
      generalize r.registry = g' at hstep ⊢
      cases hstep with
      | ready hc _ habs => exact hi.linked.add_stop hc.ne' (fun c x h => (hw.childPos c x h).ne') hj habs
      | readyAnnounced hc _ hann => cases hchild.symm.trans hann
    · have hadd : (s.pendingChildStops.put j ⟨tid, s.nextStopGeneration⟩).count PendingChildStop.isUsed =
          s.pendingChildStopCount + 1 :=
        count_put_add (by simp [PendingChildStop.isUsed, hj]) (by simp [PendingChildStop.isUsed, hpos.ne'])
      show (s.pendingChildStops.put j ⟨tid, s.nextStopGeneration⟩).count PendingChildStop.isUsed ≤ _
      rw [hadd]
      exact hcount
    · simp only [withStop_exchange, recorded_exchange, stopped_exchange, hx]
      trivial
  | @childExact tid status sink i r hx htrap hpos hheld hrec =>
    refine hi.recorded hrec rfl rfl rfl ?_ ?_ trivial
    · have hstep := hrec.step hi
      generalize r.registry = g' at hstep ⊢
      obtain ⟨k, rel, hchild⟩ := hi.linked.held_child hpos.ne' hheld
      cases hstep with
      | ready hc _ habs => cases hchild.symm.trans habs
      | readyAnnounced hc hnew hann' ht hrun hk htid =>
        obtain ⟨hp, -, -⟩ : (s.pendingForks i).rawTid = _ ∧ _ ∧ _ := by
          simpa using hchild.symm.trans hann'
        refine hi.linked.birth hp hnew (dropped_none fun j hj => ?_) (fun m hmi hm => hmi ?_) fun q c' k' rel' hne _ => ?_
        · have hready := hi.linked.stopReady j (hj ▸ hpos.ne')
          rw [hj] at hready
          cases hchild.symm.trans hready
        · obtain ⟨k', rel', hchild'⟩ := hi.linked.held_child hpos.ne' hm
          obtain ⟨hmi, -, -⟩ : (s.pendingForks i).rawTid = (s.pendingForks m).rawTid ∧ _ ∧ _ := by
            simpa using hchild.symm.trans hchild'
          refine (hi.linked.forkInj i m (fun h0 => ?_) hmi).symm
          exact hpos.ne' (hheld.symm.trans (hi.linked.forkEmpty i h0))
        · rw [hheld]
          exact hne.symm
    · have heq : (s.pendingForks.put i .empty).count isAwaiting = s.awaitingForkEventCount :=
        count_put_eq (by simp [isAwaiting, empty, hheld, hpos.ne'])
      show s.pendingChildStopCount ≤ (s.pendingForks.put i .empty).count isAwaiting
      rw [heq]
      exact hi.counts
  | seccompEvent hx htoken =>
    obtain ⟨t, ht, hnone, -⟩ := hi.exchangeOk hx
    exact hi.withExchange ⟨t, ht, fun _ => hnone rfl, fun h => by cases h⟩
  | @announceEarly token bytes sink b p c g event i j obs r hx htoken hmsg hev hc hp hi0 hobs hj hrec =>
    refine hi.recorded hrec rfl rfl rfl ?_ ?_ trivial
    · have hstep := hrec.step hi
      have hready := hi.linked.stopReady j (hj ▸ hc.ne')
      rw [hj] at hready
      rcases announced_child hstep with ⟨-, hnew, parent, t, hg⟩ | ⟨habs, -⟩
      · rw [hg]
        refine hi.linked.birth hp hnew (hi.linked.dropped_stop hj) (fun k _ hk => ?_) fun q c' k rel _ hann => ?_
        · obtain ⟨kind, rel, hchild⟩ := hi.linked.held_child hc.ne' hk
          cases hready.symm.trans hchild
        · rw [hi0]
          exact (hw.childPos c' _ hann).ne
      · cases hready.symm.trans habs
    · obtain ⟨t, ht, -⟩ := hi.exchangeOk hx
      have hp0 : (s.pendingForks i).rawTid ≠ 0 := hp ▸ (task_pos hi.recorder ht).ne'
      have hforks : (s.pendingForks.put i .empty).count isAwaiting + 1 = s.awaitingForkEventCount :=
        count_put_sub (by simp [isAwaiting, hp0, hi0]) rfl
      have hstops : (s.pendingChildStops.put j .empty).count PendingChildStop.isUsed + 1 = s.pendingChildStopCount :=
        count_put_sub (by simp [PendingChildStop.isUsed, hj, hc.ne']) rfl
      have hle := hi.counts
      show (s.pendingChildStops.put j .empty).count PendingChildStop.isUsed ≤
        (s.pendingForks.put i .empty).count isAwaiting
      omega
  | @announceHold token bytes sink b p c g event i obs r hx htoken hmsg hev hc hp hi0 hobs hno hcount hrec =>
    obtain ⟨t, ht, -⟩ := hi.exchangeOk hx
    have hp0 : p ≠ 0 := (task_pos hi.recorder ht).ne'
    refine hi.recorded hrec rfl rfl rfl ?_ ?_ trivial
    · rcases announced_child (hrec.step hi) with ⟨hready, -⟩ | ⟨habs, u, hu, hg⟩
      · obtain ⟨j, hj⟩ := hi.linked.readyStop c hready
        exact absurd hj (hno j)
      · rw [hg]
        exact hi.linked.hold hp hp0 hi0 hc.ne' (fun c x h => (hw.childPos c x h).ne') hu habs
    · have hforks :
          (s.pendingForks.put i { s.pendingForks i with heldChildRawTid := c, heldParentStopGeneration := g }).count
          isAwaiting + 1 = s.awaitingForkEventCount :=
        count_put_sub (by simp [isAwaiting, hp, hp0, hi0]) (by simp [isAwaiting, hc.ne'])
      show s.pendingChildStopCount ≤ (s.pendingForks.put i
        { s.pendingForks i with heldChildRawTid := c, heldParentStopGeneration := g }).count isAwaiting
      omega
  | exec hx htoken hrec =>
    exact hi.recorded hrec rfl rfl rfl (hi.linked.exec hw (hrec.step hi)) hi.counts trivial
  | @exitEvent token bytes sink b tid g term r hx htoken hrec hcount =>
    obtain ⟨hno, hlinked⟩ := hi.linked.ptraceExit hw (hrec.step hi)
    refine hi.recorded hrec rfl rfl rfl ?_ hcount trivial
    show Linked r.registry (forksWithout s.pendingForks tid) s.pendingChildStops
    rw [forksWithout_of_none hno]
    exact hlinked
  | permit hx =>
    obtain ⟨t, ht, hnone, -⟩ := hi.exchangeOk hx
    exact hi.withExchange ⟨t, ht, hnone rfl⟩
  | @syscallExit token count buffer sink b tid g result r hx hrec hcount =>
    refine hi.recorded hrec rfl rfl rfl ?_ hcount trivial
    exact hi.linked.syscallExit hw (forksWithout_cases s.pendingForks tid) (hrec.step hi)
  | clone3Read hx => exact hi.withExchange (hi.entry_task (.inl ⟨_, hx⟩))
  | entry hcall hx hn hrec =>
    exact hi.recorded hrec rfl rfl rfl (hi.linked.seccompEntry hw (hrec.step hi)).2 hi.counts trivial
  | @entryFork call tid g n i event obs r hcall hx hobs hi0 hrec =>
    obtain ⟨t, ht, -⟩ := hi.entry_task hx
    have htid : tid ≠ 0 := (task_pos hi.recorder ht).ne'
    obtain ⟨hno, hlinked⟩ := hi.linked.seccompEntry hw (hrec.step hi)
    refine hi.recorded hrec rfl rfl rfl ?_ ?_ trivial
    · have hstep := hrec.step hi
      generalize r.registry = g' at hstep hlinked ⊢
      cases hstep with
      | seccompEntry ht hrun hn =>
        refine hlinked.add_fork hi0 (fun c x h => (hw.childPos c x h).ne') htid hno ?_
        refine ⟨_, n, obs, Function.update_self _ _ _, hrun, rfl, rfl, hobs, fun _ => rfl, fun h => absurd rfl h⟩
    · have hforks : (s.pendingForks.put i ⟨tid, event, some obs, 0, 0⟩).count isAwaiting =
          s.awaitingForkEventCount + 1 :=
        count_put_add (by simp [isAwaiting, hi0]) (by simp [isAwaiting, htid])
      have hle := hi.counts
      show s.pendingChildStopCount ≤ (s.pendingForks.put i ⟨tid, event, some obs, 0, 0⟩).count isAwaiting
      omega
  | confirmNext hx hintent hnext | confirmLast hx hintent hnext => exact hi.withExchange trivial

/-! ## Every run -/

/-- The planner a session starts with: one recorded task and empty tables. -/
theorem begun_eq (h : s.Begun) : ∃ brand tid ev r,
    TaskStateRecorder.Observed .new (.initialBirth 1 tid) ev r ∧
    s = ⟨brand, r, fun _ => .empty, fun _ => .empty, 1, 2, .none, none⟩ := by
  obtain ⟨brand, tid, sink, hbegin⟩ := h
  simp only [begin, bind_eq_ok, rejectIf_eq_ok, exists_unit] at hbegin
  obtain ⟨-, -, hbegin⟩ := hbegin
  have hobs := observe_runs inv_new rfl (.initialBirth 1 tid) sink
  cases ho : observe (.initialBirth 1 tid) sink .new with
  | error e r =>
    rw [ho] at hbegin
    cases hbegin
  | ok ev r =>
    rw [ho] at hbegin
    cases hbegin
    exact ⟨brand, tid, ev, r, (hobs.ok ho).1, rfl⟩

theorem inv_begun (h : s.Begun) : s.Inv := by
  obtain ⟨brand, tid, ev, r, hobs, rfl⟩ := begun_eq h
  obtain ⟨hr, hstep⟩ := observed_step inv_new hobs
  have hchild : ∀ c, r.registry.child c = none := by
    generalize r.registry = g' at hstep
    cases hstep with
    | initialBirth hpos hnone hchild => exact hchild
  refine ⟨rfl, hr, observed_poisoned hobs, (observed_sequence hobs).symm,
    observed_used hobs, ?_, ?_, trivial⟩
  · exact ⟨fun _ _ h => absurd rfl h, fun _ _ => rfl, fun _ h => absurd rfl h, fun p c k rel h => by simp [hchild] at h,
      fun _ _ h => absurd rfl h, fun _ h => absurd rfl h, fun c h => by simp [hchild] at h⟩
  · have hzero : count (fun _ : Fin maxPendingChildStops => PendingChildStop.empty)
        PendingChildStop.isUsed = 0 := count_eq_zero.2 fun _ => rfl
    exact hzero.trans_le (Nat.zero_le _)

theorem poisoned_sticky : Poisoning SupervisorCall.perform SupervisorState.poisoned where
  sticky := fun call s e h => by
    have hreq : requireHealthy s = .error e s := by
      have hget : (get : SupervisorM _) s = .ok s s := rfl
      simp only [requireHealthy, bind, EStateM.bind, hget, h]
      rfl
    have hbind : ∀ f : Unit → SupervisorM Intent, (requireHealthy >>= f) s = .error e s := fun f => by
      show EStateM.bind requireHealthy f s = _
      simp only [EStateM.bind, hreq]
    cases call <;> exact hbind _

/-- A session from states with `Inv` keeps any property its accepted calls keep, together with `Inv`. -/
theorem kept_from {init : SupervisorState → Prop} (hinit : ∀ s, init s → s.Inv ∧ P [] s)
    (hstep : ∀ log s call intent s', s.Inv → P log s → Accepts s call intent s' → P ((call, intent) :: log) s')
    (h : Session SupervisorCall.perform init log s) :
    (s.poisoned = none → s.Inv ∧ P log s) ∧ (∀ e, s.poisoned = some e → e.unreachable = false) ∧
      ∃ s₀ : SupervisorState, s₀.Inv ∧ P log s₀ := by
  have hkept : Kept SupervisorCall.perform init SupervisorState.poisoned (fun log s => s.Inv ∧ P log s)
      (fun e => e.unreachable = false) := by
    refine ⟨fun s hs => ⟨(hinit s hs).1.healthy, hinit s hs⟩, fun log s call _ ⟨hi, hP⟩ => ?_⟩
    refine (perform_runs hi call).mono (fun intent s' ha => ?_) fun e s' he => he
    exact ⟨(inv_accepts hi ha).healthy, inv_accepts hi ha, hstep log s call intent s' hi hP ha⟩
  obtain ⟨h1, h2, s₀, -, h3⟩ := h.kept poisoned_sticky hkept
  exact ⟨h1, h2, s₀, h3⟩

theorem run_kept (hinit : ∀ s, s.Begun → P [] s)
    (hstep : ∀ log s call intent s', s.Inv → P log s → Accepts s call intent s' → P ((call, intent) :: log) s')
    (h : SupervisorRun log s) :
    (s.poisoned = none → s.Inv ∧ P log s) ∧ (∀ e, s.poisoned = some e → e.unreachable = false) ∧
      ∃ s₀ : SupervisorState, s₀.Inv ∧ P log s₀ :=
  kept_from (fun s hs => ⟨inv_begun hs, hinit s hs⟩) hstep h

theorem run_inv (h : SupervisorRun log s) (hp : s.poisoned = none) : s.Inv :=
  ((run_kept (P := fun _ _ => True) (fun _ _ => trivial) (fun _ _ _ _ _ _ _ _ => trivial) h).1 hp).1

theorem run_reason (h : SupervisorRun log s) {e : SupervisorReason} (he : s.poisoned = some e) :
    e.unreachable = false :=
  (run_kept (P := fun _ _ => True) (fun _ _ => trivial) (fun _ _ _ _ _ _ _ _ => trivial) h).2.1 e he

/-- A call accepted in a session is one of the `Accepts` cases, from a healthy state. -/
theorem run_accepts (h : SupervisorRun log s) {intent : Intent} (hc : call.perform s = .ok intent s') :
    s.poisoned = none ∧ Accepts s call intent s' := by
  cases hp : s.poisoned with
  | some e =>
    rw [poisoned_sticky.sticky call s e hp] at hc
    cases hc
  | none => exact ⟨rfl, (perform_runs (run_inv h hp) call).ok hc⟩

/-- The planner's tables against the recorder's, slot by slot. -/
structure Consistent (s : SupervisorState) : Prop where
  recorderHealthy : s.taskState.poisoned = none
  sameSequence : s.nextTransportSequence = s.taskState.nextTransportSequence
  forksDistinct : ∀ i j, (s.pendingForks i).rawTid ≠ 0 → (s.pendingForks j).rawTid ≠ 0 → i ≠ j →
    (s.pendingForks i).rawTid ≠ (s.pendingForks j).rawTid
  forkTask : ∀ i, (s.pendingForks i).rawTid ≠ 0 → ∃ k n,
    s.taskState.findLiveTask (s.pendingForks i).rawTid = some k ∧ (s.taskState.tasks k).phase = .running ∧
    (s.taskState.tasks k).pendingSyscall = some n ∧ isCreationSyscall n = true
  forkHeld : ∀ i c, (s.pendingForks i).rawTid ≠ 0 → c ≠ 0 → ((s.pendingForks i).heldChildRawTid = c ↔
    ∃ j a, (s.taskState.pendingChildren j).rawTid = c ∧ (s.taskState.pendingChildren j).announcement = some a ∧
      (s.taskState.pendingChildren j).readySeen = false ∧
      s.taskState.findLiveTask (s.pendingForks i).rawTid = some a.parentIndex)
  stopsDistinct : ∀ i j, (s.pendingChildStops i).rawTid ≠ 0 → (s.pendingChildStops j).rawTid ≠ 0 → i ≠ j →
    (s.pendingChildStops i).rawTid ≠ (s.pendingChildStops j).rawTid
  stopsReady : ∀ c, c ≠ 0 → ((∃ j, (s.pendingChildStops j).rawTid = c) ↔
    ∃ j, (s.taskState.pendingChildren j).rawTid = c ∧ (s.taskState.pendingChildren j).announcement = none ∧
      (s.taskState.pendingChildren j).readySeen = true)
  stopsCounted : s.pendingChildStopCount ≤ s.awaitingForkEventCount

theorem Inv.fork_held (hi : s.Inv) {i : Fin maxTasks} {c : Int} (hused : (s.pendingForks i).rawTid ≠ 0) (hc : c ≠ 0) :
    (s.pendingForks i).heldChildRawTid = c ↔
      ∃ k rel, s.taskState.child c = some (.announced (s.pendingForks i).rawTid k rel) := by
  refine ⟨fun hheld => hi.linked.held_child hc hheld, fun ⟨k, rel, hchild⟩ => ?_⟩
  obtain ⟨j, hj, hheld⟩ := hi.linked.held _ c k rel hchild
  rwa [hi.linked.forkInj i j hused hj.symm]

theorem Inv.consistent (hi : s.Inv) : s.Consistent where
  recorderHealthy := hi.recorderHealthy
  sameSequence := hi.sequence
  forksDistinct := fun i j hused _ hne heq => hne (hi.linked.forkInj i j hused heq)
  forkTask := fun i hused => by
    obtain ⟨t, n, obs, ht, hrun, hn, -, hpromise, -⟩ := hi.linked.forkOk i hused
    obtain ⟨k, hl, hraw, rfl⟩ := (task_eq_some hi.recorder).1 ht
    refine ⟨k, n, ?_, hrun, hn, permits_creation hpromise.permitted⟩
    rw [← hraw]
    exact findLiveTask_eq hi.recorder hl
  forkHeld := fun i c hused hc => by
    rw [hi.fork_held hused hc, child_announced_iff hi.recorder hc]
  stopsDistinct := fun i j hused _ hne heq => hne (hi.linked.stopInj i j hused heq)
  stopsReady := fun c hc => by
    rw [← child_ready_iff hi.recorder hc]
    refine ⟨?_, hi.linked.readyStop c⟩
    rintro ⟨j, rfl⟩
    exact hi.linked.stopReady j hc
  stopsCounted := hi.counts

/-- While a session is healthy the planner and the recorder agree slot by slot, and no session ends
in a refusal for lack of room or of a correlated fork. -/
theorem supervisor_run_consistent {log : List (SupervisorCall × Intent)} (h : SupervisorRun log s) :
    (s.poisoned = none → s.Consistent) ∧ ∀ e, s.poisoned = some e →
      e ∉ [.duplicatePendingFork, .pendingForkCapacityExceeded, .pendingChildStopCapacityExceeded,
        .childInitialStopCorrelationMissing] := by
  refine ⟨fun hp => (run_inv h hp).consistent, fun e he hmem => ?_⟩
  have hreach := run_reason h he
  simp only [List.mem_cons, List.not_mem_nil, or_false] at hmem
  rcases hmem with rfl | rfl | rfl | rfl <;> cases hreach

/-- The little-endian bytes of an event message. -/
def messageBytes (word : Nat) : Table 8 UInt8 := fun i => UInt8.ofNat (word / 256 ^ i.val)

/-- A seccomp record of a syscall without arguments. -/
def seccompRecord (syscallNumber : UInt8) : SyscallInfoBuffer := fun i =>
  if i.val = 0 then 3 else if i.val = 4 then 0x3e else if i.val = 7 then 0xc0
  else if i.val = 24 then syscallNumber else if i.val = 80 then 0x31 else if i.val = 81 then 0xa7 else 0

/-- Task 100 enters `fork` and is held at the fork event until its child 101 stops. -/
def forkCalls : List SupervisorCall :=
  let sink : EventSink := fun _ => true
  [.observeWait 100 0x7057f sink,
    .acceptEventMessage ⟨1, 100, 1, .seccomp⟩ (messageBytes traceAllNativeSeccompCookie) sink,
    .acceptSyscallInfo ⟨1, 100, 1, .seccompEntry⟩ 84 (seccompRecord 57) sink,
    .consumeStoppedSeccompPermit ⟨1, 100, 1, ⟨0, forkNr, fun _ => 0⟩⟩ sink,
    .confirmResumeSucceeded ⟨1, .onlyOrChild, 100, 1, .syscall⟩,
    .observeWait 100 0x1057f sink,
    .acceptEventMessage ⟨1, 100, 2, .fork⟩ (messageBytes 101) sink]

/-- The session after `calls`, if it satisfies `check`. -/
theorem played_run (calls : List SupervisorCall) (check : List (SupervisorCall × Intent) → SupervisorState → Bool)
    (h : okAnd (begin 1 100 fun _ => true) (fun s =>
      check (play SupervisorCall.perform calls ([], s)).1 (play SupervisorCall.perform calls ([], s)).2) = true) :
    ∃ log s, SupervisorRun log s ∧ check log s = true := by
  obtain ⟨s, hs, hcheck⟩ := okAnd_eq_true h
  exact ⟨_, _, (Session.start ⟨1, 100, _, hs⟩).play calls, hcheck⟩

theorem supervisor_run_consistent_held : ∃ log s, SupervisorRun log s ∧ s.poisoned = none ∧ s.Consistent ∧
    (s.pendingForks 0).heldChildRawTid = 101 := by
  obtain ⟨log, s, hrun, hcheck⟩ := played_run forkCalls
    (fun _ s => s.poisoned.isNone && (s.pendingForks 0).heldChildRawTid == 101) (by decide +kernel)
  simp only [Bool.and_eq_true, Option.isNone_iff_eq_none, beq_iff_eq] at hcheck
  exact ⟨log, s, hrun, hcheck.1, (supervisor_run_consistent hrun).1 hcheck.1, hcheck.2⟩

/-- The recorder refusals the planner's checks and decoders exclude never poison it. -/
theorem supervisor_run_excludes {log : List (SupervisorCall × Intent)} (h : SupervisorRun log s)
    {reason : TaskExecuteOnlyReason}
    (hr : reason ∈ [.sequenceMismatch, .initialBirthRequired, .duplicateInitialBirth, .invalidRawTid, .unknownRawTid,
      .parentNotRunning, .childAnnouncementWithoutEntry, .childAnnouncementSyscallMismatch,
      .duplicateChildAnnouncement, .duplicateChildReady, .birthGroupRelationMismatch, .execWithoutEntry,
      .execSyscallMismatch, .duplicateSeccompEntry, .syscallExitWithoutEntry, .invalidTermination]) :
    s.poisoned ≠ some (.taskState reason) := by
  intro he
  have hreach := run_reason h he
  have hin : TaskStateRecorder.plannerExcluded.contains reason = true := List.contains_iff_mem.2 hr
  rw [SupervisorReason.unreachable, hin] at hreach
  cases hreach

/-- A task that is gone before its exit event poisons the planner, but not as an unknown task. -/
theorem supervisor_run_excludes_unknown : ∃ log s, SupervisorRun log s ∧
    s.poisoned = some (.taskState .reapBeforePtraceExit) ∧ s.poisoned ≠ some (.taskState .unknownRawTid) := by
  obtain ⟨log, s, hrun, hcheck⟩ := played_run [.observeWait 100 0 fun _ => true]
    (fun _ s => s.poisoned == some (.taskState .reapBeforePtraceExit)) (by decide +kernel)
  exact ⟨log, s, hrun, beq_iff_eq.1 hcheck, supervisor_run_excludes hrun (by decide)⟩

end

end Again.Tracer.SupervisorState
