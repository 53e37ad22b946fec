import Again.Ledger.TaskEffects

/-!
# Runs of changes

Every operation makes changes of the list or leaves the tables alone, so what
each change keeps holds in every state a run reaches.
-/

namespace Again.Ledger

open Lib Gateway

variable {calls : List Call} {op : LedgerOp} {c : Call} {I : Tables → Prop}

variable {db : Tables}

section
variable {ext : Externals} {now : Int}

/-! ## Reading changes nothing -/

/-- A program that leaves the tables as they are. -/
theorem performs_of_unchanged {α : Type} {x : LedgerTx α} (h : Runs x db (fun _ t => t = db) fun _ t => t = db) :
    Performs ext now op x db :=
  h.imp (by rintro _ t rfl; exact .refl)

theorem reads_ensureCurrentContextRecipient {identity : ContextLedgerIdentityV1} :
    Runs (ensureCurrentContextRecipient identity) db (fun _ t => t = db) fun _ t => t = db := by
  unfold ensureCurrentContextRecipient checkContextIdentity
  simp

theorem reads_contextTaskSnapshotV1 (identity : ContextLedgerIdentityV1) :
    Runs (contextTaskSnapshotV1 now identity) db (fun _ t => t = db) fun _ t => t = db := by
  refine reads_ensureCurrentContextRecipient.bind ?_
  rintro _ t rfl
  simp only [runs_bind, runs_get, runs_attempt, implies_true, and_self]

theorem reads_contextDeltaAfterV1 (identity : ContextLedgerIdentityV1) (after limit : Nat) :
    Runs (contextDeltaAfterV1 identity after limit) db (fun _ t => t = db) fun _ t => t = db := by
  unfold contextDeltaAfterV1
  rw [runs_bind, runs_refuseIf]
  refine ⟨fun _ => rfl, fun _ => ?_⟩
  refine reads_ensureCurrentContextRecipient.bind ?_
  rintro _ t rfl
  simp only [runs_bind, runs_get, runs_attempt, runs_pure, implies_true, and_self]

theorem reads_retrieveContextResultV1 {blake3 : Bytes → Octets 32} (outside : Outside)
    (identity : ContextLedgerIdentityV1) (gatewayResultId : String) :
    Runs (retrieveContextResultV1 blake3 outside identity gatewayResultId) db (fun _ t => t = db) fun _ t => t = db := by
  unfold retrieveContextResultV1
  rw [runs_bind, runs_refuseIf]
  refine ⟨fun _ => rfl, fun _ => ?_⟩
  refine reads_ensureCurrentContextRecipient.bind ?_
  rintro _ t rfl
  simp only [runs_bind, runs_get, runs_okOr, runs_refuseIf, runs_attempt, runs_pure, implies_true, and_self]

/-! ## Every operation -/

theorem Performs.map {α β : Type} {x : LedgerTx α} {g : α → β} (h : Performs ext now op x db) :
    Performs ext now op (g <$> x) db := by
  unfold Performs
  rw [runs_map]
  exact h

theorem LedgerOp.performs (op : LedgerOp) : Performs ext now op (op.perform ext now) db := by
  cases op with
  | gateway tables => exact .single (Change.gateway tables)
  | stored tables => exact .tail (.single (Change.gateway tables)) Change.refresh
  | resolve scope requested prompt => exact (performs_resolveContextTaskV1 scope requested prompt).map
  | start scope requested supplied => exact (performs_startTaskV1 scope requested supplied).map
  | delete scope requested => exact (performs_deleteTaskV1 scope requested).map
  | activate identity => exact performs_activateContextRecipientV1.map
  | retire identity => exact performs_retireContextRecipientV1.map
  | admitFact identity envelope version fact sources =>
      exact (performs_admitContextFactV1 envelope version fact sources).map
  | append identity envelope input => exact (performs_appendContextEventV1 envelope input).map
  | invalidate identity envelope changes => exact (performs_invalidateContextDependenciesV1 envelope changes).map
  | acknowledge identity response through delivered omitted =>
    exact (performs_acknowledgeContextDeliveryV1 response through delivered omitted).map
  | gc identity maximumEvents => exact (performs_gcContextLedgerV1 maximumEvents).map
  | acquire uuid identity workKey summary ttl deadline =>
    exact (performs_acquireContextLeaseV1 uuid workKey summary ttl deadline).map
  | observe identity workKey => exact (performs_observeContextLeaseV1 workKey).map
  | heartbeat identity leaseId ttl => exact (performs_heartbeatContextLeaseV1 leaseId ttl).map
  | finish identity leaseId succeeded => exact (performs_finishContextLeaseV1 leaseId succeeded).map
  | cancel identity leaseId => exact (performs_cancelContextLeaseV1 leaseId).map
  | claim uuid identity generation ttl deadline => exact (performs_claimTaskV1 uuid generation ttl deadline).map
  | transition identity leaseId generation target reason =>
    exact (performs_transitionTaskV1 leaseId generation target reason).map
  | snapshot identity => exact (performs_of_unchanged (reads_contextTaskSnapshotV1 identity)).map
  | delta identity after limit => exact (performs_of_unchanged (reads_contextDeltaAfterV1 identity after limit)).map
  | retrieve identity gatewayResultId blobFile =>
    exact (performs_of_unchanged (reads_retrieveContextResultV1 _ identity gatewayResultId)).map

end

section
variable {ext : Externals}

/-- What a call leaves behind is reached by changes, and a refusal leaves everything. -/
theorem changes_callOf (now : Int) (op : LedgerOp) (db : Tables) : Changes ext now op db (callOf ext now op db).after := by
  have hperforms : Performs ext now op (op.perform ext now) db := op.performs
  unfold callOf
  cases hrun : op.perform ext now db with
  | ok reply after => exact hperforms.ok hrun
  | error error after =>
    obtain rfl := hperforms.error hrun
    exact .refl

/-- What every change keeps, a call keeps. -/
theorem Changes.keeps {now : Int} {db' : Tables} (hstep : ∀ {s t}, I s → Change ext now op s t → I t)
    (h : Changes ext now op db db') (hdb : I db) : I db' := by
  induction h with
  | refl => exact hdb
  | tail _ hchange ih => exact hstep ih hchange

/-- What holds of the empty schema and every change keeps, every run keeps. -/
theorem Run.keeps (hempty : I {}) (hstep : ∀ {now op s t}, I s → Change ext now op s t → I t) (h : Run ext calls db) :
    I db := by
  induction h with
  | empty => exact hempty
  | call _ now op ih => exact (changes_callOf now op _).keeps hstep ih

@[simp] theorem callOf_now (now : Int) (op : LedgerOp) (db : Tables) : (callOf ext now op db).now = now := by
  unfold callOf
  split <;> rfl

@[simp] theorem callOf_op (now : Int) (op : LedgerOp) (db : Tables) : (callOf ext now op db).op = op := by
  unfold callOf
  split <;> rfl

@[simp] theorem callOf_before (now : Int) (op : LedgerOp) (db : Tables) : (callOf ext now op db).before = db := by
  unfold callOf
  split <;> rfl

/-- A call is refused and leaves what it found, or returns what its operation returns. -/
theorem reply_of_callOf (hc : c = callOf ext c.now c.op c.before) {Q : LedgerReply → Tables → Prop}
    {E : LedgerError → Tables → Prop} (h : Runs (c.op.perform ext c.now) c.before Q E) :
    (∃ error, c.reply = .error error) ∧ c.after = c.before ∨ ∃ reply, c.reply = .ok reply ∧ Q reply c.after := by
  have hperforms : Performs ext c.now c.op (c.op.perform ext c.now) c.before := c.op.performs
  rw [hc, callOf_before]
  unfold callOf
  cases hrun : c.op.perform ext c.now c.before with
  | ok reply after => exact .inr ⟨reply, rfl, h.ok hrun⟩
  | error error after => exact .inl ⟨⟨error, rfl⟩, hperforms.error hrun⟩

theorem changes_of_callOf (hc : c = callOf ext c.now c.op c.before) : Changes ext c.now c.op c.before c.after := by
  have hchanges : Changes ext c.now c.op c.before (callOf ext c.now c.op c.before).after := changes_callOf _ _ _
  rwa [← hc] at hchanges

/-- Every call begins where the one before it ended, and the last one ends in the state reached. -/
theorem Run.chained (h : Run ext calls db) :
    (calls.IsChain fun c d => c.after = d.before) ∧ ∀ c ∈ calls.getLast?, c.after = db := by
  induction h with
  | empty => simp
  | call hrun now op ih =>
    refine ⟨?_, by simp⟩
    rw [List.isChain_append]
    refine ⟨ih.1, by simp, ?_⟩
    intro c hc d hd
    obtain rfl : callOf ext now op _ = d := by simpa using hd
    rw [callOf_before]
    exact ih.2 c hc

/-- A run that ends in a call is a run with that call. -/
theorem Run.of_concat (h : Run ext (calls ++ [c]) db) :
    ∃ before, Run ext calls before ∧ c = callOf ext c.now c.op before ∧ db = c.after := by
  generalize hcalls : calls ++ [c] = all at h
  cases h with
  | empty => simp at hcalls
  | call hrun now op =>
    obtain ⟨rfl, hc⟩ := List.append_inj' hcalls rfl
    obtain rfl : c = _ := by simpa using hc
    exact ⟨_, hrun, by rw [callOf_now, callOf_op], rfl⟩

/-- The calls of a run determine the state it reaches. -/
theorem Run.state_unique {s t : Tables} (hs : Run ext calls s) (ht : Run ext calls t) : s = t := by
  induction hs generalizing t with
  | empty =>
    generalize hcalls : ([] : List Call) = calls at ht
    cases ht with
    | empty => rfl
    | call => simp at hcalls
  | call hrun now op ih =>
    obtain ⟨before, _, _, rfl⟩ := ht.of_concat
    rfl

/-- Every call of a run was made in a state that a run reaches. -/
theorem Run.before_of_mem (h : Run ext calls db) (hc : c ∈ calls) :
    c = callOf ext c.now c.op c.before ∧ ∃ earlier, Run ext earlier c.before := by
  induction h with
  | empty => simp at hc
  | @call calls db hrun now op ih =>
    rcases mem_concat.1 hc with hc | rfl
    · exact ih hc
    · rw [callOf_now, callOf_op, callOf_before]
      exact ⟨rfl, calls, hrun⟩

/-- The run that operations make one after the other, each at its time. -/
def record (ext : Externals) (steps : List (Int × LedgerOp)) : List Call × Tables :=
  steps.foldl (fun state step =>
    (state.1 ++ [callOf ext step.1 step.2 state.2], (callOf ext step.1 step.2 state.2).after)) ([], {})

theorem run_record (steps : List (Int × LedgerOp)) : Run ext (record ext steps).1 (record ext steps).2 := by
  refine List.foldlRecOn (motive := fun state : List Call × Tables => Run ext state.1 state.2) steps _ .empty ?_
  intro state hrun step _
  exact hrun.call step.1 step.2

end

end Again.Ledger
