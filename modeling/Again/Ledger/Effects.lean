import Again.Ledger.Changes

/-!
# The statements of the ledger

What each statement, and each short sequence of them that the operations share,
leaves behind when it succeeds.
-/

namespace Again.Ledger

open Lib Gateway

section
variable {ext : Externals} {now : Int} {op : LedgerOp} {db : Tables} {identity : ContextLedgerIdentityV1}

/-! ## The statements -/

variable {Q : Nat → Tables → Prop} {E : LedgerError → Tables → Prop}

@[simp] theorem runs_updateContextLeases {sel : ContextLease → Bool} {write : ContextLease → ContextLease} :
    Runs (updateContextLeases sel write) db Q E ↔
      Q (db.leases.countP sel) { db with leases := updateWhere sel write db.leases } := Iff.rfl

@[simp] theorem runs_updateTasks {sel : TaskRow → Bool} {write : TaskRow → TaskRow} :
    Runs (updateTasks sel write) db Q E ↔
      Q (db.tasks.countP sel) { db with tasks := updateWhere sel write db.tasks } := Iff.rfl

@[simp] theorem runs_retireFacts {sel : FactVersion → Bool} {sequence : Nat} {reason : String} :
    Runs (retireFacts sel sequence reason) db Q E ↔
      Q (db.facts.countP fun f => f.retired = none ∧ sel f) (db.retireFacts sel sequence reason) := Iff.rfl

@[simp] theorem runs_retireReferences {sel : ResultReference → Bool} {sequence : Nat} {reason : String} :
    Runs (retireReferences sel sequence reason) db Q E ↔
      Q (db.references.countP fun r => r.retired = none ∧ sel r) (db.retireReferences sel sequence reason) := Iff.rfl

theorem runs_reserveTaskContextBytes (workspace : Workspace) (bytes : Nat) :
    Runs (reserveTaskContextBytes ext.blake3 workspace bytes) db
      (fun _ t => ∃ row, Charges ext.blake3 db workspace bytes row ∧ t = db.withQuota row) fun _ _ => True := by
  unfold reserveTaskContextBytes
  simp only [runs_bind, runs_get, runs_refuseIf, runs_set, implies_true, true_and]
  intro _ _ _ _ hbounded _
  exact ⟨_, ⟨rfl, rfl, Nat.le_of_not_lt hbounded, rfl⟩, rfl⟩

theorem runs_reconcileTaskQuotaScope (workspace : Workspace) :
    Runs (reconcileTaskQuotaScope ext.blake3 workspace) db
      (fun _ t => ∃ row, Reconciles ext.blake3 db workspace row ∧ t = db.withQuota row) fun _ _ => True := by
  exact ⟨_, ⟨rfl, rfl, rfl⟩, rfl⟩

theorem runs_checkContextIdentity :
    Runs (checkContextIdentity identity) db (fun _ t => t = db ∧ validContextIdentity identity = true) fun _ _ => True := by
  simp [checkContextIdentity]

theorem runs_ensureCurrentContextRecipient :
    Runs (ensureCurrentContextRecipient identity) db
      (fun _ t => t = db ∧ validContextIdentity identity = true ∧ db.isCurrent identity = true) fun _ _ => True := by
  refine runs_checkContextIdentity.bind ?_
  rintro _ t ⟨rfl, hvalid⟩
  simp [hvalid]

theorem runs_checkTtl (ttlMs : UInt64) :
    Runs (checkTtl ttlMs) db (fun _ t => t = db ∧ True) fun _ _ => True := by
  simp [checkTtl]

theorem runs_insertContextLease (new : ContextLease) :
    Runs (insertContextLease new) db
      (fun _ t => t = db.addLease new ∧ ∀ l ∈ db.leases, l.leaseId ≠ new.leaseId) fun _ _ => True := by
  unfold insertContextLease
  simp only [runs_bind, runs_get, runs_refuseIf, runs_modify, implies_true, true_and]
  intro hfresh
  rw [Bool.not_eq_true, List.any_eq_false] at hfresh
  exact ⟨rfl, fun l hl hid => hfresh l hl (by simp [hid])⟩

theorem runs_contextOwnedLeaseDeadline (leaseId : String) :
    Runs (contextOwnedLeaseDeadline identity leaseId) db
      (fun deadline t => t = db ∧ ∃ lease, db.ownedLease? identity leaseId = some lease ∧ deadline = lease.deadlineMs)
      fun _ _ => True := by
  unfold contextOwnedLeaseDeadline
  simp only [runs_bind, runs_get, runs_okOr, runs_pure, implies_true, true_and]
  intro lease hlease
  exact ⟨lease, hlease, rfl⟩

theorem Tables.ownedLease?_eq_some {leaseId : String} {lease : ContextLease}
    (h : db.ownedLease? identity leaseId = some lease) :
    lease ∈ db.leases ∧ lease.leaseId = leaseId ∧ lease.isLedBy identity = true ∧ lease.status = .active := by
  refine ⟨List.mem_of_find?_eq_some h, ?_⟩
  simpa using List.find?_some h

theorem Tables.task?_eq_some {key : TaskKey} {row : TaskRow} (h : db.task? key = some row) :
    row ∈ db.tasks ∧ row.key = key :=
  ⟨List.mem_of_find?_eq_some h, by simpa using List.find?_some h⟩

theorem runs_insertTask (new : TaskRow) (hdefined : new.definitionDigest.isSome) :
    Runs (insertTask new) db
      (fun _ t => t = { db with tasks := db.tasks ++ [new] } ∧ (∀ t ∈ db.tasks, t.key ≠ new.key) ∧
        ∀ t ∈ db.tasks, t.key.scope = new.key.scope → t.definitionDigest ≠ new.definitionDigest) fun _ _ => True := by
  unfold insertTask
  simp only [runs_bind, runs_get, runs_refuseIf, runs_modify, implies_true, true_and]
  intro hfresh
  rw [Bool.not_eq_true, List.any_eq_false] at hfresh
  refine ⟨fun t ht hkey => hfresh t ht (by simp [hkey]), fun t ht hscope hdigest => hfresh t ht ?_⟩
  simp [hscope, hdigest, hdefined]

theorem runs_insertAlias (new : TaskAlias) :
    Runs (insertAlias new) db
      (fun _ t => t = db.addAlias new ∧
        (∀ a ∈ db.aliases, a.scope = new.scope → a.requestedTaskId ≠ new.requestedTaskId) ∧
        ∃ t ∈ db.tasks, t.key = new.canonicalKey) fun _ _ => True := by
  unfold insertAlias
  simp only [runs_bind, runs_get, runs_refuseIf, runs_modify, implies_true, true_and, not_not]
  intro hfresh hknown
  rw [Bool.not_eq_true, List.any_eq_false] at hfresh
  refine ⟨rfl, fun a ha hscope hid => hfresh a ha (by simp [hscope, hid]), ?_⟩
  simpa using hknown

/-- The relations of a task are inserted one by one. -/
theorem runs_insertRelations (relations : List TaskRelation) :
    Runs (relations.forM insertRelation) db
      (fun _ t => t = { db with relations := db.relations ++ relations } ∧
        ∀ r ∈ relations, r.sourceTaskId ≠ r.targetTaskId ∧ ∃ t ∈ db.tasks, t.key = r.targetKey) fun _ _ => True := by
  induction relations generalizing db with
  | nil => simp
  | cons r relations ih =>
    rw [runs_forM_cons]
    have hfirst : Runs (insertRelation r) db
        (fun _ t => t = { db with relations := db.relations ++ [r] } ∧ r.sourceTaskId ≠ r.targetTaskId ∧
          ∃ t ∈ db.tasks, t.key = r.targetKey) fun _ _ => True := by
      unfold insertRelation
      simp only [runs_bind, runs_get, runs_refuseIf, runs_modify, implies_true, true_and, not_not]
      intro _ hself _ hknown
      exact ⟨hself, by simpa using hknown⟩
    refine hfirst.imp ?_
    rintro _ t ⟨rfl, hself, hknown⟩
    refine (ih).imp ?_
    rintro _ u ⟨rfl, hrest⟩
    exact ⟨by simp, List.forall_mem_cons.2 ⟨⟨hself, hknown⟩, hrest⟩⟩

theorem runs_insertTransition (new : TaskTransition) :
    Runs (insertTransition new) db
      (fun _ t => t = db.addTransition { new with sequence := db.lastTransitionSequence + 1 } ∧
        ∀ t ∈ db.transitions, t.key = new.key → t.stateGeneration ≠ new.stateGeneration) fun _ _ => True := by
  unfold insertTransition
  simp only [runs_bind, runs_get, runs_refuseIf, runs_set, implies_true, true_and, not_not]
  intro hfresh _
  rw [Bool.not_eq_true, List.any_eq_false] at hfresh
  exact ⟨rfl, fun t ht hkey hgeneration => hfresh t ht (by simp [hkey, hgeneration])⟩

/-! ## Recording an event -/

theorem runs_insertContextEvent {envelopeDigest canonicalDigest : String} {fields : ContextEventFieldsV1}
    {sources : List ContextVerifiedObservationV1} {dependencies : List GatewayDependencyV1}
    (hsubject : validReasoningIdentifier fields.subjectId = true ∨ ∃ uuid : Octets 16, fields.subjectId = leaseIdOf uuid) :
    Runs (insertContextEvent ext identity envelopeDigest canonicalDigest fields now sources dependencies) db
      (fun sequence t => ∃ event quota, RecordsEvent ext db now identity event quota ∧
        t = (db.withQuota quota).addEvent event ∧ event.sequence = sequence ∧ event.fields = fields ∧
        event.envelopeDigest = envelopeDigest ∧ event.canonicalDigest = canonicalDigest ∧
        event.sources = sources.map ContextVerifiedObservationV1.row ∧ event.dependencies = dependencies)
      fun _ _ => True := by
  refine (runs_reserveTaskContextBytes _ _).bind ?_
  rintro _ t ⟨quota, hcharges, rfl⟩
  simp only [runs_bind, runs_get, runs_refuseIf, runs_set, runs_pure, implies_true, true_and]
  intro _ hfresh
  rw [Bool.not_eq_true, List.any_eq_false] at hfresh
  refine ⟨_, quota, ?records, rfl, rfl, rfl, rfl, rfl, rfl, rfl⟩
  constructor
  case charges => exact hcharges
  case byIdentity => rfl
  case sequence => rfl
  case fresh =>
    intro e he henvelope
    exact hfresh e he (by simpa using henvelope)
  case subject => exact hsubject
  case created => rfl

/-! ## Collecting events -/

theorem runs_deleteEvents (sel : LedgerEvent → Bool) :
    Runs (deleteEvents sel) db
      (fun removed t => t = { db with events := db.events.filter fun e => !sel e } ∧ removed = db.events.countP sel ∧
        ∀ e ∈ db.events, sel e = true → db.holdsEvent e.sequence = false) fun _ _ => True := by
  unfold deleteEvents
  simp only [runs_bind, runs_get, runs_refuseIf, runs_set, runs_pure, implies_true, true_and]
  intro hheld
  rw [Bool.not_eq_true, List.any_eq_false] at hheld
  intro e he hsel
  simpa [hsel] using hheld e he

@[simp] theorem Tables.dropEvents_nil : db.dropEvents [] = db := by
  simp [Tables.dropEvents]

theorem Tables.dropEvents_cons (sequence : Nat) (rest : List Nat) :
    Tables.dropEvents { db with events := db.events.filter fun e => !decide (e.sequence = sequence) } rest =
      db.dropEvents (sequence :: rest) := by
  simp only [Tables.dropEvents, List.filter_filter, List.contains_cons, Bool.not_or]
  congr 1
  refine List.filter_congr fun e _ => ?_
  rw [Bool.and_comm, Bool.beq_eq_decide_eq]

theorem runs_deleteCandidates (sequences : List Nat) :
    Runs (deleteCandidates sequences) db (fun _ t => t = db.dropEvents sequences) fun _ _ => True := by
  induction sequences generalizing db with
  | nil => simp [deleteCandidates]
  | cons sequence rest ih =>
    refine (runs_deleteEvents _).bind ?_
    rintro removed t ⟨rfl, _, _⟩
    refine ih.bind ?_
    rintro _ u rfl
    exact Tables.dropEvents_cons sequence rest

/-- The events that a collection down to a number of events takes. -/
def Tables.collected (db : Tables) (task : ContextTask) (maximumEvents : Nat) : List Nat :=
  ((db.dropRetired task).collectable task).take (db.eventCount task - maximumEvents)

theorem runs_gcContextLedger (task : ContextTask) (maximumEvents : Nat) :
    Runs (gcContextLedger task maximumEvents) db
      (fun _ t => t = (db.dropRetired task).dropEvents (db.collected task maximumEvents)) fun _ _ => True := by
  unfold gcContextLedger
  simp only [runs_bind, runs_get, runs_set]
  exact runs_deleteCandidates _

end

end Again.Ledger
