import Again.Ledger.Effects

/-!
# The operations make changes

One lemma per operation: what it leaves behind is reached from what it found by
changes of the list, and when it fails it leaves what it found.
-/

namespace Again.Ledger

open Lib Gateway

section
variable {ext : Externals} {now : Int} {op : LedgerOp} {db : Tables} {identity : ContextLedgerIdentityV1}
  {α β : Type}

/-! ## Making changes -/

/-- A program that makes changes, or fails. -/
def Makes (ext : Externals) (now : Int) (op : LedgerOp) {α : Type} (x : LedgerTx α) (db : Tables) : Prop :=
  Runs x db (fun _ => Changes ext now op db) fun _ _ => True

theorem makes_pure (a : α) : Makes ext now op (pure a) db := Relation.ReflTransGen.refl

variable {x : LedgerTx α} {f : α → LedgerTx β} {sequence : Nat} {input : ContextLedgerEventInputV1}

/-- What follows changes that were made already. -/
theorem Makes.after {t : Tables} (hx : Makes ext now op x t) (h : Changes ext now op db t) :
    Runs x t (fun _ => Changes ext now op db) fun _ _ => True :=
  hx.mono (fun _ _ hu => h.trans hu) fun _ _ _ => trivial

theorem Makes.bind (hx : Makes ext now op x db) (hf : ∀ a t, Makes ext now op (f a) t) :
    Makes ext now op (x >>= f) db :=
  Runs.bind hx fun a t ht => (hf a t).after ht

/-- Changes that say something about what they leave. -/
theorem Makes.bindWith {R : α → Tables → Prop}
    (hx : Runs x db (fun a t => Changes ext now op db t ∧ R a t) fun _ _ => True)
    (hf : ∀ a t, R a t → Makes ext now op (f a) t) : Makes ext now op (x >>= f) db :=
  Runs.bind hx fun a t ht => (hf a t ht.2).after ht.1

/-- A program that only reads. -/
theorem Makes.reads {R : α → Prop} (hx : Runs x db (fun a t => t = db ∧ R a) fun _ _ => True)
    (hf : ∀ a, R a → Makes ext now op (f a) db) : Makes ext now op (x >>= f) db := by
  refine Runs.bind hx ?_
  rintro a t ⟨rfl, ha⟩
  exact hf a ha

theorem makes_attempt {o : Except LedgerError α} : Makes ext now op (attempt o) db := by
  unfold Makes
  rw [runs_attempt]
  exact ⟨fun _ _ => trivial, fun _ _ => .refl⟩

theorem makes_refuseIf {c : Prop} [Decidable c] {e : LedgerError} : Makes ext now op (refuseIf c e) db := by
  unfold Makes
  rw [runs_refuseIf]
  exact ⟨fun _ => trivial, fun _ => .refl⟩

/-- An operation makes its changes, or fails and changes nothing. -/
def Performs (ext : Externals) (now : Int) (op : LedgerOp) {α : Type} (x : LedgerTx α) (db : Tables) : Prop :=
  Runs x db (fun _ => Changes ext now op db) fun _ t => t = db

theorem Makes.atomically (h : Makes ext now op x db) : Performs ext now op (atomically x) db :=
  Runs.atomically h

/-! ## Events -/

theorem Makes.current_bind {f : Unit → LedgerTx β} (hf : Makes ext now op (f ()) db) :
    Makes ext now op (ensureCurrentContextRecipient identity >>= f) db :=
  Makes.reads runs_ensureCurrentContextRecipient fun _ _ => hf

theorem makes_collectContextLedger (hop : op.identity? = some identity) (hcollects : op.collects = true)
    (maximumEvents : Nat) : Makes ext now op (collectContextLedger ext identity maximumEvents) db := by
  refine (runs_gcContextLedger _ _).bind ?_
  rintro report t rfl
  refine (runs_reconcileTaskQuotaScope _).bind ?_
  rintro _ u ⟨quota, hreconciles, rfl⟩
  refine .tail (.single (Change.dropRetired identity hop hcollects)) ?_
  exact Change.collect identity _ quota hop (fun s hs => List.mem_of_mem_take hs) hreconciles hcollects

theorem makes_enforceContextQuota (hop : op.identity? = some identity) (hcollects : op.collects = true) :
    Makes ext now op (enforceContextQuota ext identity) db := by
  apply Runs.past_get
  generalize maxContextLedgerEventsPerTask - 1 = maximumEvents
  split
  · refine Makes.bind (makes_collectContextLedger hop hcollects maximumEvents) fun _ t => ?_
    exact makes_refuseIf
  · exact makes_pure ()

/-- The event, recorded by the identity of the operation. -/
def Tables.HasEvent (db : Tables) (identity : ContextLedgerIdentityV1) (sequence : Nat) : Prop :=
  ∃ e ∈ db.events, e.sequence = sequence ∧ e.identity = identity

/-- A new event is recorded, and is in the ledger from then on. -/
theorem makes_admitEvent (hop : op.identity? = some identity) (hcollects : op.collects = true)
    {envelopeDigest canonicalDigest : String} {fields : ContextEventFieldsV1} {sources : List ContextVerifiedObservationV1}
    (hsubject : validReasoningIdentifier fields.subjectId = true) :
    Runs (admitEvent ext now identity envelopeDigest canonicalDigest fields sources) db
      (fun sequence t => Changes ext now op db t ∧ t.HasEvent identity sequence) fun _ _ => True := by
  have hquota : Makes ext now op (enforceContextQuota ext identity) db := makes_enforceContextQuota hop hcollects
  refine Runs.bind hquota fun _ t ht => ?_
  simp only [runs_bind, runs_get, runs_attempt, implies_true, true_and]
  intro dependencies _
  refine (runs_insertContextEvent (.inl hsubject)).imp ?_
  rintro sequence u ⟨event, quota, hrecords, rfl, rfl, _⟩
  refine ⟨ht.tail (Change.record identity event quota hop hrecords), event, ?_, rfl, hrecords.byIdentity⟩
  simp [Tables.addEvent]

theorem runs_insertFactVersion (new : FactVersion) :
    Runs (insertFactVersion new) db
      (fun _ t => t = db.addFact new ∧ ∀ f ∈ db.facts, f.task = new.task → f.factId = new.factId →
        f.factVersion ≠ new.factVersion) fun _ _ => True := by
  unfold insertFactVersion
  simp only [runs_bind, runs_get, runs_refuseIf, runs_modify, implies_true, true_and]
  intro hfresh _
  rw [Bool.not_eq_true, List.any_eq_false] at hfresh
  exact ⟨rfl, fun f hf htask hid hversion => hfresh f hf (by simp [htask, hid, hversion])⟩

theorem runs_insertResultReference (new : ResultReference) :
    Runs (insertResultReference new) db
      (fun _ t => t = db.addReference new ∧ ∀ r ∈ db.references, r.task = new.task → r.resultId = new.resultId →
        r.referenceVersion ≠ new.referenceVersion) fun _ _ => True := by
  unfold insertResultReference
  simp only [runs_bind, runs_get, runs_refuseIf, runs_modify, implies_true, true_and]
  intro hfresh _
  rw [Bool.not_eq_true, List.any_eq_false] at hfresh
  exact ⟨rfl, fun r hr htask hid hversion => hfresh r hr (by simp [htask, hid, hversion])⟩

/-- The selected rows are retired, whether they were before or not. -/
theorem retired_of_updateWhere {ρ σ : Type} [DecidableEq σ] {retired : ρ → Option σ} {sel : ρ → Bool} {write : ρ → ρ}
    (hwrite : ∀ r, retired (write r) ≠ none) {rows : List ρ} {r : ρ}
    (hr : r ∈ updateWhere (fun r => retired r = none ∧ sel r) write rows) (hsel : sel r = true) : retired r ≠ none := by
  obtain ⟨old, _, rfl⟩ := mem_updateWhere.1 hr
  by_cases hold : retired old = none ∧ sel old = true
  · simp [hold, hwrite]
  · rw [if_neg (by simpa using hold)] at hsel ⊢
    exact fun hnone => hold ⟨hnone, hsel⟩

/-- A check that begins with an identifier. -/
theorem valid_of_checkIdentifier {value : String} {rest : Unit → Except ReasoningContextRefusalV1 α} {a : α}
    (h : (checkIdentifier value >>= rest) = .ok a) : validReasoningIdentifier value = true := by
  simp only [checkIdentifier, bind_eq_ok, rejectIf_eq_ok, exists_unit] at h
  simpa using h.1

/-- `admit_context_fact_v1` records its event, retires the lower versions and adds the fact. -/
theorem performs_admitContextFactV1 (envelopeDigest : String) (factVersion : UInt64)
    (fact : Checked ReasoningFactV1.check) (sources : List ContextVerifiedObservationV1) :
    Performs ext now (.admitFact identity envelopeDigest factVersion fact sources)
      (admitContextFactV1 ext now identity envelopeDigest factVersion fact sources) db := by
  apply Makes.atomically
  refine Runs.past_attempt fun _ _ => ?_
  refine Runs.past_refuseIf fun _ => ?_
  refine Makes.current_bind ?_
  refine Runs.past_attempt fun duplicate _ => ?_
  cases duplicate with
  | some sequence => exact makes_pure _
  | none =>
    have hsubject : validReasoningIdentifier (factFields fact.val factVersion).subjectId = true :=
      valid_of_checkIdentifier fact.property
    refine Makes.bindWith (makes_admitEvent rfl rfl hsubject) fun sequence t hevent => ?_
    refine (runs_insertFactVersion _).bind ?_
    rintro _ u ⟨rfl, hfresh⟩
    refine .tail (.single (Change.retireFacts identity _ sequence "superseded" rfl (.inl rfl) ?_ hevent))
      (Change.addFact identity _ rfl rfl rfl ⟨_, _, _, rfl, rfl⟩ hevent hfresh ?_)
    · intro f _ hsel
      simp only [decide_eq_true_eq] at hsel
      exact hsel.1
    · intro f hf htask hid hversion
      exact retired_of_updateWhere (by simp) hf (by simp [htask, hid, hversion])

/-- Every event an agent appends has an identifier as its subject. -/
theorem subject_of_contextEventInputFields {e : ContextEventFieldsV1 × EventPayload × List ContextVerifiedObservationV1}
    (h : contextEventInputFields input = .ok e) : validReasoningIdentifier e.1.subjectId = true := by
  cases input with
  | unverifiedSuggestion item | completedObservation item | explicitUnknown item | resultReference item =>
    simp only [contextEventInputFields, bind_eq_ok, exists_unit, pure_eq_ok] at h
    obtain ⟨_, rfl⟩ := h
    exact valid_of_checkIdentifier item.property
  | failedApproach approach sources =>
    simp only [contextEventInputFields, bind_eq_ok, exists_unit, pure_eq_ok] at h
    obtain ⟨_, _, rfl⟩ := h
    exact valid_of_checkIdentifier approach.property
  | retirement subjectId version reason =>
    simp only [contextEventInputFields, bind_eq_ok, rejectIf_eq_ok, exists_unit, pure_eq_ok] at h
    obtain ⟨hid, _, rfl⟩ := h
    simpa using hid

theorem makes_applyContextEvent {envelopeDigest : String} (hevent : db.HasEvent identity sequence) :
    Makes ext now (.append identity envelopeDigest input) (applyContextEvent identity sequence input) db := by
  cases input with
  | resultReference reference version sources =>
    refine (runs_insertResultReference _).mono ?_ fun _ _ _ => trivial
    rintro _ u ⟨rfl, hfresh⟩
    refine .tail (.single (Change.retireReferences identity _ sequence "superseded" rfl (.inl rfl) ?_ hevent))
      (Change.addReference identity _ rfl rfl rfl ⟨_, _, _, rfl, rfl⟩ hevent hfresh ?_)
    · intro r _ hsel
      simp only [decide_eq_true_eq] at hsel
      exact hsel.1
    · intro r hr htask hid hversion
      exact retired_of_updateWhere (by simp) hr (by simp [htask, hid, hversion])
  | retirement subjectId version reason =>
    unfold Makes applyContextEvent
    rw [runs_bind, runs_retireFacts, runs_bind, runs_retireReferences, runs_refuseIf]
    refine ⟨fun _ => trivial, fun _ => ?_⟩
    refine .tail (.single (Change.retireFacts identity _ sequence reason rfl (.inr rfl) ?_ hevent))
      (Change.retireReferences identity _ sequence reason rfl (.inr rfl) ?_ hevent)
    all_goals exact fun row _ hsel => (of_decide_eq_true hsel).1
  | unverifiedSuggestion | completedObservation | failedApproach | explicitUnknown => exact makes_pure _

theorem performs_appendContextEventV1 (envelopeDigest : String) (input : ContextLedgerEventInputV1) :
    Performs ext now (.append identity envelopeDigest input)
      (appendContextEventV1 ext now identity envelopeDigest input) db := by
  apply Makes.atomically
  refine Runs.past_refuseIf fun _ => ?_
  refine Runs.past_attempt fun e he => ?_
  obtain ⟨fields, payload, sources⟩ := e
  refine Runs.past_attempt fun _ _ => ?_
  refine Makes.current_bind ?_
  refine Runs.past_attempt fun duplicate _ => ?_
  cases duplicate with
  | some sequence => exact makes_pure _
  | none =>
    have hsubject : validReasoningIdentifier fields.subjectId = true := subject_of_contextEventInputFields he
    refine Makes.bindWith (makes_admitEvent rfl rfl hsubject) fun sequence t hevent => ?_
    exact Makes.bind (makes_applyContextEvent hevent) fun _ _ => makes_pure _

/-! ## Invalidation -/

/-- The event depends otherwise on one of the changes. -/
def Tables.contradicted (db : Tables) (changes : List GatewayDependencyV1) (sequence : Nat) : Bool :=
  changes.any (db.dependsOtherwise · sequence)

theorem Tables.contradicted_cons (own : Prop) [Decidable own] (change : GatewayDependencyV1)
    (rest : List GatewayDependencyV1) :
    (decide (own ∧ db.dependsOtherwise change sequence = true) || decide own && db.contradicted rest sequence) =
      (decide own && db.contradicted (change :: rest) sequence) := by
  by_cases hown : own <;> simp [hown, Tables.contradicted]

variable {task : ContextTask} {E : LedgerError → Tables → Prop}

/-- Change by change, the facts of the task that depend otherwise are retired. -/
theorem runs_retireContextFactsForChanges (changes : List GatewayDependencyV1) :
    Runs (retireContextFactsForChanges task sequence changes) db (fun n t =>
      t = db.retireFacts (fun f => decide (f.task = task) && db.contradicted changes f.admissionEventSequence) sequence
        "dependency_invalidated" ∧
      n = db.facts.countP fun f => f.retired = none ∧
        (decide (f.task = task) && db.contradicted changes f.admissionEventSequence)) E := by
  induction changes generalizing db with
  | nil => exact ⟨by simp [Tables.retireFacts, Tables.contradicted, updateWhere], by simp [Tables.contradicted]⟩
  | cons change rest ih =>
    unfold retireContextFactsForChanges
    rw [runs_bind, runs_get, runs_bind, runs_retireFacts]
    refine runs_bind.2 (ih.imp ?_)
    rintro n t ⟨rfl, rfl⟩
    simp only [← Tables.contradicted_cons]
    exact ⟨congrArg (fun facts => { db with facts })
      (updateWhere_updateWhere (p := fun f : FactVersion => f.retired = none) (by simp)),
      countP_updateWhere (p := fun f : FactVersion => f.retired = none) (by simp)⟩

theorem runs_retireContextResultsForChanges (changes : List GatewayDependencyV1) :
    Runs (retireContextResultsForChanges task sequence changes) db (fun n t =>
      t = db.retireReferences (fun r => decide (r.task = task) && db.contradicted changes r.admissionEventSequence) sequence
        "dependency_invalidated" ∧
      n = db.references.countP fun r => r.retired = none ∧
        (decide (r.task = task) && db.contradicted changes r.admissionEventSequence)) E := by
  induction changes generalizing db with
  | nil => exact ⟨by simp [Tables.retireReferences, Tables.contradicted, updateWhere], by simp [Tables.contradicted]⟩
  | cons change rest ih =>
    unfold retireContextResultsForChanges
    rw [runs_bind, runs_get, runs_bind, runs_retireReferences]
    refine runs_bind.2 (ih.imp ?_)
    rintro n t ⟨rfl, rfl⟩
    simp only [← Tables.contradicted_cons]
    exact ⟨congrArg (fun references => { db with references })
      (updateWhere_updateWhere (p := fun r : ResultReference => r.retired = none) (by simp)),
      countP_updateWhere (p := fun r : ResultReference => r.retired = none) (by simp)⟩

theorem performs_invalidateContextDependenciesV1 (envelopeDigest : String) (changes : List ContextDependencyChangeV1) :
    Performs ext now (.invalidate identity envelopeDigest changes)
      (invalidateContextDependenciesV1 ext now identity envelopeDigest changes) db := by
  apply Makes.atomically
  refine Runs.past_refuseIf fun _ => ?_
  refine Runs.past_refuseIf fun _ => ?_
  refine Makes.current_bind ?_
  refine Runs.past_attempt fun duplicate _ => ?_
  cases duplicate with
  | some sequence => exact makes_pure _
  | none =>
    refine Makes.bind (makes_enforceContextQuota rfl rfl) fun _ t => ?_
    have hsubject : validReasoningIdentifier "dependency-change" = true := by decide
    refine Makes.bindWith (R := fun sequence t => t.HasEvent identity sequence) ?_ ?_
    · refine (runs_insertContextEvent (.inl hsubject)).imp ?_
      rintro sequence u ⟨event, quota, hrecords, rfl, rfl, _⟩
      refine ⟨.single (Change.record identity event quota rfl hrecords), event, ?_, rfl, hrecords.byIdentity⟩
      simp [Tables.addEvent]
    · intro sequence u hevent
      refine Runs.bind (runs_retireContextFactsForChanges _) ?_
      rintro _ v ⟨rfl, -⟩
      refine Runs.bind (runs_retireContextResultsForChanges _) ?_
      rintro _ w ⟨rfl, -⟩
      refine .tail (.single (Change.retireFacts identity _ sequence _ rfl (.inr rfl) ?_ hevent))
        (Change.retireReferences identity _ sequence _ rfl (.inr rfl) ?_ hevent)
      all_goals exact fun row _ hsel => of_decide_eq_true (Bool.and_eq_true_iff.1 hsel).1

/-! ## Delivery and collection -/

theorem performs_acknowledgeContextDeliveryV1 (responseEnvelopeDigest : String)
    (through deliveredBytes bytesOmitted : Nat) :
    Performs ext now (.acknowledge identity responseEnvelopeDigest through deliveredBytes bytesOmitted)
      (acknowledgeContextDeliveryV1 ext now identity responseEnvelopeDigest through deliveredBytes bytesOmitted) db := by
  apply Makes.atomically
  iterate 3 refine Runs.past_refuseIf fun _ => ?_
  refine Makes.current_bind ?_
  refine Runs.past_refuseIf fun hthrough => ?_
  split
  · exact Runs.past_refuseIf fun _ => makes_pure _
  · refine Runs.past_refuseIf fun _ => ?_
    refine (runs_reserveTaskContextBytes _ _).bind ?_
    rintro _ t ⟨quota, hcharges, rfl⟩
    exact .single (Change.acknowledge identity _ quota rfl rfl hcharges (Nat.le_of_not_lt hthrough))

theorem performs_gcContextLedgerV1 (maximumEvents : Nat) :
    Performs ext now (.gc identity maximumEvents) (gcContextLedgerV1 ext identity maximumEvents) db := by
  apply Makes.atomically
  refine Runs.past_refuseIf fun _ => ?_
  refine Makes.current_bind ?_
  exact makes_collectContextLedger rfl rfl maximumEvents

/-! ## Leases -/

theorem makes_expireContextLeases : Makes ext now op (expireContextLeases now) db := .single Change.expire

theorem Tables.activeLease?_eq_none {key : TaskKey} {workKeyDigest : String}
    (h : db.activeLease? key workKeyDigest = none) :
    ∀ l ∈ db.leases, l.key = key → l.workKeyDigest = workKeyDigest → l.status ≠ .active := by
  intro l hl hkey hwork hactive
  have := List.find?_eq_none.1 h l hl
  simp [hkey, hwork, hactive] at this

/-- A lease is opened where none is active, and its event is recorded. -/
theorem makes_openContextLease (hop : op.identity? = some identity) {uuid : Octets 16}
    {workKeyDigest summary : String} {ttlMs : UInt64} {deadlineMs : Int} (hdeadline : now < deadlineMs)
    (hnone : db.activeLease? identity.key workKeyDigest = none) :
    Makes ext now op (openContextLease ext now uuid identity workKeyDigest summary ttlMs deadlineMs) db := by
  refine (runs_insertContextLease _).bind ?_
  rintro _ t ⟨rfl, hfresh⟩
  refine (runs_insertContextEvent (.inr ⟨uuid, rfl⟩)).bind ?_
  rintro sequence u ⟨event, quota, hrecords, rfl, _⟩
  refine .tail (.single (Change.lead identity _ hop ?_))
    (Change.record identity event quota hop hrecords)
  constructor
  case fresh => exact hfresh
  case noActive => exact Tables.activeLease?_eq_none hnone
  case generation => rfl
  case active => rfl
  case ledBy => simp [ContextLease.isLedBy]
  case named => exact ⟨uuid, rfl⟩
  case acquired => rfl
  case unexpired => exact hdeadline

theorem performs_acquireContextLeaseV1 (uuid : Octets 16) (workKeyDigest summary : String) (ttlMs : UInt64)
    (deadlineMs : Int) :
    Performs ext now (.acquire uuid identity workKeyDigest summary ttlMs deadlineMs)
      (acquireContextLeaseV1 ext now uuid identity workKeyDigest summary ttlMs deadlineMs) db := by
  apply Makes.atomically
  refine Runs.past_refuseIf fun _ => ?_
  refine Runs.past_refuseIf fun _ => ?_
  refine Runs.past_attempt fun _ _ => ?_
  refine Makes.reads (runs_checkTtl ttlMs) fun _ _ => ?_
  refine Runs.past_refuseIf fun hdeadline => ?_
  refine Makes.current_bind ?_
  refine Makes.bind makes_expireContextLeases fun _ t => ?_
  refine Makes.bind (makes_enforceContextQuota rfl rfl) fun _ t => ?_
  apply Runs.past_get
  cases hactive : t.activeLease? identity.key workKeyDigest with
  | some lease => exact makes_pure _
  | none => exact Makes.bind (makes_openContextLease rfl (by omega) hactive) fun _ _ => makes_pure _

theorem performs_observeContextLeaseV1 (workKeyDigest : String) :
    Performs ext now (.observe identity workKeyDigest) (observeContextLeaseV1 now identity workKeyDigest) db := by
  apply Makes.atomically
  refine Runs.past_refuseIf fun _ => ?_
  refine Makes.current_bind ?_
  exact Makes.bind makes_expireContextLeases fun _ t => Runs.past_get (makes_pure _)

theorem performs_heartbeatContextLeaseV1 (leaseId : String) (ttlMs : UInt64) :
    Performs ext now (.heartbeat identity leaseId ttlMs) (heartbeatContextLeaseV1 now identity leaseId ttlMs) db := by
  apply Makes.atomically
  refine Makes.reads (runs_checkTtl ttlMs) fun _ _ => ?_
  refine Makes.current_bind ?_
  refine Makes.bind makes_expireContextLeases fun _ t => ?_
  refine Makes.reads (runs_contextOwnedLeaseDeadline leaseId) ?_
  rintro deadline ⟨lease, howned, rfl⟩
  unfold Makes
  rw [runs_bind, runs_updateContextLeases, runs_bind, runs_refuseIf]
  refine ⟨fun _ => trivial, fun _ => ?_⟩
  obtain rfl : lease.leaseId = leaseId := (Tables.ownedLease?_eq_some howned).2.1
  exact .single (Change.renew identity lease _ rfl howned (Int.min_le_left _ _))

/-- The active lease that the identity leads is settled. -/
theorem changes_settleContextLease (hop : op.identity? = some identity) {leaseId : String} {lease : ContextLease}
    (howned : db.ownedLease? identity leaseId = some lease) {status : ContextLeaseStatus} (hstatus : status ≠ .active) :
    Change ext now op db (db.settleLeases (fun l => l.leaseId = leaseId ∧ l.status = .active) status now) := by
  obtain ⟨hmem, hid, hled, _⟩ := Tables.ownedLease?_eq_some howned
  refine Change.settle identity _ status hop hstatus ?_
  intro l _ hsel
  simp only [decide_eq_true_eq] at hsel
  exact ⟨hsel.2, .inr ⟨lease, hmem, hid.trans hsel.1.symm, hled⟩⟩

theorem performs_finishContextLeaseV1 (leaseId : String) (succeeded : Bool) :
    Performs ext now (.finish identity leaseId succeeded) (finishContextLeaseV1 now identity leaseId succeeded) db := by
  apply Makes.atomically
  refine Makes.current_bind ?_
  refine Makes.bind makes_expireContextLeases fun _ t => ?_
  refine Makes.reads (runs_contextOwnedLeaseDeadline leaseId) ?_
  rintro deadline ⟨lease, howned, _⟩
  unfold Makes settleContextLease
  rw [runs_bind, runs_updateContextLeases, runs_refuseIf]
  refine ⟨fun _ => trivial, fun _ => ?_⟩
  exact .single (changes_settleContextLease rfl howned (by cases succeeded <;> decide))

theorem performs_cancelContextLeaseV1 (leaseId : String) :
    Performs ext now (.cancel identity leaseId) (cancelContextLeaseV1 now identity leaseId) db := by
  apply Makes.atomically
  refine Makes.current_bind ?_
  refine Makes.reads (runs_contextOwnedLeaseDeadline leaseId) ?_
  rintro deadline ⟨lease, howned, _⟩
  unfold Makes settleContextLease
  rw [runs_bind, runs_updateContextLeases, runs_refuseIf]
  refine ⟨fun _ => trivial, fun _ => ?_⟩
  exact .single (changes_settleContextLease rfl howned (by decide))

end

end Again.Ledger
