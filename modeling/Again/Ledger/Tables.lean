import Again.Ledger.Items
import Again.Lib.Rows

/-!
# The context ledger's tables

`store.rs`, schema versions 11 to 13: tasks with their aliases, relations and
transitions, the recipients of a task, the events told to it with the facts and
result references admitted by them, work leases, delivery receipts and the
workspace quota. A table is the list of its rows in the order of insertion. The
rows of `context_ledger_event_sources_v1` and
`context_ledger_event_dependencies_v1` are kept, in the order of their ordinals,
inside the event they belong to, and a row of
`context_ledger_delivery_savings_v1` inside its receipt. The gateway's tables are
read and never written.
-/

namespace Again.Ledger

open Lib Gateway

/-! ## Rows -/

/-- A row of `context_ledger_recipients_v1`. -/
structure Recipient where
  key : TaskKey
  agentId : String
  sessionId : String
  turnId : String
  connectionGeneration : String
  compactionGeneration : UInt64
  lifecycleGeneration : UInt64
  active : Bool
  updatedMs : Int
deriving DecidableEq

inductive ContextLedgerEventKindV1
  | verifiedFactAdmission | unverifiedSuggestion | completedObservation | inflightWork | failedApproach
  | explicitUnknown | resultReference | invalidation | retirement
deriving DecidableEq

/-- `ContextEventFieldsV1`. -/
structure ContextEventFieldsV1 where
  kind : ContextLedgerEventKindV1
  subjectId : String
  subjectVersion : UInt64
  summary : String
  valueDigest : Option String := none
  resultId : Option String := none
  resultDigest : Option String := none
  totalBytes : Option UInt64 := none
  durationMs : Option UInt64 := none
deriving DecidableEq

/-- A row of `context_ledger_event_sources_v1`. -/
structure EventSource where
  source : ReasoningSourceReferenceV1
  bindingDigest : String
deriving DecidableEq

/-- A row of `context_ledger_events_v1`. -/
structure LedgerEvent where
  sequence : Nat
  envelopeDigest : String
  canonicalDigest : String
  identity : ContextLedgerIdentityV1
  fields : ContextEventFieldsV1
  createdMs : Int
  sources : List EventSource
  dependencies : List GatewayDependencyV1
deriving DecidableEq

/-- A row of `context_ledger_fact_versions_v1`; both retirement columns are set together. -/
structure FactVersion where
  task : ContextTask
  factId : String
  factVersion : UInt64
  admissionEventSequence : Nat
  topic : String
  statement : String
  valueDigest : String
  factScope : ReasoningFactScopeV1
  factTaskId : Option String
  retired : Option (Nat × String) := none
deriving DecidableEq

/-- A row of `context_ledger_result_references_v1`. -/
structure ResultReference where
  task : ContextTask
  resultId : String
  referenceVersion : UInt64
  admissionEventSequence : Nat
  resultDigest : String
  totalBytes : UInt64
  retired : Option (Nat × String) := none
deriving DecidableEq

inductive ContextLeaseStatus
  | active | completed | failed | cancelled | expired
deriving DecidableEq

/-- A row of `context_ledger_leases_v1`. -/
structure ContextLease where
  leaseId : String
  key : TaskKey
  workKeyDigest : String
  generation : Nat
  leaderAgentId : String
  leaderSessionId : String
  leaderLifecycleGeneration : UInt64
  summary : String
  status : ContextLeaseStatus := .active
  acquiredMs : Int
  heartbeatMs : Int
  deadlineMs : Int
  expiresMs : Int
  completedMs : Option Int := none
deriving DecidableEq

/-- A row of `context_ledger_delivery_receipts_v1`. -/
structure ContextDeliveryReceipt where
  receiptDigest : String
  responseEnvelopeDigest : String
  identity : ContextLedgerIdentityV1
  throughSequence : Nat
  deliveredBytes : Nat
  acknowledgedMs : Int
  bytesOmitted : Option Nat := none
deriving DecidableEq

inductive TaskStateV1
  | waiting | active | blocked | completed | failed | cancelled
deriving DecidableEq

/-- `is_terminal`. -/
def TaskStateV1.isTerminal : TaskStateV1 → Bool
  | .completed | .failed | .cancelled => true
  | .waiting | .active | .blocked => false

/-- A row of `context_tasks_v1`. -/
structure TaskRow where
  key : TaskKey
  promptDigest : String
  promptText : String
  definitionDigest : Option String
  acceptanceCriteriaJson : String
  revision : Nat
  state : TaskStateV1
  stateGeneration : Nat
  createdMs : Int
  updatedMs : Int
deriving DecidableEq

/-- A row of `context_task_aliases_v1`. -/
structure TaskAlias where
  scope : TaskScope
  requestedTaskId : String
  canonicalTaskId : String
deriving DecidableEq

inductive TaskRelationKindV1
  | parent | dependency | supersedes
deriving DecidableEq

/-- A row of `context_task_relations_v1`. -/
structure TaskRelation where
  scope : TaskScope
  sourceTaskId : String
  relationKind : TaskRelationKindV1
  targetTaskId : String
  ordinal : Nat
deriving DecidableEq

/-- A row of `context_task_transitions_v1`. -/
structure TaskTransition where
  sequence : Nat
  key : TaskKey
  fromState : Option TaskStateV1
  toState : TaskStateV1
  stateGeneration : Nat
  leaseId : Option String
  /-- The columns `agent_id, session_id, lifecycle_generation`, set together. -/
  actor : Option (String × String × UInt64)
  reason : String
  createdMs : Int
deriving DecidableEq

/-- A row of `context_workspace_quota_v1`. -/
structure WorkspaceQuota where
  workspace : Workspace
  taskContextBytes : Nat
  workspaceStateBytes : Nat
  maintenanceMode : Bool
  counterChecksum : String
deriving DecidableEq

/-- The store's ledger tables, and the gateway's. -/
structure Tables where
  gateway : Gateway.Tables := {}
  recipients : List Recipient := []
  events : List LedgerEvent := []
  /-- The last sequence `AUTOINCREMENT` gave out. -/
  lastEventSequence : Nat := 0
  facts : List FactVersion := []
  references : List ResultReference := []
  leases : List ContextLease := []
  receipts : List ContextDeliveryReceipt := []
  tasks : List TaskRow := []
  aliases : List TaskAlias := []
  relations : List TaskRelation := []
  transitions : List TaskTransition := []
  lastTransitionSequence : Nat := 0
  quotas : List WorkspaceQuota := []
deriving DecidableEq

/-- A transaction at work. -/
abbrev LedgerTx := EStateM LedgerError Tables

/-! ## Columns -/

namespace LedgerEvent

variable (event : LedgerEvent)

def task : ContextTask := event.identity.task
def scope : TaskScope := event.identity.scope

end LedgerEvent

namespace ContextDeliveryReceipt

variable (receipt : ContextDeliveryReceipt)

def task : ContextTask := receipt.identity.task
def scope : TaskScope := receipt.identity.scope

end ContextDeliveryReceipt

def TaskRelation.sourceKey (relation : TaskRelation) : TaskKey := ⟨relation.scope, relation.sourceTaskId⟩
def TaskRelation.targetKey (relation : TaskRelation) : TaskKey := ⟨relation.scope, relation.targetTaskId⟩
def TaskAlias.canonicalKey (name : TaskAlias) : TaskKey := ⟨name.scope, name.canonicalTaskId⟩

/-- The recipient's row. -/
def Recipient.isOf (recipient : Recipient) (identity : ContextLedgerIdentityV1) : Bool :=
  recipient.key = identity.key && recipient.agentId = identity.agentId && recipient.sessionId = identity.sessionId

/-- The lease is led by the identity's agent, session and lifecycle. -/
def ContextLease.isLedBy (lease : ContextLease) (identity : ContextLedgerIdentityV1) : Bool :=
  lease.key = identity.key && lease.leaderAgentId = identity.agentId && lease.leaderSessionId = identity.sessionId &&
    lease.leaderLifecycleGeneration = identity.lifecycleGeneration

/-! ## Queries -/

namespace Tables

variable (db : Tables)

def task? (key : TaskKey) : Option TaskRow := db.tasks.find? fun t => t.key = key

/-- `resolve_task_alias_tx_v1`. -/
def resolveAlias (scope : TaskScope) (requestedTaskId : String) : Option String :=
  (db.aliases.find? fun a => a.scope = scope ∧ a.requestedTaskId = requestedTaskId).map (·.canonicalTaskId)

/-- The task of the scope with the definition. -/
def taskWithDefinition? (scope : TaskScope) (definitionDigest : String) : Option TaskRow :=
  db.tasks.find? fun t => t.key.scope = scope ∧ t.definitionDigest = some definitionDigest

/-- `context_recipient_row_v1`. -/
def recipient? (identity : ContextLedgerIdentityV1) : Option Recipient := db.recipients.find? (·.isOf identity)

/-- The active lease on a work key of a task. -/
def activeLease? (key : TaskKey) (workKeyDigest : String) : Option ContextLease :=
  db.leases.find? fun l => l.key = key ∧ l.workKeyDigest = workKeyDigest ∧ l.status = .active

/-- `COALESCE(MAX(generation), 0) + 1` over the leases on a work key. -/
def nextLeaseGeneration (key : TaskKey) (workKeyDigest : String) : Nat :=
  ((db.leases.filter fun l => l.key = key ∧ l.workKeyDigest = workKeyDigest).map (·.generation)).max?.getD 0 + 1

/-- `context_event_count_v1`. -/
def eventCount (task : ContextTask) : Nat := db.events.countP fun e => e.task = task

/-- `context_latest_cursor_v1`. -/
def latestCursor (task : ContextTask) : Nat :=
  ((db.events.filter fun e => e.task = task).map (·.sequence)).max?.getD 0

def quota? (workspace : Workspace) : Option WorkspaceQuota := db.quotas.find? fun q => q.workspace = workspace

end Tables

/-! ## Statements -/

/-- `INSERT INTO context_ledger_leases_v1`. -/
def insertContextLease (new : ContextLease) : LedgerTx Unit := do
  refuseIf ((← get).leases.any fun l => l.leaseId = new.leaseId ∨
    l.key = new.key ∧ l.workKeyDigest = new.workKeyDigest ∧
      (l.generation = new.generation ∨ l.status = .active ∧ new.status = .active)) .constraint
  modify fun db => { db with leases := db.leases ++ [new] }

/-- `UPDATE context_ledger_leases_v1`, with the number of rows changed. -/
def updateContextLeases (sel : ContextLease → Bool) (write : ContextLease → ContextLease) : LedgerTx Nat :=
  modifyGet fun db => (db.leases.countP sel, { db with leases := updateWhere sel write db.leases })

/-- `UPDATE context_ledger_fact_versions_v1`, with the number of rows changed. -/
def updateFacts (sel : FactVersion → Bool) (write : FactVersion → FactVersion) : LedgerTx Nat :=
  modifyGet fun db => (db.facts.countP sel, { db with facts := updateWhere sel write db.facts })

/-- `UPDATE context_ledger_result_references_v1`, with the number of rows changed. -/
def updateReferences (sel : ResultReference → Bool) (write : ResultReference → ResultReference) : LedgerTx Nat :=
  modifyGet fun db => (db.references.countP sel, { db with references := updateWhere sel write db.references })

/-- `INSERT INTO context_ledger_fact_versions_v1`. -/
def insertFactVersion (new : FactVersion) : LedgerTx Unit := do
  let db ← get
  refuseIf (db.facts.any fun f => f.admissionEventSequence = new.admissionEventSequence ∨
    f.task = new.task ∧ f.factId = new.factId ∧ f.factVersion = new.factVersion) .constraint
  refuseIf (¬ db.events.any fun e => e.sequence = new.admissionEventSequence) .constraint
  modify fun db => { db with facts := db.facts ++ [new] }

/-- `INSERT INTO context_ledger_result_references_v1`. -/
def insertResultReference (new : ResultReference) : LedgerTx Unit := do
  let db ← get
  refuseIf (db.references.any fun r => r.admissionEventSequence = new.admissionEventSequence ∨
    r.task = new.task ∧ r.resultId = new.resultId ∧ r.referenceVersion = new.referenceVersion) .constraint
  refuseIf (¬ db.events.any fun e => e.sequence = new.admissionEventSequence) .constraint
  modify fun db => { db with references := db.references ++ [new] }

/-- Some fact or reference was admitted or retired by the event. -/
def Tables.holdsEvent (db : Tables) (sequence : Nat) : Bool :=
  (db.facts.any fun f => f.admissionEventSequence = sequence || f.retired.any fun r => r.1 = sequence) ||
    db.references.any fun r => r.admissionEventSequence = sequence || r.retired.any fun r => r.1 = sequence

/-- `DELETE FROM context_ledger_events_v1`, sources and dependencies with them; facts and references restrict it. -/
def deleteEvents (sel : LedgerEvent → Bool) : LedgerTx Nat := do
  let db ← get
  refuseIf (db.events.any fun e => sel e ∧ db.holdsEvent e.sequence) .constraint
  set { db with events := db.events.filter fun e => !sel e }
  pure (db.events.countP sel)

/-- `INSERT INTO context_tasks_v1`. -/
def insertTask (new : TaskRow) : LedgerTx Unit := do
  refuseIf ((← get).tasks.any fun t => t.key = new.key ∨
    t.key.scope = new.key.scope ∧ t.definitionDigest = new.definitionDigest ∧ new.definitionDigest.isSome) .constraint
  modify fun db => { db with tasks := db.tasks ++ [new] }

/-- `UPDATE context_tasks_v1`, with the number of rows changed. -/
def updateTasks (sel : TaskRow → Bool) (write : TaskRow → TaskRow) : LedgerTx Nat :=
  modifyGet fun db => (db.tasks.countP sel, { db with tasks := updateWhere sel write db.tasks })

/-- `INSERT INTO context_task_aliases_v1`. -/
def insertAlias (new : TaskAlias) : LedgerTx Unit := do
  let db ← get
  refuseIf (db.aliases.any fun a => a.scope = new.scope ∧ a.requestedTaskId = new.requestedTaskId) .constraint
  refuseIf (¬ db.tasks.any fun t => t.key = new.canonicalKey) .constraint
  modify fun db => { db with aliases := db.aliases ++ [new] }

/-- `INSERT INTO context_task_relations_v1`. -/
def insertRelation (new : TaskRelation) : LedgerTx Unit := do
  let db ← get
  refuseIf (db.relations.any fun r => r.sourceKey = new.sourceKey ∧ r.relationKind = new.relationKind ∧
    (r.targetTaskId = new.targetTaskId ∨ r.ordinal = new.ordinal)) .constraint
  refuseIf (new.sourceTaskId = new.targetTaskId) .constraint
  refuseIf (¬ db.tasks.any fun t => t.key = new.sourceKey) .constraint
  refuseIf (¬ db.tasks.any fun t => t.key = new.targetKey) .constraint
  modify fun db => { db with relations := db.relations ++ [new] }

/-- `INSERT INTO context_task_transitions_v1`, with the next sequence. -/
def insertTransition (new : TaskTransition) : LedgerTx Unit := do
  let db ← get
  refuseIf (db.transitions.any fun t => t.key = new.key ∧ t.stateGeneration = new.stateGeneration) .constraint
  refuseIf (¬ db.tasks.any fun t => t.key = new.key) .constraint
  set
    { db with
      transitions := db.transitions ++ [{ new with sequence := db.lastTransitionSequence + 1 }]
      lastTransitionSequence := db.lastTransitionSequence + 1 }

/-- `DELETE FROM context_tasks_v1` of one task, with the number of rows removed: its own relations and its
transitions go with it, aliases and relations to it restrict it. -/
def deleteTaskRow (key : TaskKey) : LedgerTx Nat := do
  let db ← get
  refuseIf ((db.tasks.any fun t => t.key = key) ∧
    ((db.aliases.any fun a => a.canonicalKey = key) ∨ db.relations.any fun r => r.targetKey = key)) .constraint
  set
    { db with
      tasks := db.tasks.filter fun t => t.key ≠ key
      relations := db.relations.filter fun r => r.sourceKey ≠ key
      transitions := db.transitions.filter fun t => t.key ≠ key }
  pure (db.tasks.countP fun t => t.key = key)

end Again.Ledger
