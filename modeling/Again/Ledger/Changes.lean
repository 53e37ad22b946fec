import Again.Ledger.Operations

/-!
# What the operations can do to the ledger

Every operation makes a few of the changes listed here, one after the other, and
nothing else. A change comes with what the operation had checked before it made
it. A charge to the workspace quota belongs to the rows it is made for, and a
recomputed quota to the rows that were removed. An operation that fails changes
nothing.
-/

namespace Again.Ledger

open Lib Gateway

/-! ## Changed tables -/

namespace Tables

variable (db : Tables)

/-- The quota counter of a workspace, zero before its first row. -/
def counter (workspace : Workspace) : Nat := ((db.quota? workspace).map (·.taskContextBytes)).getD 0

def activateRecipient (row : Recipient) (identity : ContextLedgerIdentityV1) : Tables :=
  { db with
    recipients :=
      if db.recipients.any (·.isOf identity) then updateWhere (·.isOf identity) (fun _ => row) db.recipients
      else db.recipients ++ [row] }

def retireRecipient (identity : ContextLedgerIdentityV1) (now : Int) : Tables :=
  { db with
    recipients := updateWhere (fun r => r.isOf identity && r.isCurrent identity)
      (fun r => { r with active := false, updatedMs := now }) db.recipients }

def settleLeases (sel : ContextLease → Bool) (status : ContextLeaseStatus) (now : Int) : Tables :=
  { db with leases := updateWhere sel (·.settle status now) db.leases }

def renewLease (leaseId : String) (now expires : Int) : Tables :=
  { db with
    leases := updateWhere (fun l => l.leaseId = leaseId ∧ l.status = .active)
      (fun l => { l with heartbeatMs := now, expiresMs := expires }) db.leases }

def addLease (lease : ContextLease) : Tables := { db with leases := db.leases ++ [lease] }

def addEvent (event : LedgerEvent) : Tables :=
  { db with events := db.events ++ [event], lastEventSequence := event.sequence }

def addAlias (name : TaskAlias) : Tables := { db with aliases := db.aliases ++ [name] }

def addTransition (transition : TaskTransition) : Tables :=
  { db with transitions := db.transitions ++ [transition], lastTransitionSequence := transition.sequence }

/-- A new task, an alias of itself, with its relations. -/
def addTask (row : TaskRow) (relations : List TaskRelation) : Tables :=
  { db with
    tasks := db.tasks ++ [row]
    aliases := db.aliases ++ [⟨row.key.scope, row.key.taskId, row.key.taskId⟩]
    relations := db.relations ++ relations }

def touchTask (key : TaskKey) (now : Int) : Tables :=
  { db with tasks := updateWhere (fun t => t.key = key) (fun t => { t with updatedMs := now }) db.tasks }

/-- The compare-and-swap of a task's state. -/
def setTaskState (key : TaskKey) (previous target : TaskStateV1) (generation : Nat) (now : Int) : Tables :=
  { db with
    tasks := updateWhere (fun t => t.key = key ∧ t.stateGeneration = generation ∧ t.state = previous)
      (fun t => { t with state := target, stateGeneration := generation + 1, updatedMs := now }) db.tasks }

/-- The task and everything that is deleted with it. -/
def deleteTask (key : TaskKey) : Tables :=
  { db with
    receipts := db.receipts.filter fun r => r.task ≠ key.task
    facts := db.facts.filter fun f => f.task ≠ key.task
    references := db.references.filter fun r => r.task ≠ key.task
    events := db.events.filter fun e => !decide (e.task = key.task)
    recipients := db.recipients.filter fun r => r.key ≠ key
    leases := db.leases.filter fun l => l.key ≠ key
    aliases := db.aliases.filter fun a => a.canonicalKey ≠ key
    tasks := db.tasks.filter fun t => t.key ≠ key
    relations := db.relations.filter fun r => r.sourceKey ≠ key
    transitions := db.transitions.filter fun t => t.key ≠ key }

def retireFacts (sel : FactVersion → Bool) (sequence : Nat) (reason : String) : Tables :=
  { db with
    facts := updateWhere (fun f => f.retired = none ∧ sel f)
      (fun f => { f with retired := some (sequence, reason) }) db.facts }

def addFact (row : FactVersion) : Tables := { db with facts := db.facts ++ [row] }

def retireReferences (sel : ResultReference → Bool) (sequence : Nat) (reason : String) : Tables :=
  { db with
    references := updateWhere (fun r => r.retired = none ∧ sel r)
      (fun r => { r with retired := some (sequence, reason) }) db.references }

def addReference (row : ResultReference) : Tables := { db with references := db.references ++ [row] }

def dropEvents (sequences : List Nat) : Tables :=
  { db with events := db.events.filter fun e => !sequences.contains e.sequence }

def addReceipt (row : ContextDeliveryReceipt) : Tables := { db with receipts := db.receipts ++ [row] }

end Tables

/-! ## Guards -/

/-- A charge of some bytes to a workspace, and the quota row it writes. -/
structure Charges (blake3 : Bytes → Octets 32) (db : Tables) (workspace : Workspace) (bytes : Nat)
    (row : WorkspaceQuota) : Prop where
  sameWorkspace : row.workspace = workspace
  counted : row.taskContextBytes = db.counter workspace + bytes
  bounded : row.taskContextBytes ≤ maxTaskContextLogicalBytes
  checked : row.counterChecksum = row.checksum blake3

/-- A charge reads the counters only. -/
theorem Charges.congr {blake3 : Bytes → Octets 32} {db db' : Tables} {workspace : Workspace} {bytes : Nat}
    {row : WorkspaceQuota} (h : Charges blake3 db workspace bytes row) (hquotas : db'.quotas = db.quotas) :
    Charges blake3 db' workspace bytes row := by
  refine ⟨h.sameWorkspace, ?_, h.bounded, h.checked⟩
  rw [h.counted, Tables.counter, Tables.counter, Tables.quota?, Tables.quota?, hquotas]

/-- A counter computed again from the rows. -/
structure Reconciles (blake3 : Bytes → Octets 32) (db : Tables) (workspace : Workspace) (row : WorkspaceQuota) :
    Prop where
  sameWorkspace : row.workspace = workspace
  counted : row.taskContextBytes = db.taskContextBytes workspace
  checked : row.counterChecksum = row.checksum blake3

/-- What a lease is opened with. -/
structure OpensLease (db : Tables) (now : Int) (identity : ContextLedgerIdentityV1) (lease : ContextLease) : Prop where
  fresh : ∀ l ∈ db.leases, l.leaseId ≠ lease.leaseId
  noActive : ∀ l ∈ db.leases, l.key = lease.key → l.workKeyDigest = lease.workKeyDigest → l.status ≠ .active
  generation : lease.generation = db.nextLeaseGeneration lease.key lease.workKeyDigest
  active : lease.status = .active
  ledBy : lease.isLedBy identity = true
  named : ∃ uuid : Octets 16, lease.leaseId = leaseIdOf uuid
  acquired : lease.acquiredMs = now
  unexpired : now < lease.deadlineMs

/-- What an event is recorded with. -/
structure RecordsEvent (ext : Externals) (db : Tables) (now : Int) (identity : ContextLedgerIdentityV1)
    (event : LedgerEvent) (quota : WorkspaceQuota) : Prop where
  charges : Charges ext.blake3 db identity.workspace
    (contextEventLogicalBytes event.fields.subjectId event.fields.summary) quota
  byIdentity : event.identity = identity
  sequence : event.sequence = db.lastEventSequence + 1
  fresh : ∀ e ∈ db.events, e.envelopeDigest ≠ event.envelopeDigest
  subject : validReasoningIdentifier event.fields.subjectId = true ∨
    ∃ uuid : Octets 16, event.fields.subjectId = leaseIdOf uuid
  created : event.createdMs = now

/-- What an alias is added with. -/
structure AddsAlias (ext : Externals) (db : Tables) (name : TaskAlias) (quota : WorkspaceQuota) : Prop where
  charges : Charges ext.blake3 db name.scope.workspace
    (taskAliasLogicalBytes name.requestedTaskId name.canonicalTaskId) quota
  selector : validTaskSelector name.requestedTaskId = true
  fresh : ∀ a ∈ db.aliases, a.scope = name.scope → a.requestedTaskId ≠ name.requestedTaskId
  known : ∃ t ∈ db.tasks, t.key = name.canonicalKey

/-- The bytes a new task is charged. -/
def createdBytes (row : TaskRow) (relations : List TaskRelation) (reason : String) : Nat :=
  satAdd (satAdd (satAdd (taskRowLogicalBytes row.key.taskId row.promptText row.acceptanceCriteriaJson)
    (taskAliasLogicalBytes row.key.taskId row.key.taskId))
    ((relations.map fun r => taskRelationLogicalBytes r.sourceTaskId r.targetTaskId).foldl satAdd 0))
    (taskTransitionLogicalBytes row.key.taskId reason none)

/-- What a task is created with. -/
structure CreatesTask (ext : Externals) (db : Tables) (row : TaskRow) (relations : List TaskRelation)
    (transition : TaskTransition) (quota : WorkspaceQuota) : Prop where
  charges : Charges ext.blake3 db row.key.scope.workspace (createdBytes row relations transition.reason) quota
  selector : validTaskSelector row.key.taskId = true
  fresh : ∀ t ∈ db.tasks, t.key ≠ row.key
  freshDefinition : ∀ t ∈ db.tasks, t.key.scope = row.key.scope → t.definitionDigest ≠ row.definitionDigest
  freshAlias : ∀ a ∈ db.aliases, a.scope = row.key.scope → a.requestedTaskId ≠ row.key.taskId
  own : ∀ r ∈ relations, r.sourceKey = row.key
  edge : ∀ r ∈ relations, ensureTaskGraphEdge db row.key.scope row.key.taskId r.targetTaskId = .ok ()
  known : ∀ r ∈ relations, ∃ t ∈ db.tasks, t.key = r.targetKey
  starts : row.state = .active ∨ row.state = .waiting
  ready : row.state = .active → ∀ r ∈ relations, r.relationKind = .dependency →
    ∃ t, db.task? r.targetKey = some t ∧ t.state = .completed
  generation : row.stateGeneration = 1
  recorded : transition.key = row.key ∧ transition.fromState = none ∧ transition.toState = row.state ∧
    transition.stateGeneration = 1 ∧ transition.leaseId = none
  sequence : transition.sequence = db.lastTransitionSequence + 1
  unrecorded : ∀ t ∈ db.transitions, t.key = row.key → t.stateGeneration ≠ 1

/-- What a task's state is changed with. -/
structure MovesTask (ext : Externals) (db : Tables) (identity : ContextLedgerIdentityV1) (row : TaskRow)
    (transition : TaskTransition) (quota : WorkspaceQuota) : Prop where
  charges : Charges ext.blake3 db identity.workspace
    (taskTransitionLogicalBytes identity.taskId transition.reason transition.leaseId) quota
  found : row ∈ db.tasks
  own : row.key = identity.key
  recorded : transition.key = identity.key ∧ transition.fromState = some row.state ∧
    transition.stateGeneration = row.stateGeneration + 1
  sequence : transition.sequence = db.lastTransitionSequence + 1
  /-- A claim takes up a task that waits for nothing; a decision is made under a lease the identity leads. -/
  allowed :
    row.state = .waiting ∧ transition.toState = .active ∧ transition.leaseId = none ∧
        (∀ r ∈ db.relations, r.sourceKey = row.key → r.relationKind = .dependency →
          ∃ t, db.task? r.targetKey = some t ∧ t.state = .completed) ∨
      row.state = .blocked ∧ transition.toState = .active ∧ transition.leaseId = none ∨
      row.state = .active ∧ transition.toState.isDecision = true ∧
        ∃ l ∈ db.leases, transition.leaseId = some l.leaseId ∧ l.isLedBy identity = true ∧ l.status = .active

/-- What a task is deleted with. -/
structure DeletesTask (ext : Externals) (db : Tables) (key : TaskKey) (quota : WorkspaceQuota) : Prop where
  reconciles : Reconciles ext.blake3 (db.deleteTask key) key.scope.workspace quota
  terminal : ∃ t, db.task? key = some t ∧ t.state.isTerminal = true
  unreferenced : ∀ r ∈ db.relations, r.targetKey ≠ key
  idle : ∀ l ∈ db.leases, l.key = key → l.status ≠ .active

/-! ## Changes -/

/-- The operations that may create a task. -/
def LedgerOp.creates : LedgerOp → Bool
  | .resolve .. | .start .. => true
  | _ => false

/-- The operation that deletes a task. -/
def LedgerOp.deletes : LedgerOp → Bool
  | .delete .. => true
  | _ => false

/-- The operations that take facts or references back. -/
def LedgerOp.withdraws : LedgerOp → Bool
  | .append _ _ (.retirement ..) | .invalidate .. | .delete .. => true
  | _ => false

/-- The operation that admits a fact. -/
def LedgerOp.admitsFact : LedgerOp → Bool
  | .admitFact .. => true
  | _ => false

/-- The operation that admits a reference. -/
def LedgerOp.admitsReference : LedgerOp → Bool
  | .append _ _ (.resultReference ..) => true
  | _ => false

/-- The operations that make room for an event, or collect when they are asked to. -/
def LedgerOp.collects : LedgerOp → Bool
  | .admitFact .. | .append .. | .invalidate .. | .gc .. | .acquire .. => true
  | _ => false

/-- One change an operation makes, with what was checked before it. -/
inductive Change (ext : Externals) (now : Int) (op : LedgerOp) : Tables → Tables → Prop
  | gateway {db : Tables} (tables : Gateway.Tables) : Change ext now op db { db with gateway := tables }
  | refresh {db : Tables} : Change ext now op db (db.refreshWorkspaceStateQuota ext.blake3)
  | activate {db : Tables} (identity : ContextLedgerIdentityV1) (row : Recipient) (hop : op = .activate identity)
      (hrow : row.isOf identity = true ∧ row.isCurrent identity = true)
      (hallowed : ∀ r, db.recipient? identity = some r → r.refuses identity = false) :
      Change ext now op db (db.activateRecipient row identity)
  | retire {db : Tables} (identity : ContextLedgerIdentityV1) (hop : op = .retire identity) :
      Change ext now op db (db.retireRecipient identity now)
  | expire {db : Tables} : Change ext now op db (db.settleLeases (·.overdue now) .expired now)
  | settle {db : Tables} (identity : ContextLedgerIdentityV1) (sel : ContextLease → Bool) (status : ContextLeaseStatus)
      (hop : op.identity? = some identity) (hstatus : status ≠ .active)
      (hsel : ∀ l ∈ db.leases, sel l = true → l.status = .active ∧
        (l.key = identity.key ∨ ∃ m ∈ db.leases, m.leaseId = l.leaseId ∧ m.isLedBy identity = true)) :
      Change ext now op db (db.settleLeases sel status now)
  | renew {db : Tables} (identity : ContextLedgerIdentityV1) (lease : ContextLease) (expires : Int)
      (hop : op.identity? = some identity) (howned : db.ownedLease? identity lease.leaseId = some lease)
      (hexpires : expires ≤ lease.deadlineMs) : Change ext now op db (db.renewLease lease.leaseId now expires)
  | lead {db : Tables} (identity : ContextLedgerIdentityV1) (lease : ContextLease) (hop : op.identity? = some identity)
      (hopens : OpensLease db now identity lease) : Change ext now op db (db.addLease lease)
  | record {db : Tables} (identity : ContextLedgerIdentityV1) (event : LedgerEvent) (quota : WorkspaceQuota)
      (hop : op.identity? = some identity) (hrecords : RecordsEvent ext db now identity event quota) :
      Change ext now op db ((db.withQuota quota).addEvent event)
  | name {db : Tables} (name : TaskAlias) (quota : WorkspaceQuota) (hop : op.creates = true)
      (hadds : AddsAlias ext db name quota) :
      Change ext now op db ((db.withQuota quota).addAlias name)
  | create {db : Tables} (row : TaskRow) (relations : List TaskRelation) (transition : TaskTransition)
      (quota : WorkspaceQuota) (hop : op.creates = true) (hcreates : CreatesTask ext db row relations transition quota) :
      Change ext now op db (((db.withQuota quota).addTask row relations).addTransition transition)
  | touch {db : Tables} (key : TaskKey) (hop : op.creates = true) : Change ext now op db (db.touchTask key now)
  | move {db : Tables} (identity : ContextLedgerIdentityV1) (row : TaskRow) (transition : TaskTransition)
      (quota : WorkspaceQuota) (hop : op.identity? = some identity)
      (hmoves : MovesTask ext db identity row transition quota) :
      Change ext now op db (((db.setTaskState identity.key row.state transition.toState row.stateGeneration now).withQuota
        quota).addTransition transition)
  | delete {db : Tables} (key : TaskKey) (quota : WorkspaceQuota) (hop : op.deletes = true)
      (hdeletes : DeletesTask ext db key quota) :
      Change ext now op db ((db.deleteTask key).withQuota quota)
  | retireFacts {db : Tables} (identity : ContextLedgerIdentityV1) (sel : FactVersion → Bool) (sequence : Nat)
      (reason : String) (hop : op.identity? = some identity) (hkind : op.admitsFact = true ∨ op.withdraws = true)
      (hsel : ∀ f ∈ db.facts, sel f = true → f.task = identity.task)
      (hsequence : ∃ e ∈ db.events, e.sequence = sequence ∧ e.identity = identity) :
      Change ext now op db (db.retireFacts sel sequence reason)
  | addFact {db : Tables} (identity : ContextLedgerIdentityV1) (row : FactVersion) (hop : op.identity? = some identity)
      (htask : row.task = identity.task) (hcurrent : row.retired = none)
      (hadmits : ∃ envelope fact sources, op = .admitFact identity envelope row.factVersion fact sources ∧
        row.factId = fact.val.factId)
      (hsequence : ∃ e ∈ db.events, e.sequence = row.admissionEventSequence ∧ e.identity = identity)
      (hfresh : ∀ f ∈ db.facts, f.task = row.task → f.factId = row.factId → f.factVersion ≠ row.factVersion)
      (hsuperseded : ∀ f ∈ db.facts, f.task = row.task → f.factId = row.factId → f.factVersion < row.factVersion →
        f.retired ≠ none) : Change ext now op db (db.addFact row)
  | retireReferences {db : Tables} (identity : ContextLedgerIdentityV1) (sel : ResultReference → Bool) (sequence : Nat)
      (reason : String) (hop : op.identity? = some identity) (hkind : op.admitsReference = true ∨ op.withdraws = true)
      (hsel : ∀ r ∈ db.references, sel r = true → r.task = identity.task)
      (hsequence : ∃ e ∈ db.events, e.sequence = sequence ∧ e.identity = identity) :
      Change ext now op db (db.retireReferences sel sequence reason)
  | addReference {db : Tables} (identity : ContextLedgerIdentityV1) (row : ResultReference)
      (hop : op.identity? = some identity) (htask : row.task = identity.task) (hcurrent : row.retired = none)
      (hadmits : ∃ envelope reference sources,
        op = .append identity envelope (.resultReference reference row.referenceVersion sources) ∧
          row.resultId = reference.val.resultId)
      (hsequence : ∃ e ∈ db.events, e.sequence = row.admissionEventSequence ∧ e.identity = identity)
      (hfresh : ∀ r ∈ db.references, r.task = row.task → r.resultId = row.resultId →
        r.referenceVersion ≠ row.referenceVersion)
      (hsuperseded : ∀ r ∈ db.references, r.task = row.task → r.resultId = row.resultId →
        r.referenceVersion < row.referenceVersion → r.retired ≠ none) : Change ext now op db (db.addReference row)
  | dropRetired {db : Tables} (identity : ContextLedgerIdentityV1) (hop : op.identity? = some identity)
      (hcollects : op.collects = true) :
      Change ext now op db (db.dropRetired identity.task)
  | collect {db : Tables} (identity : ContextLedgerIdentityV1) (sequences : List Nat) (quota : WorkspaceQuota)
      (hop : op.identity? = some identity)
      (hcollectable : ∀ s ∈ sequences, s ∈ db.collectable identity.task)
      (hreconciles : Reconciles ext.blake3 (db.dropEvents sequences) identity.workspace quota)
      (hcollects : op.collects = true) :
      Change ext now op db ((db.dropEvents sequences).withQuota quota)
  | acknowledge {db : Tables} (identity : ContextLedgerIdentityV1) (row : ContextDeliveryReceipt)
      (quota : WorkspaceQuota) (hop : op.identity? = some identity) (hidentity : row.identity = identity)
      (hcharges : Charges ext.blake3 db identity.workspace receiptLogicalBytes quota)
      (hthrough : row.throughSequence ≤ db.latestCursor identity.task) :
      Change ext now op db ((db.withQuota quota).addReceipt row)

/-- Changes one after the other. -/
abbrev Changes (ext : Externals) (now : Int) (op : LedgerOp) : Tables → Tables → Prop :=
  Relation.ReflTransGen (Change ext now op)

end Again.Ledger
