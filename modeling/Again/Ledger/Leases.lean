import Again.Ledger.Events

/-!
# Work leases and task claims

`store.rs`: a lease on a work key of a task has one leader at a time; others
join it. Claiming a task is leading its definition digest. A claim holder
decides how the task goes on. Each operation first expires the leases whose time
is over, whatever task they are on.
-/

namespace Again.Ledger

open Lib Gateway

def contextLeaseTtlMaxMs : Nat := 5 * 60000

/-- A lease id: `cl_` and the simple form of a random UUID. -/
def leaseIdOf (uuid : Octets 16) : String := "cl_" ++ toHex uuid.val

/-- `i64::try_from(ttl_ms)` and the bounds on it. -/
def checkTtl (ttlMs : UInt64) : LedgerTx Unit := do
  refuseIf (i64Max < ttlMs.toNat) .integerOutOfRange
  refuseIf (ttlMs = 0 ∨ contextLeaseTtlMaxMs < ttlMs.toNat) .leaseTtlOutOfBounds

/-- The lease's time is over. -/
def ContextLease.overdue (lease : ContextLease) (now : Int) : Bool :=
  lease.status = .active && (lease.expiresMs ≤ now || lease.deadlineMs ≤ now)

/-- End a lease. -/
def ContextLease.settle (lease : ContextLease) (status : ContextLeaseStatus) (now : Int) : ContextLease :=
  { lease with status, completedMs := some now }

/-- `expire_context_leases_v1`. -/
def expireContextLeases (now : Int) : LedgerTx Unit := do
  let _ ← updateContextLeases (·.overdue now) (·.settle .expired now)

/-- The active lease of the id that the identity leads. -/
def Tables.ownedLease? (db : Tables) (identity : ContextLedgerIdentityV1) (leaseId : String) : Option ContextLease :=
  db.leases.find? fun l => l.leaseId = leaseId ∧ l.isLedBy identity ∧ l.status = .active

/-- `context_owned_lease_deadline_v1`. -/
def contextOwnedLeaseDeadline (identity : ContextLedgerIdentityV1) (leaseId : String) : LedgerTx Int := do
  let lease ← okOr ((← get).ownedLease? identity leaseId) (.gateway (.refusal .ownerMismatch))
  pure lease.deadlineMs

section
variable (ext : Externals)

/-! ## Opening a lease -/

/-- The fields of the event that announces a lease. -/
def leaseFields (leaseId : String) (generation : Nat) (summary workKeyDigest : String) : ContextEventFieldsV1 :=
  { kind := .inflightWork
    subjectId := leaseId
    subjectVersion := UInt64.ofNat generation
    summary
    valueDigest := some workKeyDigest }

/-- A new lease on a work key that has no active one, and its event. -/
def openContextLease (now : Int) (uuid : Octets 16) (identity : ContextLedgerIdentityV1)
    (workKeyDigest summary : String) (ttlMs : UInt64) (deadlineMs : Int) : LedgerTx ContextLease := do
  let lease : ContextLease :=
    { leaseId := leaseIdOf uuid
      key := identity.key
      workKeyDigest, summary, deadlineMs
      generation := (← get).nextLeaseGeneration identity.key workKeyDigest
      leaderAgentId := identity.agentId
      leaderSessionId := identity.sessionId
      leaderLifecycleGeneration := identity.lifecycleGeneration
      acquiredMs := now
      heartbeatMs := now
      expiresMs := min deadlineMs (saturatingAdd now ttlMs.toNat) }
  insertContextLease lease
  let fields := leaseFields lease.leaseId lease.generation summary workKeyDigest
  let _ ← insertContextEvent ext identity (hexDigest ext.blake3 (utf8 ("context-lease:" ++ lease.leaseId)))
    (contextEventCanonicalDigest ext.blake3 identity fields (utf8 workKeyDigest) []) fields now [] []
  pure lease

inductive ContextLeaseAcquisitionV1
  | leader (leaseId : String) (generation : Nat) (expiresAtMs : Int)
  | join (leaseId : String) (generation : Nat) (leaderAgentId : String) (expiresAtMs : Int)
deriving DecidableEq

/-- `Store::acquire_context_lease_v1`; a lease it opens has a fresh id. -/
def acquireContextLeaseV1 (now : Int) (uuid : Octets 16) (identity : ContextLedgerIdentityV1)
    (workKeyDigest summary : String) (ttlMs : UInt64) (deadlineMs : Int) : LedgerTx ContextLeaseAcquisitionV1 :=
  atomically do
    refuseIf (validDigest workKeyDigest = false) (.invalidDigest "context work key digest")
    refuseIf (validReasoningText summary 1024 = false) (.reasoning .invalidText)
    attempt (screenSensitiveText summary)
    checkTtl ttlMs
    refuseIf (deadlineMs ≤ now) (.gateway (.refusal .leaseExpired))
    ensureCurrentContextRecipient identity
    expireContextLeases now
    enforceContextQuota ext identity
    match (← get).activeLease? identity.key workKeyDigest with
    | some active => pure (.join active.leaseId active.generation active.leaderAgentId active.expiresMs)
    | none => do
      let lease ← openContextLease ext now uuid identity workKeyDigest summary ttlMs deadlineMs
      pure (.leader lease.leaseId lease.generation lease.expiresMs)

/-! ## Holding a lease -/

inductive ContextLeaseObservationV1
  | inflight (leaseId : String) (generation : Nat) (leaderAgentId : String) (expiresAtMs : Int)
  | completed | failed | cancelled | missing
deriving DecidableEq

/-- What a caller sees of the last lease on a work key. -/
def observedLease : Option ContextLease → ContextLeaseObservationV1
  | none => .missing
  | some lease =>
    match lease.status with
    | .active => .inflight lease.leaseId lease.generation lease.leaderAgentId lease.expiresMs
    | .completed => .completed
    | .failed | .expired => .failed
    | .cancelled => .cancelled

/-- `Store::observe_context_lease_v1`. -/
def observeContextLeaseV1 (now : Int) (identity : ContextLedgerIdentityV1) (workKeyDigest : String) :
    LedgerTx ContextLeaseObservationV1 := atomically do
  refuseIf (validDigest workKeyDigest = false) (.invalidDigest "context work key digest")
  ensureCurrentContextRecipient identity
  expireContextLeases now
  let db ← get
  pure (observedLease
    (latest (·.generation) (db.leases.filter fun l => l.key = identity.key ∧ l.workKeyDigest = workKeyDigest)))

/-- `Store::heartbeat_context_lease_v1`. -/
def heartbeatContextLeaseV1 (now : Int) (identity : ContextLedgerIdentityV1) (leaseId : String) (ttlMs : UInt64) :
    LedgerTx Int := atomically do
  checkTtl ttlMs
  ensureCurrentContextRecipient identity
  expireContextLeases now
  let deadline ← contextOwnedLeaseDeadline identity leaseId
  let expires := min deadline (saturatingAdd now ttlMs.toNat)
  let changed ← updateContextLeases (fun l => l.leaseId = leaseId ∧ l.status = .active) fun l =>
    { l with heartbeatMs := now, expiresMs := expires }
  refuseIf (changed ≠ 1) (.gateway (.refusal .leaseNotCurrent))
  pure expires

/-- End the active lease of the id. -/
def settleContextLease (leaseId : String) (status : ContextLeaseStatus) (now : Int) : LedgerTx Nat :=
  updateContextLeases (fun l => l.leaseId = leaseId ∧ l.status = .active) (·.settle status now)

/-- `Store::finish_context_lease_v1`. -/
def finishContextLeaseV1 (now : Int) (identity : ContextLedgerIdentityV1) (leaseId : String) (succeeded : Bool) :
    LedgerTx Unit := atomically do
  ensureCurrentContextRecipient identity
  expireContextLeases now
  let _ ← contextOwnedLeaseDeadline identity leaseId
  let changed ← settleContextLease leaseId (if succeeded then .completed else .failed) now
  refuseIf (changed ≠ 1) (.gateway (.refusal .leaseNotCurrent))

/-- `Store::cancel_context_lease_v1`, which expires none first. -/
def cancelContextLeaseV1 (now : Int) (identity : ContextLedgerIdentityV1) (leaseId : String) : LedgerTx Unit :=
  atomically do
    ensureCurrentContextRecipient identity
    let _ ← contextOwnedLeaseDeadline identity leaseId
    let changed ← settleContextLease leaseId .cancelled now
    refuseIf (changed ≠ 1) (.gateway (.refusal .leaseNotCurrent))

/-! ## Claiming a task -/

inductive TaskClaimOutcomeV1
  | leader (leaseId : String) (leaseGeneration stateGeneration : Nat) (expiresAtMs : Int)
  | join (leaseId : String) (leaseGeneration stateGeneration : Nat) (leaderAgentId : String) (expiresAtMs : Int)
  | waiting (stateGeneration : Nat) (blockers : List TaskBlockerV1)
  | terminal (state : TaskStateV1) (stateGeneration : Nat)
deriving DecidableEq

/-- `task_lease_summary_v1`: the prompt cut at a character, within 1024 bytes. -/
def taskLeaseSummary (prompt : String) : String :=
  let rec fill : Nat → List Char → List Char
    | _, [] => []
    | used, c :: rest =>
      if 1024 < used + (String.utf8EncodeChar c).length then []
      else c :: fill (used + (String.utf8EncodeChar c).length) rest
  "task intent: " ++ String.ofList (fill 13 prompt.toList)

/-- The task's state and generation are set by compare-and-swap, and the transition is recorded. -/
def moveTask (now : Int) (identity : ContextLedgerIdentityV1) (previous target : TaskStateV1)
    (expectedStateGeneration : Nat) (leaseId : Option String) (reason : String) : LedgerTx Nat := do
  let next := expectedStateGeneration + 1
  refuseIf (i64Max < next) .stateGenerationOverflow
  let changed ← updateTasks
    (fun t => t.key = identity.key ∧ t.stateGeneration = expectedStateGeneration ∧ t.state = previous) fun t =>
      { t with state := target, stateGeneration := next, updatedMs := now }
  refuseIf (changed ≠ 1) .stateCasMismatch
  reserveTaskContextBytes ext.blake3 identity.workspace (taskTransitionLogicalBytes identity.taskId reason leaseId)
  insertTransition
    { sequence := 0
      key := identity.key
      fromState := some previous
      toState := target
      stateGeneration := next
      leaseId
      actor := some (identity.agentId, identity.sessionId, identity.lifecycleGeneration)
      reason
      createdMs := now }
  pure next

/-- A waiting or blocked task becomes active when it is claimed. -/
def reactivateTask (now : Int) (identity : ContextLedgerIdentityV1) (task : TaskRecordV1) : LedgerTx Nat :=
  if task.state = .waiting ∨ task.state = .blocked then
    moveTask ext now identity task.state .active task.stateGeneration none
      (if task.state = .blocked then "task_reclaimed" else "dependencies_completed")
  else pure task.stateGeneration

/-- `Store::claim_task_v1`. -/
def claimTaskV1 (now : Int) (uuid : Octets 16) (identity : ContextLedgerIdentityV1) (expectedStateGeneration : Nat)
    (ttlMs : UInt64) (deadlineMs : Int) : LedgerTx TaskClaimOutcomeV1 := atomically do
  checkContextIdentity identity
  checkTtl ttlMs
  refuseIf (deadlineMs ≤ now) (.gateway (.refusal .leaseExpired))
  ensureCurrentContextRecipient identity
  expireContextLeases now
  let task ← attempt (loadTaskRecord ext (← get) identity.key identity.taskId)
  refuseIf (task.stateGeneration ≠ expectedStateGeneration) .stateCasMismatch
  if task.state.isTerminal then pure (.terminal task.state task.stateGeneration)
  else if task.state = .waiting ∧ task.blockers ≠ [] then pure (.waiting task.stateGeneration task.blockers)
  else do
    let stateGeneration ← reactivateTask ext now identity task
    match (← get).activeLease? identity.key task.definition.definitionDigest with
    | some active =>
      pure (.join active.leaseId active.generation stateGeneration active.leaderAgentId active.expiresMs)
    | none => do
      let lease ← openContextLease ext now uuid identity task.definition.definitionDigest
        (taskLeaseSummary task.definition.prompt) ttlMs deadlineMs
      pure (.leader lease.leaseId lease.generation stateGeneration lease.expiresMs)

/-! ## Deciding a task -/

/-- The states an active task may be moved to. -/
def TaskStateV1.isDecision : TaskStateV1 → Bool
  | .blocked | .completed | .failed | .cancelled => true
  | .waiting | .active => false

/-- How the deciding lease ends. -/
def TaskStateV1.leaseStatus : TaskStateV1 → ContextLeaseStatus
  | .completed => .completed
  | .failed => .failed
  | _ => .cancelled

/-- The leases that end with a decision: the one it was made under, and every other when it is final. -/
def settleDecision (now : Int) (identity : ContextLedgerIdentityV1) (leaseId : String) (target : TaskStateV1) :
    LedgerTx Unit := do
  let _ ← settleContextLease leaseId target.leaseStatus now
  if target.isTerminal then do
    let _ ← updateContextLeases (fun l => l.key = identity.key ∧ l.status = .active) (·.settle .cancelled now)
  else pure ()

/-- `Store::transition_task_v1`. -/
def transitionTaskV1 (now : Int) (identity : ContextLedgerIdentityV1) (leaseId : String)
    (expectedStateGeneration : Nat) (target : TaskStateV1) (reason : String) : LedgerTx TaskRecordV1 := atomically do
  checkContextIdentity identity
  refuseIf (validReasoningText reason 512 = false) (.reasoning .invalidText)
  attempt (screenSensitiveText reason)
  ensureCurrentContextRecipient identity
  expireContextLeases now
  let task ← attempt (loadTaskRecord ext (← get) identity.key identity.taskId)
  refuseIf (task.stateGeneration ≠ expectedStateGeneration) .stateCasMismatch
  refuseIf (task.state.isTerminal = true) .terminalImmutable
  refuseIf (task.state ≠ .active ∨ target.isDecision = false) .invalidTaskTransition
  let _ ← contextOwnedLeaseDeadline identity leaseId
  let _ ← moveTask ext now identity .active target expectedStateGeneration (some leaseId) reason
  settleDecision now identity leaseId target
  attempt (loadTaskRecord ext (← get) identity.key identity.taskId)

end

end Again.Ledger
