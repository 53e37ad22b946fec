import Again.Ledger.Quota
import Mathlib.Data.List.Sort

/-!
# Tasks

`store.rs` and `task_lifecycle.rs`: a task is one immutable definition in an
authorization scope. Callers reach it through aliases; equal definitions
converge on one task. A task waits for its dependencies, a deletion waits for
the tasks that refer to it.
-/

namespace Again.Ledger

open Lib Gateway

def maxTaskPromptBytes : Nat := 8 * 1024
def maxTaskAcceptanceCriteria : Nat := 32
def maxTaskAcceptanceCriterionBytes : Nat := 512
def maxTaskDependencies : Nat := 64
def maxTaskGraphDepth : Nat := 32
def maxContextTasksPerWorkspace : Nat := 4096
def maxContextTaskAliasesPerWorkspace : Nat := 16384

/-! ## Definitions -/

structure TaskDefinitionV1 where
  prompt : String
  acceptanceCriteria : List String
  parentTaskId : Option String
  dependencyTaskIds : List String
  supersedesTaskId : Option String
  definitionDigest : String
deriving DecidableEq

/-- `hash_optional_v1`. -/
def hashOptional : Option String → Bytes
  | some value => 1 :: hashField value
  | none => [0]

section
variable (blake3 : Bytes → Octets 32)

/-- `task_definition_digest_v1`. -/
def taskDefinitionDigest (prompt : String) (acceptanceCriteria : List String) (parentTaskId : Option String)
    (dependencyTaskIds : List String) (supersedesTaskId : Option String) : String :=
  hexDigest blake3 (utf8 "again.task-definition.v1\x00" ++ hashField prompt ++ putList hashField acceptanceCriteria ++
    hashOptional parentTaskId ++ putList hashField dependencyTaskIds ++ hashOptional supersedesTaskId)

/-- `context_task_prompt_digest_v1`. -/
def contextTaskPromptDigest (prompt : String) : String :=
  hexDigest blake3 (utf8 "again.context.task-prompt.v1\x00" ++ hashField prompt)

def checkSelector (selector : String) : Except LedgerError Unit :=
  rejectIf (validTaskSelector selector = false) .invalidTaskSelector

def screenSensitiveText (text : String) : Except LedgerError Unit :=
  rejectIf (isSensitiveText text = true) .sensitiveContentRefused

/-- `TaskDefinitionV1::new`. -/
def TaskDefinitionV1.new (prompt : String) (acceptanceCriteria : List String) (parentTaskId : Option String)
    (dependencyTaskIds : List String) (supersedesTaskId : Option String) : Except LedgerError TaskDefinitionV1 := do
  rejectIf (validReasoningText prompt maxTaskPromptBytes = false) .invalidTaskDescription
  screenSensitiveText prompt
  rejectIf (maxTaskAcceptanceCriteria < acceptanceCriteria.length) .acceptanceCapacityExceeded
  acceptanceCriteria.forM fun criterion => do
    rejectIf (validReasoningText criterion maxTaskAcceptanceCriterionBytes = false) .invalidAcceptanceCriterion
    screenSensitiveText criterion
  rejectIf (¬ acceptanceCriteria.Nodup) .duplicateAcceptanceCriterion
  rejectIf (maxTaskDependencies < dependencyTaskIds.length) .dependencyCapacityExceeded
  parentTaskId.toList.forM checkSelector
  supersedesTaskId.toList.forM checkSelector
  dependencyTaskIds.forM checkSelector
  let sorted := dependencyTaskIds.insertionSort (· ≤ ·)
  rejectIf (anyWindow (fun a b => decide (a = b)) sorted) .duplicateTaskDependency
  pure
    { prompt, acceptanceCriteria, parentTaskId, supersedesTaskId
      dependencyTaskIds := sorted
      definitionDigest := taskDefinitionDigest blake3 prompt acceptanceCriteria parentTaskId sorted supersedesTaskId }

end

/-- The tasks a definition refers to: parent, dependencies, the superseded one. -/
def TaskDefinitionV1.targets (definition : TaskDefinitionV1) : List String :=
  definition.parentTaskId.toList ++ definition.dependencyTaskIds ++ definition.supersedesTaskId.toList

/-! ## Reading a task -/

structure TaskBlockerV1 where
  taskId : String
  state : TaskStateV1
  reason : String
deriving DecidableEq

structure TaskRecordV1 where
  canonicalTaskId : String
  requestedTaskId : String
  definition : TaskDefinitionV1
  revision : Nat
  state : TaskStateV1
  stateGeneration : Nat
  blockers : List TaskBlockerV1
  createdMs : Int
  updatedMs : Int
deriving DecidableEq

/-- The reason a dependency in this state blocks. -/
def blockerReason : TaskStateV1 → String
  | .failed => "dependency_failed"
  | .cancelled => "dependency_cancelled"
  | _ => "dependency_incomplete"

/-- `dependency_blockers_tx_v1`. -/
def dependencyBlockers (db : Tables) (scope : TaskScope) : List String → Except LedgerError (List TaskBlockerV1)
  | [] => pure []
  | dependency :: rest => do
    let row ← requireSome (db.task? ⟨scope, dependency⟩) .relationCorrupt
    let blockers ← dependencyBlockers db scope rest
    pure (if row.state = .completed then blockers
      else { taskId := dependency, state := row.state, reason := blockerReason row.state } :: blockers)

/-- The order of the texts `dependency`, `parent`, `supersedes`. -/
def TaskRelationKindV1.rank : TaskRelationKindV1 → Nat
  | .dependency => 0
  | .parent => 1
  | .supersedes => 2

/-- `ORDER BY relation_kind, ordinal, target_task_id`. -/
def TaskRelation.before (r s : TaskRelation) : Bool :=
  r.relationKind.rank < s.relationKind.rank ||
    r.relationKind = s.relationKind && (r.ordinal < s.ordinal || r.ordinal = s.ordinal && r.targetTaskId ≤ s.targetTaskId)

/-- The relations read so far. -/
structure ReadRelations where
  parent : Option String := none
  supersedes : Option String := none
  dependencies : List String := []
deriving DecidableEq

def ReadRelations.read (acc : ReadRelations) (relation : TaskRelation) : Except LedgerError ReadRelations :=
  match relation.relationKind with
  | .parent => do
    rejectIf (relation.ordinal ≠ 0 ∨ acc.parent ≠ none) .relationCorrupt
    pure { acc with parent := some relation.targetTaskId }
  | .dependency => do
    rejectIf (relation.ordinal ≠ acc.dependencies.length) .relationCorrupt
    pure { acc with dependencies := acc.dependencies ++ [relation.targetTaskId] }
  | .supersedes => do
    rejectIf (relation.ordinal ≠ 0 ∨ acc.supersedes ≠ none) .relationCorrupt
    pure { acc with supersedes := some relation.targetTaskId }

def Tables.relationsOf (db : Tables) (key : TaskKey) : List TaskRelation :=
  (db.relations.filter fun r => r.sourceKey = key).insertionSort fun r s => r.before s

section
variable (ext : Externals)

/-- `load_task_record_tx_v1`. -/
def loadTaskRecord (db : Tables) (key : TaskKey) (requestedTaskId : String) : Except LedgerError TaskRecordV1 := do
  let row ← requireSome (db.task? key) .queryReturnedNoRows
  rejectIf (contextTaskPromptDigest ext.blake3 row.promptText ≠ row.promptDigest) .taskCorrupt
  let acceptanceCriteria ← requireSome (ext.criteriaFromStr row.acceptanceCriteriaJson) .taskCorrupt
  let relations ← (db.relationsOf key).foldlM ReadRelations.read {}
  let definition ← TaskDefinitionV1.new ext.blake3 row.promptText acceptanceCriteria relations.parent
    relations.dependencies relations.supersedes
  rejectIf (row.definitionDigest ≠ some definition.definitionDigest) .taskCorrupt
  let blockers ← dependencyBlockers db key.scope definition.dependencyTaskIds
  pure
    { canonicalTaskId := key.taskId
      requestedTaskId, definition, blockers
      revision := row.revision
      state := row.state
      stateGeneration := row.stateGeneration
      createdMs := row.createdMs
      updatedMs := row.updatedMs }

/-! ## Resolving an alias -/

inductive ContextTaskMatchV1
  | created | joinedByTaskId | joinedByPrompt
deriving DecidableEq

structure ContextTaskResolutionV1 where
  canonicalTaskId : String
  requestedTaskId : String
  prompt : String
  promptDigest : String
  matchedBy : ContextTaskMatchV1
deriving DecidableEq

/-- `enforce_task_capacity_tx_v1`. -/
def enforceTaskCapacity (workspace : Workspace) : LedgerTx Unit := do
  refuseIf (maxContextTasksPerWorkspace ≤ (← get).tasks.countP fun t => t.key.scope.workspace = workspace)
    .taskCapacityExceeded

/-- `enforce_task_alias_capacity_tx_v1`. -/
def enforceTaskAliasCapacity (workspace : Workspace) : LedgerTx Unit := do
  refuseIf (maxContextTaskAliasesPerWorkspace ≤ (← get).aliases.countP fun a => a.scope.workspace = workspace)
    .aliasCapacityExceeded

/-- `UPDATE context_tasks_v1 SET updated_ms = ?`. -/
def touchTask (key : TaskKey) (now : Int) : LedgerTx Unit := do
  let _ ← updateTasks (fun t => t.key = key) fun t => { t with updatedMs := now }

/-- A further alias of a task, charged to the workspace. -/
def chargeAlias (scope : TaskScope) (requestedTaskId canonicalTaskId : String) : LedgerTx Unit := do
  enforceTaskAliasCapacity scope.workspace
  reserveTaskContextBytes ext.blake3 scope.workspace (taskAliasLogicalBytes requestedTaskId canonicalTaskId)
  insertAlias { scope, requestedTaskId, canonicalTaskId }

/-- The rows of a new task, charged to the workspace. -/
def chargeTask (now : Int) (row : TaskRow) (relations : List TaskRelation) (relationBytes : Nat) (reason : String) :
    LedgerTx Unit := do
  let taskId := row.key.taskId
  let logicalBytes := satAdd (satAdd (satAdd (taskRowLogicalBytes taskId row.promptText row.acceptanceCriteriaJson)
    (taskAliasLogicalBytes taskId taskId)) relationBytes) (taskTransitionLogicalBytes taskId reason none)
  reserveTaskContextBytes ext.blake3 row.key.scope.workspace logicalBytes
  insertTask row
  insertAlias { scope := row.key.scope, requestedTaskId := taskId, canonicalTaskId := taskId }
  relations.forM insertRelation
  insertTransition
    { sequence := 0
      key := row.key
      fromState := none
      toState := row.state
      stateGeneration := 1
      leaseId := none
      actor := none
      reason
      createdMs := now }

/-- `Store::resolve_context_task_v1`. -/
def resolveContextTaskV1 (now : Int) (scope : TaskScope) (requestedTaskId : String) (suppliedPrompt : Option String) :
    LedgerTx ContextTaskResolutionV1 := atomically do
  attempt ([scope.workspace.repositoryId, scope.workspace.workspaceId, requestedTaskId].forM checkSelector)
  refuseIf (validDigest scope.authorizationScopeDigest = false) (.invalidDigest "context task authorization scope")
  let prompt := suppliedPrompt.getD requestedTaskId
  refuseIf (validReasoningText prompt maxTaskPromptBytes = false) (.reasoning .invalidText)
  attempt (screenSensitiveText prompt)
  let promptDigest := contextTaskPromptDigest ext.blake3 prompt
  let definitionDigest := taskDefinitionDigest ext.blake3 prompt [] none [] none
  let db ← get
  match (db.resolveAlias scope requestedTaskId).bind fun canonical => db.task? ⟨scope, canonical⟩ with
  | some stored => do
    refuseIf (contextTaskPromptDigest ext.blake3 stored.promptText ≠ stored.promptDigest) .taskCorrupt
    refuseIf (suppliedPrompt.isSome ∧
      (stored.promptDigest ≠ promptDigest ∨ stored.definitionDigest ≠ some definitionDigest)) .taskDefinitionConflict
    touchTask stored.key now
    pure
      { canonicalTaskId := stored.key.taskId
        requestedTaskId
        prompt := stored.promptText
        promptDigest := stored.promptDigest
        matchedBy := .joinedByTaskId }
  | none =>
    match db.taskWithDefinition? scope definitionDigest with
    | some stored => do
      refuseIf (contextTaskPromptDigest ext.blake3 stored.promptText ≠ promptDigest) .taskCorrupt
      chargeAlias ext scope requestedTaskId stored.key.taskId
      touchTask stored.key now
      pure
        { canonicalTaskId := stored.key.taskId
          requestedTaskId
          prompt := stored.promptText
          promptDigest
          matchedBy := .joinedByPrompt }
    | none => do
      enforceTaskCapacity scope.workspace
      enforceTaskAliasCapacity scope.workspace
      chargeTask ext now
        { key := ⟨scope, requestedTaskId⟩
          promptDigest
          promptText := prompt
          definitionDigest := some definitionDigest
          acceptanceCriteriaJson := "[]"
          revision := 1
          state := .active
          stateGeneration := 1
          createdMs := now
          updatedMs := now } [] 0 "task_started"
      pure { canonicalTaskId := requestedTaskId, requestedTaskId, prompt, promptDigest, matchedBy := .created }

/-! ## Starting -/

structure TaskStartOutcomeV1 where
  task : TaskRecordV1
  matchedBy : ContextTaskMatchV1
deriving DecidableEq

/-- The recursive query of `ensure_task_graph_edge_v1`: every path from a task, with its depth. -/
def Tables.reachable (db : Tables) (scope : TaskScope) : Nat → String → Nat → List (String × Nat)
  | 0, taskId, depth => [(taskId, depth)]
  | steps + 1, taskId, depth =>
    (taskId, depth) :: (db.relations.filter fun r => r.sourceKey = ⟨scope, taskId⟩).flatMap fun r =>
      db.reachable scope steps r.targetTaskId (depth + 1)

/-- `ensure_task_graph_edge_v1`; the query goes on from the rows with `depth <= 32`. -/
def ensureTaskGraphEdge (db : Tables) (scope : TaskScope) (sourceTaskId targetTaskId : String) :
    Except LedgerError Unit := do
  rejectIf (sourceTaskId = targetTaskId) .graphSelfEdge
  let reached := db.reachable scope maxTaskGraphDepth targetTaskId 1
  rejectIf (reached.any fun r => r.1 = sourceTaskId) .graphCycle
  rejectIf (reached.any fun r => maxTaskGraphDepth ≤ r.2) .graphDepthExceeded

/-- `resolve_relation`. -/
def resolveRelation (db : Tables) (scope : TaskScope) (requestedTaskId selector : String) : Except LedgerError String := do
  rejectIf (selector = requestedTaskId) .graphSelfEdge
  requireSome (db.resolveAlias scope selector) .relationUnavailable

/-- The supplied definition with its relations resolved to canonical tasks. -/
def resolveDefinition (db : Tables) (scope : TaskScope) (requestedTaskId : String) (supplied : TaskDefinitionV1) :
    Except LedgerError TaskDefinitionV1 := do
  let parent ← supplied.parentTaskId.mapM (resolveRelation db scope requestedTaskId)
  let supersedes ← supplied.supersedesTaskId.mapM (resolveRelation db scope requestedTaskId)
  let dependencies ← supplied.dependencyTaskIds.mapM (resolveRelation db scope requestedTaskId)
  let sorted := dependencies.insertionSort (· ≤ ·)
  rejectIf (anyWindow (fun a b => decide (a = b)) sorted) .duplicateTaskDependency
  TaskDefinitionV1.new ext.blake3 supplied.prompt supplied.acceptanceCriteria parent sorted supersedes

/-- The revision after the superseded task's. -/
def nextRevision (db : Tables) (scope : TaskScope) : Option String → Except LedgerError Nat
  | some taskId => do
    let row ← requireSome (db.task? ⟨scope, taskId⟩) .queryReturnedNoRows
    pure (row.revision + 1)
  | none => pure 1

/-- The rows `insert_task_relations_tx_v1` writes. -/
def relationRows (scope : TaskScope) (sourceTaskId : String) (definition : TaskDefinitionV1) : List TaskRelation :=
  (definition.parentTaskId.toList.map fun target => ⟨scope, sourceTaskId, .parent, target, 0⟩) ++
    (definition.dependencyTaskIds.zipIdx.map fun d => ⟨scope, sourceTaskId, .dependency, d.1, d.2⟩) ++
    definition.supersedesTaskId.toList.map fun target => ⟨scope, sourceTaskId, .supersedes, target, 0⟩

/-- What is decided about a new task before anything is written. -/
def planTask (db : Tables) (now : Int) (key : TaskKey) (definition : TaskDefinitionV1) : Except LedgerError TaskRow := do
  definition.targets.forM (ensureTaskGraphEdge db key.scope key.taskId)
  let blockers ← dependencyBlockers db key.scope definition.dependencyTaskIds
  let revision ← nextRevision db key.scope definition.supersedesTaskId
  pure
    { key, revision
      promptDigest := contextTaskPromptDigest ext.blake3 definition.prompt
      promptText := definition.prompt
      definitionDigest := some definition.definitionDigest
      acceptanceCriteriaJson := ext.criteriaToString definition.acceptanceCriteria
      state := if blockers = [] then .active else .waiting
      stateGeneration := 1
      createdMs := now
      updatedMs := now }

/-- The reason of a task's first transition. -/
def initialReason (state : TaskStateV1) : String :=
  if state = .waiting then "task_started_waiting_for_dependencies" else "task_started"

/-- `Store::start_task_v1`. -/
def startTaskV1 (now : Int) (scope : TaskScope) (requestedTaskId : String) (supplied : TaskDefinitionV1) :
    LedgerTx TaskStartOutcomeV1 := atomically do
  attempt ([scope.workspace.repositoryId, scope.workspace.workspaceId, requestedTaskId].forM checkSelector)
  refuseIf (validDigest scope.authorizationScopeDigest = false) (.invalidDigest "task authorization scope digest")
  let db ← get
  let definition ← attempt (resolveDefinition ext db scope requestedTaskId supplied)
  match db.resolveAlias scope requestedTaskId with
  | some canonical => do
    let task ← attempt (loadTaskRecord ext db ⟨scope, canonical⟩ requestedTaskId)
    refuseIf (task.definition.definitionDigest ≠ definition.definitionDigest) .taskDefinitionConflict
    pure { task, matchedBy := .joinedByTaskId }
  | none =>
    match db.taskWithDefinition? scope definition.definitionDigest with
    | some stored => do
      chargeAlias ext scope requestedTaskId stored.key.taskId
      let task ← attempt (loadTaskRecord ext (← get) stored.key requestedTaskId)
      pure { task, matchedBy := .joinedByPrompt }
    | none => do
      enforceTaskCapacity scope.workspace
      enforceTaskAliasCapacity scope.workspace
      let row ← attempt (planTask ext db now ⟨scope, requestedTaskId⟩ definition)
      let relationBytes := (definition.targets.map (taskRelationLogicalBytes requestedTaskId)).foldl satAdd 0
      chargeTask ext now row (relationRows scope requestedTaskId definition) relationBytes (initialReason row.state)
      let task ← attempt (loadTaskRecord ext (← get) ⟨scope, requestedTaskId⟩ requestedTaskId)
      pure { task, matchedBy := .created }

/-! ## Deleting -/

/-- The rows of a task's ledger; the statements down to the events' do not name the scope. -/
def deleteTaskLedger (key : TaskKey) : LedgerTx Unit := do
  modify fun db => { db with receipts := db.receipts.filter fun r => r.task ≠ key.task }
  modify fun db => { db with facts := db.facts.filter fun f => f.task ≠ key.task }
  modify fun db => { db with references := db.references.filter fun r => r.task ≠ key.task }
  let _ ← deleteEvents fun e => e.task = key.task
  modify fun db => { db with recipients := db.recipients.filter fun r => r.key ≠ key }
  modify fun db => { db with leases := db.leases.filter fun l => l.key ≠ key }
  modify fun db => { db with aliases := db.aliases.filter fun a => a.canonicalKey ≠ key }

/-- `Store::delete_task_v1`. -/
def deleteTaskV1 (scope : TaskScope) (requestedTaskId : String) : LedgerTx Bool := atomically do
  attempt (checkSelector requestedTaskId)
  refuseIf (validDigest scope.authorizationScopeDigest = false) (.invalidDigest "task authorization scope digest")
  let db ← get
  match db.resolveAlias scope requestedTaskId with
  | none => pure false
  | some canonical => do
    let key : TaskKey := ⟨scope, canonical⟩
    let row ← okOr (db.task? key) .queryReturnedNoRows
    refuseIf (row.state.isTerminal = false) .deleteRequiresTerminal
    refuseIf (db.relations.any fun r => r.targetKey = key) .deleteReferenced
    refuseIf (db.leases.any fun l => l.key = key ∧ l.status = .active) .deleteActiveLease
    deleteTaskLedger key
    let changed ← deleteTaskRow key
    refuseIf (changed ≠ 1) .taskCorrupt
    reconcileTaskQuotaScope ext.blake3 scope.workspace
    pure true

end

end Again.Ledger
