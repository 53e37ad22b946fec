import Again.Ledger.Tables

/-!
# The workspace quota

Each operation that stores text charges its bytes to a counter of the
workspace; after a deletion the counter is computed again from the rows. The
charge is counted by Rust and the recomputation by SQLite, where `length` of a
text counts characters up to a NUL.
-/

namespace Again.Ledger

open Lib Gateway

/-- `u64::MAX`. -/
def u64Max : Nat := 18446744073709551615

/-- `u64::saturating_add`. -/
def satAdd (a b : Nat) : Nat := min u64Max (a + b)

def maxTaskContextLogicalBytes : Nat := 256 * 1024 * 1024
def maxWorkspaceStateLogicalBytes : Nat := 1024 * 1024 * 1024

/-! ## Charges -/

/-- `str::len`. -/
def len (text : String) : Nat := (utf8 text).length

/-- `task_row_logical_bytes_v1`. -/
def taskRowLogicalBytes (taskId prompt acceptanceJson : String) : Nat :=
  satAdd (satAdd (satAdd (len taskId) (len prompt)) (len acceptanceJson)) 256

/-- `task_alias_logical_bytes_v1`. -/
def taskAliasLogicalBytes (requested canonical : String) : Nat := satAdd (satAdd (len requested) (len canonical)) 128

/-- `task_relation_logical_bytes_v1`. -/
def taskRelationLogicalBytes (source target : String) : Nat := satAdd (satAdd (len source) (len target)) 128

/-- `task_transition_logical_bytes_v1`. -/
def taskTransitionLogicalBytes (taskId reason : String) (leaseId : Option String) : Nat :=
  satAdd (satAdd (satAdd (len taskId) (len reason)) ((leaseId.map len).getD 0)) 256

/-- `context_event_logical_bytes_v1`. -/
def contextEventLogicalBytes (subjectId summary : String) : Nat := satAdd (satAdd (len subjectId) (len summary)) 512

/-- What a delivery receipt is charged. -/
def receiptLogicalBytes : Nat := 512

/-! ## Recomputation -/

/-- `length(CAST(text AS BLOB))` in SQLite. -/
def sqlBlobLength (text : String) : Nat := (utf8 text).length

def TaskRow.logicalBytes (t : TaskRow) : Nat :=
  sqlLength t.key.taskId + sqlBlobLength t.promptText + sqlBlobLength t.acceptanceCriteriaJson + 256

def TaskAlias.logicalBytes (a : TaskAlias) : Nat := sqlLength a.requestedTaskId + sqlLength a.canonicalTaskId + 128

def TaskRelation.logicalBytes (r : TaskRelation) : Nat := sqlLength r.sourceTaskId + sqlLength r.targetTaskId + 128

def TaskTransition.logicalBytes (t : TaskTransition) : Nat :=
  sqlLength t.key.taskId + sqlBlobLength t.reason + (t.leaseId.map sqlLength).getD 0 + 256

def LedgerEvent.logicalBytes (e : LedgerEvent) : Nat := sqlLength e.fields.subjectId + sqlBlobLength e.fields.summary + 512

/-- The bytes of the rows of a workspace. -/
def workspaceBytes {ρ : Type} (workspaceOf : ρ → Workspace) (bytes : ρ → Nat) (workspace : Workspace) (rows : List ρ) :
    Nat :=
  ((rows.filter fun r => workspaceOf r = workspace).map bytes).sum

/-- The sum that `reconcile_task_quota_scope_v1_tx` selects. -/
def Tables.taskContextBytes (db : Tables) (workspace : Workspace) : Nat :=
  workspaceBytes (·.key.scope.workspace) TaskRow.logicalBytes workspace db.tasks +
    workspaceBytes (·.scope.workspace) TaskAlias.logicalBytes workspace db.aliases +
    workspaceBytes (·.scope.workspace) TaskRelation.logicalBytes workspace db.relations +
    workspaceBytes (·.key.scope.workspace) TaskTransition.logicalBytes workspace db.transitions +
    workspaceBytes (·.scope.workspace) LedgerEvent.logicalBytes workspace db.events +
    workspaceBytes (·.scope.workspace) (fun _ => receiptLogicalBytes) workspace db.receipts

/-- `stored_result_logical_bytes_v1`. -/
def Tables.storedResultLogicalBytes (db : Tables) : Nat :=
  (db.gateway.results.map fun r => r.result.stdoutBytes.toNat + r.result.stderrBytes.toNat).sum

/-! ## The counter -/

/-- `INSERT INTO context_workspace_quota_v1 .. ON CONFLICT DO UPDATE`. -/
def Tables.withQuota (db : Tables) (row : WorkspaceQuota) : Tables :=
  { db with
    quotas :=
      if db.quotas.any fun q => q.workspace = row.workspace then
        updateWhere (fun q => q.workspace = row.workspace) (fun _ => row) db.quotas
      else db.quotas ++ [row] }

section
variable (blake3 : Bytes → Octets 32)

/-- `task_quota_checksum_v1`. -/
def taskQuotaChecksum (workspace : Workspace) (taskContextBytes workspaceStateBytes : Nat) (maintenanceMode : Bool) :
    String :=
  hexDigest blake3 (utf8 "again.context-workspace-quota.v1\x00" ++ hashField workspace.repositoryId ++
    hashField workspace.workspaceId ++ le64 (UInt64.ofNat taskContextBytes) ++
    le64 (UInt64.ofNat workspaceStateBytes) ++ [if maintenanceMode then 1 else 0])

def WorkspaceQuota.checksum (quota : WorkspaceQuota) : String :=
  taskQuotaChecksum blake3 quota.workspace quota.taskContextBytes quota.workspaceStateBytes quota.maintenanceMode

/-- The row with its checksum. -/
def quotaRow (workspace : Workspace) (taskContextBytes workspaceStateBytes : Nat) (maintenanceMode : Bool) :
    WorkspaceQuota :=
  { workspace, taskContextBytes, workspaceStateBytes, maintenanceMode
    counterChecksum := taskQuotaChecksum blake3 workspace taskContextBytes workspaceStateBytes maintenanceMode }

/-- `reserve_task_context_bytes_v1`. -/
def reserveTaskContextBytes (workspace : Workspace) (additionalBytes : Nat) : LedgerTx Unit := do
  let db ← get
  let existing := db.quota? workspace
  let currentTaskBytes := (existing.map (·.taskContextBytes)).getD 0
  refuseIf (existing.any fun q => q.counterChecksum ≠ q.checksum blake3) .quotaCounterCorrupt
  refuseIf (existing.any (·.maintenanceMode)) .maintenanceMode
  let nextTaskBytes := currentTaskBytes + additionalBytes
  refuseIf (u64Max < nextTaskBytes) .taskContextQuotaExceeded
  let nextWorkspaceBytes := nextTaskBytes + db.storedResultLogicalBytes
  refuseIf (u64Max < nextWorkspaceBytes) .workspaceStateQuotaExceeded
  refuseIf (maxTaskContextLogicalBytes < nextTaskBytes) .taskContextQuotaExceeded
  refuseIf (maxWorkspaceStateLogicalBytes < nextWorkspaceBytes) .workspaceStateQuotaExceeded
  set (db.withQuota (quotaRow blake3 workspace nextTaskBytes nextWorkspaceBytes false))

/-- `reconcile_task_quota_scope_v1_tx`. -/
def reconcileTaskQuotaScope (workspace : Workspace) : LedgerTx Unit := do
  let db ← get
  let taskBytes := db.taskContextBytes workspace
  let workspaceStateBytes := satAdd taskBytes db.storedResultLogicalBytes
  set (db.withQuota (quotaRow blake3 workspace taskBytes workspaceStateBytes
    (maxTaskContextLogicalBytes < taskBytes || maxWorkspaceStateLogicalBytes < workspaceStateBytes)))

/-- `refresh_workspace_state_quota_v1_tx`, after the stored results have changed. -/
def Tables.refreshWorkspaceStateQuota (db : Tables) : Tables :=
  { db with
    quotas := db.quotas.map fun q =>
      let workspaceStateBytes := satAdd q.taskContextBytes db.storedResultLogicalBytes
      quotaRow blake3 q.workspace q.taskContextBytes workspaceStateBytes
        (maxTaskContextLogicalBytes < q.taskContextBytes || maxWorkspaceStateLogicalBytes < workspaceStateBytes) }

end

end Again.Ledger
