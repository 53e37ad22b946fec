import Again.Ledger.TaskLifecycle
import Mathlib.Algebra.Order.BigOperators.Group.List
import Mathlib.Data.List.TakeWhile

/-!
# The quota counter is exact

A row is charged by the bytes of its texts in Rust and counted again by SQLite
in characters. The columns that SQLite counts in characters hold plain ASCII:
task selectors, identifiers and lease ids. So each charge is what the new rows
count for, the counter is their sum in every reachable state, and since a
charge is refused above the bound and a deletion only removes rows, the counter
stays within it.
-/

namespace Again.Ledger

open Lib Gateway Tables

variable {transition : TaskTransition} {relations : List TaskRelation} {row : TaskRow}

variable {workspace : Workspace}

/-! ## Plain texts -/

/-- Every character is ASCII and none is NUL. -/
def Plain (text : String) : Prop := ∀ c ∈ text.toList, c.toNat < 128 ∧ c.toNat ≠ 0

variable {text : String}

/-- Rust's bytes and SQLite's characters of a plain text are as many. -/
theorem Plain.len_eq (h : Plain text) : len text = sqlLength text := by
  have hall : text.toList.takeWhile (· ≠ '\x00') = text.toList := by
    refine List.takeWhile_eq_self_iff.2 fun c hc => ?_
    have hne : c ≠ '\x00' := by
      rintro rfl
      exact (h _ hc).2 rfl
    simpa using hne
  rw [len, sqlLength, hall, utf8_of_ascii fun c hc => (h c hc).1, List.length_map]

theorem plain_of_bytes {P : UInt8 → Bool} (hP : ∀ b, P b = true → b.toNat < 128 ∧ b.toNat ≠ 0)
    (h : (utf8 text).all P = true) : Plain text := by
  intro c hc
  obtain ⟨hascii, hbyte⟩ := (all_utf8_iff fun b hb => (hP b hb).1).1 h c hc
  refine ⟨hascii, ?_⟩
  have hne := (hP _ hbyte).2
  rw [UInt8.toNat_ofNat', Nat.mod_eq_of_lt (by omega)] at hne
  exact hne

theorem plain_of_validTaskSelector (h : validTaskSelector text = true) : Plain text := by
  simp only [validTaskSelector, Bool.and_eq_true] at h
  refine plain_of_bytes ?_ h.2
  intro b hb
  simp only [isAsciiAlphanumeric, isAsciiUppercase, isAsciiLowercase, isAsciiDigit, Bool.or_eq_true, Bool.and_eq_true,
    decide_eq_true_eq, UInt8.le_iff_toNat_le, ← UInt8.toNat_inj] at hb
  simp at hb
  omega

theorem plain_of_validReasoningIdentifier (h : validReasoningIdentifier text = true) : Plain text := by
  simp only [validReasoningIdentifier, Bool.and_eq_true] at h
  refine plain_of_bytes ?_ h.2
  intro b hb
  simp only [isAsciiGraphic, Bool.and_eq_true, decide_eq_true_eq, UInt8.le_iff_toNat_le] at hb
  simp at hb
  omega

theorem plain_leaseIdOf (uuid : Octets 16) : Plain (leaseIdOf uuid) := by
  intro c hc
  rw [leaseIdOf, String.toList_append, List.mem_append] at hc
  rcases hc with hc | hc
  · have htext : "cl_".toList = ['c', 'l', '_'] := rfl
    rw [htext] at hc
    simp only [List.mem_cons, List.not_mem_nil, or_false] at hc
    rcases hc with rfl | rfl | rfl <;> decide
  · have hhex := isLowerHex_toHex hc
    simp only [isLowerHex, Bool.or_eq_true, Bool.and_eq_true, decide_eq_true_eq] at hhex
    omega

theorem plain_taskId (identity : ContextLedgerIdentityV1) : Plain identity.taskId := by
  have h := identity.property
  simp only [IdentityFields.check, bind_eq_ok, exists_unit, forM_eq_ok] at h
  have hid := h.1 identity.taskId (by simp [ContextLedgerIdentityV1.taskId, ContextLedgerIdentityV1.key])
  rw [checkIdentifier, rejectIf_eq_ok] at hid
  exact plain_of_validReasoningIdentifier (by simpa using hid)

/-! ## Saturating sums -/

theorem satAdd_of_le {a b : Nat} (h : satAdd a b ≤ maxTaskContextLogicalBytes) :
    satAdd a b = a + b ∧ a ≤ maxTaskContextLogicalBytes ∧ b ≤ maxTaskContextLogicalBytes := by
  unfold satAdd u64Max maxTaskContextLogicalBytes at *
  omega

theorem foldl_satAdd_of_le {costs : List Nat} {a : Nat} (h : costs.foldl satAdd a ≤ maxTaskContextLogicalBytes) :
    costs.foldl satAdd a = a + costs.sum ∧ a ≤ maxTaskContextLogicalBytes := by
  induction costs generalizing a with
  | nil => simpa using h
  | cons cost costs ih =>
    rw [List.foldl_cons] at h ⊢
    obtain ⟨hsum, hle⟩ := ih h
    obtain ⟨hadd, ha, _⟩ := satAdd_of_le hle
    rw [hsum, hadd, List.sum_cons]
    exact ⟨by omega, ha⟩

/-! ## Charges and rows -/

theorem sqlBlobLength_eq_len (text : String) : sqlBlobLength text = len text := rfl

theorem charged_event {e : LedgerEvent} (hsubject : Plain e.fields.subjectId)
    (h : contextEventLogicalBytes e.fields.subjectId e.fields.summary ≤ maxTaskContextLogicalBytes) :
    contextEventLogicalBytes e.fields.subjectId e.fields.summary = e.logicalBytes := by
  simp only [contextEventLogicalBytes, hsubject.len_eq, LedgerEvent.logicalBytes, sqlBlobLength_eq_len, satAdd,
    u64Max, maxTaskContextLogicalBytes] at h ⊢
  omega

theorem charged_alias {a : TaskAlias} (hrequested : Plain a.requestedTaskId) (hcanonical : Plain a.canonicalTaskId)
    (h : taskAliasLogicalBytes a.requestedTaskId a.canonicalTaskId ≤ maxTaskContextLogicalBytes) :
    taskAliasLogicalBytes a.requestedTaskId a.canonicalTaskId = a.logicalBytes := by
  simp only [taskAliasLogicalBytes, hrequested.len_eq, hcanonical.len_eq, TaskAlias.logicalBytes, satAdd, u64Max,
    maxTaskContextLogicalBytes] at h ⊢
  omega

theorem charged_relation {r : TaskRelation} (hsource : Plain r.sourceTaskId) (htarget : Plain r.targetTaskId)
    (h : taskRelationLogicalBytes r.sourceTaskId r.targetTaskId ≤ maxTaskContextLogicalBytes) :
    taskRelationLogicalBytes r.sourceTaskId r.targetTaskId = r.logicalBytes := by
  simp only [taskRelationLogicalBytes, hsource.len_eq, htarget.len_eq, TaskRelation.logicalBytes, satAdd, u64Max,
    maxTaskContextLogicalBytes] at h ⊢
  omega

theorem charged_transition {t : TaskTransition} (htask : Plain t.key.taskId)
    (hlease : ∀ id, t.leaseId = some id → Plain id)
    (h : taskTransitionLogicalBytes t.key.taskId t.reason t.leaseId ≤ maxTaskContextLogicalBytes) :
    taskTransitionLogicalBytes t.key.taskId t.reason t.leaseId = t.logicalBytes := by
  have hid : (t.leaseId.map len).getD 0 = (t.leaseId.map sqlLength).getD 0 := by
    cases hid : t.leaseId with
    | none => rfl
    | some id => exact (hlease id hid).len_eq
  simp only [taskTransitionLogicalBytes, htask.len_eq, hid, TaskTransition.logicalBytes, sqlBlobLength_eq_len, satAdd,
    u64Max, maxTaskContextLogicalBytes] at h ⊢
  omega

theorem charged_taskRow {t : TaskRow} (htask : Plain t.key.taskId)
    (h : taskRowLogicalBytes t.key.taskId t.promptText t.acceptanceCriteriaJson ≤ maxTaskContextLogicalBytes) :
    taskRowLogicalBytes t.key.taskId t.promptText t.acceptanceCriteriaJson = t.logicalBytes := by
  simp only [taskRowLogicalBytes, htask.len_eq, TaskRow.logicalBytes, sqlBlobLength_eq_len, satAdd, u64Max,
    maxTaskContextLogicalBytes] at h ⊢
  omega

/-- A new task is charged for its row, its own alias, its relations and its first transition. -/
theorem charged_createdBytes (htask : Plain row.key.taskId)
    (hrelations : ∀ r ∈ relations, Plain r.sourceTaskId ∧ Plain r.targetTaskId) (hkey : transition.key = row.key)
    (hlease : transition.leaseId = none)
    (h : createdBytes row relations transition.reason ≤ maxTaskContextLogicalBytes) :
    createdBytes row relations transition.reason =
      row.logicalBytes + TaskAlias.logicalBytes ⟨row.key.scope, row.key.taskId, row.key.taskId⟩ +
        (relations.map TaskRelation.logicalBytes).sum + transition.logicalBytes := by
  obtain ⟨hsum, hle, htransition⟩ := satAdd_of_le h
  obtain ⟨hsum', hle', hfold⟩ := satAdd_of_le hle
  obtain ⟨hsum'', hrow, halias⟩ := satAdd_of_le hle'
  obtain ⟨hrelationSum, _⟩ := foldl_satAdd_of_le hfold
  have hcosts : (relations.map fun r => taskRelationLogicalBytes r.sourceTaskId r.targetTaskId).sum ≤
      maxTaskContextLogicalBytes := by omega
  have hrelationCosts : (relations.map fun r => taskRelationLogicalBytes r.sourceTaskId r.targetTaskId) =
      relations.map TaskRelation.logicalBytes := by
    refine List.map_congr_left fun r hr => ?_
    obtain ⟨hsource, htarget⟩ := hrelations r hr
    have hone : taskRelationLogicalBytes r.sourceTaskId r.targetTaskId ∈
        relations.map fun r => taskRelationLogicalBytes r.sourceTaskId r.targetTaskId := List.mem_map_of_mem hr
    exact charged_relation hsource htarget ((List.le_sum_of_mem hone).trans hcosts)
  have htransitionCost : taskTransitionLogicalBytes row.key.taskId transition.reason none =
      transition.logicalBytes := by
    rw [← hkey, ← hlease] at htransition ⊢
    exact charged_transition (hkey ▸ htask) (by simp [hlease]) htransition
  have haliasCost := charged_alias (a := ⟨row.key.scope, row.key.taskId, row.key.taskId⟩) htask htask halias
  rw [createdBytes, hsum, hsum', hsum'', charged_taskRow htask hrow, hrelationSum, htransitionCost, hrelationCosts]
  rw [haliasCost]
  omega

/-! ## The rows of a workspace -/

section workspaceBytes
variable {ρ : Type} {workspaceOf : ρ → Workspace} {bytes : ρ → Nat} {rows : List ρ}

theorem workspaceBytes_append (more : List ρ) :
    workspaceBytes workspaceOf bytes workspace (rows ++ more) =
      workspaceBytes workspaceOf bytes workspace rows + workspaceBytes workspaceOf bytes workspace more := by
  simp [workspaceBytes]

/-- Rows that all belong to one workspace. -/
theorem workspaceBytes_own {own : Workspace} (h : ∀ r ∈ rows, workspaceOf r = own) :
    workspaceBytes workspaceOf bytes workspace rows = if own = workspace then (rows.map bytes).sum else 0 := by
  by_cases hown : own = workspace
  · rw [if_pos hown, workspaceBytes, List.filter_eq_self.2 fun r hr => by simp [h r hr, hown]]
  · rw [if_neg hown, workspaceBytes, List.filter_eq_nil_iff.2 fun r hr => by simp [h r hr, hown]]
    rfl

theorem workspaceBytes_singleton (row : ρ) :
    workspaceBytes workspaceOf bytes workspace [row] = if workspaceOf row = workspace then bytes row else 0 := by
  by_cases hrow : workspaceOf row = workspace <;> simp [workspaceBytes, hrow]

/-- Rows of other workspaces are removed. -/
theorem workspaceBytes_filter_of_ne {keep : ρ → Bool} (h : ∀ r ∈ rows, keep r = false → workspaceOf r ≠ workspace) :
    workspaceBytes workspaceOf bytes workspace (rows.filter keep) =
    workspaceBytes workspaceOf bytes workspace rows := by
  rw [workspaceBytes, workspaceBytes, List.filter_filter]
  congr 2
  refine List.filter_congr fun r hr => ?_
  cases hkeep : keep r with
  | true => simp
  | false => simp [h r hr hkeep]

theorem workspaceBytes_filter_le {keep : ρ → Bool} :
    workspaceBytes workspaceOf bytes workspace (rows.filter keep) ≤ workspaceBytes workspaceOf bytes workspace rows :=
  List.Sublist.sum_le_sum ((List.filter_sublist.filter _).map _) fun _ _ => Nat.zero_le _

/-- A column the statement does not write is counted as before. -/
theorem workspaceBytes_updateWhere {sel : ρ → Bool} {write : ρ → ρ} (hof : ∀ r, workspaceOf (write r) = workspaceOf r)
    (hbytes : ∀ r, bytes (write r) = bytes r) :
    workspaceBytes workspaceOf bytes workspace (updateWhere sel write rows) =
      workspaceBytes workspaceOf bytes workspace rows := by
  unfold workspaceBytes updateWhere
  congr 1
  refine map_filter_map rows (fun r _ => ?_) fun r _ => ?_
  · split <;> simp [hof]
  · split <;> simp [hbytes]

end workspaceBytes

/-! ## The counter -/

section
variable {ext : Externals} {now : Int} {db : Tables}

/-- A quota row that is written is the one that is found. -/
theorem quota?_withQuota (row : WorkspaceQuota) (workspace : Workspace) :
    (db.withQuota row).quota? workspace = if row.workspace = workspace then some row else db.quota? workspace := by
  unfold quota? withQuota
  have hothers (quotas : List WorkspaceQuota) (hrow : row.workspace ≠ workspace) :
      (updateWhere (fun q => q.workspace = row.workspace) (fun _ => row) quotas).find? (·.workspace = workspace) =
        quotas.find? (·.workspace = workspace) := by
    induction quotas with
    | nil => rfl
    | cons q quotas ih =>
      simp only [updateWhere, List.map_cons, List.find?_cons] at ih ⊢
      rw [ih]
      by_cases hq : q.workspace = row.workspace <;> simp [hq, hrow]
  generalize db.quotas = quotas
  by_cases hrow : row.workspace = workspace
  · rw [if_pos hrow]
    induction quotas with
    | nil => simp [hrow]
    | cons q quotas ih =>
      by_cases hq : q.workspace = workspace
      · simp [hrow, hq, updateWhere]
      · rw [← ih]
        simp only [updateWhere, List.any_cons, hrow, hq, decide_false, Bool.false_or]
        split <;> simp [hq]
  · split
    · exact hothers quotas hrow
    · simp [hrow]

theorem counter_withQuota (row : WorkspaceQuota) (workspace : Workspace) :
    (db.withQuota row).counter workspace =
      if row.workspace = workspace then row.taskContextBytes else db.counter workspace := by
  rw [counter, quota?_withQuota]
  by_cases hrow : row.workspace = workspace
  · rw [if_pos hrow, if_pos hrow]
    rfl
  · rw [if_neg hrow, if_neg hrow]
    rfl

/-- The gateway's refresh keeps the counters. -/
theorem counter_refresh (workspace : Workspace) :
    (db.refreshWorkspaceStateQuota ext.blake3).counter workspace = db.counter workspace := by
  unfold counter quota? refreshWorkspaceStateQuota
  rw [List.find?_map, Option.map_map]
  rfl

/-- The events are numbered by the counter. -/
structure Sequenced (db : Tables) : Prop where
  unique : UniqueKey (·.sequence) db.events
  counted : ∀ e ∈ db.events, e.sequence ≤ db.lastEventSequence

namespace Sequenced

theorem empty : Sequenced {} := ⟨List.nodup_nil, by simp⟩

theorem change {op : LedgerOp} {db' : Tables} (h : Sequenced db) (hchange : Change ext now op db db') :
    Sequenced db' := by
  cases hchange with
  | record identity event quota hop hrecords =>
    have hnext : ∀ e ∈ db.events, e.sequence < event.sequence := by
      intro e he
      rw [hrecords.sequence]
      exact Nat.lt_succ_of_le (h.counted e he)
    constructor
    case unique => exact h.unique.append fun e he => (hnext e he).ne
    case counted => exact List.forall_mem_append.2 ⟨fun e he => (hnext e he).le, List.forall_mem_singleton.2 le_rfl⟩
  | delete key quota | collect identity sequences quota =>
    exact ⟨h.unique.sublist List.filter_sublist, fun e he => h.counted e (List.mem_of_mem_filter he)⟩
  | gateway | refresh | activate | retire | expire | settle | renew | lead | name | create | touch | move | retireFacts
  | addFact | retireReferences | addReference | dropRetired | acknowledge => exact ⟨h.unique, h.counted⟩

/-- A collected event is of the task: its sequence is its own. -/
theorem task_of_collected (h : Sequenced db) {sequences : List Nat} {task : ContextTask}
    (hcollectable : ∀ n ∈ sequences, n ∈ db.collectable task) {e : LedgerEvent} (he : e ∈ db.events)
    (hmem : e.sequence ∈ sequences) : e.task = task := by
  have hcollected := hcollectable _ hmem
  rw [collectable, List.mem_insertionSort] at hcollected
  obtain ⟨e', he', hsame⟩ := List.mem_map.1 hcollected
  rw [List.mem_filter] at he'
  obtain rfl := h.unique.eq_of_mem he'.1 he hsame
  exact (of_decide_eq_true he'.2).1

end Sequenced

/-- The counters are exact and within the bound, and the ids they are computed from are plain. -/
structure Accounted (db : Tables) : Prop where
  exact : ∀ workspace, db.counter workspace = db.taskContextBytes workspace
  bounded : ∀ workspace, db.counter workspace ≤ maxTaskContextLogicalBytes
  taskIds : ∀ t ∈ db.tasks, Plain t.key.taskId
  leaseIds : ∀ l ∈ db.leases, Plain l.leaseId

namespace Accounted

theorem empty : Accounted {} := by
  constructor <;> simp [counter, quota?, taskContextBytes, workspaceBytes]

variable {quota : WorkspaceQuota} {db' : Tables} {identity : ContextLedgerIdentityV1}

/-- Rows are added, and charged for. -/
theorem charge (h : Accounted db) {bytes : Nat} (hcharges : Charges ext.blake3 db workspace bytes quota)
    (hquotas : db'.quotas = (db.withQuota quota).quotas)
    (hbytes : ∀ w, db'.taskContextBytes w = db.taskContextBytes w + if workspace = w then bytes else 0)
    (htasks : ∀ t ∈ db'.tasks, Plain t.key.taskId) (hleases : ∀ l ∈ db'.leases, Plain l.leaseId) :
    Accounted db' := by
  have hcounter : ∀ w, db'.counter w = if workspace = w then db.counter w + bytes else db.counter w := by
    intro w
    have hsame : db'.counter w = (db.withQuota quota).counter w := by
      rw [counter, counter, quota?, quota?, hquotas]
    rw [hsame, counter_withQuota, hcharges.sameWorkspace]
    by_cases hw : workspace = w
    · rw [if_pos hw, if_pos hw, hcharges.counted, hw]
    · rw [if_neg hw, if_neg hw]
  refine ⟨fun w => ?_, fun w => ?_, htasks, hleases⟩
  · rw [hcounter w, hbytes w, ← h.exact w]
    split <;> simp
  · rw [hcounter w]
    by_cases hw : workspace = w
    · rw [if_pos hw, ← hw, ← hcharges.counted]
      exact hcharges.bounded
    · rw [if_neg hw]
      exact h.bounded w

/-- Rows of a workspace are removed, and its counter is computed again. -/
theorem reconcile (h : Accounted db) {removed : Tables} (hreconciles : Reconciles ext.blake3 removed workspace quota)
    (hquotas : removed.quotas = db.quotas) (hle : removed.taskContextBytes workspace ≤ db.taskContextBytes workspace)
    (hothers : ∀ w, w ≠ workspace → removed.taskContextBytes w = db.taskContextBytes w)
    (htasks : removed.tasks.Sublist db.tasks) (hleases : removed.leases.Sublist db.leases) :
    Accounted (removed.withQuota quota) := by
  have hcounter : ∀ w, (removed.withQuota quota).counter w = removed.taskContextBytes w := by
    intro w
    rw [counter_withQuota, hreconciles.sameWorkspace]
    by_cases hw : workspace = w
    · rw [if_pos hw, hreconciles.counted, hw]
    · have hsame : removed.counter w = db.counter w := by
        rw [counter, counter, quota?, quota?, hquotas]
      rw [if_neg hw, hsame, h.exact w, hothers w (Ne.symm hw)]
  constructor
  case exact => exact hcounter
  case bounded =>
    intro w
    rw [hcounter w]
    by_cases hw : w = workspace
    · rw [hw]
      exact hle.trans ((h.exact workspace).symm.le.trans (h.bounded workspace))
    · rw [hothers w hw, ← h.exact w]
      exact h.bounded w
  case taskIds => exact fun t ht => h.taskIds t (htasks.subset ht)
  case leaseIds => exact fun l hl => h.leaseIds l (hleases.subset hl)

/-- The ids of a table whose keys are as before are plain. -/
theorem plain_of_map {ρ κ : Type} (idOf : κ → String) {col : ρ → κ} {rows rows' : List ρ}
    (hrows : ∀ r ∈ rows, Plain (idOf (col r))) (hmap : rows'.map col = rows.map col) :
    ∀ r ∈ rows', Plain (idOf (col r)) := by
  intro r hr
  have hcol : col r ∈ rows.map col := by
    rw [← hmap]
    exact List.mem_map_of_mem hr
  obtain ⟨s, hs, hsame⟩ := List.mem_map.1 hcol
  rw [← hsame]
  exact hrows s hs

/-- The tables that count are as before. -/
theorem congr (h : Accounted db) (hcounter : ∀ w, db'.counter w = db.counter w)
    (hbytes : ∀ w, db'.taskContextBytes w = db.taskContextBytes w)
    (htasks : db'.tasks.map (·.key) = db.tasks.map (·.key))
    (hleases : db'.leases.map (·.leaseId) = db.leases.map (·.leaseId)) : Accounted db' := by
  constructor
  case exact => exact fun w => by rw [hcounter w, hbytes w, h.exact w]
  case bounded => exact fun w => by rw [hcounter w]; exact h.bounded w
  case taskIds => exact plain_of_map TaskKey.taskId h.taskIds htasks
  case leaseIds => exact plain_of_map id h.leaseIds hleases

/-- A statement on the leases. -/
theorem updateLeases (h : Accounted db) {sel : ContextLease → Bool} {write : ContextLease → ContextLease}
    (hid : ∀ l, (write l).leaseId = l.leaseId) : Accounted { db with leases := updateWhere sel write db.leases } :=
  h.congr (fun _ => rfl) (fun _ => rfl) rfl (map_updateWhere hid)

theorem lead (h : Accounted db) {lease : ContextLease} (hopens : OpensLease db now identity lease) :
    Accounted (db.addLease lease) where
  __ := h
  leaseIds := by
    obtain ⟨uuid, hid⟩ := hopens.named
    refine List.forall_mem_append.2 ⟨h.leaseIds, List.forall_mem_singleton.2 ?_⟩
    rw [hid]
    exact plain_leaseIdOf uuid

/-- What is charged is within the bound. -/
theorem charged_le {bytes : Nat} (hcharges : Charges ext.blake3 db workspace bytes quota) :
    bytes ≤ maxTaskContextLogicalBytes := by
  have hbounded := hcharges.bounded
  rw [hcharges.counted] at hbounded
  omega

theorem record (h : Accounted db) {event : LedgerEvent} (hrecords : RecordsEvent ext db now identity event quota) :
    Accounted ((db.withQuota quota).addEvent event) := by
  have hplain : Plain event.fields.subjectId := by
    rcases hrecords.subject with hvalid | ⟨uuid, hid⟩
    · exact plain_of_validReasoningIdentifier hvalid
    · rw [hid]
      exact plain_leaseIdOf uuid
  refine h.charge hrecords.charges rfl (fun w => ?_) h.taskIds h.leaseIds
  have hown : event.scope.workspace = identity.workspace := by
    rw [LedgerEvent.scope, hrecords.byIdentity]
    rfl
  rw [charged_event hplain (charged_le hrecords.charges), ← hown]
  simp only [taskContextBytes, withQuota, addEvent, workspaceBytes_append, workspaceBytes_singleton]
  omega

theorem name (h : Accounted db) {name : TaskAlias} (hadds : AddsAlias ext db name quota) :
    Accounted ((db.withQuota quota).addAlias name) := by
  have hcanonical : Plain name.canonicalTaskId := by
    obtain ⟨t, ht, hkey⟩ := hadds.known
    have hplain := h.taskIds t ht
    rw [hkey] at hplain
    exact hplain
  refine h.charge hadds.charges rfl (fun w => ?_) h.taskIds h.leaseIds
  rw [charged_alias (plain_of_validTaskSelector hadds.selector) hcanonical (charged_le hadds.charges)]
  simp only [taskContextBytes, withQuota, addAlias, workspaceBytes_append, workspaceBytes_singleton]
  omega

theorem acknowledge (h : Accounted db) {row : ContextDeliveryReceipt} (hidentity : row.identity = identity)
    (hcharges : Charges ext.blake3 db identity.workspace receiptLogicalBytes quota) :
    Accounted ((db.withQuota quota).addReceipt row) := by
  refine h.charge hcharges rfl (fun w => ?_) h.taskIds h.leaseIds
  have hown : row.scope.workspace = identity.workspace := by
    rw [ContextDeliveryReceipt.scope, hidentity]
    rfl
  rw [← hown]
  simp only [taskContextBytes, withQuota, addReceipt, workspaceBytes_append, workspaceBytes_singleton]
  omega

theorem create (h : Accounted db) (hcreates : CreatesTask ext db row relations transition quota) :
    Accounted (((db.withQuota quota).addTask row relations).addTransition transition) := by
  have hplain : Plain row.key.taskId := plain_of_validTaskSelector hcreates.selector
  have hrelations : ∀ r ∈ relations, Plain r.sourceTaskId ∧ Plain r.targetTaskId := by
    intro r hr
    constructor
    · rw [← hcreates.own r hr] at hplain
      exact hplain
    · obtain ⟨t, ht, hkey⟩ := hcreates.known r hr
      have htarget := h.taskIds t ht
      rw [hkey] at htarget
      exact htarget
  obtain ⟨hkey, _, _, _, hlease⟩ := hcreates.recorded
  refine h.charge hcreates.charges rfl (fun w => ?_) (fun t ht => ?_) h.leaseIds
  · have hown : ∀ r ∈ relations, r.scope.workspace = row.key.scope.workspace := by
      intro r hr
      rw [← hcreates.own r hr]
      rfl
    rw [charged_createdBytes hplain hrelations hkey hlease (charged_le hcreates.charges)]
    simp only [taskContextBytes, withQuota, addTask, addTransition, workspaceBytes_append,
      workspaceBytes_singleton, workspaceBytes_own hown, hkey]
    split <;> omega
  · rcases mem_concat.1 ht with ht | rfl
    · exact h.taskIds t ht
    · exact hplain

theorem move (h : Accounted db) (hmoves : MovesTask ext db identity row transition quota) :
    Accounted (((db.setTaskState identity.key row.state transition.toState row.stateGeneration now).withQuota
      quota).addTransition transition) := by
  have hkey := hmoves.recorded.1
  have hlease : ∀ id, transition.leaseId = some id → Plain id := by
    intro id hid
    rcases hmoves.allowed with ⟨_, _, hnone, _⟩ | ⟨_, _, hnone⟩ | ⟨_, _, l, hl, hsome, _⟩
    · rw [hnone] at hid
      cases hid
    · rw [hnone] at hid
      cases hid
    · rw [hsome] at hid
      cases hid
      exact h.leaseIds l hl
  have hcost : taskTransitionLogicalBytes identity.taskId transition.reason transition.leaseId =
      transition.logicalBytes := by
    have htask : transition.key.taskId = identity.taskId := by
      rw [hkey]
      rfl
    rw [← htask]
    refine charged_transition ?_ hlease ?_
    · rw [htask]
      exact plain_taskId identity
    · rw [htask]
      exact charged_le hmoves.charges
  refine h.charge hmoves.charges rfl (fun w => ?_)
    (plain_of_map TaskKey.taskId h.taskIds (map_updateWhere fun _ => rfl)) h.leaseIds
  have hown : transition.key.scope.workspace = identity.workspace := by
    rw [hkey]
    rfl
  have htasks : workspaceBytes (·.key.scope.workspace) TaskRow.logicalBytes w
      (db.setTaskState identity.key row.state transition.toState row.stateGeneration now).tasks =
        workspaceBytes (·.key.scope.workspace) TaskRow.logicalBytes w db.tasks :=
    workspaceBytes_updateWhere (fun _ => rfl) fun _ => rfl
  rw [hcost, ← hown]
  unfold setTaskState at htasks
  simp only [taskContextBytes, withQuota, setTaskState, addTransition,
    workspaceBytes_append, workspaceBytes_singleton, htasks]
  omega

theorem delete (h : Accounted db) {key : TaskKey} (hdeletes : DeletesTask ext db key quota) :
    Accounted ((db.deleteTask key).withQuota quota) := by
  refine h.reconcile hdeletes.reconciles rfl ?_ (fun w hw => ?_) List.filter_sublist List.filter_sublist
  · simp only [taskContextBytes, deleteTask]
    gcongr ?_ + ?_ + ?_ + ?_ + ?_ + ?_ <;> exact workspaceBytes_filter_le
  · have hown : ∀ {other : TaskKey}, other = key → other.scope.workspace ≠ w := by
      rintro _ rfl
      exact Ne.symm hw
    have hownTask : ∀ {task : ContextTask}, task = key.task → task.workspace ≠ w := by
      rintro _ rfl
      exact Ne.symm hw
    simp only [taskContextBytes, deleteTask]
    rw [workspaceBytes_filter_of_ne, workspaceBytes_filter_of_ne, workspaceBytes_filter_of_ne,
      workspaceBytes_filter_of_ne, workspaceBytes_filter_of_ne, workspaceBytes_filter_of_ne]
    · exact fun r _ hdrop => hownTask (by simpa using hdrop)
    · exact fun e _ hdrop => hownTask (by simpa using hdrop)
    · exact fun t _ hdrop => hown (by simpa using hdrop)
    · exact fun r _ hdrop => hown (show r.sourceKey = key by simpa using hdrop)
    · exact fun a _ hdrop => hown (show a.canonicalKey = key by simpa using hdrop)
    · exact fun t _ hdrop => hown (by simpa using hdrop)

theorem collect (h : Accounted db) (hsequenced : Sequenced db) {sequences : List Nat}
    (hcollectable : ∀ s ∈ sequences, s ∈ db.collectable identity.task)
    (hreconciles : Reconciles ext.blake3 (db.dropEvents sequences) identity.workspace quota) :
    Accounted ((db.dropEvents sequences).withQuota quota) := by
  refine h.reconcile hreconciles rfl ?_ (fun w hw => ?_) (.refl _) (.refl _)
  · simp only [taskContextBytes, dropEvents]
    gcongr
    exact workspaceBytes_filter_le
  · simp only [taskContextBytes, dropEvents]
    rw [workspaceBytes_filter_of_ne]
    intro e he hdrop hworkspace
    have htask : e.task = identity.task := hsequenced.task_of_collected hcollectable he (by simpa using hdrop)
    exact hw (hworkspace.symm.trans (congrArg ContextTask.workspace htask))

theorem touch (h : Accounted db) (key : TaskKey) : Accounted (db.touchTask key now) := by
  refine h.congr (fun _ => rfl) (fun w => ?_) (map_updateWhere fun _ => rfl) rfl
  have htasks : workspaceBytes (·.key.scope.workspace) TaskRow.logicalBytes w (db.touchTask key now).tasks =
      workspaceBytes (·.key.scope.workspace) TaskRow.logicalBytes w db.tasks :=
    workspaceBytes_updateWhere (fun _ => rfl) fun _ => rfl
  rw [taskContextBytes, htasks]
  rfl

theorem change {op : LedgerOp} (h : Accounted db) (hsequenced : Sequenced db) (hchange : Change ext now op db db') :
    Accounted db' := by
  cases hchange with
  | refresh => exact h.congr counter_refresh (fun _ => rfl) rfl rfl
  | expire | settle | renew => exact h.updateLeases fun _ => rfl
  | lead identity lease hop hopens => exact h.lead hopens
  | record identity event quota hop hrecords => exact h.record hrecords
  | name name quota hop hadds => exact h.name hadds
  | create row relations transition quota hop hcreates => exact h.create hcreates
  | touch key => exact h.touch key
  | move identity row transition quota hop hmoves => exact h.move hmoves
  | delete key quota hop hdeletes => exact h.delete hdeletes
  | collect identity sequences quota hop hcollectable hreconciles =>
    exact h.collect hsequenced hcollectable hreconciles
  | acknowledge identity row quota hop hidentity hcharges => exact h.acknowledge hidentity hcharges
  | gateway | activate | retire | retireFacts | addFact | retireReferences | addReference | dropRetired =>
    exact h.congr (fun _ => rfl) (fun _ => rfl) rfl rfl

end Accounted

theorem Run.accounted {calls : List Call} (h : Run ext calls db) : Accounted db := by
  have hboth : Sequenced db ∧ Accounted db := h.keeps (I := fun db => Sequenced db ∧ Accounted db)
    ⟨.empty, .empty⟩ fun hdb hchange => ⟨hdb.1.change hchange, hdb.2.change hdb.1 hchange⟩
  exact hboth.2

end

/-- In every reachable state the counter of a workspace is the sum that a
reconciliation would select, a reconciliation leaves every counter as it is,
and the counter is within the bound. -/
theorem quota_counter_exact (ext : Externals) (calls : List Call) (db : Tables) (h : Run ext calls db)
    (workspace : Workspace) :
    db.counter workspace = db.taskContextBytes workspace ∧
      (∃ t, reconcileTaskQuotaScope ext.blake3 workspace db = .ok () t ∧ ∀ w, t.counter w = db.counter w) ∧
      db.counter workspace ≤ maxTaskContextLogicalBytes := by
  have haccounted := h.accounted
  refine ⟨haccounted.exact workspace, ⟨_, rfl, fun w => ?_⟩, haccounted.bounded workspace⟩
  rw [counter_withQuota]
  split
  case isTrue hw =>
    obtain rfl : workspace = w := hw
    exact (haccounted.exact workspace).symm
  case isFalse => rfl

theorem sampleTaskRun_quota_counter :
    (record sampleExternals sampleTaskRun).2.counter sampleScope.workspace = 3188 ∧
      (record sampleExternals sampleTaskRun).2.taskContextBytes sampleScope.workspace = 3188 := by
  have hcounter : (record sampleExternals sampleTaskRun).2.counter sampleScope.workspace = 3188 := by decide +kernel
  have hexact := (quota_counter_exact sampleExternals _ _ (run_record sampleTaskRun) sampleScope.workspace).1
  exact ⟨hcounter, hexact.symm.trans hcounter⟩

end Again.Ledger
