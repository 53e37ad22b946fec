import Again.Ledger.OperationEffects

/-!
# The task operations make changes

What a loaded task says about the rows it was read from, and the changes that
creating, naming, claiming, deciding and deleting a task make.
-/

namespace Again.Ledger

open Lib Gateway TaskDefinitionV1

variable {definition : TaskDefinitionV1} {scope : TaskScope} {relations : List TaskRelation}
  {dependencies : List String} {requestedTaskId : String} {acc' acc : ReadRelations} {target : TaskStateV1}
  {task : TaskRecordV1}

/-! ## What a loaded task says -/

/-- A dependency of the task with this target is completed. -/
def Tables.isCompleted (db : Tables) (key : TaskKey) : Prop := ∃ t, db.task? key = some t ∧ t.state = .completed

/-- The tasks this one depends on are completed. -/
def Tables.dependenciesCompleted (db : Tables) (key : TaskKey) : Prop :=
  ∀ r ∈ db.relations, r.sourceKey = key → r.relationKind = .dependency → db.isCompleted r.targetKey

theorem ReadRelations.read_dependencies {relation : TaskRelation} (h : acc.read relation = .ok acc') :
    acc'.dependencies =
      acc.dependencies ++ (if relation.relationKind = .dependency then [relation.targetTaskId] else []) := by
  unfold ReadRelations.read at h
  split at h <;> simp only [bind_eq_ok, exists_unit, pure_eq_ok] at h <;> obtain ⟨_, rfl⟩ := h <;> simp [*]

/-- Every dependency relation that was read is in the list. -/
theorem mem_dependencies_of_foldlM (h : relations.foldlM ReadRelations.read acc = .ok acc') :
    (∀ d ∈ acc.dependencies, d ∈ acc'.dependencies) ∧
      ∀ r ∈ relations, r.relationKind = .dependency → r.targetTaskId ∈ acc'.dependencies := by
  induction relations generalizing acc with
  | nil =>
    simp only [List.foldlM_nil, pure_eq_ok] at h
    subst h
    exact ⟨fun _ hd => hd, by simp⟩
  | cons r relations ih =>
    rw [List.foldlM_cons, bind_eq_ok] at h
    obtain ⟨next, hread, hrest⟩ := h
    obtain ⟨hkept, hread'⟩ := ih hrest
    have hnext := ReadRelations.read_dependencies hread
    refine ⟨fun d hd => hkept d (by simp [hnext, hd]), ?_⟩
    exact List.forall_mem_cons.2 ⟨fun hkind => hkept _ (by simp [hnext, hkind]), hread'⟩

theorem TaskDefinitionV1.new_dependencies {blake3 : Bytes → Octets 32} {prompt : String} {criteria : List String}
    {parent supersedes : Option String}
    (h : new blake3 prompt criteria parent dependencies supersedes = .ok definition) :
    definition.dependencyTaskIds = dependencies.insertionSort (· ≤ ·) := by
  simp only [new, bind_eq_ok, exists_unit, pure_eq_ok] at h
  obtain ⟨_, _, _, _, _, _, _, _, _, _, rfl⟩ := h
  rfl

/-- No blocker means that every dependency is completed. -/
theorem completed_of_dependencyBlockers {db : Tables} (h : dependencyBlockers db scope dependencies = .ok []) :
    ∀ d ∈ dependencies, db.isCompleted ⟨scope, d⟩ := by
  induction dependencies with
  | nil => simp
  | cons d rest ih =>
    simp only [dependencyBlockers, bind_eq_ok, requireSome_eq_ok, pure_eq_ok] at h
    obtain ⟨row, hrow, blockers, hblockers, hnil⟩ := h
    split at hnil
    case isTrue hcompleted =>
      subst hnil
      exact List.forall_mem_cons.2 ⟨⟨row, hrow, hcompleted⟩, ih hblockers⟩
    case isFalse => cases hnil

/-- What `load_task_record_tx_v1` returns is read off the task's row and its relations. -/
theorem loadTaskRecord_eq_ok {ext : Externals} {db : Tables} {key : TaskKey}
    (h : loadTaskRecord ext db key requestedTaskId = .ok task) :
    ∃ row, db.task? key = some row ∧ task.state = row.state ∧ task.stateGeneration = row.stateGeneration ∧
      row.definitionDigest = some task.definition.definitionDigest ∧
      (task.blockers = [] → db.dependenciesCompleted key) := by
  simp only [loadTaskRecord, bind_eq_ok, requireSome_eq_ok, rejectIf_eq_ok, exists_unit, pure_eq_ok, not_not] at h
  obtain ⟨row, hrow, _, criteria, _, relations, hrelations, definition, hdefinition, hdigest, blockers, hblockers, rfl⟩ := h
  refine ⟨row, hrow, rfl, rfl, hdigest, ?_⟩
  rintro rfl
  intro r hr hsource hkind
  have hread : r ∈ db.relationsOf key := by
    simp [Tables.relationsOf, List.mem_insertionSort, hr, hsource]
  have hmem : r.targetTaskId ∈ definition.dependencyTaskIds := by
    rw [new_dependencies hdefinition, List.mem_insertionSort]
    exact (mem_dependencies_of_foldlM hrelations).2 r hread hkind
  have hscope : r.scope = key.scope := congrArg TaskKey.scope hsource
  have hcompleted := completed_of_dependencyBlockers hblockers _ hmem
  rw [← hscope] at hcompleted
  exact hcompleted

section
variable {ext : Externals} {now : Int} {op : LedgerOp} {db : Tables} {identity : ContextLedgerIdentityV1}

/-! ## Moving a task -/

/-- The compare-and-swap finds the task in the expected state, and its transition is recorded. -/
theorem makes_moveTask (hop : op.identity? = some identity) {previous : TaskStateV1} {generation : Nat}
    {leaseId : Option String} {reason : String}
    (hallowed : previous = .waiting ∧ target = .active ∧ leaseId = none ∧ db.dependenciesCompleted identity.key ∨
      previous = .blocked ∧ target = .active ∧ leaseId = none ∨
      previous = .active ∧ target.isDecision = true ∧
        ∃ l ∈ db.leases, leaseId = some l.leaseId ∧ l.isLedBy identity = true ∧ l.status = .active) :
    Runs (moveTask ext now identity previous target generation leaseId reason) db
      (fun _ t => Changes ext now op db t ∧ t.leases = db.leases ∧
        ∃ row ∈ t.tasks, row.key = identity.key ∧ row.stateGeneration = generation + 1) fun _ _ => True := by
  unfold moveTask
  simp only [runs_bind, runs_refuseIf, runs_updateTasks, implies_true, true_and, ne_eq, not_not]
  intro _ hcas
  have hpos : 0 < db.tasks.countP fun t =>
      decide (t.key = identity.key ∧ t.stateGeneration = generation ∧ t.state = previous) := by omega
  obtain ⟨row, hrow, hsel⟩ := List.countP_pos_iff.1 hpos
  simp only [decide_eq_true_eq] at hsel
  obtain ⟨hkey, rfl, rfl⟩ := hsel
  refine (runs_reserveTaskContextBytes _ _).imp ?_
  rintro _ t ⟨quota, hcharges, rfl⟩
  refine (runs_insertTransition _).imp ?_
  rintro _ u ⟨rfl, _⟩
  refine ⟨.single ?_, rfl, ⟨_, mem_updateWhere_of_sel hrow (by simp [hkey]), hkey, rfl⟩⟩
  refine Change.move identity row
    { sequence := db.lastTransitionSequence + 1
      key := identity.key
      fromState := some row.state
      toState := target
      stateGeneration := row.stateGeneration + 1
      leaseId
      actor := some (identity.agentId, identity.sessionId, identity.lifecycleGeneration)
      reason
      createdMs := now } quota hop ?_
  constructor
  case charges => exact hcharges.congr rfl
  case found => exact hrow
  case own => exact hkey
  case recorded => exact ⟨rfl, rfl, rfl⟩
  case sequence => rfl
  case allowed =>
    rcases hallowed with ⟨hstate, htarget, hlease, hdependencies⟩ | h | h
    · exact .inl ⟨hstate, htarget, hlease, by rw [hkey]; exact hdependencies⟩
    · exact .inr (.inl h)
    · exact .inr (.inr h)

/-- A claim activates a waiting task whose dependencies are completed, or a blocked one. -/
theorem makes_reactivateTask (hop : op.identity? = some identity)
    (hwaits : task.state = .waiting → db.dependenciesCompleted identity.key) :
    Makes ext now op (reactivateTask ext now identity task) db := by
  unfold reactivateTask
  split
  case isTrue h =>
    refine (makes_moveTask hop ?_).imp fun _ _ h => h.1
    rcases h with hwaiting | hblocked
    · exact .inl ⟨hwaiting, rfl, rfl, hwaits hwaiting⟩
    · exact .inr (.inl ⟨hblocked, rfl, rfl⟩)
  case isFalse => exact makes_pure _

theorem performs_claimTaskV1 (uuid : Octets 16) (expectedStateGeneration : Nat) (ttlMs : UInt64) (deadlineMs : Int) :
    Performs ext now (.claim uuid identity expectedStateGeneration ttlMs deadlineMs)
      (claimTaskV1 ext now uuid identity expectedStateGeneration ttlMs deadlineMs) db := by
  apply Makes.atomically
  refine Makes.reads runs_checkContextIdentity fun _ _ => ?_
  refine Makes.reads (runs_checkTtl ttlMs) fun _ _ => ?_
  refine Runs.past_refuseIf fun hdeadline => ?_
  refine Makes.current_bind ?_
  refine Makes.bind makes_expireContextLeases fun _ t => ?_
  refine Runs.past_attempt fun task htask => ?_
  refine Runs.past_refuseIf fun _ => ?_
  split
  case isTrue => exact makes_pure _
  case isFalse =>
    split
    case isTrue => exact makes_pure _
    case isFalse hunblocked =>
      obtain ⟨row, _, _, _, _, hcompleted⟩ := loadTaskRecord_eq_ok htask
      have hwaits : task.state = .waiting → t.dependenciesCompleted identity.key := by
        intro hwaiting
        apply hcompleted
        by_contra hblockers
        exact hunblocked ⟨hwaiting, hblockers⟩
      refine Makes.bind (makes_reactivateTask rfl hwaits) fun stateGeneration u => ?_
      apply Runs.past_get
      cases hactive : u.activeLease? identity.key task.definition.definitionDigest with
      | some lease => exact makes_pure _
      | none => exact Makes.bind (makes_openContextLease rfl (by omega) hactive) fun _ _ => makes_pure _

theorem makes_settleDecision (hop : op.identity? = some identity) {leaseId : String} {lease : ContextLease}
    (howned : db.ownedLease? identity leaseId = some lease) :
    Makes ext now op (settleDecision now identity leaseId target) db := by
  unfold Makes settleDecision settleContextLease
  have hsettle : Change ext now op db
      (db.settleLeases (fun l => l.leaseId = leaseId ∧ l.status = .active) target.leaseStatus now) :=
    changes_settleContextLease hop howned (by cases target <;> decide)
  split
  case isTrue =>
    refine .tail (.single hsettle) (Change.settle identity _ .cancelled hop (by decide) ?_)
    intro l _ hsel
    simp only [decide_eq_true_eq] at hsel
    exact ⟨hsel.2, .inl hsel.1⟩
  case isFalse => exact .single hsettle

theorem performs_transitionTaskV1 (leaseId : String) (expectedStateGeneration : Nat) (target : TaskStateV1)
    (reason : String) :
    Performs ext now (.transition identity leaseId expectedStateGeneration target reason)
      (transitionTaskV1 ext now identity leaseId expectedStateGeneration target reason) db := by
  apply Makes.atomically
  refine Makes.reads runs_checkContextIdentity fun _ _ => ?_
  refine Runs.past_refuseIf fun _ => ?_
  refine Runs.past_attempt fun _ _ => ?_
  refine Makes.current_bind ?_
  refine Makes.bind makes_expireContextLeases fun _ t => ?_
  refine Runs.past_attempt fun task htask => ?_
  refine Runs.past_refuseIf fun _ => ?_
  refine Runs.past_refuseIf fun _ => ?_
  refine Runs.past_refuseIf fun hdecision => ?_
  refine Makes.reads (runs_contextOwnedLeaseDeadline leaseId) ?_
  rintro _ ⟨lease, howned, _⟩
  obtain ⟨hmem, hid, hled, hactive⟩ := Tables.ownedLease?_eq_some howned
  have hdecides : task.state = .active ∧ target.isDecision = true := by simpa using hdecision
  refine Makes.bindWith (makes_moveTask rfl (.inr (.inr ⟨rfl, hdecides.2, ?_⟩))) fun _ u hu => ?_
  · exact ⟨lease, hmem, by rw [hid], hled, hactive⟩
  have howned' : u.ownedLease? identity leaseId = some lease := by
    rw [← howned, Tables.ownedLease?, Tables.ownedLease?, hu.1]
  refine Makes.bind (makes_settleDecision rfl howned') fun _ v => ?_
  exact Runs.past_get makes_attempt

/-! ## Creating and naming tasks -/

theorem makes_touchTask (hop : op.creates = true) (key : TaskKey) : Makes ext now op (touchTask key now) db :=
  .single (Change.touch key hop)

theorem runs_enforceTaskCapacity (workspace : Workspace) :
    Runs (enforceTaskCapacity workspace) db (fun _ t => t = db ∧ True) fun _ _ => True := by
  simp [enforceTaskCapacity]

theorem runs_enforceTaskAliasCapacity (workspace : Workspace) :
    Runs (enforceTaskAliasCapacity workspace) db (fun _ t => t = db ∧ True) fun _ _ => True := by
  simp [enforceTaskAliasCapacity]

theorem makes_chargeAlias (hop : op.creates = true) {canonicalTaskId : String}
    (hselector : validTaskSelector requestedTaskId = true) :
    Makes ext now op (chargeAlias ext scope requestedTaskId canonicalTaskId) db := by
  refine Makes.reads (runs_enforceTaskAliasCapacity _) fun _ _ => ?_
  refine (runs_reserveTaskContextBytes _ _).bind ?_
  rintro _ t ⟨quota, hcharges, rfl⟩
  refine (runs_insertAlias _).imp ?_
  rintro _ u ⟨rfl, hfresh, hknown⟩
  exact .single (Change.name _ quota hop ⟨hcharges, hselector, hfresh, hknown⟩)

/-- What is known of a new task before its rows are written. -/
structure PlansTask (db : Tables) (row : TaskRow) (relations : List TaskRelation) : Prop where
  selector : validTaskSelector row.key.taskId = true
  defined : row.definitionDigest.isSome
  own : ∀ r ∈ relations, r.sourceKey = row.key
  edge : ∀ r ∈ relations, ensureTaskGraphEdge db row.key.scope row.key.taskId r.targetTaskId = .ok ()
  starts : row.state = .active ∨ row.state = .waiting
  ready : row.state = .active → ∀ r ∈ relations, r.relationKind = .dependency → db.isCompleted r.targetKey
  generation : row.stateGeneration = 1

theorem makes_chargeTask (hop : op.creates = true) {row : TaskRow} {relationBytes : Nat} {reason : String}
    (hplans : PlansTask db row relations)
    (hbytes : relationBytes =
      (relations.map fun r => taskRelationLogicalBytes r.sourceTaskId r.targetTaskId).foldl satAdd 0) :
    Makes ext now op (chargeTask ext now row relations relationBytes reason) db := by
  refine (runs_reserveTaskContextBytes _ _).bind ?_
  rintro _ _ ⟨quota, hcharges, rfl⟩
  refine (runs_insertTask row hplans.defined).bind ?_
  rintro _ _ ⟨rfl, hfresh, hfreshDefinition⟩
  refine (runs_insertAlias _).bind ?_
  rintro _ _ ⟨rfl, hfreshAlias, _⟩
  refine (runs_insertRelations relations).bind ?_
  rintro _ _ ⟨rfl, hrelations⟩
  refine (runs_insertTransition _).imp ?_
  rintro _ _ ⟨rfl, hunrecorded⟩
  refine .single (Change.create row relations
    { sequence := db.lastTransitionSequence + 1
      key := row.key
      fromState := none
      toState := row.state
      stateGeneration := 1
      leaseId := none
      actor := none
      reason
      createdMs := now } quota hop ?_)
  constructor
  case charges =>
    rw [createdBytes, ← hbytes]
    exact hcharges
  case selector => exact hplans.selector
  case fresh => exact hfresh
  case freshDefinition => exact hfreshDefinition
  case freshAlias => exact hfreshAlias
  case own => exact hplans.own
  case edge => exact hplans.edge
  case known =>
    intro r hr
    obtain ⟨hself, t, ht, hkey⟩ := hrelations r hr
    rcases mem_concat.1 ht with ht | rfl
    · exact ⟨t, ht, hkey⟩
    · -- The new task itself is no target: no relation goes from a task to itself.
      have hsource := hplans.own r hr
      rw [← hsource] at hkey
      exact absurd (congrArg TaskKey.taskId hkey) hself
  case starts => exact hplans.starts
  case ready => exact hplans.ready
  case generation => exact hplans.generation
  case recorded => exact ⟨rfl, rfl, rfl, rfl, rfl⟩
  case sequence => rfl
  case unrecorded => exact hunrecorded

theorem performs_resolveContextTaskV1 (scope : TaskScope) (requestedTaskId : String) (suppliedPrompt : Option String) :
    Performs ext now (.resolve scope requestedTaskId suppliedPrompt)
      (resolveContextTaskV1 ext now scope requestedTaskId suppliedPrompt) db := by
  apply Makes.atomically
  refine Runs.past_attempt fun _ hselectors => ?_
  have hselector : validTaskSelector requestedTaskId = true := by
    rw [forM_eq_ok] at hselectors
    simpa [checkSelector] using hselectors requestedTaskId (by simp)
  refine Runs.past_refuseIf fun _ => ?_
  refine Runs.past_refuseIf fun _ => ?_
  refine Runs.past_attempt fun _ _ => ?_
  apply Runs.past_get
  split
  · refine Runs.past_refuseIf fun _ => ?_
    refine Runs.past_refuseIf fun _ => ?_
    exact Makes.bind (makes_touchTask rfl _) fun _ _ => makes_pure _
  · split
    · refine Runs.past_refuseIf fun _ => ?_
      refine Makes.bind (makes_chargeAlias rfl hselector) fun _ _ => ?_
      exact Makes.bind (makes_touchTask rfl _) fun _ _ => makes_pure _
    · refine Makes.reads (runs_enforceTaskCapacity _) fun _ _ => ?_
      refine Makes.reads (runs_enforceTaskAliasCapacity _) fun _ _ => ?_
      refine Makes.bind (makes_chargeTask rfl ?_ rfl) fun _ _ => makes_pure _
      constructor <;> simp [hselector]

/-! ## Starting a task -/

theorem mem_targets_of_mem_relationRows {sourceTaskId : String} {r : TaskRelation}
    (h : r ∈ relationRows scope sourceTaskId definition) :
    r.sourceKey = ⟨scope, sourceTaskId⟩ ∧ r.targetTaskId ∈ definition.targets ∧
      (r.relationKind = .dependency → r.targetTaskId ∈ definition.dependencyTaskIds) := by
  simp only [relationRows, List.mem_append, List.mem_map, Option.mem_toList] at h
  rcases h with (⟨target, htarget, rfl⟩ | ⟨d, hd, rfl⟩) | ⟨target, htarget, rfl⟩
  · exact ⟨rfl, by simp [targets, htarget], nofun⟩
  · have hmem : d.1 ∈ definition.dependencyTaskIds := List.fst_mem_of_mem_zipIdx hd
    exact ⟨rfl, by simp [targets, hmem], fun _ => hmem⟩
  · exact ⟨rfl, by simp [targets, htarget], nofun⟩

theorem map_target_relationRows (scope : TaskScope) (sourceTaskId : String) (definition : TaskDefinitionV1) :
    (relationRows scope sourceTaskId definition).map (fun r => taskRelationLogicalBytes r.sourceTaskId r.targetTaskId) =
      definition.targets.map (taskRelationLogicalBytes sourceTaskId) := by
  have hzip : definition.dependencyTaskIds.zipIdx.map (fun d => taskRelationLogicalBytes sourceTaskId d.1) =
      definition.dependencyTaskIds.map (taskRelationLogicalBytes sourceTaskId) := by
    have hmap := List.map_map (f := Prod.fst) (g := taskRelationLogicalBytes sourceTaskId)
      (l := definition.dependencyTaskIds.zipIdx)
    rw [List.zipIdx_map_fst] at hmap
    exact hmap.symm
  simp [relationRows, targets, Function.comp_def, hzip]

/-- A plan that succeeds has checked what a new task needs. -/
theorem plansTask_of_planTask {key : TaskKey} {row : TaskRow} (hselector : validTaskSelector key.taskId = true)
    (h : planTask ext db now key definition = .ok row) :
    row.key = key ∧ PlansTask db row (relationRows key.scope key.taskId definition) := by
  simp only [planTask, bind_eq_ok, forM_eq_ok, exists_unit, pure_eq_ok] at h
  obtain ⟨hedges, blockers, hblockers, revision, _, rfl⟩ := h
  refine ⟨rfl, ?_⟩
  constructor
  case selector => exact hselector
  case defined => rfl
  case own => exact fun r hr => (mem_targets_of_mem_relationRows hr).1
  case edge => exact fun r hr => hedges _ (mem_targets_of_mem_relationRows hr).2.1
  case starts => by_cases hnil : blockers = [] <;> simp [hnil]
  case ready =>
    intro hactive r hr hkind
    have hnil : blockers = [] := by
      by_contra hne
      simp [hne] at hactive
    obtain ⟨hsource, _, hdependency⟩ := mem_targets_of_mem_relationRows hr
    have hscope : r.scope = key.scope := congrArg TaskKey.scope hsource
    rw [TaskRelation.targetKey, hscope]
    exact completed_of_dependencyBlockers (hnil ▸ hblockers) _ (hdependency hkind)
  case generation => rfl

theorem performs_startTaskV1 (scope : TaskScope) (requestedTaskId : String) (supplied : TaskDefinitionV1) :
    Performs ext now (.start scope requestedTaskId supplied) (startTaskV1 ext now scope requestedTaskId supplied) db := by
  apply Makes.atomically
  refine Runs.past_attempt fun _ hselectors => ?_
  have hselector : validTaskSelector requestedTaskId = true := by
    rw [forM_eq_ok] at hselectors
    simpa [checkSelector] using hselectors requestedTaskId (by simp)
  refine Runs.past_refuseIf fun _ => ?_
  refine Runs.past_attempt fun definition _ => ?_
  split
  · refine Runs.past_attempt fun _ _ => ?_
    exact Runs.past_refuseIf fun _ => makes_pure _
  · split
    · refine Makes.bind (makes_chargeAlias rfl hselector) fun _ _ => ?_
      exact Runs.past_get (Runs.past_attempt fun _ _ => makes_pure _)
    · refine Makes.reads (runs_enforceTaskCapacity _) fun _ _ => ?_
      refine Makes.reads (runs_enforceTaskAliasCapacity _) fun _ _ => ?_
      refine Runs.past_attempt fun row hrow => ?_
      obtain ⟨hkey, hplans⟩ := plansTask_of_planTask hselector hrow
      refine Makes.bind (makes_chargeTask rfl hplans ?_) fun _ _ => ?_
      · rw [map_target_relationRows]
      · exact Runs.past_get (Runs.past_attempt fun _ _ => makes_pure _)

/-! ## Deleting a task -/

theorem runs_deleteTaskRow (key : TaskKey) :
    Runs (deleteTaskRow key) db
      (fun _ t => t = { db with
        tasks := db.tasks.filter fun t => t.key ≠ key
        relations := db.relations.filter fun r => r.sourceKey ≠ key
        transitions := db.transitions.filter fun t => t.key ≠ key }) fun _ _ => True := by
  unfold deleteTaskRow
  simp only [runs_bind, runs_get, runs_refuseIf, runs_set, runs_pure, implies_true, true_and]

/-- `delete_task_v1` finds no task of the name, or deletes the task and everything that goes with it. -/
theorem runs_deleteTaskV1 (scope : TaskScope) (requestedTaskId : String) :
    Runs (deleteTaskV1 ext scope requestedTaskId) db
      (fun _ t => t = db ∨ ∃ canonical quota, db.resolveAlias scope requestedTaskId = some canonical ∧
        DeletesTask ext db ⟨scope, canonical⟩ quota ∧ t = (db.deleteTask ⟨scope, canonical⟩).withQuota quota)
      fun _ t => t = db := by
  apply Runs.atomically (E := fun _ _ => True)
  simp only [runs_bind, runs_attempt, runs_refuseIf, runs_get, implies_true, true_and]
  intro _ _ _
  cases hresolves : db.resolveAlias scope requestedTaskId with
  | none => exact .inl rfl
  | some canonical =>
    simp only [runs_bind, runs_okOr, runs_refuseIf, implies_true, true_and]
    intro row hrow hterminal hreferenced hidle
    unfold deleteTaskLedger
    simp only [runs_bind, runs_modify]
    refine (runs_deleteEvents _).imp ?_
    rintro _ t ⟨rfl, _, _⟩
    refine (runs_deleteTaskRow _).imp ?_
    rintro _ t rfl
    intro _
    refine (runs_reconcileTaskQuotaScope _).imp ?_
    rintro _ t ⟨quota, hreconciles, rfl⟩
    refine .inr ⟨canonical, quota, rfl, ?_, rfl⟩
    constructor
    case reconciles => exact hreconciles
    case terminal => exact ⟨row, hrow, by simpa using hterminal⟩
    case unreferenced =>
      intro r hr htarget
      rw [Bool.not_eq_true, List.any_eq_false] at hreferenced
      exact hreferenced r hr (by simp [htarget])
    case idle =>
      intro l hl hkey hactive
      rw [Bool.not_eq_true, List.any_eq_false] at hidle
      exact hidle l hl (by simp [hkey, hactive])

theorem performs_deleteTaskV1 (scope : TaskScope) (requestedTaskId : String) :
    Performs ext now (.delete scope requestedTaskId) (deleteTaskV1 ext scope requestedTaskId) db := by
  refine (runs_deleteTaskV1 scope requestedTaskId).imp ?_
  rintro _ t (rfl | ⟨canonical, quota, _, hdeletes, rfl⟩)
  · exact .refl
  · exact .single (Change.delete ⟨scope, canonical⟩ quota rfl hdeletes)

/-! ## Recipients -/

theorem performs_activateContextRecipientV1 :
    Performs ext now (.activate identity) (activateContextRecipientV1 now identity) db := by
  apply Makes.atomically
  refine Makes.reads runs_checkContextIdentity fun _ _ => ?_
  refine Runs.past_refuseIf fun hallowed => ?_
  refine .single (Change.activate identity _ rfl ?_ ?_)
  · simp [Recipient.isOf, Recipient.isCurrent]
  · intro r hr
    simpa [hr] using hallowed

theorem performs_retireContextRecipientV1 :
    Performs ext now (.retire identity) (retireContextRecipientV1 now identity) db := by
  apply Makes.atomically
  refine Makes.reads runs_checkContextIdentity fun _ _ => ?_
  refine .tail (.single (Change.retire identity rfl))
    (Change.settle identity _ .cancelled rfl (by decide) ?_)
  intro l hl hsel
  simp only [Bool.and_eq_true, decide_eq_true_eq] at hsel
  exact ⟨hsel.2, .inr ⟨l, hl, rfl, hsel.1⟩⟩

end

end Again.Ledger
