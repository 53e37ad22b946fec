import Again.Ledger.ClaimAuthority
import Again.Ledger.QuotaExact

/-!
# What an operation leaves of other scopes

Tasks, aliases, relations, transitions, recipients and leases carry their scope,
and an operation writes those of its own, but for leases whose time is over:
these are expired in every scope. Facts and references carry none, and the
statements on events and receipts name the task without it, so what is framed
there is every other task.
-/

namespace Again.Ledger

open Lib Gateway LedgerOp

/-- The scope an operation acts in. -/
def LedgerOp.scope? : LedgerOp → Option TaskScope
  | .resolve scope .. | .start scope .. | .delete scope _ => some scope
  | op => op.identity?.map (·.scope)

/-- The task whose events, facts and references an operation may take away. -/
def LedgerOp.writesTask? (op : LedgerOp) (db : Tables) : Option ContextTask :=
  match op with
  | .delete scope requestedTaskId =>
    (db.resolveAlias scope requestedTaskId).map fun canonical => ⟨scope.workspace, canonical⟩
  | op => if op.collects then op.identity?.map (·.task) else none

/-- What the schema's primary keys and counters guarantee. -/
structure Tables.Keyed (db : Tables) : Prop where
  leases : Leased db
  events : Sequenced db

/-- What an operation of a scope that writes the ledger of a task leaves of other scopes and tasks. -/
structure Isolated (now : Int) (scope : TaskScope) (task? : Option ContextTask) (s t : Tables) : Prop where
  tasks : ∀ row ∈ s.tasks, row.key.scope ≠ scope → row ∈ t.tasks
  aliases : ∀ row ∈ s.aliases, row.scope ≠ scope → row ∈ t.aliases
  relations : ∀ row ∈ s.relations, row.scope ≠ scope → row ∈ t.relations
  transitions : ∀ row ∈ s.transitions, row.key.scope ≠ scope → row ∈ t.transitions
  recipients : ∀ row ∈ s.recipients, row.key.scope ≠ scope → row ∈ t.recipients
  leases : ∀ row ∈ s.leases, row.key.scope ≠ scope →
    row ∈ t.leases ∨ row.overdue now = true ∧ row.settle .expired now ∈ t.leases
  events : ∀ row ∈ s.events, some row.task ≠ task? → row ∈ t.events
  facts : ∀ row ∈ s.facts, some row.task ≠ task? → row ∈ t.facts
  references : ∀ row ∈ s.references, some row.task ≠ task? → row ∈ t.references
  receipts : ∀ row ∈ s.receipts, some row.task ≠ task? → row ∈ t.receipts

section
variable {ext : Externals} {now : Int} {op : LedgerOp} {s t db : Tables} {scope : TaskScope} {task? : Option ContextTask}
  {identity : ContextLedgerIdentityV1}

theorem Isolated.refl : Isolated now scope task? db db := by
  constructor <;> intro row hrow _ <;> first | exact hrow | exact .inl hrow

theorem Isolated.trans {u : Tables} (hst : Isolated now scope task? s t) (htu : Isolated now scope task? t u) :
    Isolated now scope task? s u := by
  constructor
  case leases =>
    intro row hrow hscope
    rcases hst.leases row hrow hscope with hkept | ⟨hover, hexpired⟩
    · exact htu.leases row hkept hscope
    · rcases htu.leases _ hexpired hscope with hkept | ⟨hover', _⟩
      · exact .inr ⟨hover, hkept⟩
      · cases hover'
  case tasks => exact fun row hrow h => htu.tasks row (hst.tasks row hrow h) h
  case aliases => exact fun row hrow h => htu.aliases row (hst.aliases row hrow h) h
  case relations => exact fun row hrow h => htu.relations row (hst.relations row hrow h) h
  case transitions => exact fun row hrow h => htu.transitions row (hst.transitions row hrow h) h
  case recipients => exact fun row hrow h => htu.recipients row (hst.recipients row hrow h) h
  case events => exact fun row hrow h => htu.events row (hst.events row hrow h) h
  case facts => exact fun row hrow h => htu.facts row (hst.facts row hrow h) h
  case references => exact fun row hrow h => htu.references row (hst.references row hrow h) h
  case receipts => exact fun row hrow h => htu.receipts row (hst.receipts row hrow h) h

theorem Tables.Keyed.change (h : s.Keyed) (hchange : Change ext now op s t) : t.Keyed :=
  ⟨h.leases.change hchange, h.events.change hchange⟩

theorem Tables.Keyed.empty : Tables.Keyed {} := ⟨.empty, .empty⟩

theorem Run.keyed {calls : List Call} (h : Run ext calls db) : db.Keyed := h.keeps Tables.Keyed.empty Tables.Keyed.change

/-! ## One change -/

/-- A statement on leases of the scope. -/
theorem isolated_updateLeases {sel : ContextLease → Bool} {write : ContextLease → ContextLease}
    (hsel : ∀ l ∈ db.leases, sel l = true → l.key.scope = scope) :
    Isolated now scope task? db { db with leases := updateWhere sel write db.leases } := by
  refine { (Isolated.refl : Isolated now scope task? db db) with leases := fun row hrow hscope => ?_ }
  have hout : sel row = false := by
    by_contra hin
    exact hscope (hsel row hrow (by simpa using hin))
  exact .inl (mem_updateWhere_of_not hrow hout)

/-- Leases whose time is over end, of whatever scope. -/
theorem isolated_expire : Isolated now scope task? db (db.settleLeases (·.overdue now) .expired now) := by
  refine { (Isolated.refl : Isolated now scope task? db db) with leases := fun row hrow _ => ?_ }
  by_cases hover : row.overdue now = true
  · exact .inr ⟨hover, mem_updateWhere_of_sel hrow hover⟩
  · exact .inl (mem_updateWhere_of_not hrow (by simpa using hover))

/-- A lease that the identity leads by its id is the lease of that id. -/
theorem Tables.Keyed.scope_of_led (h : db.Keyed) {l m : ContextLease} (hl : l ∈ db.leases) (hm : m ∈ db.leases)
    (hid : m.leaseId = l.leaseId) (hled : m.isLedBy identity = true) : l.key = identity.key := by
  obtain rfl := h.leases.unique.eq_of_mem hm hl hid
  simp only [ContextLease.isLedBy, Bool.and_eq_true, decide_eq_true_eq] at hled
  exact hled.1.1.1

theorem LedgerOp.collects_of_withdraws (hop : op.identity? = some identity) (h : op.withdraws = true) :
    op.collects = true := by
  cases op with
  | append i envelope input | invalidate i envelope changes => rfl
  | delete => cases hop
  | _ => cases h

theorem LedgerOp.collects_of_admitsFact (h : op.admitsFact = true) : op.collects = true := by
  cases op with
  | admitFact => rfl
  | _ => cases h

theorem LedgerOp.collects_of_admitsReference (h : op.admitsReference = true) : op.collects = true := by
  cases op with
  | append => rfl
  | _ => cases h

/-- One change of an operation on behalf of an identity. -/
theorem Change.isolated (hs : s.Keyed) (hop : op.identity? = some identity) (h : Change ext now op s t) :
    Isolated now identity.scope (if op.collects then some identity.task else none) s t := by
  have hself {other : ContextLedgerIdentityV1} (hother : op.identity? = some other) : other = identity := by
    rw [hother] at hop
    exact Option.some.inj hop
  have hcreate (hcreates : op.creates = true) : False := by
    cases op with
    | resolve | start => cases hop
    | _ => cases hcreates
  cases h with
  | activate other row hactivates =>
    obtain rfl : other = identity := hself (by rw [hactivates]; rfl)
    have hrecipients : ∀ row' ∈ s.recipients, row'.key.scope ≠ other.scope →
        row' ∈ (s.activateRecipient row other).recipients := by
      intro row' hrow' hscope
      have hout : row'.isOf other = false := by
        by_contra hin
        simp only [Recipient.isOf, Bool.not_eq_false, Bool.and_eq_true, decide_eq_true_eq] at hin
        exact hscope (congrArg TaskKey.scope hin.1.1)
      unfold Tables.activateRecipient
      split
      · exact mem_updateWhere_of_not hrow' hout
      · exact List.mem_append_left _ hrow'
    exact { Isolated.refl with recipients := hrecipients }
  | retire other hretires =>
    obtain rfl : other = identity := hself (by rw [hretires]; rfl)
    refine { Isolated.refl with recipients := fun row' hrow' hscope => mem_updateWhere_of_not hrow' ?_ }
    by_contra hin
    simp only [Recipient.isOf, Bool.not_eq_false, Bool.and_eq_true, decide_eq_true_eq] at hin
    exact hscope (congrArg TaskKey.scope hin.1.1.1)
  | expire => exact isolated_expire
  | settle other sel status hother hstatus hsel =>
    obtain rfl := hself hother
    refine isolated_updateLeases fun l hl hin => ?_
    obtain ⟨_, hkey | ⟨m, hm, hid, hled⟩⟩ := hsel l hl hin
    · exact congrArg TaskKey.scope hkey
    · exact congrArg TaskKey.scope (hs.scope_of_led hl hm hid hled)
  | renew other lease expires hother howned =>
    obtain rfl := hself hother
    refine isolated_updateLeases fun l hl hin => ?_
    have hlease : lease ∈ s.leases := List.mem_of_find?_eq_some howned
    have hfound := List.find?_some howned
    simp only [decide_eq_true_eq] at hfound hin
    exact congrArg TaskKey.scope (hs.scope_of_led hl hlease hin.1.symm hfound.2.1)
  | move other row transition quota hother hmoves =>
    obtain rfl := hself hother
    refine { Isolated.refl with
      tasks := fun row' hrow' hscope => mem_updateWhere_of_not hrow' ?_
      transitions := fun row hrow _ => List.mem_append_left _ hrow }
    by_contra hin
    simp only [Bool.not_eq_false, decide_eq_true_eq] at hin
    exact hscope (congrArg TaskKey.scope hin.1)
  | retireFacts other sel sequence reason hother hkind hsel =>
    obtain rfl := hself hother
    have hcollects : op.collects = true :=
      hkind.elim collects_of_admitsFact (collects_of_withdraws hother)
    rw [if_pos hcollects]
    refine { Isolated.refl with facts := fun f hf htask => mem_updateWhere_of_not hf ?_ }
    by_contra hin
    simp only [Bool.not_eq_false, decide_eq_true_eq] at hin
    exact htask (congrArg some (hsel f hf hin.2))
  | retireReferences other sel sequence reason hother hkind hsel =>
    obtain rfl := hself hother
    have hcollects : op.collects = true :=
      hkind.elim collects_of_admitsReference (collects_of_withdraws hother)
    rw [if_pos hcollects]
    refine { Isolated.refl with references := fun r hr htask => mem_updateWhere_of_not hr ?_ }
    by_contra hin
    simp only [Bool.not_eq_false, decide_eq_true_eq] at hin
    exact htask (congrArg some (hsel r hr hin.2))
  | dropRetired other hother hcollects =>
    obtain rfl := hself hother
    rw [if_pos hcollects]
    have hdiffers {task : ContextTask} (htask : some task ≠ some other.task) : task ≠ other.task :=
      fun h => htask (congrArg some h)
    exact { Isolated.refl with
      facts := fun f hf htask => List.mem_filter.2 ⟨hf, by simp [hdiffers htask]⟩
      references := fun r hr htask => List.mem_filter.2 ⟨hr, by simp [hdiffers htask]⟩ }
  | collect other sequences quota hother hcollectable hreconciles hcollects =>
    obtain rfl := hself hother
    rw [if_pos hcollects]
    refine { Isolated.refl with events := fun e he htask => List.mem_filter.2 ⟨he, ?_⟩ }
    by_contra hin
    exact htask (congrArg some (hs.events.task_of_collected hcollectable he (by simpa using hin)))
  | name name quota hcreates | create row relations transition quota hcreates | touch key hcreates =>
    exact (hcreate hcreates).elim
  | delete key quota hdeletes =>
    cases op with
    | delete => cases hop
    | _ => cases hdeletes
  | gateway | refresh | lead | record | addFact | addReference | acknowledge =>
    constructor
    case leases => exact fun row hrow _ => .inl (by first | exact hrow | exact List.mem_append_left _ hrow)
    all_goals exact fun row hrow _ => by first | exact hrow | exact List.mem_append_left _ hrow

theorem Changes.isolated (hs : s.Keyed) (hop : op.identity? = some identity) (h : Changes ext now op s t) :
    Isolated now identity.scope (if op.collects then some identity.task else none) s t := by
  induction h with
  | refl => exact .refl
  | @tail middle _ hchanges hchange ih =>
    have hmiddle : middle.Keyed := Changes.keeps Tables.Keyed.change hchanges hs
    exact ih.trans (hchange.isolated hmiddle hop)

/-! ## Deletion -/

theorem isolated_deleteTask (canonical : String) (quota : WorkspaceQuota) :
    Isolated now scope (some ⟨scope.workspace, canonical⟩) db ((db.deleteTask ⟨scope, canonical⟩).withQuota quota) := by
  have hkey {key : TaskKey} (h : key.scope ≠ scope) : key ≠ ⟨scope, canonical⟩ := fun he => h (congrArg TaskKey.scope he)
  have htask {task : ContextTask} (h : some task ≠ some ⟨scope.workspace, canonical⟩) :
      task ≠ TaskKey.task ⟨scope, canonical⟩ := fun he => h (congrArg some he)
  constructor
  case tasks => exact fun row hrow h => List.mem_filter.2 ⟨hrow, by simpa using hkey h⟩
  case aliases =>
    exact fun row hrow h => List.mem_filter.2 ⟨hrow, by simpa using hkey (show row.canonicalKey.scope ≠ scope from h)⟩
  case relations =>
    exact fun row hrow h => List.mem_filter.2 ⟨hrow, by simpa using hkey (show row.sourceKey.scope ≠ scope from h)⟩
  case transitions => exact fun row hrow h => List.mem_filter.2 ⟨hrow, by simpa using hkey h⟩
  case recipients => exact fun row hrow h => List.mem_filter.2 ⟨hrow, by simpa using hkey h⟩
  case leases => exact fun row hrow h => .inl (List.mem_filter.2 ⟨hrow, by simpa using hkey h⟩)
  case events => exact fun row hrow h => List.mem_filter.2 ⟨hrow, by simpa using htask h⟩
  case facts => exact fun row hrow h => List.mem_filter.2 ⟨hrow, by simpa using htask h⟩
  case references => exact fun row hrow h => List.mem_filter.2 ⟨hrow, by simpa using htask h⟩
  case receipts => exact fun row hrow h => List.mem_filter.2 ⟨hrow, by simpa using htask h⟩

theorem isolated_delete (requestedTaskId : String) :
    Isolated now scope (writesTask? (.delete scope requestedTaskId) db) db
      (callOf ext now (.delete scope requestedTaskId) db).after := by
  have hruns : Runs (perform ext now (.delete scope requestedTaskId)) db
      (fun _ t => Isolated now scope (writesTask? (.delete scope requestedTaskId) db) db t) fun _ t => t = db := by
    unfold perform
    rw [runs_map]
    refine (runs_deleteTaskV1 scope requestedTaskId).imp ?_
    rintro _ t (rfl | ⟨canonical, quota, hresolves, _, rfl⟩)
    · exact .refl
    · rw [writesTask?, hresolves]
      exact isolated_deleteTask canonical quota
  unfold callOf
  cases hrun : perform ext now (.delete scope requestedTaskId) db with
  | ok reply after => exact hruns.ok hrun
  | error error after =>
    obtain rfl := hruns.error hrun
    exact .refl

/-- Receipts are removed by a deletion only. -/
theorem Changes.receipts_subset (hop : op.deletes = false) (h : Changes ext now op s t) : s.receipts ⊆ t.receipts := by
  induction h with
  | refl => exact List.Subset.refl _
  | tail _ hchange ih =>
    refine List.Subset.trans ih ?_
    cases hchange with
    | delete key quota hdeletes =>
      rw [hop] at hdeletes
      cases hdeletes
    | acknowledge => exact List.subset_append_left _ _
    | gateway | refresh | activate | retire | expire | settle | renew | lead | record | name | create | touch | move
    | retireFacts | addFact | retireReferences | addReference | dropRetired | collect => exact List.Subset.refl _

end

/-- Whatever an operation on existing tasks does under one scope, the rows of
every other scope are present and unchanged afterwards: tasks, aliases,
relations, transitions and recipients; leases, but that those whose time is over
are expired; and, where the other scope's task is not the one whose ledger the
operation may take rows from, events, facts, references and receipts. -/
theorem other_scopes_kept (ext : Externals) (db : Tables) (hdb : db.Keyed) (now : Int) (op : LedgerOp)
    (scope : TaskScope) (hscope : op.scope? = some scope) (hcreates : op.creates = false) :
    Isolated now scope (op.writesTask? db) db (callOf ext now op db).after ∧
      (op.deletes = false → ∀ row ∈ db.receipts, row ∈ (callOf ext now op db).after.receipts) := by
  have hchanges : Changes ext now op db (callOf ext now op db).after := changes_callOf now op db
  refine ⟨?_, fun hdeletes row hrow => Changes.receipts_subset hdeletes hchanges hrow⟩
  cases hidentity : op.identity? with
  | some identity =>
    have hisolated := Changes.isolated hdb hidentity hchanges
    cases op with
    | gateway | stored | resolve | start | delete => cases hidentity
    | _ =>
      obtain rfl := Option.some.inj hidentity
      obtain rfl := Option.some.inj hscope
      exact hisolated
  | none =>
    cases op with
    | delete own requestedTaskId =>
      obtain rfl := Option.some.inj hscope
      exact isolated_delete requestedTaskId
    | gateway | stored => cases hscope
    | resolve | start => cases hcreates
    | _ => cases hidentity

/-- Another scope of the workspace, and an agent at work on a task of the same name there. -/
def otherScope : TaskScope := ⟨sampleScope.workspace, sampleDigest 1⟩

def sampleStranger : ContextLedgerIdentityV1 :=
  ⟨{ sampleLeader.val with key := ⟨otherScope, "a"⟩, agentId := "stranger" }, by decide +kernel⟩

/-- After the task run, the task of the other scope is completed. -/
def sampleScopesRun : List (Int × LedgerOp) :=
  sampleTaskRun ++
    [(8, .start otherScope "a" (sampleDefinition "first" [])),
     (9, .activate sampleStranger),
     (10, .claim (sampleUuid 3) sampleStranger 1 1000 5000),
     (11, .transition sampleStranger (leaseIdOf (sampleUuid 3)) 1 .completed "done")]

/-- The stranger is retired: its row changes, and the rows of the first scope and the receipts are kept. -/
theorem sampleScopesRun_retirement_kept :
    let db := (record sampleExternals sampleScopesRun).2
    let after := (callOf sampleExternals 12 (.retire sampleStranger) db).after
    db.tasks.length = 3 ∧ db.recipients.map (·.active) = [true, true, true] ∧
      after.recipients.map (·.active) = [true, true, false] ∧ Isolated 12 otherScope none db after ∧
      ∀ row ∈ db.receipts, row ∈ after.receipts := by
  obtain ⟨hisolated, hreceipts⟩ := other_scopes_kept sampleExternals _ (run_record sampleScopesRun).keyed 12
    (.retire sampleStranger) otherScope rfl rfl
  exact ⟨by decide +kernel, by decide +kernel, by decide +kernel, hisolated, hreceipts rfl⟩

/-- A claim in one scope expires a lease of another, whose time is over; and the deletion of a task takes the events
of the other scope's task of that name with it. -/
theorem other_scope_rows_written :
    (∃ lease ∈ (record sampleExternals sampleScopesRun).2.leases, lease.key.scope = sampleScope ∧
        lease ∉ (callOf sampleExternals 2000 (.claim (sampleUuid 4) sampleStranger 2 1000 5000)
          (record sampleExternals sampleScopesRun).2).after.leases) ∧
      ∃ event ∈ (record sampleExternals sampleScopesRun).2.events, event.scope = sampleScope ∧
        event ∉ (callOf sampleExternals 12 (.delete otherScope "a")
          (record sampleExternals sampleScopesRun).2).after.events := by
  constructor <;> decide +kernel

end Again.Ledger
