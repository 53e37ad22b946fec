import Again.Ledger.TaskLifecycle

/-!
# Who decides a task

A claim is a lease on the task's definition digest, and there is one at a time.
`transition_task_v1` asks for an active lease of the task that the caller leads,
on whatever work key. So a caller that presents its claim decides as the only
claim holder, and a caller that holds a lease on other work of the task decides
all the same.
-/

namespace Again.Ledger

open Lib Gateway

variable {generation : Nat} {target : TaskStateV1} {c : Call} {leaseId : String} {sel : ContextLease → Bool}
  {lease : ContextLease} {middle : List Call}

variable {identity : ContextLedgerIdentityV1} {now : Int}

/-! ## Leases in reachable states -/

/-- Lease ids are unique, and a work key of a task has at most one active lease. -/
structure Leased (db : Tables) : Prop where
  unique : UniqueKey (·.leaseId) db.leases
  single : ∀ l ∈ db.leases, ∀ m ∈ db.leases, l.key = m.key → l.workKeyDigest = m.workKeyDigest →
    l.status = .active → m.status = .active → l = m

namespace Leased

variable {db : Tables}

theorem empty : Leased {} := by
  constructor <;> simp [UniqueKey]

theorem congr (h : Leased db) {db' : Tables} (hleases : db'.leases = db.leases) : Leased db' := by
  constructor
  case unique => rw [hleases]; exact h.unique
  case single => simpa only [hleases] using h.single

/-- A statement that activates no lease. -/
theorem update (h : Leased db) {write : ContextLease → ContextLease} (hid : ∀ l, (write l).leaseId = l.leaseId)
    (hkey : ∀ l, (write l).key = l.key) (hwork : ∀ l, (write l).workKeyDigest = l.workKeyDigest)
    (hstatus : ∀ l, (write l).status = .active → l.status = .active) :
    Leased { db with leases := updateWhere sel write db.leases } := by
  have hold : ∀ l, ∃ l', l' = (if sel l then write l else l) ∧ l'.key = l.key ∧ l'.workKeyDigest = l.workKeyDigest ∧
      (l'.status = .active → l.status = .active) := by
    intro l
    by_cases hsel : sel l = true
    · exact ⟨write l, by rw [if_pos hsel], hkey l, hwork l, hstatus l⟩
    · exact ⟨l, by rw [if_neg hsel], rfl, rfl, id⟩
  constructor
  case unique => exact h.unique.updateWhere hid
  case single =>
    intro l' hl' m' hm' hkeys hworks hlactive hmactive
    obtain ⟨l, hl, rfl⟩ := mem_updateWhere.1 hl'
    obtain ⟨m, hm, rfl⟩ := mem_updateWhere.1 hm'
    obtain ⟨_, rfl, hlkey, hlwork, hlstatus⟩ := hold l
    obtain ⟨_, rfl, hmkey, hmwork, hmstatus⟩ := hold m
    have hsame : l = m := h.single l hl m hm ((hlkey.symm.trans hkeys).trans hmkey)
      ((hlwork.symm.trans hworks).trans hmwork) (hlstatus hlactive) (hmstatus hmactive)
    rw [hsame]

theorem settle (h : Leased db) {status : ContextLeaseStatus} (hstatus : status ≠ .active) :
    Leased (db.settleLeases sel status now) :=
  h.update (fun _ => rfl) (fun _ => rfl) (fun _ => rfl) fun _ hactive => absurd hactive hstatus

theorem lead (h : Leased db) (hopens : OpensLease db now identity lease) : Leased (db.addLease lease) := by
  constructor
  case unique => exact h.unique.append hopens.fresh
  case single =>
    intro l hl m hm hkey hwork hlactive hmactive
    rcases mem_concat.1 hl with hold | rfl <;> rcases mem_concat.1 hm with hold' | rfl
    · exact h.single l hold m hold' hkey hwork hlactive hmactive
    · exact absurd hlactive (hopens.noActive l hold hkey hwork)
    · exact absurd hmactive (hopens.noActive m hold' hkey.symm hwork.symm)
    · rfl

theorem delete (h : Leased db) (key : TaskKey) : Leased (db.deleteTask key) where
  unique := h.unique.sublist List.filter_sublist
  single l hl m hm := h.single l (List.mem_of_mem_filter hl) m (List.mem_of_mem_filter hm)

variable {ext : Externals} {op : LedgerOp}

theorem change {db' : Tables} (h : Leased db) (hchange : Change ext now op db db') : Leased db' := by
  cases hchange with
  | expire => exact h.settle (by decide)
  | settle identity sel status hop hstatus => exact h.settle hstatus
  | renew identity lease expires => exact h.update (fun _ => rfl) (fun _ => rfl) (fun _ => rfl) fun _ hactive => hactive
  | lead identity lease hop hopens => exact h.lead hopens
  | delete key quota => exact (h.delete key).congr rfl
  | gateway | refresh | activate | retire | record | name | create | touch | move | retireFacts | addFact
  | retireReferences | addReference | dropRetired | collect | acknowledge => exact h.congr rfl

end Leased

/-- In every state a run reaches, a work key of a task has at most one active lease. -/
theorem work_leases_exclusive (ext : Externals) (steps : List (Int × LedgerOp)) : Leased (record ext steps).2 :=
  (run_record steps).keeps .empty Leased.change

/-! ## A decision -/

/-- What a successful `transition_task_v1` found and left. -/
structure Decides (db : Tables) (now : Int) (identity : ContextLedgerIdentityV1) (leaseId : String) (generation : Nat)
    (after : Tables) : Prop where
  held : ∃ lease ∈ db.leases, lease.leaseId = leaseId ∧ lease.isLedBy identity = true ∧ lease.status = .active ∧
    lease.overdue now = false
  found : ∃ row ∈ db.tasks, row.key = identity.key ∧ row.stateGeneration = generation
  moved : ∃ row ∈ after.tasks, row.key = identity.key ∧ row.stateGeneration = generation + 1

section
variable {ext : Externals} {db : Tables}

/-- A lease that is active after the overdue ones were expired is not overdue. -/
theorem mem_leases_of_expired (h : lease ∈ (db.settleLeases (·.overdue now) .expired now).leases)
    (hactive : lease.status = .active) : lease ∈ db.leases ∧ lease.overdue now = false := by
  obtain ⟨old, hold, rfl⟩ := mem_updateWhere.1 h
  by_cases hover : old.overdue now = true
  · rw [if_pos hover] at hactive
    cases hactive
  · rw [if_neg hover]
    exact ⟨hold, by simpa using hover⟩

theorem runs_settleDecision :
    Runs (settleDecision now identity leaseId target) db (fun _ t => t.tasks = db.tasks) fun _ _ => True := by
  unfold settleDecision settleContextLease
  split
  · rfl
  · rfl

theorem runs_transitionTaskV1 (leaseId : String) (generation : Nat) (target : TaskStateV1) (reason : String) :
    Runs (transitionTaskV1 ext now identity leaseId generation target reason) db
      (fun _ t => Decides db now identity leaseId generation t) fun _ t => t = db := by
  apply Runs.atomically (E := fun _ _ => True)
  refine runs_checkContextIdentity.bind ?_
  rintro _ _ ⟨rfl, _⟩
  simp only [runs_bind, runs_refuseIf, runs_attempt, implies_true, true_and]
  intro _ _ _
  refine runs_ensureCurrentContextRecipient.imp ?_
  rintro _ t ⟨rfl, _⟩
  intro task htask hgeneration _ hdecision
  obtain ⟨row, hrow, _, hrowGeneration, _⟩ := loadTaskRecord_eq_ok htask
  obtain ⟨hmem, hkey⟩ := Tables.task?_eq_some hrow
  refine (runs_contextOwnedLeaseDeadline leaseId).imp ?_
  rintro _ u ⟨rfl, lease, howned, _⟩
  obtain ⟨hmemLease, hid, hled, hactive⟩ := Tables.ownedLease?_eq_some howned
  obtain ⟨hlease, hover⟩ := mem_leases_of_expired hmemLease hactive
  have hdecides : task.state = .active ∧ target.isDecision = true := by simpa using hdecision
  have hop : (LedgerOp.transition identity leaseId generation target reason).identity? = some identity := rfl
  refine (makes_moveTask hop (.inr (.inr ⟨rfl, hdecides.2, lease, hmemLease, by rw [hid], hled, hactive⟩))).imp ?_
  rintro _ v ⟨_, _, hmoved⟩
  refine runs_settleDecision.imp ?_
  intro _ w hw record _
  constructor
  case held => exact ⟨lease, hlease, hid, hled, hactive, hover⟩
  case found => exact ⟨row, hmem, hkey, hrowGeneration.symm.trans (by simpa using hgeneration)⟩
  case moved =>
    rw [hw]
    exact hmoved

end

/-! ## Generations along a run -/

section
variable {ext : Externals} {op : LedgerOp} {s t : Tables}

/-- Without a deletion every task stays, and its generation does not go down. -/
theorem Change.row_stays (hop : op.creates = true) (h : Change ext now op s t) :
    ∀ row ∈ s.tasks, ∃ row' ∈ t.tasks, row'.key = row.key ∧ row.stateGeneration ≤ row'.stateGeneration := by
  intro row hrow
  cases h with
  | create new relations transition quota =>
    exact ⟨row, List.mem_append_left _ hrow, rfl, Nat.le_refl _⟩
  | touch key =>
    refine ⟨_, mem_updateWhere.2 ⟨row, hrow, rfl⟩, ?_⟩
    split <;> exact ⟨rfl, Nat.le_refl _⟩
  | move identity moving transition quota =>
    refine ⟨_, mem_updateWhere.2 ⟨row, hrow, rfl⟩, ?_⟩
    split
    case isTrue hsel =>
      simp only [decide_eq_true_eq] at hsel
      exact ⟨rfl, by simp [hsel.2.1]⟩
    case isFalse => exact ⟨rfl, Nat.le_refl _⟩
  | delete key quota hdeletes =>
    cases op <;> simp [LedgerOp.creates, LedgerOp.deletes] at hop hdeletes
  | gateway | refresh | activate | retire | expire | settle | renew | lead | record | name | retireFacts | addFact
  | retireReferences | addReference | dropRetired | collect | acknowledge => exact ⟨row, hrow, rfl, Nat.le_refl _⟩

/-- Without a creation every task was there before, and its generation has not gone down. -/
theorem Change.row_stayed (hop : op.creates = false) (h : Change ext now op s t) :
    ∀ row' ∈ t.tasks, ∃ row ∈ s.tasks, row.key = row'.key ∧ row.stateGeneration ≤ row'.stateGeneration := by
  intro row' hrow'
  cases h with
  | create new relations transition quota hnot => rw [hop] at hnot; cases hnot
  | touch key =>
    obtain ⟨row, hrow, rfl⟩ := mem_updateWhere.1 hrow'
    refine ⟨row, hrow, ?_⟩
    split <;> exact ⟨rfl, Nat.le_refl _⟩
  | move identity moving transition quota =>
    obtain ⟨row, hrow, rfl⟩ := mem_updateWhere.1 hrow'
    refine ⟨row, hrow, ?_⟩
    split
    case isTrue hsel =>
      simp only [decide_eq_true_eq] at hsel
      exact ⟨rfl, by simp [hsel.2.1]⟩
    case isFalse => exact ⟨rfl, Nat.le_refl _⟩
  | delete key quota => exact ⟨row', List.mem_of_mem_filter hrow', rfl, Nat.le_refl _⟩
  | gateway | refresh | activate | retire | expire | settle | renew | lead | record | name | retireFacts | addFact
  | retireReferences | addReference | dropRetired | collect | acknowledge => exact ⟨row', hrow', rfl, Nat.le_refl _⟩

theorem Changes.row_stays (hop : op.creates = true) (h : Changes ext now op s t) :
    ∀ row ∈ s.tasks, ∃ row' ∈ t.tasks, row'.key = row.key ∧ row.stateGeneration ≤ row'.stateGeneration := by
  induction h with
  | refl => exact fun row hrow => ⟨row, hrow, rfl, Nat.le_refl _⟩
  | tail _ hchange ih =>
    intro row hrow
    obtain ⟨mid, hmid, hkey, hle⟩ := ih row hrow
    obtain ⟨row', hrow', hkey', hle'⟩ := hchange.row_stays hop mid hmid
    exact ⟨row', hrow', hkey'.trans hkey, hle.trans hle'⟩

theorem Changes.row_stayed (hop : op.creates = false) (h : Changes ext now op s t) :
    ∀ row' ∈ t.tasks, ∃ row ∈ s.tasks, row.key = row'.key ∧ row.stateGeneration ≤ row'.stateGeneration := by
  induction h with
  | refl => exact fun row hrow => ⟨row, hrow, rfl, Nat.le_refl _⟩
  | tail _ hchange ih =>
    intro row' hrow'
    obtain ⟨mid, hmid, hkey, hle⟩ := hchange.row_stayed hop row' hrow'
    obtain ⟨row, hrow, hkey', hle'⟩ := ih mid hmid
    exact ⟨row, hrow, hkey'.trans hkey, hle'.trans hle⟩

/-- A task that is there before and after a call has not gone down in between. -/
theorem Changes.generation_le (hs : Lifecycle s) (ht : Lifecycle t) (h : Changes ext now op s t) {row row' : TaskRow}
    (hrow : row ∈ s.tasks) (hrow' : row' ∈ t.tasks) (hkey : row'.key = row.key) :
    row.stateGeneration ≤ row'.stateGeneration := by
  cases hop : op.creates with
  | true =>
    obtain ⟨kept, hkept, hkeptKey, hle⟩ := h.row_stays hop row hrow
    rwa [← ht.row_eq hkept hrow' (hkeptKey.trans hkey.symm)]
  | false =>
    obtain ⟨old, hold, holdKey, hle⟩ := h.row_stayed hop row' hrow'
    rwa [← hs.row_eq hold hrow (holdKey.trans hkey)]

end

/-! ## Decisions along a run -/

/-- The operation was carried out. -/
def Call.succeeded (c : Call) : Bool := c.reply.toBool

/-- A transition presents a lease on the definition digest of its task. -/
def Call.presentsClaim (c : Call) : Bool :=
  match c.op with
  | .transition identity leaseId _ _ _ =>
    decide (∀ lease ∈ c.before.leases, lease.leaseId = leaseId → ∀ task ∈ c.before.tasks, task.key = identity.key →
      task.definitionDigest = some lease.workKeyDigest)
  | _ => true

/-- The identity's agent and session hold the one active lease on the definition digest of their task. -/
def Tables.HoldsClaim (db : Tables) (now : Int) (identity : ContextLedgerIdentityV1) : Prop :=
  ∃ task ∈ db.tasks, task.key = identity.key ∧ ∃ lease ∈ db.leases, lease.key = identity.key ∧
    task.definitionDigest = some lease.workKeyDigest ∧ lease.leaderAgentId = identity.agentId ∧
    lease.leaderSessionId = identity.sessionId ∧ lease.status = .active ∧ lease.overdue now = false ∧
    ∀ other ∈ db.leases, other.key = identity.key → other.workKeyDigest = lease.workKeyDigest →
      other.status = .active → other = lease

instance (db : Tables) (now : Int) (identity : ContextLedgerIdentityV1) : Decidable (db.HoldsClaim now identity) :=
  inferInstanceAs (Decidable (∃ task ∈ db.tasks, _ ∧ ∃ lease ∈ db.leases, _))

section
variable {ext : Externals} {calls : List Call} {db : Tables}

theorem decides_of_succeeded (hc : c = callOf ext c.now c.op c.before) {reason : String}
    (hop : c.op = .transition identity leaseId generation target reason) (hok : c.succeeded = true) :
    Decides c.before c.now identity leaseId generation c.after := by
  have hruns : Runs (c.op.perform ext c.now) c.before
      (fun _ t => Decides c.before c.now identity leaseId generation t) fun _ t => t = c.before := by
    rw [hop, LedgerOp.perform, runs_map]
    exact runs_transitionTaskV1 leaseId generation target reason
  rcases reply_of_callOf hc hruns with ⟨⟨error, herror⟩, _⟩ | ⟨_, _, hdecides⟩
  · rw [Call.succeeded, herror] at hok
    cases hok
  · exact hdecides

/-- A caller that presents its claim is the one claim holder. -/
theorem holdsClaim_of_decides (h : Run ext calls db) {after : Tables}
    (hdecides : Decides db now identity leaseId generation after)
    (hclaim : ∀ lease ∈ db.leases, lease.leaseId = leaseId → ∀ task ∈ db.tasks, task.key = identity.key →
      task.definitionDigest = some lease.workKeyDigest) : db.HoldsClaim now identity := by
  obtain ⟨lease, hlease, hid, hled, hactive, hover⟩ := hdecides.held
  obtain ⟨task, htask, hkey, _⟩ := hdecides.found
  simp only [ContextLease.isLedBy, Bool.and_eq_true, decide_eq_true_eq] at hled
  obtain ⟨⟨⟨hleaseKey, hagent⟩, hsession⟩, _⟩ := hled
  refine ⟨task, htask, hkey, lease, hlease, hleaseKey, hclaim lease hlease hid task htask hkey, hagent, hsession, hactive,
    hover, ?_⟩
  intro other hother hotherKey hwork hotherActive
  exact (h.keeps Leased.empty Leased.change).single other hother lease hlease (hotherKey.trans hleaseKey.symm)
    hwork hotherActive hactive

/-- A task that is there after every call in between has not gone down. -/
theorem generation_le_of_chain {t : Tables}
    (hmade : ∀ d ∈ middle, d = callOf ext d.now d.op d.before ∧ Lifecycle d.before)
    (hchain : (c :: middle).IsChain fun d e => d.after = e.before) (hlast : ∀ d ∈ (c :: middle).getLast?, d.after = t)
    {key : TaskKey} (hthere : ∀ d ∈ middle, ∃ row ∈ d.after.tasks, row.key = key) (hc : Lifecycle c.after)
    {row row' : TaskRow} (hrow : row ∈ c.after.tasks) (hkey : row.key = key) (hrow' : row' ∈ t.tasks)
    (hkey' : row'.key = key) : row.stateGeneration ≤ row'.stateGeneration := by
  induction middle generalizing c row with
  | nil =>
    have hafter : c.after = t := hlast c rfl
    rw [← hafter] at hrow'
    rw [hc.row_eq hrow hrow' (hkey.trans hkey'.symm)]
  | cons d middle ih =>
    rw [List.isChain_cons_cons] at hchain
    obtain ⟨hd, hbefore⟩ := hmade d List.mem_cons_self
    have hchanges : Changes ext d.now d.op d.before d.after := changes_of_callOf hd
    have hafter : Lifecycle d.after := hchanges.keeps Lifecycle.change hbefore
    obtain ⟨mid, hmid, hmidKey⟩ := hthere d List.mem_cons_self
    have hstep : row.stateGeneration ≤ mid.stateGeneration :=
      hchanges.generation_le hbefore hafter (hchain.1 ▸ hrow) hmid (hmidKey.trans hkey.symm)
    have hrest := ih (fun e he => hmade e (List.mem_cons_of_mem _ he)) hchain.2
      (by simpa [List.getLast?_cons_cons] using hlast) (fun e he => hthere e (List.mem_cons_of_mem _ he)) hafter hmid
      hmidKey
    exact hstep.trans hrest

/-- The identity whose transition was carried out, and the state generation it was for. -/
def Call.decision? (c : Call) : Option (ContextLedgerIdentityV1 × Nat) :=
  match c.op with
  | .transition identity _ generation _ _ => if c.succeeded then some (identity, generation) else none
  | _ => none

theorem Call.decision?_eq_some (h : c.decision? = some (identity, generation)) :
    c.succeeded = true ∧ ∃ leaseId target reason, c.op = .transition identity leaseId generation target reason := by
  unfold Call.decision? at h
  split at h
  case h_1 who leaseId expected target reason hop =>
    by_cases hok : c.succeeded = true
    · rw [if_pos hok] at h
      cases h
      exact ⟨hok, leaseId, target, reason, hop⟩
    · rw [if_neg hok] at h
      cases h
  case h_2 => cases h

theorem Run.decides (h : Run ext calls db) (hc : c ∈ calls) (hdecision : c.decision? = some (identity, generation)) :
    ∃ leaseId, (∃ target reason, c.op = .transition identity leaseId generation target reason) ∧
      Decides c.before c.now identity leaseId generation c.after := by
  obtain ⟨hok, leaseId, target, reason, hop⟩ := Call.decision?_eq_some hdecision
  exact ⟨leaseId, ⟨target, reason, hop⟩, decides_of_succeeded (h.before_of_mem hc).1 hop hok⟩

/-- Of two decisions on a task that was there all the time, the later one is for a later generation. -/
theorem Run.decision_lt (h : Run ext calls db) {earlier later : List Call} {c' : Call}
    (hcalls : calls = earlier ++ (c :: middle ++ c' :: later)) {identity' : ContextLedgerIdentityV1} {generation' : Nat}
    (hdecision : c.decision? = some (identity, generation)) (hdecision' : c'.decision? = some (identity', generation'))
    (hkey : identity'.key = identity.key) (hthere : ∀ d ∈ middle, ∃ row ∈ d.after.tasks, row.key = identity.key) :
    generation < generation' := by
  have hmem : ∀ d ∈ c :: middle, d ∈ calls := by
    intro d hd
    rw [hcalls]
    exact List.mem_append_right _ (List.mem_append_left _ hd)
  have hmem' : c' ∈ calls := by rw [hcalls]; simp
  have hchain := h.chained.1
  rw [hcalls, List.isChain_append, List.isChain_append] at hchain
  obtain ⟨_, ⟨hchain, _, hlast⟩, _⟩ := hchain
  have hmade : ∀ d ∈ c :: middle, d = callOf ext d.now d.op d.before ∧ Lifecycle d.before := by
    intro d hd
    obtain ⟨hd, _, hrun⟩ := h.before_of_mem (hmem d hd)
    exact ⟨hd, hrun.lifecycle⟩
  obtain ⟨_, _, hdecides⟩ := h.decides (hmem c List.mem_cons_self) hdecision
  obtain ⟨_, _, hdecides'⟩ := h.decides hmem' hdecision'
  obtain ⟨row, hrow, hrowKey, hrowGeneration⟩ := hdecides.moved
  obtain ⟨row', hrow', hrowKey', hrowGeneration'⟩ := hdecides'.found
  have hafter : Lifecycle c.after := by
    obtain ⟨hc, hbefore⟩ := hmade c List.mem_cons_self
    exact (changes_of_callOf hc).keeps Lifecycle.change hbefore
  have hle : row.stateGeneration ≤ row'.stateGeneration :=
    generation_le_of_chain (fun d hd => hmade d (List.mem_cons_of_mem _ hd)) hchain
      (fun d hd => hlast d hd c' (by simp)) hthere hafter hrow hrowKey hrow' (hrowKey'.trans hkey)
  omega

end

/-- Where every transition presents a lease on its task's definition digest, each
one that succeeds is made by the one claim holder, and no two of them decide the
same generation of a task. -/
theorem claim_holder_decides (ext : Externals) (calls : List Call) (db : Tables) (h : Run ext calls db)
    (hclaims : ∀ c ∈ calls, c.presentsClaim = true) :
    (∀ c ∈ calls, ∀ identity generation, c.decision? = some (identity, generation) →
      c.before.HoldsClaim c.now identity) ∧
    ∀ earlier c middle c' later, calls = earlier ++ (c :: middle ++ c' :: later) →
      ∀ identity generation identity' generation', c.decision? = some (identity, generation) →
        c'.decision? = some (identity', generation') → identity'.key = identity.key →
        (∀ d ∈ middle, ∃ row ∈ d.after.tasks, row.key = identity.key) → generation < generation' := by
  constructor
  · intro c hc identity generation hdecision
    obtain ⟨leaseId, ⟨target, reason, hop⟩, hdecides⟩ := h.decides hc hdecision
    obtain ⟨_, _, hbefore⟩ := h.before_of_mem hc
    have hclaim := hclaims c hc
    rw [Call.presentsClaim, hop] at hclaim
    exact holdsClaim_of_decides hbefore hdecides (of_decide_eq_true hclaim)
  · intro earlier c middle c' later hcalls identity generation identity' generation' hdecision hdecision' hkey hthere
    exact h.decision_lt hcalls hdecision hdecision' hkey hthere

theorem sampleTaskRun_claim_holder_decides :
    (record sampleExternals sampleTaskRun).1.filterMap Call.decision? = [(sampleLeader, 1)] ∧
      ∀ c ∈ (record sampleExternals sampleTaskRun).1, ∀ identity generation,
        c.decision? = some (identity, generation) → c.before.HoldsClaim c.now identity :=
  ⟨by decide +kernel,
    (claim_holder_decides sampleExternals _ _ (run_record sampleTaskRun) (by decide +kernel)).1⟩

/-- A second agent at work on the first task. -/
def sampleIntruder : ContextLedgerIdentityV1 := sampleIdentity "a" "other" (by decide +kernel)

/-- The leader claims the task; the other agent takes a lease on notes of its own. -/
def sampleClaimRun : List (Int × LedgerOp) :=
  [(1, .start sampleScope "a" (sampleDefinition "first" [])),
   (2, .activate sampleLeader),
   (3, .activate sampleIntruder),
   (4, .claim (sampleUuid 1) sampleLeader 1 1000 5000),
   (5, .acquire (sampleUuid 2) sampleIntruder (sampleDigest 9) "notes" 1000 5000)]

/-- The other agent completes the task under the lease on its notes. -/
def sampleIntrusion : LedgerOp := .transition sampleIntruder (leaseIdOf (sampleUuid 2)) 1 .completed "done"

/-- An agent with a lease on other work of the task decides it while another agent holds the claim. -/
theorem other_lease_decides_task :
    Run sampleExternals
        ((record sampleExternals sampleClaimRun).1 ++
          [callOf sampleExternals 6 sampleIntrusion (record sampleExternals sampleClaimRun).2])
        (callOf sampleExternals 6 sampleIntrusion (record sampleExternals sampleClaimRun).2).after ∧
      (callOf sampleExternals 6 sampleIntrusion (record sampleExternals sampleClaimRun).2).decision? =
        some (sampleIntruder, 1) ∧
      (record sampleExternals sampleClaimRun).2.HoldsClaim 6 sampleLeader ∧
      ¬ (record sampleExternals sampleClaimRun).2.HoldsClaim 6 sampleIntruder :=
  ⟨(run_record sampleClaimRun).call 6 sampleIntrusion, by decide +kernel, by decide +kernel, by decide +kernel⟩

end Again.Ledger
