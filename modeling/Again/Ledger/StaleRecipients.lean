import Again.Ledger.TaskLifecycle

/-!
# Stale recipients

Every operation of a recipient but two asks first whether the caller is the
current row of its agent and session, and is refused otherwise. Activation
compares generations itself. `retire_context_recipient_v1` compares them in the
update of the row only: the leases it cancels are selected by agent, session and
lifecycle, so a caller whose turn, connection or compaction is stale cancels
them all the same. The generations of a row never go down, and a retired
lifecycle stays retired.
-/

namespace Again.Ledger

open Lib Gateway Recipient

variable {f : Unit → LedgerTx β} {r : Recipient}

variable {identity : ContextLedgerIdentityV1} {now : Int}

/-- No row is the current one of the identity. -/
def Tables.Stale (db : Tables) (identity : ContextLedgerIdentityV1) : Prop :=
  ∀ r ∈ db.recipients, r.isOf identity = true → r.isCurrent identity = false

instance (db : Tables) (identity : ContextLedgerIdentityV1) : Decidable (db.Stale identity) :=
  inferInstanceAs (Decidable (∀ r ∈ db.recipients, r.isOf identity = true → r.isCurrent identity = false))

theorem Tables.Stale.isCurrent {db : Tables} (h : db.Stale identity) : db.isCurrent identity = false := by
  unfold Tables.isCurrent Tables.recipient?
  cases hfind : db.recipients.find? (·.isOf identity) with
  | none => rfl
  | some r => exact h r (List.mem_of_find?_eq_some hfind) (by simpa using List.find?_some hfind)

/-! ## Refusals -/

/-- The program does not succeed. -/
def Refuses {α : Type} (x : LedgerTx α) (db : Tables) : Prop := Runs x db (fun _ _ => False) fun _ _ => True

section
variable {db : Tables} {α β : Type}

/-- A check that leaves the tables alone comes before a refusal. -/
theorem Refuses.after {x : LedgerTx α} {f : α → LedgerTx β} {R : α → Prop}
    (hx : Runs x db (fun a t => t = db ∧ R a) fun _ _ => True) (hf : ∀ a, Refuses (f a) db) : Refuses (x >>= f) db := by
  refine hx.bind ?_
  rintro a t ⟨rfl, _⟩
  exact hf a

theorem Refuses.refuseIf_bind {c : Prop} [Decidable c] {e : LedgerError} (hf : Refuses (f ()) db) :
    Refuses (refuseIf c e >>= f) db :=
  Refuses.after (R := fun _ => True) (by simp) fun _ => hf

theorem Refuses.attempt_bind {o : Except LedgerError α} {f : α → LedgerTx β} (hf : ∀ a, Refuses (f a) db) :
    Refuses (attempt o >>= f) db :=
  Refuses.after (R := fun _ => True) (by simp) hf

theorem Refuses.check_bind (hf : Refuses (f ()) db) : Refuses (checkContextIdentity identity >>= f) db :=
  Refuses.after runs_checkContextIdentity fun _ => hf

theorem Refuses.ttl_bind {ttlMs : UInt64} (hf : Refuses (f ()) db) : Refuses (checkTtl ttlMs >>= f) db :=
  Refuses.after (runs_checkTtl ttlMs) fun _ => hf

/-- A stale recipient is refused. -/
theorem Tables.Stale.refuses (h : db.Stale identity) : Refuses (ensureCurrentContextRecipient identity >>= f) db := by
  refine runs_ensureCurrentContextRecipient.bind ?_
  rintro _ t ⟨rfl, _, hcurrent⟩
  rw [h.isCurrent] at hcurrent
  cases hcurrent

theorem Refuses.atomically {x : LedgerTx α} (h : Refuses x db) :
    Runs (Lib.atomically x) db (fun _ t => t = db) fun _ t => t = db :=
  (Runs.atomically h).imp fun _ _ hfalse => hfalse.elim

/-- An operation of a stale recipient, other than activating or retiring it, changes nothing. -/
theorem unchanged_of_stale {ext : Externals} {op : LedgerOp} (h : db.Stale identity)
    (hop : op.identity? = some identity) (hactivate : op ≠ .activate identity) (hretire : op ≠ .retire identity) :
    Runs (op.perform ext now) db (fun _ t => t = db) fun _ t => t = db := by
  cases op <;> simp only [LedgerOp.identity?, Option.some.injEq, reduceCtorEq] at hop <;> subst hop <;>
    simp only [LedgerOp.perform, runs_map]
  case activate => exact absurd rfl hactivate
  case retire => exact absurd rfl hretire
  case snapshot => exact reads_contextTaskSnapshotV1 _
  case delta => exact reads_contextDeltaAfterV1 _ _ _
  case retrieve => exact reads_retrieveContextResultV1 _ _ _
  all_goals apply Refuses.atomically
  case admitFact => exact .attempt_bind fun _ => .refuseIf_bind h.refuses
  case append => exact .refuseIf_bind (.attempt_bind fun _ => .attempt_bind fun _ => h.refuses)
  case invalidate => exact .refuseIf_bind (.refuseIf_bind h.refuses)
  case acknowledge => exact .refuseIf_bind (.refuseIf_bind (.refuseIf_bind h.refuses))
  case gc | observe => exact .refuseIf_bind h.refuses
  case acquire =>
    exact .refuseIf_bind (.refuseIf_bind (.attempt_bind fun _ => .ttl_bind (.refuseIf_bind h.refuses)))
  case heartbeat => exact .ttl_bind h.refuses
  case finish | cancel => exact h.refuses
  case claim => exact .check_bind (.ttl_bind (.refuseIf_bind h.refuses))
  case transition => exact .check_bind (.refuseIf_bind (.attempt_bind fun _ => h.refuses))

/-! ## Retiring -/

/-- Some active lease is led by the identity's agent, session and lifecycle. -/
def Tables.Leads (db : Tables) (identity : ContextLedgerIdentityV1) : Prop :=
  ∃ l ∈ db.leases, l.isLedBy identity = true ∧ l.status = .active

/-- A stale retirement leaves the rows and cancels the leases. -/
theorem retire_of_stale (h : db.Stale identity) :
    Runs (retireContextRecipientV1 now identity) db
      (fun _ t => validContextIdentity identity = true ∧
        t = db.settleLeases (fun l => l.isLedBy identity && l.status = .active) .cancelled now)
      fun _ t => validContextIdentity identity = false ∧ t = db := by
  have hnone : db.recipients.countP (fun r => r.isOf identity && r.isCurrent identity) = 0 := by
    refine List.countP_eq_zero.2 fun r hr hsel => ?_
    rw [Bool.and_eq_true] at hsel
    rw [h r hr hsel.1] at hsel
    cases hsel.2
  have hsame : updateWhere (fun r => r.isOf identity && r.isCurrent identity)
      (fun r => { r with active := false, updatedMs := now }) db.recipients = db.recipients := updateWhere_eq_self hnone
  apply Runs.atomically_refusal
  unfold checkContextIdentity
  rw [runs_bind, runs_refuseIf]
  refine ⟨fun hinvalid => hinvalid, fun hvalid => ?_⟩
  rw [runs_bind, runs_get, runs_bind, runs_set, runs_bind, runs_updateContextLeases, runs_pure, hsame]
  exact ⟨by simpa using hvalid, rfl⟩

/-- Cancelling leases changes the tables exactly when there is one to cancel. -/
theorem settleLeases_eq_self_iff {sel : ContextLease → Bool} {status : ContextLeaseStatus}
    (hsel : ∀ l : ContextLease, sel (l.settle status now) = false) :
    db.settleLeases sel status now = db ↔ ∀ l ∈ db.leases, sel l = false := by
  constructor
  · intro hsame l hl
    by_contra hselected
    have hleases : updateWhere sel (·.settle status now) db.leases = db.leases := congrArg Tables.leases hsame
    rw [← hleases] at hl
    obtain ⟨old, _, rfl⟩ := mem_updateWhere.1 hl
    by_cases hold : sel old = true
    · rw [if_pos hold, hsel] at hselected
      exact hselected rfl
    · rw [if_neg hold] at hselected
      exact hold (by simpa using hselected)
  · intro hnone
    have hleases : updateWhere sel (·.settle status now) db.leases = db.leases :=
      updateWhere_eq_self (List.countP_eq_zero.2 fun l hl => by simp [hnone l hl])
    unfold Tables.settleLeases
    rw [hleases]

end

/-! ## Generations -/

/-- The agent and session a row is of. -/
def Recipient.who (r : Recipient) : TaskKey × String × String := (r.key, r.agentId, r.sessionId)

def ContextLedgerIdentityV1.who (identity : ContextLedgerIdentityV1) : TaskKey × String × String :=
  (identity.key, identity.agentId, identity.sessionId)

theorem Recipient.isOf_iff : r.isOf identity = true ↔ r.who = identity.who := by
  simp [isOf, who, ContextLedgerIdentityV1.who, and_assoc]

/-- The generations go on, and a retired lifecycle stays retired. -/
structure Recipient.Precedes (r r' : Recipient) : Prop where
  generations : r.lifecycleGeneration < r'.lifecycleGeneration ∨
    r.lifecycleGeneration = r'.lifecycleGeneration ∧ r.compactionGeneration ≤ r'.compactionGeneration
  retired : r.active = false → r'.lifecycleGeneration = r.lifecycleGeneration → r'.active = false

theorem Recipient.Precedes.refl (r : Recipient) : r.Precedes r :=
  ⟨.inr ⟨rfl, UInt64.le_refl _⟩, fun h _ => h⟩

theorem Recipient.Precedes.trans {s t : Recipient} (hrs : r.Precedes s) (hst : s.Precedes t) : r.Precedes t := by
  have h1 := hrs.generations
  have h2 := hst.generations
  simp only [UInt64.lt_iff_toNat_lt, UInt64.le_iff_toNat_le, ← UInt64.toNat_inj] at h1 h2
  constructor
  case generations =>
    simp only [UInt64.lt_iff_toNat_lt, UInt64.le_iff_toNat_le, ← UInt64.toNat_inj]
    omega
  case retired =>
    intro hretired hsame
    rw [← UInt64.toNat_inj] at hsame
    have hmiddle : s.lifecycleGeneration = r.lifecycleGeneration := by
      rw [← UInt64.toNat_inj]
      omega
    have hlast : t.lifecycleGeneration = s.lifecycleGeneration := by
      rw [← UInt64.toNat_inj]
      omega
    exact hst.retired (hrs.retired hretired hmiddle) hlast

section
variable {ext : Externals} {op : LedgerOp} {s t db : Tables}

/-- A row that an activation does not refuse to replace precedes the new one. -/
theorem precedes_of_not_refuses {row : Recipient} (hrow : row.isCurrent identity = true)
    (h : r.refuses identity = false) : r.Precedes row := by
  simp only [isCurrent, Bool.and_eq_true, decide_eq_true_eq] at hrow
  obtain ⟨⟨⟨⟨_, _⟩, _⟩, hcompaction⟩, hlifecycle⟩ := hrow
  simp only [refuses, Bool.or_eq_false_iff, Bool.and_eq_false_iff, Bool.not_eq_false',
    decide_eq_false_iff_not] at h
  obtain ⟨⟨⟨hretired, hlower⟩, hcompacted⟩, _⟩ := h
  simp only [UInt64.lt_iff_toNat_lt, UInt64.le_iff_toNat_le, ← UInt64.toNat_inj] at hretired hlower hcompacted
  constructor
  case generations =>
    rw [hcompaction, hlifecycle]
    simp only [UInt64.lt_iff_toNat_lt, UInt64.le_iff_toNat_le, ← UInt64.toNat_inj]
    omega
  case retired =>
    intro hinactive hsame
    rw [hlifecycle, ← UInt64.toNat_inj] at hsame
    rcases hretired with hactive | hnot
    · rw [hinactive] at hactive
      cases hactive
    · omega

/-- A run has one row of an agent and session. -/
theorem Change.recipients_unique (hs : UniqueKey who s.recipients) (h : Change ext now op s t) :
    UniqueKey who t.recipients := by
  cases h with
  | activate identity row hop hrow hallowed =>
    unfold Tables.activateRecipient
    have hwho : row.who = identity.who := isOf_iff.1 hrow.1
    by_cases hany : (s.recipients.any (·.isOf identity)) = true
    · simp only [hany, if_true]
      refine hs.map_of_mem fun r _ => ?_
      split
      case isTrue hof => exact hwho.trans (isOf_iff.1 hof).symm
      case isFalse => rfl
    · simp only [hany]
      rw [Bool.not_eq_true, List.any_eq_false] at hany
      refine hs.append fun r hr hsame => hany r hr ?_
      exact isOf_iff.2 (hsame.trans hwho)
  | retire identity => exact hs.updateWhere fun _ => rfl
  | delete key quota => exact hs.sublist List.filter_sublist
  | gateway | refresh | expire | settle | renew | lead | record | name | create | touch | move | retireFacts | addFact
  | retireReferences | addReference | dropRetired | collect | acknowledge => exact hs

/-- Without a deletion every row stays or is replaced by one it precedes. -/
theorem Change.row_precedes (hs : UniqueKey who s.recipients) (hop : op.deletes = false)
    (h : Change ext now op s t) : ∀ r ∈ s.recipients, ∃ r' ∈ t.recipients, r'.who = r.who ∧ r.Precedes r' := by
  intro r hr
  cases h with
  | activate identity row hop hrow hallowed =>
    have hwho : row.who = identity.who := isOf_iff.1 hrow.1
    unfold Tables.activateRecipient
    by_cases hany : (s.recipients.any (·.isOf identity)) = true
    · simp only [hany, if_true]
      refine ⟨_, mem_updateWhere.2 ⟨r, hr, rfl⟩, ?_⟩
      split
      case isTrue hof =>
        have hfind : s.recipient? identity = some r := by
          cases hfind : s.recipient? identity with
          | none => exact absurd hof (List.find?_eq_none.1 hfind r hr)
          | some r' =>
            have hof' : r'.isOf identity = true := by simpa using List.find?_some hfind
            rw [hs.eq_of_mem (List.mem_of_find?_eq_some hfind) hr
              ((isOf_iff.1 hof').trans (isOf_iff.1 hof).symm)]
        exact ⟨hwho.trans (isOf_iff.1 hof).symm, precedes_of_not_refuses hrow.2 (hallowed r hfind)⟩
      case isFalse => exact ⟨rfl, .refl r⟩
    · simp only [hany]
      exact ⟨r, List.mem_append_left _ hr, rfl, .refl r⟩
  | retire identity =>
    refine ⟨_, mem_updateWhere.2 ⟨r, hr, rfl⟩, ?_⟩
    split
    case isTrue => exact ⟨rfl, .inr ⟨rfl, UInt64.le_refl _⟩, fun _ _ => rfl⟩
    case isFalse => exact ⟨rfl, .refl r⟩
  | delete key quota hdeletes => rw [hop] at hdeletes; cases hdeletes
  | gateway | refresh | expire | settle | renew | lead | record | name | create | touch | move | retireFacts | addFact
  | retireReferences | addReference | dropRetired | collect | acknowledge => exact ⟨r, hr, rfl, .refl r⟩

theorem Changes.row_precedes (hs : UniqueKey who s.recipients) (hop : op.deletes = false)
    (h : Changes ext now op s t) : UniqueKey who t.recipients ∧
      ∀ r ∈ s.recipients, ∃ r' ∈ t.recipients, r'.who = r.who ∧ r.Precedes r' := by
  induction h with
  | refl => exact ⟨hs, fun r hr => ⟨r, hr, rfl, .refl r⟩⟩
  | tail _ hchange ih =>
    obtain ⟨hunique, hrows⟩ := ih
    refine ⟨hchange.recipients_unique hunique, fun r hr => ?_⟩
    obtain ⟨mid, hmid, hwho, hprecedes⟩ := hrows r hr
    obtain ⟨r', hr', hwho', hprecedes'⟩ := hchange.row_precedes hunique hop mid hmid
    exact ⟨r', hr', hwho'.trans hwho, hprecedes.trans hprecedes'⟩

/-- The call deletes the task, and succeeds. -/
def Call.deletesTask (c : Call) (key : TaskKey) : Prop :=
  ∃ requested reply, c.op = .delete key.scope requested ∧ c.reply = .ok reply ∧
    c.before.resolveAlias key.scope requested = some key.taskId

theorem row_precedes_of_callOf {c : Call} (hc : c = callOf ext c.now c.op c.before)
    (hunique : UniqueKey who c.before.recipients) (hr : r ∈ c.before.recipients)
    (hnot : ¬ c.deletesTask r.key) : ∃ r' ∈ c.after.recipients, r'.who = r.who ∧ r.Precedes r' := by
  cases hop : c.op.deletes with
  | false => exact ((changes_of_callOf hc).row_precedes hunique hop).2 r hr
  | true =>
    obtain ⟨scope, requested, hdelete⟩ : ∃ scope requested, c.op = .delete scope requested := by
      cases hcop : c.op <;> simp [hcop, LedgerOp.deletes] at hop ⊢
    have hruns : Runs (c.op.perform ext c.now) c.before
        (fun _ t => t = c.before ∨ ∃ canonical quota, c.before.resolveAlias scope requested = some canonical ∧
          DeletesTask ext c.before ⟨scope, canonical⟩ quota ∧
          t = (c.before.deleteTask ⟨scope, canonical⟩).withQuota quota) fun _ t => t = c.before := by
      rw [hdelete, LedgerOp.perform, runs_map]
      exact runs_deleteTaskV1 scope requested
    refine ⟨r, ?_, rfl, .refl r⟩
    rcases reply_of_callOf hc hruns with ⟨_, hafter⟩ | ⟨reply, hreply, hafter | ⟨canonical, quota, hresolves, _, hafter⟩⟩
    · rwa [hafter]
    · rwa [hafter]
    · rw [hafter]
      refine List.mem_filter.2 ⟨hr, ?_⟩
      simp only [ne_eq, decide_not, Bool.not_eq_true', decide_eq_false_iff_not]
      intro hkey
      rw [hkey] at hnot
      exact hnot ⟨requested, reply, hdelete, hreply, hresolves⟩

theorem Run.recipients_unique {calls : List Call} (h : Run ext calls db) : UniqueKey who db.recipients :=
  h.keeps (by simp [UniqueKey]) Change.recipients_unique

/-- Along a run that does not delete the task, the rows of one agent and session precede each other. -/
theorem Run.row_precedes {earlier later : List Call} (hs : Run ext earlier s) (ht : Run ext (earlier ++ later) t)
    (hr : r ∈ s.recipients) (hnot : ∀ c ∈ later, ¬ c.deletesTask r.key) :
    ∃ r' ∈ t.recipients, r'.who = r.who ∧ r.Precedes r' := by
  induction later using List.reverseRecOn generalizing t with
  | nil =>
    rw [List.append_nil] at ht
    rw [← hs.state_unique ht]
    exact ⟨r, hr, rfl, .refl r⟩
  | append_singleton later c ih =>
    rw [← List.append_assoc] at ht
    obtain ⟨before, hbefore, hc, rfl⟩ := ht.of_concat
    obtain ⟨mid, hmid, hwho, hprecedes⟩ := ih hbefore fun d hd => hnot d (List.mem_append_left _ hd)
    have hcbefore : c.before = before := by rw [hc, callOf_before]
    rw [← hcbefore] at hmid hc hbefore
    have hkey : mid.key = r.key := congrArg Prod.fst hwho
    have hkeeps : ¬ c.deletesTask mid.key := by
      rw [hkey]
      exact hnot c (by simp)
    obtain ⟨r', hr', hwho', hprecedes'⟩ := row_precedes_of_callOf hc hbefore.recipients_unique hmid hkeeps
    exact ⟨r', hr', hwho'.trans hwho, hprecedes.trans hprecedes'⟩

end

/-- A stale recipient's operation leaves the tables as they are, unless it is a
retirement that finds an active lease of its agent, session and lifecycle. And
along every run that does not delete their task, the rows of one agent and
session have generations that do not go down and lifecycles that stay retired. -/
theorem stale_recipient_unchanged_iff (ext : Externals) :
    (∀ (now : Int) (op : LedgerOp) (db : Tables) (identity : ContextLedgerIdentityV1), db.Stale identity →
      op.identity? = some identity → op ≠ .activate identity →
      ((callOf ext now op db).after = db ↔
        (op = .retire identity → validContextIdentity identity = true → ¬ db.Leads identity))) ∧
    ∀ (earlier later : List Call) (s t : Tables), Run ext earlier s → Run ext (earlier ++ later) t →
      ∀ r ∈ s.recipients, (∀ c ∈ later, ¬ c.deletesTask r.key) →
        ∀ r' ∈ t.recipients, r'.who = r.who → r.Precedes r' := by
  constructor
  · intro now op db identity hstale hop hactivate
    by_cases hretire : op = .retire identity
    · subst hretire
      have hruns : Runs (LedgerOp.perform ext now (.retire identity)) db
          (fun _ t => validContextIdentity identity = true ∧
            t = db.settleLeases (fun l => l.isLedBy identity && l.status = .active) .cancelled now)
          fun _ t => validContextIdentity identity = false ∧ t = db := by
        rw [LedgerOp.perform, runs_map]
        exact retire_of_stale hstale
      unfold callOf
      cases hrun : LedgerOp.perform ext now (.retire identity) db with
      | ok reply after =>
        obtain ⟨hvalid, rfl⟩ := hruns.ok hrun
        refine (settleLeases_eq_self_iff fun l => by simp [ContextLease.settle]).trans ?_
        simp [hvalid, Tables.Leads]
      | error error after =>
        obtain ⟨hinvalid, rfl⟩ := hruns.error hrun
        simp [hinvalid]
    · have hunchanged : Runs (op.perform ext now) db (fun _ t => t = db) fun _ t => t = db :=
        unchanged_of_stale hstale hop hactivate hretire
      refine iff_of_true ?_ fun h => absurd h hretire
      unfold callOf
      cases hrun : op.perform ext now db with
      | ok reply after => exact hunchanged.ok hrun
      | error error after => exact hunchanged.error hrun
  · intro earlier later s t hs ht r hr hnot r' hr' hwho
    obtain ⟨found, hfound, hfoundWho, hprecedes⟩ := hs.row_precedes ht hr hnot
    rw [← ht.recipients_unique.eq_of_mem hfound hr' (hfoundWho.trans hwho.symm)]
    exact hprecedes

/-- The follower as it was a turn ago. -/
def sampleStale : ContextLedgerIdentityV1 := ⟨{ sampleFollower.val with turnId := "old" }, by decide +kernel⟩

/-- The follower in its next lifecycle. -/
def sampleReturned : ContextLedgerIdentityV1 :=
  ⟨{ sampleFollower.val with lifecycleGeneration := 2 }, by decide +kernel⟩

/-- A heartbeat of the stale follower leaves the store alone. When the current one is retired and comes back in its
next lifecycle, its row goes on from the one before. -/
theorem sampleStale_unchanged :
    let db := (record sampleExternals sampleTaskRun).2
    let retired := callOf sampleExternals 8 (.retire sampleFollower) db
    let returned := callOf sampleExternals 9 (.activate sampleReturned) retired.after
    (callOf sampleExternals 8 (.heartbeat sampleStale (leaseIdOf (sampleUuid 2)) 1000) db).after = db ∧
      db.recipients.map (fun r => (r.active, r.lifecycleGeneration)) = [(true, 1), (true, 1)] ∧
      retired.after.recipients.map (fun r => (r.active, r.lifecycleGeneration)) = [(true, 1), (false, 1)] ∧
      returned.after.recipients.map (fun r => (r.active, r.lifecycleGeneration)) = [(true, 1), (true, 2)] ∧
      ∀ r ∈ db.recipients, ∀ r' ∈ returned.after.recipients, r'.who = r.who → r.Precedes r' := by
  intro db retired returned
  obtain ⟨hunchanged, hprecedes⟩ := stale_recipient_unchanged_iff sampleExternals
  refine ⟨?_, by decide +kernel, by decide +kernel, by decide +kernel, fun r hr => ?_⟩
  · refine (hunchanged 8 _ _ sampleStale (by decide +kernel) rfl ?_).2 ?_
    · exact fun h => by cases h
    · exact fun h => by cases h
  · have hrun : Run sampleExternals _ db := run_record sampleTaskRun
    refine hprecedes _ ([retired] ++ [returned]) _ _ hrun ?_ r hr ?_
    · rw [← List.append_assoc]
      exact (hrun.call 8 (.retire sampleFollower)).call 9 (.activate sampleReturned)
    · rintro c hc ⟨requested, _, hdelete, _⟩
      have hops : ([retired] ++ [returned]).map (·.op) = [.retire sampleFollower, .activate sampleReturned] := by
        simp [retired, returned]
      have hop : c.op ∈ _ := List.mem_map_of_mem (f := (·.op)) hc
      rw [hops, hdelete] at hop
      simp at hop

/-- A retirement by the follower of a turn ago cancels the lease of the current one. -/
theorem stale_retirement_cancels_lease :
    (record sampleExternals sampleTaskRun).2.Stale sampleStale ∧
      (record sampleExternals sampleTaskRun).2.leases.map (·.status) = [.completed, .active] ∧
      (callOf sampleExternals 8 (.retire sampleStale) (record sampleExternals sampleTaskRun).2).after.leases.map
        (·.status) = [.completed, .cancelled] ∧
      (callOf sampleExternals 8 (.retire sampleStale) (record sampleExternals sampleTaskRun).2).after ≠
        (record sampleExternals sampleTaskRun).2 := by
  refine ⟨by decide +kernel, by decide +kernel, by decide +kernel, fun hsame => ?_⟩
  exact absurd (congrArg (·.leases.map (·.status)) hsame) (by decide +kernel)

end Again.Ledger
