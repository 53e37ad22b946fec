import Again.Gateway.Coordinator

/-!
# What the coordinator can do to the tables

Every operation of the coordinator makes a few of the changes listed here, one
after the other, and nothing else. A change comes with what the operation had
checked before it made it. An operation that fails changes nothing.
-/

namespace Again.Gateway

open Lib

variable {Q : Nat → Tables → Prop} {result : StoredResult}

namespace Tables

variable (db : Tables)

/-- An active lease ends without a result, and the calls that joined it fail. -/
def settleLease (leaseId : String) (status : GatewayLeaseStatus) (reason : GatewayFailureReason) (now : Int) : Tables :=
  { db with
    inflightLeases := updateWhere (fun l => l.leaseId = leaseId ∧ l.status = .active)
      (fun l => { l with status, reason := some (.failure reason), completedMs := some now }) db.inflightLeases
    gatewayRequests := updateWhere (·.pendingOn leaseId)
      (fun q => { q with status := .failed, reason := some (.failure reason), updatedMs := now }) db.gatewayRequests }

def beginExecution (leaseId : String) (now : Int) : Tables :=
  { db with
    inflightLeases := updateWhere (fun l => l.leaseId = leaseId ∧ l.status = .active ∧ l.executionStartedMs = none)
      (fun l => { l with executionStartedMs := some now }) db.inflightLeases }

def extendLease (leaseId owner : String) (now expiresMs : Int) : Tables :=
  { db with
    inflightLeases := updateWhere
      (fun l => l.leaseId = leaseId ∧ l.owner = owner ∧ l.status = .active ∧ now < l.expiresMs)
      (fun l => { l with heartbeatMs := now, expiresMs }) db.inflightLeases }

/-- The ready result leaves service, with the lease and the calls it was published to. -/
def quarantineResult (gatewayResultId : String) (now : Int) : Tables :=
  { db with
    gatewayResults := updateWhere (fun r => r.gatewayResultId = gatewayResultId ∧ r.status = .ready)
      (fun r => { r with status := .quarantined, quarantineReason := some .resultCorrupt, updatedMs := now })
      db.gatewayResults
    inflightLeases := updateWhere (fun l => l.gatewayResultId = some gatewayResultId ∧ l.status = .completed)
      (fun l => { l with status := .quarantined, reason := some .resultCorrupt, completedMs := some now })
      db.inflightLeases
    gatewayRequests := updateWhere (fun q => q.gatewayResultId = some gatewayResultId ∧ q.status = .ready)
      (fun q => { q with status := .quarantined, reason := some .resultCorrupt, updatedMs := now }) db.gatewayRequests }

/-- A completed lease was completed again with another result. -/
def diverge (lease : InflightLease) (now : Int) : Tables :=
  { db with
    gatewayResults := updateWhere (fun r => r.bindingDigest = lease.bindingDigest ∧ r.status = .ready)
      (fun r => { r with status := .quarantined, quarantineReason := some .divergentResult, updatedMs := now })
      db.gatewayResults
    inflightLeases := updateWhere (fun l => l.callId = lease.callId)
      (fun l => { l with status := .quarantined, reason := some .divergentResult, completedMs := some now })
      db.inflightLeases
    gatewayRequests :=
      let joined := (db.inflightLeases.find? fun l => l.callId = lease.callId).map (·.leaseId)
      updateWhere (fun q => joined.isSome ∧ q.joinedLeaseId = joined)
        (fun q => { q with status := .quarantined, reason := some .divergentResult, updatedMs := now })
        db.gatewayRequests }

def cancelRequest (callId : String) (now : Int) : Tables :=
  { db with
    gatewayRequests := updateWhere (fun q => q.callId = callId ∧ q.status = .waiting)
      (fun q => { q with status := .cancelled, reason := some (.failure .cancelled), updatedMs := now })
      db.gatewayRequests }

def addRequest (new : GatewayRequest) : Tables := { db with gatewayRequests := db.gatewayRequests ++ [new] }

def addLease (new : InflightLease) : Tables := { db with inflightLeases := db.inflightLeases ++ [new] }

/-- The lease completes with a result, which the calls that joined it share. -/
def completeLease (leaseId gatewayResultId : String) (now : Int) : Tables :=
  { db with
    inflightLeases := updateWhere (fun l => l.leaseId = leaseId ∧ l.status = .active ∧ l.executionStartedMs ≠ none)
      (fun l => { l with status := .completed, gatewayResultId := some gatewayResultId, completedMs := some now })
      db.inflightLeases
    gatewayRequests := updateWhere (·.pendingOn leaseId)
      (fun q => { q with status := .ready, gatewayResultId := some gatewayResultId, updatedMs := now })
      db.gatewayRequests }

def addResult (new : GatewayResult) : Tables := { db with gatewayResults := db.gatewayResults ++ [new] }

def addSource (result : StoredResult) : Tables := { db with results := db.results ++ [{ result }] }

end Tables

/-- What a new lease is opened with. -/
structure OpensLease (db : Tables) (now : Int) (request : GatewayRequest) (lease : InflightLease) : Prop where
  noResult : ∀ r ∈ db.gatewayResults, r.bindingDigest ≠ lease.bindingDigest
  noActive : ∀ l ∈ db.inflightLeases, l.bindingDigest = lease.bindingDigest → l.status ≠ .active
  freshLease : ∀ l ∈ db.inflightLeases, l.leaseId ≠ lease.leaseId
  freshCall : ∀ l ∈ db.inflightLeases, l.callId ≠ lease.callId
  generation : lease.lifecycleGeneration = (db.maxGeneration lease.bindingDigest).getD 0 + 1
  active : lease.status = .active
  notStarted : lease.executionStartedMs = none
  acquired : lease.acquiredMs = now
  expires : lease.expiresMs ≤ lease.freshnessValidUntilMs
  call : request.callId = lease.callId
  leads : request.role = .leader
  joined : request.joinedLeaseId = some lease.leaseId
  sameBinding : request.bindingDigest = lease.bindingDigest
  sameFreshness : request.freshnessValidUntilMs = lease.freshnessValidUntilMs

/-- What a result is published with. -/
structure Publishes (db : Tables) (now : Int) (lease : InflightLease) (result : StoredResult) (new : GatewayResult) :
    Prop where
  found : db.lease? lease.leaseId = some lease
  active : lease.status = .active
  started : lease.executionStartedMs ≠ none
  unexpired : now < lease.expiresMs
  source : db.visibleResult? new.resultId = some result
  fresh : ∀ r ∈ db.gatewayResults, r.gatewayResultId ≠ new.gatewayResultId
  ready : new.status = .ready
  byLease : new.leaseId = lease.leaseId
  sameBinding : new.bindingDigest = lease.bindingDigest

/-- One change, with what was checked before it. -/
inductive Change (now : Int) : Tables → Tables → Prop
  | settle {db : Tables} (leaseId : String) (status : GatewayLeaseStatus) (reason : GatewayFailureReason)
      (hstatus : status = .expired ∨ status = .failed) : Change now db (db.settleLease leaseId status reason now)
  | start {db : Tables} (leaseId : String) : Change now db (db.beginExecution leaseId now)
  | renew {db : Tables} (lease : InflightLease) (owner : String) (expiresMs : Int)
      (hlease : db.lease? lease.leaseId = some lease) (hexpires : expiresMs ≤ lease.freshnessValidUntilMs) :
      Change now db (db.extendLease lease.leaseId owner now expiresMs)
  | quarantineResult {db : Tables} (gatewayResultId : String) : Change now db (db.quarantineResult gatewayResultId now)
  | diverge {db : Tables} (lease : InflightLease) (hlease : db.lease? lease.leaseId = some lease)
      (hcompleted : lease.status = .completed) : Change now db (db.diverge lease now)
  | cancel {db : Tables} (callId : String) : Change now db (db.cancelRequest callId now)
  | request {db : Tables} (new : GatewayRequest) (hfresh : ∀ q ∈ db.gatewayRequests, q.callId ≠ new.callId)
      (hpending : new.pending = true → ∃ l ∈ db.inflightLeases,
        new.joinedLeaseId = some l.leaseId ∧ l.status = .active ∧ l.bindingDigest = new.bindingDigest) :
      Change now db (db.addRequest new)
  | lead {db : Tables} (request : GatewayRequest) (lease : InflightLease) (hopens : OpensLease db now request lease)
      (hfresh : ∀ q ∈ db.gatewayRequests, q.callId ≠ request.callId) :
      Change now db ((db.addRequest request).addLease lease)
  | publish {db : Tables} (lease : InflightLease) (result : StoredResult) (new : GatewayResult)
      (hpublishes : Publishes db now lease result new) :
      Change now db ((db.completeLease lease.leaseId new.gatewayResultId now).addResult new)
  | quarantineSource {db : Tables} (resultId : String) : Change now db (db.quarantineSource resultId)
  | source {db : Tables} (result : StoredResult) (hfresh : ∀ r ∈ db.results, r.result.id ≠ result.id) :
      Change now db (db.addSource result)

/-- Changes one after the other. -/
abbrev Changes (now : Int) : Tables → Tables → Prop := Relation.ReflTransGen (Change now)

/-! ## The statements -/

section
variable {db : Tables} {now : Int}

variable {E : StoreError → Tables → Prop} {α : Type} {lease : InflightLease} {bindingDigest : String}

@[simp] theorem runs_updateLeases {sel : InflightLease → Bool} {write : InflightLease → InflightLease} :
    Runs (updateLeases sel write) db Q E ↔
      Q (db.inflightLeases.countP sel) { db with inflightLeases := updateWhere sel write db.inflightLeases } := Iff.rfl

@[simp] theorem runs_updateRequests {sel : GatewayRequest → Bool} {write : GatewayRequest → GatewayRequest}
    {Q : Unit → Tables → Prop} : Runs (updateRequests sel write) db Q E ↔
      Q () { db with gatewayRequests := updateWhere sel write db.gatewayRequests } := Iff.rfl

@[simp] theorem runs_updateResults {sel : GatewayResult → Bool} {write : GatewayResult → GatewayResult} :
    Runs (updateResults sel write) db Q E ↔
      Q (db.gatewayResults.countP sel) { db with gatewayResults := updateWhere sel write db.gatewayResults } := Iff.rfl

theorem runs_insertRequest (new : GatewayRequest) :
    Runs (insertRequest new) db
      (fun _ db' => db' = db.addRequest new ∧ ∀ q ∈ db.gatewayRequests, q.callId ≠ new.callId) fun _ _ => True := by
  unfold insertRequest
  simp [Tables.addRequest]

theorem runs_insertLease (new : InflightLease) :
    Runs (insertLease new) db
      (fun _ db' => db' = db.addLease new ∧ (∀ l ∈ db.inflightLeases, l.leaseId ≠ new.leaseId) ∧
        ∀ l ∈ db.inflightLeases, l.callId ≠ new.callId) fun _ _ => True := by
  unfold insertLease
  simp only [runs_bind, runs_get, runs_refuseIf, runs_modify, implies_true, true_and]
  intro hfresh
  rw [Bool.not_eq_true, List.any_eq_false] at hfresh
  refine ⟨rfl, fun l hl hid => hfresh l hl ?_, fun l hl hid => hfresh l hl ?_⟩ <;> simp [hid]

theorem runs_insertGatewayResult (new : GatewayResult) :
    Runs (insertGatewayResult new) db
      (fun _ db' => db' = db.addResult new ∧ ∀ r ∈ db.gatewayResults, r.gatewayResultId ≠ new.gatewayResultId)
      fun _ _ => True := by
  unfold insertGatewayResult
  simp only [runs_bind, runs_get, runs_refuseIf, runs_modify, implies_true, true_and]
  intro hfresh
  rw [Bool.not_eq_true, List.any_eq_false] at hfresh
  exact ⟨rfl, fun r hr hid => hfresh r hr (by simp [hid])⟩

/-! ## The operations -/

/-- A program that makes changes, or fails. -/
def Makes (now : Int) {α : Type} (x : Tx α) (db : Tables) : Prop := Runs x db (fun _ => Changes now db) fun _ _ => True

theorem Makes.bind {β : Type} {x : Tx α} {f : α → Tx β} (hx : Makes now x db) (hf : ∀ a t, Makes now (f a) t) :
    Makes now (x >>= f) db :=
  Runs.bind hx fun a t ht => (hf a t).mono (fun _ _ hu => ht.trans hu) fun _ _ _ => trivial

theorem makes_pure (a : α) : Makes now (pure a) db := Relation.ReflTransGen.refl

theorem makes_expireGatewayLease (leaseId : String) : Makes now (expireGatewayLease now leaseId) db :=
  Relation.ReflTransGen.single (Change.settle leaseId .expired .deadline (.inl rfl))

theorem makes_expireGatewayLeases (bindingDigest : Option String) :
    Makes now (expireGatewayLeases now bindingDigest) db := by
  have hloop (ids : List String) : Makes now (ids.forM (expireGatewayLease now)) db := by
    refine Runs.forM (I := Changes now db) ids (fun leaseId _ t ht => ?_) Relation.ReflTransGen.refl
    exact (makes_expireGatewayLease leaseId).mono (fun _ _ hu => ht.trans hu) fun _ _ _ => trivial
  exact hloop _

theorem makes_quarantineInvalidGatewayResult (gatewayResultId : String) :
    Makes now (quarantineInvalidGatewayResult gatewayResultId now) db := by
  unfold Makes quarantineInvalidGatewayResult
  simp only [runs_bind, runs_updateResults, runs_ite, runs_updateLeases, runs_updateRequests, runs_pure]
  constructor
  · intro hnone
    rw [updateWhere_eq_self hnone]
  · intro _
    exact .single (Change.quarantineResult gatewayResultId)

theorem makes_insertGatewayRequest (blake3 : Bytes → Octets 32) (callId : String) (binding : ValidatedGatewayReadV1)
    (owner : String) (role : GatewayRequestRole) (status : GatewayRequestStatus) (leaseId gatewayResultId : Option String)
    (hpending : status = .inflight ∨ status = .waiting → ∃ l ∈ db.inflightLeases,
      leaseId = some l.leaseId ∧ l.status = .active ∧ l.bindingDigest = binding.bindingDigest blake3) :
    Makes now (insertGatewayRequest blake3 callId binding owner role status leaseId gatewayResultId now) db := by
  refine (runs_insertRequest _).mono ?_ fun _ _ _ => trivial
  rintro _ t ⟨rfl, hfresh⟩
  refine .single (Change.request _ hfresh ?_)
  intro hp
  exact hpending (by simpa [GatewayRequest.pending] using hp)

theorem Tables.lease?_eq_some {leaseId : String} (h : db.lease? leaseId = some lease) :
    lease ∈ db.inflightLeases ∧ lease.leaseId = leaseId :=
  ⟨List.mem_of_find?_eq_some h, by simpa using List.find?_some h⟩

theorem Tables.activeLease?_eq_some (h : db.activeLease? bindingDigest = some lease) :
    lease ∈ db.inflightLeases ∧ lease.bindingDigest = bindingDigest ∧ lease.status = .active := by
  refine ⟨List.mem_of_find?_eq_some h, ?_⟩
  simpa using List.find?_some h

theorem Tables.activeLease?_eq_none (h : db.activeLease? bindingDigest = none) :
    ∀ l ∈ db.inflightLeases, l.bindingDigest = bindingDigest → l.status ≠ .active := by
  intro l hl hbinding hactive
  have := List.find?_eq_none.1 h l hl
  simp [hbinding, hactive] at this

/-- Neither ready nor quarantined: the binding has no result. -/
theorem Tables.noResult (hready : db.readyResult? bindingDigest = none)
    (hquarantined : db.isQuarantined bindingDigest = false) :
    ∀ r ∈ db.gatewayResults, r.bindingDigest ≠ bindingDigest := by
  intro r hr hbinding
  have hnotReady := List.find?_eq_none.1 hready r hr
  have hnotQuarantined := List.any_eq_false.1 hquarantined r hr
  cases hstatus : r.status with
  | ready => simp [hbinding, hstatus] at hnotReady
  | quarantined => simp [hbinding, hstatus] at hnotQuarantined

variable {blake3 : Bytes → Octets 32} {outside : Outside}

theorem makes_leadGatewayCall {binding : ValidatedGatewayReadV1} (owner callId leaseId : String)
    (hresult : ∀ r ∈ db.gatewayResults, r.bindingDigest ≠ binding.bindingDigest blake3)
    (hactive : ∀ l ∈ db.inflightLeases, l.bindingDigest = binding.bindingDigest blake3 → l.status ≠ .active) :
    Makes now (leadGatewayCall blake3 now binding owner callId leaseId) db := by
  unfold Makes leadGatewayCall
  simp only [runs_bind, runs_get, runs_refuseIf, implies_true, true_and]
  intro _
  refine (runs_insertRequest _).mono ?_ fun _ _ _ => trivial
  rintro _ t ⟨rfl, hfresh⟩
  refine (runs_insertLease _).mono ?_ fun _ _ _ => trivial
  rintro _ u ⟨rfl, hfreshLease, hfreshCall⟩
  refine .single (Change.lead _ _ ?_ hfresh)
  exact
    { noResult := hresult
      noActive := hactive
      freshLease := hfreshLease
      freshCall := hfreshCall
      generation := rfl
      active := rfl
      notStarted := rfl
      acquired := rfl
      expires := min_le_right _ _
      call := rfl
      leads := rfl
      joined := rfl
      sameBinding := rfl
      sameFreshness := rfl }

theorem makes_settleGatewayCall (binding : ValidatedGatewayReadV1) (owner callId leaseId : String) :
    Makes outside.now (settleGatewayCall blake3 outside binding owner callId leaseId) db := by
  apply Runs.past_get
  cases hready : db.readyResult? (binding.bindingDigest blake3) with
  | some ready =>
    rw [runs_ite]
    constructor
    · intro _
      exact (makes_insertGatewayRequest blake3 callId binding owner _ _ none _ (by simp)).bind fun _ _ => makes_pure _
    · intro _
      exact (makes_quarantineInvalidGatewayResult _).bind fun _ _ => makes_pure _
  | none =>
    rw [runs_ite]
    refine ⟨fun _ => makes_pure _, fun hquarantined => ?_⟩
    cases hactive : db.activeLease? (binding.bindingDigest blake3) with
    | some active =>
      obtain ⟨hmem, hbinding, hstatus⟩ := Tables.activeLease?_eq_some hactive
      exact (makes_insertGatewayRequest blake3 callId binding owner _ _ _ none
        fun _ => ⟨active, hmem, rfl, hstatus, hbinding⟩).bind fun _ _ => makes_pure _
    | none =>
      exact makes_leadGatewayCall owner callId leaseId
        (Tables.noResult hready (Bool.eq_false_of_not_eq_true hquarantined)) (Tables.activeLease?_eq_none hactive)

theorem makes_readGatewayCall (binding : ValidatedGatewayReadV1) :
    Makes outside.now (readGatewayCall blake3 outside binding) db := by
  apply Runs.past_get
  cases db.quarantineReason? (binding.bindingDigest blake3) with
  | some reason => exact makes_pure _
  | none =>
    cases db.readyResult? (binding.bindingDigest blake3) with
    | some ready =>
      rw [runs_ite]
      exact ⟨fun _ => (makes_quarantineInvalidGatewayResult _).bind fun _ _ => makes_pure _, fun _ => makes_pure _⟩
    | none =>
      cases db.activeLease? (binding.bindingDigest blake3) with
      | some lease => exact makes_pure _
      | none => cases db.lastFailure? (binding.bindingDigest blake3) <;> exact makes_pure _

theorem makes_readRouteProof (binding : ValidatedGatewayReadV1) (call : GatewayToolCallV1) (observedAtMs : Nat) :
    Makes outside.now (readRouteProof blake3 outside binding call observedAtMs) db := by
  have hexact (ready : GatewayResult) :
      Makes outside.now (exactRouteProof blake3 db binding call observedAtMs ready) db := by
    unfold Makes exactRouteProof
    split
    · exact makes_pure _
    · split
      · exact makes_pure _
      · split
        · exact makes_pure _
        · simp [Relation.ReflTransGen.refl]
  have hinflight : Makes outside.now (inflightRouteProof blake3 db binding call observedAtMs) db := by
    unfold Makes inflightRouteProof
    split
    · exact makes_pure _
    · split
      · exact makes_pure _
      · simp [Relation.ReflTransGen.refl]
  show Runs (get >>= _) db _ _
  rw [runs_bind, runs_get, runs_ite]
  refine ⟨fun _ => makes_pure _, fun _ => ?_⟩
  cases db.readyResult? (binding.bindingDigest blake3) with
  | some ready =>
    rw [runs_ite]
    exact ⟨fun _ => (makes_quarantineInvalidGatewayResult _).bind fun _ _ => makes_pure _, fun _ => hexact ready⟩
  | none => exact hinflight

theorem makes_publishGatewayResult (dependencies : List GatewayDependencyV1)
    (hlease : db.lease? lease.leaseId = some lease) (hactive : lease.status = .active)
    (hstarted : lease.executionStartedMs ≠ none) (hunexpired : now < lease.expiresMs)
    (hsource : db.visibleResult? result.id = some result) :
    Makes now (publishGatewayResult blake3 now lease result dependencies) db := by
  unfold Makes publishGatewayResult
  rw [runs_bind]
  refine (runs_insertGatewayResult _).mono ?_ fun _ _ _ => trivial
  rintro _ t ⟨rfl, hfresh⟩
  simp only [runs_bind, runs_updateLeases, runs_refuseIf, runs_updateRequests, runs_pure, implies_true, true_and]
  intro _
  refine .single (Change.publish lease result (lease.publish blake3 _ result dependencies now) ?_)
  exact
    { found := hlease
      active := hactive
      started := hstarted
      unexpired := hunexpired
      source := hsource
      fresh := hfresh
      ready := rfl
      byLease := rfl
      sameBinding := rfl }

theorem Tables.visibleResult?_eq_some {resultId : String} (h : db.visibleResult? resultId = some result) :
    result.id = resultId := by
  obtain ⟨row, hrow, rfl⟩ := Option.map_eq_some_iff.1 h
  have := List.find?_some hrow
  simp only [decide_eq_true_eq] at this
  exact this.1

/-- A program that makes changes or, failing, none. -/
def MakesOrFails (now : Int) {α : Type} (x : Tx α) (db : Tables) : Prop :=
  Runs x db (fun _ => Changes now db) fun _ db' => db' = db

theorem Makes.atomically {x : Tx α} (h : Makes now x db) : MakesOrFails now (Lib.atomically x) db :=
  Runs.atomically h

theorem makes_acquireGatewayCall (binding : ValidatedGatewayReadV1) (owner callId leaseId : String) :
    MakesOrFails outside.now (acquireGatewayCall blake3 outside binding owner callId leaseId) db := by
  refine Makes.atomically ?_
  refine Runs.past_refuseIf fun _ => ?_
  rw [runs_ite]
  exact ⟨fun _ => makes_pure _,
    fun _ => (makes_expireGatewayLeases _).bind fun _ _ => makes_settleGatewayCall binding owner callId leaseId⟩

theorem makes_startGatewayExecution (leaseId owner : String) :
    MakesOrFails now (startGatewayExecution now leaseId owner) db := by
  refine Makes.atomically ?_
  refine Runs.past_refuseIf fun _ => Runs.past_get ?_
  cases db.lease? leaseId with
  | none => exact makes_pure _
  | some lease =>
    simp only [runs_ite, runs_pure, runs_bind, runs_updateLeases]
    refine ⟨fun _ => .refl, fun _ => ⟨fun _ => .refl, fun _ => ⟨fun _ => ?_, fun _ => ⟨fun _ => .refl, fun _ => ?_⟩⟩⟩⟩
    · exact makes_expireGatewayLeases _
    · exact ⟨fun _ => .single (.start leaseId), fun _ => .single (.start leaseId)⟩

theorem makes_heartbeatGatewayCall (leaseId owner : String) :
    MakesOrFails now (heartbeatGatewayCall now leaseId owner) db := by
  refine Makes.atomically ?_
  refine Runs.past_refuseIf fun _ => Runs.past_get ?_
  cases hlease : db.lease? leaseId with
  | none => exact makes_pure _
  | some lease =>
    obtain ⟨-, rfl⟩ := Tables.lease?_eq_some hlease
    simp only [runs_ite, runs_pure, runs_bind, runs_updateLeases]
    refine ⟨fun _ => .refl, fun _ => ⟨fun _ => .refl, fun _ => ⟨fun _ => makes_expireGatewayLeases _, fun _ => ?_⟩⟩⟩
    have hrenew : Change now db (db.extendLease lease.leaseId owner now _) := .renew lease owner _ hlease
      (min_le_right (saturatingAdd now gatewayLeaseTtlMs) lease.freshnessValidUntilMs)
    exact ⟨fun _ => .single hrenew, fun _ => .single hrenew⟩

theorem makes_observeGatewayCall (binding : ValidatedGatewayReadV1) :
    MakesOrFails outside.now (observeGatewayCall blake3 outside binding) db := by
  refine Makes.atomically ?_
  unfold Makes
  rw [runs_ite]
  exact ⟨fun _ => makes_pure _,
    fun _ => (makes_expireGatewayLeases _).bind fun _ _ => makes_readGatewayCall binding⟩

theorem makes_observeGatewayRouteProof (binding : ValidatedGatewayReadV1) (call : GatewayToolCallV1) :
    MakesOrFails outside.now (observeGatewayRouteProofV1 blake3 outside binding call) db := by
  refine Makes.atomically ?_
  unfold Makes
  rw [runs_ite, runs_ite, runs_bind, runs_okOr]
  refine ⟨fun _ => makes_pure _, fun _ => ⟨fun _ => makes_pure _, fun _ => ⟨fun _ => trivial, fun observedAtMs _ => ?_⟩⟩⟩
  exact (makes_expireGatewayLeases _).bind fun _ _ => makes_readRouteProof binding call observedAtMs

theorem makes_quarantineGatewayDivergence (hlease : db.lease? lease.leaseId = some lease)
    (hcompleted : lease.status = .completed) : Makes now (quarantineGatewayDivergence lease now) db := by
  unfold Makes quarantineGatewayDivergence
  simp only [runs_bind, runs_updateResults, runs_updateLeases, runs_get, runs_updateRequests]
  -- the calls are looked up after the update, which leaves both ids alone
  have hjoined : ((updateWhere (fun l : InflightLease => decide (l.callId = lease.callId))
      (fun l => { l with status := .quarantined, reason := some .divergentResult, completedMs := some now })
      db.inflightLeases).find? fun l => l.callId = lease.callId).map (·.leaseId) =
      (db.inflightLeases.find? fun l => l.callId = lease.callId).map (·.leaseId) := by
    induction db.inflightLeases with
    | nil => rfl
    | cons l leases ih =>
      by_cases hcall : l.callId = lease.callId
      · simp [updateWhere, hcall]
      · simpa [updateWhere, hcall] using ih
  rw [hjoined]
  exact .single (Change.diverge lease hlease hcompleted)

theorem makes_completeGatewayCall (leaseId resultId : String) :
    MakesOrFails outside.now (completeGatewayCall blake3 outside leaseId resultId) db := by
  refine Makes.atomically ?_
  apply Runs.past_get
  cases hlease : db.lease? leaseId with
  | none => exact makes_pure _
  | some lease =>
    obtain ⟨-, rfl⟩ := Tables.lease?_eq_some hlease
    cases hresult : db.visibleResult? resultId with
    | none => exact makes_pure _
    | some result =>
      obtain rfl := Tables.visibleResult?_eq_some hresult
      simp only [runs_ite, runs_pure]
      refine ⟨fun _ => .refl, fun _ => ⟨fun hcompleted => ⟨fun _ => .refl, fun _ => ?_⟩, fun _ => ⟨fun _ => .refl,
        fun hactive => ⟨fun _ => ?_, fun hunexpired => ⟨fun _ => .refl, fun hstarted => ⟨fun _ => .refl, fun _ => ?_⟩⟩⟩⟩⟩⟩
      · exact (makes_quarantineGatewayDivergence hlease hcompleted).bind fun _ _ => makes_pure _
      · exact (makes_expireGatewayLeases _).bind fun _ _ => makes_pure _
      · exact makes_publishGatewayResult _ hlease (not_not.1 hactive) hstarted (not_le.1 hunexpired) hresult

theorem makes_failGatewayCall (leaseId : String) (reason : GatewayFailureReason)
    (hids : UniqueKey (·.leaseId) db.inflightLeases) : MakesOrFails now (failGatewayCall now leaseId reason) db := by
  refine Makes.atomically ?_
  apply Runs.past_get
  cases hlease : db.lease? leaseId with
  | none => exact makes_pure _
  | some lease =>
    obtain ⟨hmem, rfl⟩ := Tables.lease?_eq_some hlease
    simp only [runs_ite, runs_pure, runs_bind, runs_updateLeases, runs_updateRequests]
    refine ⟨fun _ => .refl, fun hactive => ⟨fun _ => makes_expireGatewayLeases _, fun _ => ⟨fun hchanged => ?_,
      fun _ => .single (.settle lease.leaseId .failed reason (.inr rfl))⟩⟩⟩
    have hone : (db.inflightLeases.countP fun l => l.leaseId = lease.leaseId ∧ l.status = .active) = 1 :=
      hids.countP_eq_one hmem (by simpa using hactive) fun l _ hl => (of_decide_eq_true hl).1
    exact absurd hone hchanged

theorem makes_cancelGatewayFollower (callId : String) : MakesOrFails now (cancelGatewayFollower now callId) db := by
  refine Makes.atomically ?_
  apply Runs.past_get
  cases db.gatewayRequest? callId with
  | none => exact makes_pure _
  | some request =>
    simp only [runs_ite, runs_pure, runs_bind, runs_updateRequests]
    exact ⟨fun _ => .refl, fun _ => ⟨fun _ => .refl, fun _ => ⟨fun _ => .refl, fun _ => .single (.cancel callId)⟩⟩⟩

theorem makes_insertResult (preflight capacity : Bool) (id : String) (new : NewResult) :
    MakesOrFails now (insertResult blake3 preflight capacity id new) db := by
  refine Makes.atomically ?_
  refine Runs.past_refuseIf fun _ => ?_
  refine Runs.past_refuseIf fun _ => Runs.past_get ?_
  cases db.results.find? fun r => r.result.requestKey = new.requestKey with
  | some existing =>
    simp only [runs_bind, runs_refuseIf, runs_ite, runs_pure, quarantine, runs_modify]
    exact ⟨fun _ => trivial, fun _ => ⟨fun _ => .refl, fun _ => .single (.quarantineSource existing.result.id)⟩⟩
  | none =>
    unfold insertResultRow
    simp only [runs_bind, runs_get, runs_refuseIf, runs_pure, runs_modify]
    refine ⟨fun _ => trivial, fun _ => ⟨fun _ => trivial, fun hfresh => .single (.source _ ?_)⟩⟩
    intro r hr hid
    exact hfresh (.inr (List.any_eq_true.2 ⟨r, hr, by simpa using hid⟩))

/-- Every operation of the coordinator makes changes or fails. -/
theorem CoordinatorOp.makes (op : CoordinatorOp) (hids : UniqueKey (·.leaseId) db.inflightLeases) :
    MakesOrFails outside.now (op.perform blake3 outside) db := by
  unfold MakesOrFails
  cases op <;> unfold CoordinatorOp.perform <;> rw [runs_map]
  case acquire => exact makes_acquireGatewayCall ..
  case start => exact makes_startGatewayExecution ..
  case heartbeat => exact makes_heartbeatGatewayCall ..
  case observe => exact makes_observeGatewayCall ..
  case observeRouteProof => exact makes_observeGatewayRouteProof ..
  case complete => exact makes_completeGatewayCall ..
  case fail => exact makes_failGatewayCall _ _ hids
  case cancelFollower => exact makes_cancelGatewayFollower ..
  case store => exact makes_insertResult ..
  case quarantine resultId => exact .single (.quarantineSource resultId)

theorem CoordinatorOp.changes (op : CoordinatorOp) (outside : Outside) (hids : UniqueKey (·.leaseId) db.inflightLeases) :
    Changes outside.now db (op.next blake3 outside db) := by
  have hmakes : MakesOrFails outside.now (op.perform blake3 outside) db := op.makes hids
  unfold CoordinatorOp.next
  cases hrun : op.perform blake3 outside db with
  | ok reply db' => exact hmakes.ok hrun
  | error e db' => rw [hmakes.error hrun]

end

end Again.Gateway
