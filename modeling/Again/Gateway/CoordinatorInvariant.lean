import Again.Gateway.CoordinatorChanges

/-!
# The coordinator's invariant

At most one execution of a binding is under way, and none once it has a result.
The rows of the three tables say so together: a lease is active, or completed
with the result it published, or over; a call that still waits has joined an
active lease. Every change keeps this, so it holds after any operations of any
owners and processes. What it says about times needs a clock that does not go
back.
-/

namespace Again.Gateway

open Lib

variable {lease l : InflightLease} {status : GatewayLeaseStatus} {new : GatewayResult} {leaseId : String}

variable {db' db : Tables}

/-- The leases of a binding, in the order they were acquired. -/
def Tables.leasesOf (db : Tables) (bindingDigest : String) : List InflightLease :=
  db.inflightLeases.filter fun l => l.bindingDigest = bindingDigest

/-- The lease completed with this result, and no lease of the binding came after it. -/
structure InflightLease.Backs (l : InflightLease) (db : Tables) (r : GatewayResult) : Prop where
  lease : l.leaseId = r.leaseId
  binding : l.bindingDigest = r.bindingDigest
  completed : l.status = .completed
  names : l.gatewayResultId = some r.gatewayResultId
  last : l.lifecycleGeneration = (db.leasesOf r.bindingDigest).length

/-- The call was opened with the lease. -/
structure GatewayRequest.Leads (q : GatewayRequest) (l : InflightLease) : Prop where
  call : q.callId = l.callId
  leader : q.role = .leader
  joined : q.joinedLeaseId = some l.leaseId
  binding : q.bindingDigest = l.bindingDigest
  freshness : q.freshnessValidUntilMs = l.freshnessValidUntilMs

/-- The call joined this lease, which is still active. -/
structure GatewayRequest.Awaits (q : GatewayRequest) (l : InflightLease) : Prop where
  joined : q.joinedLeaseId = some l.leaseId
  active : l.status = .active
  binding : l.bindingDigest = q.bindingDigest

structure Coordinated (db : Tables) : Prop where
  leaseIds : UniqueKey (·.leaseId) db.inflightLeases
  leaseCalls : UniqueKey (·.callId) db.inflightLeases
  resultIds : UniqueKey (·.gatewayResultId) db.gatewayResults
  /-- Ready or quarantined, a binding has one result at most. -/
  resultBindings : UniqueKey (·.bindingDigest) db.gatewayResults
  activeOnce : ∀ l ∈ db.inflightLeases, ∀ l' ∈ db.inflightLeases,
    l.status = .active → l'.status = .active → l.bindingDigest = l'.bindingDigest → l = l'
  activeLast : ∀ l ∈ db.inflightLeases, l.status = .active → l.lifecycleGeneration = (db.leasesOf l.bindingDigest).length
  noneActive : ∀ r ∈ db.gatewayResults, ∀ l ∈ db.inflightLeases, l.bindingDigest = r.bindingDigest → l.status ≠ .active
  generations : ∀ bindingDigest, (db.leasesOf bindingDigest).map (·.lifecycleGeneration) =
    List.range' 1 (db.leasesOf bindingDigest).length
  backed : ∀ r ∈ db.gatewayResults, r.status = .ready → ∃ l ∈ db.inflightLeases, l.Backs db r
  awaited : ∀ q ∈ db.gatewayRequests, q.pending = true → ∃ l ∈ db.inflightLeases, q.Awaits l
  led : ∀ l ∈ db.inflightLeases, ∃ q ∈ db.gatewayRequests, q.Leads l

theorem coordinated_empty : Coordinated {} where
  leaseIds := List.nodup_nil
  leaseCalls := List.nodup_nil
  resultIds := List.nodup_nil
  resultBindings := List.nodup_nil
  activeOnce := by simp
  activeLast := by simp
  noneActive := by simp
  generations := by simp [Tables.leasesOf]
  backed := by simp
  awaited := by simp
  led := by simp

/-! ## Changes within the rows -/

/-- What no change of a lease touches; and a lease that is over stays over. -/
structure InflightLease.Kept (l l' : InflightLease) : Prop where
  leaseId : l'.leaseId = l.leaseId
  callId : l'.callId = l.callId
  binding : l'.bindingDigest = l.bindingDigest
  generation : l'.lifecycleGeneration = l.lifecycleGeneration
  freshness : l'.freshnessValidUntilMs = l.freshnessValidUntilMs
  active : l'.status = .active → l.status = .active

structure GatewayRequest.Kept (q q' : GatewayRequest) : Prop where
  callId : q'.callId = q.callId
  role : q'.role = q.role
  binding : q'.bindingDigest = q.bindingDigest
  freshness : q'.freshnessValidUntilMs = q.freshnessValidUntilMs
  joined : q'.joinedLeaseId = q.joinedLeaseId
  pending : q'.pending = true → q.pending = true

/-- What no change of a result touches; and a quarantined result stays so. -/
structure GatewayResult.Kept (r r' : GatewayResult) : Prop where
  id : r'.gatewayResultId = r.gatewayResultId
  binding : r'.bindingDigest = r.bindingDigest
  leaseId : r'.leaseId = r.leaseId
  ready : r'.status = .ready → r.status = .ready

theorem InflightLease.Kept.refl (l : InflightLease) : l.Kept l := ⟨rfl, rfl, rfl, rfl, rfl, id⟩

theorem GatewayRequest.Kept.refl (q : GatewayRequest) : q.Kept q := ⟨rfl, rfl, rfl, rfl, rfl, id⟩

theorem GatewayResult.Kept.refl (r : GatewayResult) : r.Kept r := ⟨rfl, rfl, rfl, fun h => h⟩

section Rows
variable {f : InflightLease → InflightLease} {g : GatewayRequest → GatewayRequest} {k : GatewayResult → GatewayResult}

theorem map_leasesOf (hleases : db'.inflightLeases = db.inflightLeases.map f)
    (hL : ∀ l ∈ db.inflightLeases, l.Kept (f l)) (bindingDigest : String) :
    (db'.leasesOf bindingDigest).map (·.lifecycleGeneration) = (db.leasesOf bindingDigest).map (·.lifecycleGeneration) := by
  unfold Tables.leasesOf
  rw [hleases]
  exact map_filter_map _ (fun l hl => by rw [(hL l hl).binding]) fun l hl => (hL l hl).generation

/-- A change that writes rows in place keeps the invariant when the lease of a
result that stays ready stays completed, and a call that still waits waits for a
lease that stays active. -/
theorem Coordinated.map (h : Coordinated db)
    (hleases : db'.inflightLeases = db.inflightLeases.map f) (hL : ∀ l ∈ db.inflightLeases, l.Kept (f l))
    (hrequests : db'.gatewayRequests = db.gatewayRequests.map g) (hQ : ∀ q ∈ db.gatewayRequests, q.Kept (g q))
    (hresults : db'.gatewayResults = db.gatewayResults.map k) (hR : ∀ r ∈ db.gatewayResults, r.Kept (k r))
    (hbacked : ∀ r ∈ db.gatewayResults, (k r).status = .ready → ∀ l ∈ db.inflightLeases, l.Backs db r →
      (f l).status = .completed ∧ (f l).gatewayResultId = l.gatewayResultId)
    (hawaited : ∀ q ∈ db.gatewayRequests, (g q).pending = true → ∀ l ∈ db.inflightLeases, q.Awaits l →
      (f l).status = .active) : Coordinated db' := by
  have hof := map_leasesOf hleases hL
  have hlength (b : String) : (db'.leasesOf b).length = (db.leasesOf b).length := by
    simpa using congrArg List.length (hof b)
  refine
    { leaseIds := ?_, leaseCalls := ?_, resultIds := ?_, resultBindings := ?_, activeOnce := ?_, activeLast := ?_
      noneActive := ?_, generations := ?_, backed := ?_, awaited := ?_, led := ?_ }
  · rw [hleases]
    exact h.leaseIds.map_of_mem fun l hl => (hL l hl).leaseId
  · rw [hleases]
    exact h.leaseCalls.map_of_mem fun l hl => (hL l hl).callId
  · rw [hresults]
    exact h.resultIds.map_of_mem fun r hr => (hR r hr).id
  · rw [hresults]
    exact h.resultBindings.map_of_mem fun r hr => (hR r hr).binding
  · rw [hleases]
    intro l hl l' hl' hactive hactive' hbinding
    obtain ⟨old, hold, rfl⟩ := List.mem_map.1 hl
    obtain ⟨old', hold', rfl⟩ := List.mem_map.1 hl'
    have hsame : old.bindingDigest = old'.bindingDigest := by
      rw [← (hL old hold).binding, ← (hL old' hold').binding, hbinding]
    rw [h.activeOnce old hold old' hold' ((hL old hold).active hactive) ((hL old' hold').active hactive') hsame]
  · rw [hleases]
    intro l hl hactive
    obtain ⟨old, hold, rfl⟩ := List.mem_map.1 hl
    rw [(hL old hold).generation, (hL old hold).binding, hlength]
    exact h.activeLast old hold ((hL old hold).active hactive)
  · rw [hleases, hresults]
    intro r hr l hl hbinding hactive
    obtain ⟨old, hold, rfl⟩ := List.mem_map.1 hl
    obtain ⟨row, hrow, rfl⟩ := List.mem_map.1 hr
    rw [(hL old hold).binding, (hR row hrow).binding] at hbinding
    exact h.noneActive row hrow old hold hbinding ((hL old hold).active hactive)
  · intro b
    rw [hof b, hlength b]
    exact h.generations b
  · rw [hresults, hleases]
    intro r hr hready
    obtain ⟨row, hrow, rfl⟩ := List.mem_map.1 hr
    have hkept := hR row hrow
    obtain ⟨l, hl, hbacks⟩ := h.backed row hrow (hkept.ready hready)
    obtain ⟨hcompleted, hnames⟩ := hbacked row hrow hready l hl hbacks
    refine ⟨f l, List.mem_map_of_mem hl, ?_⟩
    exact
      { lease := by rw [(hL l hl).leaseId, hbacks.lease, hkept.leaseId]
        binding := by rw [(hL l hl).binding, hbacks.binding, hkept.binding]
        completed := hcompleted
        names := by rw [hnames, hbacks.names, hkept.id]
        last := by rw [(hL l hl).generation, hbacks.last, hkept.binding, hlength] }
  · rw [hrequests, hleases]
    intro q hq hpending
    obtain ⟨old, hold, rfl⟩ := List.mem_map.1 hq
    have hkept := hQ old hold
    obtain ⟨l, hl, hawaits⟩ := h.awaited old hold (hkept.pending hpending)
    refine ⟨f l, List.mem_map_of_mem hl, ?_⟩
    exact
      { joined := by rw [hkept.joined, hawaits.joined, (hL l hl).leaseId]
        active := hawaited old hold hpending l hl hawaits
        binding := by rw [(hL l hl).binding, hawaits.binding, hkept.binding] }
  · rw [hleases, hrequests]
    intro l hl
    obtain ⟨old, hold, rfl⟩ := List.mem_map.1 hl
    obtain ⟨q, hq, hleads⟩ := h.led old hold
    have hkept := hQ q hq
    refine ⟨g q, List.mem_map_of_mem hq, ?_⟩
    exact
      { call := by rw [hkept.callId, hleads.call, (hL old hold).callId]
        leader := by rw [hkept.role, hleads.leader]
        joined := by rw [hkept.joined, hleads.joined, (hL old hold).leaseId]
        binding := by rw [hkept.binding, hleads.binding, (hL old hold).binding]
        freshness := by rw [hkept.freshness, hleads.freshness, (hL old hold).freshness] }

end Rows

/-! ## One lemma per change -/

section Changes
variable {now : Int}

/-- A call that still waits had not joined the lease that ended. -/
theorem GatewayRequest.Awaits.other {q settled : GatewayRequest} (h : q.Awaits l)
    (hpending : (if q.pendingOn leaseId then settled else q).pending = true) (hsettled : settled.pending = false) :
    l.leaseId ≠ leaseId := by
  intro hid
  split at hpending
  · simp [hsettled] at hpending
  · next hjoined => exact hjoined (by simp [GatewayRequest.pendingOn, h.joined, hid, hpending])

theorem Coordinated.settleLease (h : Coordinated db) (leaseId : String) (reason : GatewayFailureReason)
    (hstatus : status = .expired ∨ status = .failed) : Coordinated (db.settleLease leaseId status reason now) := by
  refine h.map (k := id) rfl (forall_write .refl fun l => ⟨rfl, rfl, rfl, rfl, rfl, ?_⟩) rfl
    (forall_write .refl fun q => ⟨rfl, rfl, rfl, rfl, rfl, nofun⟩) (List.map_id _).symm (fun r _ => .refl r) ?_ ?_
  · rcases hstatus with rfl | rfl <;> exact nofun
  · intro r _ _ l _ hbacks
    simp [hbacks.completed]
  · intro q _ hpending l _ hawaits
    simp [hawaits.other hpending rfl, hawaits.active]

/-- A change that moves only times of a lease. -/
theorem Coordinated.mapLeases (h : Coordinated db) {sel : InflightLease → Bool} {write : InflightLease → InflightLease}
    (hkept : ∀ l : InflightLease, l.Kept (write l))
    (hwrite : ∀ l, (write l).status = l.status ∧ (write l).gatewayResultId = l.gatewayResultId) :
    Coordinated { db with inflightLeases := updateWhere sel write db.inflightLeases } := by
  refine h.map (g := id) (k := id) rfl (forall_write .refl hkept) (List.map_id _).symm (fun q _ => .refl q)
    (List.map_id _).symm (fun r _ => .refl r) ?_ ?_
  · intro r _ _ l _ hbacks
    split <;> simp [hwrite l, hbacks.completed]
  · intro q _ _ l _ hawaits
    split <;> simp [hwrite l, hawaits.active]

theorem Coordinated.cancelRequest (h : Coordinated db) (callId : String) :
    Coordinated (db.cancelRequest callId now) := by
  refine h.map (f := id) (k := id) (List.map_id _).symm (fun l _ => .refl l) rfl
    (forall_write .refl fun q => ⟨rfl, rfl, rfl, rfl, rfl, nofun⟩) (List.map_id _).symm (fun r _ => .refl r) ?_ ?_
  · intro r _ _ l _ hbacks
    exact ⟨hbacks.completed, rfl⟩
  · intro q _ _ l _ hawaits
    exact hawaits.active

/-- A result that is still ready is not one that was quarantined. -/
theorem GatewayResult.not_quarantined {r out : GatewayResult} {p : Prop} [Decidable p]
    (hready : (if decide (p ∧ r.status = .ready) then out else r).status = .ready) (hout : out.status = .quarantined) :
    ¬ p := by
  intro hp
  by_cases hstatus : r.status = .ready
  · simp [hp, hstatus, hout] at hready
  · simp [hstatus] at hready

theorem Coordinated.quarantineResult (h : Coordinated db) (gatewayResultId : String) :
    Coordinated (db.quarantineResult gatewayResultId now) := by
  refine h.map rfl (forall_write .refl fun l => ⟨rfl, rfl, rfl, rfl, rfl, nofun⟩) rfl
    (forall_write .refl fun q => ⟨rfl, rfl, rfl, rfl, rfl, nofun⟩) rfl
    (forall_write .refl fun r => ⟨rfl, rfl, rfl, nofun⟩) ?_ ?_
  · -- the lease of another result names that result
    intro r hr hready l _ hbacks
    simp [hbacks.names, hbacks.completed, GatewayResult.not_quarantined hready rfl]
  · intro q _ _ l _ hawaits
    simp [hawaits.active]

theorem Coordinated.diverge (h : Coordinated db) (hlease : db.lease? lease.leaseId = some lease) :
    Coordinated (db.diverge lease now) := by
  have hmem : lease ∈ db.inflightLeases := (Tables.lease?_eq_some hlease).1
  refine h.map rfl (forall_write .refl fun l => ⟨rfl, rfl, rfl, rfl, rfl, nofun⟩) rfl
    (forall_write .refl fun q => ⟨rfl, rfl, rfl, rfl, rfl, nofun⟩) rfl
    (forall_write .refl fun r => ⟨rfl, rfl, rfl, nofun⟩) ?_ ?_
  · -- the lease of another binding's result is another lease
    intro r hr hready l hl hbacks
    have hcall : l.callId ≠ lease.callId := by
      intro hcall
      have hsame : l = lease := h.leaseCalls.eq_of_mem hl hmem hcall
      exact GatewayResult.not_quarantined hready rfl (by rw [← hbacks.binding, hsame])
    simp [hcall, hbacks.completed]
  · -- the calls of the lease are settled with it
    intro q hq hpending l hl hawaits
    by_cases hcall : l.callId = lease.callId
    · have hsame : l = lease := h.leaseCalls.eq_of_mem hl hmem hcall
      have hfind : (db.inflightLeases.find? fun l => l.callId = lease.callId) = some lease :=
        h.leaseCalls.find?_eq_some hmem rfl
      simp [hfind, hawaits.joined, hsame, GatewayRequest.pending] at hpending
    · simp [hcall, hawaits.active]

theorem completeLease_kept {gatewayResultId : String} : ∀ l ∈ db.inflightLeases,
    l.Kept (if decide (l.leaseId = leaseId ∧ l.status = .active ∧ l.executionStartedMs ≠ none) then
      { l with status := .completed, gatewayResultId := some gatewayResultId, completedMs := some now } else l) :=
  forall_write .refl fun _ => ⟨rfl, rfl, rfl, rfl, rfl, nofun⟩

theorem Coordinated.completeLease (h : Coordinated db) (leaseId gatewayResultId : String) :
    Coordinated (db.completeLease leaseId gatewayResultId now) := by
  refine h.map (k := id) rfl completeLease_kept rfl (forall_write .refl fun q => ⟨rfl, rfl, rfl, rfl, rfl, nofun⟩)
    (List.map_id _).symm (fun r _ => .refl r) ?_ ?_
  · intro r _ _ l _ hbacks
    simp [hbacks.completed]
  · intro q _ hpending l _ hawaits
    simp [hawaits.other hpending rfl, hawaits.active]

/-- A new result needs a completed lease of its binding, the last one, and no result beside it. -/
theorem Coordinated.addResult (h : Coordinated db)
    (hfresh : ∀ r ∈ db.gatewayResults, r.gatewayResultId ≠ new.gatewayResultId)
    (hbinding : ∀ r ∈ db.gatewayResults, r.bindingDigest ≠ new.bindingDigest)
    (hinactive : ∀ l ∈ db.inflightLeases, l.bindingDigest = new.bindingDigest → l.status ≠ .active)
    (hbacked : ∃ l ∈ db.inflightLeases, l.Backs db new) : Coordinated (db.addResult new) := by
  refine { h with
    resultIds := h.resultIds.append hfresh, resultBindings := h.resultBindings.append hbinding
    noneActive := ?_, backed := ?_ }
  · exact List.forall_mem_append.2 ⟨h.noneActive, List.forall_mem_singleton.2 hinactive⟩
  · intro r hr hready
    have hbacks : ∃ l ∈ db.inflightLeases, l.Backs db r := by
      rcases mem_concat.1 hr with hold | rfl
      · exact h.backed r hold hready
      · exact hbacked
    obtain ⟨l, hl, hbacks⟩ := hbacks
    exact ⟨l, hl, { hbacks with }⟩

theorem Coordinated.publish (h : Coordinated db) {result : StoredResult} (hp : Publishes db now lease result new) :
    Coordinated ((db.completeLease lease.leaseId new.gatewayResultId now).addResult new) := by
  have hmem : lease ∈ db.inflightLeases := (Tables.lease?_eq_some hp.found).1
  have hone : ∀ r ∈ db.gatewayResults, r.bindingDigest ≠ new.bindingDigest := by
    intro r hr hbinding
    exact h.noneActive r hr lease hmem (by rw [hbinding, hp.sameBinding]) hp.active
  have hdone : Coordinated (db.completeLease lease.leaseId new.gatewayResultId now) := h.completeLease _ _
  refine hdone.addResult hp.fresh hone ?_ ?_
  · -- the only active lease of the binding is the one that completes
    intro l hl hbinding hactive
    obtain ⟨old, hold, rfl⟩ := mem_updateWhere.1 hl
    by_cases hsel : decide (old.leaseId = lease.leaseId ∧ old.status = .active ∧ old.executionStartedMs ≠ none) = true
    · rw [if_pos hsel] at hactive
      cases hactive
    · rw [if_neg hsel] at hactive hbinding
      have hsame : old = lease := h.activeOnce old hold lease hmem hactive hp.active (by rw [hbinding, hp.sameBinding])
      subst hsame
      exact hsel (by simp [hp.active, hp.started])
  · have hsel : decide (lease.leaseId = lease.leaseId ∧ lease.status = .active ∧
        lease.executionStartedMs ≠ none) = true := by
      simp [hp.active, hp.started]
    have hlength : ((db.completeLease lease.leaseId new.gatewayResultId now).leasesOf new.bindingDigest).length =
        (db.leasesOf new.bindingDigest).length := by
      have hleases : (db.completeLease lease.leaseId new.gatewayResultId now).inflightLeases =
          db.inflightLeases.map _ := rfl
      simpa using congrArg List.length (map_leasesOf hleases completeLease_kept new.bindingDigest)
    refine ⟨_, mem_updateWhere_of_sel hmem hsel, ?_⟩
    exact
      { lease := hp.byLease.symm
        binding := hp.sameBinding.symm
        completed := rfl
        names := rfl
        last := by rw [hlength, hp.sameBinding]; exact h.activeLast lease hmem hp.active }

/-- The generations of a binding's leases say how many there have been. -/
theorem Coordinated.maxGeneration (h : Coordinated db) (bindingDigest : String) :
    (db.maxGeneration bindingDigest).getD 0 = (db.leasesOf bindingDigest).length := by
  have hgenerations := h.generations bindingDigest
  unfold Tables.leasesOf at hgenerations
  unfold Tables.maxGeneration Tables.leasesOf
  rw [hgenerations]
  generalize (db.inflightLeases.filter fun l => l.bindingDigest = bindingDigest).length = n
  cases n with
  | zero => rfl
  | succ n =>
    have hmax : (List.range' 1 (n + 1)).max? = some (n + 1) := by
      rw [List.max?_eq_some_iff]
      refine ⟨by simp [List.mem_range'_1], fun g hg => ?_⟩
      have := List.mem_range'_1.1 hg
      omega
    rw [hmax, Option.getD_some]

theorem Coordinated.addRequest (h : Coordinated db) {new : GatewayRequest}
    (hpending : new.pending = true → ∃ l ∈ db.inflightLeases, new.Awaits l) : Coordinated (db.addRequest new) := by
  refine { h with backed := ?_, awaited := ?_, led := ?_ }
  · intro r hr hready
    obtain ⟨l, hl, hbacks⟩ := h.backed r hr hready
    exact ⟨l, hl, { hbacks with }⟩
  · exact List.forall_mem_append.2 ⟨h.awaited, List.forall_mem_singleton.2 hpending⟩
  · intro l hl
    obtain ⟨q, hq, hleads⟩ := h.led l hl
    exact ⟨q, List.mem_append_left _ hq, hleads⟩

theorem leasesOf_addLease (request : GatewayRequest) (lease : InflightLease) (bindingDigest : String) :
    ((db.addRequest request).addLease lease).leasesOf bindingDigest =
      db.leasesOf bindingDigest ++ if lease.bindingDigest = bindingDigest then [lease] else [] := by
  unfold Tables.leasesOf Tables.addLease
  by_cases hbinding : lease.bindingDigest = bindingDigest <;> simp [hbinding, Tables.addRequest]

theorem Coordinated.lead (h : Coordinated db) {request : GatewayRequest} (ho : OpensLease db now request lease) :
    Coordinated ((db.addRequest request).addLease lease) := by
  have hlast : lease.lifecycleGeneration = (db.leasesOf lease.bindingDigest).length + 1 := by
    rw [ho.generation, h.maxGeneration]
  have hother {b : String} (hb : lease.bindingDigest ≠ b) :
      ((db.addRequest request).addLease lease).leasesOf b = db.leasesOf b := by
    rw [leasesOf_addLease, if_neg hb, List.append_nil]
  have hmem {l : InflightLease} (hl : l ∈ ((db.addRequest request).addLease lease).inflightLeases) :
      l ∈ db.inflightLeases ∨ l = lease := by
    simpa [Tables.addLease, Tables.addRequest] using hl
  refine
    { leaseIds := h.leaseIds.append ho.freshLease, leaseCalls := h.leaseCalls.append ho.freshCall
      resultIds := h.resultIds, resultBindings := h.resultBindings, activeOnce := ?_, activeLast := ?_
      noneActive := ?_, generations := ?_, backed := ?_, awaited := ?_, led := ?_ }
  · intro l hl l' hl' hactive hactive' hbinding
    rcases hmem hl with hold | rfl <;> rcases hmem hl' with hold' | rfl
    · exact h.activeOnce l hold l' hold' hactive hactive' hbinding
    · exact absurd hactive (ho.noActive l hold hbinding)
    · exact absurd hactive' (ho.noActive l' hold' hbinding.symm)
    · rfl
  · intro l hl hactive
    rcases hmem hl with hold | rfl
    · have hb : lease.bindingDigest ≠ l.bindingDigest := fun hb => ho.noActive l hold hb.symm hactive
      rw [hother hb]
      exact h.activeLast l hold hactive
    · rw [leasesOf_addLease, if_pos rfl, List.length_append, List.length_singleton, hlast]
  · intro r hr l hl hbinding
    rcases hmem hl with hold | rfl
    · exact h.noneActive r hr l hold hbinding
    · exact absurd hbinding.symm (ho.noResult r hr)
  · intro b
    by_cases hb : lease.bindingDigest = b
    · subst hb
      rw [leasesOf_addLease, if_pos rfl, List.map_append, h.generations, List.length_append, List.length_singleton,
        List.range'_1_concat, List.map_singleton, hlast, Nat.add_comm 1]
    · rw [hother hb]
      exact h.generations b
  · intro r hr hready
    obtain ⟨l, hl, hbacks⟩ := h.backed r hr hready
    have hb : lease.bindingDigest ≠ r.bindingDigest := fun hb => ho.noResult r hr hb.symm
    refine ⟨l, List.mem_append_left _ hl, hbacks.lease, hbacks.binding, hbacks.completed, hbacks.names, ?_⟩
    rw [hother hb]
    exact hbacks.last
  · intro q hq hpending
    rcases mem_concat.1 hq with hold | rfl
    · obtain ⟨l, hl, hawaits⟩ := h.awaited q hold hpending
      exact ⟨l, List.mem_append_left _ hl, hawaits⟩
    · exact ⟨lease, by simp [Tables.addLease], ho.joined, ho.active, ho.sameBinding.symm⟩
  · intro l hl
    rcases hmem hl with hold | rfl
    · obtain ⟨q, hq, hleads⟩ := h.led l hold
      exact ⟨q, List.mem_append_left _ hq, hleads⟩
    · exact ⟨request, by simp [Tables.addLease, Tables.addRequest], ho.call, ho.leads, ho.joined, ho.sameBinding,
        ho.sameFreshness⟩

/-- Only three tables are the coordinator's. -/
theorem Coordinated.congr (h : Coordinated db) (hleases : db'.inflightLeases = db.inflightLeases)
    (hrequests : db'.gatewayRequests = db.gatewayRequests) (hresults : db'.gatewayResults = db.gatewayResults) :
    Coordinated db' :=
  h.map (f := id) (g := id) (k := id) (hleases.trans (List.map_id _).symm) (fun l _ => .refl l)
    (hrequests.trans (List.map_id _).symm) (fun q _ => .refl q) (hresults.trans (List.map_id _).symm)
    (fun r _ => .refl r) (fun _ _ _ _ _ hbacks => ⟨hbacks.completed, rfl⟩) fun _ _ _ _ _ hawaits => hawaits.active

/-- Every change keeps the invariant. -/
theorem Coordinated.change (h : Coordinated db) (hchange : Change now db db') : Coordinated db' := by
  cases hchange with
  | settle leaseId status reason hstatus => exact h.settleLease leaseId reason hstatus
  | start leaseId | renew lease owner expiresMs _ _ =>
    exact h.mapLeases (fun _ => ⟨rfl, rfl, rfl, rfl, rfl, id⟩) fun _ => ⟨rfl, rfl⟩
  | quarantineResult gatewayResultId => exact h.quarantineResult gatewayResultId
  | diverge lease hlease _ => exact h.diverge hlease
  | cancel callId => exact h.cancelRequest callId
  | request new _ hpending =>
    refine h.addRequest fun hstill => ?_
    obtain ⟨l, hl, hjoined, hactive, hbinding⟩ := hpending hstill
    exact ⟨l, hl, hjoined, hactive, hbinding⟩
  | lead request lease hopens _ => exact h.lead hopens
  | publish lease result new hpublishes => exact h.publish hpublishes
  | quarantineSource resultId | source result _ => exact h.congr rfl rfl rfl

theorem Coordinated.changes (h : Coordinated db) (hchanges : Changes now db db') : Coordinated db' := by
  induction hchanges with
  | refl => exact h
  | tail _ hchange ih => exact ih.change hchange

/-! ## Times -/

/-- The times of a lease, as far as the clock has come. -/
structure InflightLease.Timed (clock : Int) (l : InflightLease) : Prop where
  acquired : l.acquiredMs ≤ clock
  started : ∀ started, l.executionStartedMs = some started → l.acquiredMs ≤ started ∧ started ≤ clock
  expires : l.expiresMs ≤ l.freshnessValidUntilMs
  completed : l.status = .completed → ∃ started completed, l.executionStartedMs = some started ∧
    l.completedMs = some completed ∧ started ≤ completed ∧ completed < l.expiresMs

theorem InflightLease.Timed.mono {clock : Int} (h : l.Timed clock) (hclock : clock ≤ now) :
    l.Timed now where
  acquired := h.acquired.trans hclock
  started := fun started hs => ⟨(h.started started hs).1, (h.started started hs).2.trans hclock⟩
  __ := h

/-- A lease that ends without a result has only its past times to keep. -/
theorem InflightLease.Timed.over (h : l.Timed now) (hstatus : status ≠ .completed) (reason : Option GatewayRowReason) :
    InflightLease.Timed now { l with status, reason, completedMs := some now } where
  __ := h
  completed := fun hcompleted => absurd hcompleted hstatus

/-- Every change made at `now` keeps the times of the leases. -/
theorem Coordinated.timed (h : Coordinated db) (hchange : Change now db db')
    (htimed : ∀ l ∈ db.inflightLeases, l.Timed now) : ∀ l ∈ db'.inflightLeases, l.Timed now := by
  cases hchange with
  | settle leaseId status reason hstatus =>
    refine forall_updateWhere htimed fun l _ _ hl => hl.over ?_ _
    rcases hstatus with rfl | rfl <;> exact fun hcompleted => by cases hcompleted
  | start leaseId =>
    refine forall_updateWhere htimed fun l _ hsel hl => ?_
    have hactive : l.status = .active := (of_decide_eq_true hsel).2.1
    refine ⟨hl.acquired, ?_, hl.expires, fun hcompleted => ?_⟩
    · rintro started ⟨⟩
      exact ⟨hl.acquired, le_refl now⟩
    · rw [show l.status = .completed from hcompleted] at hactive
      cases hactive
  | renew lease owner expiresMs hlease hexpires =>
    obtain ⟨hmem, -⟩ := Tables.lease?_eq_some hlease
    refine forall_updateWhere htimed fun l hl hsel htimes => ?_
    obtain ⟨hid, -, hactive, -⟩ := of_decide_eq_true hsel
    have hsame : l = lease := h.leaseIds.eq_of_mem hl hmem hid
    refine ⟨htimes.acquired, htimes.started, ?_, fun hcompleted => ?_⟩
    · rw [hsame]
      exact hexpires
    · rw [show l.status = .completed from hcompleted] at hactive
      cases hactive
  | quarantineResult | diverge => exact forall_updateWhere htimed fun l _ _ hl => hl.over (by decide) _
  | cancel callId | request new _ hpending => exact htimed
  | lead request lease hopens _ =>
    refine List.forall_mem_append.2 ⟨htimed, List.forall_mem_singleton.2 ?_⟩
    refine ⟨le_of_eq hopens.acquired, ?_, hopens.expires, fun hcompleted => ?_⟩
    · intro started hstarted
      rw [hopens.notStarted] at hstarted
      cases hstarted
    · rw [hopens.active] at hcompleted
      cases hcompleted
  | publish lease result new hp =>
    obtain ⟨hmem, -⟩ := Tables.lease?_eq_some hp.found
    refine forall_updateWhere htimed fun l hl hsel htimes => ?_
    obtain ⟨hid, -, hstarted⟩ := of_decide_eq_true hsel
    have hsame : l = lease := h.leaseIds.eq_of_mem hl hmem hid
    obtain ⟨started, hs⟩ := Option.ne_none_iff_exists'.1 hstarted
    refine { htimes with completed := fun _ => ?_ }
    refine ⟨started, now, hs, rfl, (htimes.started started hs).2, ?_⟩
    rw [hsame]
    exact hp.unexpired
  | quarantineSource resultId | source result _ => exact htimed

theorem Coordinated.timed_changes (h : Coordinated db) (hchanges : Changes now db db')
    (htimed : ∀ l ∈ db.inflightLeases, l.Timed now) : ∀ l ∈ db'.inflightLeases, l.Timed now := by
  induction hchanges with
  | refl => exact htimed
  | tail hbefore hchange ih => exact (h.changes hbefore).timed hchange ih

end Changes

/-! ## Runs -/

section
variable (blake3 : Bytes → Octets 32)

theorem Coordinated.next (h : Coordinated db) (op : CoordinatorOp) (outside : Outside) :
    Coordinated (op.next blake3 outside db) := h.changes (op.changes outside h.leaseIds)

/-- After any operations, at whatever times, the tables are coordinated. -/
theorem coordinated_coordinate (h : Coordinated db) (steps : List (Outside × CoordinatorOp)) :
    Coordinated (coordinate blake3 db steps) := by
  induction steps generalizing db with
  | nil => exact h
  | cons step steps ih => exact ih (h.next blake3 step.2 step.1)

theorem timed_coordinate (h : Coordinated db) (clock : Int) (steps : List (Outside × CoordinatorOp))
    (hclock : List.IsChain (· ≤ ·) (clock :: steps.map (·.1.now))) (htimed : ∀ l ∈ db.inflightLeases, l.Timed clock) :
    ∃ clock', ∀ l ∈ (coordinate blake3 db steps).inflightLeases, l.Timed clock' := by
  induction steps generalizing db clock with
  | nil => exact ⟨clock, htimed⟩
  | cons step steps ih =>
    obtain ⟨hle, hrest⟩ : clock ≤ step.1.now ∧ List.IsChain (· ≤ ·) (step.1.now :: steps.map (·.1.now)) := by
      simpa using hclock
    refine ih (h.next blake3 step.2 step.1) step.1.now hrest ?_
    exact h.timed_changes (step.2.changes step.1 h.leaseIds) fun l hl => (htimed l hl).mono hle

end

/-- What holds of a binding: one execution at a time, none beside a result, and
every result from the binding's last lease, completed in time. -/
structure OneExecution (db : Tables) (bindingDigest : String) : Prop where
  oneActive : (db.inflightLeases.countP fun l => l.bindingDigest = bindingDigest ∧ l.status = .active) ≤ 1
  oneReady : (db.gatewayResults.countP fun r => r.bindingDigest = bindingDigest ∧ r.status = .ready) ≤ 1
  noneActive : (∃ r ∈ db.gatewayResults, r.bindingDigest = bindingDigest) →
    ∀ l ∈ db.inflightLeases, l.bindingDigest = bindingDigest → l.status ≠ .active
  generations : (db.leasesOf bindingDigest).map (·.lifecycleGeneration) =
    List.range' 1 (db.leasesOf bindingDigest).length
  backed : ∀ r ∈ db.gatewayResults, r.bindingDigest = bindingDigest → r.status = .ready →
    ∃ l ∈ db.leasesOf bindingDigest, l.leaseId = r.leaseId ∧ l.status = .completed ∧
      l.gatewayResultId = some r.gatewayResultId ∧
      (∀ l' ∈ db.leasesOf bindingDigest, l'.lifecycleGeneration ≤ l.lifecycleGeneration) ∧
      ∃ leader ∈ db.gatewayRequests, leader.callId = l.callId ∧ leader.role = .leader ∧
        ∃ started completed, l.executionStartedMs = some started ∧ l.completedMs = some completed ∧
          l.acquiredMs ≤ started ∧ started ≤ completed ∧ completed < l.expiresMs ∧
          l.expiresMs ≤ leader.freshnessValidUntilMs
  awaited : ∀ q ∈ db.gatewayRequests, q.bindingDigest = bindingDigest → q.status = .inflight ∨ q.status = .waiting →
    ∃ l ∈ db.inflightLeases, q.joinedLeaseId = some l.leaseId ∧ l.status = .active ∧ l.bindingDigest = bindingDigest

theorem Coordinated.oneExecution (h : Coordinated db) {clock : Int} (htimed : ∀ l ∈ db.inflightLeases, l.Timed clock)
    (bindingDigest : String) : OneExecution db bindingDigest := by
  refine
    { oneActive := ?_, oneReady := ?_, noneActive := ?_, generations := h.generations bindingDigest, backed := ?_
      awaited := ?_ }
  · refine h.leaseIds.countP_le_one fun l hl l' hl' hsel hsel' => ?_
    obtain ⟨hbinding, hactive⟩ := of_decide_eq_true hsel
    obtain ⟨hbinding', hactive'⟩ := of_decide_eq_true hsel'
    rw [h.activeOnce l hl l' hl' hactive hactive' (by rw [hbinding, hbinding'])]
  · refine h.resultBindings.countP_le_one fun r _ r' _ hsel hsel' => ?_
    rw [(of_decide_eq_true hsel).1, (of_decide_eq_true hsel').1]
  · rintro ⟨r, hr, rfl⟩ l hl hbinding
    exact h.noneActive r hr l hl hbinding
  · rintro r hr rfl hready
    obtain ⟨l, hl, hbacks⟩ := h.backed r hr hready
    obtain ⟨started, completed, hs, hc, hle, hlt⟩ := (htimed l hl).completed hbacks.completed
    obtain ⟨leader, hleader, hleads⟩ := h.led l hl
    have hof : l ∈ db.leasesOf r.bindingDigest := List.mem_filter.2 ⟨hl, by simpa using hbacks.binding⟩
    refine ⟨l, hof, hbacks.lease, hbacks.completed, hbacks.names, ?_, leader, hleader, hleads.call, hleads.leader,
      started, completed, hs, hc, ((htimed l hl).started started hs).1, hle, hlt, ?_⟩
    · intro l' hl'
      have hgeneration : l'.lifecycleGeneration ∈ List.range' 1 (db.leasesOf r.bindingDigest).length := by
        rw [← h.generations]
        exact List.mem_map_of_mem hl'
      have := List.mem_range'_1.1 hgeneration
      rw [hbacks.last]
      omega
    · rw [hleads.freshness]
      exact (htimed l hl).expires
  · rintro q hq rfl hstatus
    obtain ⟨l, hl, hawaits⟩ := h.awaited q hq (by simpa [GatewayRequest.pending] using hstatus)
    exact ⟨l, hl, hawaits.joined, hawaits.active, hawaits.binding⟩

/-- After any operations of any owners and processes, under a clock that does
not go back, every binding has at most one execution. -/
theorem coordinate_oneExecution (blake3 : Bytes → Octets 32) (steps : List (Outside × CoordinatorOp))
    (hclock : List.IsChain (· ≤ ·) (steps.map (·.1.now))) (bindingDigest : String) :
    OneExecution (coordinate blake3 {} steps) bindingDigest := by
  cases steps with
  | nil =>
    have htimed : ∀ l ∈ ({} : Tables).inflightLeases, l.Timed 0 := by simp
    exact coordinated_empty.oneExecution htimed bindingDigest
  | cons step steps =>
    obtain ⟨clock, htimed⟩ := timed_coordinate blake3 coordinated_empty step.1.now (step :: steps)
      (by simpa using hclock) (by simp)
    exact (coordinated_coordinate blake3 coordinated_empty _).oneExecution htimed bindingDigest

/-- Stands in for BLAKE3 where a run is evaluated: the sum of the bytes, repeated. -/
def sumHash (bytes : Bytes) : Octets 32 := Octets.fill 32 (bytes.foldl (· + ·) 0)

def zeroDigest : String := "0000000000000000000000000000000000000000000000000000000000000000"

def sampleRead : ValidatedGatewayReadV1 where
  input :=
    { requestDigest := zeroDigest
      stateDigest := zeroDigest
      policyDigest := gatewayPolicyDigest sumHash "v"
      operation := .replayEligibleRead
      freshness := { snapshotDigest := zeroDigest, observedAtMs := 1000, validUntilMs := 61000 }
      dependencies := [⟨zeroDigest, zeroDigest⟩] }
  admitted := by decide +kernel

def sampleResult : NewResult :=
  { requestKey := zeroDigest, stdout := [104, 105], stderr := [33], exitCode := 0, durationMs := 5
    policyVersion := "v", proofJson := "" }

def sampleBlobs : List Bytes := [sampleResult.stdout, sampleResult.stderr]

/-- What an operation reads at a time, when the two files of the result are there. -/
def sampleOutside (now : Int) : Outside :=
  { now, blobFile := fun digest => sampleBlobs.find? fun bytes => hexDigest sumHash bytes = digest }

/-- A leader executes while a second caller waits, and the result is published to both. -/
def sampleRun : List (Outside × CoordinatorOp) :=
  [(sampleOutside 2000, .acquire sampleRead "a" "c1" "l1"),
   (sampleOutside 2000, .acquire sampleRead "b" "c2" "l2"),
   (sampleOutside 2001, .start "l1" "a"),
   (sampleOutside 2010, .store true true "r1" sampleResult),
   (sampleOutside 2011, .complete "l1" "r1")]

/-- The result that the run publishes. -/
def sampleResultId : String := ((coordinate sumHash {} sampleRun).gatewayResults.map (·.gatewayResultId)).headD ""

theorem sampleRun_oneExecution :
    (coordinate sumHash {} sampleRun).gatewayResults.map (·.status) = [.ready] ∧
      (coordinate sumHash {} sampleRun).gatewayRequests.map (·.status) = [.ready, .ready] ∧
      OneExecution (coordinate sumHash {} sampleRun) (sampleRead.bindingDigest sumHash) :=
  ⟨by decide +kernel, by decide +kernel, coordinate_oneExecution sumHash sampleRun (by simp [sampleRun, sampleOutside]) _⟩

end Again.Gateway
