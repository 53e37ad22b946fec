import Again.Gateway.CoordinatorInvariant

/-!
# Completing a lease with a result of another call

`complete_gateway_call` takes a lease and the id of a stored result, and
compares the result's request key and policy with the lease's only after its
branch for completed leases. That branch compares content digests and treats
any difference as a divergence of the lease's own result, so a result that
belongs to another call takes the published one away.
-/

namespace Again.Gateway

open Again.Lib

variable {blake3 : Bytes → Octets 32} {outside : Outside} {db : Tables} {lease : InflightLease} {now : Int}

/-- The stored result is not one of the lease's call. -/
def InflightLease.Foreign (blake3 : Bytes → Octets 32) (lease : InflightLease) (result : StoredResult) : Prop :=
  result.requestKey ≠ lease.requestDigest ∨ gatewayPolicyDigest blake3 result.policyVersion ≠ lease.policyDigest

/-- An active lease past its expiry. -/
def InflightLease.Overdue (now : Int) (lease : InflightLease) : Prop := lease.status = .active ∧ lease.expiresMs ≤ now

/-- The tables are as before, but for overdue leases marked expired and the
calls that waited on one of them, which failed with it. -/
structure OnlyExpires (now : Int) (db db' : Tables) : Prop where
  results : db'.gatewayResults = db.gatewayResults
  sources : db'.results = db.results
  leases : List.Forall₂ (fun l l' => l' = l ∨ l.Overdue now ∧
    l' = { l with status := .expired, reason := some (.failure .deadline), completedMs := some now })
      db.inflightLeases db'.inflightLeases
  requests : List.Forall₂ (fun q q' => q' = q ∨ (∃ l ∈ db.inflightLeases, l.Overdue now ∧ q.pendingOn l.leaseId) ∧
    q' = { q with status := .failed, reason := some (.failure .deadline), updatedMs := now })
      db.gatewayRequests db'.gatewayRequests

theorem OnlyExpires.refl (now : Int) (db : Tables) : OnlyExpires now db db :=
  ⟨rfl, rfl, List.forall₂_same.2 fun _ _ => .inl rfl, List.forall₂_same.2 fun _ _ => .inl rfl⟩

/-- One round of the expiry, for the id of an overdue lease. -/
theorem OnlyExpires.expire {t : Tables} (h : OnlyExpires now db t) (hids : UniqueKey (·.leaseId) db.inflightLeases)
    (hmem : lease ∈ db.inflightLeases) (hdue : lease.Overdue now) :
    Runs (expireGatewayLease now lease.leaseId) t (fun _ => OnlyExpires now db) fun _ _ => False := by
  refine ⟨h.results, h.sources, ?_, ?_⟩
  · refine List.forall₂_map_right_iff.2
      (((List.forall₂_and_left _ _).2 ⟨fun l hl => hl, h.leases⟩).imp fun l l' hl => ?_)
    split
    · rename_i hsel
      obtain ⟨hid, hactive⟩ := of_decide_eq_true hsel
      -- a row that is still active was not touched before
      rcases hl with ⟨hl, rfl | ⟨-, rfl⟩⟩
      · obtain rfl := hids.eq_of_mem hl hmem hid
        exact .inr ⟨hdue, rfl⟩
      · cases hactive
    · exact hl.2
  · refine List.forall₂_map_right_iff.2 (h.requests.imp fun q q' hq => ?_)
    split
    · rename_i hsel
      rcases hq with rfl | ⟨-, rfl⟩
      · exact .inr ⟨⟨lease, hmem, hdue, hsel⟩, rfl⟩
      · simp [GatewayRequest.pendingOn, GatewayRequest.pending] at hsel
    · exact hq

/-- The expiry of a binding's overdue leases does no more than that, and does not fail. -/
theorem runs_expireGatewayLeases (hids : UniqueKey (·.leaseId) db.inflightLeases) (bindingDigest : Option String) :
    Runs (expireGatewayLeases now bindingDigest) db (fun _ => OnlyExpires now db) fun _ _ => False := by
  refine Runs.forM _ (fun leaseId hid t ht => ?_) (.refl now db)
  obtain ⟨lease, hlease, rfl⟩ := List.mem_map.1 hid
  obtain ⟨hmem, hsel⟩ := List.mem_filter.1 hlease
  exact ht.expire hids hmem ⟨(of_decide_eq_true hsel).1, (of_decide_eq_true hsel).2.1⟩

instance {α : Type} {x : Tx α} {Q : α → Tables → Prop} {E : StoreError → Tables → Prop}
    [∀ a t, Decidable (Q a t)] [∀ e t, Decidable (E e t)] : Decidable (Runs x db Q E) :=
  match h : x db with
  | .ok a t => decidable_of_iff (Q a t) (by rw [Runs, h])
  | .error e t => decidable_of_iff (E e t) (by rw [Runs, h])

/-- A transaction that never fails is its body. -/
theorem runs_atomically_never {α : Type} {x : Tx α} {Q : α → Tables → Prop} :
    Runs (atomically x) db Q (fun _ _ => False) ↔ Runs x db Q fun _ _ => False := by
  unfold Runs atomically
  cases x db <;> rfl

/-- A lookup of visible results by the id of a row finds that row, unless it is quarantined. -/
theorem visibleResult?_of_mem {row : ResultRow} (hids : UniqueKey (·.result.id) db.results) (hrow : row ∈ db.results) :
    db.visibleResult? row.result.id = if row.quarantined then none else some row.result := by
  unfold Tables.visibleResult?
  cases hquarantined : row.quarantined with
  | true =>
    rw [List.find?_eq_none.2]
    · rfl
    · intro r hr hsel
      obtain ⟨hid, hvisible⟩ := of_decide_eq_true hsel
      obtain rfl := hids.eq_of_mem hr hrow hid
      rw [hquarantined] at hvisible
      cases hvisible
  | false =>
    cases hfind : db.results.find? fun r => r.result.id = row.result.id ∧ r.quarantined = false with
    | none => exact absurd (List.find?_eq_none.1 hfind row hrow) (by simp [hquarantined])
    | some r =>
      have hsel := List.find?_some hfind
      have hid : r.result.id = row.result.id := (of_decide_eq_true hsel).1
      rw [hids.eq_of_mem (List.mem_of_find?_eq_some hfind) hrow hid]
      rfl

@[simp] def GatewayCompletion.isRefused : GatewayCompletion → Bool
  | .refused _ => true
  | _ => false

/-- The call is refused, and at most expires overdue leases. -/
def RefusedUnchanged (blake3 : Bytes → Octets 32) (outside : Outside) (leaseId resultId : String) (db : Tables) : Prop :=
  Runs (completeGatewayCall blake3 outside leaseId resultId) db
    (fun completion db' => completion.isRefused ∧ OnlyExpires outside.now db db') fun _ _ => False

/-- A completed lease and a readable result: the branch before the binding check. -/
def InflightLease.MeetsUnchecked (blake3 : Bytes → Octets 32) (outside : Outside) (lease : InflightLease)
    (row : ResultRow) : Prop :=
  lease.status = .completed ∧ row.quarantined = false ∧ sourceResultBlobsValid blake3 outside row.result = true

/-- A completion with a result of another call is refused and harmless exactly
when it does not reach a completed lease with a readable result. -/
theorem foreign_completion_refused_iff {row : ResultRow} (hleases : UniqueKey (·.leaseId) db.inflightLeases)
    (hresults : UniqueKey (·.result.id) db.results) (hlease : lease ∈ db.inflightLeases) (hrow : row ∈ db.results)
    (hforeign : lease.Foreign blake3 row.result) :
    RefusedUnchanged blake3 outside lease.leaseId row.result.id db ↔ ¬ lease.MeetsUnchecked blake3 outside row := by
  have hfind : db.lease? lease.leaseId = some lease := hleases.find?_eq_some hlease rfl
  have hvisible := visibleResult?_of_mem hresults hrow
  unfold RefusedUnchanged completeGatewayCall InflightLease.MeetsUnchecked
  rw [runs_atomically_never, runs_bind, runs_get, hfind]
  simp only [hvisible]
  cases hquarantined : row.quarantined with
  | true => simpa using OnlyExpires.refl outside.now db
  | false =>
    by_cases hblobs : sourceResultBlobsValid blake3 outside row.result = false
    · simpa [hblobs] using OnlyExpires.refl outside.now db
    · simp only [hblobs, Bool.false_eq_true, if_false, reduceCtorEq, runs_ite, runs_pure, runs_bind]
      by_cases hcompleted : lease.status = .completed
      · -- neither outcome of this branch is a refusal
        simp [hcompleted, quarantineGatewayDivergence]
      · simp only [hcompleted, false_and, not_false_iff, iff_true, IsEmpty.forall_iff, true_and, forall_const]
        have hsame := OnlyExpires.refl outside.now db
        refine ⟨fun _ => ⟨rfl, hsame⟩, fun _ => ⟨fun _ => ?_, fun _ => ⟨fun _ => ⟨rfl, hsame⟩,
          fun _ => ⟨fun _ => ⟨rfl, hsame⟩, fun hbound => absurd hforeign hbound⟩⟩⟩⟩
        exact (runs_expireGatewayLeases hleases _).mono (fun _ _ ht => ⟨rfl, ht⟩) fun _ _ hno => hno

/-- One call is served, and another request's result is stored beside it. -/
def servedRun : List (Outside × CoordinatorOp) :=
  sampleRun ++ [(sampleOutside 2012, .store true true "r2" { sampleResult with requestKey := "other", exitCode := 1 })]

def servedStore : Tables := coordinate sumHash {} servedRun

/-- Completing the served lease with the other request's result is not
refused, and quarantines the good one. -/
theorem foreign_completion_quarantines :
    (∃ lease ∈ servedStore.inflightLeases, ∃ row ∈ servedStore.results, lease.leaseId = "l1" ∧ row.result.id = "r2" ∧
      row.result.requestKey ≠ lease.requestDigest) ∧
    servedStore.gatewayResults.map (·.status) = [.ready] ∧
    Runs (completeGatewayCall sumHash (sampleOutside 2013) "l1" "r2") servedStore
      (fun completion db' => completion.isRefused = false ∧ db'.gatewayResults.map (·.status) = [.quarantined])
      fun _ _ => False := by
  decide +kernel

/-- The lease while it executes. -/
def executingLease : InflightLease :=
  { leaseId := "l1", callId := "c1", requestDigest := zeroDigest, stateDigest := zeroDigest, policyDigest := zeroDigest
    bindingDigest := zeroDigest, freshnessValidUntilMs := 61000, owner := "a", acquiredMs := 2000, heartbeatMs := 2000
    expiresMs := 3000, executionStartedMs := some 2001, lifecycleGeneration := 1 }

def otherRow : ResultRow := { result := ({ sampleResult with requestKey := "other" } : NewResult).stored sumHash "r2" }

/-- While the lease still executes, the other request's result is refused. -/
theorem foreign_completion_refused_executing :
    RefusedUnchanged sumHash (sampleOutside 2010) "l1" "r2"
      { results := [otherRow], inflightLeases := [executingLease] } := by
  have hforeign : executingLease.Foreign sumHash otherRow.result := .inl (by decide)
  exact (foreign_completion_refused_iff (by simp [UniqueKey]) (by simp [UniqueKey]) (List.mem_singleton.2 rfl)
    (List.mem_singleton.2 rfl) hforeign).2 fun h => nomatch h.1

end Again.Gateway
