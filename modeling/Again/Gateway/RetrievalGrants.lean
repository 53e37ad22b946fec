import Again.Gateway.CoordinatorInvariant
import Again.Gateway.Delivery

/-!
# Retrieval grants are single-use and bound to their recipient

A run keeps the answers next to the tables. Each grant row is traced back to
the confirmation that issued it; while the row is neither consumed nor retired,
no later call has returned bytes for it and no later retirement has covered it.
-/

namespace Again.Gateway

open Lib RetrievalGrant

variable {sel : RetrievalGrant → Bool} {delivery : ConfirmedDeliveryV1} {token receiptId grantId : String}
  {result : StoredResult} {now : Int}

variable {outside : Outside} {grant : RetrievalGrant}

/-! ## Runs -/

inductive GatewayOp
  | coordinate (op : CoordinatorOp)
  | confirm (delivery : ConfirmedDeliveryV1) (receiptId grantId token : String)
  | consume (authority : RecipientRetrievalAuthorityV2)
  | retire (retirement : RecipientConnectionRetirementV2) (reason : RetireReason)

inductive GatewayReply
  | coordinated (reply : CoordinatorReply)
  | confirmed (grant : StoreRetrievalGrantV2)
  | consumed (reply : Except StoreError GatewayFullResultV1)
  | retired (count : Nat)

/-- A call, what it read outside the database, and its answer. -/
structure Event where
  outside : Outside
  op : GatewayOp
  reply : Except StoreError GatewayReply

section
variable (blake3 : Bytes → Octets 32)

def GatewayOp.perform (outside : Outside) : GatewayOp → Tx GatewayReply
  | .coordinate op => .coordinated <$> op.perform blake3 outside
  | .confirm delivery receiptId grantId token =>
    .confirmed <$> confirmGatewayDeliveryAndIssueRetrievalV2 blake3 outside delivery receiptId grantId token
  | .consume authority => .consumed <$> consumeGatewayRetrievalGrantV2 blake3 outside authority
  | .retire retirement reason => .retired <$> retireGatewayRetrievalGrantsV2 outside.now retirement reason

def GatewayOp.reply (op : GatewayOp) (outside : Outside) (db : Tables) : Except StoreError GatewayReply :=
  match op.perform blake3 outside db with
  | .ok reply _ => .ok reply
  | .error e _ => .error e

def GatewayOp.next (op : GatewayOp) (outside : Outside) (db : Tables) : Tables :=
  match op.perform blake3 outside db with
  | .ok _ db' => db'
  | .error _ db' => db'

/-- The calls a store has answered since it was empty, in order, and its tables. -/
inductive Run : List Event → Tables → Prop
  | empty : Run [] {}
  | call {events : List Event} {db : Tables} (h : Run events db) (outside : Outside) (op : GatewayOp) :
      Run (events ++ [⟨outside, op, op.reply blake3 outside db⟩]) (op.next blake3 outside db)

end

/-- The call returned bytes for the grant. -/
def Event.returns (grantId : String) (event : Event) : Bool :=
  match event.op, event.reply with
  | .consume authority, .ok (.consumed (.ok _)) => authority.grantId = grantId
  | _, _ => false

/-- The call retired the outstanding grants of this connection and compaction generation. -/
def Event.retires (grant : RetrievalGrant) (event : Event) : Bool :=
  match event.op, event.reply with
  | .retire retirement _, .ok (.retired _) => retirement.covers grant
  | _, _ => false

/-! ## What each operation does to receipts and grants -/

/-- What a confirmation has checked and written. -/
structure Confirms (blake3 : Bytes → Octets 32) (outside : Outside) (delivery : ConfirmedDeliveryV1)
    (receiptId grantId token : String) (db db' : Tables) : Prop where
  after : db' = { db with
    deliveryReceipts := db.deliveryReceipts ++ [delivery.receipt receiptId outside.now]
    retrievalGrants := db.retrievalGrants ++ [delivery.grant blake3 receiptId grantId token outside.now] }
  freshReceipt : ∀ r ∈ db.deliveryReceipts, r.receiptId ≠ receiptId
  freshChallenge : ∀ r ∈ db.deliveryReceipts, r.challengeId ≠ delivery.challengeId
  freshGrant : ∀ g ∈ db.retrievalGrants, g.grantId ≠ grantId
  row : ∃ row ∈ db.gatewayResults, row.gatewayResultId = delivery.gatewayResultId ∧
    row.stdoutDigest = delivery.binding.streams.stdoutDigest ∧ row.stderrDigest = delivery.binding.streams.stderrDigest
  blobs : (∃ stdout, getBlob blake3 outside delivery.binding.streams.stdoutDigest = some stdout) ∧
    ∃ stderr, getBlob blake3 outside delivery.binding.streams.stderrDigest = some stderr

/-- What a grant was redeemed with. -/
structure Redeems (blake3 : Bytes → Octets 32) (outside : Outside) (authority : RecipientRetrievalAuthorityV2)
    (full : GatewayFullResultV1) (db db' : Tables) (grant : RetrievalGrant) : Prop where
  found : db.grant? authority.grantId = some grant
  outstanding : grant.outstanding = true
  unexpired : outside.now < grant.expiresMs
  presents : authority.presents blake3 grant = true
  loaded : loadFullResult blake3 outside db grant.gatewayResultId = .ok full
  after : db' = { db with
    retrievalGrants :=
      updateWhere (fun g => g.grantId = authority.grantId ∧ g.outstanding ∧ outside.now < g.expiresMs)
        (fun g => { g with consumedMs := some outside.now }) db.retrievalGrants }

/-- Outstanding grants are retired and nothing else changes. -/
def RetiresSome (db db' : Tables) (sel : RetrievalGrant → Bool) : Prop :=
  ∃ now reason, db' = { db with
    retrievalGrants :=
      updateWhere (fun g => sel g && g.outstanding) (fun g => { g with retired := some (now, reason) })
        db.retrievalGrants }

section
variable {blake3 : Bytes → Octets 32} {db : Tables}

theorem DeliveryStreamsV1.describe_eq_true {streams : DeliveryStreamsV1} (h : streams.describe result = true) :
    result.stdoutDigest = streams.stdoutDigest ∧ result.stderrDigest = streams.stderrDigest := by
  simp only [DeliveryStreamsV1.describe, Bool.and_eq_true, decide_eq_true_eq] at h
  exact ⟨h.1.1.1.2, h.1.2⟩

theorem GatewayResult.matchesSource_digests {row : GatewayResult} (h : row.matchesSource blake3 result = true) :
    result.stdoutDigest = row.stdoutDigest ∧ result.stderrDigest = row.stderrDigest := by
  simp only [GatewayResult.matchesSource, Bool.and_eq_true, decide_eq_true_eq] at h
  obtain ⟨⟨⟨⟨⟨⟨⟨⟨-, hout⟩, herr⟩, -⟩, -⟩, -⟩, -⟩, -⟩, -⟩ := h
  exact ⟨hout, herr⟩

theorem runs_confirm (delivery : ConfirmedDeliveryV1) (receiptId grantId token : String) :
    Runs (confirmGatewayDeliveryAndIssueRetrievalV2 blake3 outside delivery receiptId grantId token) db
      (fun _ db' => Confirms blake3 outside delivery receiptId grantId token db db') fun _ db' => db' = db := by
  refine Runs.atomically (E := fun _ _ => True) ?_
  unfold insertReceipt insertGrant
  simp only [runs_bind, runs_refuseIf, runs_get, runs_attempt, runs_modify, runs_pure, implies_true, true_and]
  rintro - - - ⟨result, dependencies⟩ hloaded hdescribed ⟨stdout, stderr⟩ hblobs hreceipt hgrant
  obtain ⟨row, hrow, hid, -, hmatches⟩ := loadGatewayResultUnboundSnapshotV2_eq_ok hloaded
  obtain ⟨hout, herr⟩ := GatewayResult.matchesSource_digests hmatches
  obtain ⟨houtStream, herrStream⟩ := DeliveryStreamsV1.describe_eq_true (Bool.eq_true_of_not_eq_false hdescribed)
  obtain ⟨hgetOut, hgetErr, -, -⟩ := resultBlobs_eq_ok hblobs
  rw [not_or, Bool.not_eq_true, List.any_eq_false] at hreceipt hgrant
  refine ⟨rfl, ?_, ?_, ?_, ⟨row, hrow, hid, ?_, ?_⟩, ⟨stdout, ?_⟩, ⟨stderr, ?_⟩⟩
  · intro r hr heq
    exact hreceipt.1 r hr (by simpa using .inl heq)
  · intro r hr heq
    exact hreceipt.1 r hr (by simpa using .inr heq)
  · intro g hg heq
    exact hgrant.1 g hg (by simpa using .inl heq)
  · rw [← hout, houtStream]
  · rw [← herr, herrStream]
  · rw [← houtStream]
    exact hgetOut
  · rw [← herrStream]
    exact hgetErr

theorem runs_updateGrants {write : RetrievalGrant → RetrievalGrant} :
    Runs (updateGrants sel write) db
      (fun _ db' => db' = { db with retrievalGrants := updateWhere sel write db.retrievalGrants }) fun _ _ => True := by
  unfold updateGrants
  simp only [runs_bind, runs_get, runs_refuseIf, runs_modifyGet, implies_true, and_self]

theorem runs_retireGrants {reason : RetireReason} :
    Runs (retireGrants sel now reason) db (fun _ db' => RetiresSome db db' sel) fun _ _ => True :=
  runs_updateGrants.imp fun _ _ h => ⟨now, reason, h⟩

theorem runs_retire (now : Int) (retirement : RecipientConnectionRetirementV2) (reason : RetireReason) :
    Runs (retireGatewayRetrievalGrantsV2 now retirement reason) db (fun _ db' => RetiresSome db db' retirement.covers)
      fun _ db' => db' = db := by
  refine Runs.atomically (E := fun _ _ => True) ?_
  simp only [runs_bind, runs_refuseIf, implies_true, true_and]
  exact fun _ _ => runs_retireGrants

/-- A call to consume returns the bytes of the grant it redeems, or retires grants, or changes nothing. -/
theorem runs_consume (authority : RecipientRetrievalAuthorityV2) :
    Runs (consumeGatewayRetrievalGrantV2 blake3 outside authority) db
      (fun reply db' => match reply with
        | .ok full => ∃ grant, Redeems blake3 outside authority full db db' grant
        | .error _ => ∃ sel, RetiresSome db db' sel)
      fun _ db' => db' = db := by
  refine Runs.atomically (E := fun _ _ => True) ?_
  simp only [runs_bind, runs_refuseIf, runs_get, runs_okOr, runs_ite, redeemGrant, implies_true, true_and]
  intro _ _ _ grant hgrant hconsumed hretired
  refine ⟨fun _ => runs_retireGrants.mono (fun _ _ h => ⟨_, h⟩) fun _ _ h => h, fun hunexpired hpresents _ => ?_⟩
  cases hloaded : loadFullResult blake3 outside db grant.gatewayResultId with
  | error e =>
    simp only [runs_bind]
    exact runs_retireGrants.imp fun _ _ h => ⟨_, h⟩
  | ok full =>
    simp only [runs_bind, runs_refuseIf, implies_true, true_and]
    refine runs_updateGrants.imp ?_
    rintro changed db' rfl _
    exact ⟨grant,
      { found := hgrant
        outstanding := by simp_all [outstanding]
        unexpired := not_le.1 hunexpired
        presents := Bool.eq_true_of_not_eq_false hpresents
        loaded := hloaded
        after := rfl }⟩

end

/-! ## Where a grant comes from -/

/-- The row is the one a confirmation wrote, up to being consumed or retired since. -/
def RetrievalGrant.Since (new grant : RetrievalGrant) : Prop :=
  grant = { new with consumedMs := grant.consumedMs, retired := grant.retired }

theorem RetrievalGrant.Since.trans {new later : RetrievalGrant} (h : new.Since grant) (h' : grant.Since later) :
    new.Since later := by
  cases grant
  cases later
  simp only [RetrievalGrant.Since, mk.injEq] at h h' ⊢
  simp_all

/-- The call that issued a grant, with what the recipient had confirmed. -/
structure Issues (blake3 : Bytes → Octets 32) (event : Event) (delivery : ConfirmedDeliveryV1)
    (receiptId token : String) (grant : RetrievalGrant) : Prop where
  call : event.op = .confirm delivery receiptId grant.grantId token
  answered : ∃ reply, event.reply = .ok (.confirmed reply)
  since : (delivery.grant blake3 receiptId grant.grantId token event.outside.now).Since grant
  blobs : (∃ stdout, getBlob blake3 event.outside delivery.binding.streams.stdoutDigest = some stdout) ∧
    ∃ stderr, getBlob blake3 event.outside delivery.binding.streams.stderrDigest = some stderr

/-- A grant row, traced back through the run. -/
structure Traced (blake3 : Bytes → Octets 32) (events : List Event) (db : Tables) (grant : RetrievalGrant)
    (before : List Event) (issue : Event) (since : List Event) (delivery : ConfirmedDeliveryV1)
    (receiptId token : String) : Prop where
  split : events = before ++ issue :: since
  issued : Issues blake3 issue delivery receiptId token grant
  unused : grant.consumedMs = none → ∀ event ∈ since, event.returns grant.grantId = false
  unretired : grant.outstanding = true → ∀ event ∈ since, event.retires grant = false
  row : ∃ row ∈ db.gatewayResults, row.gatewayResultId = delivery.gatewayResultId ∧
    row.stdoutDigest = delivery.binding.streams.stdoutDigest ∧ row.stderrDigest = delivery.binding.streams.stderrDigest

structure GrantHistory (blake3 : Bytes → Octets 32) (events : List Event) (db : Tables) : Prop where
  receiptIds : UniqueKey (·.receiptId) db.deliveryReceipts
  challengeIds : UniqueKey (·.challengeId) db.deliveryReceipts
  grantIds : UniqueKey (·.grantId) db.retrievalGrants
  grantReceipts : UniqueKey (·.sourceReceiptId) db.retrievalGrants
  sourced : ∀ g ∈ db.retrievalGrants, ∃ r ∈ db.deliveryReceipts, r.receiptId = g.sourceReceiptId
  traced : ∀ g ∈ db.retrievalGrants, ∃ before issue since delivery receiptId token,
    Traced blake3 events db g before issue since delivery receiptId token
  consumed : ∀ event ∈ events, ∀ grantId, event.returns grantId = true →
    ∃ g ∈ db.retrievalGrants, g.grantId = grantId ∧ g.consumedMs ≠ none

section History
variable {blake3 : Bytes → Octets 32} {events : List Event} {db db' : Tables}

theorem grantHistory_empty : GrantHistory blake3 [] {} where
  receiptIds := List.nodup_nil
  challengeIds := List.nodup_nil
  grantIds := List.nodup_nil
  grantReceipts := List.nodup_nil
  sourced := by simp
  traced := by simp
  consumed := by simp

/-- Rows of `gateway_results` stay, with what they say of the streams. -/
def RowsStay (db db' : Tables) : Prop :=
  ∀ row ∈ db.gatewayResults, ∃ row' ∈ db'.gatewayResults, row'.gatewayResultId = row.gatewayResultId ∧
    row'.stdoutDigest = row.stdoutDigest ∧ row'.stderrDigest = row.stderrDigest

theorem RowsStay.refl (db : Tables) : RowsStay db db := fun row hrow => ⟨row, hrow, rfl, rfl, rfl⟩

theorem RowsStay.trans {db'' : Tables} (h : RowsStay db db') (h' : RowsStay db' db'') : RowsStay db db'' := by
  intro row hrow
  obtain ⟨row', hrow', hid, hout, herr⟩ := h row hrow
  obtain ⟨row'', hrow'', hid', hout', herr'⟩ := h' row' hrow'
  exact ⟨row'', hrow'', hid'.trans hid, hout'.trans hout, herr'.trans herr⟩

variable {before : List Event}

/-- What a call does to a grant row: it returns bytes for none that stays unused, and retires none that stays
outstanding. -/
structure Advances (event : Event) (g g' : RetrievalGrant) : Prop where
  since : g.Since g'
  unused : g'.consumedMs = none → g.consumedMs = none ∧ event.returns g.grantId = false
  unretired : g'.outstanding = true → g.outstanding = true ∧ event.retires g = false

/-- A trace goes on over such a call. -/
theorem Traced.call {g g' : RetrievalGrant} {since : List Event} {issue : Event}
    (h : Traced blake3 events db g before issue since delivery receiptId token) (hrows : RowsStay db db')
    (hadvances : Advances event g g') :
    Traced blake3 (events ++ [event]) db' g' before issue (since ++ [event]) delivery receiptId token := by
  obtain ⟨hsince, hunused, hunretired⟩ := hadvances
  have hid : g'.grantId = g.grantId := by rw [hsince]
  have hretires (e : Event) : e.retires g' = e.retires g := by rw [hsince]; rfl
  refine ⟨?_, ⟨?_, h.issued.answered, ?_, h.issued.blobs⟩, ?_, ?_, ?_⟩
  · rw [h.split, List.append_assoc, List.cons_append]
  · rw [hid]
    exact h.issued.call
  · rw [hid]
    exact h.issued.since.trans hsince
  · intro hnone
    rw [hid]
    exact List.forall_mem_append.2 ⟨h.unused (hunused hnone).1, List.forall_mem_singleton.2 (hunused hnone).2⟩
  · intro hopen
    simp only [hretires]
    exact List.forall_mem_append.2 ⟨h.unretired (hunretired hopen).1, List.forall_mem_singleton.2 (hunretired hopen).2⟩
  · obtain ⟨row, hrow, hrowId, hout, herr⟩ := h.row
    obtain ⟨row', hrow', hid', hout', herr'⟩ := hrows row hrow
    exact ⟨row', hrow', hid'.trans hrowId, hout'.trans hout, herr'.trans herr⟩

/-- The history goes on over a call that writes grant rows in place. -/
theorem GrantHistory.call (h : GrantHistory blake3 events db) {f : RetrievalGrant → RetrievalGrant}
    (hreceipts : db'.deliveryReceipts = db.deliveryReceipts) (hgrants : db'.retrievalGrants = db.retrievalGrants.map f)
    (hrows : RowsStay db db') (hadvances : ∀ g ∈ db.retrievalGrants, Advances event g (f g))
    (hreturns : ∀ grantId, event.returns grantId = true → ∃ g ∈ db.retrievalGrants, g.grantId = grantId) :
    GrantHistory blake3 (events ++ [event]) db' := by
  have hid {g : RetrievalGrant} (hg : g ∈ db.retrievalGrants) : (f g).grantId = g.grantId := by
    rw [(hadvances g hg).since]
  have hsource {g : RetrievalGrant} (hg : g ∈ db.retrievalGrants) : (f g).sourceReceiptId = g.sourceReceiptId := by
    rw [(hadvances g hg).since]
  refine
    { receiptIds := by rw [hreceipts]; exact h.receiptIds
      challengeIds := by rw [hreceipts]; exact h.challengeIds
      grantIds := by rw [hgrants]; exact h.grantIds.map_of_mem fun g hg => hid hg
      grantReceipts := by rw [hgrants]; exact h.grantReceipts.map_of_mem fun g hg => hsource hg
      sourced := ?_, traced := ?_, consumed := ?_ }
  all_goals rw [hgrants]
  · rw [hreceipts]
    intro g' hg'
    obtain ⟨g, hg, rfl⟩ := List.mem_map.1 hg'
    rw [hsource hg]
    exact h.sourced g hg
  · intro g' hg'
    obtain ⟨g, hg, rfl⟩ := List.mem_map.1 hg'
    obtain ⟨before, issue, since, delivery, receiptId, token, htraced⟩ := h.traced g hg
    exact ⟨before, issue, since ++ [event], delivery, receiptId, token, htraced.call hrows (hadvances g hg)⟩
  · intro e he grantId hreturned
    have hfound : ∃ g ∈ db.retrievalGrants, g.grantId = grantId ∧ (f g).consumedMs ≠ none := by
      rcases mem_concat.1 he with hold | rfl
      · obtain ⟨g, hg, hgid, hused⟩ := h.consumed e hold grantId hreturned
        exact ⟨g, hg, hgid, fun hnone => hused ((hadvances g hg).unused hnone).1⟩
      · obtain ⟨g, hg, rfl⟩ := hreturns grantId hreturned
        refine ⟨g, hg, rfl, fun hnone => ?_⟩
        rw [((hadvances g hg).unused hnone).2] at hreturned
        cases hreturned
    obtain ⟨g, hg, hgid, hused⟩ := hfound
    exact ⟨f g, List.mem_map_of_mem hg, (hid hg).trans hgid, hused⟩

/-- A call that leaves receipts and grants alone, and is none of the three that speak of grants. -/
theorem GrantHistory.other (h : GrantHistory blake3 events db) (hreceipts : db'.deliveryReceipts = db.deliveryReceipts)
    (hgrants : db'.retrievalGrants = db.retrievalGrants) (hrows : RowsStay db db')
    (hreturns : ∀ grantId, event.returns grantId = false) (hretires : ∀ g, event.retires g = false) :
    GrantHistory blake3 (events ++ [event]) db' := by
  refine h.call (f := id) hreceipts (hgrants.trans (List.map_id _).symm) hrows (fun g _ => ?_) fun grantId => ?_
  · exact ⟨rfl, fun hnone => ⟨hnone, hreturns g.grantId⟩, fun hopen => ⟨hopen, hretires g⟩⟩
  · rw [hreturns grantId]
    nofun

/-! ## The steps -/

/-- The coordinator changes neither receipts nor grants, and keeps the rows of results. -/
theorem Change.grants (h : Change now db db') :
    db'.deliveryReceipts = db.deliveryReceipts ∧ db'.retrievalGrants = db.retrievalGrants ∧ RowsStay db db' := by
  have hupdate {sel : GatewayResult → Bool} {write : GatewayResult → GatewayResult} {db' : Tables}
      (hresults : db'.gatewayResults = updateWhere sel write db.gatewayResults)
      (hwrite : ∀ r, (write r).gatewayResultId = r.gatewayResultId ∧ (write r).stdoutDigest = r.stdoutDigest ∧
        (write r).stderrDigest = r.stderrDigest) : RowsStay db db' := by
    intro row hrow
    refine ⟨if sel row then write row else row, ?_, ?_⟩
    · rw [hresults]
      exact mem_updateWhere.2 ⟨row, hrow, rfl⟩
    · split
      · exact hwrite row
      · exact ⟨rfl, rfl, rfl⟩
  cases h with
  | quarantineResult gatewayResultId | diverge lease _ _ => exact ⟨rfl, rfl, hupdate rfl fun r => ⟨rfl, rfl, rfl⟩⟩
  | publish lease result new _ =>
    refine ⟨rfl, rfl, fun row hrow => ⟨row, ?_, rfl, rfl, rfl⟩⟩
    exact List.mem_append_left _ hrow
  | _ => exact ⟨rfl, rfl, RowsStay.refl _⟩

theorem Changes.grants (h : Changes now db db') :
    db'.deliveryReceipts = db.deliveryReceipts ∧ db'.retrievalGrants = db.retrievalGrants ∧ RowsStay db db' := by
  induction h with
  | refl => exact ⟨rfl, rfl, RowsStay.refl _⟩
  | tail _ hchange ih =>
    obtain ⟨hreceipts, hgrants, hrows⟩ := ih
    obtain ⟨hreceipts', hgrants', hrows'⟩ := hchange.grants
    exact ⟨hreceipts'.trans hreceipts, hgrants'.trans hgrants, hrows.trans hrows'⟩

/-- A failed call changes nothing. -/
theorem GrantHistory.failed (h : GrantHistory blake3 events db) {op : GatewayOp} {e : StoreError} :
    GrantHistory blake3 (events ++ [⟨outside, op, .error e⟩]) db := by
  refine h.other rfl rfl (RowsStay.refl db) (fun grantId => ?_) fun g => ?_
  · cases op <;> rfl
  · cases op <;> rfl

theorem GrantHistory.confirm (h : GrantHistory blake3 events db)
    (hc : Confirms blake3 outside delivery receiptId grantId token db db') (reply : StoreRetrievalGrantV2) :
    GrantHistory blake3 (events ++ [⟨outside, .confirm delivery receiptId grantId token, .ok (.confirmed reply)⟩]) db' := by
  obtain ⟨rfl, hfreshReceipt, hfreshChallenge, hfreshGrant, hrow, hblobs⟩ := hc
  -- what the old rows say goes on as over any other call
  have hold : GrantHistory blake3
      (events ++ [⟨outside, .confirm delivery receiptId grantId token, .ok (.confirmed reply)⟩]) db :=
    h.other rfl rfl (RowsStay.refl db) (fun _ => rfl) fun _ => rfl
  have hfreshSource : ∀ g ∈ db.retrievalGrants, g.sourceReceiptId ≠ receiptId := by
    intro g hg heq
    obtain ⟨r, hr, hrid⟩ := h.sourced g hg
    exact hfreshReceipt r hr (hrid.trans heq)
  refine
    { receiptIds := hold.receiptIds.append hfreshReceipt, challengeIds := hold.challengeIds.append hfreshChallenge
      grantIds := hold.grantIds.append hfreshGrant, grantReceipts := hold.grantReceipts.append hfreshSource
      sourced := ?_, traced := ?_, consumed := ?_ }
  · intro g hg
    rcases mem_concat.1 hg with hg | rfl
    · obtain ⟨r, hr, hrid⟩ := hold.sourced g hg
      exact ⟨r, List.mem_append_left _ hr, hrid⟩
    · exact ⟨_, List.mem_append_right _ (List.mem_singleton_self _), rfl⟩
  · intro g hg
    rcases mem_concat.1 hg with hg | rfl
    · obtain ⟨before, issue, since, delivery', receiptId', token', htraced⟩ := hold.traced g hg
      exact ⟨before, issue, since, delivery', receiptId', token',
        { split := htraced.split, issued := htraced.issued, unused := htraced.unused, unretired := htraced.unretired
          row := htraced.row }⟩
    · exact ⟨events, _, [], delivery, receiptId, token,
        { split := rfl, issued := ⟨rfl, ⟨reply, rfl⟩, rfl, hblobs⟩, unused := by simp, unretired := by simp, row := hrow }⟩
  · intro e he id hreturned
    obtain ⟨g, hg, hgid, hused⟩ := hold.consumed e he id hreturned
    exact ⟨g, List.mem_append_left _ hg, hgid, hused⟩

/-- A retirement covers what it retires; grants already used or retired are as before. -/
theorem GrantHistory.retire (h : GrantHistory blake3 events db) (hr : RetiresSome db db' sel)
    (hreturns : ∀ grantId, event.returns grantId = false) (hretires : ∀ g, event.retires g = true → sel g = true) :
    GrantHistory blake3 (events ++ [event]) db' := by
  obtain ⟨now, reason, rfl⟩ := hr
  refine h.call rfl rfl (RowsStay.refl db) (fun g _ => ?_) fun grantId => ?_
  · dsimp only
    split
    · exact ⟨rfl, fun hnone => ⟨hnone, hreturns g.grantId⟩, fun hopen => by simp [outstanding] at hopen⟩
    · next hsel =>
      refine ⟨rfl, fun hnone => ⟨hnone, hreturns g.grantId⟩, fun hopen => ⟨hopen, ?_⟩⟩
      refine Bool.eq_false_of_not_eq_true fun hcovers => hsel ?_
      rw [hretires g hcovers, hopen, Bool.and_self]
  · rw [hreturns grantId]
    nofun

theorem GrantHistory.redeem (h : GrantHistory blake3 events db) {authority : RecipientRetrievalAuthorityV2}
    {full : GatewayFullResultV1} (hr : Redeems blake3 outside authority full db db' grant) :
    GrantHistory blake3 (events ++ [⟨outside, .consume authority, .ok (.consumed (.ok full))⟩]) db' := by
  have hmem : grant ∈ db.retrievalGrants := List.mem_of_find?_eq_some hr.found
  have hgrant : grant.grantId = authority.grantId := by simpa using List.find?_some hr.found
  obtain rfl := hr.after
  refine h.call rfl rfl (RowsStay.refl db) (fun g hg => ?_) fun grantId hreturned => ?_
  · split
    · exact ⟨rfl, nofun, fun hopen => by simp [outstanding] at hopen⟩
    · next hsel =>
      -- the redeemed row is the only one of that id
      refine ⟨rfl, fun hnone => ⟨hnone, decide_eq_false fun hid => hsel ?_⟩, fun hopen => ⟨hopen, rfl⟩⟩
      have hsame : g = grant := h.grantIds.eq_of_mem hg hmem (by rw [hgrant, hid])
      simp [hsame, hgrant, hr.outstanding, hr.unexpired]
  · have hid : authority.grantId = grantId := of_decide_eq_true hreturned
    exact ⟨grant, hmem, hgrant.trans hid⟩

end History

/-- What an answered call did. -/
def GatewayOp.Does (blake3 : Bytes → Octets 32) (outside : Outside) (db db' : Tables) : GatewayOp → GatewayReply → Prop
  | .coordinate _, .coordinated _ => Changes outside.now db db'
  | .confirm delivery receiptId grantId token, .confirmed _ =>
    Confirms blake3 outside delivery receiptId grantId token db db'
  | .consume authority, .consumed (.ok full) => ∃ grant, Redeems blake3 outside authority full db db' grant
  | .consume _, .consumed (.error _) => ∃ sel, RetiresSome db db' sel
  | .retire retirement _, .retired _ => RetiresSome db db' retirement.covers
  | _, _ => False

variable {blake3 : Bytes → Octets 32}

theorem GatewayOp.runs_perform {db : Tables} (h : Coordinated db) (op : GatewayOp) :
    Runs (op.perform blake3 outside) db (fun reply db' => op.Does blake3 outside db db' reply) fun _ db' => db' = db := by
  cases op with
  | coordinate op => exact (runs_map _).2 (op.makes h.leaseIds)
  | confirm delivery receiptId grantId token => exact (runs_map _).2 (runs_confirm delivery receiptId grantId token)
  | retire retirement reason => exact (runs_map _).2 (runs_retire outside.now retirement reason)
  | consume authority =>
    refine (runs_map _).2 ((runs_consume authority).imp ?_)
    rintro (e | full) db' hreply <;> exact hreply

/-- Every run keeps the coordinator's invariant and the history of its grants. -/
theorem Run.history {events : List Event} {db : Tables} (h : Run blake3 events db) :
    Coordinated db ∧ GrantHistory blake3 events db := by
  induction h with
  | empty => exact ⟨coordinated_empty, grantHistory_empty⟩
  | @call events db _ outside op ih =>
    obtain ⟨hcoordinated, hhistory⟩ := ih
    unfold GatewayOp.next GatewayOp.reply
    cases hrun : op.perform blake3 outside db with
    | error e db' =>
      obtain rfl := (op.runs_perform hcoordinated).error hrun
      exact ⟨hcoordinated, hhistory.failed⟩
    | ok reply db' =>
      have hdoes := (op.runs_perform hcoordinated).ok hrun
      match op, reply, hdoes with
      | .coordinate _, .coordinated _, hchanges =>
        obtain ⟨hreceipts, hgrants, hrows⟩ := Changes.grants hchanges
        exact ⟨hcoordinated.changes hchanges, hhistory.other hreceipts hgrants hrows (fun _ => rfl) fun _ => rfl⟩
      | .confirm _ _ _ _, .confirmed grant, hconfirms =>
        refine ⟨?_, hhistory.confirm hconfirms grant⟩
        rw [Confirms.after hconfirms]
        exact hcoordinated.congr rfl rfl rfl
      | .consume _, .consumed (.ok _), ⟨_, hredeems⟩ =>
        refine ⟨?_, hhistory.redeem hredeems⟩
        rw [hredeems.after]
        exact hcoordinated.congr rfl rfl rfl
      | .consume _, .consumed (.error _), ⟨_, hretires⟩ =>
        refine ⟨?_, hhistory.retire hretires (fun _ => rfl) fun g hg => by cases hg⟩
        obtain ⟨now, reason, rfl⟩ := hretires
        exact hcoordinated.congr rfl rfl rfl
      | .retire _ _, .retired _, hretires =>
        refine ⟨?_, hhistory.retire hretires (fun _ => rfl) fun g hg => hg⟩
        obtain ⟨now, reason, rfl⟩ := hretires
        exact hcoordinated.congr rfl rfl rfl

/-! ## What a run's answers say -/

section Answers
variable {blake3 : Bytes → Octets 32} {events : List Event} {db : Tables}

variable {after : List Event}

variable {event : Event}

/-- Every answer of a run was given by the tables the calls before it had left. -/
theorem Run.split (h : Run blake3 events db) (hsplit : events = before ++ event :: after) :
    ∃ db₀, Run blake3 before db₀ ∧ event.reply = event.op.reply blake3 event.outside db₀ := by
  induction h generalizing after with
  | empty => simp at hsplit
  | @call events db hrun outside op ih =>
    rcases List.eq_nil_or_concat after with rfl | ⟨rest, last, rfl⟩
    · obtain ⟨rfl, hevent⟩ := List.append_inj' hsplit rfl
      obtain rfl : _ = event := by simpa using hevent
      exact ⟨db, hrun, rfl⟩
    · rw [List.concat_eq_append, ← List.cons_append, ← List.append_assoc] at hsplit
      exact ih (List.append_inj' hsplit rfl).1

variable {authority : RecipientRetrievalAuthorityV2} {full : GatewayFullResultV1}

/-- A call that returned bytes redeemed an outstanding grant. -/
theorem redeems_of_reply (hrun : Run blake3 events db)
    (h : (GatewayOp.consume authority).reply blake3 outside db = .ok (.consumed (.ok full))) :
    ∃ grant db', Redeems blake3 outside authority full db db' grant := by
  unfold GatewayOp.reply at h
  split at h
  · next reply db' hperform =>
    cases h
    obtain ⟨grant, hredeems⟩ := (GatewayOp.runs_perform hrun.history.1 _).ok hperform
    exact ⟨grant, db', hredeems⟩
  · cases h

theorem Event.returns_eq_true (h : event.returns grantId = true) :
    ∃ authority full, event.op = .consume authority ∧ authority.grantId = grantId ∧
      event.reply = .ok (.consumed (.ok full)) := by
  unfold Event.returns at h
  split at h
  · next authority full hop hreply => exact ⟨authority, full, hop, of_decide_eq_true h, hreply⟩
  · cases h

/-- Over a run each grant returns bytes once at most. -/
theorem Run.returns_once (h : Run blake3 events db) (grantId : String) :
    (events.countP fun event => event.returns grantId) ≤ 1 := by
  induction h with
  | empty => simp
  | @call events db hrun outside op ih =>
    rw [List.countP_append, List.countP_singleton]
    split
    · next hreturns =>
      -- an earlier answer would have left the row consumed, yet it was outstanding
      obtain ⟨authority, full, rfl, rfl, hreply⟩ := Event.returns_eq_true hreturns
      obtain ⟨grant, db', hredeems⟩ := redeems_of_reply hrun hreply
      have hnone : (events.countP fun event => event.returns authority.grantId) = 0 := by
        refine List.countP_eq_zero.2 fun event hevent hearlier => ?_
        obtain ⟨g, hg, hid, hused⟩ := hrun.history.2.consumed event hevent _ hearlier
        have hfind := hrun.history.2.grantIds.find?_eq_some hg hid
        obtain rfl : g = grant := Option.some.inj (hfind.symm.trans hredeems.found)
        have hopen := hredeems.outstanding
        simp only [outstanding, Bool.and_eq_true, Option.isNone_iff_eq_none] at hopen
        exact hused hopen.1
      rw [hnone]
    · exact ih

/-- The tokens that a run issued or was shown. -/
def tokensOf (events : List Event) : Set String :=
  { token | ∃ event ∈ events, (∃ authority, event.op = .consume authority ∧ authority.token = token) ∨
    ∃ delivery receiptId grantId, event.op = .confirm delivery receiptId grantId token }

/-- The contents of the files that a run could read. -/
def blobsOf (events : List Event) : Set Bytes :=
  { bytes | ∃ event ∈ events, ∃ digest, event.outside.blobFile digest = some bytes }

/-- A successful retirement of this connection generation, in this compaction generation. -/
def Event.Retires (event : Event) (binding : DeliveryBindingV1) : Prop :=
  ∃ retirement reason count, event.op = .retire retirement reason ∧ event.reply = .ok (.retired count) ∧
    retirement.authorizationScopeDigest = binding.authorizationScopeDigest ∧
    retirement.connectionDigest = binding.connectionDigest ∧
    retirement.connectionGeneration = binding.connectionGeneration ∧
    retirement.compactionGeneration = binding.compactionGeneration

/-- Bytes were returned for a delivery confirmed before, to its own recipient. -/
structure ReturnsConfirmed (blake3 : Bytes → Octets 32) (issue : Event) (since : List Event)
    (delivery : ConfirmedDeliveryV1) (event : Event) (authority : RecipientRetrievalAuthorityV2)
    (full : GatewayFullResultV1) : Prop where
  call : ∃ receiptId, issue.op = .confirm delivery receiptId authority.grantId authority.token
  answered : ∃ grant, issue.reply = .ok (.confirmed grant)
  scope : authority.authorizationScopeDigest = delivery.binding.authorizationScopeDigest
  connection : authority.connectionDigest = delivery.binding.connectionDigest
  connectionGeneration : authority.connectionGeneration = delivery.binding.connectionGeneration
  session : authority.sessionId = delivery.binding.sessionId
  turn : authority.turnId = delivery.binding.turnId
  agent : authority.agentId = delivery.binding.agentId
  compactionGeneration : authority.compactionGeneration = delivery.binding.compactionGeneration
  result : authority.gatewayResultId = delivery.gatewayResultId
  expiry : authority.expiresAtMs = issue.outside.now + retrievalGrantTtlMs
  unexpired : event.outside.now < authority.expiresAtMs
  unretired : ∀ other ∈ since, ¬ other.Retires delivery.binding
  stdout : getBlob blake3 issue.outside delivery.binding.streams.stdoutDigest = some full.stdout
  stderr : getBlob blake3 issue.outside delivery.binding.streams.stderrDigest = some full.stderr
  named : full.gatewayResultId = delivery.gatewayResultId

theorem loadFullResult_eq_ok {gatewayResultId : String}
    (h : loadFullResult blake3 outside db gatewayResultId = .ok full) :
    full.gatewayResultId = gatewayResultId ∧ ∃ row ∈ db.gatewayResults, row.gatewayResultId = gatewayResultId ∧
      row.status = .ready ∧ getBlob blake3 outside row.stdoutDigest = some full.stdout ∧
      getBlob blake3 outside row.stderrDigest = some full.stderr := by
  unfold loadFullResult at h
  simp only [bind_eq_ok, pure_eq_ok, Prod.exists] at h
  obtain ⟨result, dependencies, hloaded, stdout, stderr, hblobs, rfl⟩ := h
  obtain ⟨row, hrow, hid, hready, hmatches⟩ := loadGatewayResultUnboundSnapshotV2_eq_ok hloaded
  obtain ⟨hout, herr⟩ := GatewayResult.matchesSource_digests hmatches
  obtain ⟨hgetOut, hgetErr, -, -⟩ := resultBlobs_eq_ok hblobs
  exact ⟨rfl, row, hrow, hid, hready, hout ▸ hgetOut, herr ▸ hgetErr⟩

theorem RecipientRetrievalAuthorityV2.presents_eq_true (h : authority.presents blake3 grant = true) :
    grant.tokenDigest = deliveryTokenDigest blake3 authority.token ∧
      grant.authorizationScopeDigest = authority.authorizationScopeDigest ∧
      grant.connectionDigest = authority.connectionDigest ∧
      grant.connectionGeneration = authority.connectionGeneration ∧ grant.sessionId = authority.sessionId ∧
      grant.turnId = authority.turnId ∧ grant.agentId = authority.agentId ∧
      grant.compactionGeneration = authority.compactionGeneration ∧
      grant.gatewayResultId = authority.gatewayResultId ∧ grant.expiresMs = authority.expiresAtMs := by
  simp only [RecipientRetrievalAuthorityV2.presents, Bool.and_eq_true, decide_eq_true_eq, constantTimeDigestEq_iff,
    and_assoc] at h
  exact ⟨utf8_injective h.1, h.2⟩

theorem tokenBytes_injective {token' : String} (h : tokenBytes token = tokenBytes token') : token = token' := by
  obtain ⟨-, htoken⟩ := List.append_inj h (by simp)
  exact utf8_injective htoken

/-- Two reads of one digest found the same bytes. -/
theorem getBlob_eq (hblobs : Set.InjOn (hexDigest blake3) (blobsOf events)) {event' : Event} (hevent : event ∈ events)
    (hevent' : event' ∈ events) {digest : String} {bytes bytes' : Bytes}
    (h : getBlob blake3 event.outside digest = some bytes) (h' : getBlob blake3 event'.outside digest = some bytes') :
    bytes = bytes' := by
  obtain ⟨hfile, hdigest⟩ := getBlob_eq_some h
  obtain ⟨hfile', hdigest'⟩ := getBlob_eq_some h'
  exact hblobs ⟨event, hevent, digest, hfile⟩ ⟨event', hevent', digest, hfile'⟩ (hdigest.trans hdigest'.symm)

theorem Event.not_retires {binding : DeliveryBindingV1} (h : event.retires grant = false)
    (hscope : grant.authorizationScopeDigest = binding.authorizationScopeDigest)
    (hconnection : grant.connectionDigest = binding.connectionDigest)
    (hgeneration : grant.connectionGeneration = binding.connectionGeneration)
    (hcompaction : grant.compactionGeneration = binding.compactionGeneration) : ¬ event.Retires binding := by
  rintro ⟨retirement, reason, count, hop, hreply, hs, hc, hg, hcg⟩
  simp [Event.retires, hop, hreply, RecipientConnectionRetirementV2.covers, hscope, hconnection, hgeneration, hcompaction,
    hs, hc, hg, hcg] at h

/-- Bytes are returned only for a delivery confirmed before, to its own
recipient, in time, and they are the bytes that were confirmed. -/
theorem Run.returnsConfirmed (h : Run blake3 events db)
    (htokens : Set.InjOn (hexDigest blake3) (tokenBytes '' tokensOf events))
    (hblobs : Set.InjOn (hexDigest blake3) (blobsOf events)) (hsplit : events = before ++ event :: after)
    (hop : event.op = .consume authority) (hreply : event.reply = .ok (.consumed (.ok full))) :
    ∃ earlier issue since delivery, before = earlier ++ issue :: since ∧
      ReturnsConfirmed blake3 issue since delivery event authority full := by
  obtain ⟨db₀, hrun, hanswer⟩ := h.split hsplit
  rw [hop, hreply] at hanswer
  obtain ⟨grant, db', hr⟩ := redeems_of_reply hrun hanswer.symm
  have hmem : grant ∈ db₀.retrievalGrants := List.mem_of_find?_eq_some hr.found
  have hgrantId : grant.grantId = authority.grantId := by simpa using List.find?_some hr.found
  obtain ⟨earlier, issue, since, delivery, receiptId, token, ht⟩ := hrun.history.2.traced grant hmem
  obtain ⟨htoken, hscope, hconnection, hgeneration, hsession, hturn, hagent, hcompaction, hresult, hexpiry⟩ :=
    RecipientRetrievalAuthorityV2.presents_eq_true hr.presents
  have hsince := ht.issued.since
  have hissue : issue ∈ events := by
    rw [hsplit, ht.split]
    simp
  have hevent : event ∈ events := by
    rw [hsplit]
    simp
  have hsame : token = authority.token := by
    refine tokenBytes_injective (htokens ⟨token, ⟨issue, hissue, .inr ⟨delivery, receiptId, _, ht.issued.call⟩⟩, rfl⟩
      ⟨authority.token, ⟨event, hevent, .inl ⟨authority, hop, rfl⟩⟩, rfl⟩ ?_)
    calc hexDigest blake3 (tokenBytes token) = grant.tokenDigest := by rw [hsince]; rfl
      _ = hexDigest blake3 (tokenBytes authority.token) := htoken
  obtain ⟨hnamed, row, hrow, hrowId, -, hout, herr⟩ := loadFullResult_eq_ok hr.loaded
  obtain ⟨row', hrow', hrowId', hout', herr'⟩ := ht.row
  have hgrantResult : grant.gatewayResultId = delivery.gatewayResultId := by
    rw [hsince]
    rfl
  -- the row the bytes were read from is the row that was confirmed
  have hrows : row = row' := hrun.history.1.resultIds.eq_of_mem hrow hrow' (by rw [hrowId, hrowId', hgrantResult])
  subst hrows
  obtain ⟨⟨stdout, hstdout⟩, ⟨stderr, hstderr⟩⟩ := ht.issued.blobs
  rw [hout'] at hout
  rw [herr'] at herr
  refine ⟨earlier, issue, since, delivery, ht.split, ?_⟩
  exact
    { call := ⟨receiptId, by rw [← hgrantId, ← hsame]; exact ht.issued.call⟩
      answered := ht.issued.answered
      scope := by rw [← hscope, hsince]; rfl
      connection := by rw [← hconnection, hsince]; rfl
      connectionGeneration := by rw [← hgeneration, hsince]; rfl
      session := by rw [← hsession, hsince]; rfl
      turn := by rw [← hturn, hsince]; rfl
      agent := by rw [← hagent, hsince]; rfl
      compactionGeneration := by rw [← hcompaction, hsince]; rfl
      result := by rw [← hresult, hgrantResult]
      expiry := by rw [← hexpiry, hsince]; rfl
      unexpired := by rw [← hexpiry]; exact hr.unexpired
      unretired := by
        intro other hother
        refine Event.not_retires (ht.unretired hr.outstanding other hother) ?_ ?_ ?_ ?_ <;> rw [hsince] <;> rfl
      stdout := by rw [hstdout, getBlob_eq hblobs hissue hevent hstdout hout]
      stderr := by rw [hstderr, getBlob_eq hblobs hissue hevent hstderr herr]
      named := hnamed.trans hgrantResult }

/-- A caller without the grant's token and binding changes nothing, unless the grant has run out by then. -/
theorem consume_refused (hfound : db.grant? authority.grantId = some grant)
    (hpresents : authority.presents blake3 grant = false) (hunexpired : outside.now < grant.expiresMs) :
    (GatewayOp.consume authority).next blake3 outside db = db := by
  have hruns : Runs (consumeGatewayRetrievalGrantV2 blake3 outside authority) db (fun _ _ => False)
      fun _ db' => db' = db := by
    refine Runs.atomically (E := fun _ _ => True) ?_
    simp only [runs_bind, runs_refuseIf, runs_get, runs_okOr, runs_ite, redeemGrant, implies_true, true_and]
    intro _ _ _ g hg _ _
    obtain rfl : g = grant := Option.some.inj (hg.symm.trans hfound)
    exact ⟨fun hexpired => absurd hunexpired (not_lt.2 hexpired), fun _ hp => absurd hpresents hp⟩
  have hperform : Runs ((GatewayOp.consume authority).perform blake3 outside) db (fun _ _ => False)
      fun _ db' => db' = db := (runs_map _).2 hruns
  unfold GatewayOp.next
  cases hrun : (GatewayOp.consume authority).perform blake3 outside db with
  | ok reply db' => exact (hperform.ok hrun).elim
  | error e db' => exact hperform.error hrun

/-- The grants of a challenge's receipt. -/
def grantsOf (db : Tables) (challengeId : String) : List RetrievalGrant :=
  db.retrievalGrants.filter fun g => db.deliveryReceipts.any fun r =>
    r.receiptId = g.sourceReceiptId ∧ r.challengeId = challengeId

theorem GrantHistory.grantsOf_length (h : GrantHistory blake3 events db) (challengeId : String) :
    (grantsOf db challengeId).length ≤ 1 := by
  unfold grantsOf
  rw [← List.countP_eq_length_filter]
  refine h.grantReceipts.countP_le_one fun g _ g' _ hsel hsel' => ?_
  obtain ⟨r, hr, hsource⟩ := List.any_eq_true.1 hsel
  obtain ⟨r', hr', hsource'⟩ := List.any_eq_true.1 hsel'
  simp only [decide_eq_true_eq] at hsource hsource'
  have hsame : r = r' := h.challengeIds.eq_of_mem hr hr' (hsource.2.trans hsource'.2.symm)
  rw [← hsource.1, ← hsource'.1, hsame]

end Answers

/-- Over every run, at any readings of the clock: a challenge has one receipt
and one grant, a grant returns bytes once, to the recipient it was issued to
and before a retirement of its connection, and strangers leave it as it is. -/
theorem retrieval_grants_single_use {blake3 : Bytes → Octets 32} {events : List Event} {db : Tables}
    (h : Run blake3 events db) (htokens : Set.InjOn (hexDigest blake3) (tokenBytes '' tokensOf events))
    (hblobs : Set.InjOn (hexDigest blake3) (blobsOf events)) :
    (∀ challengeId, (db.deliveryReceipts.countP fun r => r.challengeId = challengeId) ≤ 1 ∧
      (grantsOf db challengeId).length ≤ 1) ∧
    (∀ grantId, (events.countP fun event => event.returns grantId) ≤ 1) ∧
    (∀ before event after authority full, events = before ++ event :: after → event.op = .consume authority →
      event.reply = .ok (.consumed (.ok full)) → ∃ earlier issue since delivery, before = earlier ++ issue :: since ∧
        ReturnsConfirmed blake3 issue since delivery event authority full) ∧
    ∀ (outside : Outside) authority grant, db.grant? authority.grantId = some grant →
      authority.presents blake3 grant = false → outside.now < grant.expiresMs →
      (GatewayOp.consume authority).next blake3 outside db = db := by
  refine ⟨fun challengeId => ⟨?_, h.history.2.grantsOf_length challengeId⟩, h.returns_once, ?_, ?_⟩
  · refine h.history.2.challengeIds.countP_le_one fun r _ r' _ hsel hsel' => ?_
    rw [of_decide_eq_true hsel, of_decide_eq_true hsel']
  · intro before event after authority full hsplit hop hreply
    exact h.returnsConfirmed htokens hblobs hsplit hop hreply
  · intro outside authority grant hfound hpresents hunexpired
    exact consume_refused hfound hpresents hunexpired

/-! ## A run -/

/-- The events and the tables after some calls. -/
def record (blake3 : Bytes → Octets 32) (steps : List (Outside × GatewayOp)) : List Event × Tables :=
  steps.foldl (fun state step =>
    (state.1 ++ [⟨step.1, step.2, step.2.reply blake3 step.1 state.2⟩], step.2.next blake3 step.1 state.2)) ([], {})

theorem run_record (blake3 : Bytes → Octets 32) (steps : List (Outside × GatewayOp)) :
    Run blake3 (record blake3 steps).1 (record blake3 steps).2 :=
  List.foldlRecOn (motive := fun state : List Event × Tables => Run blake3 state.1 state.2) steps _ .empty
    fun _ h step _ => h.call step.1 step.2

def sampleDelivery : ConfirmedDeliveryV1 :=
  { challengeId := "challenge"
    gatewayResultId := sampleResultId
    binding :=
      { authorizationScopeDigest := zeroDigest
        connectionDigest := zeroDigest
        connectionGeneration := zeroDigest
        agentId := "agent"
        sessionId := "session"
        turnId := "turn"
        callDigest := zeroDigest
        responseRequestIdDigest := zeroDigest
        resultDigest := sampleResultId
        streams :=
          { exactStatus := 0, stdoutDigest := hexDigest sumHash sampleResult.stdout, stdoutBytes := 2
            stderrDigest := hexDigest sumHash sampleResult.stderr, stderrBytes := 1 }
        responseEnvelopeDigest := zeroDigest
        compactionGeneration := 0 } }

def sampleAuthority : RecipientRetrievalAuthorityV2 :=
  { sampleDelivery.binding with grantId := "g1", token := "t1", gatewayResultId := sampleResultId, expiresAtMs := 33000 }

/-- The result is delivered twice. The connection closes in its next compaction generation; the grants of the one
before are still good, each for its own token. -/
def sampleDeliveryRun : List (Outside × GatewayOp) :=
  sampleRun.map (fun step => (step.1, .coordinate step.2)) ++
  [(sampleOutside 3000, .confirm sampleDelivery "d1" "g1" "t1"),
   (sampleOutside 3000, .confirm { sampleDelivery with challengeId := "second" } "d2" "g2" "t2"),
   (sampleOutside 3001, .retire ⟨zeroDigest, zeroDigest, zeroDigest, 1⟩ .connectionClosed),
   (sampleOutside 3002, .consume sampleAuthority),
   (sampleOutside 3003, .consume { sampleAuthority with grantId := "g2" }),
   (sampleOutside 3004, .consume { sampleAuthority with grantId := "g2", token := "t2" })]

theorem mem_record {steps : List (Outside × GatewayOp)}
    (h : event ∈ (record blake3 steps).1) : (event.outside, event.op) ∈ steps := by
  refine List.foldlRecOn (motive := fun state : List Event × Tables => ∀ event ∈ state.1,
    (event.outside, event.op) ∈ steps) steps _ (by simp) ?_ event h
  exact fun state hstate step hstep => List.forall_mem_append.2 ⟨hstate, List.forall_mem_singleton.2 hstep⟩

theorem sampleDeliveryRun_blobs : Set.InjOn (hexDigest sumHash) (blobsOf (record sumHash sampleDeliveryRun).1) := by
  have hfile : ∀ step ∈ sampleDeliveryRun, ∀ digest,
      step.1.blobFile digest = sampleBlobs.find? fun bytes => hexDigest sumHash bytes = digest := by
    simp [sampleDeliveryRun, sampleRun, sampleOutside]
  have hblob : ∀ bytes ∈ blobsOf (record sumHash sampleDeliveryRun).1, bytes ∈ sampleBlobs := by
    rintro bytes ⟨event, hevent, digest, hbytes⟩
    rw [hfile _ (mem_record hevent)] at hbytes
    exact List.mem_of_find?_eq_some hbytes
  have hdistinct : (sampleBlobs.map (hexDigest sumHash)).Nodup := by decide +kernel
  exact fun a ha b hb => List.inj_on_of_nodup_map hdistinct (hblob a ha) (hblob b hb)

theorem sampleDeliveryRun_tokens :
    Set.InjOn (hexDigest sumHash) (tokenBytes '' tokensOf (record sumHash sampleDeliveryRun).1) := by
  have htoken {token : String} (h : token ∈ tokensOf (record sumHash sampleDeliveryRun).1) : token ∈ ["t1", "t2"] := by
    obtain ⟨⟨outside, op, reply⟩, hevent, ⟨authority, rfl, rfl⟩ | ⟨delivery, receiptId, grantId, rfl⟩⟩ := h
    · have hstep := mem_record hevent
      simp [sampleDeliveryRun, sampleRun] at hstep
      rcases hstep with ⟨_, rfl⟩ | ⟨_, rfl⟩ | ⟨_, rfl⟩ <;> decide
    · have hstep := mem_record hevent
      simp [sampleDeliveryRun, sampleRun] at hstep
      rcases hstep with hstep | hstep <;> simp [hstep]
  have hdistinct : (["t1", "t2"].map fun token => hexDigest sumHash (tokenBytes token)).Nodup := by decide +kernel
  rintro _ ⟨token, ht, rfl⟩ _ ⟨token', ht', rfl⟩ hsame
  rw [List.inj_on_of_nodup_map hdistinct (htoken ht) (htoken ht') hsame]

/-- The run returns what was stored, once for each grant and not for the other's token. -/
theorem sampleDeliveryRun_single_use :
    (((record sumHash sampleDeliveryRun).1.drop 8).map fun event => (event.returns "g1", event.returns "g2")) =
      [(true, false), (false, false), (false, true)] ∧
    (∀ grantId, ((record sumHash sampleDeliveryRun).1.countP fun event => event.returns grantId) ≤ 1) ∧
    ∀ challengeId, (grantsOf (record sumHash sampleDeliveryRun).2 challengeId).length ≤ 1 := by
  have h := retrieval_grants_single_use (run_record sumHash sampleDeliveryRun) sampleDeliveryRun_tokens
    sampleDeliveryRun_blobs
  exact ⟨by decide +kernel, h.2.1, fun challengeId => (h.1 challengeId).2⟩

/-- The call retired its scope's and connection's generation, in whatever compaction generation. -/
def Event.retiresGeneration (binding : DeliveryBindingV1) (event : Event) : Bool :=
  match event.op, event.reply with
  | .retire retirement _, .ok (.retired _) =>
    retirement.authorizationScopeDigest = binding.authorizationScopeDigest &&
      retirement.connectionDigest = binding.connectionDigest &&
      retirement.connectionGeneration = binding.connectionGeneration
  | _, _ => false

/-- The call issued the grant. -/
def Event.issues (delivery : ConfirmedDeliveryV1) (grantId : String) (event : Event) : Bool :=
  match event.op, event.reply with
  | .confirm delivered _ id _, .ok (.confirmed _) => delivered = delivery && id = grantId
  | _, _ => false

/-- A grant returns bytes after a retirement of its connection generation that names another compaction generation. -/
theorem grant_outlives_retirement_of_other_compaction :
    Run sumHash (record sumHash sampleDeliveryRun).1 (record sumHash sampleDeliveryRun).2 ∧
    Set.InjOn (hexDigest sumHash) (tokenBytes '' tokensOf (record sumHash sampleDeliveryRun).1) ∧
    Set.InjOn (hexDigest sumHash) (blobsOf (record sumHash sampleDeliveryRun).1) ∧
    ((record sumHash sampleDeliveryRun).1.findIdx? fun event => event.issues sampleDelivery "g1") = some 5 ∧
    ((record sumHash sampleDeliveryRun).1.findIdx? fun event => event.retiresGeneration sampleDelivery.binding) = some 7 ∧
    ((record sumHash sampleDeliveryRun).1.findIdx? fun event => event.returns "g1") = some 8 :=
  ⟨run_record _ _, sampleDeliveryRun_tokens, sampleDeliveryRun_blobs, by decide +kernel, by decide +kernel,
    by decide +kernel⟩

end Again.Gateway
