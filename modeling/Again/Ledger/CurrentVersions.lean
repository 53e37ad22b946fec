import Again.Ledger.TaskLifecycle
import Again.Lib.Versions

/-!
# One current version of a fact

Admitting a version retires the lower versions of its fact, and nothing else. So
a fact has one current version while no admission goes below a current one; an
admission that does leaves two.
-/

namespace Again.Ledger

open Lib Gateway Tables

/-! ## Current entries -/

/-- The fact a row is a version of, and the version. -/
def FactVersion.entry (f : FactVersion) : (ContextTask × String) × Nat := ((f.task, f.factId), f.factVersion.toNat)

def ResultReference.entry (r : ResultReference) : (ContextTask × String) × Nat :=
  ((r.task, r.resultId), r.referenceVersion.toNat)

/-- The current versions of the facts. -/
def Tables.factEntries (db : Tables) : List ((ContextTask × String) × Nat) :=
  (db.facts.filter fun f => f.retired = none).map FactVersion.entry

/-- The current versions of the references. -/
def Tables.referenceEntries (db : Tables) : List ((ContextTask × String) × Nat) :=
  (db.references.filter fun r => r.retired = none).map ResultReference.entry

/-- The current entries after an admission. -/
def admitEntry {κ : Type} [DecidableEq κ] (current : List (κ × Nat)) (k : κ) (v : Nat) : List (κ × Nat) :=
  current.filter (fun e => ¬ (e.1 = k ∧ e.2 < v)) ++ [(k, v)]

/-! ## Rows that are versions -/

section Rows
variable {ρ κ : Type} {current sel : ρ → Bool} {write : ρ → ρ} {entry : ρ → κ × Nat} {rows : List ρ}

/-- Retiring rows takes their entries away. -/
theorem entries_retire (hwrite : ∀ r, current (write r) = false) :
    (((updateWhere sel write rows).filter current).map entry).Sublist ((rows.filter current).map entry) := by
  rw [filter_updateWhere hwrite]
  refine (List.monotone_filter_right _ fun r hr => ?_).map _
  exact (Bool.and_eq_true_iff.1 hr).1

/-- Retiring the lower versions of a subject and adding a new one. -/
theorem entries_admit [DecidableEq κ] {row : ρ} {k : κ} {v : Nat} (hwrite : ∀ r, current (write r) = false)
    (hsel : ∀ r, current r = true → (sel r = true ↔ (entry r).1 = k ∧ (entry r).2 < v)) (hrow : entry row = (k, v))
    (hcurrent : current row = true) (hfresh : ∀ r ∈ updateWhere sel write rows, entry r ≠ (k, v)) :
    (k, v) ∉ (rows.filter current).map entry ∧
      ((updateWhere sel write rows ++ [row]).filter current).map entry =
        admitEntry ((rows.filter current).map entry) k v := by
  constructor
  · intro hmem
    obtain ⟨r, hr, hentry⟩ := List.mem_map.1 hmem
    obtain ⟨hr, hcur⟩ := List.mem_filter.1 hr
    refine hfresh r (mem_updateWhere_of_not hr (Bool.eq_false_of_not_eq_true fun hlow => ?_)) hentry
    have hlt := ((hsel r hcur).1 hlow).2
    simp [hentry] at hlt
  · have hnew : ([row].filter current).map entry = [(k, v)] := by simp [hcurrent, hrow]
    rw [admitEntry, List.filter_append, List.map_append, hnew, filter_updateWhere hwrite, List.filter_map,
      List.filter_filter]
    congr 2
    refine List.filter_congr fun r _ => ?_
    cases hcur : current r with
    | false => simp
    | true =>
      rw [Bool.eq_iff_iff]
      simp only [Bool.true_and, Bool.and_true, Bool.not_eq_true', ← Bool.not_eq_true, decide_eq_true_eq, Function.comp,
        hsel r hcur]

/-- Rows of one task that are sorted and cut have different ids, where each subject has one current row. -/
theorem nodup_current (taskOf : ρ → ContextTask) (idOf : ρ → String) {entry : ρ → (ContextTask × String) × Nat}
    (hentry : ∀ r, (entry r).1 = (taskOf r, idOf r)) (h : UniqueKey Prod.fst ((rows.filter current).map entry))
    (task : ContextTask) {before : ρ → ρ → Prop} [DecidableRel before] (limit : Nat) :
    ((((rows.filter fun r => taskOf r = task ∧ current r).insertionSort before).take limit).map idOf).Nodup := by
  have hkeys : ((rows.filter fun r => taskOf r = task ∧ current r).map fun r => (taskOf r, idOf r)).Nodup := by
    have hkey : Prod.fst ∘ entry = fun r => (taskOf r, idOf r) := funext hentry
    rw [UniqueKey, List.map_map, hkey] at h
    refine h.sublist ((List.monotone_filter_right _ fun r hr => ?_).map _)
    exact (of_decide_eq_true hr).2
  have hids : ((rows.filter fun r => taskOf r = task ∧ current r).map idOf).Nodup := by
    refine List.Nodup.of_map (fun id => (task, id)) ?_
    rw [List.map_map]
    refine (List.map_congr_left fun r hr => ?_) ▸ hkeys
    rw [← (of_decide_eq_true (List.mem_filter.1 hr).2).1]
    rfl
  refine List.Nodup.sublist ((List.take_sublist _ _).map idOf) ?_
  exact ((List.perm_insertionSort before _).map idOf).nodup_iff.2 hids

/-- One current row of each subject, of the highest version admitted unless that one was taken back. -/
theorem currentRows_of_versioned {admitted withdrawn : κ → Nat → Prop}
    (h : Versioned admitted withdrawn ((rows.filter current).map entry)) :
    (∀ r ∈ rows, ∀ q ∈ rows, current r = true → current q = true → (entry r).1 = (entry q).1 → r = q) ∧
      ∀ r ∈ rows, current r = true → ∀ highest, admitted (entry r).1 highest →
        (∀ v, admitted (entry r).1 v → v ≤ highest) → (entry r).2 = highest ∨ withdrawn (entry r).1 highest := by
  have hkeys : UniqueKey (fun r => (entry r).1) (rows.filter current) := by
    have hsingle := h.single
    rwa [UniqueKey, List.map_map] at hsingle
  constructor
  · intro r hr q hq hcur hcur'
    exact hkeys.eq_of_mem (List.mem_filter.2 ⟨hr, hcur⟩) (List.mem_filter.2 ⟨hq, hcur'⟩)
  · intro r hr hcur highest
    exact h.largest (List.mem_map.2 ⟨r, List.mem_filter.2 ⟨hr, hcur⟩, rfl⟩)

end Rows

/-! ## What a call does to the current entries -/

/-- Entries only go, and they go only where they are taken back. -/
def Thins {α : Type} (op : LedgerOp) (before after : List α) : Prop :=
  after.Sublist before ∧ (op.withdraws = false → after = before)

section
variable {ext : Externals} {now : Int} {op : LedgerOp} {s t db : Tables} {identity : ContextLedgerIdentityV1}

theorem Thins.refl {α : Type} (l : List α) : Thins op l l := ⟨List.Sublist.refl l, fun _ => rfl⟩

theorem Thins.trans {α : Type} {a b c : List α} (h : Thins op a b) (h' : Thins op b c) : Thins op a c :=
  ⟨h'.1.trans h.1, fun hnot => (h'.2 hnot).trans (h.2 hnot)⟩

theorem thins_of_withdraws {α : Type} {a b : List α} (hop : op.withdraws = true) (h : b.Sublist a) : Thins op a b :=
  ⟨h, fun hnot => by simp [hop] at hnot⟩

theorem LedgerOp.withdraws_of_deletes (h : op.deletes = true) : op.withdraws = true := by
  cases op <;> simp [LedgerOp.deletes, LedgerOp.withdraws] at h ⊢

/-- Collecting retired rows leaves the current ones. -/
theorem entries_dropRetired (task : ContextTask) :
    (db.dropRetired task).factEntries = db.factEntries ∧ (db.dropRetired task).referenceEntries = db.referenceEntries := by
  unfold factEntries referenceEntries dropRetired
  rw [List.filter_filter, List.filter_filter]
  constructor
  · congr 1
    refine List.filter_congr fun f _ => ?_
    by_cases hnone : f.retired = none <;> simp [hnone]
  · congr 1
    refine List.filter_congr fun r _ => ?_
    by_cases hnone : r.retired = none <;> simp [hnone]

/-- Without an admission current versions only go, and they go only where they are taken back. -/
theorem Change.entries (h : Change ext now op s t) :
    (op.admitsFact = false → Thins op s.factEntries t.factEntries) ∧
      (op.admitsReference = false → Thins op s.referenceEntries t.referenceEntries) := by
  cases h with
  | retireFacts identity sel sequence reason hid hkind =>
    refine ⟨fun hop => thins_of_withdraws ?_ (entries_retire fun _ => rfl), fun _ => Thins.refl _⟩
    simpa [hop] using hkind
  | addFact identity row hid htask hcurrent hadmits =>
    obtain ⟨envelope, fact, sources, rfl, _⟩ := hadmits
    exact ⟨(nomatch ·), fun _ => Thins.refl _⟩
  | retireReferences identity sel sequence reason hid hkind =>
    refine ⟨fun _ => Thins.refl _, fun hop => thins_of_withdraws ?_ (entries_retire fun _ => rfl)⟩
    simpa [hop] using hkind
  | addReference identity row hid htask hcurrent hadmits =>
    obtain ⟨envelope, reference, sources, rfl, _⟩ := hadmits
    exact ⟨fun _ => Thins.refl _, (nomatch ·)⟩
  | dropRetired identity hid =>
    rw [(entries_dropRetired _).1, (entries_dropRetired _).2]
    exact ⟨fun _ => Thins.refl _, fun _ => Thins.refl _⟩
  | delete key quota hdeletes =>
    have hop := LedgerOp.withdraws_of_deletes hdeletes
    exact ⟨fun _ => thins_of_withdraws hop ((List.filter_sublist.filter _).map _),
      fun _ => thins_of_withdraws hop ((List.filter_sublist.filter _).map _)⟩
  | gateway | refresh | activate | retire | expire | settle | renew | lead | record | name | create | touch | move
  | collect | acknowledge => exact ⟨fun _ => Thins.refl _, fun _ => Thins.refl _⟩

theorem Changes.entries (h : Changes ext now op s t) :
    (op.admitsFact = false → Thins op s.factEntries t.factEntries) ∧
      (op.admitsReference = false → Thins op s.referenceEntries t.referenceEntries) := by
  induction h with
  | refl => exact ⟨fun _ => Thins.refl _, fun _ => Thins.refl _⟩
  | tail _ hchange ih =>
    exact ⟨fun hop => (ih.1 hop).trans (hchange.entries.1 hop), fun hop => (ih.2 hop).trans (hchange.entries.2 hop)⟩

/-! ## Admissions -/

/-- Recording an event leaves what is current. -/
theorem runs_admitEvent_entries {envelopeDigest canonicalDigest : String} {fields : ContextEventFieldsV1}
    {sources : List ContextVerifiedObservationV1} (hsubject : validReasoningIdentifier fields.subjectId = true) :
    Runs (admitEvent ext now identity envelopeDigest canonicalDigest fields sources) db
      (fun _ t => t.factEntries = db.factEntries ∧ t.referenceEntries = db.referenceEntries) fun _ _ => True := by
  have hmakes : Runs (admitEvent ext now identity envelopeDigest canonicalDigest fields sources) db
      (fun sequence t => Changes ext now (.gc identity 0) db t ∧ t.HasEvent identity sequence) fun _ _ => True :=
    makes_admitEvent rfl rfl hsubject
  refine hmakes.imp ?_
  rintro _ t ⟨hchanges, _⟩
  exact ⟨(hchanges.entries.1 rfl).2 rfl, (hchanges.entries.2 rfl).2 rfl⟩

/-- The envelope was in the ledger and nothing changes, or the version is new and replaces the lower ones. -/
def Admits {κ : Type} [DecidableEq κ] (entries : Tables → List (κ × Nat)) (k : κ) (v : Nat) (db : Tables)
    (outcome : ContextLedgerAppendOutcomeV1) (t : Tables) : Prop :=
  (∃ sequence, outcome = .duplicate sequence) ∧ t = db ∨
    (∃ sequence, outcome = .appended sequence) ∧ (k, v) ∉ entries db ∧ entries t = admitEntry (entries db) k v

/-- `admit_context_fact_v1` replaces the lower versions of its fact, or finds its envelope in the ledger. -/
theorem runs_admitContextFactV1 (envelopeDigest : String) (factVersion : UInt64)
    (fact : Checked ReasoningFactV1.check) (sources : List ContextVerifiedObservationV1) :
    Runs (admitContextFactV1 ext now identity envelopeDigest factVersion fact sources) db
      (Admits factEntries (identity.task, fact.val.factId) factVersion.toNat db) fun _ t => t = db := by
  apply Runs.atomically (E := fun _ _ => True)
  simp only [runs_bind, runs_attempt, runs_refuseIf, implies_true, true_and]
  intro _ _ _
  refine runs_ensureCurrentContextRecipient.imp ?_
  rintro _ t ⟨rfl, _⟩
  intro duplicate _
  cases duplicate with
  | some sequence => exact .inl ⟨⟨sequence, rfl⟩, rfl⟩
  | none =>
    have hsubject : validReasoningIdentifier (factFields fact.val factVersion).subjectId = true :=
      valid_of_checkIdentifier fact.property
    refine (runs_admitEvent_entries hsubject).bind ?_
    rintro sequence u ⟨hfacts, _⟩
    refine (runs_insertFactVersion _).bind ?_
    rintro _ v ⟨rfl, hfresh⟩
    refine .inr ⟨⟨sequence, rfl⟩, ?_⟩
    rw [← hfacts]
    refine entries_admit (fun _ => rfl) (fun f hf => ?_) rfl rfl fun f hf hentry => ?_
    · simp [FactVersion.entry, hf, UInt64.lt_iff_toNat_lt, and_assoc]
    · simp only [FactVersion.entry, Prod.mk.injEq, UInt64.toNat_inj] at hentry
      exact hfresh f hf hentry.1.1 hentry.1.2 hentry.2

/-- `append_context_event_v1` of a reference replaces its lower versions, or finds its envelope in the ledger. -/
theorem runs_appendResultReference (envelopeDigest : String) (reference : Checked ReasoningRetrievalIdentityV1.check)
    (referenceVersion : UInt64) (sources : List ContextVerifiedObservationV1) :
    Runs (appendContextEventV1 ext now identity envelopeDigest (.resultReference reference referenceVersion sources)) db
      (Admits referenceEntries (identity.task, reference.val.resultId) referenceVersion.toNat db)
      fun _ t => t = db := by
  apply Runs.atomically (E := fun _ _ => True)
  simp only [runs_bind, runs_refuseIf, runs_attempt, implies_true, true_and]
  intro _ e he
  obtain ⟨fields, payload, verified⟩ := e
  have hsubject : validReasoningIdentifier fields.subjectId = true := subject_of_contextEventInputFields he
  intro _ _
  refine runs_ensureCurrentContextRecipient.imp ?_
  rintro _ t ⟨rfl, _⟩
  intro duplicate _
  cases duplicate with
  | some sequence => exact .inl ⟨⟨sequence, rfl⟩, rfl⟩
  | none =>
    refine (runs_admitEvent_entries hsubject).bind ?_
    rintro sequence u ⟨_, hreferences⟩
    unfold applyContextEvent
    refine (runs_insertResultReference _).bind ?_
    rintro _ v ⟨rfl, hfresh⟩
    refine .inr ⟨⟨sequence, rfl⟩, ?_⟩
    rw [← hreferences]
    refine entries_admit (fun _ => rfl) (fun r hr => ?_) rfl rfl fun r hr hentry => ?_
    · simp [ResultReference.entry, hr, UInt64.lt_iff_toNat_lt, and_assoc]
    · simp only [ResultReference.entry, Prod.mk.injEq, UInt64.toNat_inj] at hentry
      exact hfresh r hr hentry.1.1 hentry.1.2 hentry.2

end

/-! ## Runs -/

section
variable {κ : Type} (entries : Tables → List (κ × Nat)) (admitted? : Call → Option (κ × Nat))

/-- Some call admitted the version. -/
def Admitted (calls : List Call) (k : κ) (v : Nat) : Prop := ∃ c ∈ calls, admitted? c = some (k, v)

/-- Some retirement, invalidation or deletion took the version back. -/
def Withdrawn (calls : List Call) (k : κ) (v : Nat) : Prop :=
  ∃ c ∈ calls, c.op.withdraws = true ∧ (k, v) ∈ entries c.before ∧ (k, v) ∉ entries c.after

/-- A call admits a version above what is current of its subject, or takes entries back, or does neither. -/
def Ascends [DecidableEq κ] (c : Call) : Prop :=
  admitted? c = none ∧ (entries c.after).Sublist (entries c.before) ∧
      (c.op.withdraws = false → entries c.after = entries c.before) ∨
    ∃ k v, admitted? c = some (k, v) ∧ (∀ w, (k, w) ∈ entries c.before → w < v) ∧
      entries c.after = admitEntry (entries c.before) k v

variable {entries admitted?} [DecidableEq κ]

/-- A run of such calls keeps the versions. -/
theorem Run.versioned {ext : Externals} {calls : List Call} {db : Tables} (h : Run ext calls db)
    (hempty : entries {} = []) (hcalls : ∀ c ∈ calls, Ascends entries admitted? c) :
    Versioned (Admitted admitted? calls) (Withdrawn entries calls) (entries db) := by
  induction h with
  | empty =>
    rw [hempty]
    exact Versioned.nil.mono (by simp [Admitted]) fun _ _ => False.elim
  | @call calls db hrun now op ih =>
    have hold := ih fun c hc => hcalls c (List.mem_append_left _ hc)
    have hlast := hcalls (callOf ext now op db) (by simp)
    rw [Ascends, callOf_before, callOf_op] at hlast
    rcases hlast with ⟨hnone, hsub, hsame⟩ | ⟨k, v, hsome, hbelow, hafter⟩
    · have hadmitted : ∀ k v, Admitted admitted? calls k v ↔
          Admitted admitted? (calls ++ [callOf ext now op db]) k v := by
        simp [Admitted, or_and_right, exists_or, hnone]
      cases hop : op.withdraws with
      | true =>
        refine (hold.withdraw hsub).mono hadmitted ?_
        rintro k v (⟨c, hc, hgone⟩ | ⟨hbefore, hgone⟩)
        · exact ⟨c, List.mem_append_left _ hc, hgone⟩
        · exact ⟨callOf ext now op db, by simp, by simpa using hop, by simpa using hbefore, hgone⟩
      | false =>
        rw [hsame hop]
        refine hold.mono hadmitted ?_
        rintro k v ⟨c, hc, hgone⟩
        exact ⟨c, List.mem_append_left _ hc, hgone⟩
    · rw [hafter, admitEntry]
      refine (hold.supersede hbelow).mono ?_ ?_
      · simp [Admitted, or_and_right, exists_or, hsome, eq_comm]
      · rintro k' v' ⟨c, hc, hgone⟩
        exact ⟨c, List.mem_append_left _ hc, hgone⟩

end

/-! ## Facts and references -/

/-- The fact version the call admitted. -/
def Call.admittedFact? (c : Call) : Option ((ContextTask × String) × Nat) :=
  match c.op, c.reply with
  | .admitFact identity _ version fact _, .ok (.appended (.appended _)) =>
    some ((identity.task, fact.val.factId), version.toNat)
  | _, _ => none

/-- The reference version the call admitted. -/
def Call.admittedReference? (c : Call) : Option ((ContextTask × String) × Nat) :=
  match c.op, c.reply with
  | .append identity _ (.resultReference reference version _), .ok (.appended (.appended _)) =>
    some ((identity.task, reference.val.resultId), version.toNat)
  | _, _ => none

/-- An admission finds no current version above its own. -/
def Call.ascends (c : Call) : Bool :=
  match c.op with
  | .admitFact identity _ version fact _ =>
    decide (∀ f ∈ c.before.facts, f.task = identity.task → f.factId = fact.val.factId → f.retired = none →
      f.factVersion ≤ version)
  | .append identity _ (.resultReference reference version _) =>
    decide (∀ r ∈ c.before.references, r.task = identity.task → r.resultId = reference.val.resultId →
      r.retired = none → r.referenceVersion ≤ version)
  | _ => true

section
variable {ext : Externals}

/-- An admission that is refused or a repetition changes nothing; one that is carried out puts its version on top. -/
theorem ascends_of_admission {κ : Type} [DecidableEq κ] {entries : Tables → List (κ × Nat)}
    {admitted? : Call → Option (κ × Nat)} {c : Call} {k : κ} {v : Nat} {p : LedgerTx ContextLedgerAppendOutcomeV1}
    (hc : c = callOf ext c.now c.op c.before) (hop : c.op.perform ext c.now = .appended <$> p)
    (hruns : Runs p c.before (Admits entries k v c.before) fun _ t => t = c.before)
    (hnone : (∀ sequence, c.reply ≠ .ok (.appended (.appended sequence))) → admitted? c = none)
    (hsome : ∀ sequence, c.reply = .ok (.appended (.appended sequence)) → admitted? c = some (k, v))
    (hbelow : ∀ w, (k, w) ∈ entries c.before → w ≤ v) : Ascends entries admitted? c := by
  have hperform : Runs (c.op.perform ext c.now) c.before
      (fun reply t => ∃ outcome, reply = .appended outcome ∧ Admits entries k v c.before outcome t)
      fun _ t => t = c.before := by
    rw [hop, runs_map]
    exact hruns.imp fun outcome t h => ⟨outcome, rfl, h⟩
  have hunchanged (hreply : ∀ sequence, c.reply ≠ .ok (.appended (.appended sequence))) (hafter : c.after = c.before) :
      Ascends entries admitted? c := by
    refine .inl ⟨hnone hreply, ?_⟩
    rw [hafter]
    exact ⟨List.Sublist.refl _, fun _ => rfl⟩
  rcases reply_of_callOf hc hperform with ⟨⟨error, hreply⟩, hafter⟩ | ⟨_, hreply, outcome, rfl, h⟩
  · exact hunchanged (by simp [hreply]) hafter
  · rcases h with ⟨⟨sequence, rfl⟩, hafter⟩ | ⟨⟨sequence, rfl⟩, hnew, hafter⟩
    · exact hunchanged (by simp [hreply]) hafter
    · refine .inr ⟨k, v, hsome sequence hreply, fun w hw => ?_, hafter⟩
      refine Nat.lt_of_le_of_ne (hbelow w hw) ?_
      rintro rfl
      exact hnew hw

theorem ascends_fact {c : Call} (hc : c = callOf ext c.now c.op c.before) (hascends : c.ascends = true) :
    Ascends factEntries Call.admittedFact? c := by
  cases hop : c.op with
  | admitFact identity envelope version fact sources =>
    refine ascends_of_admission hc (by rw [hop]; rfl) (runs_admitContextFactV1 envelope version fact sources) ?_ ?_ ?_
    · intro hreply
      unfold Call.admittedFact?
      split
      · exact absurd ‹_› (hreply _)
      · rfl
    · intro sequence hreply
      simp [Call.admittedFact?, hop, hreply]
    · intro w hw
      obtain ⟨f, hf, hentry⟩ := List.mem_map.1 hw
      obtain ⟨hf, hnone⟩ := List.mem_filter.1 hf
      simp only [FactVersion.entry, Prod.mk.injEq] at hentry
      obtain ⟨⟨htask, hid⟩, rfl⟩ := hentry
      rw [Call.ascends, hop, decide_eq_true_eq] at hascends
      exact UInt64.le_iff_toNat_le.1 (hascends f hf htask hid (by simpa using hnone))
  | _ =>
    refine .inl ⟨by simp [Call.admittedFact?, hop], ?_⟩
    exact (changes_of_callOf hc).entries.1 (by rw [hop]; rfl)

theorem ascends_reference {c : Call} (hc : c = callOf ext c.now c.op c.before) (hascends : c.ascends = true) :
    Ascends referenceEntries Call.admittedReference? c := by
  by_cases hadmits : ∃ identity envelope reference version sources,
      c.op = .append identity envelope (.resultReference reference version sources)
  · obtain ⟨identity, envelope, reference, version, sources, hop⟩ := hadmits
    refine ascends_of_admission hc (by rw [hop]; rfl)
      (runs_appendResultReference envelope reference version sources) ?_ ?_ ?_
    · intro hreply
      unfold Call.admittedReference?
      split
      · exact absurd ‹_› (hreply _)
      · rfl
    · intro sequence hreply
      simp [Call.admittedReference?, hop, hreply]
    · intro w hw
      obtain ⟨r, hr, hentry⟩ := List.mem_map.1 hw
      obtain ⟨hr, hnone⟩ := List.mem_filter.1 hr
      simp only [ResultReference.entry, Prod.mk.injEq] at hentry
      obtain ⟨⟨htask, hid⟩, rfl⟩ := hentry
      rw [Call.ascends, hop, decide_eq_true_eq] at hascends
      exact UInt64.le_iff_toNat_le.1 (hascends r hr htask hid (by simpa using hnone))
  · have hop : c.op.admitsReference = false := by
      unfold LedgerOp.admitsReference
      split
      case h_1 identity envelope reference version sources hop =>
        exact absurd ⟨identity, envelope, reference, version, sources, hop⟩ hadmits
      case h_2 => rfl
    refine .inl ⟨?_, (changes_of_callOf hc).entries.2 hop⟩
    unfold Call.admittedReference?
    split
    case h_1 identity envelope reference version sources _ hop _ =>
      exact absurd ⟨identity, envelope, reference, version, sources, hop⟩ hadmits
    case h_2 => rfl

end

/-! ## The projection of a task -/

/-- Rows read one by one, those without a value left out: the ids of the values are ids of rows, in the same order. -/
theorem nodup_of_mapM {ρ β κ : Type} {rowId : ρ → κ} {idOf : β → κ} {load : ρ → Except LedgerError (Option β)}
    {rows : List ρ} {loaded : List (Option β)} (hload : ∀ r b, load r = .ok (some b) → idOf b = rowId r)
    (hrows : (rows.map rowId).Nodup) (h : rows.mapM load = .ok loaded) :
    ((loaded.filterMap id).map idOf).Nodup := by
  have hsub : ((loaded.filterMap id).map idOf).Sublist (rows.map rowId) := by
    clear hrows
    induction rows generalizing loaded with
    | nil =>
      simp only [List.mapM_nil, pure_eq_ok] at h
      subst h
      simp
    | cons r rows ih =>
      simp only [List.mapM_cons, bind_eq_ok, pure_eq_ok] at h
      obtain ⟨b, hb, rest, hrest, rfl⟩ := h
      cases b with
      | none => exact (ih hrest).cons _
      | some b =>
        rw [List.filterMap_cons, List.map_cons]
        simp only [id, List.map_cons, hload r b hb]
        exact (ih hrest).cons_cons _
  exact hrows.sublist hsub

section
variable {db : Tables} {identity : ContextLedgerIdentityV1}

theorem factId_of_loadFact {row : FactVersion} {fact : Checked ReasoningFactV1.check}
    (h : db.loadFact identity row = .ok (some fact)) : fact.val.factId = row.factId := by
  unfold loadFact at h
  split at h
  · simp only [bind_eq_ok, pure_eq_ok, Option.some.injEq] at h
    obtain ⟨sources, _, loaded, hloaded, rfl⟩ := h
    rw [val_of_reasoningItem hloaded]
  · cases h

theorem resultId_of_loadReference {row : ResultReference} {reference : Checked ReasoningRetrievalIdentityV1.check}
    (h : db.loadReference identity row = .ok (some reference)) : reference.val.resultId = row.resultId := by
  unfold loadReference at h
  split at h
  · simp only [bind_eq_ok, pure_eq_ok, Option.some.injEq] at h
    obtain ⟨loaded, hloaded, rfl⟩ := h
    rw [val_of_reasoningItem hloaded]
  · cases h

theorem runs_contextTaskSnapshotV1 {now : Int} :
    Runs (contextTaskSnapshotV1 now identity) db
      (fun snapshot _ => db.loadCurrentContextFacts identity = .ok snapshot.currentFacts ∧
        db.loadCurrentContextResults identity = .ok snapshot.resultReferences) fun _ _ => True := by
  refine runs_ensureCurrentContextRecipient.bind ?_
  rintro _ t ⟨rfl, _⟩
  rw [runs_bind, runs_get, runs_attempt]
  refine ⟨fun _ _ => trivial, ?_⟩
  intro snapshot h
  simp only [bind_eq_ok, pure_eq_ok] at h
  obtain ⟨facts, hfacts, _, _, _, _, references, hreferences, _, _, rfl⟩ := h
  exact ⟨hfacts, hreferences⟩

/-- A projection lists each fact and each reference once. -/
theorem nodup_of_snapshot {now : Int} {snapshot : ContextLedgerTaskSnapshotV1} {t : Tables}
    (hfacts : UniqueKey Prod.fst db.factEntries) (hreferences : UniqueKey Prod.fst db.referenceEntries)
    (h : contextTaskSnapshotV1 now identity db = .ok snapshot t) :
    (snapshot.currentFacts.map (·.val.factId)).Nodup ∧ (snapshot.resultReferences.map (·.val.resultId)).Nodup := by
  obtain ⟨hloadedFacts, hloadedReferences⟩ := runs_contextTaskSnapshotV1.ok h
  simp only [loadCurrentContextFacts, bind_eq_ok, pure_eq_ok] at hloadedFacts
  simp only [loadCurrentContextResults, bind_eq_ok, pure_eq_ok] at hloadedReferences
  obtain ⟨loaded, hloaded, hsame⟩ := hloadedFacts
  obtain ⟨loaded', hloaded', hsame'⟩ := hloadedReferences
  rw [← hsame, ← hsame']
  have hfactRows : ((db.currentFactRows identity.task).map (·.factId)).Nodup := by
    simpa [currentFactRows] using
      nodup_current (·.task) (·.factId) (fun _ => rfl) hfacts identity.task maxContextLedgerSnapshotItems
  have hreferenceRows : ((db.currentReferenceRows identity.task).map (·.resultId)).Nodup := by
    simpa [currentReferenceRows] using
      nodup_current (·.task) (·.resultId) (fun _ => rfl) hreferences identity.task maxContextLedgerSnapshotItems
  exact ⟨nodup_of_mapM (fun _ _ => factId_of_loadFact) hfactRows hloaded,
    nodup_of_mapM (fun _ _ => resultId_of_loadReference) hreferenceRows hloaded'⟩

end

/-- Where no admission goes below a current version, every fact and every
reference has at most one current version, which is the highest ever admitted
unless that one was taken back, and a projection lists each of them once. -/
theorem current_versions (ext : Externals) (calls : List Call) (db : Tables) (h : Run ext calls db)
    (hascends : ∀ c ∈ calls, c.ascends = true) :
    ((∀ f ∈ db.facts, ∀ g ∈ db.facts, f.retired = none → g.retired = none → f.task = g.task → f.factId = g.factId → f = g) ∧
      ∀ f ∈ db.facts, f.retired = none → ∀ highest, Admitted Call.admittedFact? calls (f.task, f.factId) highest →
        (∀ v, Admitted Call.admittedFact? calls (f.task, f.factId) v → v ≤ highest) →
        f.factVersion.toNat = highest ∨ Withdrawn Tables.factEntries calls (f.task, f.factId) highest) ∧
    ((∀ r ∈ db.references, ∀ q ∈ db.references, r.retired = none → q.retired = none → r.task = q.task →
        r.resultId = q.resultId → r = q) ∧
      ∀ r ∈ db.references, r.retired = none →
        ∀ highest, Admitted Call.admittedReference? calls (r.task, r.resultId) highest →
        (∀ v, Admitted Call.admittedReference? calls (r.task, r.resultId) v → v ≤ highest) →
        r.referenceVersion.toNat = highest ∨ Withdrawn Tables.referenceEntries calls (r.task, r.resultId) highest) ∧
    ∀ now identity snapshot t, contextTaskSnapshotV1 now identity db = .ok snapshot t →
      (snapshot.currentFacts.map (·.val.factId)).Nodup ∧ (snapshot.resultReferences.map (·.val.resultId)).Nodup := by
  have hfacts : Versioned (Admitted Call.admittedFact? calls) (Withdrawn Tables.factEntries calls) db.factEntries :=
    h.versioned rfl fun c hc => ascends_fact (h.before_of_mem hc).1 (hascends c hc)
  have hreferences : Versioned (Admitted Call.admittedReference? calls) (Withdrawn Tables.referenceEntries calls)
      db.referenceEntries :=
    h.versioned rfl fun c hc => ascends_reference (h.before_of_mem hc).1 (hascends c hc)
  refine ⟨⟨?_, ?_⟩, ⟨?_, ?_⟩, ?_⟩
  · intro f hf g hg hfcurrent hgcurrent htask hid
    exact (currentRows_of_versioned hfacts).1 f hf g hg (by simpa using hfcurrent) (by simpa using hgcurrent)
      (by simp [FactVersion.entry, htask, hid])
  · intro f hf hcurrent
    exact (currentRows_of_versioned hfacts).2 f hf (by simpa using hcurrent)
  · intro r hr q hq hrcurrent hqcurrent htask hid
    exact (currentRows_of_versioned hreferences).1 r hr q hq (by simpa using hrcurrent) (by simpa using hqcurrent)
      (by simp [ResultReference.entry, htask, hid])
  · intro r hr hcurrent
    exact (currentRows_of_versioned hreferences).2 r hr (by simpa using hcurrent)
  · intro now identity snapshot t hsnapshot
    exact nodup_of_snapshot hfacts.single hreferences.single hsnapshot

/-- What the store issues for the result of the gateway's run. -/
def sampleSource : ContextVerifiedObservationV1 where
  source := ⟨⟨sampleResultId, sampleResultId, sampleScope.workspace, zeroDigest,
    gatewayDependencyDigest sumHash sampleRead.input.dependencies, sampleScope.authorizationScopeDigest, "stdout"⟩,
    by decide +kernel⟩
  bindingDigest := sampleRead.bindingDigest sumHash
  dependencies := sampleRead.input.dependencies
  freshnessValidUntilMs := 61000
  totalBytes := 3

def sampleFact : Checked ReasoningFactV1.check :=
  ⟨{ factId := "fact"
     topic := contextVerifiedFactTopic
     statement := contextVerifiedFactStatement
     valueDigest := contextVerifiedFactValueDigest sumHash [sampleSource]
     scope := .repositoryWide
     taskId := none
     sources := [sampleSource.source] }, by decide +kernel⟩

/-- The leader admits versions of one fact in this order. -/
def sampleFactRun (versions : List UInt64) : List (Int × LedgerOp) :=
  [(2020, .gateway (coordinate sumHash {} sampleRun)), (2021, .activate sampleLeader)] ++
    versions.map fun version =>
      (2022, .admitFact sampleLeader (sampleDigest version.toUInt8) version sampleFact [sampleSource])

theorem sampleFactRun_current :
    (record sampleExternals (sampleFactRun [1, 2])).2.factEntries = [((sampleLeader.task, "fact"), 2)] ∧
      ∀ now identity snapshot t,
        contextTaskSnapshotV1 now identity (record sampleExternals (sampleFactRun [1, 2])).2 = .ok snapshot t →
          (snapshot.currentFacts.map (·.val.factId)).Nodup := by
  refine ⟨by decide +kernel, fun now identity snapshot t h => ?_⟩
  have hcurrent := current_versions sampleExternals _ _ (run_record (sampleFactRun [1, 2])) (by decide +kernel)
  exact (hcurrent.2.2 now identity snapshot t h).1

/-- The fact ids a projection returns. -/
def snapshotFactIds (now : Int) (identity : ContextLedgerIdentityV1) (db : Tables) : List String :=
  match contextTaskSnapshotV1 now identity db with
  | .ok snapshot _ => snapshot.currentFacts.map (·.val.factId)
  | .error _ _ => []

/-- After a lower version is admitted, both are current and a projection returns both. -/
theorem lower_version_leaves_two :
    Run sampleExternals (record sampleExternals (sampleFactRun [2, 1])).1
      (record sampleExternals (sampleFactRun [2, 1])).2 ∧
      (record sampleExternals (sampleFactRun [2, 1])).2.factEntries =
        [((sampleLeader.task, "fact"), 2), ((sampleLeader.task, "fact"), 1)] ∧
      snapshotFactIds 2030 sampleLeader (record sampleExternals (sampleFactRun [2, 1])).2 = ["fact", "fact"] :=
  ⟨run_record _, by decide +kernel, by decide +kernel⟩

end Again.Ledger
