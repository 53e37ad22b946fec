import Again.Gateway.CoordinatorInvariant
import Again.Ledger.Histories

/-!
# The lifecycle of a task

The transition log of a task is complete: it counts its generations from one,
each entry goes on from the one before by a step the lifecycle has, and the last
one is the state the task is in. A task that does not wait has its dependencies
completed, and keeps them: a completed task changes no more, and is not deleted
while another task refers to it.
-/

namespace Again.Ledger

open Lib Gateway Tables

variable {identity : ContextLedgerIdentityV1} {t : TaskTransition}

/-- The steps of the lifecycle. -/
def TaskStateV1.steps : TaskStateV1 → TaskStateV1 → Bool
  | .waiting, .active | .blocked, .active => true
  | .active, .blocked | .active, .completed | .active, .failed | .active, .cancelled => true
  | _, _ => false

theorem TaskStateV1.not_terminal_of_steps {s t : TaskStateV1} (h : s.steps t = true) : s.isTerminal = false := by
  cases s <;> cases t <;> first | rfl | cases h

/-- The transitions of a task, in the order of their insertion. -/
def Tables.transitionsOf (db : Tables) (key : TaskKey) : List TaskTransition := db.transitions.filter fun t => t.key = key

/-- A complete transition log that ends in a state and a generation. -/
structure TransitionLog (log : List TaskTransition) (state : TaskStateV1) (generation : Nat) : Prop where
  inOrder : (log.map (·.sequence)).Pairwise (· < ·)
  generations : log.map (·.stateGeneration) = List.range' 1 log.length
  starts : ∃ t, log.head? = some t ∧ t.fromState = none ∧ (t.toState = .active ∨ t.toState = .waiting)
  chains : log.IsChain fun s t => t.fromState = some s.toState
  ends : ∃ t, log.getLast? = some t ∧ t.toState = state ∧ t.stateGeneration = generation
  steps : ∀ t ∈ log.tail, ∃ s, t.fromState = some s ∧ s.steps t.toState = true
  final : log.IsChain fun s _ => s.toState.isTerminal = false

/-- A task's first transition. -/
theorem transitionLog_singleton (hfrom : t.fromState = none) (hgeneration : t.stateGeneration = 1)
    (hto : t.toState = .active ∨ t.toState = .waiting) : TransitionLog [t] t.toState 1 where
  inOrder := by simp
  generations := by simp [hgeneration]
  starts := ⟨t, rfl, hfrom, hto⟩
  chains := by simp
  ends := ⟨t, rfl, rfl, hgeneration⟩
  steps := by simp
  final := by simp

/-- One more step of the lifecycle. -/
theorem TransitionLog.append {log : List TaskTransition} {state : TaskStateV1} {generation : Nat}
    (h : TransitionLog log state generation) (hsequence : ∀ s ∈ log, s.sequence < t.sequence)
    (hfrom : t.fromState = some state) (hgeneration : t.stateGeneration = generation + 1)
    (hstep : state.steps t.toState = true) : TransitionLog (log ++ [t]) t.toState (generation + 1) := by
  obtain ⟨last, hlast, rfl, rfl⟩ := h.ends
  obtain ⟨first, hfirst, hnone, hstart⟩ := h.starts
  have hne : log ≠ [] := by
    rintro rfl
    cases hfirst
  have hlength : last.stateGeneration = log.length := by
    have hlast' : (log.map (·.stateGeneration)).getLast? = some last.stateGeneration := by simp [hlast]
    have hpos : 0 < log.length := List.length_pos_iff.2 hne
    rw [h.generations, List.getLast?_range'] at hlast'
    rw [if_neg (by omega)] at hlast'
    simp only [Option.some.injEq] at hlast'
    omega
  constructor
  case inOrder =>
    rw [List.map_append, List.pairwise_append]
    refine ⟨h.inOrder, by simp, ?_⟩
    intro a ha b hb
    obtain ⟨s, hs, rfl⟩ := List.mem_map.1 ha
    obtain rfl : b = t.sequence := by simpa using hb
    exact hsequence s hs
  case generations =>
    rw [List.map_append, h.generations, List.length_append, List.length_singleton, List.range'_concat]
    simp [hgeneration, hlength, Nat.add_comm]
  case starts => exact ⟨first, by rw [List.head?_append, hfirst]; rfl, hnone, hstart⟩
  case chains =>
    rw [List.isChain_append]
    refine ⟨h.chains, by simp, ?_⟩
    intro a ha b hb
    rw [hlast] at ha
    cases ha
    cases hb
    exact hfrom
  case ends => exact ⟨t, by simp, rfl, hgeneration⟩
  case steps =>
    rw [List.tail_append_of_ne_nil hne]
    exact List.forall_mem_append.2 ⟨h.steps, List.forall_mem_singleton.2 ⟨_, hfrom, hstep⟩⟩
  case final =>
    rw [List.isChain_append]
    refine ⟨h.final, by simp, ?_⟩
    intro a ha b hb
    rw [hlast] at ha
    cases ha
    exact TaskStateV1.not_terminal_of_steps hstep

/-! ## The invariant -/

/-- What holds of the tasks in every state a run reaches. -/
structure Lifecycle (db : Tables) : Prop where
  unique : UniqueKey (·.key) db.tasks
  logs : ∀ row ∈ db.tasks, TransitionLog (db.transitionsOf row.key) row.state row.stateGeneration
  recorded : ∀ t ∈ db.transitions, t.sequence ≤ db.lastTransitionSequence ∧ ∃ row ∈ db.tasks, row.key = t.key
  related : ∀ r ∈ db.relations, (∃ row ∈ db.tasks, row.key = r.sourceKey) ∧ ∃ row ∈ db.tasks, row.key = r.targetKey
  ready : ∀ row ∈ db.tasks, row.state ≠ .waiting → ∀ r ∈ db.relations, r.sourceKey = row.key →
    r.relationKind = .dependency → ∃ t ∈ db.tasks, t.key = r.targetKey ∧ t.state = .completed

namespace Lifecycle

variable {db : Tables}

theorem empty : Lifecycle {} := by
  constructor <;> simp [UniqueKey]

/-- The other tables do not matter. -/
theorem congr (h : Lifecycle db) {db' : Tables} (htasks : db'.tasks = db.tasks)
    (htransitions : db'.transitions = db.transitions) (hlast : db'.lastTransitionSequence = db.lastTransitionSequence)
    (hrelations : db'.relations = db.relations) : Lifecycle db' := by
  constructor
  case unique => rw [htasks]; exact h.unique
  case logs => simpa only [transitionsOf, htasks, htransitions] using h.logs
  case recorded => simpa only [htasks, htransitions, hlast] using h.recorded
  case related => simpa only [htasks, hrelations] using h.related
  case ready => simpa only [htasks, hrelations] using h.ready

theorem row_eq (h : Lifecycle db) {s t : TaskRow} (hs : s ∈ db.tasks) (ht : t ∈ db.tasks) (hkey : s.key = t.key) :
    s = t := h.unique.eq_of_mem hs ht hkey

end Lifecycle

section
variable {ext : Externals} {now : Int} {db : Tables}

/-- A new transition is at the end of its task's log and in no other. -/
theorem transitionsOf_addTransition (t : TaskTransition) (key : TaskKey) :
    (db.addTransition t).transitionsOf key = db.transitionsOf key ++ if t.key = key then [t] else [] := by
  by_cases hkey : t.key = key <;> simp [transitionsOf, addTransition, hkey]

theorem Lifecycle.touch (h : Lifecycle db) (key : TaskKey) : Lifecycle (db.touchTask key now) := by
  have hkeys : ∀ k, (∃ row ∈ db.tasks, row.key = k) → ∃ row ∈ (db.touchTask key now).tasks, row.key = k := by
    rintro k ⟨row, hrow, rfl⟩
    refine ⟨_, mem_updateWhere.2 ⟨row, hrow, rfl⟩, ?_⟩
    split <;> rfl
  constructor
  case unique => exact h.unique.updateWhere fun _ => rfl
  case logs => exact forall_updateWhere h.logs fun _ _ _ hlog => hlog
  case recorded => exact fun t ht => ⟨(h.recorded t ht).1, hkeys _ (h.recorded t ht).2⟩
  case related => exact fun r hr => ⟨hkeys _ (h.related r hr).1, hkeys _ (h.related r hr).2⟩
  case ready =>
    have hready : ∀ row ∈ db.tasks, row.state ≠ .waiting → ∀ r ∈ db.relations, r.sourceKey = row.key →
        r.relationKind = .dependency → ∃ t ∈ (db.touchTask key now).tasks, t.key = r.targetKey ∧ t.state = .completed := by
      intro row hrow hstate r hr hsource hkind
      obtain ⟨t, ht, hkey, hcompleted⟩ := h.ready row hrow hstate r hr hsource hkind
      refine ⟨_, mem_updateWhere.2 ⟨t, ht, rfl⟩, ?_⟩
      split <;> exact ⟨hkey, hcompleted⟩
    exact forall_updateWhere hready fun _ _ _ hrow => hrow

/-! ## A task that moves -/

/-- The row after its compare-and-swap. -/
def TaskRow.moved (row : TaskRow) (target : TaskStateV1) (now : Int) : TaskRow :=
  { row with state := target, stateGeneration := row.stateGeneration + 1, updatedMs := now }

variable {row : TaskRow} {transition : TaskTransition} {quota : WorkspaceQuota}

theorem Lifecycle.mem_setTaskState (h : Lifecycle db) (hrow : row ∈ db.tasks) {target : TaskStateV1} {t : TaskRow} :
    t ∈ (db.setTaskState row.key row.state target row.stateGeneration now).tasks ↔
      t ∈ db.tasks ∧ t.key ≠ row.key ∨ t = row.moved target now := by
  constructor
  · intro ht
    obtain ⟨old, hold, rfl⟩ := mem_updateWhere.1 ht
    by_cases hkey : old.key = row.key
    · obtain rfl := h.row_eq hold hrow hkey
      rw [if_pos (by simp)]
      exact .inr rfl
    · rw [if_neg (by simp [hkey])]
      exact .inl ⟨hold, hkey⟩
  · rintro (⟨ht, hkey⟩ | rfl)
    · exact mem_updateWhere_of_not ht (by simp [hkey])
    · refine mem_updateWhere.2 ⟨row, hrow, ?_⟩
      rw [if_pos (by simp)]
      rfl

/-- The states a task moves between. -/
theorem MovesTask.steps (hmoves : MovesTask ext db identity row transition quota) :
    row.state.steps transition.toState = true := by
  rcases hmoves.allowed with ⟨hfrom, hto, _⟩ | ⟨hfrom, hto, _⟩ | ⟨hfrom, hto, _⟩
  · rw [hfrom, hto]; rfl
  · rw [hfrom, hto]; rfl
  · rw [hfrom]
    cases htarget : transition.toState <;> simp [htarget, TaskStateV1.isDecision] at hto <;> rfl

theorem Lifecycle.move (h : Lifecycle db) (hmoves : MovesTask ext db identity row transition quota) :
    Lifecycle (((db.setTaskState identity.key row.state transition.toState row.stateGeneration now).withQuota
      quota).addTransition transition) := by
  have hsteps := hmoves.steps
  rw [← hmoves.own]
  have hmem : ∀ t, t ∈ (db.setTaskState row.key row.state transition.toState row.stateGeneration now).tasks ↔
      t ∈ db.tasks ∧ t.key ≠ row.key ∨ t = row.moved transition.toState now :=
    fun _ => h.mem_setTaskState hmoves.found
  have hkeys : ∀ k, (∃ t ∈ db.tasks, t.key = k) →
      ∃ t ∈ (db.setTaskState row.key row.state transition.toState row.stateGeneration now).tasks, t.key = k := by
    rintro k ⟨t, ht, rfl⟩
    by_cases hkey : t.key = row.key
    · exact ⟨row.moved transition.toState now, (hmem _).2 (.inr rfl), hkey.symm⟩
    · exact ⟨t, (hmem t).2 (.inl ⟨ht, hkey⟩), rfl⟩
  obtain ⟨hkey, hfrom, hgeneration⟩ := hmoves.recorded
  have hown : transition.key = row.key := hkey.trans hmoves.own.symm
  constructor
  case unique => exact h.unique.updateWhere fun _ => rfl
  case logs =>
    intro t ht
    rcases (hmem t).1 ht with ⟨ht, hother⟩ | rfl
    · rw [transitionsOf_addTransition, if_neg (by rw [hown]; exact Ne.symm hother), List.append_nil]
      exact h.logs t ht
    · rw [transitionsOf_addTransition, if_pos (show transition.key = (row.moved transition.toState now).key from hown)]
      refine (h.logs row hmoves.found).append ?_ hfrom hgeneration hsteps
      intro s hs
      have hbound := (h.recorded s (List.mem_of_mem_filter hs)).1
      rw [hmoves.sequence]
      omega
  case recorded =>
    intro t ht
    rcases mem_concat.1 ht with ht | rfl
    · obtain ⟨hbound, hknown⟩ := h.recorded t ht
      refine ⟨?_, hkeys _ hknown⟩
      show t.sequence ≤ transition.sequence
      rw [hmoves.sequence]
      omega
    · exact ⟨Nat.le_refl _, hkeys _ ⟨row, hmoves.found, hown.symm⟩⟩
  case related => exact fun r hr => ⟨hkeys _ (h.related r hr).1, hkeys _ (h.related r hr).2⟩
  case ready =>
    -- A completed task is not the one that moves, so what was completed still is.
    have hkept : ∀ k, (∃ t ∈ db.tasks, t.key = k ∧ t.state = .completed) →
        ∃ t ∈ (db.setTaskState row.key row.state transition.toState row.stateGeneration now).tasks,
          t.key = k ∧ t.state = .completed := by
      rintro k ⟨t, ht, rfl, hcompleted⟩
      refine ⟨t, (hmem t).2 (.inl ⟨ht, ?_⟩), rfl, hcompleted⟩
      intro hsame
      obtain rfl := h.row_eq ht hmoves.found hsame
      rw [hcompleted] at hsteps
      cases htarget : transition.toState <;> rw [htarget] at hsteps <;> cases hsteps
    intro t ht hstate r hr hsource hkind
    rcases (hmem t).1 ht with ⟨ht, _⟩ | rfl
    · exact hkept _ (h.ready t ht hstate r hr hsource hkind)
    · refine hkept _ ?_
      by_cases hwaiting : row.state = .waiting
      · rcases hmoves.allowed with ⟨_, _, _, hcompleted⟩ | ⟨hblocked, _⟩ | ⟨hactive, _⟩
        · obtain ⟨target, htarget, hdone⟩ := hcompleted r hr hsource hkind
          obtain ⟨hmem, hkey⟩ := task?_eq_some htarget
          exact ⟨target, hmem, hkey, hdone⟩
        · rw [hwaiting] at hblocked
          cases hblocked
        · rw [hwaiting] at hactive
          cases hactive
      · exact h.ready row hmoves.found hwaiting r hr hsource hkind

/-! ## A task that is created -/

theorem Lifecycle.create (h : Lifecycle db) {relations : List TaskRelation}
    (hcreates : CreatesTask ext db row relations transition quota) :
    Lifecycle (((db.withQuota quota).addTask row relations).addTransition transition) := by
  obtain ⟨hkey, hfrom, hto, hgeneration, _⟩ := hcreates.recorded
  have hkept : ∀ t ∈ db.tasks, t ∈ db.tasks ++ [row] := fun t ht => List.mem_append_left _ ht
  constructor
  case unique => exact h.unique.append hcreates.fresh
  case logs =>
    intro t ht
    rw [transitionsOf_addTransition, hkey]
    rcases mem_concat.1 ht with ht | rfl
    · rw [if_neg (Ne.symm (hcreates.fresh t ht)), List.append_nil]
      exact h.logs t ht
    · have hnone : db.transitionsOf t.key = [] := by
        refine List.filter_eq_nil_iff.2 fun s hs hsame => ?_
        obtain ⟨old, hold, holdKey⟩ := (h.recorded s hs).2
        exact hcreates.fresh old hold (holdKey.trans (by simpa using hsame))
      show TransitionLog (db.transitionsOf t.key ++ _) t.state t.stateGeneration
      rw [hnone, if_pos rfl, List.nil_append, ← hto, hcreates.generation]
      exact transitionLog_singleton hfrom hgeneration (hto ▸ hcreates.starts)
  case recorded =>
    intro t ht
    rcases mem_concat.1 ht with ht | rfl
    · obtain ⟨hbound, old, hold, holdKey⟩ := h.recorded t ht
      refine ⟨?_, old, hkept old hold, holdKey⟩
      show t.sequence ≤ transition.sequence
      rw [hcreates.sequence]
      omega
    · exact ⟨Nat.le_refl _, row, by simp [addTask, addTransition], hkey.symm⟩
  case related =>
    intro r hr
    rcases List.mem_append.1 hr with hr | hr
    · obtain ⟨⟨s, hs, hsource⟩, t, ht, htarget⟩ := h.related r hr
      exact ⟨⟨s, hkept s hs, hsource⟩, t, hkept t ht, htarget⟩
    · obtain ⟨t, ht, htarget⟩ := hcreates.known r hr
      exact ⟨⟨row, by simp [addTask, addTransition], (hcreates.own r hr).symm⟩, t, hkept t ht, htarget⟩
  case ready =>
    intro t ht hstate r hr hsource hkind
    have hlift : (∃ t ∈ db.tasks, t.key = r.targetKey ∧ t.state = .completed) →
        ∃ t ∈ db.tasks ++ [row], t.key = r.targetKey ∧ t.state = .completed :=
      fun ⟨t, ht, h⟩ => ⟨t, hkept t ht, h⟩
    apply hlift
    rcases mem_concat.1 ht with hold | rfl <;> rcases List.mem_append.1 hr with hold' | hnew'
    · exact h.ready t hold hstate r hold' hsource hkind
    · exact absurd ((hcreates.own r hnew').symm.trans hsource).symm (hcreates.fresh t hold)
    · -- No relation of a task that is not there yet is left from before.
      obtain ⟨⟨s, hs, hkeyOf⟩, _⟩ := h.related r hold'
      exact absurd (hkeyOf.trans hsource) (hcreates.fresh s hs)
    · have hactive : t.state = .active := hcreates.starts.resolve_right hstate
      obtain ⟨target, htarget, hdone⟩ := hcreates.ready hactive r hnew' hkind
      obtain ⟨hmem, hkey⟩ := task?_eq_some htarget
      exact ⟨target, hmem, hkey, hdone⟩

/-! ## A task that is deleted -/

theorem Lifecycle.delete (h : Lifecycle db) {key : TaskKey} (hdeletes : DeletesTask ext db key quota) :
    Lifecycle ((db.deleteTask key).withQuota quota) := by
  have hkept : ∀ t ∈ db.tasks, t.key ≠ key → t ∈ (db.deleteTask key).tasks := by
    intro t ht hother
    simp [deleteTask, ht, hother]
  have hdrop : ∀ t ∈ (db.deleteTask key).tasks, t ∈ db.tasks ∧ t.key ≠ key := by
    simp [deleteTask]
  constructor
  case unique => exact h.unique.sublist List.filter_sublist
  case logs =>
    intro t ht
    obtain ⟨ht, hother⟩ := hdrop t ht
    have hsame : ((db.deleteTask key).withQuota quota).transitionsOf t.key = db.transitionsOf t.key := by
      show (db.transitions.filter _).filter _ = db.transitions.filter _
      rw [List.filter_filter]
      refine List.filter_congr fun s _ => ?_
      by_cases hs : s.key = t.key <;> simp [hs, hother]
    rw [hsame]
    exact h.logs t ht
  case recorded =>
    intro t ht
    have ht' : t ∈ db.transitions ∧ t.key ≠ key := by simpa [deleteTask, withQuota] using ht
    obtain ⟨hbound, row, hrow, hkey⟩ := h.recorded t ht'.1
    exact ⟨hbound, row, hkept row hrow (by rw [hkey]; exact ht'.2), hkey⟩
  case related =>
    intro r hr
    have hr' : r ∈ db.relations ∧ r.sourceKey ≠ key := by simpa [deleteTask, withQuota] using hr
    obtain ⟨⟨s, hs, hsource⟩, t, ht, htarget⟩ := h.related r hr'.1
    refine ⟨⟨s, hkept s hs (by rw [hsource]; exact hr'.2), hsource⟩, t, hkept t ht ?_, htarget⟩
    rw [htarget]
    exact hdeletes.unreferenced r hr'.1
  case ready =>
    intro t ht hstate r hr hsource hkind
    have hr' : r ∈ db.relations := List.mem_of_mem_filter hr
    obtain ⟨target, htarget, hkey, hdone⟩ := h.ready t (hdrop t ht).1 hstate r hr' hsource hkind
    refine ⟨target, hkept target htarget ?_, hkey, hdone⟩
    rw [hkey]
    exact hdeletes.unreferenced r hr'

/-! ## Every change, every run -/

theorem Lifecycle.change {op : LedgerOp} {db' : Tables} (h : Lifecycle db) (hchange : Change ext now op db db') :
    Lifecycle db' := by
  cases hchange with
  | create row relations transition quota hop hcreates => exact h.create hcreates
  | touch key => exact h.touch key
  | move identity row transition quota hop hmoves => exact h.move hmoves
  | delete key quota hop hdeletes => exact h.delete hdeletes
  | gateway | refresh | activate | retire | expire | settle | renew | lead | record | name | retireFacts | addFact
  | retireReferences | addReference | dropRetired | collect | acknowledge => exact h.congr rfl rfl rfl rfl

theorem Run.lifecycle {calls : List Call} (h : Run ext calls db) : Lifecycle db :=
  h.keeps Lifecycle.empty Lifecycle.change

/-- The tasks can be ranked below those they are related to. -/
def Ranked (db : Tables) : Prop :=
  Lifecycle db ∧ ∃ rank : TaskKey → Nat, ∀ r ∈ db.relations, rank r.sourceKey < rank r.targetKey

theorem Ranked.change {op : LedgerOp} {db' : Tables} (h : Ranked db) (hchange : Change ext now op db db') :
    Ranked db' := by
  obtain ⟨hlife, rank, hrank⟩ := h
  refine ⟨hlife.change hchange, ?_⟩
  cases hchange with
  | create row _ _ _ _ hcreates =>
    -- relations lead from the new task to older ones, so it goes below them all
    have hold : ∀ key, (∃ t ∈ db.tasks, t.key = key) → key ≠ row.key := by
      rintro _ ⟨t, ht, rfl⟩
      exact hcreates.fresh t ht
    refine ⟨fun key => if key = row.key then 0 else rank key + 1, fun r hr => ?_⟩
    rcases List.mem_append.1 hr with hr | hr
    · simp [hold _ (hlife.related r hr).1, hold _ (hlife.related r hr).2, hrank r hr]
    · simp [hcreates.own r hr, hold _ (hcreates.known r hr)]
  | delete => exact ⟨rank, fun r hr => hrank r (List.mem_of_mem_filter hr)⟩
  | _ => exact ⟨rank, hrank⟩

/-- In every state a run reaches, relations join tasks that exist and never lead back. -/
theorem relations_acyclic (ext : Externals) (steps : List (Int × LedgerOp)) : let db := (record ext steps).2
    (∀ r ∈ db.relations, (∃ row ∈ db.tasks, row.key = r.sourceKey) ∧ ∃ row ∈ db.tasks, row.key = r.targetKey) ∧
      ∀ key, ¬ Relation.TransGen (fun a b => ∃ r ∈ db.relations, r.sourceKey = a ∧ r.targetKey = b) key key := by
  obtain ⟨hlife, rank, hrank⟩ : Ranked (record ext steps).2 :=
    (run_record steps).keeps ⟨.empty, fun _ => 0, by simp⟩ Ranked.change
  refine ⟨hlife.related, fun key hcycle => ?_⟩
  have hlift : Relation.TransGen (· < ·) (rank key) (rank key) := by
    refine hcycle.lift rank ?_
    rintro _ _ ⟨r, hr, rfl, rfl⟩
    exact hrank r hr
  rw [Relation.transGen_eq_self] at hlift
  exact lt_irrefl _ hlift

end

/-- Every task of every reachable state has a complete log, and unless it waits its dependencies are completed. -/
theorem task_lifecycle (ext : Externals) (calls : List Call) (db : Tables) (h : Run ext calls db) :
    ∀ row ∈ db.tasks, TransitionLog (db.transitionsOf row.key) row.state row.stateGeneration ∧
      (row.state ≠ .waiting → ∀ r ∈ db.relations, r.sourceKey = row.key → r.relationKind = .dependency →
        ∃ t ∈ db.tasks, t.key = r.targetKey ∧ t.state = .completed) :=
  fun row hrow => ⟨h.lifecycle.logs row hrow, h.lifecycle.ready row hrow⟩

/-- Stands in for what a run is evaluated with outside the store. -/
def sampleExternals : Externals where
  blake3 := sumHash
  toVec _ := []
  criteriaToString _ := "[]"
  criteriaFromStr json := if json = "[]" then some [] else none

def sampleDigest (b : UInt8) : String := toHex (List.replicate 32 b)

def sampleScope : TaskScope := ⟨⟨"repo", "ws"⟩, sampleDigest 0⟩

/-- An agent at work on a task of the scope. -/
def sampleIdentity (taskId agentId : String) (h : (IdentityFields.check
    { key := ⟨sampleScope, taskId⟩, agentId, sessionId := "s", turnId := "t", connectionGeneration := sampleDigest 0
      compactionGeneration := 0, lifecycleGeneration := 1 }) = .ok ()) : ContextLedgerIdentityV1 := ⟨_, h⟩

/-- A task, and a second one that waits for it. -/
def sampleDefinition (prompt : String) (dependencies : List String) : TaskDefinitionV1 :=
  { prompt
    acceptanceCriteria := []
    parentTaskId := none
    dependencyTaskIds := dependencies
    supersedesTaskId := none
    definitionDigest := "" }

def sampleLeader : ContextLedgerIdentityV1 := sampleIdentity "a" "leader" (by decide +kernel)
def sampleFollower : ContextLedgerIdentityV1 := sampleIdentity "b" "follower" (by decide +kernel)

def sampleUuid (b : UInt8) : Octets 16 := Octets.fill 16 b

/-- The first task is completed under its claim, then the second is claimed. -/
def sampleTaskRun : List (Int × LedgerOp) :=
  [(1, .start sampleScope "a" (sampleDefinition "first" [])),
   (2, .start sampleScope "b" (sampleDefinition "second" ["a"])),
   (3, .activate sampleLeader),
   (4, .claim (sampleUuid 1) sampleLeader 1 1000 5000),
   (5, .transition sampleLeader (leaseIdOf (sampleUuid 1)) 1 .completed "done"),
   (6, .activate sampleFollower),
   (7, .claim (sampleUuid 2) sampleFollower 1 1000 5000)]

theorem sampleTaskRun_lifecycle :
    (record sampleExternals sampleTaskRun).2.tasks.map (·.state) = [.completed, .active] ∧
      ((record sampleExternals sampleTaskRun).2.transitionsOf ⟨sampleScope, "b"⟩).map (·.toState) = [.waiting, .active] ∧
      ∀ row ∈ (record sampleExternals sampleTaskRun).2.tasks,
        TransitionLog ((record sampleExternals sampleTaskRun).2.transitionsOf row.key) row.state row.stateGeneration :=
  ⟨by decide +kernel, by decide +kernel, fun row hrow => (task_lifecycle _ _ _ (run_record sampleTaskRun) row hrow).1⟩

end Again.Ledger
