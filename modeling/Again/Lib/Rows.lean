import Mathlib.Data.List.Nodup

/-!
# Rows with unique keys

A table is a list of rows; a unique index says that the keys of its rows are
all different. What a lookup by key finds, and which writes keep the index.
-/

namespace Again.Lib

variable {ρ κ : Type}

/-- The rows' keys are all different. -/
def UniqueKey (key : ρ → κ) (rows : List ρ) : Prop := (rows.map key).Nodup

/-- `ORDER BY key DESC LIMIT 1`: of the rows with the greatest key, the first. -/
def latest [LT κ] [DecidableLT κ] (key : ρ → κ) : List ρ → Option ρ
  | [] => none
  | row :: rows =>
    match latest key rows with
    | none => some row
    | some later => if key row < key later then some later else some row

theorem mem_concat {r new : ρ} {rows : List ρ} : r ∈ rows ++ [new] ↔ r ∈ rows ∨ r = new := by
  rw [List.mem_append, List.mem_singleton]

/-- `UPDATE … SET … WHERE …`. -/
def updateWhere (sel : ρ → Bool) (write : ρ → ρ) (rows : List ρ) : List ρ :=
  rows.map fun r => if sel r then write r else r

section updateWhere
variable {sel : ρ → Bool} {write : ρ → ρ} {rows : List ρ}

theorem mem_updateWhere {r : ρ} :
    r ∈ updateWhere sel write rows ↔ ∃ old ∈ rows, (if sel old then write old else old) = r := List.mem_map

/-- A row that is not selected stays. -/
theorem mem_updateWhere_of_not {r : ρ} (hr : r ∈ rows) (hsel : sel r = false) : r ∈ updateWhere sel write rows :=
  mem_updateWhere.2 ⟨r, hr, by simp [hsel]⟩

theorem mem_updateWhere_of_sel {r : ρ} (hr : r ∈ rows) (hsel : sel r = true) : write r ∈ updateWhere sel write rows :=
  mem_updateWhere.2 ⟨r, hr, by simp [hsel]⟩

/-- A column the statement does not write is as before. -/
theorem map_updateWhere {col : ρ → κ} (hcol : ∀ r, col (write r) = col r) :
    (updateWhere sel write rows).map col = rows.map col := by
  rw [updateWhere, List.map_map]
  refine List.map_congr_left fun r _ => ?_
  by_cases h : sel r <;> simp [h, hcol]

/-- A statement that selects no row changes nothing. -/
theorem updateWhere_eq_self (h : rows.countP sel = 0) : updateWhere sel write rows = rows := by
  refine (List.map_congr_left fun r hr => ?_).trans (List.map_id rows)
  have hsel : ¬ sel r = true := List.countP_eq_zero.1 h r hr
  rw [if_neg hsel, id]

/-- What every row satisfies and the statement keeps, every row satisfies after it. -/
theorem forall_updateWhere {P : ρ → Prop} (h : ∀ r ∈ rows, P r) (hwrite : ∀ r ∈ rows, sel r = true → P r → P (write r)) :
    ∀ r ∈ updateWhere sel write rows, P r := by
  intro r hr
  obtain ⟨old, hold, rfl⟩ := mem_updateWhere.1 hr
  by_cases hsel : sel old = true
  · rw [if_pos hsel]
    exact hwrite old hold hsel (h old hold)
  · rw [if_neg hsel]
    exact h old hold

/-- How the statement leaves each row, when that is how it leaves a selected one. -/
theorem forall_write {R : ρ → ρ → Prop} (hrefl : ∀ r, R r r) (hwrite : ∀ r, R r (write r)) :
    ∀ r ∈ rows, R r (if sel r then write r else r) := by
  intro r _
  split
  · exact hwrite r
  · exact hrefl r

section
variable {p : ρ → Prop} [DecidablePred p] {s s' : ρ → Bool} (hwrite : ∀ r, ¬ p (write r))
include hwrite

/-- Two statements that write alike, and skip what is written already, are one. -/
theorem updateWhere_updateWhere :
    updateWhere (fun r => p r ∧ s' r) write (updateWhere (fun r => p r ∧ s r) write rows) =
      updateWhere (fun r => p r ∧ (s r || s' r)) write rows := by
  unfold updateWhere
  rw [List.map_map]
  refine List.map_congr_left fun r _ => ?_
  by_cases hp : p r <;> by_cases hs : s r <;> simp [hp, hs, hwrite]

theorem countP_updateWhere :
    rows.countP (fun r => p r ∧ s r) + (updateWhere (fun r => p r ∧ s r) write rows).countP (fun r => p r ∧ s' r) =
      rows.countP fun r => p r ∧ (s r || s' r) := by
  induction rows with
  | nil => rfl
  | cons r rows ih =>
    unfold updateWhere at ih ⊢
    by_cases hp : p r <;> by_cases hs : s r <;> simp [List.countP_cons, hp, hs, hwrite] at ih ⊢ <;> omega

end

/-- A statement whose selected rows a query no longer finds. -/
theorem filter_updateWhere {p : ρ → Bool} (hwrite : ∀ r, p (write r) = false) :
    (updateWhere sel write rows).filter p = rows.filter fun r => p r && !sel r := by
  induction rows with
  | nil => rfl
  | cons r rows ih =>
    unfold updateWhere at ih ⊢
    by_cases hsel : sel r = true
    · simp [hsel, hwrite, ih]
    · by_cases hp : p r = true <;> simp [hsel, hp, ih]

end updateWhere

/-- A query over columns that a map of the rows keeps. -/
theorem map_filter_map {β : Type} {f : ρ → ρ} {p : ρ → Bool} {col : ρ → β} (rows : List ρ)
    (hp : ∀ r ∈ rows, p (f r) = p r) (hcol : ∀ r ∈ rows, col (f r) = col r) :
    ((rows.map f).filter p).map col = (rows.filter p).map col := by
  induction rows with
  | nil => rfl
  | cons r rows ih =>
    have hrest := ih (fun s hs => hp s (by simp [hs])) fun s hs => hcol s (by simp [hs])
    by_cases hr : p r = true <;> simp [hp r, hcol r, hr, hrest]

namespace UniqueKey

variable {key : ρ → κ} {rows : List ρ}

theorem eq_of_mem (h : UniqueKey key rows) {r s : ρ} (hr : r ∈ rows) (hs : s ∈ rows) (hkey : key r = key s) : r = s :=
  List.inj_on_of_nodup_map h hr hs hkey

/-- A lookup by key finds the row that has it. -/
theorem find?_eq_some [DecidableEq κ] (h : UniqueKey key rows) {r : ρ} (hr : r ∈ rows) {k : κ} (hk : key r = k) :
    rows.find? (fun s => key s = k) = some r := by
  cases hfind : rows.find? (fun s => key s = k) with
  | none =>
    have := List.find?_eq_none.1 hfind r hr
    simp [hk] at this
  | some s =>
    have hs : key s = k := by simpa using List.find?_some hfind
    rw [h.eq_of_mem (List.mem_of_find?_eq_some hfind) hr (hs.trans hk.symm)]

/-- A selection within one key finds the row that has it once. -/
theorem countP_eq_one (h : UniqueKey key rows) {sel : ρ → Bool} {r : ρ} (hr : r ∈ rows) (hsel : sel r = true)
    (honly : ∀ s ∈ rows, sel s = true → key s = key r) : rows.countP sel = 1 := by
  induction rows with
  | nil => simp at hr
  | cons a rows ih =>
    have htail : UniqueKey key rows := List.Nodup.of_cons h
    have hhead : key a ∉ rows.map key := (List.nodup_cons.1 h).1
    rcases List.mem_cons.1 hr with rfl | hr
    · have hnone : rows.countP sel = 0 := by
        refine List.countP_eq_zero.2 fun s hs hss => hhead ?_
        exact List.mem_map.2 ⟨s, hs, honly s (List.mem_cons_of_mem _ hs) hss⟩
      rw [List.countP_cons_of_pos hsel, hnone]
    · have ha : ¬ sel a = true := by
        intro hsa
        apply hhead
        rw [honly a List.mem_cons_self hsa]
        exact List.mem_map_of_mem hr
      rw [List.countP_cons_of_neg ha]
      exact ih htail hr fun s hs => honly s (List.mem_cons_of_mem _ hs)

/-- A selection whose rows have one key finds at most one row. -/
theorem countP_le_one (h : UniqueKey key rows) {sel : ρ → Bool}
    (honly : ∀ r ∈ rows, ∀ s ∈ rows, sel r = true → sel s = true → key s = key r) : rows.countP sel ≤ 1 := by
  by_cases hnone : ∀ r ∈ rows, ¬ sel r = true
  · rw [List.countP_eq_zero.2 hnone]
    exact Nat.zero_le 1
  · push Not at hnone
    obtain ⟨r, hr, hsel⟩ := hnone
    exact Nat.le_of_eq (h.countP_eq_one hr hsel fun s hs hss => honly r hr s hs hsel hss)

theorem append (h : UniqueKey key rows) {r : ρ} (hr : ∀ s ∈ rows, key s ≠ key r) : UniqueKey key (rows ++ [r]) := by
  unfold UniqueKey
  rw [List.map_append, List.nodup_append]
  refine ⟨h, by simp, ?_⟩
  intro k hk k' hk'
  obtain ⟨s, hs, rfl⟩ := List.mem_map.1 hk
  obtain rfl : k' = key r := by simpa using hk'
  exact hr s hs

theorem sublist {rows' : List ρ} (h : UniqueKey key rows) (hsub : rows'.Sublist rows) : UniqueKey key rows' :=
  List.Nodup.sublist (hsub.map key) h

theorem map_of_mem (h : UniqueKey key rows) {f : ρ → ρ} (hf : ∀ r ∈ rows, key (f r) = key r) :
    UniqueKey key (rows.map f) := by
  have hkeys : rows.map (key ∘ f) = rows.map key := List.map_congr_left hf
  unfold UniqueKey
  rw [List.map_map, hkeys]
  exact h

theorem updateWhere (h : UniqueKey key rows) {sel : ρ → Bool} {write : ρ → ρ} (hkey : ∀ r, key (write r) = key r) :
    UniqueKey key (updateWhere sel write rows) := by
  unfold UniqueKey
  rw [map_updateWhere hkey]
  exact h

end UniqueKey

end Again.Lib
