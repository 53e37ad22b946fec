import Mathlib.Data.List.Sort
import Again.Lib.Guards

/-!
# Sorting by a key and merging repeats

A list is sorted by a comparison that may overlook part of an element; runs of
equal elements are merged, and two different elements that compare equal are
refused. The result depends only on which elements the list holds.
-/

namespace Again.Lib

variable {α ε : Type} [DecidableEq α] (c : α → α → Ordering) (e : ε)

variable {xs ys normalized : List α}

/-- Push `a`: a repeat of the last element is dropped, another element under its key refused. -/
def mergeRepeat (normalized : List α) (a : α) : Except ε (List α) :=
  match normalized.getLast? with
  | some previous =>
    if c previous a = .eq then if previous = a then pure normalized else throw e
    else pure (normalized ++ [a])
  | none => pure (normalized ++ [a])

/-- Sort, then merge neighbours. A stable sort has one result, so the insertion sort stands for any. -/
def sortMerge (xs : List α) : Except ε (List α) :=
  (xs.insertionSort fun a b => c a b ≠ .gt).foldlM (mergeRepeat c e) []

/-- Ascending, no two elements under one key. -/
abbrev Strict (xs : List α) : Prop := xs.Pairwise fun a b => c a b = .lt

/-- Elements under one key are the same. -/
def Keyed (xs : List α) : Prop := ∀ a ∈ xs, ∀ b ∈ xs, c a b = .eq → a = b

variable {c} {e}

section Strict

variable [Std.TransCmp c]

omit [DecidableEq α] in
theorem Strict.nodup (h : Strict c xs) : xs.Nodup := by
  refine h.imp fun {a b} hab heq => ?_
  subst heq
  rw [(Std.ReflCmp.compare_self : c a a = .eq)] at hab
  cases hab

omit [DecidableEq α] in
theorem Strict.keyed (h : Strict c xs) : Keyed c xs := by
  induction xs with
  | nil => exact fun a ha => nomatch ha
  | cons x xs ih =>
    obtain ⟨hx, hxs⟩ := List.pairwise_cons.mp h
    intro a ha b hb hab
    rcases List.mem_cons.mp ha with hax | ha <;> rcases List.mem_cons.mp hb with hbx | hb
    · rw [hax, hbx]
    · rw [hax, hx b hb] at hab
      cases hab
    · rw [hbx, (Std.OrientedCmp.eq_swap : c a x = (c x a).swap), hx a ha] at hab
      cases hab
    · exact ih hxs a ha b hb hab

omit [DecidableEq α] in
/-- The elements determine an ascending list. -/
theorem Strict.ext (hxs : Strict c xs) (hys : Strict c ys) (h : ∀ a, a ∈ xs ↔ a ∈ ys) : xs = ys := by
  have hperm : xs.Perm ys := (List.perm_ext_iff_of_nodup hxs.nodup hys.nodup).mpr h
  refine hperm.eq_of_pairwise (fun a b _ _ hab hba => ?_) hxs hys
  exact absurd hba (Std.OrientedCmp.not_lt_of_lt hab)

/-! ### Sorted lists -/

omit [DecidableEq α] in
theorem pairwise_sort (xs : List α) :
    (xs.insertionSort fun a b => c a b ≠ .gt).Pairwise fun a b => c a b ≠ .gt := by
  have htotal : Std.Total fun a b : α => c a b ≠ .gt := ⟨fun a b => by
    by_contra h
    push Not at h
    rw [(Std.OrientedCmp.eq_swap : c a b = (c b a).swap), h.2] at h
    cases h.1⟩
  have htrans : IsTrans α fun a b => c a b ≠ .gt := ⟨fun x y z hab hbc => by
    have hle := Std.TransCmp.isLE_trans (Ordering.isLE_iff_ne_gt.mpr hab) (Ordering.isLE_iff_ne_gt.mpr hbc)
    exact Ordering.isLE_iff_ne_gt.mp hle⟩
  exact List.pairwise_insertionSort _ _

omit [DecidableEq α] [Std.TransCmp c] in
theorem lt_iff_ne_gt_ne_eq {a b : α} : c a b = .lt ↔ c a b ≠ .gt ∧ c a b ≠ .eq := by
  cases c a b <;> simp

omit [DecidableEq α] in
/-- A sorted list without equal neighbours ascends. -/
theorem strict_iff_isChain (h : xs.Pairwise fun a b => c a b ≠ .gt) :
    Strict c xs ↔ xs.IsChain fun a b => c a b ≠ .eq := by
  have htrans : IsTrans α fun a b => c a b = .lt := ⟨fun _ _ _ hab hbc => Std.TransCmp.lt_trans hab hbc⟩
  constructor
  · intro hstrict
    exact (hstrict.imp fun hlt => (lt_iff_ne_gt_ne_eq.mp hlt).2).isChain
  · intro hchain
    refine List.isChain_iff_pairwise.mp ?_
    have hsorted := List.isChain_iff_forall_rel_of_append_cons_cons.mp h.isChain
    have hne := List.isChain_iff_forall_rel_of_append_cons_cons.mp hchain
    exact List.isChain_iff_forall_rel_of_append_cons_cons.mpr fun _ _ _ _ hxs =>
      lt_iff_ne_gt_ne_eq.mpr ⟨hsorted hxs, hne hxs⟩

omit [DecidableEq α] in
/-- Sorting a list without equal elements makes it ascend. -/
theorem strict_sort_iff : Strict c (xs.insertionSort fun a b => c a b ≠ .gt) ↔ xs.Pairwise fun a b => c a b ≠ .eq := by
  have hsymm : ∀ {a b : α}, c a b ≠ .eq → c b a ≠ .eq := fun {a b} hab hba => by
    rw [(Std.OrientedCmp.eq_swap : c a b = (c b a).swap), hba] at hab
    exact hab rfl
  rw [← (List.perm_insertionSort (fun a b => c a b ≠ .gt) xs).pairwise_iff hsymm]
  constructor
  · exact fun hstrict => hstrict.imp fun hlt => (lt_iff_ne_gt_ne_eq.mp hlt).2
  · exact fun hne => ((pairwise_sort xs).and hne).imp fun h => lt_iff_ne_gt_ne_eq.mpr h

end Strict

section Merge

variable [Std.TransCmp c]

/-- What a push does to an ascending list none of whose elements comes after `a`. -/
theorem mergeRepeat_cases {a : α} (hstrict : Strict c normalized) (hle : ∀ b ∈ normalized, c b a ≠ .gt) :
    (mergeRepeat c e normalized a = .ok normalized ∧ a ∈ normalized) ∨
    (mergeRepeat c e normalized a = .ok (normalized ++ [a]) ∧ Strict c (normalized ++ [a])) ∨
    (mergeRepeat c e normalized a = .error e ∧ ¬ Keyed c (a :: normalized)) := by
  rcases List.eq_nil_or_concat normalized with rfl | ⟨front, last, rfl⟩
  · exact .inr (.inl ⟨rfl, by simp⟩)
  have hmem : last ∈ front ++ [last] := by simp
  rw [List.concat_eq_append] at *
  simp only [mergeRepeat, List.getLast?_append, List.getLast?_singleton, Option.some_or]
  by_cases heq : c last a = .eq
  · by_cases hsame : last = a
    · subst hsame
      exact .inl ⟨by simp [heq], hmem⟩
    · refine .inr (.inr ⟨by simp [heq, hsame]; rfl, fun hkeyed => hsame ?_⟩)
      exact hkeyed last (List.mem_cons_of_mem _ hmem) a List.mem_cons_self heq
  · refine .inr (.inl ⟨by simp [heq], ?_⟩)
    have hlast : c last a = .lt := by
      cases h : c last a <;> simp_all
    refine List.pairwise_append.mpr ⟨hstrict, List.pairwise_singleton _ _, fun b hb c hc => ?_⟩
    rw [List.mem_singleton.mp hc]
    rcases List.mem_append.mp hb with hb | hb
    · exact Std.TransCmp.lt_trans ((List.pairwise_append.mp hstrict).2.2 b hb last (by simp)) hlast
    · rwa [List.mem_singleton.mp hb]

theorem foldlM_mergeRepeat (hstrict : Strict c normalized) (hle : ∀ b ∈ normalized, ∀ a ∈ xs, c b a ≠ .gt)
    (hsorted : xs.Pairwise fun a b => c a b ≠ .gt) :
    (∃ ys, xs.foldlM (mergeRepeat c e) normalized = .ok ys ∧ Strict c ys ∧
      ∀ a, a ∈ ys ↔ a ∈ normalized ∨ a ∈ xs) ∨
    (xs.foldlM (mergeRepeat c e) normalized = .error e ∧ ¬ Keyed c (normalized ++ xs)) := by
  induction xs generalizing normalized with
  | nil => exact .inl ⟨normalized, rfl, hstrict, by simp⟩
  | cons x xs ih =>
    obtain ⟨hx, hxs⟩ := List.pairwise_cons.mp hsorted
    simp only [List.foldlM_cons]
    rcases mergeRepeat_cases (e := e) hstrict (fun b hb => hle b hb x List.mem_cons_self) with
      ⟨hstep, hmem⟩ | ⟨hstep, hnext⟩ | ⟨hstep, hkeyed⟩ <;> rw [hstep]
    · -- A repeat: nothing was pushed.
      rcases ih hstrict (fun b hb a ha => hle b hb a (List.mem_cons_of_mem _ ha)) hxs with
        ⟨ys, hys, hstrict, hmembers⟩ | ⟨herror, hkeyed⟩
      · refine .inl ⟨ys, hys, hstrict, fun a => ?_⟩
        rw [hmembers, List.mem_cons]
        constructor
        · rintro (h | h) <;> simp [h]
        · rintro (h | rfl | h) <;> simp [*]
      · refine .inr ⟨herror, fun hall => hkeyed fun a ha b hb => hall a ?_ b ?_⟩ <;> grind
    · have hnextLe : ∀ b ∈ normalized ++ [x], ∀ a ∈ xs, c b a ≠ .gt :=
        List.forall_mem_append.mpr ⟨fun b hb a ha => hle b hb a (List.mem_cons_of_mem _ ha),
          List.forall_mem_singleton.mpr hx⟩
      rcases ih hnext hnextLe hxs with ⟨ys, hys, hstrict, hmembers⟩ | ⟨herror, hkeyed⟩
      · refine .inl ⟨ys, hys, hstrict, fun a => ?_⟩
        rw [hmembers]
        simp [or_assoc]
      · refine .inr ⟨herror, ?_⟩
        rwa [List.append_assoc] at hkeyed
    · refine .inr ⟨rfl, fun hall => hkeyed fun a ha b hb => hall a ?_ b ?_⟩ <;> grind

/-- Either the elements in order, each once, or two different elements under one key. -/
theorem sortMerge_cases (xs : List α) :
    (∃ ys, sortMerge c e xs = .ok ys ∧ Strict c ys ∧ ∀ a, a ∈ ys ↔ a ∈ xs) ∨
    (sortMerge c e xs = .error e ∧ ¬ Keyed c xs) := by
  rcases foldlM_mergeRepeat (e := e) List.Pairwise.nil (fun b hb => nomatch hb) (pairwise_sort (c := c) xs) with
    ⟨ys, hys, hstrict, hmembers⟩ | ⟨herror, hkeyed⟩
  · exact .inl ⟨ys, hys, hstrict, fun a => by simp [hmembers]⟩
  · refine .inr ⟨herror, fun hall => hkeyed fun a ha b hb => hall a ?_ b ?_⟩ <;> simp_all

theorem sortMerge_ok (h : sortMerge c e xs = .ok ys) : Strict c ys ∧ ∀ a, a ∈ ys ↔ a ∈ xs := by
  rcases sortMerge_cases (c := c) (e := e) xs with ⟨zs, hzs, hstrict⟩ | ⟨herror, -⟩
  · rw [h] at hzs
    cases hzs
    exact hstrict
  · rw [h] at herror
    cases herror

theorem sortMerge_isOk_iff : (∃ ys, sortMerge c e xs = .ok ys) ↔ Keyed c xs := by
  rcases sortMerge_cases (c := c) (e := e) xs with ⟨ys, hys, hstrict, hmembers⟩ | ⟨herror, hkeyed⟩
  · refine ⟨fun _ a ha b hb => ?_, fun _ => ⟨ys, hys⟩⟩
    exact hstrict.keyed a ((hmembers a).mpr ha) b ((hmembers b).mpr hb)
  · refine ⟨fun ⟨ys, hys⟩ => ?_, fun h => absurd h hkeyed⟩
    rw [hys] at herror
    cases herror

/-- Only the elements matter, not their order or how often they occur. -/
theorem sortMerge_congr (h : ∀ a, a ∈ xs ↔ a ∈ ys) : sortMerge c e xs = sortMerge c e ys := by
  have hkeyed : Keyed c xs ↔ Keyed c ys := by simp [Keyed, h]
  rcases sortMerge_cases (c := c) (e := e) xs with ⟨zs, hzs, hstrict, hmembers⟩ | ⟨herror, hnot⟩
  · obtain ⟨zs', hzs'⟩ := sortMerge_isOk_iff (c := c) (e := e).mpr (hkeyed.mp (sortMerge_isOk_iff.mp ⟨zs, hzs⟩))
    obtain ⟨hstrict', hmembers'⟩ := sortMerge_ok hzs'
    rw [hzs, hzs', hstrict.ext hstrict' fun a => by rw [hmembers, hmembers', h]]
  · rcases sortMerge_cases (c := c) (e := e) ys with ⟨zs, hzs, hstrict, hmembers⟩ | ⟨herror', -⟩
    · exact absurd (hkeyed.mpr (sortMerge_isOk_iff.mp ⟨zs, hzs⟩)) hnot
    · rw [herror, herror']

theorem sortMerge_self (h : Strict c xs) : sortMerge c e xs = .ok xs := by
  obtain ⟨ys, hys⟩ := sortMerge_isOk_iff (c := c) (e := e).mpr h.keyed
  obtain ⟨hstrict, hmembers⟩ := sortMerge_ok hys
  rw [hys, hstrict.ext h hmembers]

end Merge

end Again.Lib
