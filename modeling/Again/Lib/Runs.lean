import Mathlib.Data.List.Basic
import Mathlib.Data.Nat.Basic

/-!
# Maximal runs

The longest stretches of a list whose elements all satisfy a test, as
half-open ranges, found by one scan from left to right.
-/

namespace Again.Lib

variable {α : Type} (p : α → Bool)

variable {xs : List α} {start stop : Nat}

/-- The scan at `cursor`; `some start` while inside a run. -/
def runsFrom : Nat → Option Nat → List α → List (Nat × Nat)
  | _, none, [] => []
  | cursor, some start, [] => [(start, cursor)]
  | cursor, none, a :: rest => runsFrom (cursor + 1) (if p a then some cursor else none) rest
  | cursor, some start, a :: rest =>
    if p a then runsFrom (cursor + 1) (some start) rest
    else (start, cursor) :: runsFrom (cursor + 1) none rest

def runs (xs : List α) : List (Nat × Nat) := runsFrom p 0 none xs

/-- `xs[start..end]` passes the test throughout, and its neighbours fail it. -/
structure IsRun (xs : List α) (start stop : Nat) : Prop where
  nonempty : start < stop
  bounded : stop ≤ xs.length
  inside : ∀ i a, start ≤ i → i < stop → xs[i]? = some a → p a = true
  before : ∀ a, 0 < start → xs[start - 1]? = some a → p a = false
  after : ∀ a, xs[stop]? = some a → p a = false

variable {p}

/-- Two runs that begin together end together. -/
theorem IsRun.stop_eq {stop' : Nat} (h : IsRun p xs start stop) (h' : IsRun p xs start stop') : stop = stop' := by
  rcases lt_trichotomy stop stop' with hlt | heq | hgt
  · obtain ⟨a, ha⟩ : ∃ a, xs[stop]? = some a := ⟨_, List.getElem?_eq_getElem (lt_of_lt_of_le hlt h'.bounded)⟩
    have htrue := h'.inside stop a (le_of_lt h.nonempty) hlt ha
    rw [h.after a ha] at htrue
    cases htrue
  · exact heq
  · obtain ⟨a, ha⟩ : ∃ a, xs[stop']? = some a := ⟨_, List.getElem?_eq_getElem (lt_of_lt_of_le hgt h.bounded)⟩
    have htrue := h.inside stop' a (le_of_lt h'.nonempty) hgt ha
    rw [h'.after a ha] at htrue
    cases htrue

/-- A run does not begin where the element before it passes the test. -/
theorem IsRun.start_not_inside {low high : Nat} (h : IsRun p xs start stop)
    (hinside : ∀ i a, low ≤ i → i < high → xs[i]? = some a → p a = true) (hlow : low < start) : high < start := by
  by_contra hle
  have hbound : start - 1 < xs.length := by
    have := h.nonempty
    have := h.bounded
    omega
  have hget := List.getElem?_eq_getElem hbound
  have htrue := hinside (start - 1) _ (by omega) (by omega) hget
  rw [h.before _ (by omega) hget] at htrue
  cases htrue

theorem getElem?_of_drop {rest : List α} {cursor : Nat} {a : α} (h : xs.drop cursor = a :: rest) :
    xs[cursor]? = some a ∧ xs.drop (cursor + 1) = rest := by
  constructor
  · rw [← List.head?_drop, h, List.head?_cons]
  · rw [← List.tail_drop, h, List.tail_cons]

/-- What is left of the scan: outside a run, the runs from the cursor on; inside one, also that run. -/
theorem mem_runsFrom {rest : List α} {cursor : Nat} (hrest : xs.drop cursor = rest) (hcursor : cursor ≤ xs.length) :
    ((∀ a, 0 < cursor → xs[cursor - 1]? = some a → p a = false) →
      ((start, stop) ∈ runsFrom p cursor none rest ↔ IsRun p xs start stop ∧ cursor ≤ start)) ∧
    ∀ first, first < cursor → (∀ i a, first ≤ i → i < cursor → xs[i]? = some a → p a = true) →
      (∀ a, 0 < first → xs[first - 1]? = some a → p a = false) →
      ((start, stop) ∈ runsFrom p cursor (some first) rest ↔ IsRun p xs start stop ∧ first ≤ start) := by
  induction rest generalizing cursor with
  | nil =>
    have hend : cursor = xs.length := le_antisymm hcursor (List.drop_eq_nil_iff.mp hrest)
    refine ⟨fun _ => ?_, fun first hfirst hinside hbefore => ?_⟩
    · simp only [runsFrom, List.not_mem_nil, false_iff, not_and]
      intro hrun
      have := hrun.nonempty
      have := hrun.bounded
      omega
    · have hlast : IsRun p xs first cursor :=
        ⟨hfirst, hcursor, hinside, hbefore, fun a ha => by simp [hend] at ha⟩
      simp only [runsFrom, List.mem_singleton, Prod.mk.injEq]
      constructor
      · rintro ⟨rfl, rfl⟩
        exact ⟨hlast, le_rfl⟩
      · rintro ⟨hrun, hle⟩
        have hstart : start = first := by
          by_contra hne
          have := hrun.start_not_inside hinside (by omega)
          have := hrun.nonempty
          have := hrun.bounded
          omega
        subst hstart
        exact ⟨rfl, hrun.stop_eq hlast⟩
  | cons a rest ih =>
    obtain ⟨hget, hnext⟩ := getElem?_of_drop hrest
    have hlt : cursor < xs.length := (List.getElem?_eq_some_iff.mp hget).1
    obtain ⟨hclosed, hopen⟩ := ih hnext hlt
    by_cases hpa : p a = true
    · refine ⟨fun hbefore => ?_, fun first hfirst hinside hbefore => ?_⟩
      · have hstep := hopen cursor (Nat.lt_succ_self _) (fun i b hi hi' hb => by
          have hieq : i = cursor := by omega
          rw [hieq, hget] at hb
          cases hb
          exact hpa) hbefore
        simpa [runsFrom, hpa] using hstep
      · have hstep := hopen first (by omega) (fun i b hi hi' hb => by
          rcases Nat.lt_succ_iff_lt_or_eq.mp hi' with hi' | rfl
          · exact hinside i b hi hi' hb
          · rw [hget] at hb
            cases hb
            exact hpa) hbefore
        simpa [runsFrom, hpa] using hstep
    · rw [Bool.not_eq_true] at hpa
      have hclosed := hclosed fun b _ hb => by
        rw [Nat.add_sub_cancel, hget] at hb
        cases hb
        exact hpa
      refine ⟨fun hbefore => ?_, fun first hfirst hinside hbefore => ?_⟩
      · simp only [runsFrom, hpa, Bool.false_eq_true, if_false, hclosed, and_congr_right_iff]
        intro hrun
        constructor
        · omega
        · intro hle
          rcases Nat.lt_or_eq_of_le hle with hlt | rfl
          · exact hlt
          · have htrue := hrun.inside cursor a le_rfl hrun.nonempty hget
            rw [hpa] at htrue
            cases htrue
      · have hended : IsRun p xs first cursor :=
          ⟨hfirst, hcursor, hinside, hbefore, fun b hb => by
            rw [hget] at hb
            cases hb
            exact hpa⟩
        simp only [runsFrom, hpa, Bool.false_eq_true, if_false, List.mem_cons, Prod.mk.injEq, hclosed]
        constructor
        · rintro (⟨rfl, rfl⟩ | ⟨hrun, hle⟩)
          · exact ⟨hended, le_rfl⟩
          · exact ⟨hrun, by omega⟩
        · rintro ⟨hrun, hle⟩
          rcases Nat.lt_or_eq_of_le hle with hlt' | rfl
          · exact Or.inr ⟨hrun, hrun.start_not_inside hinside hlt'⟩
          · exact Or.inl ⟨rfl, hrun.stop_eq hended⟩

/-- The scan finds exactly the maximal runs. -/
theorem mem_runs : (start, stop) ∈ runs p xs ↔ IsRun p xs start stop := by
  have h : (start, stop) ∈ runsFrom p 0 none xs ↔ IsRun p xs start stop ∧ 0 ≤ start :=
    (mem_runsFrom List.drop_zero (Nat.zero_le _)).1 fun a h0 => absurd h0 (lt_irrefl 0)
  simpa [runs] using h

end Again.Lib
