import Mathlib.Data.List.Chain

/-!
# Validators

A function `fn f(..) -> Result<T, E>` without state is an `Except E T`. What a
returned value says is read off its guards one at a time.
-/

namespace Again.Lib

variable {ε ε' α β : Type}

/-- Refuse with `e` when `c` holds. -/
def rejectIf (c : Prop) [Decidable c] (e : ε) : Except ε Unit := if c then .error e else .ok ()

variable {x : Except ε α} {f : α → Except ε β} {a : α} {e : ε} {xs : List α} {ys : List β}

@[simp] theorem bind_eq_ok {b : β} : (x >>= f) = .ok b ↔ ∃ a, x = .ok a ∧ f a = .ok b := by
  cases x <;> simp [bind, Except.bind]

@[simp] theorem ok_bind : (Except.ok a >>= f) = f a := rfl

@[simp] theorem map_eq_ok {f : α → β} {b : β} : (f <$> x) = .ok b ↔ ∃ a, x = .ok a ∧ f a = b := by
  cases x <;> simp [Functor.map, Except.map]

@[simp] theorem pure_eq_ok {b : α} : (pure a : Except ε α) = .ok b ↔ a = b := by
  simp [pure, Except.pure]

@[simp] theorem rejectIf_eq_ok {c : Prop} [Decidable c] {u : Unit} : rejectIf c e = .ok u ↔ ¬ c := by
  by_cases h : c <;> simp [rejectIf, h]

/-- `Option::ok_or`. -/
def requireSome (o : Option α) (e : ε) : Except ε α :=
  match o with
  | some a => .ok a
  | none => .error e

@[simp] theorem requireSome_eq_ok {o : Option α} : requireSome o e = .ok a ↔ o = some a := by
  cases o <;> simp [requireSome]

@[simp] theorem exists_unit {p : Unit → Prop} : (∃ u, p u) ↔ p () := ⟨fun ⟨_, h⟩ => h, fun h => ⟨(), h⟩⟩

/-- `slice.windows(2).any(p)`. -/
def anyWindow (p : α → α → Bool) : List α → Bool
  | a :: b :: rest => p a b || anyWindow p (b :: rest)
  | _ => false

theorem anyWindow_eq_false {p : α → α → Bool} : anyWindow p xs = false ↔ xs.IsChain fun a b => p a b = false := by
  induction xs with
  | nil => simp [anyWindow]
  | cons a xs ih =>
    cases xs with
    | nil => simp [anyWindow]
    | cons b xs => simp [anyWindow, ih]

/-- A loop of checks passes when each of them does. -/
@[simp] theorem forM_eq_ok {f : α → Except ε Unit} {u : PUnit} : xs.forM f = .ok u ↔ ∀ x ∈ xs, f x = .ok () := by
  induction xs with
  | nil => simp [List.forM_eq_forM, pure, Except.pure]
  | cons x xs ih =>
    rw [List.forM_eq_forM] at ih ⊢
    simp [ih]

/-- Every step of a loop that returns has returned. -/
theorem foldlM_step {σ : Type} {f : σ → α → Except ε σ} {s s' : σ} (h : xs.foldlM f s = .ok s') :
    ∀ x ∈ xs, ∃ t t', f t x = .ok t' := by
  induction xs generalizing s with
  | nil => simp
  | cons x xs ih =>
    rw [List.foldlM_cons, bind_eq_ok] at h
    obtain ⟨t, hx, hxs⟩ := h
    exact List.forall_mem_cons.mpr ⟨⟨s, t, hx⟩, ih hxs⟩

theorem mapM_eq_ok : xs.mapM f = .ok ys ↔ List.Forall₂ (fun x y => f x = .ok y) xs ys := by
  induction xs generalizing ys with
  | nil => simp [pure, Except.pure, eq_comm]
  | cons x xs ih =>
    simp only [List.mapM_cons, bind_eq_ok, pure_eq_ok, List.forall₂_cons_left_iff, ih]
    constructor
    · rintro ⟨y, hy, ys, hys, rfl⟩
      exact ⟨y, ys, hy, hys, rfl⟩
    · rintro ⟨y, ys, hy, hys, rfl⟩
      exact ⟨y, hy, ys, hys, rfl⟩

theorem mem_of_mapM (h : xs.mapM f = .ok ys) {y : β} : y ∈ ys ↔ ∃ x ∈ xs, f x = .ok y := by
  rw [mapM_eq_ok] at h
  induction h with
  | nil => simp
  | cons hhead _ ih => simp [ih, hhead, eq_comm]

theorem mapM_isOk_iff : (∃ ys, xs.mapM f = .ok ys) ↔ ∀ x ∈ xs, ∃ y, f x = .ok y := by
  induction xs with
  | nil => simp [pure, Except.pure]
  | cons x xs ih => simp [← ih]

/-- Decoding, one by one, what was encoded one by one. -/
theorem mapM_inverse {g : β → Except ε' α} (hg : ∀ x ∈ xs, ∀ y, f x = .ok y → g y = .ok x) (h : xs.mapM f = .ok ys) :
    ys.mapM g = .ok xs := by
  rw [mapM_eq_ok] at h ⊢
  induction h with
  | nil => exact .nil
  | cons hhead _ ih =>
    obtain ⟨hx, hxs⟩ := List.forall_mem_cons.mp hg
    exact .cons (hx _ hhead) (ih hxs)

/-- A loop of one check, which refuses with one error. -/
theorem mapM_check {P : α → Prop} [DecidablePred P] {f : α → β} :
    xs.mapM (fun x => do rejectIf (P x) e; pure (f x)) = if ∃ x ∈ xs, P x then .error e else .ok (xs.map f) := by
  induction xs with
  | nil => rfl
  | cons x xs ih =>
    by_cases hx : P x
    · simp [rejectIf, hx]
      rfl
    · rw [List.mapM_cons, ih]
      by_cases hxs : ∃ x ∈ xs, P x <;> simp [rejectIf, hx, hxs]

theorem optionMapM_inverse {g : β → Except ε' α} {x : Option α} {y : Option β} (hg : ∀ a b, f a = .ok b → g b = .ok a)
    (h : x.mapM f = .ok y) : y.mapM g = .ok x := by
  cases x with
  | none =>
    simp only [Option.mapM_none, pure_eq_ok] at h
    subst h
    rfl
  | some a =>
    simp only [Option.mapM_some, map_eq_ok] at h
    obtain ⟨b, hb, rfl⟩ := h
    simp [hg a b hb]

theorem ok_of_toBool (h : x.toBool = true) : ∃ a, x = .ok a := by
  cases x with
  | ok a => exact ⟨a, rfl⟩
  | error e => cases h

/-- The value is returned and passes a check. -/
def okAnd (x : Except ε α) (p : α → Bool) : Bool :=
  match x with
  | .ok a => p a
  | .error _ => false

theorem okAnd_eq_true {p : α → Bool} (h : okAnd x p = true) : ∃ a, x = .ok a ∧ p a = true := by
  cases x with
  | ok a => exact ⟨a, rfl, h⟩
  | error e => cases h

end Again.Lib
