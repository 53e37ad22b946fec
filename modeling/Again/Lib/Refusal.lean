import Mathlib.Logic.Basic

/-!
# Stateful computations that may refuse

A method `fn f(&mut self, ..) -> Result<T, E>` is an `EStateM E Self T`: it
returns a value or refuses with a reason, and in both cases leaves a state
behind. `Runs x s Q E` says what one call does from `s`: on return `Q` holds
of the value and the state, on refusal `E` holds of the reason and the state.
-/

namespace Again.Lib

variable {ε σ α β : Type}

/-- What running `x` from `s` ends with: `Q` on return, `E` on refusal. -/
def Runs (x : EStateM ε σ α) (s : σ) (Q : α → σ → Prop) (E : ε → σ → Prop) : Prop :=
  match x s with
  | .ok a s' => Q a s'
  | .error e s' => E e s'

/-- Return early with `e` when `c` holds. -/
def refuseIf (c : Prop) [Decidable c] (e : ε) : EStateM ε σ Unit := if c then throw e else pure ()

/-- `Option::ok_or(e)?`. -/
def okOr (o : Option α) (e : ε) : EStateM ε σ α :=
  match o with
  | some a => pure a
  | none => throw e

/-- A pure check inside a stateful method. -/
def attempt (o : Except ε α) : EStateM ε σ α :=
  match o with
  | .ok a => pure a
  | .error e => throw e

variable {x : EStateM ε σ α} {f : α → EStateM ε σ β} {s s' : σ} {Q Q' : α → σ → Prop}
  {R : β → σ → Prop} {E E' : ε → σ → Prop}

@[simp] theorem runs_pure (a : α) : Runs (pure a : EStateM ε σ α) s Q E ↔ Q a s := Iff.rfl

@[simp] theorem runs_throw (e : ε) : Runs (throw e : EStateM ε σ α) s Q E ↔ E e s := Iff.rfl

@[simp] theorem runs_get {Q : σ → σ → Prop} : Runs (get : EStateM ε σ σ) s Q E ↔ Q s s := Iff.rfl

@[simp] theorem runs_set (t : σ) {Q : PUnit → σ → Prop} :
    Runs (set t : EStateM ε σ PUnit) s Q E ↔ Q ⟨⟩ t := Iff.rfl

@[simp] theorem runs_modify (g : σ → σ) {Q : PUnit → σ → Prop} :
    Runs (modify g : EStateM ε σ PUnit) s Q E ↔ Q ⟨⟩ (g s) := Iff.rfl

@[simp] theorem runs_modifyGet (g : σ → α × σ) : Runs (modifyGet g : EStateM ε σ α) s Q E ↔ Q (g s).1 (g s).2 := Iff.rfl

@[simp] theorem runs_bind :
    Runs (x >>= f) s R E ↔ Runs x s (fun a t => Runs (f a) t R E) E := by
  show Runs (EStateM.bind x f) s R E ↔ _
  unfold Runs EStateM.bind
  cases x s <;> rfl

@[simp] theorem runs_map (g : α → β) :
    Runs (g <$> x) s R E ↔ Runs x s (fun a t => R (g a) t) E := by
  show Runs (EStateM.map g x) s R E ↔ _
  unfold Runs EStateM.map
  cases x s <;> rfl

@[simp] theorem runs_ite (c : Prop) [Decidable c] (y : EStateM ε σ α) :
    Runs (if c then x else y) s Q E ↔ (c → Runs x s Q E) ∧ (¬ c → Runs y s Q E) := by
  by_cases h : c <;> simp [h]

@[simp] theorem runs_refuseIf (c : Prop) [Decidable c] (e : ε) {Q : Unit → σ → Prop} :
    Runs (refuseIf c e) s Q E ↔ (c → E e s) ∧ (¬ c → Q () s) := by
  by_cases h : c <;> simp [refuseIf, h]

@[simp] theorem runs_okOr (o : Option α) (e : ε) :
    Runs (okOr o e) s Q E ↔ (o = none → E e s) ∧ ∀ a, o = some a → Q a s := by
  cases o <;> simp [okOr]

@[simp] theorem runs_attempt (o : Except ε α) :
    Runs (attempt o) s Q E ↔ (∀ e, o = .error e → E e s) ∧ ∀ a, o = .ok a → Q a s := by
  cases o <;> simp [attempt]

/-- A call may be replaced by what its specification promises. -/
theorem Runs.mono (h : Runs x s Q E) (hQ : ∀ a t, Q a t → Q' a t) (hE : ∀ e t, E e t → E' e t) :
    Runs x s Q' E' := by
  unfold Runs at h ⊢
  cases hx : x s with
  | ok a t => rw [hx] at h; exact hQ a t h
  | error e t => rw [hx] at h; exact hE e t h

theorem Runs.imp (h : Runs x s Q E) (hQ : ∀ a t, Q a t → Q' a t) : Runs x s Q' E := h.mono hQ fun _ _ h => h

/-- Sequencing: what the first call promises is what the rest starts from. -/
theorem Runs.bind (h : Runs x s Q E) (hf : ∀ a t, Q a t → Runs (f a) t R E) : Runs (x >>= f) s R E :=
  runs_bind.2 (h.mono hf fun _ _ he => he)

/-! Past a check, when nothing is said of refusals. -/

theorem Runs.past_get {k : σ → EStateM ε σ β} (h : Runs (k s) s R E) : Runs (get >>= k) s R E := h

theorem Runs.past_attempt {o : Except ε α} (h : ∀ a, o = .ok a → Runs (f a) s R fun _ _ => True) :
    Runs (attempt o >>= f) s R fun _ _ => True :=
  runs_bind.2 ((runs_attempt o).2 ⟨fun _ _ => trivial, h⟩)

theorem Runs.past_refuseIf {c : Prop} [Decidable c] {e : ε} {k : Unit → EStateM ε σ β}
    (h : ¬ c → Runs (k ()) s R fun _ _ => True) : Runs (refuseIf c e >>= k) s R fun _ _ => True :=
  runs_bind.2 ((runs_refuseIf c e).2 ⟨fun _ => trivial, h⟩)

@[simp] theorem runs_forM_cons {f : α → EStateM ε σ PUnit} {Q : PUnit → σ → Prop} (a : α) (as : List α) :
    Runs ((a :: as).forM f) s Q E ↔ Runs (f a) s (fun _ t => Runs (as.forM f) t Q E) E :=
  runs_bind

/-- A loop keeps what each turn of it keeps. -/
theorem Runs.forM {f : α → EStateM ε σ Unit} {I : σ → Prop} (xs : List α)
    (h : ∀ a ∈ xs, ∀ s, I s → Runs (f a) s (fun _ => I) E) (hs : I s) : Runs (xs.forM f) s (fun _ => I) E := by
  induction xs generalizing s with
  | nil => exact hs
  | cons a xs ih =>
    have hfirst : Runs (f a) s (fun _ => I) E := h a (by simp) s hs
    exact hfirst.bind fun _ t ht => ih (fun b hb => h b (by simp [hb])) ht

theorem Runs.ok (h : Runs x s Q E) {a : α} (hx : x s = .ok a s') : Q a s' := by
  unfold Runs at h
  rw [hx] at h
  exact h

theorem Runs.error (h : Runs x s Q E) {e : ε} (hx : x s = .error e s') : E e s' := by
  unfold Runs at h
  rw [hx] at h
  exact h

/-- A sequence returns when its calls do. -/
theorem bind_ok_iff {b : β} : (x >>= f) s = .ok b s' ↔ ∃ a t, x s = .ok a t ∧ f a t = .ok b s' := by
  show EStateM.bind x f s = _ ↔ _
  unfold EStateM.bind
  cases x s with
  | ok a t => exact ⟨fun h => ⟨a, t, rfl, h⟩, fun ⟨_, _, hx, h⟩ => by cases hx; exact h⟩
  | error e t => exact ⟨nofun, nofun⟩

/-- What a call returns, when it does. -/
def returned (x : EStateM ε σ α) (s : σ) : Option α :=
  match x s with
  | .ok a _ => some a
  | .error _ _ => none

theorem returned_eq_some {a : α} (h : returned x s = some a) : ∃ t, x s = .ok a t := by
  unfold returned at h
  split at h
  · rename_i b t hx
    cases h
    exact ⟨t, hx⟩
  · cases h

/-- A call that cannot refuse, and what it can only return. -/
theorem eq_ok_of_runs {a : α} (h : Runs x s (fun b t => b = a ∧ t = s') fun _ _ => False) : x s = .ok a s' := by
  unfold Runs at h
  cases hx : x s with
  | ok b t =>
    rw [hx] at h
    rw [h.1, h.2]
  | error e t =>
    rw [hx] at h
    exact h.elim

/-! ## All or nothing -/

/-- Run `x` and, when it refuses, put the state back. -/
def atomically (x : EStateM ε σ α) : EStateM ε σ α := fun s =>
  match x s with
  | .ok a s' => .ok a s'
  | .error e _ => .error e s

/-- What the program promises on return it promises here too; a refusal changes nothing. -/
theorem Runs.atomically (h : Runs x s Q E) : Runs (atomically x) s Q fun _ t => t = s := by
  unfold Runs Lib.atomically at *
  cases hx : x s with
  | ok a t =>
    rw [hx] at h
    exact h
  | error e t => rfl

/-- What a refusal says that does not speak of the state, it says here too. -/
theorem Runs.atomically_refusal {R : ε → Prop} (h : Runs x s Q fun e _ => R e) :
    Runs (Lib.atomically x) s Q fun e t => R e ∧ t = s := by
  unfold Runs Lib.atomically at *
  cases hx : x s with
  | ok a t =>
    rw [hx] at h
    exact h
  | error e t =>
    rw [hx] at h
    exact ⟨h, rfl⟩

/-! ## Deciding before writing -/

/-- From `s`, `x` decides as `y` does and writes only when it returns. -/
def Commits (x : EStateM ε σ α) (s : σ) (y : Except ε (α × σ)) : Prop :=
  x s = match y with
    | .ok (a, s') => .ok a s'
    | .error e => .error e s

section Commits
variable {y : Except ε (α × σ)} {o : Except ε α} {g : α → Except ε (β × σ)}

theorem Commits.ok_iff (h : Commits x s y) {a : α} : x s = .ok a s' ↔ y = .ok (a, s') := by
  rw [h]
  rcases y with e | ⟨b, t⟩ <;> simp

theorem Commits.error_iff (h : Commits x s y) {e : ε} : x s = .error e s' ↔ y = .error e ∧ s' = s := by
  rw [h]
  rcases y with e' | ⟨b, t⟩ <;> simp [eq_comm]

theorem commits_attempt_bind (h : ∀ a, o = .ok a → Commits (f a) s (g a)) : Commits (attempt o >>= f) s (o >>= g) := by
  cases o with
  | error e => rfl
  | ok a => exact h a rfl

theorem commits_get_bind {k : σ → EStateM ε σ α} (h : Commits (k s) s y) : Commits (get >>= k) s y := h

theorem commits_set_pure (t : σ) (a : α) : Commits (do set t; pure a : EStateM ε σ α) s (.ok (a, t)) := rfl

end Commits

end Again.Lib
