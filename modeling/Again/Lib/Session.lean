import Again.Lib.Refusal

/-!
# Sessions of a machine that poisons itself

A machine answers calls one at a time. A `Session` is any sequence of calls
from an initial state, with the accepted ones and their answers on record,
newest first. Many such machines keep the first refusal for good; for those an
invariant of the healthy states is shown one accepted call at a time.
-/

namespace Again.Lib

variable {ε σ α κ : Type}

/-- The states a session reaches and the calls it accepted on the way. -/
inductive Session (perform : κ → EStateM ε σ α) (init : σ → Prop) : List (κ × α) → σ → Prop
  | start {s : σ} (h : init s) : Session perform init [] s
  | accepted {log : List (κ × α)} {s s' : σ} {c : κ} {a : α} (h : Session perform init log s)
      (hc : perform c s = .ok a s') : Session perform init ((c, a) :: log) s'
  | refused {log : List (κ × α)} {s s' : σ} {c : κ} {e : ε} (h : Session perform init log s)
      (hc : perform c s = .error e s') : Session perform init log s'

variable {perform : κ → EStateM ε σ α} {init : σ → Prop} {log : List (κ × α)} {s : σ}

/-- Make the calls in order, keeping the log of the accepted ones. -/
def play (perform : κ → EStateM ε σ α) : List κ → List (κ × α) × σ → List (κ × α) × σ
  | [], x => x
  | c :: cs, (log, s) => play perform cs (match perform c s with
    | .ok a s' => ((c, a) :: log, s')
    | .error _ s' => (log, s'))

theorem Session.play (h : Session perform init log s) (cs : List κ) :
    Session perform init (play perform cs (log, s)).1 (play perform cs (log, s)).2 := by
  induction cs generalizing log s with
  | nil => exact h
  | cons c cs ih =>
    unfold Lib.play
    cases hc : perform c s with
    | ok a s' => exact ih (h.accepted hc)
    | error e s' => exact ih (h.refused hc)

/-- A session is what came before one of its accepted calls, that call, and a session from there. -/
theorem Session.split {later earlier : List (κ × α)} {c : κ} {a : α}
    (h : Session perform init (later ++ (c, a) :: earlier) s) : ∃ s₁ s₂, Session perform init earlier s₁ ∧
      perform c s₁ = .ok a s₂ ∧ Session perform (· = s₂) later s := by
  generalize hlog : later ++ (c, a) :: earlier = log at h
  induction h generalizing later with
  | start h =>
    cases later <;> cases hlog
  | @accepted log s s' c' a' h hc ih =>
    cases later with
    | nil =>
      cases hlog
      exact ⟨s, s', h, hc, .start rfl⟩
    | cons entry later =>
      cases hlog
      obtain ⟨s₁, s₂, h₁, h₂, hrest⟩ := ih rfl
      exact ⟨s₁, s₂, h₁, h₂, hrest.accepted hc⟩
  | refused h hc ih =>
    obtain ⟨s₁, s₂, h₁, h₂, hrest⟩ := ih hlog
    exact ⟨s₁, s₂, h₁, h₂, hrest.refused hc⟩

/-- A machine whose first refusal is permanent. -/
structure Poisoning (perform : κ → EStateM ε σ α) (poisoned : σ → Option ε) : Prop where
  sticky : ∀ c s e, poisoned s = some e → perform c s = .error e s

/-- An invariant `P` of the healthy states, and the refusals `R` that end them. -/
structure Kept (perform : κ → EStateM ε σ α) (init : σ → Prop) (poisoned : σ → Option ε)
    (P : List (κ × α) → σ → Prop) (R : ε → Prop) : Prop where
  init : ∀ s, init s → poisoned s = none ∧ P [] s
  step : ∀ log s c, poisoned s = none → P log s → Runs (perform c) s
    (fun a s' => poisoned s' = none ∧ P ((c, a) :: log) s') (fun e s' => poisoned s' = some e ∧ R e)

/-- A session keeps the invariant while it is healthy, ends with one of the allowed refusals, and
what it accepted in all was accepted by a healthy machine. -/
theorem Session.kept {poisoned : σ → Option ε} {P : List (κ × α) → σ → Prop} {R : ε → Prop}
    (hp : Poisoning perform poisoned) (hk : Kept perform init poisoned P R) (h : Session perform init log s) :
    (poisoned s = none → P log s) ∧ (∀ e, poisoned s = some e → R e) ∧ ∃ s₀, poisoned s₀ = none ∧ P log s₀ := by
  induction h with
  | start h =>
    obtain ⟨hn, hP⟩ := hk.init _ h
    exact ⟨fun _ => hP, by simp [hn], _, hn, hP⟩
  | @accepted log s s' c a h hc ih =>
    cases hs : poisoned s with
    | some e => rw [hp.sticky c s e hs] at hc; cases hc
    | none =>
      obtain ⟨hn, hP⟩ := (hk.step log s c hs (ih.1 hs)).ok hc
      exact ⟨fun _ => hP, by simp [hn], _, hn, hP⟩
  | @refused log s s' c e h hc ih =>
    cases hs : poisoned s with
    | some e' =>
      rw [hp.sticky c s e' hs] at hc
      cases hc
      exact ih
    | none =>
      obtain ⟨he, hR⟩ := (hk.step log s c hs (ih.1 hs)).error hc
      refine ⟨by simp [he], fun e' h' => ?_, ih.2.2⟩
      rw [he, Option.some.injEq] at h'
      exact h' ▸ hR

end Again.Lib
