import Again.Lib.Refusal

/-!
# Two calls in step

`InStep x s y t Q` compares a call of `x` from `s` with a call of `y` from `t`:
either both return, and `Q` holds of what they return and leave behind, or both
refuse. It is what remains of "`x` and `y` do the same" when the states differ
in places neither of them looks at.
-/

namespace Again.Lib

variable {ε σ α β γ δ : Type}

variable {e e' : ε} {E' E : ε → σ → Prop} {a : α} {z : EStateM ε σ γ} {c : Prop}

/-- Both calls return, with `Q` of the results, or both refuse. -/
def InStep (x : EStateM ε σ α) (s : σ) (y : EStateM ε σ β) (t : σ) (Q : α → σ → β → σ → Prop) : Prop :=
  match x s, y t with
  | .ok a s', .ok b t' => Q a s' b t'
  | .error _ _, .error _ _ => True
  | _, _ => False

section
variable {x : EStateM ε σ α} {y : EStateM ε σ β} {s t s' t' : σ} {Q : α → σ → β → σ → Prop}
  {f : α → EStateM ε σ γ} {g : β → EStateM ε σ δ} {R : γ → σ → δ → σ → Prop}

theorem inStep_pure {b : β} (h : Q a s b t) : InStep (pure a : EStateM ε σ α) s (pure b : EStateM ε σ β) t Q := h

theorem inStep_throw (e e' : ε) : InStep (throw e : EStateM ε σ α) s (throw e' : EStateM ε σ β) t Q := trivial

theorem inStep_iff : InStep x s y t Q ↔ (∃ a s' b t', x s = .ok a s' ∧ y t = .ok b t' ∧ Q a s' b t') ∨
    ∃ e s' e' t', x s = .error e s' ∧ y t = .error e' t' := by
  unfold InStep
  cases x s <;> cases y t <;> simp [and_assoc]

/-- Calls in step go on in step. -/
theorem InStep.bind (h : InStep x s y t Q)
    (hf : ∀ a s' b t', Q a s' b t' → InStep (f a) s' (g b) t' R) : InStep (x >>= f) s (y >>= g) t R := by
  show InStep (EStateM.bind x f) s (EStateM.bind y g) t R
  unfold InStep EStateM.bind
  rcases inStep_iff.1 h with ⟨a, s', b, t', hx, hy, hQ⟩ | ⟨e, s', e', t', hx, hy⟩ <;> rw [hx, hy]
  · exact hf a s' b t' hQ
  · trivial

theorem InStep.mono (h : InStep x s y t Q) {Q' : α → σ → β → σ → Prop} (hQ : ∀ a s' b t', Q a s' b t' → Q' a s' b t') :
    InStep x s y t Q' := by
  rcases inStep_iff.1 h with ⟨a, s', b, t', hx, hy, h⟩ | h
  · exact inStep_iff.2 (.inl ⟨a, s', b, t', hx, hy, hQ _ _ _ _ h⟩)
  · exact inStep_iff.2 (.inr h)

/-- What each call promises on its own. -/
theorem InStep.and_runs (h : InStep x s y t Q) {P : α → σ → Prop} {P' : β → σ → Prop} (hx : Runs x s P E)
    (hy : Runs y t P' E') : InStep x s y t fun a s' b t' => Q a s' b t' ∧ P a s' ∧ P' b t' := by
  rcases inStep_iff.1 h with ⟨a, s', b, t', hxs, hyt, h⟩ | h
  · exact inStep_iff.2 (.inl ⟨a, s', b, t', hxs, hyt, h, hx.ok hxs, hy.ok hyt⟩)
  · exact inStep_iff.2 (.inr h)

theorem inStep_get_bind {f : σ → EStateM ε σ γ} {g : σ → EStateM ε σ δ} (h : InStep (f s) s (g t) t R) :
    InStep (get >>= f) s (get >>= g) t R := h

theorem inStep_modify_bind {u v : σ → σ} {f : PUnit → EStateM ε σ γ} {g : PUnit → EStateM ε σ δ}
    (h : InStep (f ⟨⟩) (u s) (g ⟨⟩) (v t) R) : InStep (modify u >>= f) s (modify v >>= g) t R := h

theorem inStep_set_bind {u v : σ} {f : PUnit → EStateM ε σ γ} {g : PUnit → EStateM ε σ δ}
    (h : InStep (f ⟨⟩) u (g ⟨⟩) v R) : InStep (set u >>= f) s (set v >>= g) t R := h

theorem inStep_refuseIf {d : Prop} [Decidable c] [Decidable d] {Q : Unit → σ → Unit → σ → Prop} (hcd : c ↔ d)
    (h : ¬ c → ¬ d → Q () s () t) : InStep (refuseIf c e) s (refuseIf d e') t Q := by
  by_cases hc : c
  · have hd : d := hcd.1 hc
    simp only [refuseIf, if_pos hc, if_pos hd]
    trivial
  · have hd : ¬ d := fun hd => hc (hcd.2 hd)
    simp only [refuseIf, if_neg hc, if_neg hd]
    exact h hc hd

theorem inStep_refuseIf_bind {d : Prop} [Decidable c] [Decidable d] {f : Unit → EStateM ε σ γ}
    {g : Unit → EStateM ε σ δ} (hcd : c ↔ d) (h : ¬ c → ¬ d → InStep (f ()) s (g ()) t R) :
    InStep (refuseIf c e >>= f) s (refuseIf d e' >>= g) t R := by
  refine (inStep_refuseIf (Q := fun _ s' _ t' => ¬ c ∧ ¬ d ∧ s' = s ∧ t' = t) hcd ?_).bind ?_
  · exact fun hc hd => ⟨hc, hd, rfl, rfl⟩
  · rintro _ _ _ _ ⟨hc, hd, rfl, rfl⟩
    exact h hc hd

/-- Both programs make the same check. -/
theorem inStep_refusing [Decidable c] {f : Unit → EStateM ε σ γ} {g : Unit → EStateM ε σ δ}
    (h : InStep (f ()) s (g ()) t R) : InStep (refuseIf c e >>= f) s (refuseIf c e' >>= g) t R :=
  inStep_refuseIf_bind Iff.rfl fun _ _ => h

theorem inStep_okOr_bind {o o' : Option α} {f g : α → EStateM ε σ γ} {R : γ → σ → γ → σ → Prop} (ho : o = o')
    (h : ∀ a, o = some a → InStep (f a) s (g a) t R) : InStep (okOr o e >>= f) s (okOr o' e' >>= g) t R := by
  subst ho
  cases o with
  | none => trivial
  | some a => exact h a rfl

section
variable {o : Except ε α} {o' : Except ε β} {P : α → β → Prop}

/-- Both checks pass, with `P` of the results, or both fail. -/
def Both (o : Except ε α) (o' : Except ε β) (P : α → β → Prop) : Prop :=
  match o, o' with
  | .ok a, .ok b => P a b
  | .error _, .error _ => True
  | _, _ => False

theorem Both.ok (h : Both o o' P) {b : β} (ha : o = .ok a) (hb : o' = .ok b) : P a b := by
  subst ha hb
  exact h

theorem both_same (o : Except ε α) : Both o o Eq := by
  cases o with
  | error e => trivial
  | ok a => exact rfl

theorem inStep_attempt_bind (h : Both o o' P) (hstep : ∀ a b, P a b → o = .ok a → o' = .ok b → InStep (f a) s (g b) t R) :
    InStep (attempt o >>= f) s (attempt o' >>= g) t R := by
  cases o <;> cases o'
  · trivial
  · exact h.elim
  · exact h.elim
  · exact hstep _ _ h rfl rfl

theorem inStep_attempt_bind_same {f g : α → EStateM ε σ γ} {R : γ → σ → γ → σ → Prop}
    (h : ∀ a, o = .ok a → InStep (f a) s (g a) t R) : InStep (attempt o >>= f) s (attempt o >>= g) t R := by
  refine inStep_attempt_bind (both_same o) ?_
  rintro a _ rfl ha -
  exact h a ha

end

/-- Two calls that both refuse. -/
theorem inStep_of_refusals (hx : Runs x s (fun _ _ => False) E) (hy : Runs y t (fun _ _ => False) E') :
    InStep x s y t Q := by
  unfold InStep
  cases hxs : x s with
  | ok a s' => exact (hx.ok hxs).elim
  | error e s' =>
    cases hyt : y t with
    | ok b t' => exact (hy.ok hyt).elim
    | error e' t' => trivial

/-! ## One side at a time -/

theorem InStep.symm (h : InStep x s y t Q) : InStep y t x s fun b t' a s' => Q a s' b t' := by
  rcases inStep_iff.1 h with ⟨a, s', b, t', hx, hy, h⟩ | ⟨e, s', e', t', hx, hy⟩
  · exact inStep_iff.2 (.inl ⟨b, t', a, s', hy, hx, h⟩)
  · exact inStep_iff.2 (.inr ⟨e', t', e, s', hy, hx⟩)

/-- The right call is past a check of its own. -/
theorem inStep_right {h : γ → EStateM ε σ β} {c : γ} (hz : z t = .ok c t') (hstep : InStep x s (h c) t' Q) :
    InStep x s (z >>= h) t Q := by
  have hbind : (z >>= h) t = h c t' := by
    show EStateM.bind z h t = _
    unfold EStateM.bind
    rw [hz]
  unfold InStep at hstep ⊢
  rw [hbind]
  exact hstep

/-- The left call is past a check of its own. -/
theorem inStep_left {h : γ → EStateM ε σ α} {c : γ} (hz : z s = .ok c s') (hstep : InStep (h c) s' y t Q) :
    InStep (z >>= h) s y t Q := (inStep_right hz hstep.symm).symm

theorem refuseIf_pass [Decidable c] (h : ¬ c) : (refuseIf c e : EStateM ε σ Unit) s = .ok () s := by
  rw [refuseIf, if_neg h]
  rfl

theorem okOr_pass {o : Option α} (h : o = some a) : (okOr o e : EStateM ε σ α) s = .ok a s := by
  rw [h]
  rfl

/-- A call compared with itself. -/
theorem inStep_same (x : EStateM ε σ α) (s : σ) : InStep x s x s fun a s' b t' => a = b ∧ s' = t' ∧ x s = .ok a s' := by
  unfold InStep
  cases x s with
  | ok a s' => exact ⟨rfl, rfl, rfl⟩
  | error e s' => trivial

/-! ## Reading a comparison -/

theorem InStep.ok_right (h : InStep x s y t Q) (hx : x s = .ok a s') : ∃ b t', y t = .ok b t' ∧ Q a s' b t' := by
  rcases inStep_iff.1 h with ⟨_, _, b, t', hx', hy, h⟩ | ⟨_, _, _, _, hx', -⟩ <;> cases hx.symm.trans hx'
  exact ⟨b, t', hy, h⟩

theorem InStep.ok_left (h : InStep x s y t Q) {b : β} (hy : y t = .ok b t') : ∃ a s', x s = .ok a s' ∧ Q a s' b t' :=
  h.symm.ok_right hy

end

end Again.Lib
