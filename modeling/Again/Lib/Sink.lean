import Again.Lib.Refusal
import Again.Lib.Bytes

/-!
# Writing into a sink

A sink appends a byte string whole or refuses it. A writer counts what it has
handed over. `Fills w out`: when `w` returns, the sink took `out`, and `w` fails
only when the sink refuses a piece of `out` or the count overflows.
-/

namespace Again.Lib

variable {out : Bytes}

/-- A sink, what it holds, and the law every implementation keeps. -/
class ByteSink (S : Type) (E : outParam Type) where
  tryExtend : S → Bytes → Except E S
  contents : S → Bytes
  contents_tryExtend : ∀ {s s' : S} {bytes : Bytes}, tryExtend s bytes = .ok s' → contents s' = contents s ++ bytes

inductive WriteError (C E : Type) where
  | canonical (error : C)
  | sink (error : E)

structure Writer (S : Type) where
  sink : S
  written : Nat

abbrev WriterM (C S E : Type) := EStateM (WriteError C E) (Writer S)

variable {C S E α : Type}

/-- A computation of the encoder's own, inside a write. -/
def liftEncoder (x : Except C α) : WriterM C S E α := attempt (x.mapError .canonical)

@[simp] theorem mapError_eq_ok {C' : Type} {x : Except C α} {f : C → C'} {a : α} : x.mapError f = .ok a ↔ x = .ok a := by
  cases x <;> simp [Except.mapError]

variable [ByteSink S E]

/-- Hand over `bytes`; `overflow` when the count leaves `usize`. -/
def writeBytes (overflow : C) (bytes : Bytes) : WriterM C S E Unit := do
  let writer ← get
  refuseIf (2 ^ 64 ≤ writer.written + bytes.length) (.canonical overflow)
  let sink ← attempt ((ByteSink.tryExtend writer.sink bytes).mapError .sink)
  set (Writer.mk sink (writer.written + bytes.length))

/-- `next` is `sink` after it took `front`, piece by piece. -/
inductive Took : S → Bytes → S → Prop
  | nil (sink : S) : Took sink [] sink
  | snoc {sink mid next : S} {front bytes : Bytes} (hfront : Took sink front mid)
      (hbytes : ByteSink.tryExtend mid bytes = .ok next) : Took sink (front ++ bytes) next

theorem Took.trans {sink mid next : S} {front back : Bytes} (h : Took sink front mid) (h' : Took mid back next) :
    Took sink (front ++ back) next := by
  induction h' with
  | nil => rwa [List.append_nil]
  | snoc _ hbytes ih =>
    rw [← List.append_assoc]
    exact ih.snoc hbytes

theorem Took.contents {sink next : S} (h : Took sink out next) :
    ByteSink.contents next = ByteSink.contents sink ++ out := by
  induction h with
  | nil => exact (List.append_nil _).symm
  | snoc _ hbytes ih => rw [ByteSink.contents_tryExtend hbytes, ih, List.append_assoc]

/-- Somewhere on the way through `out` the sink refuses a piece. -/
def Refused (sink : S) (out : Bytes) : Prop :=
  ∃ front bytes back mid, out = front ++ bytes ++ back ∧ Took sink front mid ∧ ∃ e, ByteSink.tryExtend mid bytes = .error e

theorem Refused.append {sink : S} (h : Refused sink out) (back : Bytes) : Refused sink (out ++ back) := by
  obtain ⟨front, bytes, rest, mid, rfl, hfront, herror⟩ := h
  exact ⟨front, bytes, rest ++ back, mid, by simp, hfront, herror⟩

theorem Refused.after {sink mid : S} {front : Bytes} (hfront : Took sink front mid) (h : Refused mid out) :
    Refused sink (front ++ out) := by
  obtain ⟨first, bytes, back, last, rfl, hfirst, herror⟩ := h
  exact ⟨front ++ first, bytes, back, last, by simp, hfront.trans hfirst, herror⟩

/-- No piece is ever refused. -/
def Accepting (S : Type) {E : Type} [ByteSink S E] : Prop :=
  ∀ (sink : S) (bytes : Bytes), ∃ next, ByteSink.tryExtend sink bytes = .ok next

theorem Accepting.not_refused (h : Accepting S) (sink : S) (out : Bytes) : ¬ Refused sink out := by
  rintro ⟨_, bytes, _, mid, -, -, e, herror⟩
  obtain ⟨next, hnext⟩ := h mid bytes
  rw [hnext] at herror
  cases herror

/-- `w` hands over `out` and counts it, unless the sink refuses or the count overflows. -/
def Fills (w : WriterM C S E α) (out : Bytes) : Prop :=
  ∀ s, Runs w s (fun _ s' => Took s.sink out s'.sink ∧ s'.written = s.written + out.length)
    fun _ _ => 2 ^ 64 ≤ s.written + out.length ∨ Refused s.sink out

theorem fills_writeBytes (overflow : C) (bytes : Bytes) : Fills (writeBytes overflow bytes : WriterM C S E Unit) bytes := by
  intro s
  simp only [writeBytes, runs_bind, runs_get, runs_refuseIf, runs_attempt, runs_set, mapError_eq_ok]
  refine ⟨fun hoverflow => .inl hoverflow, fun _ => ⟨fun e he => .inr ?_,
    fun sink hsink => ⟨.snoc (.nil _) hsink, trivial⟩⟩⟩
  refine ⟨[], bytes, [], s.sink, by simp, .nil _, ?_⟩
  cases h : ByteSink.tryExtend s.sink bytes with
  | ok sink =>
    rw [h] at he
    cases he
  | error refusal => exact ⟨refusal, rfl⟩

theorem fills_pure (a : α) : Fills (pure a : WriterM C S E α) [] := fun _ => ⟨.nil _, rfl⟩

theorem Fills.bind {β : Type} {w : WriterM C S E α} {f : α → WriterM C S E β} {out' : Bytes} (hw : Fills w out)
    (hf : ∀ a, Fills (f a) out') : Fills (w >>= f) (out ++ out') := by
  intro s
  have hfirst : Runs w s (fun _ t => Took s.sink out t.sink ∧ t.written = s.written + out.length) fun _ _ =>
      2 ^ 64 ≤ s.written + (out ++ out').length ∨ Refused s.sink (out ++ out') := by
    refine (hw s).mono (fun _ _ h => h) fun _ _ h => h.imp (fun h => ?_) fun h => h.append out'
    rw [List.length_append]
    omega
  refine hfirst.bind fun a t ht => (hf a t).mono (fun _ u hu => ⟨ht.1.trans hu.1, ?_⟩) fun _ _ h => ?_
  · rw [hu.2, ht.2, List.length_append, Nat.add_assoc]
  · rw [ht.2, Nat.add_assoc, ← List.length_append] at h
    exact h.imp_right fun h => h.after ht.1

/-- A computation of the encoder's own writes nothing. -/
theorem Fills.lift {β : Type} {x : Except C α} {a : α} {f : α → WriterM C S E β} (hx : x = .ok a) (hf : Fills (f a) out) :
    Fills (liftEncoder x >>= f) out := by
  subst hx
  exact hf

/-- Where the sink takes everything and the count fits, the writer returns. -/
theorem Fills.returns {w : WriterM C S E Unit} (h : Fills w out) {s : Writer S}
    (hcount : s.written + out.length < 2 ^ 64) (htakes : ¬ Refused s.sink out) :
    ∃ sink, w s = .ok () ⟨sink, s.written + out.length⟩ ∧ Took s.sink out sink := by
  cases hw : w s with
  | ok u t =>
    obtain ⟨htook, hwritten⟩ := (h s).ok hw
    exact ⟨t.sink, by rw [← hwritten], htook⟩
  | error e t =>
    rcases (h s).error hw with hoverflow | hrefused
    · omega
    · exact absurd hrefused htakes

end Again.Lib
