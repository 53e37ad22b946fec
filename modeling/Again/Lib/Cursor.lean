import Again.Lib.Bytes

/-!
# Cursors

A cursor consumes a byte string from the front. `Reads p front a` is what a
round trip needs of it: on `front` it returns `a`, whatever follows.
-/

namespace Again.Lib

variable {ε α β : Type}

abbrev Cursor (ε : Type) := StateT Bytes (Except ε)

namespace Cursor

/-- The next `n` bytes; `short` when there are fewer. -/
def take (short : ε) (n : Nat) : Cursor ε Bytes := fun bytes =>
  if n ≤ bytes.length then .ok (bytes.take n, bytes.drop n) else .error short

def remaining : Cursor ε Nat := fun bytes => .ok (bytes.length, bytes)

def u8 (short : ε) : Cursor ε UInt8 := do
  requireSome (← take short 1).head? short

def u16 (short : ε) : Cursor ε UInt16 := do
  requireSome ((octets? 2 (← take short 2)).map ofBe16) short

def u64 (short : ε) : Cursor ε UInt64 := do
  requireSome ((octets? 8 (← take short 8)).map ofBe64) short

/-- Run the cursor and require that it used every byte. -/
def finish (short : ε) (p : Cursor ε α) (bytes : Bytes) : Except ε α := do
  let (a, rest) ← p bytes
  rejectIf (rest ≠ []) short
  pure a

/-- On `front` the cursor returns `a` and leaves what follows. -/
def Reads (p : Cursor ε α) (front : Bytes) (a : α) : Prop := ∀ rest, p (front ++ rest) = .ok (a, rest)

theorem Reads.pure (a : α) : Reads (Pure.pure a : Cursor ε α) [] a := fun _ => rfl

variable {p : Cursor ε α} {f : α → Cursor ε β} {front : Bytes} {a : α} {b : β}

theorem Reads.bind {next : Bytes} (hp : Reads p front a) (hf : Reads (f a) next b) :
    Reads (p >>= f) (front ++ next) b := by
  intro rest
  show (p (front ++ next ++ rest) >>= fun x => f x.1 x.2) = _
  rw [List.append_assoc, hp]
  exact hf rest

/-- A last step that reads nothing. -/
theorem Reads.last (hp : Reads p front a) (hf : Reads (f a) [] b) : Reads (p >>= f) front b := by
  have h := hp.bind hf
  rwa [List.append_nil] at h

theorem Reads.lift {x : Except ε α} (h : x = .ok a) : Reads (liftM x : Cursor ε α) [] a := by
  intro rest
  subst h
  rfl

/-- A check that passes reads nothing. -/
theorem Reads.lift_bind {x : Except ε α} (h : x = .ok a) (hf : Reads (f a) front b) : Reads (liftM x >>= f) front b :=
  (Reads.lift h).bind hf

theorem Reads.guard {c : Prop} [Decidable c] {e : ε} {f : Unit → Cursor ε α} (hc : ¬ c) (hf : Reads (f ()) front a) :
    Reads (liftM (rejectIf c e) >>= f) front a :=
  Reads.lift_bind (rejectIf_eq_ok.mpr hc) hf

theorem reads_take (short : ε) {n : Nat} (h : front.length = n) : Reads (take short n) front front := by
  intro rest
  subst h
  simp [take]

/-- Taking `n` bytes and converting them. -/
theorem reads_take_requireSome (short : ε) {f : Bytes → Option α} {n : Nat} (h : front.length = n)
    (hf : f front = some a) : Reads (do requireSome (f (← take short n)) short) front a := by
  refine (reads_take short h).last ?_
  exact Reads.lift (requireSome_eq_ok.mpr hf)

theorem reads_u8 (short : ε) (b : UInt8) : Reads (u8 short) [b] b :=
  reads_take_requireSome short (f := List.head?) rfl rfl

theorem reads_u16 (short : ε) (v : UInt16) : Reads (u16 short) (be16 v) v :=
  reads_take_requireSome short (f := fun bytes => (octets? 2 bytes).map ofBe16) (length_be16 v) (by simp [octets?])

theorem reads_u64 (short : ε) (v : UInt64) : Reads (u64 short) (be64 v) v :=
  reads_take_requireSome short (f := fun bytes => (octets? 8 bytes).map ofBe64) (length_be64 v) (by simp [octets?])

theorem Reads.finish {bytes : Bytes} (h : Reads p bytes a) (short : ε) : finish short p bytes = .ok a := by
  have h' := h []
  rw [List.append_nil] at h'
  simp [Cursor.finish, h']

end Cursor

end Again.Lib
