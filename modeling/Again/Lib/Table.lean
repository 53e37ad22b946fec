import Mathlib.Data.Fintype.Fin

/-!
# Fixed-capacity tables

An array `[T; N]` is a function from `Fin N`, written one slot at a time.
`position` and `count` are the two scans such arrays are read with. A table
whose slots are either empty or hold one entry per key is read as a partial
map from keys to entries.
-/

namespace Again.Lib

/-- A fixed array of `n` slots. -/
abbrev Table (n : Nat) (α : Type) := Fin n → α

namespace Table

variable {n : Nat} {α : Type}

/-- Overwrite one slot. -/
def put (t : Table n α) (i : Fin n) (a : α) : Table n α := Function.update t i a

/-- The first slot satisfying `p`. -/
def position (t : Table n α) (p : α → Bool) : Option (Fin n) := Fin.find? fun i => p (t i)

/-- The number of slots satisfying `p`. -/
def count (t : Table n α) (p : α → Bool) : Nat := (Finset.univ.filter fun i => p (t i) = true).card

@[simp] theorem put_self (t : Table n α) (i : Fin n) (a : α) : t.put i a i = a := by
  simp [put]

variable {i j : Fin n} {t : Table n α} {p : α → Bool} {a : α}

theorem put_other (t : Table n α) (a : α) (h : j ≠ i) : t.put i a j = t j := by
  simp [put, h]

/-- What holds of the new entry and of every other slot holds of every slot after the write. -/
theorem put_forall {P : α → Prop} (ha : P a) (h : ∀ k, k ≠ i → P (t k)) : ∀ k, P (t.put i a k) :=
  (Function.forall_update_iff t fun _ => P).2 ⟨ha, h⟩

@[simp] theorem put_put (t : Table n α) (i : Fin n) (a b : α) : (t.put i a).put i b = t.put i b := by
  simp [put]

theorem put_comm (t : Table n α) (a b : α) (h : i ≠ j) : (t.put i a).put j b = (t.put j b).put i a := by
  exact Function.update_comm h a b t

theorem position_some (h : t.position p = some i) : p (t i) = true := (Fin.find?_eq_some_iff.1 h).1

theorem position_none : t.position p = none ↔ ∀ i, p (t i) = false :=
  Fin.find?_eq_none_iff

/-- When only one slot satisfies `p`, the scan finds it. -/
theorem position_eq_some (hi : p (t i) = true) (hu : ∀ j, p (t j) = true → j = i) : t.position p = some i := by
  refine Fin.find?_eq_some_iff.2 ⟨hi, fun j hj => ?_⟩
  by_contra hp
  have hji : j = i := hu j (by simpa using hp)
  exact absurd hj (by simp [hji])

/-- The scans see no more of a slot than the test does. -/
theorem position_congr {u : Table n α} (h : ∀ i, p (t i) = p (u i)) : t.position p = u.position p :=
  congrArg Fin.find? (funext h)

theorem count_congr {u : Table n α} (h : ∀ i, p (t i) = p (u i)) : t.count p = u.count p := by
  unfold count
  simp only [h]

theorem count_eq_zero : t.count p = 0 ↔ ∀ i, p (t i) = false := by
  simp [count, Finset.filter_eq_empty_iff]

theorem count_pos : 0 < t.count p ↔ ∃ i, p (t i) = true := by
  simp [count, Finset.card_pos, Finset.filter_nonempty_iff]

theorem count_le (t : Table n α) (p : α → Bool) : t.count p ≤ n := by
  simpa [count] using Finset.card_filter_le (Finset.univ : Finset (Fin n)) (fun i => p (t i) = true)

theorem count_eq_capacity : t.count p = n ↔ ∀ i, p (t i) = true := by
  have h := Finset.card_filter_eq_iff (s := (Finset.univ : Finset (Fin n))) (p := fun i => p (t i) = true)
  simpa [count] using h

theorem count_le_one (h : t.count p ≤ 1) (hi : p (t i) = true) (hj : p (t j) = true) : i = j := by
  refine Finset.card_le_one.1 h i ?_ j ?_ <;> simp [hi, hj]

/-- How a write moves a count: what leaves the slot and what enters it. -/
theorem count_put (t : Table n α) (p : α → Bool) (i : Fin n) (a : α) :
    (t.put i a).count p + (p (t i)).toNat = t.count p + (p a).toNat := by
  have hsplit : ∀ u : Table n α, u.count p =
      (Finset.univ.filter fun j => j ≠ i ∧ p (u j) = true).card + (p (u i)).toNat := by
    intro u
    have hu : (Finset.univ.filter fun j => p (u j) = true) =
        (Finset.univ.filter fun j => j ≠ i ∧ p (u j) = true) ∪ (if p (u i) then {i} else ∅) := by
      ext j
      by_cases hj : j = i
      · subst hj; by_cases hp : p (u j) = true <;> simp [hp]
      · by_cases hp : p (u i) = true <;> simp [hj, hp]
    rw [count, hu, Finset.card_union_of_disjoint]
    · by_cases hp : p (u i) = true <;> simp [hp]
    · by_cases hp : p (u i) = true <;> simp [hp]
  have hrest : (Finset.univ.filter fun j => j ≠ i ∧ p (t.put i a j) = true) =
      Finset.univ.filter fun j => j ≠ i ∧ p (t j) = true := by
    ext j
    by_cases hj : j = i <;> simp [hj, put_other]
  rw [hsplit (t.put i a), hsplit t, hrest, put_self]
  omega

/-- A number that was the count, and moved as the slot did, is the count again. -/
theorem count_moved {c c' : Nat} (h : c = t.count p) (hmoved : c' + (p (t i)).toNat = c + (p a).toNat) :
    c' = (t.put i a).count p := by
  have hput := count_put t p i a
  omega

theorem count_put_eq (h : p a = p (t i)) : (t.put i a).count p = t.count p := by
  have := count_put t p i a
  rw [h] at this
  omega

theorem count_put_add (ht : p (t i) = false) (ha : p a = true) : (t.put i a).count p = t.count p + 1 := by
  have := count_put t p i a
  simpa [ht, ha] using this

theorem count_put_sub (ht : p (t i) = true) (ha : p a = false) : (t.put i a).count p + 1 = t.count p := by
  have := count_put t p i a
  simpa [ht, ha] using this

/-- A test that only the first `k` slots can pass counts at most `k`. -/
theorem count_le_of_below {k : Nat} (h : ∀ i, p (t i) = true → i.val < k) : t.count p ≤ k := by
  have hsub : (Finset.univ.filter fun i => p (t i) = true) ⊆ Finset.univ.filter fun i : Fin n => i.val < k := by
    intro i hi
    rw [Finset.mem_filter] at hi ⊢
    exact ⟨hi.1, h i hi.2⟩
  have hcard := Finset.card_le_card hsub
  rw [Fin.card_filter_val_lt] at hcard
  exact hcard.trans (Nat.min_le_right n k)

/-- A test that exactly the first `k` slots pass counts `k`. -/
theorem count_eq_of_below {k : Nat} (hk : k ≤ n) (h : ∀ i, p (t i) = true ↔ i.val < k) : t.count p = k := by
  have hsame : (Finset.univ.filter fun i => p (t i) = true) = Finset.univ.filter fun i : Fin n => i.val < k :=
    Finset.filter_congr fun i _ => h i
  rw [count, hsame, Fin.card_filter_val_lt, Nat.min_eq_right hk]

/-- Slots in use, those with a nonzero key, have distinct keys. -/
def Keyed (t : Table n α) (key : α → Int) : Prop := ∀ i j, key (t i) ≠ 0 → key (t i) = key (t j) → i = j

/-- Writing an empty entry, or one under a key no other slot has, keeps the keys distinct. -/
theorem Keyed.put {key : α → Int} (h : t.Keyed key) (hnew : key a ≠ 0 → ∀ k, k ≠ i → key (t k) ≠ key a) :
    (t.put i a).Keyed key := by
  intro k m hk hkm
  by_cases hki : k = i <;> by_cases hmi : m = i
  · rw [hki, hmi]
  · subst hki
    rw [put_self] at hk hkm
    rw [put_other _ _ hmi] at hkm
    exact absurd hkm.symm (hnew hk m hmi)
  · subst hmi
    rw [put_other _ _ hki] at hk hkm
    rw [put_self] at hkm
    exact absurd hkm (hnew (hkm ▸ hk) k hki)
  · rw [put_other _ _ hki] at hk hkm
    rw [put_other _ _ hmi] at hkm
    exact h k m hk hkm

-- the scans are used through the lemmas above only
attribute [irreducible] position count

end Table

end Again.Lib
