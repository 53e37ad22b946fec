import Mathlib.Data.List.Forall2

/-!
# Patterns with wildcards

A pattern is a list of items. The item `any` takes any stretch of the values, every
other takes one value that fits it.
-/

namespace Again.Lib

variable {α β : Type} {any item : α} {fits : α → β → Prop} {items : List α} {values : List β}

/-- What one item takes of the values. -/
def Takes (any : α) (fits : α → β → Prop) (item : α) (piece : List β) : Prop :=
  item = any ∨ ∃ value, piece = [value] ∧ fits item value

/-- The values can be split among the items. -/
def Splits (any : α) (fits : α → β → Prop) (items : List α) (values : List β) : Prop :=
  ∃ pieces, List.Forall₂ (Takes any fits) items pieces ∧ pieces.flatten = values

@[simp] theorem splits_nil : Splits any fits [] values ↔ values = [] := by
  simp [Splits, eq_comm]

theorem splits_cons :
    Splits any fits (item :: items) values ↔
      ∃ piece rest, Takes any fits item piece ∧ Splits any fits items rest ∧ values = piece ++ rest := by
  simp only [Splits, List.forall₂_cons_left_iff]
  constructor
  · rintro ⟨_, ⟨piece, pieces, htakes, hrest, rfl⟩, rfl⟩
    exact ⟨piece, pieces.flatten, htakes, ⟨pieces, hrest, rfl⟩, rfl⟩
  · rintro ⟨piece, _, htakes, ⟨pieces, hrest, rfl⟩, rfl⟩
    exact ⟨piece :: pieces, ⟨piece, pieces, htakes, hrest, rfl⟩, rfl⟩

theorem splits_any :
    Splits any fits (any :: items) values ↔ ∃ n ≤ values.length, Splits any fits items (values.drop n) := by
  rw [splits_cons]
  constructor
  · rintro ⟨piece, rest, -, hrest, rfl⟩
    exact ⟨piece.length, by simp, by simpa using hrest⟩
  · rintro ⟨n, -, hrest⟩
    exact ⟨values.take n, _, .inl rfl, hrest, (List.take_append_drop n values).symm⟩

theorem splits_one (h : item ≠ any) :
    Splits any fits (item :: items) values ↔
      ∃ value rest, values = value :: rest ∧ fits item value ∧ Splits any fits items rest := by
  rw [splits_cons]
  constructor
  · rintro ⟨_, rest, rfl | ⟨value, rfl, hfits⟩, hrest, rfl⟩
    · exact absurd rfl h
    · exact ⟨value, rest, rfl, hfits, hrest⟩
  · rintro ⟨value, rest, rfl, hfits, hrest⟩
    exact ⟨[value], rest, .inr ⟨value, rfl, hfits⟩, hrest, rfl⟩

/-- `any` takes nothing here, or takes the first value and goes on. -/
theorem splits_any_iff :
    Splits any fits (any :: items) values ↔
      Splits any fits items values ∨
        ∃ value rest, values = value :: rest ∧ Splits any fits (any :: items) rest := by
  cases values with
  | nil => simp [splits_any]
  | cons value rest =>
    rw [splits_any]
    constructor
    · rintro ⟨_ | n, hn, hrest⟩
      · exact .inl hrest
      · exact .inr ⟨value, rest, rfl, splits_any.mpr ⟨n, by simpa using hn, hrest⟩⟩
    · rintro (hrest | ⟨_, _, ⟨rfl, rfl⟩, hrest⟩)
      · exact ⟨0, by simp, hrest⟩
      · obtain ⟨n, hn, hrest⟩ := splits_any.mp hrest
        exact ⟨n + 1, by simpa using hn, hrest⟩

/-- A first value behind position `n` is the one at `n`. -/
theorem exists_drop_eq_cons {n : Nat} {P : β → List β → Prop} :
    (∃ value rest, values.drop n = value :: rest ∧ P value rest) ↔
      ∃ h : n < values.length, P values[n] (values.drop (n + 1)) := by
  constructor
  · rintro ⟨value, rest, hdrop, hP⟩
    have h : n < values.length := by
      by_contra hge
      rw [List.drop_eq_nil_of_le (Nat.not_lt.mp hge)] at hdrop
      cases hdrop
    rw [List.drop_eq_getElem_cons h] at hdrop
    cases hdrop
    exact ⟨h, hP⟩
  · rintro ⟨h, hP⟩
    exact ⟨_, _, List.drop_eq_getElem_cons h, hP⟩

end Again.Lib
