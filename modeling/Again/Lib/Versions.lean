import Again.Lib.Rows
import Mathlib.Order.Lattice

/-!
# Versions of a subject

Entries pair a subject with a version. An admission replaces the lower versions
of its subject; a withdrawal takes entries away. While no admission goes below a
current version, a subject has one current version, and that is the highest ever
admitted unless the highest was withdrawn.
-/

namespace Again.Lib

variable {κ ν : Type} [LinearOrder ν] {admitted withdrawn : κ → ν → Prop} {current : List (κ × ν)}

/-- What is current after admissions and withdrawals. -/
structure Versioned (admitted withdrawn : κ → ν → Prop) (current : List (κ × ν)) : Prop where
  single : UniqueKey Prod.fst current
  admits : ∀ k v, (k, v) ∈ current → admitted k v
  /-- A version that was admitted is below one that is current or was withdrawn. -/
  covers : ∀ k v, admitted k v → (∃ w, v ≤ w ∧ (k, w) ∈ current) ∨ ∃ w, v ≤ w ∧ admitted k w ∧ withdrawn k w

namespace Versioned

theorem nil : Versioned (fun _ _ => False) (fun _ _ => False) ([] : List (κ × ν)) := by
  constructor <;> simp [UniqueKey]

theorem mono {admitted' withdrawn' : κ → ν → Prop} (h : Versioned admitted withdrawn current)
    (hadmitted : ∀ k v, admitted k v ↔ admitted' k v) (hwithdrawn : ∀ k v, withdrawn k v → withdrawn' k v) :
    Versioned admitted' withdrawn' current := by
  constructor
  case single => exact h.single
  case admits => exact fun k v hmem => (hadmitted k v).1 (h.admits k v hmem)
  case covers =>
    intro k v hv
    rcases h.covers k v ((hadmitted k v).2 hv) with hcurrent | ⟨w, hle, hw, hgone⟩
    · exact .inl hcurrent
    · exact .inr ⟨w, hle, (hadmitted k w).1 hw, hwithdrawn k w hgone⟩

/-- An admission above what is current of its subject. -/
theorem supersede [DecidableEq κ] (h : Versioned admitted withdrawn current) {k : κ} {v : ν}
    (hbelow : ∀ w, (k, w) ∈ current → w < v) :
    Versioned (fun k' v' => admitted k' v' ∨ k' = k ∧ v' = v) withdrawn
      (current.filter (fun e => ¬ (e.1 = k ∧ e.2 < v)) ++ [(k, v)]) := by
  have hother : ∀ e ∈ current.filter (fun e => ¬ (e.1 = k ∧ e.2 < v)), e ∈ current ∧ e.1 ≠ k := by
    rintro ⟨k', w⟩ he
    obtain ⟨hmem, hkeep⟩ := List.mem_filter.1 he
    refine ⟨hmem, ?_⟩
    rintro rfl
    simp [hbelow w hmem] at hkeep
  constructor
  case single => exact (h.single.sublist List.filter_sublist).append fun e he => (hother e he).2
  case admits =>
    intro k' w hmem
    rcases List.mem_append.1 hmem with hold | hnew
    · exact .inl (h.admits k' w (hother _ hold).1)
    · exact .inr (by simpa using hnew)
  case covers =>
    intro k' u hu
    have hnew : (k, v) ∈ current.filter (fun e => ¬ (e.1 = k ∧ e.2 < v)) ++ [(k, v)] := by simp
    rcases hu with hu | ⟨rfl, rfl⟩
    · rcases h.covers k' u hu with ⟨w, hle, hmem⟩ | ⟨w, hle, hw, hgone⟩
      · by_cases hk : k' = k
        · subst hk
          exact .inl ⟨v, le_trans hle (le_of_lt (hbelow w hmem)), hnew⟩
        · exact .inl ⟨w, hle, List.mem_append_left _ (List.mem_filter.2 ⟨hmem, by simp [hk]⟩)⟩
      · exact .inr ⟨w, hle, .inl hw, hgone⟩
    · exact .inl ⟨u, le_refl u, hnew⟩

/-- Entries are taken away. -/
theorem withdraw {rest : List (κ × ν)} (h : Versioned admitted withdrawn current) (hsub : rest.Sublist current) :
    Versioned admitted (fun k v => withdrawn k v ∨ (k, v) ∈ current ∧ (k, v) ∉ rest) rest := by
  constructor
  case single => exact h.single.sublist hsub
  case admits => exact fun k v hmem => h.admits k v (hsub.subset hmem)
  case covers =>
    intro k v hv
    rcases h.covers k v hv with ⟨w, hle, hmem⟩ | ⟨w, hle, hw, hgone⟩
    · by_cases hkept : (k, w) ∈ rest
      · exact .inl ⟨w, hle, hkept⟩
      · exact .inr ⟨w, hle, h.admits k w hmem, .inr ⟨hmem, hkept⟩⟩
    · exact .inr ⟨w, hle, hw, .inl hgone⟩

/-- The current version is the highest admitted, unless that one was withdrawn. -/
theorem largest (h : Versioned admitted withdrawn current) {k : κ} {v m : ν} (hcurrent : (k, v) ∈ current)
    (hm : admitted k m) (hmax : ∀ w, admitted k w → w ≤ m) : v = m ∨ withdrawn k m := by
  rcases h.covers k m hm with ⟨w, hle, hmem⟩ | ⟨w, hle, hw, hgone⟩
  · have hsame : (k, v) = (k, w) := h.single.eq_of_mem hcurrent hmem rfl
    obtain rfl : v = w := congrArg Prod.snd hsame
    exact .inl (le_antisymm (hmax v (h.admits k v hcurrent)) hle)
  · obtain rfl : w = m := le_antisymm (hmax w hw) hle
    exact .inr hgone

end Versioned

end Again.Lib
