import Again.Lib.Bytes

/-!
# Self-delimiting encodings

An encoding is self-delimiting when a reader can tell from the bytes alone
where a value ends: what follows it does not matter. Records written as
self-delimiting pieces one after the other are then determined by their bytes,
piece by piece.
-/

namespace Again.Lib

/-! ## Little-endian words -/

/-- `u16::to_le_bytes`. -/
def le16 (v : UInt16) : Bytes := (be16 v).reverse

/-- `u64::to_le_bytes`. -/
def le64 (v : UInt64) : Bytes := (be64 v).reverse

@[simp] theorem length_le16 (v : UInt16) : (le16 v).length = 2 := by simp [le16]

@[simp] theorem length_le64 (v : UInt64) : (le64 v).length = 8 := by simp [le64]

theorem le16_injective : Function.Injective le16 := fun _ _ h => be16_injective (List.reverse_injective h)

theorem le64_injective : Function.Injective le64 := fun _ _ h => be64_injective (List.reverse_injective h)

/-! ## Self-delimiting encodings -/

/-- The values in `P` are written so that the bytes tell where each ends. -/
def SelfDelimiting {α : Type} (P : α → Prop) (enc : α → Bytes) : Prop :=
  ∀ ⦃a b : α⦄, P a → P b → ∀ ⦃rest rest' : Bytes⦄, enc a ++ rest = enc b ++ rest' → a = b ∧ rest = rest'

variable {α β : Type}

variable {enc : α → Bytes} {n : Nat} {P : α → Prop}

theorem selfDelimiting_of_length (hlength : ∀ a, (enc a).length = n) (hinj : Function.Injective enc) :
    SelfDelimiting (fun _ => True) enc := by
  intro a b _ _ rest rest' h
  obtain ⟨henc, hrest⟩ := List.append_inj h (by rw [hlength, hlength])
  exact ⟨hinj henc, hrest⟩

theorem selfDelimiting_le16 : SelfDelimiting (fun _ => True) le16 :=
  selfDelimiting_of_length length_le16 le16_injective

theorem selfDelimiting_le64 : SelfDelimiting (fun _ => True) le64 :=
  selfDelimiting_of_length length_le64 le64_injective

theorem SelfDelimiting.comp {P : β → Prop} {enc : β → Bytes} (h : SelfDelimiting P enc) {f : α → β}
    (hf : Function.Injective f) : SelfDelimiting (fun a => P (f a)) fun a => enc (f a) := by
  intro a b ha hb rest rest' heq
  obtain ⟨hab, hrest⟩ := h ha hb heq
  exact ⟨hf hab, hrest⟩

theorem SelfDelimiting.mono {Q : α → Prop} (h : SelfDelimiting P enc) (hQ : ∀ a, Q a → P a) :
    SelfDelimiting Q enc := fun _ _ ha hb _ _ heq => h (hQ _ ha) (hQ _ hb) heq

/-! ## Lengths before contents -/

/-- A byte string behind its length. -/
def putBytes (value : Bytes) : Bytes := le64 (UInt64.ofNat value.length) ++ value

def putString (value : String) : Bytes := putBytes (utf8 value)

/-- A list behind its count. -/
def putList (enc : α → Bytes) (values : List α) : Bytes := le64 (UInt64.ofNat values.length) ++ values.flatMap enc

theorem length_eq_of_le64 {m : Nat} (hn : n < 2 ^ 64) (hm : m < 2 ^ 64) {rest rest' : Bytes}
    (h : le64 (UInt64.ofNat n) ++ rest = le64 (UInt64.ofNat m) ++ rest') : n = m ∧ rest = rest' := by
  obtain ⟨hword, hrest⟩ := selfDelimiting_le64 trivial trivial h
  have hvalue := congrArg UInt64.toNat hword
  rw [UInt64.toNat_ofNat_of_lt' hn, UInt64.toNat_ofNat_of_lt' hm] at hvalue
  exact ⟨hvalue, hrest⟩

theorem selfDelimiting_putBytes : SelfDelimiting (fun value => value.length < 2 ^ 64) putBytes := by
  intro a b ha hb rest rest' h
  obtain ⟨hlength, htail⟩ := length_eq_of_le64 ha hb h
  exact List.append_inj htail hlength

theorem selfDelimiting_putString : SelfDelimiting (fun value => (utf8 value).length < 2 ^ 64) putString :=
  selfDelimiting_putBytes.comp utf8_injective

theorem selfDelimiting_putOctets (hn : n < 2 ^ 64) :
    SelfDelimiting (fun _ => True) fun value : Octets n => putBytes value.val :=
  (selfDelimiting_putBytes.comp Subtype.val_injective).mono fun value _ => value.property.symm ▸ hn

theorem SelfDelimiting.flatMap (h : SelfDelimiting P enc) {xs ys : List α} {rest rest' : Bytes}
    (hlength : xs.length = ys.length) (hxs : ∀ x ∈ xs, P x) (hys : ∀ y ∈ ys, P y)
    (heq : xs.flatMap enc ++ rest = ys.flatMap enc ++ rest') : xs = ys ∧ rest = rest' := by
  induction xs generalizing ys with
  | nil =>
    rw [List.length_nil, eq_comm, List.length_eq_zero_iff] at hlength
    subst hlength
    exact ⟨rfl, heq⟩
  | cons x xs ih =>
    cases ys with
    | nil => cases hlength
    | cons y ys =>
      simp only [List.flatMap_cons, List.append_assoc] at heq
      obtain ⟨rfl, htail⟩ := h (hxs x List.mem_cons_self) (hys y List.mem_cons_self) heq
      obtain ⟨rfl, hrest⟩ := ih (Nat.succ.inj hlength) (fun z hz => hxs z (List.mem_cons_of_mem _ hz))
        (fun z hz => hys z (List.mem_cons_of_mem _ hz)) htail
      exact ⟨rfl, hrest⟩

theorem SelfDelimiting.putList (h : SelfDelimiting P enc) :
    SelfDelimiting (fun values : List α => values.length < 2 ^ 64 ∧ ∀ value ∈ values, P value) (putList enc) := by
  intro xs ys hxs hys rest rest' heq
  simp only [Lib.putList, List.append_assoc] at heq
  obtain ⟨hlength, heq⟩ := length_eq_of_le64 hxs.1 hys.1 heq
  exact h.flatMap hlength hxs.2 hys.2 heq

/-- Nothing follows the last piece. -/
theorem SelfDelimiting.eq (h : SelfDelimiting P enc) {a b : α} (ha : P a) (hb : P b) (heq : enc a = enc b) :
    a = b := (h ha hb (congrArg (· ++ []) heq)).1

end Again.Lib
