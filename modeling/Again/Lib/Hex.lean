import Again.Lib.Unicode

/-!
# Lower-case hexadecimal

Byte strings written as two digits a byte, high half first, and read back.
-/

namespace Again.Lib

def hexAlphabet : List Char := ['0', '1', '2', '3', '4', '5', '6', '7', '8', '9', 'a', 'b', 'c', 'd', 'e', 'f']

def hexDigit (value : Nat) : Char := hexAlphabet.getD value '0'

/-- The text of a byte string. -/
def toHex (bytes : Bytes) : String :=
  String.ofList (bytes.flatMap fun b => [hexDigit (b.toNat / 16), hexDigit (b.toNat % 16)])

/-- `[0-9a-f]`. -/
def isLowerHex (c : Char) : Bool := 48 ≤ c.toNat && c.toNat ≤ 57 || 97 ≤ c.toNat && c.toNat ≤ 102

/-- The value of a digit. -/
def hexValue (c : Char) : Nat := if c.toNat ≤ 57 then c.toNat - 48 else c.toNat - 87

theorem hexDigit_spec : ∀ value < 16, isLowerHex (hexDigit value) = true ∧ hexValue (hexDigit value) = value := by
  decide

theorem isLowerHex_toHex {bytes : Bytes} {c : Char} (h : c ∈ (toHex bytes).toList) : isLowerHex c = true := by
  rw [toHex, String.toList_ofList, List.mem_flatMap] at h
  obtain ⟨b, -, hc⟩ := h
  have hb := b.toNat_lt
  rcases List.mem_cons.mp hc with rfl | hc
  · exact (hexDigit_spec _ (by omega)).1
  · rw [List.mem_singleton] at hc
    exact hc ▸ (hexDigit_spec _ (Nat.mod_lt _ (by decide))).1

end Again.Lib
