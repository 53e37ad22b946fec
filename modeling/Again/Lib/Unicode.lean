import Again.Lib.Bytes

/-!
# Unicode text

The two character properties protocol identifiers are checked against, and what
the UTF-8 bytes of a text say about its characters.
-/

namespace Again.Lib

/-- `char::is_control`: general category `Cc`. -/
def isControl (c : Char) : Bool := c.toNat ≤ 0x1f || 0x7f ≤ c.toNat && c.toNat ≤ 0x9f

/-- `char::is_whitespace`: the property `White_Space`. -/
def isWhitespace (c : Char) : Bool :=
  0x09 ≤ c.toNat && c.toNat ≤ 0x0d || c.toNat == 0x20 || c.toNat == 0x85 || c.toNat == 0xa0 || c.toNat == 0x1680 ||
    0x2000 ≤ c.toNat && c.toNat ≤ 0x200a || c.toNat == 0x2028 || c.toNat == 0x2029 || c.toNat == 0x202f ||
    c.toNat == 0x205f || c.toNat == 0x3000

/-- `str::starts_with`, for one ASCII character. -/
def startsWithByte (value : String) (b : UInt8) : Bool := (utf8 value).head? == some b

/-! ## Bytes and characters -/

theorem utf8_ofList (cs : List Char) : utf8 (String.ofList cs) = cs.flatMap String.utf8EncodeChar := by
  rw [utf8, String.toByteArray_ofList]
  simp [List.utf8Encode, List.data_toByteArray]

theorem utf8_eq_flatMap (s : String) : utf8 s = s.toList.flatMap String.utf8EncodeChar := by
  rw [← utf8_ofList, String.ofList_toList]

theorem utf8EncodeChar_of_ascii {c : Char} (h : c.toNat < 128) : String.utf8EncodeChar c = [UInt8.ofNat c.toNat] := by
  have hle : c.val.toNat ≤ 127 := Nat.le_of_lt_succ h
  simp only [String.utf8EncodeChar, hle, if_true]
  rfl

/-- A character outside ASCII starts with a byte outside ASCII. -/
theorem utf8EncodeChar_of_not_ascii {c : Char} (h : ¬ c.toNat < 128) :
    ∃ b ∈ String.utf8EncodeChar c, ¬ b.toNat < 128 := by
  have hle : ¬ c.val.toNat ≤ 127 := fun hle => h (Nat.lt_succ_of_le hle)
  simp only [String.utf8EncodeChar, hle, if_false]
  split_ifs
  all_goals
    refine ⟨_, List.mem_cons_self, ?_⟩
    rw [UInt8.toNat_ofNat']
    omega

theorem utf8_of_ascii {s : String} (h : ∀ c ∈ s.toList, c.toNat < 128) :
    utf8 s = s.toList.map fun c => UInt8.ofNat c.toNat := by
  rw [utf8_eq_flatMap, ← List.flatMap_pure_eq_map]
  exact List.flatMap_congr fun c hc => utf8EncodeChar_of_ascii (h c hc)

/-- For a class of ASCII bytes, a check on all bytes is a check on all characters. -/
theorem all_utf8_iff {P : UInt8 → Bool} (hP : ∀ b, P b = true → b.toNat < 128) {s : String} :
    (utf8 s).all P = true ↔ ∀ c ∈ s.toList, c.toNat < 128 ∧ P (UInt8.ofNat c.toNat) = true := by
  constructor
  · intro hall c hc
    rw [utf8_eq_flatMap, List.all_eq_true] at hall
    have hbytes : ∀ b ∈ String.utf8EncodeChar c, P b = true := fun b hb =>
      hall b (List.mem_flatMap.mpr ⟨c, hc, hb⟩)
    by_cases h : c.toNat < 128
    · exact ⟨h, hbytes _ (by rw [utf8EncodeChar_of_ascii h]; exact List.mem_cons_self)⟩
    · obtain ⟨b, hb, hlarge⟩ := utf8EncodeChar_of_not_ascii h
      exact absurd (hP b (hbytes b hb)) hlarge
  · intro h
    rw [utf8_of_ascii fun c hc => (h c hc).1, List.all_map, List.all_eq_true]
    exact fun c hc => (h c hc).2

end Again.Lib
