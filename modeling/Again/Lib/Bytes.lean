import Again.Lib.Guards
import Mathlib.Tactic.Ring

/-!
# Byte strings

Byte strings are lists. Words are written big-endian, most significant byte
first, at a fixed width; `Octets n` is `[u8; n]`.
-/

namespace Again.Lib

abbrev Bytes := List UInt8

/-- `[u8; n]`. -/
abbrev Octets (n : Nat) := { bytes : Bytes // bytes.length = n }

/-- `<[u8; n]>::try_from(bytes)`. -/
def octets? (n : Nat) (bytes : Bytes) : Option (Octets n) :=
  if h : bytes.length = n then some ⟨bytes, h⟩ else none

@[simp] theorem octets?_val {n : Nat} (a : Octets n) : octets? n a.val = some a := by
  simp [octets?, a.property]

/-- `[byte; n]`. -/
def Octets.fill (n : Nat) (byte : UInt8) : Octets n := ⟨List.replicate n byte, List.length_replicate⟩

/-! ## Words -/

/-- The `width` low bytes of `value`, the most significant of them first. -/
def beBytes : Nat → Nat → Bytes
  | 0, _ => []
  | width + 1, value => UInt8.ofNat (value / 256 ^ width) :: beBytes width value

/-- The number big-endian bytes spell. -/
def beNat : Bytes → Nat
  | [] => 0
  | b :: bytes => b.toNat * 256 ^ bytes.length + beNat bytes

@[simp] theorem length_beBytes (width value : Nat) : (beBytes width value).length = width := by
  induction width with
  | zero => rfl
  | succ width ih => simp [beBytes, ih]

theorem beNat_beBytes (width value : Nat) : beNat (beBytes width value) = value % 256 ^ width := by
  induction width with
  | zero => simp [beBytes, beNat, Nat.mod_one]
  | succ width ih =>
    have hb : (UInt8.ofNat (value / 256 ^ width)).toNat = value / 256 ^ width % 256 := by simp
    rw [beBytes, beNat, ih, hb, length_beBytes, pow_succ, Nat.mod_mul]
    ring

theorem beNat_beBytes_of_lt {width value : Nat} (h : value < 256 ^ width) : beNat (beBytes width value) = value := by
  rw [beNat_beBytes, Nat.mod_eq_of_lt h]

theorem beNat_lt (bytes : Bytes) : beNat bytes < 256 ^ bytes.length := by
  induction bytes with
  | nil => simp [beNat]
  | cons b bytes ih =>
    have hb : b.toNat + 1 ≤ 256 := b.toNat_lt
    have hmul : (b.toNat + 1) * 256 ^ bytes.length ≤ 256 * 256 ^ bytes.length := Nat.mul_le_mul_right _ hb
    rw [Nat.add_mul, one_mul] at hmul
    rw [beNat, List.length_cons, pow_succ, mul_comm (256 ^ _)]
    omega

theorem beBytes_mul_add (width high low : Nat) : beBytes width (high * 256 ^ width + low) = beBytes width low := by
  induction width generalizing high with
  | zero => rfl
  | succ width ih =>
    have hsplit : high * 256 ^ (width + 1) + low = high * 256 * 256 ^ width + low := by
      ring
    have hbyte : UInt8.ofNat ((high * 256 * 256 ^ width + low) / 256 ^ width) = UInt8.ofNat (low / 256 ^ width) := by
      rw [Nat.add_comm, Nat.add_mul_div_right _ _ (Nat.pow_pos (by decide))]
      simp
    rw [beBytes, beBytes, hsplit, ih, hbyte]

theorem beBytes_beNat (bytes : Bytes) : beBytes bytes.length (beNat bytes) = bytes := by
  induction bytes with
  | nil => rfl
  | cons b bytes ih =>
    have hdiv : (b.toNat * 256 ^ bytes.length + beNat bytes) / 256 ^ bytes.length = b.toNat := by
      rw [Nat.add_comm, Nat.add_mul_div_right _ _ (Nat.pow_pos (by decide)),
        Nat.div_eq_of_lt (beNat_lt bytes), Nat.zero_add]
    rw [List.length_cons, beNat, beBytes, hdiv, beBytes_mul_add, ih, UInt8.ofNat_toNat]

/-- `u16::to_be_bytes`. -/
def be16 (v : UInt16) : Bytes := beBytes 2 v.toNat

/-- `u32::to_be_bytes`. -/
def be32 (v : UInt32) : Bytes := beBytes 4 v.toNat

/-- `u64::to_be_bytes`. -/
def be64 (v : UInt64) : Bytes := beBytes 8 v.toNat

/-- `i64::to_be_bytes`. -/
def beI64 (v : Int64) : Bytes := be64 v.toUInt64

/-- `u16::from_be_bytes`. -/
def ofBe16 (a : Octets 2) : UInt16 := UInt16.ofNat (beNat a.val)

/-- `u32::from_be_bytes`. -/
def ofBe32 (a : Octets 4) : UInt32 := UInt32.ofNat (beNat a.val)

/-- `u64::from_be_bytes`. -/
def ofBe64 (a : Octets 8) : UInt64 := UInt64.ofNat (beNat a.val)

/-- `i64::from_be_bytes`. -/
def ofBeI64 (a : Octets 8) : Int64 := (ofBe64 a).toInt64

@[simp] theorem length_be16 (v : UInt16) : (be16 v).length = 2 := length_beBytes 2 _
@[simp] theorem length_be32 (v : UInt32) : (be32 v).length = 4 := length_beBytes 4 _
@[simp] theorem length_be64 (v : UInt64) : (be64 v).length = 8 := length_beBytes 8 _
@[simp] theorem length_beI64 (v : Int64) : (beI64 v).length = 8 := length_be64 _

@[simp] theorem ofBe16_be16 (v : UInt16) (h : (be16 v).length = 2) : ofBe16 ⟨be16 v, h⟩ = v := by
  simp [ofBe16, be16, beNat_beBytes_of_lt (show v.toNat < 256 ^ 2 from v.toNat_lt)]

@[simp] theorem ofBe32_be32 (v : UInt32) (h : (be32 v).length = 4) : ofBe32 ⟨be32 v, h⟩ = v := by
  simp [ofBe32, be32, beNat_beBytes_of_lt (show v.toNat < 256 ^ 4 from v.toNat_lt)]

@[simp] theorem ofBe64_be64 (v : UInt64) (h : (be64 v).length = 8) : ofBe64 ⟨be64 v, h⟩ = v := by
  simp [ofBe64, be64, beNat_beBytes_of_lt (show v.toNat < 256 ^ 8 from v.toNat_lt)]

@[simp] theorem ofBeI64_beI64 (v : Int64) (h : (beI64 v).length = 8) : ofBeI64 ⟨beI64 v, h⟩ = v := by
  simp [ofBeI64, beI64]

/-! ## Text -/

/-- `str::as_bytes`. -/
def utf8 (s : String) : Bytes := s.toByteArray.data.toList

/-- `std::str::from_utf8`. -/
def fromUtf8? (bytes : Bytes) : Option String := String.fromUTF8? ⟨bytes.toArray⟩

@[simp] theorem fromUtf8?_utf8 (s : String) : fromUtf8? (utf8 s) = some s := by
  obtain ⟨bytes, h⟩ := s
  exact dif_pos h

theorem utf8_injective : Function.Injective utf8 := fun s t h =>
  Option.some.inj (by rw [← fromUtf8?_utf8 s, h, fromUtf8?_utf8])

theorem be16_injective {v w : UInt16} (h : be16 v = be16 w) : v = w := by
  rw [← ofBe16_be16 v (length_be16 v), ← ofBe16_be16 w (length_be16 w)]
  simp only [h]

theorem be32_injective {v w : UInt32} (h : be32 v = be32 w) : v = w := by
  rw [← ofBe32_be32 v (length_be32 v), ← ofBe32_be32 w (length_be32 w)]
  simp only [h]

theorem be64_injective {v w : UInt64} (h : be64 v = be64 w) : v = w := by
  rw [← ofBe64_be64 v (length_be64 v), ← ofBe64_be64 w (length_be64 w)]
  simp only [h]

/-- A byte string behind its 64-bit length is read off the front of what follows. -/
theorem lengthPrefixed_inj {left right rest rest' : Bytes} (hleft : left.length < 2 ^ 64) (hright : right.length < 2 ^ 64)
    (h : be64 (UInt64.ofNat left.length) ++ (left ++ rest) = be64 (UInt64.ofNat right.length) ++ (right ++ rest')) :
    left = right ∧ rest = rest' := by
  obtain ⟨hlength, htail⟩ := List.append_inj h (by simp)
  have hsame : left.length = right.length := by
    have hvalue := congrArg UInt64.toNat (be64_injective hlength)
    rwa [UInt64.toNat_ofNat_of_lt' hleft, UInt64.toNat_ofNat_of_lt' hright] at hvalue
  exact List.append_inj htail hsame

/-- What stands between two separators holds none. -/
theorem not_mem_of_mem_splitOn {sep : UInt8} {bytes component : Bytes} (h : component ∈ bytes.splitOn sep) :
    sep ∉ component := by
  induction bytes generalizing component with
  | nil =>
    simp only [List.splitOn_nil, List.mem_singleton] at h
    simp [h]
  | cons b bytes ih =>
    rw [List.splitOn_cons_eq_if_modifyHead] at h
    split at h
    · rcases List.mem_cons.mp h with rfl | h
      · simp
      · exact ih h
    · next hb =>
      cases hsplit : bytes.splitOn sep with
      | nil => exact absurd hsplit (List.splitOn_ne_nil _ _)
      | cons first rest =>
        rw [hsplit] at h ih
        rcases List.mem_cons.mp h with rfl | h
        · have hfirst := ih List.mem_cons_self
          simp only [beq_iff_eq] at hb
          simp [hfirst, Ne.symm hb]
        · exact ih (List.mem_cons_of_mem _ h)

theorem bytes_ne_of_lt {left right : Bytes} (h : left < right) : left ≠ right := by
  rintro rfl
  exact List.lt_irrefl _ h

end Again.Lib
