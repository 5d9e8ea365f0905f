import ShaderIdentity.Proofs.Shader.ShiftRegister
import Mathlib.Data.List.GetD

/-! The checksum from the table is the checksum by bits: one look-up does the eight shifts of a
byte, because shifts are linear. -/
namespace ShaderIdentity.Checksum

/-! ## The bits of bytes -/

/-- The bit at a place. Bit `k` of byte `i` has place `8 * i + k`. -/
def bitAt (bytes : List UInt8) (place : Nat) : Bool :=
  (bytes.getD (place / 8) 0).toNat.testBit (place % 8)

theorem length_bits (byte : UInt8) : (bits byte).length = 8 := rfl

theorem getD_bits (byte : UInt8) (i : Nat) : (bits byte).getD i false = byte.toNat.testBit i := by
  rw [List.getD_eq_getElem?_getD, bits, List.getElem?_map]
  by_cases within : i < 8
  · rw [List.getElem?_range within]
    rfl
  · have beyond : byte.toNat < 2 ^ i :=
      Nat.lt_of_lt_of_le byte.toNat_lt (Nat.pow_le_pow_right (by decide) (by omega))
    rw [List.getElem?_eq_none (by simpa using within), Nat.testBit_lt_two_pow beyond]
    rfl

theorem length_flatMap_bits (bytes : List UInt8) :
    (bytes.flatMap bits).length = 8 * bytes.length := by
  induction bytes with
  | nil => rfl
  | cons byte rest ih =>
    rw [List.flatMap_cons, List.length_append, ih, length_bits, List.length_cons]
    omega

theorem getD_flatMap_bits (bytes : List UInt8) (place : Nat) :
    (bytes.flatMap bits).getD place false = bitAt bytes place := by
  induction bytes generalizing place with
  | nil => simp [bitAt]
  | cons byte rest ih =>
    rw [List.flatMap_cons]
    by_cases within : place < 8
    · have first : place / 8 = 0 := by omega
      rw [List.getD_append _ _ _ _ within, getD_bits, bitAt, first, Nat.mod_eq_of_lt within]
      rfl
    · obtain ⟨later, rfl⟩ := Nat.exists_eq_add_of_le (Nat.le_of_not_lt within)
      have next : (8 + later) / 8 = later / 8 + 1 := by omega
      rw [List.getD_append_right _ _ _ _ (by rw [length_bits]; omega), length_bits,
        Nat.add_sub_cancel_left, ih, bitAt, bitAt, next, Nat.add_mod_left]
      rfl

/-! ## A byte -/

theorem packed_bits (byte : UInt8) : packed (bits byte) = byte.toUInt32 := by
  apply eq_of_testBit
  intro i fits
  rw [testBit_packed _ fits, getD_bits]
  rfl

theorem get_table (index : UInt8) : table.get index.toFin = shiftOut^[8] index.toUInt32 := by
  have within : index.toNat < 256 := index.toNat_lt
  change table[index.toNat] = _
  rw [table, Vector.getElem_ofFn, UInt32.ofNat_uInt8ToNat]
  rfl

/-- Without its low byte the register just moves down. -/
theorem shifts_upper (register : UInt32) :
    shiftOut^[8] (register ^^^ register.toUInt8.toUInt32) = register >>> 8 := by
  have clear : ∀ i < 8, (register ^^^ register.toUInt8.toUInt32).toNat.testBit i = false := by
    intro i low
    rw [UInt32.toNat_xor, Nat.testBit_xor, UInt8.toNat_toUInt32, UInt32.toNat_toUInt8,
      Nat.testBit_mod_two_pow]
    simp [low]
  have gone : register.toUInt8.toUInt32 >>> 8 = 0 := by
    have low : register.toUInt8.toNat < 2 ^ 8 := register.toUInt8.toNat_lt
    rw [← UInt32.toNat_inj, UInt32.toNat_shiftRight, UInt8.toNat_toUInt32]
    exact Nat.shiftRight_eq_zero _ _ low
  calc shiftOut^[8] (register ^^^ register.toUInt8.toUInt32)
      = (register ^^^ register.toUInt8.toUInt32) >>> 8 := UInt32.toNat_inj.mp (shifts_clear clear)
    _ = register >>> 8 := by rw [UInt32.shiftRight_xor, gone, UInt32.xor_zero]

/-- The low byte of the register goes through the table, and the others move down. -/
theorem absorb_eq (register : UInt32) (byte : UInt8) :
    absorb register byte = shiftOut^[8] (register ^^^ byte.toUInt32) := by
  let low := register.toUInt8.toUInt32
  have parts : register ^^^ byte.toUInt32 = (low ^^^ byte.toUInt32) ^^^ (register ^^^ low) := by
    calc register ^^^ byte.toUInt32
        = (register ^^^ byte.toUInt32) ^^^ (low ^^^ low) := by rw [UInt32.xor_self, UInt32.xor_zero]
      _ = (low ^^^ byte.toUInt32) ^^^ (register ^^^ low) := by ac_rfl
  rw [parts, shifts_xor, shifts_upper, ← UInt8.toUInt32_xor, ← get_table, absorb]

theorem absorb_bits (register : UInt32) (byte : UInt8) :
    absorb register byte = (bits byte).foldl absorbBit register := by
  have room : (bits byte).length ≤ 32 := by rw [length_bits]; decide
  rw [absorb_eq, foldl_absorbBit register room, packed_bits, length_bits]

theorem foldl_absorb (register : UInt32) (bytes : List UInt8) :
    bytes.foldl absorb register = (bytes.flatMap bits).foldl absorbBit register := by
  induction bytes generalizing register with
  | nil => rfl
  | cons byte rest ih => rw [List.foldl_cons, ih, List.flatMap_cons, List.foldl_append, absorb_bits]

/-- The table and the definition give one checksum. -/
theorem crc32_eq_bitwise (bytes : List UInt8) : crc32 bytes = bitwise bytes := by
  rw [crc32, bitwise, foldl_absorb]

end ShaderIdentity.Checksum
