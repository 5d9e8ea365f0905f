import ShaderIdentity.Proofs.Shader.BitwiseChecksum

/-! What the difference of messages makes of their checksums. The register is linear over xor in all
that goes into it; the value it starts with and the complement at the end leave the checksum
affine. -/
namespace ShaderIdentity.Checksum

/-- The bytes in which two messages differ, bit by bit. -/
def differences (a b : List UInt8) : List UInt8 :=
  List.zipWith (· ^^^ ·) a b

variable {a b c : List UInt8}

theorem length_differences (same : a.length = b.length) : (differences a b).length = b.length := by
  rw [differences, List.length_zipWith, same, Nat.min_self]

/-- One look-up in the table stands for eight shifts, and these are linear. -/
theorem absorb_xor (register other : UInt32) (p q : UInt8) :
    absorb (register ^^^ other) (p ^^^ q) = absorb register p ^^^ absorb other q := by
  rw [absorb_eq, absorb_eq, absorb_eq, ← shifts_xor, UInt8.toUInt32_xor]
  exact congrArg shiftOut^[8] (by ac_rfl)

theorem foldl_absorb_xor (register other : UInt32) (same : a.length = b.length) :
    (differences a b).foldl absorb (register ^^^ other) =
      a.foldl absorb register ^^^ b.foldl absorb other := by
  induction a generalizing b register other with
  | nil =>
    obtain rfl := List.length_eq_zero_iff.mp same.symm
    rfl
  | cons p a ih =>
    cases b with
    | nil => cases same
    | cons q b =>
      rw [differences, List.zipWith_cons_cons, List.foldl_cons, List.foldl_cons, List.foldl_cons,
        absorb_xor]
      exact ih _ _ (Nat.succ.inj same)

/-- The checksum of the difference of three messages is the difference of their checksums. -/
theorem crc32_affine (ab : a.length = b.length) (bc : b.length = c.length) :
    crc32 (differences (differences a b) c) = crc32 a ^^^ crc32 b ^^^ crc32 c := by
  -- Of three initial values two cancel, and so do two of three complements.
  have start : (0xFFFFFFFF : UInt32) = (0xFFFFFFFF ^^^ 0xFFFFFFFF) ^^^ 0xFFFFFFFF := by decide
  have run : (differences (differences a b) c).foldl absorb 0xFFFFFFFF =
      a.foldl absorb 0xFFFFFFFF ^^^ b.foldl absorb 0xFFFFFFFF ^^^ c.foldl absorb 0xFFFFFFFF := by
    conv_lhs => rw [start]
    rw [foldl_absorb_xor _ _ ((length_differences ab).trans bc), foldl_absorb_xor _ _ ab]
  rw [crc32, run]
  simp only [crc32, UInt32.not_xor, UInt32.xor_not, UInt32.not_not]

/-- The digits one to nine, the same backwards, and a message that is all zeros but for one bit. -/
theorem differences_of_digits :
    let a : List UInt8 := [0x31, 0x32, 0x33, 0x34, 0x35, 0x36, 0x37, 0x38, 0x39]
    let c : List UInt8 := [0, 0, 0, 0, 0, 0, 0, 0, 0x80]
    let sum : List UInt8 := [0x08, 0x0A, 0x04, 0x02, 0, 0x02, 0x04, 0x0A, 0x88]
    (a.length = a.reverse.length ∧ a.reverse.length = c.length) ∧
      differences (differences a a.reverse) c = sum ∧ crc32 a = 0xCBF43926 ∧
      crc32 sum = 0xCBF43926 ^^^ crc32 a.reverse ^^^ crc32 c := by
  intro a c sum
  have bytes : differences (differences a a.reverse) c = sum := by decide
  have known : crc32 a = 0xCBF43926 := by decide +kernel
  refine ⟨⟨rfl, rfl⟩, bytes, known, ?_⟩
  rw [← bytes, ← known]
  exact crc32_affine rfl rfl

end ShaderIdentity.Checksum
