import ShaderIdentity.Shader.Checksum
import Mathlib.Data.FinEnum
import Mathlib.Data.LawfulXor.Basic
import Mathlib.Logic.Function.Iterate

/-! The register of the checksum. A shift is linear over xor and loses nothing. Bits of a message
count as if they had been in the register from the start, as long as it has room for them. -/
namespace ShaderIdentity.Checksum

/-! ## One shift -/

theorem and_one_iff (register : UInt32) :
    register &&& 1 = 1 ↔ register.toNat.testBit 0 = true := by
  rw [← UInt32.toNat_inj, UInt32.toNat_and, Nat.testBit_zero, decide_eq_true_iff]
  exact Iff.of_eq (congrArg (· = 1) (Nat.and_one_is_mod _))

theorem shiftOut_eq (register : UInt32) : shiftOut register =
    (if register.toNat.testBit 0 then polynomial else 0) ^^^ (register >>> 1) := by
  simp only [shiftOut, and_one_iff]
  split <;> simp

theorem shiftOut_even {register : UInt32} (even : register.toNat.testBit 0 = false) :
    shiftOut register = register >>> 1 := by
  rw [shiftOut_eq, even]
  simp

/-- The polynomial comes in for both registers or for one of them: twice is not at all. -/
theorem shiftOut_xor (a b : UInt32) : shiftOut (a ^^^ b) = shiftOut a ^^^ shiftOut b := by
  have incoming (p q : Bool) : (if p ^^ q then polynomial else 0) =
      (if p then polynomial else 0) ^^^ (if q then polynomial else 0) := by
    cases p <;> cases q <;> rfl
  simp only [shiftOut_eq, UInt32.toNat_xor, Nat.testBit_xor, UInt32.shiftRight_xor, incoming]
  ac_rfl

/-- The polynomial has its highest bit set, which a shift to the right leaves clear. -/
theorem eq_zero_of_shiftOut {register : UInt32} (cleared : shiftOut register = 0) :
    register = 0 := by
  have fits := register.toNat_lt
  rw [shiftOut_eq, UInt32.xor_eq_zero_iff] at cleared
  have half : _ = register.toNat / 2 := congrArg UInt32.toNat cleared
  rw [← UInt32.toNat_inj, UInt32.toNat_zero]
  by_cases odd : register.toNat.testBit 0
  · rw [if_pos odd] at half
    have high : polynomial.toNat = 0xEDB88320 := rfl
    omega
  · rw [if_neg odd, UInt32.toNat_zero] at half
    rw [Nat.testBit_zero, decide_eq_true_iff] at odd
    omega

theorem shiftOut_injective : Function.Injective shiftOut := by
  intro a b same
  rw [← UInt32.xor_eq_zero_iff]
  apply eq_zero_of_shiftOut
  rw [shiftOut_xor, same, UInt32.xor_self]

/-- Every register is left by one other, since there are only so many of them. -/
theorem shiftOut_bijective : Function.Bijective shiftOut :=
  Finite.injective_iff_bijective.mp shiftOut_injective

theorem shiftOut_double {register : UInt32} (fits : register.toNat < 2 ^ 31) :
    shiftOut (register <<< 1) = register := by
  have double : (register <<< 1).toNat = 2 * register.toNat := by
    rw [UInt32.toNat_shiftLeft]
    change register.toNat <<< 1 % _ = _
    omega
  rw [shiftOut_even (by simp [double]), ← UInt32.toNat_inj]
  change (register <<< 1).toNat / 2 = _
  omega

/-! ## Several shifts -/

theorem shifts_xor (n : Nat) (a b : UInt32) :
    shiftOut^[n] (a ^^^ b) = shiftOut^[n] a ^^^ shiftOut^[n] b := by
  induction n with
  | zero => rfl
  | succ n ih => simp only [Function.iterate_succ_apply', ih, shiftOut_xor]

theorem shifts_zero (n : Nat) : shiftOut^[n] 0 = 0 := Function.iterate_fixed rfl n

theorem shifts_ne_zero (n : Nat) {register : UInt32} (ne : register ≠ 0) :
    shiftOut^[n] register ≠ 0 := by
  intro cleared
  exact ne (shiftOut_injective.iterate n (cleared.trans (shifts_zero n).symm))

/-- As long as only clear bits leave it, the register just moves down. -/
theorem shifts_clear {register : UInt32} {n : Nat}
    (clear : ∀ i < n, register.toNat.testBit i = false) :
    (shiftOut^[n] register).toNat = register.toNat >>> n := by
  induction n with
  | zero => rfl
  | succ n ih =>
    have moved := ih fun i below => clear i (Nat.lt_succ_of_lt below)
    have even : (shiftOut^[n] register).toNat.testBit 0 = false := by
      rw [moved, Nat.testBit_shiftRight]
      exact clear n (Nat.lt_succ_self n)
    rw [Function.iterate_succ_apply', shiftOut_even even, UInt32.toNat_shiftRight, moved,
      Nat.shiftRight_add]
    rfl

/-! ## Bits of a message -/

theorem testBit_toUInt32 (bit : Bool) (i : Nat) :
    bit.toUInt32.toNat.testBit i = (decide (i = 0) && bit) := by
  cases i with
  | zero => cases bit <;> rfl
  | succ i => cases bit <;> exact (Nat.testBit_succ ..).trans (Nat.zero_testBit i)

theorem absorbBit_eq (register : UInt32) (bit : Bool) :
    absorbBit register bit = shiftOut (register ^^^ bit.toUInt32) := by
  have gone : bit.toUInt32 >>> 1 = 0 := by cases bit <;> rfl
  rw [shiftOut_eq, UInt32.toNat_xor, Nat.testBit_xor, testBit_toUInt32, UInt32.shiftRight_xor,
    gone, UInt32.xor_zero, absorbBit]
  simp only [and_one_iff]
  cases bit <;> cases register.toNat.testBit 0 <;> simp [UInt32.xor_comm]

/-- The register that holds these bits, the first of them lowest. -/
def packed (bits : List Bool) : UInt32 :=
  ⟨(BitVec.ofBoolListLE bits).setWidth 32⟩

theorem testBit_packed (bits : List Bool) {i : Nat} (fits : i < 32) :
    (packed bits).toNat.testBit i = bits.getD i false := by
  change ((BitVec.ofBoolListLE bits).setWidth 32).getLsbD i = _
  rw [BitVec.getLsbD_setWidth, BitVec.getLsbD_ofBoolListLE, decide_eq_true fits, Bool.true_and]

theorem packed_lt (bits : List Bool) : (packed bits).toNat < 2 ^ bits.length := by
  change ((BitVec.ofBoolListLE bits).setWidth 32).toNat < _
  rw [BitVec.toNat_setWidth]
  exact Nat.lt_of_le_of_lt (Nat.mod_le ..) (BitVec.isLt _)

theorem eq_of_testBit {a b : UInt32}
    (same : ∀ i < 32, a.toNat.testBit i = b.toNat.testBit i) : a = b :=
  UInt32.toBitVec_inj.mp (BitVec.eq_of_getLsbD_eq same)

theorem packed_cons (bit : Bool) (rest : List Bool) :
    packed (bit :: rest) = bit.toUInt32 ^^^ (packed rest <<< 1) := by
  apply eq_of_testBit
  intro i fits
  rw [testBit_packed _ fits, UInt32.toNat_xor, Nat.testBit_xor, testBit_toUInt32,
    UInt32.toNat_shiftLeft, Nat.testBit_mod_two_pow]
  cases i with
  | zero => simp
  | succ i => simp [fits, testBit_packed rest (Nat.lt_of_succ_lt fits)]

/-- Bits that come one by one might as well have been in the register before the first shift. -/
theorem foldl_absorbBit (register : UInt32) {bits : List Bool} (fits : bits.length ≤ 32) :
    bits.foldl absorbBit register = shiftOut^[bits.length] (register ^^^ packed bits) := by
  induction bits generalizing register with
  | nil => exact UInt32.xor_zero.symm
  | cons bit rest ih =>
    have short : rest.length ≤ 31 := Nat.le_of_succ_le_succ fits
    have below : (packed rest).toNat < 2 ^ 31 :=
      Nat.lt_of_lt_of_le (packed_lt rest) (Nat.pow_le_pow_right (by decide) short)
    -- The bits behind the first move down by one in its shift, to where the induction has them.
    rw [List.foldl_cons, ih _ (by omega), List.length_cons, Function.iterate_succ_apply,
      absorbBit_eq, packed_cons, ← UInt32.xor_assoc, shiftOut_xor _ (packed rest <<< 1),
      shiftOut_double below]

theorem foldl_absorbBit_clear (register : UInt32) {bits : List Bool} (clear : true ∉ bits) :
    bits.foldl absorbBit register = shiftOut^[bits.length] register := by
  induction bits generalizing register with
  | nil => rfl
  | cons bit rest ih =>
    obtain ⟨rfl, later⟩ : bit = false ∧ true ∉ rest := by simpa using clear
    rw [List.foldl_cons, absorbBit_eq, ih _ later, List.length_cons, Function.iterate_succ_apply]
    exact congrArg (fun held => shiftOut^[rest.length] (shiftOut held)) UInt32.xor_zero

/-! ## Two messages -/

theorem absorbBit_xor (a b : UInt32) (p q : Bool) :
    absorbBit (a ^^^ b) (p ^^ q) = absorbBit a p ^^^ absorbBit b q := by
  have apart : (p ^^ q).toUInt32 = p.toUInt32 ^^^ q.toUInt32 := by cases p <;> cases q <;> rfl
  rw [absorbBit_eq, absorbBit_eq, absorbBit_eq, ← shiftOut_xor, apart]
  ac_rfl

/-- The difference of two registers after two messages is what the difference of the messages makes
of the difference of the registers before them. -/
theorem foldl_absorbBit_xor (a b : UInt32) {p q : List Bool} (same : p.length = q.length) :
    (List.zipWith xor p q).foldl absorbBit (a ^^^ b) =
      p.foldl absorbBit a ^^^ q.foldl absorbBit b := by
  induction p generalizing a b q with
  | nil =>
    cases q with
    | nil => rfl
    | cons => cases same
  | cons bit p ih =>
    cases q with
    | nil => cases same
    | cons other q =>
      rw [List.zipWith_cons_cons, List.foldl_cons, List.foldl_cons, List.foldl_cons, absorbBit_xor]
      exact ih _ _ (Nat.succ.inj same)

end ShaderIdentity.Checksum
