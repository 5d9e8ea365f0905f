import ShaderIdentity.Proofs.Shader.BitwiseChecksum
import ShaderIdentity.Proofs.Shader.StreamScan

/-! Every fingerprint belongs to some stream. A byte permutes the registers, and so does a token,
which can therefore be chosen in any place so that a given checksum comes out. -/
namespace ShaderIdentity

namespace Checksum

/-! ## The register after a token -/

theorem testBit_byte (token : UInt32) {place : UInt32} {k : Nat} (within : place.toNat < 32)
    (low : k < 8) :
    (token >>> place).toUInt8.toNat.testBit k = token.toNat.testBit (place.toNat + k) := by
  rw [UInt32.toNat_toUInt8, Nat.testBit_mod_two_pow, UInt32.toNat_shiftRight,
    Nat.mod_eq_of_lt within, Nat.testBit_shiftRight, decide_eq_true low, Bool.true_and]

theorem bitAt_token (token : UInt32) {i : Nat} (fits : i < 32) :
    bitAt (Token.bytes token) i = token.toNat.testBit i := by
  have low : i % 8 < 8 := Nat.mod_lt i (by decide)
  have parts : i = 8 * (i / 8) + i % 8 := (Nat.div_add_mod i 8).symm
  have shown (place : UInt32) (within : place.toNat < 32) (here : place.toNat = 8 * (i / 8)) :
      (token >>> place).toUInt8.toNat.testBit (i % 8) = token.toNat.testBit i := by
    rw [testBit_byte token within low, here, ← parts]
  rw [bitAt]
  obtain byte | byte | byte | byte : i / 8 = 0 ∨ i / 8 = 1 ∨ i / 8 = 2 ∨ i / 8 = 3 := by omega
  all_goals rw [byte] at shown ⊢
  · have first := shown 0 (by decide) rfl
    rwa [UInt32.shiftRight_zero] at first
  · exact shown 8 (by decide) rfl
  · exact shown 16 (by decide) rfl
  · exact shown 24 (by decide) rfl

theorem packed_token (token : UInt32) : packed ((Token.bytes token).flatMap bits) = token := by
  apply eq_of_testBit
  intro i fits
  rw [testBit_packed _ fits, getD_flatMap_bits, bitAt_token token fits]

/-- The four bytes of a token fill the register. -/
theorem foldl_absorb_token (register token : UInt32) :
    (Token.bytes token).foldl absorb register = shiftOut^[32] (register ^^^ token) := by
  have whole : ((Token.bytes token).flatMap bits).length = 32 := length_flatMap_bits _
  rw [foldl_absorb, foldl_absorbBit register (Nat.le_of_eq whole), whole, packed_token]

/-! ## Permutations of the registers -/

theorem absorb_bijective (byte : UInt8) : Function.Bijective (absorb · byte) := by
  have steps : (absorb · byte) = shiftOut^[8] ∘ (· ^^^ byte.toUInt32) :=
    funext fun register => absorb_eq register byte
  rw [steps]
  exact (shiftOut_bijective.iterate 8).comp (xor_left_involutive _).bijective

theorem foldl_absorb_bijective (bytes : List UInt8) :
    Function.Bijective fun register => bytes.foldl absorb register := by
  induction bytes with
  | nil => exact Function.bijective_id
  | cons byte rest ih => exact ih.comp (absorb_bijective byte)

theorem token_bijective (register : UInt32) :
    Function.Bijective fun token => (Token.bytes token).foldl absorb register := by
  simp only [foldl_absorb_token]
  exact (shiftOut_bijective.iterate 32).comp (xor_right_involutive register).bijective

theorem crc32_bijective (before after : List UInt32) :
    Function.Bijective fun token => crc32 (bytesOf (before ++ [token] ++ after)) := by
  have complement : Function.Bijective fun register : UInt32 => ~~~ register :=
    Function.Involutive.bijective fun _ => UInt32.not_not
  have steps := complement.comp ((foldl_absorb_bijective (bytesOf after)).comp
    (token_bijective ((bytesOf before).foldl absorb 0xFFFFFFFF)))
  simp only [crc32, bytesOf_append, List.foldl_append]
  exact steps

end Checksum

namespace Fingerprint

open Checksum

/-- Whatever stands around it, exactly one token gives a checksum. So every fingerprint, the one
that stands for no known shader included, is that of a stream of two tokens and the end token. -/
theorem every_fingerprint_attained :
    (∀ (before after : List UInt32) (code : UInt32),
      ∃! token, crc32 (bytesOf (before ++ [token] ++ after)) = code) ∧
    ∀ fingerprint, ∃ first second, first ≠ endToken ∧ second ≠ endToken ∧
      ofBytes (bytesOf [first, second, endToken]) defaultBytecodeLimit = .ok fingerprint := by
  refine ⟨fun before after => (crc32_bijective before after).existsUnique, fun fingerprint => ?_⟩
  have accepted (first second : UInt32) (open₁ : first ≠ endToken) (open₂ : second ≠ endToken)
      (reached : crc32 (bytesOf ([first] ++ [second] ++ [endToken])) = fingerprint.code) :
      ∃ first second, first ≠ endToken ∧ second ≠ endToken ∧
        ofBytes (bytesOf [first, second, endToken]) defaultBytecodeLimit = .ok fingerprint := by
    have complete : Complete (bytesOf [first, second, endToken]) :=
      ⟨[first, second], by simp [open₁.symm, open₂.symm], rfl⟩
    refine ⟨first, second, open₁, open₂, (ofBytes_complete complete ?_).trans ?_⟩
    · rw [length_bytesOf]
      exact (by decide : 4 * 3 ≤ defaultBytecodeLimit)
    · exact congrArg (fun code => Except.ok (mk code)) reached
  obtain ⟨second, reached⟩ := (crc32_bijective [0] [endToken]).2 fingerprint.code
  by_cases ended : second = endToken
  · -- The second token may be the end token after one first token, but not after two.
    obtain ⟨other, reachedToo⟩ := (crc32_bijective [1] [endToken]).2 fingerprint.code
    refine accepted 1 other (by decide) (fun endedToo => ?_) reachedToo
    subst ended endedToo
    have same := (crc32_bijective [] [endToken, endToken]).1 (reached.trans reachedToo.symm)
    exact absurd same (by decide)
  · exact accepted 0 second (by decide) ended reached

end Fingerprint

end ShaderIdentity
