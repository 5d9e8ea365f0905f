import ShaderIdentity.Proofs.Shader.BitwiseChecksum
import ShaderIdentity.Proofs.Shader.StreamScan

/-! Streams that differ in a burst: within 32 bits in a row, which is what the register holds. Their
fingerprints differ too, wherever the burst is. -/
namespace ShaderIdentity

namespace Checksum

/-! ## A burst in the register -/

theorem true_mem_of_getD {bits : List Bool} {i : Nat} (set : bits.getD i false = true) :
    true ∈ bits := by
  rw [List.getD_eq_getElem?_getD] at set
  cases shown : bits[i]? with
  | none => rw [shown] at set; cases set
  | some bit =>
    rw [shown] at set
    exact List.mem_of_getElem? (shown.trans (congrArg some set))

theorem getD_of_true_mem {bits : List Bool} (set : true ∈ bits) :
    ∃ i < bits.length, bits.getD i false = true := by
  obtain ⟨i, below, shown⟩ := List.mem_iff_getElem.mp set
  exact ⟨i, below, (List.getD_eq_getElem _ _ below).trans shown⟩

theorem packed_ne_zero {bits : List Bool} (fits : bits.length ≤ 32) (set : true ∈ bits) :
    packed bits ≠ 0 := by
  intro clear
  obtain ⟨i, below, shown⟩ := getD_of_true_mem set
  have bit := testBit_packed bits (Nat.lt_of_lt_of_le below fits)
  rw [clear, shown] at bit
  exact absurd bit (by simp)

/-- Zeros before the burst leave the register empty. The burst fits into it, and whatever follows
only shifts what is there. -/
theorem foldl_absorbBit_burst {bits : List Bool} {start : Nat}
    (among : ∀ i, bits.getD i false = true → start ≤ i ∧ i < start + 32) (set : true ∈ bits) :
    bits.foldl absorbBit 0 ≠ 0 := by
  let before := bits.take start
  let burst := (bits.drop start).take 32
  let behind := (bits.drop start).drop 32
  have parts : bits = before ++ (burst ++ behind) := by
    rw [List.take_append_drop, List.take_append_drop]
  have room : burst.length ≤ 32 := List.length_take_le ..
  have clearBefore : true ∉ before := by
    intro found
    obtain ⟨i, below, shown⟩ := getD_of_true_mem found
    rw [List.length_take] at below
    have first : i < start := by omega
    rw [List.getD_eq_getElem?_getD, List.getElem?_take_of_lt first, ← List.getD_eq_getElem?_getD]
      at shown
    exact Nat.not_le_of_lt first (among i shown).1
  have clearBehind : true ∉ behind := by
    intro found
    obtain ⟨i, -, shown⟩ := getD_of_true_mem found
    rw [List.getD_eq_getElem?_getD, List.getElem?_drop, List.getElem?_drop,
      ← List.getD_eq_getElem?_getD] at shown
    have last := (among _ shown).2
    omega
  have setBurst : true ∈ burst := by
    rw [parts] at set
    simpa [clearBefore, clearBehind] using set
  rw [parts, List.foldl_append, List.foldl_append, foldl_absorbBit_clear 0 clearBefore, shifts_zero,
    foldl_absorbBit 0 room, UInt32.zero_xor, foldl_absorbBit_clear _ clearBehind]
  exact shifts_ne_zero _ (shifts_ne_zero _ (packed_ne_zero room setBurst))

/-! ## A burst in bytes -/

/-- All bits in which the two differ are among 32 in a row. -/
def BurstApart (a b : List UInt8) : Prop :=
  ∃ start, ∀ place < 8 * a.length, bitAt a place ≠ bitAt b place →
    start ≤ place ∧ place < start + 32

theorem eq_of_bitAt {a b : List UInt8} (same : a.length = b.length)
    (agree : ∀ place, bitAt a place = bitAt b place) : a = b := by
  refine List.ext_getElem same fun i inA inB => ?_
  have byte {bytes : List UInt8} (within : i < bytes.length) {k : Nat} (low : k < 8) :
      bytes[i].toNat.testBit k = bitAt bytes (8 * i + k) := by
    have whole : (8 * i + k) / 8 = i := by omega
    have rest : (8 * i + k) % 8 = k := by omega
    rw [bitAt, whole, rest, List.getD_eq_getElem _ _ within]
  rw [← UInt8.toBitVec_inj]
  apply BitVec.eq_of_getLsbD_eq
  intro k low
  exact (byte inA low).trans ((agree _).trans (byte inB low).symm)

theorem bitAt_of_length_le {bytes : List UInt8} {place : Nat} (beyond : 8 * bytes.length ≤ place) :
    bitAt bytes place = false := by
  rw [bitAt, List.getD_eq_default _ _ (by omega)]
  exact Nat.zero_testBit _

theorem getD_zipWith_xor {p q : List Bool} (same : p.length = q.length) (i : Nat) :
    (List.zipWith xor p q).getD i false = (p.getD i false ^^ q.getD i false) := by
  simp only [List.getD_eq_getElem?_getD, List.getElem?_zipWith]
  by_cases within : i < p.length
  · rw [List.getElem?_eq_getElem within, List.getElem?_eq_getElem (same ▸ within)]
    rfl
  · rw [List.getElem?_eq_none (by omega), List.getElem?_eq_none (by omega)]
    rfl

theorem crc32_ne_of_burst {a b : List UInt8} (same : a.length = b.length) (differ : a ≠ b)
    (burst : BurstApart a b) : crc32 a ≠ crc32 b := by
  intro equal
  obtain ⟨start, among⟩ := burst
  let differences := List.zipWith xor (a.flatMap bits) (b.flatMap bits)
  have lengths : (a.flatMap bits).length = (b.flatMap bits).length := by
    rw [length_flatMap_bits, length_flatMap_bits, same]
  have difference (place : Nat) :
      differences.getD place false = (bitAt a place ^^ bitAt b place) := by
    rw [getD_zipWith_xor lengths, getD_flatMap_bits, getD_flatMap_bits]
  -- The initial register is the same in both runs and cancels, so only the differences are left.
  have cancelled : differences.foldl absorbBit 0 = 0 := by
    have registers : a.foldl absorb 0xFFFFFFFF = b.foldl absorb 0xFFFFFFFF :=
      UInt32.not_inj.mp equal
    have run := foldl_absorbBit_xor 0xFFFFFFFF 0xFFFFFFFF lengths
    rwa [← foldl_absorb, ← foldl_absorb, registers, UInt32.xor_self, UInt32.xor_self] at run
  have set : true ∈ differences := by
    by_contra clear
    refine differ (eq_of_bitAt same fun place => ?_)
    have agree := mt (true_mem_of_getD (i := place)) clear
    rwa [difference, Bool.xor_iff_ne, ne_eq, Classical.not_not] at agree
  have amongBits (place : Nat) (apart : differences.getD place false = true) :
      start ≤ place ∧ place < start + 32 := by
    rw [difference, Bool.xor_iff_ne] at apart
    refine among place (Nat.lt_of_not_le fun beyond => apart ?_) apart
    rw [bitAt_of_length_le beyond, bitAt_of_length_le (same ▸ beyond)]
  exact foldl_absorbBit_burst amongBits set cancelled

end Checksum

namespace Fingerprint

open Checksum

theorem getD_bytesOf_changed {before after : List UInt32} (old new : UInt32) {i : Nat}
    (elsewhere : i < 4 * before.length ∨ 4 * before.length + 4 ≤ i) :
    (bytesOf (before ++ old :: after)).getD i 0 = (bytesOf (before ++ new :: after)).getD i 0 := by
  rcases elsewhere with ahead | behind
  · have kept (token : UInt32) :
        (bytesOf (before ++ token :: after)).getD i 0 = (bytesOf before).getD i 0 := by
      rw [bytesOf_append, List.getD_append _ _ _ _ (by rwa [length_bytesOf])]
    rw [kept, kept]
  · have kept (token : UInt32) : (bytesOf (before ++ token :: after)).getD i 0 =
        (bytesOf after).getD (i - (4 * before.length + 4)) 0 := by
      have past : (bytesOf (before ++ [token])).length = 4 * before.length + 4 := by
        rw [length_bytesOf, List.length_append]
        rfl
      rw [List.append_cons, bytesOf_append, List.getD_append_right _ _ _ _ (past ▸ behind), past]
    rw [kept, kept]

theorem token_burst (before after : List UInt32) (old new : UInt32) :
    BurstApart (bytesOf (before ++ old :: after)) (bytesOf (before ++ new :: after)) := by
  refine ⟨32 * before.length, fun place _ apart => ?_⟩
  by_contra outside
  apply apart
  rw [bitAt, bitAt, getD_bytesOf_changed old new (by omega)]

/-- Two complete streams that differ in a burst are told apart, and so are two of which one comes
from the other by a change of one token. -/
theorem bursts_tell_apart :
    (∀ (a b : List UInt8) (limit : Nat), Complete a → Complete b → a.length = b.length →
      a.length ≤ limit → a ≠ b → BurstApart a b →
      ∃ x y, ofBytes a limit = .ok x ∧ ofBytes b limit = .ok y ∧ x ≠ y) ∧
    ∀ (before after : List UInt32) (old new : UInt32) (limit : Nat),
      let a := bytesOf (before ++ old :: after)
      let b := bytesOf (before ++ new :: after)
      Complete a → Complete b → a.length ≤ limit → old ≠ new →
      ∃ x y, ofBytes a limit = .ok x ∧ ofBytes b limit = .ok y ∧ x ≠ y := by
  have apart {a b : List UInt8} {limit : Nat} (completeA : Complete a) (completeB : Complete b)
      (same : a.length = b.length) (fits : a.length ≤ limit) (differ : a ≠ b)
      (burst : BurstApart a b) :
      ∃ x y, ofBytes a limit = .ok x ∧ ofBytes b limit = .ok y ∧ x ≠ y := by
    refine ⟨_, _, ofBytes_complete completeA fits, ofBytes_complete completeB (same ▸ fits), ?_⟩
    intro equal
    exact crc32_ne_of_burst same differ burst (congrArg code equal)
  refine ⟨fun _ _ _ => apart, fun before after old new limit => ?_⟩
  intro a b completeA completeB fits changed
  have same : a.length = b.length := by
    simp only [a, b, length_bytesOf, List.length_append, List.length_cons]
  have differ : a ≠ b := by
    intro equal
    have tokens := congrArg tokensOf equal
    rw [tokensOf_bytesOf, tokensOf_bytesOf] at tokens
    exact changed (List.cons.inj (List.append_cancel_left tokens)).1
  exact apart completeA completeB same fits differ (token_burst before after old new)

/-- A burst of 32 bits that straddles two tokens, and a change of the first of them. -/
theorem straddling_burst_told_apart :
    let a := bytesOf [0xFFFE0200, 0x02000001, endToken]
    let b := bytesOf [0x00010200, 0x0200FFFE, endToken]
    let c := bytesOf [0x00010200, 0x02000001, endToken]
    (Complete a ∧ Complete b ∧ Complete c) ∧ BurstApart a b ∧
      (∃ x y, ofBytes a 12 = .ok x ∧ ofBytes b 12 = .ok y ∧ x ≠ y) ∧
      ∃ x y, ofBytes a 12 = .ok x ∧ ofBytes c 12 = .ok y ∧ x ≠ y := by
  intro a b c
  have completeA : Complete a := ⟨[0xFFFE0200, 0x02000001], by decide, rfl⟩
  have completeB : Complete b := ⟨[0x00010200, 0x0200FFFE], by decide, rfl⟩
  have completeC : Complete c := ⟨[0x00010200, 0x02000001], by decide, rfl⟩
  have burst : BurstApart a b := ⟨16, by decide⟩
  exact ⟨⟨completeA, completeB, completeC⟩, burst,
    bursts_tell_apart.1 a b 12 completeA completeB rfl (by decide) (by decide) burst,
    bursts_tell_apart.2 [] [0x02000001, endToken] 0xFFFE0200 0x00010200 12 completeA completeC
      (by decide) (by decide)⟩

end Fingerprint

end ShaderIdentity
