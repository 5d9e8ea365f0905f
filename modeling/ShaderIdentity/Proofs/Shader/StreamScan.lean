import ShaderIdentity.Shader.Fingerprint
import ShaderIdentity.Proofs.Shader.WordScan
import Mathlib.Algebra.Group.Nat.Defs

/-! Where a stream ends. The bytes up to and with its end token decide its fingerprint, and neither
what follows them nor a larger limit changes it. -/
namespace ShaderIdentity

/-! ## Tokens in bytes -/

/-- The whole token that begins at a place, its lowest byte first. -/
def tokenAt? (bytes : List UInt8) (place : Nat) : Option UInt32 :=
  match bytes.drop place with
  | a :: b :: c :: d :: _ =>
    some (.ofNat (a.toNat + 2 ^ 8 * b.toNat + 2 ^ 16 * c.toNat + 2 ^ 24 * d.toNat))
  | _ => none

/-- A byte that is put above all the bits there are counts as much as if it were added. -/
theorem Token.toNat_or_shiftLeft {low : UInt32} {place : UInt32} (byte : UInt8)
    (fits : place.toNat ≤ 24) (below : low.toNat < 2 ^ place.toNat) :
    (low ||| (byte.toUInt32 <<< place)).toNat = low.toNat + 2 ^ place.toNat * byte.toNat := by
  have room : byte.toNat * 2 ^ place.toNat < 2 ^ 32 :=
    calc byte.toNat * 2 ^ place.toNat
        < 2 ^ 8 * 2 ^ place.toNat := Nat.mul_lt_mul_of_pos_right byte.toNat_lt (Nat.two_pow_pos _)
      _ = 2 ^ (8 + place.toNat) := (Nat.pow_add ..).symm
      _ ≤ 2 ^ 32 := Nat.pow_le_pow_right (by decide) (by omega)
  rw [UInt32.toNat_or, UInt32.toNat_shiftLeft, UInt8.toNat_toUInt32,
    Nat.mod_eq_of_lt (show place.toNat < 32 by omega), Nat.shiftLeft_eq, Nat.mod_eq_of_lt room,
    Nat.mul_comm, Nat.or_comm, ← Nat.two_pow_add_eq_or_of_lt below, Nat.add_comm]

theorem Token.toNat_ofBytes (a b c d : UInt8) : (Token.ofBytes a b c d).toNat =
    a.toNat + 2 ^ 8 * b.toNat + 2 ^ 16 * c.toNat + 2 ^ 24 * d.toNat := by
  have ha : a.toNat < 2 ^ 8 := a.toNat_lt
  have hb : b.toNat < 2 ^ 8 := b.toNat_lt
  have hc : c.toNat < 2 ^ 8 := c.toNat_lt
  have two : (a.toUInt32 ||| b.toUInt32 <<< 8).toNat = a.toNat + 2 ^ 8 * b.toNat :=
    toNat_or_shiftLeft b (by decide) ha
  have three : (a.toUInt32 ||| b.toUInt32 <<< 8 ||| c.toUInt32 <<< 16).toNat =
      a.toNat + 2 ^ 8 * b.toNat + 2 ^ 16 * c.toNat := by
    rw [← two]
    exact toNat_or_shiftLeft c (by decide) (by rw [two]; change _ < 2 ^ 16; omega)
  rw [← three]
  exact toNat_or_shiftLeft d (by decide) (by rw [three]; change _ < 2 ^ 24; omega)

theorem length_lt_of_short {bytes : List UInt8}
    (short : ∀ a b c d rest, bytes = a :: b :: c :: d :: rest → False) : bytes.length < 4 := by
  match bytes with
  | [] | [_] | [_, _] | [_, _, _] => simp
  | a :: b :: c :: d :: rest => exact (short a b c d rest rfl).elim

theorem tokenAt?_eq_none {bytes : List UInt8} {place : Nat} :
    tokenAt? bytes place = none ↔ bytes.length < place + 4 := by
  have left : (bytes.drop place).length = bytes.length - place := List.length_drop
  unfold tokenAt?
  split
  case h_1 a b c d rest shown =>
    rw [shown] at left
    simp only [List.length_cons] at left
    simp only [reduceCtorEq, false_iff]
    omega
  case h_2 short =>
    have below := length_lt_of_short short
    simp only [true_iff]
    omega

theorem getElem?_tokensOf (bytes : List UInt8) (k : Nat) :
    (tokensOf bytes)[k]? = tokenAt? bytes (4 * k) := by
  induction bytes using tokensOf.induct generalizing k with
  | case1 a b c d rest ih =>
    cases k with
    | zero =>
      rw [tokensOf, List.getElem?_cons_zero, Nat.mul_zero, tokenAt?]
      simp only [List.drop_zero, ← Token.toNat_ofBytes, UInt32.ofNat_toNat]
    | succ k =>
      rw [tokensOf, List.getElem?_cons_succ, ih]
      rfl
  | case2 bytes short =>
    have below := length_lt_of_short short
    rw [tokensOf, tokenAt?_eq_none.mpr (by omega), List.getElem?_nil]
    exact short

theorem length_tokensOf (bytes : List UInt8) : (tokensOf bytes).length = bytes.length / 4 := by
  have beyond (k : Nat) : (tokensOf bytes).length ≤ k ↔ bytes.length < 4 * k + 4 := by
    rw [← List.getElem?_eq_none_iff, getElem?_tokensOf, tokenAt?_eq_none]
  have last := beyond ((tokensOf bytes).length - 1)
  have next := beyond (tokensOf bytes).length
  omega

theorem tokenAt?_take {bytes : List UInt8} {place cut : Nat} (within : place + 4 ≤ cut) :
    tokenAt? (bytes.take cut) place = tokenAt? bytes place := by
  obtain ⟨spare, rfl⟩ := Nat.exists_eq_add_of_le within
  have room : place + 4 + spare - place = spare + 4 := by omega
  rw [tokenAt?, tokenAt?, List.drop_take, room]
  match bytes.drop place with
  | [] | [_] | [_, _] | [_, _, _] | _ :: _ :: _ :: _ :: _ => rfl

/-! ## The first end token -/

/-- Token number `k` is the end token, and none before it is. -/
def EndsAt (bytes : List UInt8) (k : Nat) : Prop :=
  tokenAt? bytes (4 * k) = some endToken ∧ ∀ j < k, tokenAt? bytes (4 * j) ≠ some endToken

theorem EndsAt.within {bytes : List UInt8} {k : Nat} (ends : EndsAt bytes k) :
    4 * (k + 1) ≤ bytes.length := by
  refine Nat.le_of_not_lt fun short => ?_
  have absent : tokenAt? bytes (4 * k) = none := tokenAt?_eq_none.mpr short
  rw [ends.1] at absent
  cases absent

theorem EndsAt.not_earlier {bytes : List UInt8} {j k : Nat} (ends : EndsAt bytes k)
    (other : EndsAt bytes j) : k ≤ j :=
  Nat.le_of_not_lt fun earlier => ends.2 j earlier other.1

theorem endsAt_take {bytes : List UInt8} {cut k : Nat} :
    EndsAt (bytes.take cut) k ↔ 4 * (k + 1) ≤ cut ∧ EndsAt bytes k := by
  have same (room : 4 * (k + 1) ≤ cut) : EndsAt (bytes.take cut) k ↔ EndsAt bytes k := by
    unfold EndsAt
    rw [tokenAt?_take (by omega)]
    refine and_congr_right fun _ => forall₂_congr fun j before => ?_
    rw [tokenAt?_take (by omega)]
  constructor
  · intro ends
    have within := ends.within
    rw [List.length_take] at within
    have room : 4 * (k + 1) ≤ cut := by omega
    exact ⟨room, (same room).mp ends⟩
  · rintro ⟨room, ends⟩
    exact (same room).mpr ends

/-! ## The scan -/

theorem streamLength_eq_ok {bytes : List UInt8} {limit length : Nat} :
    streamLength bytes limit = .ok length ↔
      ∃ k, length = 4 * (k + 1) ∧ length ≤ min bytes.length limit ∧ EndsAt bytes k := by
  have counted (count : Nat) : countToEnd (tokensOf (bytes.take limit)) = some count ↔
      ∃ k, count = k + 1 ∧ 4 * (k + 1) ≤ limit ∧ EndsAt bytes k := by
    simp only [countToEnd_eq_some, getElem?_tokensOf, ← endsAt_take]
    rfl
  constructor
  · intro found
    rw [streamLength] at found
    split at found
    case h_1 count ended =>
      cases found
      obtain ⟨k, rfl, room, ends⟩ := (counted count).mp ended
      exact ⟨k, rfl, Nat.le_min.mpr ⟨ends.within, room⟩, ends⟩
    case h_2 => cases found
  · rintro ⟨k, rfl, within, ends⟩
    have ended := (counted (k + 1)).mpr ⟨k, rfl, (Nat.le_min.mp within).2, ends⟩
    simp only [streamLength, ended]

theorem streamLength_eq_error {bytes : List UInt8} {limit : Nat} {err : BytecodeError} :
    streamLength bytes limit = .error err ↔
      (∀ length, streamLength bytes limit ≠ .ok length) ∧
        err = .unterminated (4 * (min bytes.length limit / 4)) limit := by
  rw [streamLength, length_tokensOf, List.length_take, Nat.min_comm]
  cases countToEnd (tokensOf (bytes.take limit)) with
  | some count => simp
  | none => simp [eq_comm]

/-- A stream that was found is found whatever comes behind it, under every limit that it fits. -/
theorem streamLength_continued {bytes : List UInt8} {limit length : Nat}
    (found : streamLength bytes limit = .ok length) (tail : List UInt8) (later : Nat) :
    streamLength (bytes.take length ++ tail) later =
      if length ≤ later then .ok length
      else .error (.unterminated (4 * (later / 4)) later) := by
  obtain ⟨k, rfl, within, ends⟩ := streamLength_eq_ok.mp found
  have start : (bytes.take (4 * (k + 1)) ++ tail).take (4 * (k + 1)) =
      bytes.take (4 * (k + 1)) :=
    List.take_left' (List.length_take_of_le ends.within)
  have kept : EndsAt (bytes.take (4 * (k + 1)) ++ tail) k := by
    have cutOff := endsAt_take.mpr ⟨Nat.le_refl (4 * (k + 1)), ends⟩
    rw [← start] at cutOff
    exact (endsAt_take.mp cutOff).2
  have whole := kept.within
  split
  case isTrue fits =>
    exact streamLength_eq_ok.mpr ⟨k, rfl, Nat.le_min.mpr ⟨whole, fits⟩, kept⟩
  case isFalse exceeds =>
    refine streamLength_eq_error.mpr ⟨fun shorter other => ?_, ?_⟩
    · obtain ⟨j, rfl, room, sooner⟩ := streamLength_eq_ok.mp other
      have := kept.not_earlier sooner
      omega
    · rw [Nat.min_eq_right (by omega)]

/-! ## Complete streams -/

/-- A whole number of tokens of which the last one, and no other, is the end token. -/
def Complete (stream : List UInt8) : Prop :=
  ∃ tokens, endToken ∉ tokens ∧ stream = bytesOf (tokens ++ [endToken])

theorem Complete.streamLength {stream : List UInt8} (complete : Complete stream) {limit : Nat}
    (fits : stream.length ≤ limit) : streamLength stream limit = .ok stream.length := by
  obtain ⟨tokens, unended, rfl⟩ := complete
  have whole : (tokens ++ [endToken]).length ≤ limit / 4 := by
    rw [length_bytesOf] at fits
    omega
  simp only [ShaderIdentity.streamLength, tokensOf_take_bytesOf, List.take_of_length_le whole,
    countToEnd_ended unended, length_bytesOf, List.length_append, List.length_singleton]

namespace Fingerprint

theorem ofBytes_eq (bytes : List UInt8) (limit : Nat) :
    ofBytes bytes limit =
      (streamLength bytes limit).map fun length => ⟨Checksum.crc32 (bytes.take length)⟩ := by
  rw [ofBytes]
  cases streamLength bytes limit <;> rfl

theorem ofBytes_eq_ok {bytes : List UInt8} {limit : Nat} {fingerprint : Fingerprint} :
    ofBytes bytes limit = .ok fingerprint ↔ ∃ length, streamLength bytes limit = .ok length ∧
      fingerprint = ⟨Checksum.crc32 (bytes.take length)⟩ := by
  rw [ofBytes_eq]
  cases streamLength bytes limit <;> simp [Except.map, eq_comm]

theorem ofBytes_eq_error {bytes : List UInt8} {limit : Nat} {err : BytecodeError} :
    ofBytes bytes limit = .error err ↔ streamLength bytes limit = .error err := by
  rw [ofBytes_eq]
  cases streamLength bytes limit <;> simp [Except.map]

theorem ofBytes_complete {stream : List UInt8} (complete : Complete stream) {limit : Nat}
    (fits : stream.length ≤ limit) : ofBytes stream limit = .ok ⟨Checksum.crc32 stream⟩ :=
  ofBytes_eq_ok.mpr ⟨_, complete.streamLength fits, by rw [List.take_length]⟩

theorem ofBytes_continued {bytes : List UInt8} {limit length : Nat}
    (found : streamLength bytes limit = .ok length) (tail : List UInt8) (later : Nat) :
    ofBytes (bytes.take length ++ tail) later =
      if length ≤ later then ofBytes bytes limit
      else .error (.unterminated (4 * (later / 4)) later) := by
  have start : (bytes.take length ++ tail).take length = bytes.take length := by
    obtain ⟨k, rfl, within, -⟩ := streamLength_eq_ok.mp found
    exact List.take_left' (List.length_take_of_le (Nat.le_min.mp within).1)
  rw [ofBytes_eq, ofBytes_eq, streamLength_continued found, found]
  split
  · rw [Except.map, Except.map, start]
  · rfl

/-- The length of a stream is that of the tokens up to the first end token, when this lies within
both the bytes and the limit. Without it the error says how many whole tokens were looked at. The
fingerprint is the checksum of the stream, whatever lies behind it and however large the limit. -/
theorem scan_determined (bytes : List UInt8) (limit : Nat) :
    (∀ length, streamLength bytes limit = .ok length ↔
      ∃ k, length = 4 * (k + 1) ∧ length ≤ min bytes.length limit ∧ EndsAt bytes k) ∧
    (∀ err, streamLength bytes limit = .error err ↔
      (¬ ∃ k, 4 * (k + 1) ≤ min bytes.length limit ∧ EndsAt bytes k) ∧
        err = .unterminated (4 * (min bytes.length limit / 4)) limit) ∧
    (∀ fingerprint, ofBytes bytes limit = .ok fingerprint ↔
      ∃ length, streamLength bytes limit = .ok length ∧
        fingerprint = ⟨Checksum.crc32 (bytes.take length)⟩) ∧
    (∀ err, ofBytes bytes limit = .error err ↔ streamLength bytes limit = .error err) ∧
    ∀ length fingerprint, streamLength bytes limit = .ok length →
      ofBytes bytes limit = .ok fingerprint → ∀ tail later,
        ofBytes (bytes.take length ++ tail) later =
          if length ≤ later then .ok fingerprint
          else .error (.unterminated (4 * (later / 4)) later) := by
  refine ⟨fun length => streamLength_eq_ok, fun err => ?_, fun fingerprint => ofBytes_eq_ok,
    fun err => ofBytes_eq_error, fun length fingerprint found known tail later => ?_⟩
  · rw [streamLength_eq_error]
    refine and_congr_left fun _ => ?_
    simp only [ne_eq, streamLength_eq_ok]
    constructor
    · rintro never ⟨k, within, ends⟩
      exact never _ ⟨k, rfl, within, ends⟩
    · rintro never length ⟨k, rfl, within, ends⟩
      exact never ⟨k, within, ends⟩
  · rw [ofBytes_continued found, known]

/-- An end token that straddles two tokens, one that counts, one behind it, and a cut token. -/
theorem straddling_scan_determined :
    let stream : List UInt8 := [0, 0, 0xFF, 0xFF, 0, 0, 1, 0, 0xFF, 0xFF, 0, 0]
    let bytes := stream ++ [0xFF, 0xFF, 0, 0, 0xFF]
    streamLength bytes 14 = .ok 12 ∧ ofBytes bytes 14 = .ok ⟨Checksum.crc32 stream⟩ ∧
      ∀ tail later, ofBytes (stream ++ tail) later =
        if 12 ≤ later then .ok ⟨Checksum.crc32 stream⟩
        else .error (.unterminated (4 * (later / 4)) later) := by
  intro stream bytes
  have found : streamLength bytes 14 = .ok 12 := rfl
  have known : ofBytes bytes 14 = .ok ⟨Checksum.crc32 stream⟩ := rfl
  exact ⟨found, known, (scan_determined bytes 14).2.2.2.2 12 _ found known⟩

end Fingerprint

end ShaderIdentity
