import ShaderIdentity.Shader.TokenStream

/-! A stream in memory and the same stream in bytes. The memory behind a pointer is known to be
readable up to the end token or up to the limit, so a scan must not touch anything behind either. -/
namespace ShaderIdentity

namespace Token

theorem bits_of_bytes (word : BitVec 32) :
    (word.setWidth 8).setWidth 32 ||| ((word >>> 8).setWidth 8).setWidth 32 <<< 8 |||
      ((word >>> 16).setWidth 8).setWidth 32 <<< 16 |||
      ((word >>> 24).setWidth 8).setWidth 32 <<< 24 = word := by
  apply BitVec.eq_of_getLsbD_eq
  intro i fits
  simp only [BitVec.getLsbD_or, BitVec.getLsbD_setWidth, BitVec.getLsbD_shiftLeft,
    BitVec.getLsbD_ushiftRight]
  by_cases lowest : i < 8
  · have second : i < 16 := by omega
    have third : i < 24 := by omega
    simp [lowest, second, third, fits]
  · grind

theorem ofBytes_bytes (token : UInt32) :
    ofBytes token.toUInt8 (token >>> 8).toUInt8 (token >>> 16).toUInt8 (token >>> 24).toUInt8 =
      token := by
  rw [← UInt32.toBitVec_inj]
  exact bits_of_bytes token.toBitVec

end Token

/-! ## The bytes of words -/

theorem bytesOf_cons (token : UInt32) (tokens : List UInt32) :
    bytesOf (token :: tokens) = token.toUInt8 :: (token >>> 8).toUInt8 ::
      (token >>> 16).toUInt8 :: (token >>> 24).toUInt8 :: bytesOf tokens := rfl

theorem bytesOf_append (before after : List UInt32) :
    bytesOf (before ++ after) = bytesOf before ++ bytesOf after := List.flatMap_append

theorem length_bytesOf (tokens : List UInt32) : (bytesOf tokens).length = 4 * tokens.length := by
  induction tokens with
  | nil => rfl
  | cons token rest ih =>
    rw [bytesOf_cons]
    simp only [List.length_cons, ih]
    omega

/-- A limit in the middle of a token cuts the whole token off. -/
theorem tokensOf_take_bytesOf (tokens : List UInt32) (limit : Nat) :
    tokensOf ((bytesOf tokens).take limit) = tokens.take (limit / 4) := by
  induction tokens generalizing limit with
  | nil => rw [bytesOf, List.flatMap_nil, List.take_nil, List.take_nil, tokensOf]; simp
  | cons token rest ih =>
    rw [bytesOf_cons]
    match limit with
    | 0 | 1 | 2 | 3 => rfl
    | limit + 4 =>
      have whole : (limit + 4) / 4 = limit / 4 + 1 := by omega
      rw [whole, List.take_succ_cons]
      simp only [List.take_succ_cons, tokensOf, Token.ofBytes_bytes, ih]

theorem tokensOf_bytesOf (tokens : List UInt32) : tokensOf (bytesOf tokens) = tokens := by
  have whole := tokensOf_take_bytesOf tokens (4 * tokens.length)
  rwa [← length_bytesOf, List.take_length, length_bytesOf,
    Nat.mul_div_cancel_left _ (by decide), List.take_length] at whole

theorem take_bytesOf (tokens : List UInt32) (count : Nat) :
    (bytesOf tokens).take (4 * count) = bytesOf (tokens.take count) := by
  induction tokens generalizing count with
  | nil => simp [bytesOf]
  | cons token rest ih =>
    cases count with
    | zero => rfl
    | succ count =>
      have whole : 4 * (count + 1) = 4 * count + 4 := by omega
      rw [whole, List.take_succ_cons, bytesOf_cons, bytesOf_cons]
      simp only [List.take_succ_cons, ih]

/-! ## The first end token -/

theorem countToEnd_eq_some {tokens : List UInt32} {count : Nat} :
    countToEnd tokens = some count ↔ ∃ k, count = k + 1 ∧ tokens[k]? = some endToken ∧
      ∀ j < k, tokens[j]? ≠ some endToken := by
  induction tokens generalizing count with
  | nil => simp [countToEnd]
  | cons token rest ih =>
    rw [countToEnd]
    split
    case isTrue last =>
      constructor
      · rintro ⟨⟩
        exact ⟨0, rfl, by simp [last], fun j below => absurd below (Nat.not_lt_zero j)⟩
      · rintro ⟨k, rfl, -, noneBefore⟩
        cases k with
        | zero => rfl
        | succ k => exact absurd (by simp [last]) (noneBefore 0 (Nat.succ_pos k))
    case isFalse other =>
      rw [Option.map_eq_some_iff]
      simp only [ih]
      constructor
      · rintro ⟨_, ⟨k, rfl, ends, noneBefore⟩, rfl⟩
        refine ⟨k + 1, rfl, ends, fun j below => ?_⟩
        cases j with
        | zero => simpa using other
        | succ j => exact noneBefore j (Nat.lt_of_succ_lt_succ below)
      · rintro ⟨k, rfl, ends, noneBefore⟩
        cases k with
        | zero => exact absurd (by simpa using ends) other
        | succ k =>
          exact ⟨k + 1, ⟨k, rfl, ends, fun j below => noneBefore (j + 1) (by omega)⟩, rfl⟩

theorem countToEnd_eq_none {tokens : List UInt32} :
    countToEnd tokens = none ↔ endToken ∉ tokens := by
  induction tokens with
  | nil => simp [countToEnd]
  | cons token rest ih =>
    unfold countToEnd
    split
    · simp_all
    · rename_i other
      simp [ih, Ne.symm other]

theorem endToken_mem_iff {tokens : List UInt32} :
    endToken ∈ tokens ↔ ∃ count, countToEnd tokens = some count := by
  rw [← Option.ne_none_iff_exists', ne_eq, countToEnd_eq_none, Classical.not_not]

theorem countToEnd_le {tokens : List UInt32} {count : Nat}
    (ended : countToEnd tokens = some count) : count ≤ tokens.length := by
  obtain ⟨k, rfl, ends, -⟩ := countToEnd_eq_some.mp ended
  exact (List.getElem?_eq_some_iff.mp ends).1

/-- Nothing behind the end token counts, and a part of the tokens has none but theirs. -/
theorem countToEnd_take {tokens : List UInt32} {length count : Nat} :
    countToEnd (tokens.take length) = some count ↔
      count ≤ length ∧ countToEnd tokens = some count := by
  simp only [countToEnd_eq_some]
  constructor
  · rintro ⟨k, rfl, ends, noneBefore⟩
    have fits : k < length := by
      refine Nat.lt_of_not_le fun beyond => ?_
      rw [List.getElem?_take_eq_none beyond] at ends
      cases ends
    rw [List.getElem?_take_of_lt fits] at ends
    refine ⟨fits, k, rfl, ends, fun j below => ?_⟩
    rw [← List.getElem?_take_of_lt (Nat.lt_trans below fits)]
    exact noneBefore j below
  · rintro ⟨fits, k, rfl, ends, noneBefore⟩
    refine ⟨k, rfl, (List.getElem?_take_of_lt fits).trans ends, fun j below => ?_⟩
    rw [List.getElem?_take_of_lt (Nat.lt_trans below fits)]
    exact noneBefore j below

theorem countToEnd_ended {tokens : List UInt32} (unended : endToken ∉ tokens) :
    countToEnd (tokens ++ [endToken]) = some (tokens.length + 1) := by
  refine countToEnd_eq_some.mpr ⟨_, rfl, List.getElem?_concat_length, fun j below ends => ?_⟩
  rw [List.getElem?_append_left below] at ends
  exact unended (List.mem_of_getElem? ends)

/-! ## Streams of words -/

theorem streamOfWords_eq (words : List UInt32) (limit : Nat) :
    streamOfWords (some words) limit =
      (streamLength (bytesOf words) limit).map ((bytesOf words).take ·) := by
  simp only [streamOfWords, streamLength, tokensOf_take_bytesOf]
  cases ended : countToEnd (words.take (limit / 4)) with
  | none => rfl
  | some count =>
    have within := countToEnd_le ended
    rw [List.length_take] at within
    have cut : (words.take (limit / 4)).take count = words.take count := by
      rw [List.take_take, Nat.min_eq_left (by omega)]
    simp only [Except.map, cut, take_bytesOf]

/-- The stream that was found is found again in its own bytes. -/
theorem streamLength_take {words : List UInt32} {limit length : Nat}
    (found : streamLength (bytesOf words) limit = .ok length) :
    ((bytesOf words).take length).length = length ∧
      streamLength ((bytesOf words).take length) limit = .ok length := by
  simp only [streamLength, tokensOf_take_bytesOf] at found
  cases ended : countToEnd (words.take (limit / 4)) with
  | none => rw [ended] at found; cases found
  | some count =>
    rw [ended] at found
    cases found
    obtain ⟨fits, whole⟩ := countToEnd_take.mp ended
    have again : countToEnd ((words.take count).take (limit / 4)) = some count :=
      countToEnd_take.mpr ⟨fits, countToEnd_take.mpr ⟨Nat.le_refl count, whole⟩⟩
    rw [take_bytesOf]
    refine ⟨?_, by simp only [streamLength, tokensOf_take_bytesOf, again]⟩
    rw [length_bytesOf, List.length_take, Nat.min_eq_left (countToEnd_le whole)]

/-! ## Words in memory -/

/-- A word was read at a place that is not readable. -/
structure BadRead where
  index : Nat
  deriving DecidableEq, Repr

/-- Reads one word after the other, at most `left` of them, until it has read the end token. Gives
the words up to that. -/
def scan (memory : Nat → Option UInt32) :
    (index left : Nat) → Except BadRead (Option (List UInt32))
  | _, 0 => .ok none
  | index, left + 1 =>
    match memory index with
    | none => .error ⟨index⟩
    | some token =>
      if token = endToken then .ok (some [token])
      else (scan memory (index + 1) left).map (Option.map (token :: ·))

/-- The bytes of the stream at the start of a memory. -/
def streamInMemory (memory : Nat → Option UInt32) (limit : Nat) :
    Except BadRead (Except BytecodeError (List UInt8)) :=
  (scan memory 0 (limit / 4)).map fun
    | some tokens => .ok (bytesOf tokens)
    | none => .error (.unterminated (4 * (limit / 4)) limit)

/-- A place that the scan may read: no word before it ends the stream, and it is below the limit. -/
def Scanned (words : List UInt32) (limit index : Nat) : Prop :=
  index < limit / 4 ∧ endToken ∉ words.take index

theorem scan_eq {memory : Nat → Option UInt32} {words : List UInt32} {index left : Nat}
    (held : ∀ i < left, endToken ∉ words.take i → memory (index + i) = words[i]?)
    (readable : endToken ∈ words ∨ left ≤ words.length) :
    scan memory index left =
      .ok ((countToEnd (words.take left)).map (words.take ·)) := by
  -- Along the scan: the words are those that are still ahead, and `held` is about these.
  induction left generalizing index words with
  | zero => rfl
  | succ left ih =>
    have first : memory index = words[0]? := held 0 (by omega) (by simp)
    cases words with
    | nil => simp at readable
    | cons token rest =>
      rw [List.getElem?_cons_zero] at first
      rw [scan, first]
      by_cases last : token = endToken
      · simp [last, countToEnd]
      · have behind : ∀ i < left, endToken ∉ rest.take i →
            memory (index + 1 + i) = rest[i]? := by
          intro i fits unended
          have next := held (i + 1) (by omega) (by simp [unended, Ne.symm last])
          rw [List.getElem?_cons_succ] at next
          rw [← next, Nat.add_assoc, Nat.add_comm 1 i]
        have enough : endToken ∈ rest ∨ left ≤ rest.length := by
          rcases readable with ends | long
          · exact .inl ((List.mem_cons.mp ends).resolve_left (Ne.symm last))
          · exact .inr (Nat.le_of_succ_le_succ long)
        simp only [if_neg last, ih behind enough, List.take_succ_cons, countToEnd, Except.map,
          Option.map_map]
        rfl

/-- The scan reads no word behind the end token and none behind the limit, whatever is there. -/
theorem streamInMemory_eq {memory : Nat → Option UInt32} {words : List UInt32} {limit : Nat}
    (readable : endToken ∈ words ∨ limit / 4 ≤ words.length)
    (held : ∀ index, Scanned words limit index → memory index = words[index]?) :
    streamInMemory memory limit = .ok (streamOfWords (some words) limit) := by
  have read : scan memory 0 (limit / 4) =
      .ok ((countToEnd (words.take (limit / 4))).map (words.take ·)) := by
    refine scan_eq (fun i fits unended => ?_) readable
    rw [Nat.zero_add]
    exact held i ⟨fits, unended⟩
  simp only [streamInMemory, read, Except.map, streamOfWords]
  cases ended : countToEnd (words.take (limit / 4)) with
  | some count =>
    have within := countToEnd_le ended
    rw [List.length_take] at within
    simp [List.take_take, Nat.min_eq_left (show count ≤ limit / 4 by omega)]
  | none =>
    have unended := countToEnd_eq_none.mp ended
    have enough : limit / 4 ≤ words.length := by
      rcases readable with ends | long
      · refine Nat.le_of_not_lt fun short => ?_
        rw [List.take_of_length_le (by omega)] at unended
        exact unended ends
      · exact long
    rw [List.length_take, Nat.min_eq_left enough]
    rfl

end ShaderIdentity
