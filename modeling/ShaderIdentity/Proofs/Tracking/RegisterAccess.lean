import ShaderIdentity.Proofs.Shader.WordScan
import ShaderIdentity.Proofs.Tracking.Constants

/-! Registers read from a record, and the payload they make up. A record need not have as many words
as its count asks for, but those that were recorded do. -/
namespace ShaderIdentity

/-! ## Reading with addresses of 64 bits -/

/-- A sum or product of addresses that does not fit into 64 bits. -/
inductive AddressFault where
  | overflow
  deriving DecidableEq, Repr

namespace Address

def add (a b : UInt64) : Except AddressFault UInt64 :=
  if a.toNat + b.toNat < UInt64.size then .ok (a + b) else .error .overflow

def mul (a b : UInt64) : Except AddressFault UInt64 :=
  if a.toNat * b.toNat < UInt64.size then .ok (a * b) else .error .overflow

/-- The words from the first address up to the last, which is left out. There are none when an
address is out of bounds. -/
def slice? (words : List UInt32) (first last : UInt64) : Option (List UInt32) :=
  if first ≤ last ∧ last.toNat ≤ words.length then
    some ((words.drop first.toNat).take (last.toNat - first.toNat))
  else none

theorem add_ok {a b : UInt64} (fits : a.toNat + b.toNat < UInt64.size) :
    ∃ sum, add a b = .ok sum ∧ sum.toNat = a.toNat + b.toNat :=
  ⟨a + b, if_pos fits, by rw [UInt64.toNat_add]; exact Nat.mod_eq_of_lt fits⟩

theorem mul_ok {a b : UInt64} (fits : a.toNat * b.toNat < UInt64.size) :
    ∃ product, mul a b = .ok product ∧ product.toNat = a.toNat * b.toNat :=
  ⟨a * b, if_pos fits, by rw [UInt64.toNat_mul]; exact Nat.mod_eq_of_lt fits⟩

end Address

namespace ConstantRecord

variable (constant : ConstantRecord) (offset : UInt32)

/-- The words of a register as a machine finds them. -/
def access : Except AddressFault (Option (List UInt32)) :=
  if constant.count ≤ offset then .ok none
  else do
    let first ← Address.mul offset.toUInt64 (.ofNat wordsPerRegister)
    let last ← Address.add first (.ofNat wordsPerRegister)
    return Address.slice? constant.data first last

theorem register?_eq : constant.register? offset =
    if offset < constant.count ∧ 4 * offset.toNat + 4 ≤ constant.data.length then
      some ((constant.data.drop (4 * offset.toNat)).take 4)
    else none := by
  split
  case isTrue covers =>
    refine if_neg (not_or.mpr ⟨UInt32.not_le.mpr covers.1, ?_⟩)
    exact Nat.not_lt.mpr covers.2
  case isFalse misses =>
    refine if_pos ?_
    rwa [not_and_or, UInt32.not_lt, Nat.not_le] at misses

/-- An offset has 32 bits, so the addresses have no more than 35. -/
theorem access_eq : constant.access offset = .ok (constant.register? offset) := by
  have small : offset.toUInt64.toNat = offset.toNat := UInt32.toNat_toUInt64 offset
  have bound : offset.toNat < 2 ^ 32 := offset.toNat_lt
  have four : (UInt64.ofNat wordsPerRegister).toNat = 4 := rfl
  have size : UInt64.size = 2 ^ 64 := rfl
  obtain ⟨first, begins, firstAt⟩ := Address.mul_ok (a := offset.toUInt64)
    (b := .ofNat wordsPerRegister) (by rw [small, four, size]; omega)
  rw [small, four, Nat.mul_comm] at firstAt
  obtain ⟨last, ends, lastAt⟩ := Address.add_ok (a := first) (b := .ofNat wordsPerRegister)
    (by rw [firstAt, four, size]; omega)
  rw [firstAt, four] at lastAt
  have forward : first ≤ last := by
    rw [UInt64.le_iff_toNat_le, firstAt, lastAt]
    exact Nat.le_add_right _ _
  have opened {α β : Type} (a : α) (goOn : α → Except AddressFault β) :
      (Except.ok a >>= goOn) = goOn a := rfl
  rw [access, register?_eq]
  by_cases covered : offset < constant.count
  · rw [if_neg (UInt32.not_le.mpr covered), begins, opened, ends, opened, Address.slice?, firstAt,
      lastAt, Nat.add_sub_cancel_left]
    simp only [forward, covered, true_and]
    rfl
  · rw [if_pos (UInt32.not_lt.mp covered), if_neg fun both => covered both.1]

theorem isSome_register? : (constant.register? offset).isSome ↔
    offset < constant.count ∧ 4 * offset.toNat + 4 ≤ constant.data.length := by
  rw [register?_eq]
  split <;> simp [*]

theorem getElem?_register? {words : List UInt32} (read : constant.register? offset = some words) :
    words.length = 4 ∧ ∀ i < 4, words[i]? = constant.data[4 * offset.toNat + i]? := by
  rw [register?_eq] at read
  split at read
  case isFalse => cases read
  case isTrue covers =>
    cases read
    refine ⟨?_, fun i within => ?_⟩
    · rw [List.length_take, List.length_drop]
      omega
    · rw [List.getElem?_take_of_lt within, List.getElem?_drop]

theorem words_eq : constant.words = constant.data := tokensOf_bytesOf constant.data

/-! ## Records with as many words as their registers hold -/

/-- The record has all the words of its registers and no more. -/
def Whole : Prop := constant.data.length = 4 * constant.count.toNat

variable {constant}

theorem Whole.isSome_register? (whole : constant.Whole) (offset : UInt32) :
    (constant.register? offset).isSome ↔ offset < constant.count := by
  rw [ConstantRecord.isSome_register?, whole, UInt32.lt_iff_toNat_lt]
  omega

theorem flatten_registers (words : List UInt32) (n : Nat) :
    ((List.range n).map fun i => (words.drop (4 * i)).take 4).flatten = words.take (4 * n) := by
  induction n with
  | zero => rfl
  | succ n ih =>
    rw [List.range_succ, List.map_append, List.flatten_append, ih, Nat.mul_succ, List.take_add]
    simp

theorem mapM_eq_some {α β : Type} {read : α → Option β} {part : α → β} {list : List α}
    (all : ∀ a ∈ list, read a = some (part a)) : list.mapM read = some (list.map part) := by
  induction list with
  | nil => rfl
  | cons a rest ih =>
    have others := ih fun b mem => all b (List.mem_cons_of_mem a mem)
    rw [List.mapM_cons, all a List.mem_cons_self, others]
    rfl

/-- The registers one after the other are the payload. -/
theorem Whole.flatten (whole : constant.Whole) :
    ((List.range constant.count.toNat).mapM fun i => constant.register? (.ofNat i)).map
      List.flatten = some constant.data := by
  have read : ∀ i ∈ List.range constant.count.toNat,
      constant.register? (.ofNat i) = some ((constant.data.drop (4 * i)).take 4) := by
    intro i mem
    have below := List.mem_range.mp mem
    have fits : (UInt32.ofNat i).toNat = i :=
      UInt32.toNat_ofNat_of_lt' (Nat.lt_trans below constant.count.toNat_lt)
    rw [register?_eq, fits, if_pos]
    rw [UInt32.lt_iff_toNat_lt, fits, whole]
    omega
  rw [mapM_eq_some read, Option.map_some, flatten_registers, ← whole, List.take_length]

end ConstantRecord

/-! ## Records that are held -/

namespace ConstantShadow

theorem mem_of_mem_place {constant record : ConstantRecord} {records : List ConstantRecord}
    (mem : record ∈ place constant records) : record = constant ∨ record ∈ records := by
  induction records with
  | nil => exact .inl (List.mem_singleton.mp mem)
  | cons other rest ih =>
    rw [place] at mem
    split at mem
    · exact (List.mem_cons.mp mem).imp_right (List.mem_cons_of_mem other)
    · rcases List.mem_cons.mp mem with rfl | there
      · exact .inr List.mem_cons_self
      · exact (ih there).imp_right (List.mem_cons_of_mem other)

/-- The constants after an upload for a fingerprint. They stay as they are when it is refused. -/
def recordOrKeep (shadow : ConstantShadow) : Fingerprint × Upload → ConstantShadow
  | (fingerprint, upload) =>
    match shadow.record upload.kind fingerprint upload.start upload.count upload.data with
    | .ok constants => constants
    | .error _ => shadow

/-- The constants after some uploads, of which none were held before. -/
def recordAll (uploads : List (Fingerprint × Upload)) : ConstantShadow :=
  uploads.foldl recordOrKeep empty

/-- All records that are held have the words of their registers. -/
def AllWhole (shadow : ConstantShadow) : Prop :=
  ∀ kind fingerprint records, shadow.get? kind fingerprint = some records →
    ∀ record ∈ records, record.Whole

theorem allWhole_empty : empty.AllWhole := by
  intro kind fingerprint records held
  have none : empty.get? kind fingerprint = none := by
    cases kind <;> exact Std.ExtTreeMap.getElem?_empty
  rw [none] at held
  cases held

/-- An upload that is kept is cut to the words of its registers, whatever was there before. -/
theorem allWhole_recordOrKeep {shadow : ConstantShadow} (whole : shadow.AllWhole)
    (call : Fingerprint × Upload) : (shadow.recordOrKeep call).AllWhole := by
  obtain ⟨fingerprint, upload⟩ := call
  rw [recordOrKeep]
  split
  case h_2 => exact whole
  case h_1 constants recorded =>
    intro kind other records held record mem
    rw [get?_record recorded] at held
    split at held
    case isFalse => exact whole kind other records held record mem
    case isTrue =>
      cases held
      rcases mem_of_mem_place mem with rfl | old
      · exact List.length_take_of_le (fits_of_record recorded)
      · cases before : shadow.get? kind other with
        | none =>
          rw [before] at old
          cases old
        | some earlier =>
          rw [before] at old
          exact whole kind other earlier before record old

theorem allWhole_recordAll (uploads : List (Fingerprint × Upload)) :
    (recordAll uploads).AllWhole := by
  induction uploads using List.reverseRecOn with
  | nil => exact allWhole_empty
  | append_singleton uploads last ih =>
    rw [recordAll, List.foldl_append]
    exact allWhole_recordOrKeep ih last

/-- Whatever is uploaded, the registers of a record that is held are just those that it counts, and
one after the other they are its payload. Of any record at all a register is read without a fault,
if the record counts it and has its words; these are what is read. -/
theorem registers_make_up_payload :
    (∀ uploads kind fingerprint records,
      (recordAll uploads).get? kind fingerprint = some records → ∀ record ∈ records,
        record.data.length = 4 * record.count.toNat ∧
        (∀ offset, (record.register? offset).isSome ↔ offset < record.count) ∧
        ((List.range record.count.toNat).mapM fun i => record.register? (.ofNat i)).map
          List.flatten = some record.data ∧
        record.words = record.data) ∧
    ∀ (constant : ConstantRecord) (offset : UInt32),
      constant.access offset = .ok (constant.register? offset) ∧
      ((constant.register? offset).isSome ↔
        offset < constant.count ∧ 4 * offset.toNat + 4 ≤ constant.data.length) ∧
      ∀ words, constant.register? offset = some words →
        words.length = 4 ∧ ∀ i < 4, words[i]? = constant.data[4 * offset.toNat + i]? := by
  refine ⟨fun uploads kind fingerprint records held record mem => ?_, fun constant offset => ?_⟩
  · have whole := allWhole_recordAll uploads kind fingerprint records held record mem
    exact ⟨whole, whole.isSome_register?, whole.flatten, record.words_eq⟩
  · exact ⟨constant.access_eq offset, constant.isSome_register? offset,
      fun _ => constant.getElem?_register? offset⟩

/-- A record that shrinks, beside an upload that is refused, and a record that has neither the words
that it counts nor whole registers. -/
theorem registers_of_shrunk_record :
    let uploads : List (Fingerprint × Upload) := [
      (⟨7⟩, ⟨.vertex, .float, 3, 2, [1, 2, 3, 4, 5, 6, 7, 8, 9]⟩),
      (⟨7⟩, ⟨.vertex, .float, 3, 1, [10, 11, 12, 13, 14]⟩),
      (⟨7⟩, ⟨.pixel, .float, 3, 2, [20, 21, 22]⟩)]
    let held : ConstantRecord := ⟨3, 1, [10, 11, 12, 13]⟩
    let torn : ConstantRecord := ⟨0, 3, [1, 2, 3, 4, 5, 6, 7]⟩
    ((recordAll uploads).get? .float ⟨7⟩ = some [held] ∧ held ∈ [held] ∧
      held.data.length = 4 * held.count.toNat) ∧
    torn.register? 0 = some [1, 2, 3, 4] ∧
      (∀ i < 4, [1, 2, 3, 4][i]? = torn.data[4 * (0 : UInt32).toNat + i]?) ∧
      torn.access 4294967295 = .ok none := by
  intro uploads held torn
  obtain ⟨recorded, any⟩ := registers_make_up_payload
  have found : (recordAll uploads).get? .float ⟨7⟩ = some [held] := by decide +kernel
  have whole := recorded uploads .float ⟨7⟩ [held] found held List.mem_cons_self
  have read : torn.register? 0 = some [1, 2, 3, 4] := by decide
  refine ⟨⟨found, List.mem_cons_self, whole.1⟩, read, ((any torn 0).2.2 _ read).2, ?_⟩
  rw [(any torn 4294967295).1]
  rfl

end ConstantShadow

end ShaderIdentity
