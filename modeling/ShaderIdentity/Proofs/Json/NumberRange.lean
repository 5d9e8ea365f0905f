import ShaderIdentity.Proofs.Json.CanonicalLaws
import ShaderIdentity.Proofs.Json.DecoderLaws
import ShaderIdentity.Proofs.Json.NumeralLaws

/-! Integers that are read from texts fit 64 bits. Larger ones become floats. -/
namespace ShaderIdentity.Json

theorem fits_of_readNumber {s rest : List Char} {n : Int}
    (read : readNumber s = .ok (.integer n, rest)) : Fits64 n := by
  obtain ⟨⟨numeral, behind⟩, -, read⟩ := ok_of_bind read
  obtain ⟨number, stands, done⟩ := ok_of_bind read
  cases done
  exact (Numeral.number_eq_integer.mp stands).2

namespace Value

/-- What is read as a word, a number or a string. -/
inductive Scalar : Value → Prop
  | null : Scalar .null
  | boolean (b : Bool) : Scalar (.boolean b)
  | integer (n : Int) (fits : Fits64 n) : Scalar (.number (.integer n))
  | float (value : Binary64) : Scalar (.number (.float value))
  | string (s : String) : Scalar (.string s)

theorem scalar_of_readScalar {s rest : List Char} {value : Value}
    (read : readScalar s = .ok (value, rest)) : value.Scalar := by
  unfold readScalar at read
  split at read
  case h_1 => cases read
  case h_2 =>
    obtain ⟨_, _, done⟩ := ok_of_bind read
    cases done
    exact .null
  case h_3 | h_4 =>
    obtain ⟨_, _, done⟩ := ok_of_bind read
    cases done
    exact .boolean _
  case h_5 =>
    obtain ⟨_, _, done⟩ := ok_of_bind read
    cases done
    exact .string _
  case h_6 =>
    split at read
    · obtain ⟨⟨found, behind⟩, number, done⟩ := ok_of_bind read
      cases done
      cases found with
      | integer n => exact .integer n (fits_of_readNumber number)
      | float value => exact .float value
    · cases read

/-- What is read is an array, an object whose members were read one level deeper, or a scalar. -/
theorem read_cases {depth : Nat} {s rest : List Char} {value : Value}
    (read : Value.read depth s = .ok (value, rest)) :
    (∃ items, value = .array items) ∨
    (∃ members depth s fuel, value = .object members ∧
      readMembers (readMember (Value.read depth)) fuel true [] s = .ok (members, rest)) ∨
    value.Scalar := by
  rw [Value.read.eq_def] at read
  split at read
  case h_1 => cases read
  case h_2 => cases read
  case h_3 =>
    obtain ⟨_, _, done⟩ := ok_of_bind read
    cases done
    exact .inl ⟨_, rfl⟩
  case h_4 =>
    obtain ⟨_, got, done⟩ := ok_of_bind read
    cases done
    exact .inr (.inl ⟨_, _, _, _, rfl, got⟩)
  case h_5 => exact .inr (.inr (scalar_of_readScalar read))

/-- What holds of every value that is read holds of the values of all members. -/
theorem readMembers_forall {P : Value → Prop}
    {value : List Char → Except Failure (Value × List Char)}
    (each : ∀ s found rest, value s = .ok (found, rest) → P found) {fuel : Nat} {first : Bool}
    {before members : List (String × Value)} {s rest : List Char}
    (earlier : ∀ member ∈ before, P member.2)
    (read : readMembers (readMember value) fuel first before s = .ok (members, rest)) :
    ∀ member ∈ members, P member.2 := by
  induction fuel generalizing first before s with
  | zero => cases read
  | succ fuel ih =>
    obtain ⟨next, _, read⟩ := ok_of_bind read
    cases next with
    | closed rest =>
      cases read
      exact earlier
    | more s =>
      obtain ⟨⟨key, behind⟩, _, read⟩ := ok_of_bind read
      obtain ⟨⟨state, behind⟩, one, read⟩ := ok_of_bind read
      obtain ⟨colon, _, one⟩ := ok_of_bind one
      obtain ⟨⟨found, after⟩, got, done⟩ := ok_of_bind one
      cases done
      refine ih (fun member mem => ?_) read
      rcases List.mem_append.mp mem with old | new
      · exact earlier member old
      · rw [List.mem_singleton.mp new]
        exact each _ _ _ got

/-- An integer that is read fits. -/
theorem fits_of_read {depth : Nat} {s rest : List Char} {value : Value}
    (read : Value.read depth s = .ok (value, rest)) (n : Int)
    (number : value = .number (.integer n)) : Fits64 n := by
  subst number
  obtain ⟨_, array⟩ | ⟨_, _, _, _, object, _⟩ | scalar := read_cases read
  · cases array
  · cases object
  · cases scalar with
    | integer _ fits => exact fits

/-- A value becomes an integer in canonical form only when it was that integer. -/
theorem canonical_eq_integer {value : Value} {n : Int}
    (same : value.canonical = .number (.integer n)) : value = .number (.integer n) := by
  cases value with
  | number number => rwa [canonical] at same
  | null | boolean | string | array | object => rw [canonical] at same; cases same

theorem fits_of_parse {text : String} {members : List (String × Value)} {key : String} {n : Int}
    (parsed : Value.parse text = .ok (.object members))
    (found : members.lookup key = some (.number (.integer n))) : Fits64 n := by
  obtain ⟨⟨value, rest⟩, read, parsed⟩ := ok_of_bind parsed
  obtain ⟨_, _, parsed⟩ := ok_of_bind parsed
  have shown : value.canonical = .object members := Except.ok.inj parsed
  obtain ⟨written, rfl, rfl⟩ := canonical_eq_object shown
  obtain ⟨value, mem, same⟩ := written_of_lookup found
  obtain ⟨_, array⟩ | ⟨_, depth, s, fuel, object, inside⟩ | scalar := read_cases read
  · cases array
  · cases object
    exact readMembers_forall (fun _ _ _ => fits_of_read) (fun _ mem => by cases mem) inside _ mem
      n (canonical_eq_integer same.symm)
  · cases scalar

end Value

end ShaderIdentity.Json
