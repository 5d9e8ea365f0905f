import ShaderIdentity.Json.Failure

/-! Numbers read from JSON texts: the characters of a number and what they stand for. -/
namespace ShaderIdentity.Json

/-- A number as it is written: digits only in `whole`, `fraction` and the exponent. -/
structure Numeral where
  negative : Bool
  whole : List Char
  fraction : Option (List Char)
  exponent : Option (Bool × List Char)

namespace Numeral

/-- The digits before the point. A zero stands alone. `ended` is the fault of a text that ends
where a digit is due. -/
def readWhole (ended : Fault) : List Char → Except Failure (List Char × List Char)
  | [] => .error (.atNext ended [])
  | '0' :: rest =>
    if (rest.head?.map Char.isDigit).getD false then .error (.atNext .invalidNumber rest)
    else .ok (['0'], rest)
  | c :: rest =>
    if c.isDigit then .ok ((c :: rest).takeWhile Char.isDigit, (c :: rest).dropWhile Char.isDigit)
    else .error (.atNext .invalidNumber (c :: rest))

/-- One digit or more. -/
def readDigits (ended : Fault) (s : List Char) : Except Failure (List Char × List Char) :=
  match s with
  | [] => .error (.atNext ended [])
  | c :: _ =>
    if c.isDigit then .ok (s.takeWhile Char.isDigit, s.dropWhile Char.isDigit)
    else .error (.atNext .invalidNumber s)

def readFraction (ended : Fault) :
    List Char → Except Failure (Option (List Char) × List Char)
  | '.' :: rest => do
    let (digits, rest) ← readDigits ended rest
    return (some digits, rest)
  | s => .ok (none, s)

/-- The sign of an exponent; it is negative only after a minus. -/
def readSign : List Char → Bool × List Char
  | '+' :: rest => (false, rest)
  | '-' :: rest => (true, rest)
  | s => (false, s)

def readExponent (ended : Fault) (s : List Char) :
    Except Failure (Option (Bool × List Char) × List Char) :=
  match s with
  | c :: rest =>
    if c = 'e' ∨ c = 'E' then do
      let (negative, rest) := readSign rest
      let (digits, rest) ← readDigits ended rest
      return (some (negative, digits), rest)
    else .ok (none, s)
  | [] => .ok (none, [])

/-- The number at the start of `s`, which begins with a minus or a digit. -/
def read (ended : Fault) (s : List Char) : Except Failure (Numeral × List Char) := do
  let (negative, s) := match s with
    | '-' :: rest => (true, rest)
    | s => (false, s)
  let (whole, s) ← readWhole ended s
  let (fraction, s) ← readFraction ended s
  let (exponent, s) ← readExponent ended s
  return (⟨negative, whole, fraction, exponent⟩, s)

/-- Digits are collected while the number they make fits 64 bits; the others are left over. -/
def collect (sofar : Nat) : List Char → Nat × List Char
  | [] => (sofar, [])
  | c :: rest =>
    let next := 10 * sofar + (c.toNat - '0'.toNat)
    if next < UInt64.size then collect next rest else (sofar, c :: rest)

/-- Exponents from here on are too large to be worked out. -/
def exponentBound : Nat := 0x80000000

/-- The digits behind the one that takes an exponent to its bound. -/
def behindBound (sofar : Nat) : List Char → Option (List Char)
  | [] => none
  | c :: rest =>
    let next := 10 * sofar + (c.toNat - '0'.toNat)
    if exponentBound ≤ next then some rest else behindBound next rest

/-- What a numeral with a point, an exponent or too many digits stands for. `rest` is the text
behind it, which says where the numeral is out of range. -/
def float (numeral : Numeral) (rest : List Char) : Except Failure Binary64 :=
  let (whole, unused) := collect 0 numeral.whole
  let fraction := numeral.fraction.getD []
  let (digits, dropped) := collect whole fraction
  let power : Int := unused.length - (fraction.length - dropped.length : Nat)
  let (down, exponent) := numeral.exponent.getD (false, [])
  let signed (x : Binary64) : Binary64 := { x with negative := numeral.negative }
  match behindBound 0 exponent with
  | some behind =>
    if digits ≠ 0 ∧ !down then .error (.afterRead .numberOutOfRange (behind ++ rest))
    else .ok (signed .zero)
  | none =>
    let exponent : Int := Nat.ofDigitChars 10 exponent 0
    match Binary64.ofDecimal? digits (if down then power - exponent else power + exponent) with
    | some x => .ok (signed x)
    | none => .error (.afterRead .numberOutOfRange rest)

/-- An integer with a minus fits 64 bits up to this one. -/
def greatestNegated : Nat := 0x8000000000000000

/-- What a numeral stands for: an integer when it is written as one and fits 64 bits, with or
without a sign; a minus before zero makes a float. -/
def number (numeral : Numeral) (rest : List Char) : Except Failure Number :=
  let whole := Nat.ofDigitChars 10 numeral.whole 0
  if numeral.fraction.isNone && numeral.exponent.isNone then
    if !numeral.negative && whole < UInt64.size then .ok (.integer whole)
    else if numeral.negative && whole ≠ 0 && whole ≤ greatestNegated then .ok (.integer (-whole))
    else .float <$> numeral.float rest
  else .float <$> numeral.float rest

end Numeral

/-- Reads a number, which begins with a minus or a digit. -/
def readNumber (s : List Char) : Except Failure (Number × List Char) := do
  let (numeral, rest) ← Numeral.read .eofValue s
  let number ← numeral.number rest
  return (number, rest)

/-- Passes over a number whatever it stands for. A text that ends in it is faulted like any other
character that is no digit. -/
def skipNumber (s : List Char) : Except Failure (List Char) := do
  let (_, rest) ← Numeral.read .invalidNumber s
  return rest

end ShaderIdentity.Json
