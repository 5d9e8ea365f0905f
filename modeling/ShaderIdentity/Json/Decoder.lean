import ShaderIdentity.Json.Skip

/-! Forms that JSON values are asked to have. A form is decoded in two ways: from a value, and
straight from a text without building the value. -/
namespace ShaderIdentity.Json

structure Decoder (α : Type) where
  ofValue : Value → Except Mismatch α
  read : List Char → Except Failure (α × List Char)

/-- Why the value that begins at `s` does not have the form. It is read far enough to be told. -/
def complain (form : String) (s : List Char) : Failure :=
  let found : Except Failure (Found × List Char) :=
    match s with
    | '[' :: rest => .ok (.sequence, rest)
    | '{' :: rest => .ok (.map, rest)
    | s => do
      let (value, rest) ← Value.readScalar s
      return (value.found, rest)
  match found with
  | .ok (found, rest) => .afterRead (.mismatch (.wrongType found form)) rest
  | .error failure => failure

def liftMismatch {α : Type} (rest : List Char) : Except Mismatch α → Except Failure (α × List Char)
  | .ok a => .ok (a, rest)
  | .error cause => .error (.afterRead (.mismatch cause) rest)

namespace Decoder

variable {α β : Type}

def map (f : α → β) (decoder : Decoder α) : Decoder β where
  ofValue value := f <$> decoder.ofValue value
  read s := do
    let (a, rest) ← decoder.read s
    return (f a, rest)

def boolean : Decoder Bool where
  ofValue
    | .boolean b => .ok b
    | value => .error (.wrongType value.found "a boolean")
  read s :=
    match skipBlanks s with
    | [] => .error (.atNext .eofValue [])
    | 't' :: rest => do return (true, ← expectWord ['r', 'u', 'e'] rest)
    | 'f' :: rest => do return (false, ← expectWord ['a', 'l', 's', 'e'] rest)
    | rest => .error (complain "a boolean" rest)

/-- A whole number below the bound. A float is none, even when its value is whole. -/
def wholeNumber (bound : Nat) (form : String) : Number → Except Mismatch Nat
  | .integer n =>
    if 0 ≤ n ∧ n < bound then .ok n.toNat else .error (.outOfRange n form)
  | .float x => .error (.wrongType (.number (.float x)) form)

def whole (bound : Nat) (form : String) : Decoder Nat where
  ofValue
    | .number n => wholeNumber bound form n
    | value => .error (.wrongType value.found form)
  read s :=
    match skipBlanks s with
    | [] => .error (.atNext .eofValue [])
    | c :: rest =>
      if startsNumber c then do
        let (n, rest) ← readNumber (c :: rest)
        liftMismatch rest (wholeNumber bound form n)
      else .error (complain form (c :: rest))

def word32 : Decoder UInt32 :=
  (whole UInt32.size "u32").map UInt32.ofNat

def string (form : String) : Decoder String where
  ofValue
    | .string s => .ok s
    | value => .error (.wrongType value.found form)
  read s :=
    match skipBlanks s with
    | [] => .error (.atNext .eofValue [])
    | '"' :: rest => readString rest
    | rest => .error (complain form rest)

def sequence (item : Decoder α) : Decoder (List α) where
  ofValue
    | .array items => items.mapM item.ofValue
    | value => .error (.wrongType value.found "a sequence")
  read s :=
    match skipBlanks s with
    | [] => .error (.atNext .eofValue [])
    | '[' :: rest => readItems item.read (rest.length + 1) true rest
    | rest => .error (complain "a sequence" rest)

/-- A part of a record: decoding it fills it in. -/
structure RecordField (σ : Type) where
  name : String
  ofValue : σ → Value → Except Mismatch σ
  read : σ → List Char → Except Failure (σ × List Char)

def field {σ : Type} (name : String) (decoder : Decoder α) (fill : σ → α → σ) : RecordField σ where
  name
  ofValue record value := fill record <$> decoder.ofValue value
  read record s := do
    let (a, rest) ← decoder.read s
    return (fill record a, rest)

variable {σ : Type}

/-- Fills in the first fields from the items, in the order of both. -/
def fillItems : List (RecordField σ) → σ → List Value → Except Mismatch σ
  | field :: fields, record, item :: items => do
    fillItems fields (← field.ofValue record item) items
  | _, record, _ => .ok record

/-- Members that name no field are passed over. -/
def fillMember (fields : List (RecordField σ)) (record : σ) (member : String × Value) :
    Except Mismatch σ :=
  match fields.find? (fun field => field.name = member.1) with
  | some field => field.ofValue record member.2
  | none => .ok record

/-- Reads at most as many items as there are fields, and the closing bracket. -/
def readFields : List (RecordField σ) → Bool → σ → List Char → Except Failure (σ × List Char)
  | [], _, record, s => do return (record, ← closeArray s)
  | field :: fields, first, record, s => do
    match ← nextItem first s with
    | .closed rest => return (record, rest)
    | .more s =>
      let (record, rest) ← field.read record s
      readFields fields false record rest

/-- Continues behind a key. `seen` lists the fields that were named before. -/
def readMember (fields : List (RecordField σ)) : σ × List String → String → List Char →
    Except Failure ((σ × List String) × List Char)
  | (record, seen), key, s =>
    match fields.find? (fun field => field.name = key) with
    | some field => do
      if key ∈ seen then throw (.afterRead (.mismatch (.duplicate key)) s)
      let (record, rest) ← field.read record (← readColon s)
      return ((record, key :: seen), rest)
    | none => do return ((record, seen), ← skip (← readColon s))

/-- A record is an object with its fields as members, or an array of the first few fields in
order. What is not given stays as it is in `start`. -/
def record (form : String) (fields : List (RecordField σ)) (start : σ) : Decoder σ where
  ofValue
    | .array items => do
      let filled ← fillItems fields start items
      if items.length ≤ fields.length then return filled else throw (.tooLong items.length)
    | .object members => members.foldlM (fillMember fields) start
    | value => .error (.wrongType value.found form)
  read s :=
    match skipBlanks s with
    | [] => .error (.atNext .eofValue [])
    | '[' :: rest => readFields fields true start rest
    | '{' :: rest => do
      let ((filled, _), rest) ← readMembers (readMember fields) (rest.length + 1) true (start, []) rest
      return (filled, rest)
    | rest => .error (complain form rest)

/-- Decodes a text that holds one value of the form. -/
def parse (decoder : Decoder α) (text : String) : Except Failure α := do
  let (a, rest) ← decoder.read text.toList
  finish rest
  return a

end Decoder

end ShaderIdentity.Json
