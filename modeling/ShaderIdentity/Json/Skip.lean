import ShaderIdentity.Json.Reader

/-! Values that are passed over without being built. They may be nested without limit, their
numbers are not worked out, and some faults are named otherwise than where a value is read. -/
namespace ShaderIdentity.Json

mutual

/-- Passes over a value. A bracket and the first part inside it, or a comma and the part behind
it, take two steps, so a fuel of twice the length of the text lasts. -/
def skipValue : Nat → List Char → Except Failure (List Char)
  | 0, s => .error (.atNext .eofValue s)
  | fuel + 1, s =>
    match skipBlanks s with
    | [] => .error (.atNext .eofValue [])
    | 'n' :: rest => expectWord ['u', 'l', 'l'] rest
    | 't' :: rest => expectWord ['r', 'u', 'e'] rest
    | 'f' :: rest => expectWord ['a', 'l', 's', 'e'] rest
    | '"' :: rest => skipChars 0 rest
    | '[' :: rest => skipItems fuel true rest
    | '{' :: rest => skipMembers fuel true rest
    | c :: rest =>
      if startsNumber c then skipNumber (c :: rest)
      else .error (.atNext .expectedValue (c :: rest))

/-- Passes over the items of an array and its closing bracket. A comma must be followed by a
value. -/
def skipItems : Nat → Bool → List Char → Except Failure (List Char)
  | 0, _, s => .error (.atNext .eofList s)
  | fuel + 1, first, s =>
    match skipBlanks s with
    | [] => .error (.atNext .eofList [])
    | ']' :: rest => .ok rest
    | c :: rest =>
      if first then do skipItems fuel false (← skipValue fuel (c :: rest))
      else if c = ',' then do skipItems fuel false (← skipValue fuel rest)
      else .error (.atNext .expectedListCommaOrEnd (c :: rest))

/-- Passes over the members of an object and its closing bracket. -/
def skipMembers : Nat → Bool → List Char → Except Failure (List Char)
  | 0, _, s => .error (.atNext .eofObject s)
  | fuel + 1, first, s =>
    match skipBlanks s with
    | [] => .error (.atNext .eofObject [])
    | '}' :: rest => .ok rest
    | c :: rest =>
      if first then do skipMembers fuel false (← skipMember fuel (c :: rest))
      else if c = ',' then do skipMembers fuel false (← skipMember fuel rest)
      else .error (.atNext .expectedObjectCommaOrEnd (c :: rest))

/-- Passes over a key, a colon and a value. -/
def skipMember : Nat → List Char → Except Failure (List Char)
  | 0, s => .error (.atNext .eofObject s)
  | fuel + 1, s =>
    match skipBlanks s with
    | [] => .error (.atNext .eofObject [])
    | '"' :: rest => do skipValue fuel (← readColon (← skipChars 0 rest))
    | rest => .error (.atNext .keyNotString rest)

end

/-- Passes over the value at the start of a text. -/
def skip (s : List Char) : Except Failure (List Char) :=
  skipValue (2 * s.length + 1) s

end ShaderIdentity.Json
