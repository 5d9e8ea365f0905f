/-! The reflected CRC-32 with polynomial `0xEDB88320`: once from a table with one step for each
byte, and once from its definition with one step for each bit. -/
namespace ShaderIdentity.Checksum

def polynomial : UInt32 := 0xEDB88320

/-- Shifts the lowest bit out; a set bit brings the polynomial in. -/
def shiftOut (register : UInt32) : UInt32 :=
  if register &&& 1 = 1 then polynomial ^^^ (register >>> 1) else register >>> 1

/-- Eight shifts. -/
def shiftByte (register : UInt32) : UInt32 :=
  (List.range 8).foldl (fun shifted _ => shiftOut shifted) register

/-- Where eight shifts take each byte. -/
def table : Vector UInt32 256 :=
  Vector.ofFn fun i => shiftByte (UInt32.ofNat i)

def absorb (register : UInt32) (byte : UInt8) : UInt32 :=
  table.get (register.toUInt8 ^^^ byte).toFin ^^^ (register >>> 8)

def crc32 (bytes : List UInt8) : UInt32 :=
  ~~~ bytes.foldl absorb 0xFFFFFFFF

/-- One bit of the message: the polynomial comes in when it differs from the bit shifted out. -/
def absorbBit (register : UInt32) (bit : Bool) : UInt32 :=
  if (register &&& 1 = 1) ≠ (bit = true) then (register >>> 1) ^^^ polynomial else register >>> 1

/-- The bits of a byte, least significant first. -/
def bits (byte : UInt8) : List Bool :=
  (List.range 8).map byte.toNat.testBit

/-- The checksum as it is defined, one message bit after the other. -/
def bitwise (bytes : List UInt8) : UInt32 :=
  ~~~ (bytes.flatMap bits).foldl absorbBit 0xFFFFFFFF

end ShaderIdentity.Checksum
