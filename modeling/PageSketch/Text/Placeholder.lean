/-! Stable numbers for placeholder pictures. -/
namespace PageSketch.Text

/-- One step of the 64-bit FNV-1a hash. -/
def hashByte (hash : UInt64) (byte : UInt8) : UInt64 :=
  (hash ^^^ byte.toUInt64) * 0x100000001b3

/-- The eight bytes of a number, the lowest first. -/
def littleEndian (value : UInt64) : List UInt8 :=
  (List.range 8).map fun place => (value >>> (8 * place).toUInt64).toUInt8

/-- A number from 1 to `bound` that depends on the name and the position only. -/
def placeholderNumber (name : String) (index bound : Nat) : Nat :=
  let bytes := name.toUTF8.toList ++ littleEndian index.toUInt64
  (bytes.foldl hashByte 0xcbf29ce484222325).toNat % max bound 1 + 1

/-- The address of a placeholder picture. -/
def placeholderImage (name : String) (index width height : Nat) : String :=
  s!"https://picsum.photos/{width}/{height}?random={placeholderNumber name index 1000}"

end PageSketch.Text
