/-!
# Primitive managed types

The numeric types of the generated language. Each has a fixed width, and a native integer or
floating-point type is one of them exactly when its width is.
-/

namespace Interop

/-- A numeric type of the generated language. -/
inductive Primitive where
  | sByte
  | byte
  | short
  | uShort
  | int
  | uInt
  | long
  | uLong
  | float
  | double
deriving DecidableEq, Inhabited

namespace Primitive

/-- The integer type of exactly so many bits. -/
def integer? (bits : UInt32) (signed : Bool) : Option Primitive :=
  match bits.toNat, signed with
  | 8, true => some .sByte
  | 8, false => some .byte
  | 16, true => some .short
  | 16, false => some .uShort
  | 32, true => some .int
  | 32, false => some .uInt
  | 64, true => some .long
  | 64, false => some .uLong
  | _, _ => none

/-- The floating-point type of exactly so many bits. -/
def floating? (bits : UInt32) : Option Primitive :=
  match bits.toNat with
  | 32 => some .float
  | 64 => some .double
  | _ => none

/-- The type of a character. -/
def character (signed : Bool) : Primitive :=
  if signed then .sByte else .byte

/-- The word for a type in source. -/
def keyword : Primitive → String
  | .sByte => "sbyte"
  | .byte => "byte"
  | .short => "short"
  | .uShort => "ushort"
  | .int => "int"
  | .uInt => "uint"
  | .long => "long"
  | .uLong => "ulong"
  | .float => "float"
  | .double => "double"

/-- The number of bits of a type. -/
def width : Primitive → Nat
  | .sByte | .byte => 8
  | .short | .uShort => 16
  | .int | .uInt | .float => 32
  | .long | .uLong | .double => 64

/-- Whether a type holds natural numbers only. -/
def isUnsigned : Primitive → Bool
  | .byte | .uShort | .uInt | .uLong => true
  | _ => false

/-- Whether a type holds integers only. -/
def isInteger : Primitive → Bool
  | .float | .double => false
  | _ => true

/-- The integer that a 64-bit pattern denotes in an integer type: modulo the width when the type
is unsigned, as it is otherwise. -/
def literalValue (type : Primitive) (value : Int64) : Int :=
  if type.isUnsigned then value.toInt % Nat.pow 2 type.width else value.toInt

end Primitive

end Interop
