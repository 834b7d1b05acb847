/-!
# Bits, bytes and checksums

How numbers are laid out in packed files. As bits the highest comes first, as bytes either end may.

For a checksum the bits of the data are the coefficients of a polynomial over the field of two
elements, the first bit the highest. The checksum is the remainder of the division by a fixed
polynomial of degree 32. Ones are put in front of the data and the remainder is complemented, so
that zeros at either end count. The formats differ in which bit of a byte is the first.
-/

namespace DeskCalc.Packing

/-- The lowest `width` bits of a number, the highest of them first. -/
def bits : Nat → Nat → List Bool
  | 0, _ => []
  | width + 1, n => n.testBit width :: bits width n

/-- The number with these bits, the highest first. -/
def valueOf (bits : List Bool) : Nat :=
  bits.foldl (fun n bit => 2 * n + bit.toNat) 0

/-- The bits of bytes. -/
def bitsOf (bytes : List UInt8) : List Bool :=
  bytes.flatMap fun b => bits 8 b.toNat

/-- Bits as bytes, zeros after the last bit. -/
def bytesOfBits : List Bool → List UInt8
  | a :: b :: c :: d :: e :: f :: g :: h :: rest =>
    .ofNat (valueOf [a, b, c, d, e, f, g, h]) :: bytesOfBits rest
  | [] => []
  | last => [.ofNat (valueOf (last ++ List.replicate (8 - last.length) false))]

/-- The lowest `width` bytes of a number, the lowest of them first. -/
def lowFirst : Nat → Nat → List UInt8
  | 0, _ => []
  | width + 1, n => .ofNat n :: lowFirst width (n / 256)

/-- The lowest `width` bytes of a number, the highest of them first. -/
def highFirst (width n : Nat) : List UInt8 := (lowFirst width n).reverse

/-- As many zero bytes as take `size` to a multiple of `unit`. -/
def padding (unit size : Nat) : List UInt8 :=
  List.replicate ((unit - size % unit) % unit) 0

/-- Bytes followed by zeros, up to a multiple of `unit`. -/
def padded (unit : Nat) (bytes : List UInt8) : List UInt8 :=
  bytes ++ padding unit bytes.length

/-- Bytes in pieces of `size`, the last of them the rest. -/
def pieces (size : Nat) (bytes : List UInt8) : List (List UInt8) :=
  (List.range ((bytes.length + size - 1) / size)).map fun k => (bytes.drop (k * size)).take size

/-! ## Checksums -/

/-- The divisor, without its highest coefficient. -/
def divisor : UInt32 := 0x04C11DB7

/-- The remainder after one more bit. -/
def divide (remainder : UInt32) (bit : Bool) : UInt32 :=
  let shifted := remainder <<< 1
  if (remainder >>> 31 == 1) != bit then shifted ^^^ divisor else shifted

/-- The checksum of bits. -/
def checksumOfBits (bits : List Bool) : UInt32 :=
  ~~~(bits.foldl divide 0xFFFFFFFF)

/-- The checksum of bytes whose highest bit is the first. -/
def checksumHighFirst (bytes : List UInt8) : UInt32 :=
  checksumOfBits (bitsOf bytes)

/-- The checksum of bytes whose lowest bit is the first. Its own bits are in that order too. -/
def checksumLowFirst (bytes : List UInt8) : UInt32 :=
  let remainder := checksumOfBits (bytes.flatMap fun b => (bits 8 b.toNat).reverse)
  .ofNat (valueOf (bits 32 remainder.toNat).reverse)

end DeskCalc.Packing
