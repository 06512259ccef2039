import ReplicaFabric.Core.Identity

/-!
# Numbers in text

`std::stoul` and `std::stoull`, with the widths of a platform whose `unsigned long` has 32 bits.
-/

namespace ReplicaFabric

namespace Numeral

def isSpace (c : UInt8) : Bool := c = 0x20 || (0x09 ≤ c && c ≤ 0x0D)

def isDigit (base : Nat) (c : UInt8) : Bool :=
  match hexDigit c with
  | none => false
  | some d => d < base

def sign : Str → Bool × Str
  | 0x2D :: rest => (true, rest)
  | 0x2B :: rest => (false, rest)
  | s => (false, s)

/-- In base 16 a `0x` in front of a digit is skipped. -/
def afterPrefix (base : Nat) : Str → Str
  | 0x30 :: x :: c :: rest =>
      if base = 16 && (x = 0x78 || x = 0x58) && isDigit 16 c then c :: rest
      else 0x30 :: x :: c :: rest
  | s => s

def valueOf (base : Nat) (digits : Str) : Nat :=
  digits.foldl (fun v c => v * base + (hexDigit c).getD 0) 0

/-- The longest numeral at the start of a string, as an unsigned integer of `bits` bits. What
follows the numeral is ignored; a minus negates modulo `2 ^ bits`. -/
def parse (bits base : Nat) (s : Str) : Except Exception Nat :=
  let (negative, s) := sign (s.dropWhile isSpace)
  let digits := (afterPrefix base s).takeWhile (isDigit base)
  if digits = [] then .error .invalidArgument
  else
    let v := valueOf base digits
    if v ≥ 2 ^ bits then .error .outOfRange
    else .ok (if negative then (2 ^ bits - v) % 2 ^ bits else v)

end Numeral

/-- `std::stoul`, cast to `std::uint32_t`. -/
def stoul (base : Nat) (s : Str) : Except Exception UInt32 :=
  (Numeral.parse 32 base s).map UInt32.ofNat

def stoull (base : Nat) (s : Str) : Except Exception UInt64 :=
  (Numeral.parse 64 base s).map UInt64.ofNat

end ReplicaFabric
