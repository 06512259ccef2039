import Mathlib.Algebra.Group.Nat.Defs
import Mathlib.Tactic.Common

namespace ReplicaFabric

/-- `std::string`: any sequence of bytes. -/
abbrev Str := List UInt8

def ascii (literal : String) : Str := literal.toList.map fun c => UInt8.ofNat c.toNat

instance : Coe String Str := ⟨ascii⟩

/-- `std::vector<std::uint8_t>`: no vector is longer than a difference of its iterators can say. -/
structure ByteVector where
  bytes : Str
  fits : bytes.length < 2 ^ 63

inductive Exception
  | invalidArgument
  | outOfRange
  | identityParseError (what : Str)
  deriving DecidableEq, Repr

@[simp] theorem isOk_ok {ε α : Type} (v : α) : (.ok v : Except ε α).isOk = true := rfl

@[simp] theorem isOk_error {ε α : Type} (e : ε) : (.error e : Except ε α).isOk = false := rfl

abbrev MonotonicNs := UInt64

abbrev WallNs := Int64

/-- `double`, as the 64 bits that `std::memcpy` moves in and out of it. -/
structure Double where
  bits : UInt64
  deriving DecidableEq, Repr

namespace Double

def exponent (d : Double) : UInt64 := (d.bits >>> 52) &&& 0x7FF

def mantissa (d : Double) : UInt64 := d.bits &&& 0xFFFFFFFFFFFFF

def isNan (d : Double) : Bool := d.exponent == 0x7FF && d.mantissa != 0

def isInf (d : Double) : Bool := d.exponent == 0x7FF && d.mantissa == 0

def Finite (d : Double) : Prop := ¬(d.isNan || d.isInf)

instance (d : Double) : Decidable d.Finite := inferInstanceAs (Decidable (¬ _))

end Double

end ReplicaFabric
