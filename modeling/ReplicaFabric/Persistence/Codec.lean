import ReplicaFabric.Core.Capability
import ReplicaFabric.Core.Identity

/-!
# The fields of the snapshot format

The writer appends fields to a buffer; here a writer is the bytes it appends. The reader holds
the bytes it has not consumed, and fails with its error text. A reader whose `return false` sets
no text fails with the empty one.
-/

namespace ReplicaFabric

open ByteCodec

abbrev Reader := ByteCodec.Reader Str

namespace Writer

def u8 (v : UInt8) : Str := [v]

def u32 (v : UInt32) : Str := leSplit 4 v.toNat

def u64 (v : UInt64) : Str := leSplit 8 v.toNat

def i64 (v : Int64) : Str := u64 v.toUInt64

def f64 (v : Double) : Str := u64 v.bits

def boolean (v : Bool) : Str := u8 (if v then 1 else 0)

def size (n : Nat) : Str := u64 (UInt64.ofNat n)

def string (s : Str) : Str := size s.length ++ s

def list {α : Type} (item : α → Str) (xs : List α) : Str := size xs.length ++ xs.flatMap item

def strings (v : List Str) : Str := list string v

end Writer

def writeId {tag : IdTag} (id : Id tag) : Str := id.toBytes

def writeEnum {E : Type} [DecidableEq E] [EnumTable E] (e : E) : Str := Writer.u8 (enumByte e)

def writeCc (c : ComputeCapability) : Str :=
  [Writer.u32 c.major.toUInt32, Writer.u32 c.minor.toUInt32].flatten

namespace Reader

def fail {α : Type} (msg : Str) : Reader α := throw msg

def u8 : Reader UInt8 := do
  let b ← take 1 (ascii "u8 truncation")
  return b.headD 0

def u32 : Reader UInt32 := do
  let b ← take 4 (ascii "u32 truncation")
  return UInt32.ofNat (leJoin b)

def u64 : Reader UInt64 := do
  let b ← take 8 (ascii "u64 truncation")
  return UInt64.ofNat (leJoin b)

def i64 : Reader Int64 := do
  let u ← u64
  return u.toInt64

def f64 : Reader Double := do
  let bits ← u64
  let d : Double := ⟨bits⟩
  if d.isNan || d.isInf then fail "NaN/Inf double" else return d

def boolean : Reader Bool := do
  let b ← u8
  if b > 1 then fail "invalid boolean" else return b == 1

def bytes (n : Nat) : Reader Str := take n (ascii "byte range overflow")

def size : Reader Nat := do
  let n ← u64
  return n.toNat

def string : Reader Str := do
  let n ← size
  take n (ascii "string length overflow")

def list {α : Type} (tooMany : Str) (item : Reader α) : Reader (List α) := listOf size tooMany item

def strings : Reader (List Str) := list "string vector count" string

end Reader

def readId {tag : IdTag} : Reader (Id tag) := do
  let b ← Reader.bytes 16
  return .fromBytes b

def readEnum {E : Type} [DecidableEq E] [EnumTable E] : Reader E := do
  let b ← Reader.u8
  match enumFromInt E b.toNat with
  | some e => return e
  | none => Reader.fail []

def readCc : Reader ComputeCapability := do
  let a ← Reader.u32
  let b ← Reader.u32
  return { major := a.toInt32, minor := b.toInt32 }

/-- Everything written stays below the limit of `std::size_t`. -/
def sizeLimit : Nat := 2 ^ 64

abbrev Reads {α : Type} (rd : Reader α) (w : Str) (x : α) (valid : Prop) : Prop :=
  ByteCodec.Reads sizeLimit rd w x valid

theorem reads_u8 (v : UInt8) : Reads Reader.u8 (Writer.u8 v) v True :=
  (ByteCodec.Reads.take _ rfl).map rfl

theorem reads_u32 (v : UInt32) : Reads Reader.u32 (Writer.u32 v) v True := by
  refine (ByteCodec.Reads.take _ (length_leSplit 4 v.toNat)).map ?_
  rw [leJoin_leSplit]
  exact UInt32.toNat_inj.mp (by simp)

theorem reads_u64 (v : UInt64) : Reads Reader.u64 (Writer.u64 v) v True := by
  refine (ByteCodec.Reads.take _ (length_leSplit 8 v.toNat)).map ?_
  rw [leJoin_leSplit]
  exact UInt64.toNat_inj.mp (by simp)

theorem reads_i64 (v : Int64) : Reads Reader.i64 (Writer.i64 v) v True :=
  (reads_u64 v.toUInt64).map (by simp)

theorem reads_f64 (v : Double) : Reads Reader.f64 (Writer.f64 v) v v.Finite := by
  refine (reads_u64 v.bits).check (fun finite => ?_) fun special => ⟨ascii "NaN/Inf double", ?_⟩
  · exact if_neg finite
  · exact if_pos (not_not.mp special)

theorem reads_boolean (v : Bool) : Reads Reader.boolean (Writer.boolean v) v True := by
  refine (reads_u8 (if v then 1 else 0)).check (fun _ => ?_) fun contra => absurd trivial contra
  cases v <;> rfl

theorem reads_id {tag : IdTag} (id : Id tag) : Reads readId (writeId id) id True :=
  (ByteCodec.Reads.take _ id.length_toBytes).map id.fromBytes_toBytes

theorem reads_enum {E : Type} [DecidableEq E] [EnumTable E] (e : E) :
    Reads readEnum (writeEnum e) e True := by
  refine (reads_u8 (enumByte e)).check (fun _ => ?_) fun contra => absurd trivial contra
  rw [enumFromInt_enumByte]

theorem reads_size {n : Nat} (small : n < sizeLimit) :
    Reads Reader.size (Writer.size n) n True := by
  refine (reads_u64 (UInt64.ofNat n)).map ?_
  exact UInt64.toNat_ofNat_of_lt' small

theorem reads_string (s : Str) : Reads Reader.string (Writer.string s) s True := by
  refine .of_fits fun fits => ?_
  rw [Writer.string, List.length_append] at fits
  exact ((reads_size (by omega)).bind (ByteCodec.Reads.take _ rfl)).congr (and_self_iff)

theorem reads_cc (c : ComputeCapability) : Reads readCc (writeCc c) c True :=
  (reads_u32 c.major.toUInt32).field <| (reads_u32 c.minor.toUInt32).field <| .pure c

theorem reads_list {α : Type} {tooMany : Str} {item : Reader α} {write : α → Str} {xs : List α}
    {ok : α → Prop} (items : ∀ x ∈ xs, Reads item (write x) x (ok x))
    (nonempty : ∀ x, write x ≠ []) :
    Reads (Reader.list tooMany item) (Writer.list write xs) xs (∀ x ∈ xs, ok x) := by
  refine .of_fits fun fits => ?_
  have count : xs.length ≤ (xs.flatMap write).length :=
    ByteCodec.Reads.length_le_flatMap fun x _ => nonempty x
  rw [Writer.list, List.length_append] at fits
  exact (ByteCodec.Reads.listOf (reads_size (by omega)) items fun x _ => nonempty x).congr
    (and_iff_right trivial)

theorem reads_items {α : Type} {tooMany : Str} {item : Reader α} {write : α → Str} {xs : List α}
    (items : ∀ x, Reads item (write x) x True) (nonempty : ∀ x, write x ≠ []) :
    Reads (Reader.list tooMany item) (Writer.list write xs) xs True :=
  (reads_list (fun x _ => items x) nonempty).congr (by simp)

end ReplicaFabric
