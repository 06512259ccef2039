import ReplicaFabric.Core.Basic
import ReplicaFabric.Library.ByteCodec
import ReplicaFabric.Library.Table

namespace ReplicaFabric

inductive IdTag
  | replica | replicaSet | model | artifact | tenant | workload | node | worker | workerBoot
  | placement | promotion | drain | failover | attempt | coordinatorEpoch | replicaGeneration
  | replicaSetGeneration | artifactGeneration | healthGeneration | policyGeneration
  deriving DecidableEq, Repr

structure Id (tag : IdTag) where
  hi : UInt64 := 0
  lo : UInt64 := 0
  deriving DecidableEq, Repr, Inhabited

abbrev ReplicaId := Id .replica
abbrev ReplicaSetId := Id .replicaSet
abbrev ModelId := Id .model
abbrev ArtifactId := Id .artifact
abbrev TenantId := Id .tenant
abbrev WorkloadId := Id .workload
abbrev NodeId := Id .node
abbrev WorkerId := Id .worker
abbrev WorkerBootId := Id .workerBoot
abbrev PlacementId := Id .placement
abbrev PromotionId := Id .promotion
abbrev DrainId := Id .drain
abbrev FailoverId := Id .failover
abbrev AttemptId := Id .attempt
abbrev CoordinatorEpoch := Id .coordinatorEpoch
abbrev ReplicaGeneration := Id .replicaGeneration
abbrev ReplicaSetGeneration := Id .replicaSetGeneration
abbrev ArtifactGeneration := Id .artifactGeneration
abbrev HealthGeneration := Id .healthGeneration
abbrev PolicyGeneration := Id .policyGeneration

def hexDigit (c : UInt8) : Option Nat :=
  if 0x30 ≤ c && c ≤ 0x39 then some (c - 0x30).toNat
  else if 0x61 ≤ c && c ≤ 0x66 then some ((c - 0x61).toNat + 10)
  else if 0x41 ≤ c && c ≤ 0x46 then some ((c - 0x41).toNat + 10)
  else none

def parseHex (s : Str) : Option UInt64 :=
  if s.length ≠ 16 then none
  else s.foldlM (fun v c => (hexDigit c).map fun d => (v <<< 4) ||| UInt64.ofNat d) 0

namespace Id

variable {tag : IdTag}

def null : Id tag := ⟨0, 0⟩

def isNull (id : Id tag) : Bool := id.hi == 0 && id.lo == 0

/-- `operator<`: the high half decides first. -/
instance : Ord (Id tag) := ⟨compareLex (compareOn Id.hi) (compareOn Id.lo)⟩

instance : Std.TransOrd (Id tag) :=
  inferInstanceAs (Std.TransCmp (compareLex (compareOn Id.hi) (compareOn Id.lo)))

instance : Std.LawfulEqOrd (Id tag) where
  eq_of_compare {a b} same := by
    have halves : compare a.hi b.hi = .eq ∧ compare a.lo b.lo = .eq := Ordering.then_eq_eq.mp same
    cases a
    cases b
    simpa using halves

instance : LT (Id tag) := ⟨fun a b => compare a b = .lt⟩

instance (a b : Id tag) : Decidable (a < b) := inferInstanceAs (Decidable (compare a b = .lt))

@[simp] theorem isNull_iff (id : Id tag) : id.isNull = true ↔ id = null := by
  cases id
  simp [isNull, null]

def writeHex (v : UInt64) : Str :=
  (List.range 16).map fun i =>
    (ascii "0123456789abcdef").getD ((v >>> UInt64.ofNat ((15 - i) * 4)) &&& 0xF).toNat 0

def str (id : Id tag) : Str := writeHex id.hi ++ writeHex id.lo

@[simp] theorem length_writeHex (v : UInt64) : (writeHex v).length = 16 := by simp [writeHex]

def nibble (v : UInt64) (k : Nat) : Nat := ((v >>> UInt64.ofNat (k * 4)) &&& 0xF).toNat

@[simp] theorem length_str (id : Id tag) : id.str.length = 32 := by simp [str]

/-- The loop of `from_string`, which drops every hyphen. -/
def clean : Str → Except Exception Str
  | [] => .ok []
  | c :: rest =>
      if c = 0x2D then clean rest
      else if (hexDigit c).isNone then
        .error (.identityParseError "invalid character in identity")
      else (clean rest).map (c :: ·)

def fromString (s : Str) : Except Exception (Id tag) := do
  let cleaned ← clean s
  if cleaned.length ≠ 32 then
    .error (.identityParseError "identity must contain 32 hex digits")
  else
    match parseHex (cleaned.take 16), parseHex (cleaned.drop 16) with
    | some hi, some lo => .ok ⟨hi, lo⟩
    | _, _ => .error (.identityParseError "identity parse failed")

/-- `out`, which a failure leaves as it is. -/
def tryParse (s : Str) : Option (Id tag) :=
  if s.length ≠ 32 then none
  else
    match parseHex (s.take 16), parseHex (s.drop 16) with
    | some hi, some lo => some ⟨hi, lo⟩
    | _, _ => none

def toBytes (id : Id tag) : Str :=
  ByteCodec.beSplit 8 id.hi.toNat ++ ByteCodec.beSplit 8 id.lo.toNat

def fromBytes (b : Str) : Id tag :=
  ⟨UInt64.ofNat (ByteCodec.beJoin (b.take 8)), UInt64.ofNat (ByteCodec.beJoin (b.drop 8))⟩

@[simp] theorem length_toBytes (id : Id tag) : id.toBytes.length = 16 := by
  simp [toBytes]

@[simp] theorem fromBytes_toBytes (id : Id tag) : fromBytes id.toBytes = id := by
  have half (v : UInt64) : UInt64.ofNat (ByteCodec.beJoin (ByteCodec.beSplit 8 v.toNat)) = v := by
    rw [ByteCodec.beJoin_beSplit]
    exact UInt64.toNat_inj.mp (by simp)
  have front : (ByteCodec.beSplit 8 id.hi.toNat).length = 8 := ByteCodec.length_beSplit ..
  simp only [fromBytes, toBytes, List.take_left' front, List.drop_left' front, half]

theorem toBytes_fromBytes {b : Str} (length : b.length = 16) :
    (fromBytes b : Id tag).toBytes = b := by
  have half {bs : Str} (eight : bs.length = 8) :
      ByteCodec.beSplit 8 (UInt64.ofNat (ByteCodec.beJoin bs)).toNat = bs := by
    have small := ByteCodec.beJoin_lt bs
    rw [eight] at small
    rw [UInt64.toNat_ofNat_of_lt' small, ← eight, ByteCodec.beSplit_beJoin]
  simp only [fromBytes, toBytes]
  rw [half (by simp [length]), half (by simp [length]), List.take_append_drop]

end Id

end ReplicaFabric
