import ReplicaFabric.Library.Walk
import ReplicaFabric.Persistence.Canonical

/-!
# The snapshot reader by index

The class `Reader` keeps a pointer, a length and a position. Each of its members here is a walk with
the proof that it refines the member of the same name over lists; the records follow, field by
field, and with them the body of a file.
-/

namespace ReplicaFabric.Indexed

open ByteCodec

/-- `pos_ + 1 > len_` -/
def u8 : Walk.For 1 Reader.u8 := .first (.word _ (by decide)) fun _ => .pure _

/-- `pos_ + 4 > len_` -/
def u32 : Walk.For 1 Reader.u32 :=
  .weaken (.first (.word _ (by decide)) fun _ => .pure _) (by decide : 1 ≤ 4)

/-- `pos_ + 8 > len_` -/
def u64 : Walk.For 1 Reader.u64 :=
  .weaken (.first (.word _ (by decide)) fun _ => .pure _) (by decide : 1 ≤ 8)

def i64 : Walk.For 1 Reader.i64 := .first u64 fun _ => .pure _

def f64 : Walk.For 1 Reader.f64 := .first u64 fun _ => .cond (.fail _) (.pure _)

def boolean : Walk.For 1 Reader.boolean := .first u8 fun _ => .cond (.fail _) (.pure _)

/-- `n > len_ - pos_` -/
def bytes (n : Nat) : Walk.For n (Reader.bytes n) := .chunk n _

def size : Walk.ForCount 1 Reader.size := ⟨u64.walk, u64.refines.bind fun n => .pure n.toNat⟩

/-- `n > len_ - pos_` -/
def string : Walk.For 1 Reader.string where
  walk := do
    let n ← u64.walk
    Walk.chunk n.toNat (ascii "string length overflow")
  refines := size.refines.bind_map fun n => (Walk.Refines.chunk n.toNat _).mono (Nat.zero_le _)

def list {α : Type} {tooMany : Str} {item : Reader α} (items : Walk.For 1 item) :
    Walk.For 1 (Reader.list tooMany item) :=
  .listOf size items

def strings : Walk.For 1 Reader.strings := list string

def id {tag : IdTag} : Walk.For 1 (readId : Reader (Id tag)) :=
  .weaken (.first (bytes 16) fun _ => .pure _) (by decide : 1 ≤ 16)

def enum {E : Type} [DecidableEq E] [EnumTable E] : Walk.For 1 (readEnum : Reader E) :=
  .first u8 fun b =>
    match enumFromInt E b.toNat with
    | some e => .pure e
    | none => .fail []

def cc : Walk.For 1 readCc := .first u32 fun _ => .field u32 fun _ => .pure _

def device : Walk.For 1 readDevice :=
  .first enum fun _ => .field string fun _ => .field cc fun _ => .field u64 fun _ => .pure _

def backend : Walk.For 1 readBackend :=
  .first enum fun _ => .field string fun _ => .field cc fun _ => .field enum fun _ => .pure _

def inventory : Walk.For 1 readInventory :=
  .first u64 fun _ => .field u64 fun _ => .field u32 fun _ => .field (list device) fun _ =>
    .field (list backend) fun _ => .pure _

def worker : Walk.For 1 readWorker :=
  .first id fun _ => .field id fun _ => .field id fun _ => .field inventory fun _ =>
    .field id fun _ => .field u32 fun _ => .pure _

def healthPolicy : Walk.For 1 readHealthPolicy :=
  .first boolean fun _ => .field u64 fun _ => .field u64 fun _ => .field u64 fun _ =>
    .field u32 fun _ => .field u32 fun _ => .field u32 fun _ => .field f64 fun _ =>
    .field enum fun _ => .pure _

def warmingPolicy : Walk.For 1 readWarmingPolicy :=
  .first boolean fun _ => .field boolean fun _ => .field boolean fun _ => .field boolean fun _ =>
    .field boolean fun _ => .field boolean fun _ => .field boolean fun _ =>
    .field boolean fun _ => .field boolean fun _ => .field boolean fun _ => .field u64 fun _ =>
    .field u64 fun _ => .pure _

def drainingPolicy : Walk.For 1 readDrainingPolicy :=
  .first boolean fun _ => .field boolean fun _ => .field boolean fun _ => .field u64 fun _ =>
    .field u64 fun _ => .pure _

def promotionPolicy : Walk.For 1 readPromotionPolicy :=
  .first boolean fun _ => .field boolean fun _ => .field enum fun _ => .field boolean fun _ =>
    .field boolean fun _ => .field boolean fun _ => .field boolean fun _ =>
    .field boolean fun _ => .field boolean fun _ => .pure _

def failoverPolicy : Walk.For 1 readFailoverPolicy :=
  .first boolean fun _ => .field boolean fun _ => .field u32 fun _ => .field boolean fun _ =>
    .field boolean fun _ => .pure _

def policies : Walk.For 1 readPolicies :=
  .first healthPolicy fun _ => .field warmingPolicy fun _ => .field drainingPolicy fun _ =>
    .field promotionPolicy fun _ => .field failoverPolicy fun _ => .pure _

def syntheticDomain : Walk.For 1 readSyntheticDomain :=
  .first string fun _ => .field string fun _ => .pure _

def placementPolicy : Walk.For 1 readPlacementPolicy :=
  .first strings fun _ => .field (list syntheticDomain) fun _ => .field boolean fun _ =>
    .field string fun _ => .field string fun _ => .field string fun _ => .field string fun _ =>
    .field u32 fun _ => .pure _

def compatReq : Walk.For 1 readCompatReq :=
  .first id fun _ => .field string fun _ => .field string fun _ => .field strings fun _ =>
    .field enum fun _ => .field string fun _ => .field string fun _ => .field cc fun _ =>
    .field enum fun _ => .field id fun _ => .field string fun _ => .field string fun _ => .pure _

def replicaCompat : Walk.For 1 readReplicaCompat :=
  .first id fun _ => .field string fun _ => .field string fun _ => .field strings fun _ =>
    .field enum fun _ => .field string fun _ => .field string fun _ => .field cc fun _ =>
    .field enum fun _ => .field id fun _ => .field string fun _ => .field string fun _ => .pure _

def healthRecord : Walk.For 1 readHealthRecord :=
  .first enum fun _ => .field enum fun _ => .field string fun _ => .field u64 fun _ =>
    .field i64 fun _ => .field f64 fun _ => .field id fun _ => .field string fun _ =>
    .field u32 fun _ => .field u32 fun _ => .pure _

def readinessFactors : Walk.For 1 readReadinessFactors :=
  .first boolean fun _ => .field boolean fun _ => .field boolean fun _ => .field boolean fun _ =>
    .field boolean fun _ => .field boolean fun _ => .field boolean fun _ =>
    .field boolean fun _ => .field boolean fun _ => .field boolean fun _ =>
    .field boolean fun _ => .pure _

def readinessRecord : Walk.For 1 readReadinessRecord :=
  .first enum fun _ => .field readinessFactors fun _ => .field u64 fun _ => .field i64 fun _ =>
    .field string fun _ => .pure _

def warmingRecord : Walk.For 1 readWarmingRecord :=
  .first enum fun _ => .field u64 fun _ => .field u64 fun _ => .field boolean fun _ =>
    .field boolean fun _ => .field boolean fun _ => .field boolean fun _ =>
    .field boolean fun _ => .field boolean fun _ => .field boolean fun _ =>
    .field boolean fun _ => .field boolean fun _ => .field u64 fun _ => .field u64 fun _ =>
    .field i64 fun _ => .field string fun _ => .pure _

def replicaSet : Walk.For 1 readReplicaSet :=
  .first id fun _ => .field id fun _ => .field id fun _ => .field id fun _ => .field u32 fun _ =>
    .field u32 fun _ => .field u32 fun _ => .field id fun _ => .field id fun _ =>
    .field id fun _ => .field id fun _ => .field enum fun _ => .field compatReq fun _ =>
    .field policies fun _ => .field placementPolicy fun _ => .field enum fun _ =>
    .field string fun _ => .field cc fun _ => .field u64 fun _ => .field u32 fun _ => .pure _

def replica : Walk.For 1 readReplica :=
  .first id fun _ => .field id fun _ => .field id fun _ => .field id fun _ => .field id fun _ =>
    .field id fun _ => .field id fun _ => .field id fun _ => .field enum fun _ =>
    .field string fun _ => .field string fun _ => .field enum fun _ => .field cc fun _ =>
    .field enum fun _ => .field enum fun _ => .field enum fun _ => .field enum fun _ =>
    .field enum fun _ => .field id fun _ => .field enum fun _ => .field enum fun _ =>
    .field enum fun _ => .field boolean fun _ => .field u64 fun _ => .field u64 fun _ =>
    .field u64 fun _ => .field u64 fun _ => .field i64 fun _ => .field healthRecord fun _ =>
    .field readinessRecord fun _ => .field warmingRecord fun _ => .field id fun _ =>
    .field id fun _ => .field id fun _ => .field id fun _ => .field string fun _ =>
    .field replicaCompat fun _ => .pure _

def promotion : Walk.For 1 readPromotion :=
  .first id fun _ => .field id fun _ => .field id fun _ => .field id fun _ => .field id fun _ =>
    .field id fun _ => .field enum fun _ => .field enum fun _ => .field u64 fun _ =>
    .field i64 fun _ => .field string fun _ => .pure _

def drain : Walk.For 1 readDrain :=
  .first id fun _ => .field id fun _ => .field id fun _ => .field enum fun _ =>
    .field u64 fun _ => .field u64 fun _ => .field boolean fun _ => .field u64 fun _ =>
    .field string fun _ => .pure _

def failover : Walk.For 1 readFailover :=
  .first id fun _ => .field id fun _ => .field id fun _ => .field id fun _ => .field enum fun _ =>
    .field id fun _ => .field u64 fun _ => .field u64 fun _ => .field boolean fun _ =>
    .field (list enum) fun _ => .field string fun _ => .pure _

def header : Walk.For 8 readHeader :=
  .first ((bytes 8).mapError _) fun _ => .field (u32.mapError _) fun _ =>
    .field (u32.mapError _) fun _ =>
    .cond (.fail _) <| .cond (.fail _) <| (u64.mapError _).weaken (Nat.zero_le _)

def body : Walk.For 0 readBody :=
  .field (.foldOf (size.mapError _) (replicaSet.mapError _) _) fun _ =>
    .field (.foldOf (size.mapError _) (replica.mapError _) _) fun _ =>
    .field (.listOf (size.mapError _) (worker.mapError _)) fun _ =>
    .field (.listOf (size.mapError _) (promotion.mapError _)) fun _ =>
    .field (.listOf (size.mapError _) (drain.mapError _)) fun _ =>
    .field (.listOf (size.mapError _) (failover.mapError _)) fun _ =>
    .field (id.mapError _) fun _ => .pure _

/-- `body_start + body_len` -/
def bodyEnd (bodyLen : UInt64) : Nat := Walk.wrap (24 + bodyLen.toNat)

/-- The beginning of `decode_snapshot`, up to the check of the length; it returns the stored length
of the body. -/
def framing : Walk Str UInt64 := do
  let n ← Walk.length
  if n < 24 + 8 then Walk.fail "snapshot too short"
  else do
    -- `memcmp`
    let start ← Walk.look 0 8
    if start ≠ magic then Walk.fail "bad magic"
    else do
      let bodyLen ← Walk.within 0 n header.walk
      if bodyEnd bodyLen > n ∨ n - bodyEnd bodyLen ≠ 8 then
        Walk.fail "body length mismatch or trailing garbage"
      else return bodyLen

def decodeSnapshot : Walk Str RecoveredState := do
  let bodyLen ← framing
  let stored ← Walk.look (bodyEnd bodyLen) 8
  let summed ← Walk.look 0 (bodyEnd bodyLen)
  if crc64 summed ≠ UInt64.ofNat (leJoin stored) then Walk.fail "checksum corruption"
  else Walk.within 24 bodyLen.toNat do
    let state ← body.walk
    let consumed ← Walk.finished
    if consumed then return state else Walk.fail "trailing bytes in body"

end ReplicaFabric.Indexed
