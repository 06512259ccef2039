import ReplicaFabric.Controller.Operations
import ReplicaFabric.Persistence.Records

/-!
# Snapshots of the controller

A snapshot is a header, the body and a checksum over both. Recovery decodes strictly, validates
what it has decoded, and installs it without any serving authority.
-/

namespace ReplicaFabric

open ByteCodec

def crc64Entry (i : UInt64) : UInt64 :=
  Nat.iterate
    (fun crc => if crc &&& 1 ≠ 0 then (crc >>> 1) ^^^ 0xC96C5795D7870F42 else crc >>> 1) 8 i

def crc64 (data : Str) : UInt64 :=
  data.foldl (fun crc b => crc64Entry (crc.toUInt8 ^^^ b).toUInt64 ^^^ (crc >>> 8)) 0

def magic : Str := "RFSNAP01"

def formatVersion : UInt32 := 1

def schemaVersion : UInt32 := 1

def snapshotBody (ctrl : ReplicaSetController) : Str :=
  [ Writer.list writeReplicaSet (Table.sortedBy ReplicaSetState.id ctrl.sets.values),
    Writer.list writeReplica (Table.sortedBy ReplicaState.id ctrl.replicas.values),
    Writer.list writeWorker (Table.sortedBy WorkerRegistration.workerId ctrl.workers.values),
    Writer.list writePromotion ctrl.promotions,
    Writer.list writeDrain ctrl.drains,
    Writer.list writeFailover ctrl.failovers,
    writeId ctrl.epoch ].flatten

def snapshotHeader (bodyLen : UInt64) : Str :=
  [magic, Writer.u32 formatVersion, Writer.u32 schemaVersion, Writer.u64 bodyLen].flatten

def makeSnapshot (ctrl : ReplicaSetController) : Str :=
  let body := snapshotBody ctrl
  let w := snapshotHeader (UInt64.ofNat body.length) ++ body
  w ++ Writer.u64 (crc64 w)

structure RecoveredState where
  sets : Table ReplicaSetId ReplicaSetState := ∅
  replicas : Table ReplicaId ReplicaState := ∅
  workers : List WorkerRegistration := []
  promotions : List PromotionRecord := []
  drains : List DrainRecord := []
  failovers : List FailoverRecord := []

def named {α : Type} (msg : Str) (rd : Reader α) : Reader α := mapError (fun _ => msg) rd

def labelled {α : Type} (label : Str) (rd : Reader α) : Reader α := mapError (label ++ ·) rd

def readHeader : Reader UInt64 := do
  let _ ← named "bad magic" (Reader.bytes 8)
  let ver ← named "header truncation" Reader.u32
  let schema ← named "header truncation" Reader.u32
  if ver ≠ formatVersion then Reader.fail "incompatible format version"
  else if schema ≠ schemaVersion then Reader.fail "incompatible schema version"
  else named "body length truncation" Reader.u64

def readBody : Reader RecoveredState := do
  let sets ← foldOf (named "set count" Reader.size) (ascii "set count overflow")
    (labelled "set decode: " readReplicaSet)
    (Table.insertNew ReplicaSetState.id (ascii "duplicate replica-set id")) ∅
  let replicas ← foldOf (named "replica count" Reader.size) (ascii "replica count overflow")
    (labelled "replica decode: " readReplica)
    (Table.insertNew ReplicaState.id (ascii "duplicate replica id")) ∅
  let workers ← listOf (named "worker count" Reader.size) (ascii "worker count overflow")
    (labelled "worker decode: " readWorker)
  let promotions ← listOf (named "promotion count" Reader.size) (ascii "promotion count overflow")
    (labelled "promotion decode: " readPromotion)
  let drains ← listOf (named "drain count" Reader.size) (ascii "drain count overflow")
    (labelled "drain decode: " readDrain)
  let failovers ← listOf (named "failover count" Reader.size) (ascii "failover count overflow")
    (labelled "failover decode: " readFailover)
  -- The epoch is read but not kept.
  let _ ← named "epoch decode" (readId : Reader CoordinatorEpoch)
  return { sets, replicas, workers, promotions, drains, failovers }

def decodeSnapshot (bytes : Str) : Except Str RecoveredState :=
  let n := bytes.length
  if n < 24 + 8 then .error "snapshot too short"
  else if bytes.take 8 ≠ magic then .error "bad magic"
  else
    match readHeader bytes with
    | .error e => .error e
    | .ok (bodyLen, _) =>
        -- The sum is a `std::size_t`.
        let bodyEnd := (24 + bodyLen.toNat) % sizeLimit
        if bodyEnd > n ∨ n - bodyEnd ≠ 8 then .error "body length mismatch or trailing garbage"
        else if crc64 (bytes.take bodyEnd) ≠
            UInt64.ofNat (leJoin ((bytes.drop bodyEnd).take 8)) then
          .error "checksum corruption"
        else
          match readBody ((bytes.drop 24).take bodyLen.toNat) with
          | .error e => .error e
          | .ok (state, rest) =>
              if rest ≠ [] then .error "trailing bytes in body" else .ok state

def fileBody (bytes : Str) : Str := (bytes.drop 24).take (bytes.length - 32)

structure Accepted (bytes : Str) (state : RecoveredState) : Prop where
  long : 32 ≤ bytes.length
  startsWith : bytes.take 8 = magic
  checksum : crc64 (bytes.take (bytes.length - 8)) =
    UInt64.ofNat (leJoin (bytes.drop (bytes.length - 8)))
  body : readBody (fileBody bytes) = .ok (state, [])

theorem accepted_of_decodeSnapshot {bytes : Str} {state : RecoveredState}
    (decoded : decodeSnapshot bytes = .ok state) : Accepted bytes state := by
  dsimp only [decodeSnapshot] at decoded
  split_ifs at decoded with short wrongMagic
  split at decoded
  · cases decoded
  rename_i bodyLen rest headed
  split_ifs at decoded with misaligned corrupt
  split at decoded
  · cases decoded
  rename_i recovered left read
  split_ifs at decoded with trailing
  cases decoded
  -- The sum does not wrap: it would end inside the header, and the file is longer than that.
  have bounded := bodyLen.toNat_lt
  have limit : sizeLimit = 2 ^ 64 := rfl
  rw [limit] at misaligned corrupt
  have bodyLength : bodyLen.toNat = bytes.length - 32 := by omega
  have bodyEnd : (24 + bodyLen.toNat) % 2 ^ 64 = bytes.length - 8 := by omega
  have stored : (bytes.drop (bytes.length - 8)).take 8 = bytes.drop (bytes.length - 8) :=
    List.take_of_length_le (by rw [List.length_drop]; omega)
  rw [bodyEnd, stored] at corrupt
  refine ⟨by omega, not_not.mp wrongMagic, not_not.mp corrupt, ?_⟩
  rw [fileBody, ← bodyLength, read, not_not.mp trailing]

def replicaInvalid (state : RecoveredState) (r : ReplicaState) : Option Str :=
  if r.id.isNull || r.setId.isNull || r.generation.isNull then
    some "replica with null identity in recovered state"
  else if (state.sets[r.setId]?).isNone then some "replica references an unknown replica set"
  else none

def setInvalid (s : ReplicaSetState) : Option Str :=
  if s.id.isNull then some "replica set with null identity"
  else if ReplicaSetController.countsInvalid s then
    some "replica set counts invalid in recovered state"
  else none

def validateRecoveredState (state : RecoveredState) : Option Str :=
  (state.replicas.values.findSome? (replicaInvalid state)).or
    (state.sets.values.findSome? setInvalid)

theorem validateRecoveredState_eq_none {state : RecoveredState} :
    validateRecoveredState state = none ↔
      (∀ (id : ReplicaId) (r : ReplicaState), state.replicas[id]? = some r →
        replicaInvalid state r = none) ∧
      (∀ (id : ReplicaSetId) (s : ReplicaSetState), state.sets[id]? = some s →
        setInvalid s = none) := by
  simp only [validateRecoveredState, Option.or_eq_none_iff, List.findSome?_eq_none_iff,
    Table.mem_values]
  refine and_congr ?_ ?_
  · constructor
    · intro all id r found
      exact all r ⟨id, found⟩
    · rintro all r ⟨id, found⟩
      exact all id r found
  · constructor
    · intro all id s found
      exact all s ⟨id, found⟩
    · rintro all s ⟨id, found⟩
      exact all id s found

theorem member_of_valid {state : RecoveredState} (valid : validateRecoveredState state = none)
    {id : ReplicaId} {r : ReplicaState} (found : state.replicas[id]? = some r) :
    ∃ s, state.sets[r.setId]? = some s := by
  have passed := (validateRecoveredState_eq_none.mp valid).1 id r found
  unfold replicaInvalid at passed
  split_ifs at passed with nullId unknown
  exact Option.isSome_iff_exists.mp (by simpa using unknown)

/-- What `install_recovered_state` leaves of a replica. -/
def ReplicaState.recovered (r : ReplicaState) : ReplicaState :=
  { r with
    servingEligible := false
    bootId := .null
    health := .starting
    healthRecord := { r.healthRecord with state := .starting }
    readiness := .unknown
    warmth := .cold
    promotion := .notPromoted
    role := .none
    activeRequests := 0
    reservedCapacity := 0 }

/-- The epoch of the controller stays. -/
def installRecoveredState (state : RecoveredState) (ctrl : ReplicaSetController) :
    ReplicaSetController :=
  { ctrl with
    sets := state.sets
    replicas := state.replicas.map fun _ r => r.recovered
    workers := state.workers.foldl (Table.insertIfNew WorkerRegistration.workerId) ∅
    promotions := state.promotions
    drains := state.drains
    failovers := state.failovers }

def recoverInto (bytes : Str) (ctrl : ReplicaSetController) :
    Except Str Unit × ReplicaSetController :=
  match decodeSnapshot bytes with
  | .error e => (.error e, ctrl)
  | .ok rec =>
      match validateRecoveredState rec with
      | some e => (.error e, ctrl)
      | none => (.ok (), installRecoveredState rec ctrl)

end ReplicaFabric
