import ReplicaFabric.Library.Canonical
import ReplicaFabric.Persistence.RoundTrip

/-!
# Accepted bodies are canonical

Every reader accepts only the bytes that its writer makes of what it reads. So the body of an
accepted file is what the writers make of the records in it, in the order of the file.
-/

namespace ReplicaFabric

open ByteCodec

abbrev Canonical {α : Type} (rd : Reader α) (write : α → Str) : Prop :=
  ByteCodec.Canonical rd write

theorem canonical_u8 : Canonical Reader.u8 Writer.u8 := by
  refine .ofTake fun b one => ?_
  obtain ⟨v, rfl⟩ := List.length_eq_one_iff.mp one
  rfl

theorem canonical_u32 : Canonical Reader.u32 Writer.u32 := by
  refine .ofTake fun b four => ?_
  have small := leJoin_lt b
  rw [four] at small
  rw [Writer.u32, UInt32.toNat_ofNat_of_lt' small, ← four, leSplit_leJoin]

theorem canonical_u64 : Canonical Reader.u64 Writer.u64 := by
  refine .ofTake fun b eight => ?_
  have small := leJoin_lt b
  rw [eight] at small
  rw [Writer.u64, UInt64.toNat_ofNat_of_lt' small, ← eight, leSplit_leJoin]

theorem canonical_i64 : Canonical Reader.i64 Writer.i64 :=
  canonical_u64.map fun _ => rfl

theorem canonical_f64 : Canonical Reader.f64 Writer.f64 := by
  refine .field canonical_u64 fun bits => ?_
  dsimp only
  split
  · exact .fail _
  · exact .pure (List.append_nil _)

theorem canonical_boolean : Canonical Reader.boolean Writer.boolean := by
  refine .field canonical_u8 fun b => ?_
  split
  · exact .fail _
  · rename_i small
    refine .pure ?_
    have bit : b = 0 ∨ b = 1 := by
      have bound : b.toNat ≤ (1 : UInt8).toNat := UInt8.not_lt.mp small
      rw [← UInt8.toNat_inj, ← UInt8.toNat_inj]
      exact Nat.le_one_iff_eq_zero_or_eq_one.mp bound
    obtain rfl | rfl := bit <;> rfl

theorem canonical_size : Canonical Reader.size Writer.size :=
  canonical_u64.map fun n => by rw [Writer.size, UInt64.ofNat_toNat]

theorem canonical_string : Canonical Reader.string Writer.string := by
  refine .field canonical_size fun n => ?_
  intro input s rest accepted
  obtain ⟨w, ⟨rfl, rfl⟩, whole⟩ := Emits.take _ _ _ _ _ accepted
  exact ⟨s, rfl, whole⟩

theorem canonical_id {tag : IdTag} : Canonical (readId : Reader (Id tag)) writeId :=
  .ofTake fun _ length => Id.toBytes_fromBytes length

theorem canonical_enum {E : Type} [DecidableEq E] [EnumTable E] :
    Canonical (readEnum : Reader E) writeEnum := by
  refine .field canonical_u8 fun b => ?_
  split
  · rename_i e found
    refine .pure ?_
    rw [List.append_nil, writeEnum, enumByte_of_enumFromInt found]
  · exact .fail _

theorem canonical_cc : Canonical readCc writeCc :=
  .field canonical_u32 fun _ => .field canonical_u32 fun _ => .pure rfl

theorem canonical_list {α : Type} {tooMany : Str} {item : Reader α} {write : α → Str}
    (items : Canonical item write) : Canonical (Reader.list tooMany item) (Writer.list write) :=
  .listOf canonical_size items

theorem canonical_strings : Canonical Reader.strings Writer.strings :=
  canonical_list canonical_string

theorem canonical_device : Canonical readDevice writeDevice :=
  .field canonical_enum fun _ => .field canonical_string fun _ => .field canonical_cc fun _ =>
    .field canonical_u64 fun _ => .pure rfl

theorem canonical_backend : Canonical readBackend writeBackend :=
  .field canonical_enum fun _ => .field canonical_string fun _ => .field canonical_cc fun _ =>
    .field canonical_enum fun _ => .pure rfl

theorem canonical_inventory : Canonical readInventory writeInventory :=
  .field canonical_u64 fun _ => .field canonical_u64 fun _ => .field canonical_u32 fun _ =>
    .field (canonical_list canonical_device) fun _ =>
    .field (canonical_list canonical_backend) fun _ => .pure rfl

theorem canonical_worker : Canonical readWorker writeWorker :=
  .field canonical_id fun _ => .field canonical_id fun _ => .field canonical_id fun _ =>
    .field canonical_inventory fun _ => .field canonical_id fun _ => .field canonical_u32 fun _ =>
    .pure rfl

theorem canonical_healthPolicy : Canonical readHealthPolicy writeHealthPolicy :=
  .field canonical_boolean fun _ => .field canonical_u64 fun _ => .field canonical_u64 fun _ =>
    .field canonical_u64 fun _ => .field canonical_u32 fun _ => .field canonical_u32 fun _ =>
    .field canonical_u32 fun _ => .field canonical_f64 fun _ => .field canonical_enum fun _ =>
    .pure rfl

theorem canonical_warmingPolicy : Canonical readWarmingPolicy writeWarmingPolicy :=
  .field canonical_boolean fun _ => .field canonical_boolean fun _ =>
    .field canonical_boolean fun _ => .field canonical_boolean fun _ =>
    .field canonical_boolean fun _ => .field canonical_boolean fun _ =>
    .field canonical_boolean fun _ => .field canonical_boolean fun _ =>
    .field canonical_boolean fun _ => .field canonical_boolean fun _ =>
    .field canonical_u64 fun _ => .field canonical_u64 fun _ => .pure rfl

theorem canonical_drainingPolicy : Canonical readDrainingPolicy writeDrainingPolicy :=
  .field canonical_boolean fun _ => .field canonical_boolean fun _ =>
    .field canonical_boolean fun _ => .field canonical_u64 fun _ => .field canonical_u64 fun _ =>
    .pure rfl

theorem canonical_promotionPolicy : Canonical readPromotionPolicy writePromotionPolicy :=
  .field canonical_boolean fun _ => .field canonical_boolean fun _ =>
    .field canonical_enum fun _ => .field canonical_boolean fun _ =>
    .field canonical_boolean fun _ => .field canonical_boolean fun _ =>
    .field canonical_boolean fun _ => .field canonical_boolean fun _ =>
    .field canonical_boolean fun _ => .pure rfl

theorem canonical_failoverPolicy : Canonical readFailoverPolicy writeFailoverPolicy :=
  .field canonical_boolean fun _ => .field canonical_boolean fun _ => .field canonical_u32 fun _ =>
    .field canonical_boolean fun _ => .field canonical_boolean fun _ => .pure rfl

theorem canonical_policies : Canonical readPolicies writePolicies :=
  .field canonical_healthPolicy fun _ => .field canonical_warmingPolicy fun _ =>
    .field canonical_drainingPolicy fun _ => .field canonical_promotionPolicy fun _ =>
    .field canonical_failoverPolicy fun _ => .pure rfl

theorem canonical_syntheticDomain : Canonical readSyntheticDomain writeSyntheticDomain :=
  .field canonical_string fun _ => .field canonical_string fun _ => .pure rfl

theorem canonical_placementPolicy : Canonical readPlacementPolicy writePlacementPolicy :=
  .field canonical_strings fun _ => .field (canonical_list canonical_syntheticDomain) fun _ =>
    .field canonical_boolean fun _ => .field canonical_string fun _ =>
    .field canonical_string fun _ => .field canonical_string fun _ =>
    .field canonical_string fun _ => .field canonical_u32 fun _ => .pure rfl

theorem canonical_compatReq : Canonical readCompatReq writeCompatReq :=
  .field canonical_id fun _ => .field canonical_string fun _ => .field canonical_string fun _ =>
    .field canonical_strings fun _ => .field canonical_enum fun _ =>
    .field canonical_string fun _ => .field canonical_string fun _ => .field canonical_cc fun _ =>
    .field canonical_enum fun _ => .field canonical_id fun _ => .field canonical_string fun _ =>
    .field canonical_string fun _ => .pure rfl

theorem canonical_replicaCompat : Canonical readReplicaCompat writeReplicaCompat :=
  .field canonical_id fun _ => .field canonical_string fun _ => .field canonical_string fun _ =>
    .field canonical_strings fun _ => .field canonical_enum fun _ =>
    .field canonical_string fun _ => .field canonical_string fun _ => .field canonical_cc fun _ =>
    .field canonical_enum fun _ => .field canonical_id fun _ => .field canonical_string fun _ =>
    .field canonical_string fun _ => .pure rfl

theorem canonical_healthRecord : Canonical readHealthRecord writeHealthRecord :=
  .field canonical_enum fun _ => .field canonical_enum fun _ => .field canonical_string fun _ =>
    .field canonical_u64 fun _ => .field canonical_i64 fun _ => .field canonical_f64 fun _ =>
    .field canonical_id fun _ => .field canonical_string fun _ => .field canonical_u32 fun _ =>
    .field canonical_u32 fun _ => .pure rfl

theorem canonical_readinessFactors : Canonical readReadinessFactors writeReadinessFactors :=
  .field canonical_boolean fun _ => .field canonical_boolean fun _ =>
    .field canonical_boolean fun _ => .field canonical_boolean fun _ =>
    .field canonical_boolean fun _ => .field canonical_boolean fun _ =>
    .field canonical_boolean fun _ => .field canonical_boolean fun _ =>
    .field canonical_boolean fun _ => .field canonical_boolean fun _ =>
    .field canonical_boolean fun _ => .pure rfl

theorem canonical_readinessRecord : Canonical readReadinessRecord writeReadinessRecord :=
  .field canonical_enum fun _ => .field canonical_readinessFactors fun _ =>
    .field canonical_u64 fun _ => .field canonical_i64 fun _ => .field canonical_string fun _ =>
    .pure rfl

theorem canonical_warmingRecord : Canonical readWarmingRecord writeWarmingRecord :=
  .field canonical_enum fun _ => .field canonical_u64 fun _ => .field canonical_u64 fun _ =>
    .field canonical_boolean fun _ => .field canonical_boolean fun _ =>
    .field canonical_boolean fun _ => .field canonical_boolean fun _ =>
    .field canonical_boolean fun _ => .field canonical_boolean fun _ =>
    .field canonical_boolean fun _ => .field canonical_boolean fun _ =>
    .field canonical_boolean fun _ => .field canonical_u64 fun _ => .field canonical_u64 fun _ =>
    .field canonical_i64 fun _ => .field canonical_string fun _ => .pure rfl

theorem canonical_replicaSet : Canonical readReplicaSet writeReplicaSet :=
  .field canonical_id fun _ => .field canonical_id fun _ => .field canonical_id fun _ =>
    .field canonical_id fun _ => .field canonical_u32 fun _ => .field canonical_u32 fun _ =>
    .field canonical_u32 fun _ => .field canonical_id fun _ => .field canonical_id fun _ =>
    .field canonical_id fun _ => .field canonical_id fun _ => .field canonical_enum fun _ =>
    .field canonical_compatReq fun _ => .field canonical_policies fun _ =>
    .field canonical_placementPolicy fun _ => .field canonical_enum fun _ =>
    .field canonical_string fun _ => .field canonical_cc fun _ => .field canonical_u64 fun _ =>
    .field canonical_u32 fun _ => .pure rfl

theorem canonical_replica : Canonical readReplica writeReplica :=
  .field canonical_id fun _ => .field canonical_id fun _ => .field canonical_id fun _ =>
    .field canonical_id fun _ => .field canonical_id fun _ => .field canonical_id fun _ =>
    .field canonical_id fun _ => .field canonical_id fun _ => .field canonical_enum fun _ =>
    .field canonical_string fun _ => .field canonical_string fun _ =>
    .field canonical_enum fun _ => .field canonical_cc fun _ => .field canonical_enum fun _ =>
    .field canonical_enum fun _ => .field canonical_enum fun _ => .field canonical_enum fun _ =>
    .field canonical_enum fun _ => .field canonical_id fun _ => .field canonical_enum fun _ =>
    .field canonical_enum fun _ => .field canonical_enum fun _ => .field canonical_boolean fun _ =>
    .field canonical_u64 fun _ => .field canonical_u64 fun _ => .field canonical_u64 fun _ =>
    .field canonical_u64 fun _ => .field canonical_i64 fun _ =>
    .field canonical_healthRecord fun _ => .field canonical_readinessRecord fun _ =>
    .field canonical_warmingRecord fun _ => .field canonical_id fun _ =>
    .field canonical_id fun _ => .field canonical_id fun _ => .field canonical_id fun _ =>
    .field canonical_string fun _ => .field canonical_replicaCompat fun _ => .pure rfl

theorem canonical_promotion : Canonical readPromotion writePromotion :=
  .field canonical_id fun _ => .field canonical_id fun _ => .field canonical_id fun _ =>
    .field canonical_id fun _ => .field canonical_id fun _ => .field canonical_id fun _ =>
    .field canonical_enum fun _ => .field canonical_enum fun _ => .field canonical_u64 fun _ =>
    .field canonical_i64 fun _ => .field canonical_string fun _ => .pure rfl

theorem canonical_drain : Canonical readDrain writeDrain :=
  .field canonical_id fun _ => .field canonical_id fun _ => .field canonical_id fun _ =>
    .field canonical_enum fun _ => .field canonical_u64 fun _ => .field canonical_u64 fun _ =>
    .field canonical_boolean fun _ => .field canonical_u64 fun _ =>
    .field canonical_string fun _ => .pure rfl

theorem canonical_failover : Canonical readFailover writeFailover :=
  .field canonical_id fun _ => .field canonical_id fun _ => .field canonical_id fun _ =>
    .field canonical_id fun _ => .field canonical_enum fun _ => .field canonical_id fun _ =>
    .field canonical_u64 fun _ => .field canonical_u64 fun _ => .field canonical_boolean fun _ =>
    .field (canonical_list canonical_enum) fun _ => .field canonical_string fun _ => .pure rfl

/-- The records of a body in the order of the file, before they are put into tables. -/
structure SnapshotRecords where
  sets : List ReplicaSetState
  replicas : List ReplicaState
  workers : List WorkerRegistration
  promotions : List PromotionRecord
  drains : List DrainRecord
  failovers : List FailoverRecord
  epoch : CoordinatorEpoch

def readRecords : Reader SnapshotRecords := do
  let sets ← listOf (named "set count" Reader.size) (ascii "set count overflow")
    (labelled "set decode: " readReplicaSet)
  let replicas ← listOf (named "replica count" Reader.size) (ascii "replica count overflow")
    (labelled "replica decode: " readReplica)
  let workers ← listOf (named "worker count" Reader.size) (ascii "worker count overflow")
    (labelled "worker decode: " readWorker)
  let promotions ← listOf (named "promotion count" Reader.size) (ascii "promotion count overflow")
    (labelled "promotion decode: " readPromotion)
  let drains ← listOf (named "drain count" Reader.size) (ascii "drain count overflow")
    (labelled "drain decode: " readDrain)
  let failovers ← listOf (named "failover count" Reader.size) (ascii "failover count overflow")
    (labelled "failover decode: " readFailover)
  let epoch ← named "epoch decode" readId
  return { sets, replicas, workers, promotions, drains, failovers, epoch }

def writeRecords (x : SnapshotRecords) : Str :=
  [ Writer.list writeReplicaSet x.sets, Writer.list writeReplica x.replicas,
    Writer.list writeWorker x.workers, Writer.list writePromotion x.promotions,
    Writer.list writeDrain x.drains, Writer.list writeFailover x.failovers,
    writeId x.epoch ].flatten

def SnapshotRecords.state (x : SnapshotRecords) : Except Str RecoveredState := do
  let sets ← x.sets.foldlM (Table.insertNew ReplicaSetState.id (ascii "duplicate replica-set id")) ∅
  let replicas ← x.replicas.foldlM
    (Table.insertNew ReplicaState.id (ascii "duplicate replica id")) ∅
  return { sets, replicas, workers := x.workers, promotions := x.promotions, drains := x.drains,
           failovers := x.failovers }

theorem canonical_section {α : Type} {countMsg overflow label : Str} {rd : Reader α}
    {write : α → Str} (items : Canonical rd write) :
    Canonical (listOf (named countMsg Reader.size) overflow (labelled label rd))
      (Writer.list write) :=
  .listOf (Emits.mapError canonical_size _) (Emits.mapError items _)

theorem canonical_records : Canonical readRecords writeRecords :=
  .field (canonical_section canonical_replicaSet) fun _ =>
    .field (canonical_section canonical_replica) fun _ =>
    .field (canonical_section canonical_worker) fun _ =>
    .field (canonical_section canonical_promotion) fun _ =>
    .field (canonical_section canonical_drain) fun _ =>
    .field (canonical_section canonical_failover) fun _ =>
    .field (Emits.mapError canonical_id _) fun _ => .pure rfl

theorem SnapshotRecords.state_ok {x : SnapshotRecords} {state : RecoveredState} :
    x.state = .ok state ↔
      ∃ sets replicas,
        x.sets.foldlM (Table.insertNew ReplicaSetState.id (ascii "duplicate replica-set id")) ∅ =
          .ok sets ∧
        x.replicas.foldlM (Table.insertNew ReplicaState.id (ascii "duplicate replica id")) ∅ =
          .ok replicas ∧
        state = { sets, replicas, workers := x.workers, promotions := x.promotions,
                  drains := x.drains, failovers := x.failovers } := by
  unfold SnapshotRecords.state
  cases x.sets.foldlM (Table.insertNew ReplicaSetState.id (ascii "duplicate replica-set id")) ∅ <;>
    cases x.replicas.foldlM (Table.insertNew ReplicaState.id (ascii "duplicate replica id")) ∅ <;>
    simp [Bind.bind, Except.bind, Pure.pure, Except.pure, eq_comm]

theorem readBody_ok {input rest : Str} {state : RecoveredState} :
    readBody input = .ok (state, rest) ↔
      ∃ x, readRecords input = .ok (x, rest) ∧ x.state = .ok state := by
  simp only [readBody, readRecords, bind_ok, pure_ok, foldOf_iff_listOf, SnapshotRecords.state_ok]
  constructor
  · rintro ⟨sets, m1, ⟨xs, readSets, foldSets⟩, replicas, m2, ⟨ys, readReplicas, foldReplicas⟩,
      workers, m3, readWorkers, promotions, m4, readPromotions, drains, m5, readDrains,
      failovers, m6, readFailovers, epoch, m7, readEpoch, rfl, rfl⟩
    exact ⟨_, ⟨xs, m1, readSets, ys, m2, readReplicas, workers, m3, readWorkers, promotions, m4,
      readPromotions, drains, m5, readDrains, failovers, m6, readFailovers, epoch, _, readEpoch,
      rfl, rfl⟩, sets, replicas, foldSets, foldReplicas, rfl⟩
  · rintro ⟨_, ⟨xs, m1, readSets, ys, m2, readReplicas, workers, m3, readWorkers, promotions, m4,
      readPromotions, drains, m5, readDrains, failovers, m6, readFailovers, epoch, m7, readEpoch,
      rfl, rfl⟩, sets, replicas, foldSets, foldReplicas, rfl⟩
    exact ⟨sets, m1, ⟨xs, readSets, foldSets⟩, replicas, m2, ⟨ys, readReplicas, foldReplicas⟩,
      workers, m3, readWorkers, promotions, m4, readPromotions, drains, m5, readDrains, failovers,
      m6, readFailovers, epoch, _, readEpoch, rfl, rfl⟩

theorem body_canonical (bytes : Str) (state : RecoveredState)
    (accepted : decodeSnapshot bytes = .ok state) :
    ∃ x, readRecords (fileBody bytes) = .ok (x, []) ∧ x.state = .ok state ∧
      writeRecords x = fileBody bytes ∧
      ∀ (bytes' : Str) (state' : RecoveredState), decodeSnapshot bytes' = .ok state' →
        readRecords (fileBody bytes') = .ok (x, []) → fileBody bytes' = fileBody bytes := by
  obtain ⟨x, read, tables⟩ := readBody_ok.mp (accepted_of_decodeSnapshot accepted).body
  obtain ⟨w, written, whole⟩ := canonical_records _ _ _ read
  refine ⟨x, read, tables, ?_, fun bytes' _ _ read' => canonical_records.unique read' read⟩
  rw [← written, whole, List.append_nil]

theorem body_canonical_serving :
    ∃ x, readRecords (fileBody (makeSnapshot ReplicaSetController.servingController)) =
        .ok (x, []) ∧
      writeRecords x = fileBody (makeSnapshot ReplicaSetController.servingController) := by
  have keyed : ReplicaSetController.servingController.Keyed := by decide
  obtain ⟨x, read, -, written, -⟩ := body_canonical _ _
    (decodeSnapshot_makeSnapshot keyed (by decide +kernel) (by decide))
  exact ⟨x, read, written⟩

end ReplicaFabric
