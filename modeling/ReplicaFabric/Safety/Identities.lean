import ReplicaFabric.Safety.Validation

/-!
# Identities that a file repeats

The sets and the replicas of a file are read into tables, where an id that is there already is an
error. The other records are read into vectors, and installation puts the workers into a table
without a word about those that it drops.
-/

namespace ReplicaFabric

open ByteCodec

namespace SnapshotRecords

variable {x : SnapshotRecords} {state : RecoveredState}

structure Distinct (x : SnapshotRecords) : Prop where
  sets : (x.sets.map ReplicaSetState.id).Nodup
  replicas : (x.replicas.map ReplicaState.id).Nodup
  workers : (x.workers.map WorkerRegistration.workerId).Nodup
  promotions : (x.promotions.map PromotionRecord.id).Nodup
  drains : (x.drains.map DrainRecord.id).Nodup
  failovers : (x.failovers.map FailoverRecord.id).Nodup

structure DistinctVectors (x : SnapshotRecords) : Prop where
  workers : (x.workers.map WorkerRegistration.workerId).Nodup
  promotions : (x.promotions.map PromotionRecord.id).Nodup
  drains : (x.drains.map DrainRecord.id).Nodup
  failovers : (x.failovers.map FailoverRecord.id).Nodup

structure Counted (x : SnapshotRecords) (ctrl : ReplicaSetController) : Prop where
  sets : ctrl.sets.size = x.sets.length
  replicas : ctrl.replicas.size = x.replicas.length
  workers : ctrl.workers.size = x.workers.length

theorem nodup_sets (tables : x.state = .ok state) : (x.sets.map ReplicaSetState.id).Nodup := by
  obtain ⟨keyed, filled, -, -⟩ := SnapshotRecords.tables tables
  exact (filled.map _).nodup_iff.mp keyed.nodup_values

theorem nodup_replicas (tables : x.state = .ok state) :
    (x.replicas.map ReplicaState.id).Nodup := by
  obtain ⟨-, -, keyed, filled⟩ := SnapshotRecords.tables tables
  exact (filled.map _).nodup_iff.mp keyed.nodup_values

theorem distinct_iff (tables : x.state = .ok state) : x.Distinct ↔ x.DistinctVectors := by
  constructor
  · rintro ⟨-, -, workers, promotions, drains, failovers⟩
    exact ⟨workers, promotions, drains, failovers⟩
  · rintro ⟨workers, promotions, drains, failovers⟩
    exact ⟨nodup_sets tables, nodup_replicas tables, workers, promotions, drains, failovers⟩

theorem install_counted (tables : x.state = .ok state)
    (workers : (x.workers.map WorkerRegistration.workerId).Nodup) (ctrl : ReplicaSetController) :
    x.Counted (installRecoveredState state ctrl) := by
  obtain ⟨-, filledSets, -, filledReplicas⟩ := SnapshotRecords.tables tables
  have same : state.workers = x.workers := by
    obtain ⟨_, _, -, -, rfl⟩ := SnapshotRecords.state_ok.mp tables
    rfl
  refine ⟨?_, ?_, ?_⟩
  · exact (Table.length_values _).symm.trans filledSets.length_eq
  · rw [← Table.length_values, installRecoveredState, Table.values_map, List.length_map]
    exact filledReplicas.length_eq
  · rw [← Table.length_values, installRecoveredState, same]
    have filled := Table.values_foldl_insertIfNew (t := ∅) workers fun w _ => by simp
    rw [filled.length_eq]
    simp [Table.values]

structure IdentitiesKept (x : SnapshotRecords) (bytes : Str) (ctrl : ReplicaSetController) :
    Prop where
  distinct : x.Distinct
  counted : (recoverInto bytes ctrl).1 = .ok () → x.Counted (recoverInto bytes ctrl).2

end SnapshotRecords

theorem repeated_identities_iff (bytes : Str) (state : RecoveredState)
    (accepted : decodeSnapshot bytes = .ok state) (ctrl : ReplicaSetController) :
    ∃ x, readRecords (fileBody bytes) = .ok (x, []) ∧
      (x.IdentitiesKept bytes ctrl ↔ x.DistinctVectors) := by
  obtain ⟨x, read, tables⟩ := readBody_ok.mp (accepted_of_decodeSnapshot accepted).body
  refine ⟨x, read, fun kept => (SnapshotRecords.distinct_iff tables).mp kept.distinct,
    fun distinct => ⟨(SnapshotRecords.distinct_iff tables).mpr distinct, fun recovered => ?_⟩⟩
  rcases ctrl.recoverInto_cases bytes with ⟨refused, -⟩ | ⟨state', decoded, valid, installed⟩
  · rw [recovered] at refused
    cases refused
  · obtain rfl : state' = state := Except.ok.inj (decoded.symm.trans accepted)
    rw [installed]
    exact SnapshotRecords.install_counted tables distinct.workers ctrl

namespace SnapshotRecords

variable {x : SnapshotRecords}

structure FiniteDoubles (x : SnapshotRecords) : Prop where
  thresholds : ∀ s ∈ x.sets, s.policies.health.healthThreshold.Finite
  confidences : ∀ r ∈ x.replicas, r.healthRecord.confidence.Finite

theorem reads_items {α : Type} {countMsg overflow label : Str} {rd : Reader α} {write : α → Str}
    {ok : α → Prop} {xs : List α} (items : ∀ x, Reads rd (write x) x (ok x))
    (nonempty : ∀ x, write x ≠ []) :
    Reads (listOf (named countMsg Reader.size) overflow (labelled label rd))
      (Writer.list write xs) xs (∀ x ∈ xs, ok x) :=
  reads_section items nonempty (ByteCodec.Reads.foldlM_push xs [])

theorem reads_records (x : SnapshotRecords) :
    Reads readRecords (writeRecords x) x x.FiniteDoubles := by
  refine ByteCodec.Reads.congr ?_ (⟨fun both => ⟨both.1, both.2⟩, fun all => ⟨all.1, all.2⟩⟩ :
    (_ ∧ _) ↔ x.FiniteDoubles)
  exact (reads_items reads_replicaSet writeReplicaSet_ne_nil).both <|
    (reads_items reads_replica writeReplica_ne_nil).decides <|
    (reads_log reads_worker writeWorker_ne_nil).field <|
    (reads_log reads_promotion writePromotion_ne_nil).field <|
    (reads_log reads_drain writeDrain_ne_nil).field <|
    (reads_log reads_failover writeFailover_ne_nil).field <|
    ((reads_id x.epoch).mapError _).field <| .pure x

theorem fileBody_fileWith (body : Str) : fileBody (fileWith body) = body := by
  have length := length_fileWith body
  have split : fileWith body = snapshotHeader (UInt64.ofNat body.length) ++ (body ++
      Writer.u64 (crc64 (snapshotHeader (UInt64.ofNat body.length) ++ body))) :=
    List.append_assoc ..
  rw [fileBody, length, split, List.drop_left' (length_snapshotHeader _)]
  exact List.take_left' (by omega)

theorem readRecords_file (finite : x.FiniteDoubles)
    (addressable : (fileWith (writeRecords x)).length < sizeLimit) :
    readRecords (fileBody (fileWith (writeRecords x))) = .ok (x, []) := by
  have fits : (writeRecords x).length < sizeLimit := by
    rw [length_fileWith] at addressable
    omega
  have read := (reads_records x fits []).1 finite
  rwa [List.append_nil, ← fileBody_fileWith (writeRecords x)] at read

theorem decodeSnapshot_file (finite : x.FiniteDoubles)
    (addressable : (fileWith (writeRecords x)).length < sizeLimit) {state : RecoveredState}
    (tables : x.state = .ok state) :
    decodeSnapshot (fileWith (writeRecords x)) = .ok state := by
  have read := readRecords_file finite addressable
  rw [fileBody_fileWith] at read
  rw [decodeSnapshot_fileWith addressable, readBody_ok.mpr ⟨x, read, tables⟩]
  exact if_neg (not_not.mpr rfl)

end SnapshotRecords

namespace SnapshotRecords

def ofWorkers (workers : List WorkerRegistration) : SnapshotRecords where
  sets := []
  replicas := []
  workers := workers
  promotions := []
  drains := []
  failovers := []
  epoch := ⟨0, 1⟩

variable {workers : List WorkerRegistration}

theorem ofWorkers_finite : (ofWorkers workers).FiniteDoubles :=
  ⟨by simp [ofWorkers], by simp [ofWorkers]⟩

theorem ofWorkers_accepted
    (addressable : (fileWith (writeRecords (ofWorkers workers))).length < sizeLimit) :
    decodeSnapshot (fileWith (writeRecords (ofWorkers workers))) = .ok { workers := workers } :=
  decodeSnapshot_file ofWorkers_finite addressable rfl

end SnapshotRecords

open SnapshotRecords

def workerTwice : SnapshotRecords :=
  ofWorkers [{ workerId := ⟨0, 1⟩, bootId := ⟨0, 1⟩ }, { workerId := ⟨0, 1⟩, bootId := ⟨0, 2⟩ }]

theorem workerTwice_merged :
    ¬∀ (bytes : Str) (state : RecoveredState) (ctrl : ReplicaSetController) (x : SnapshotRecords),
      decodeSnapshot bytes = .ok state → readRecords (fileBody bytes) = .ok (x, []) →
        x.IdentitiesKept bytes ctrl := by
  intro always
  have addressable : (fileWith (writeRecords workerTwice)).length < sizeLimit := by
    rw [length_fileWith]
    decide +kernel
  have accepted : decodeSnapshot (fileWith (writeRecords workerTwice)) = _ :=
    ofWorkers_accepted addressable
  have records : readRecords (fileBody (fileWith (writeRecords workerTwice))) =
      .ok (workerTwice, []) := readRecords_file ofWorkers_finite addressable
  have kept := always _ _ .empty _ accepted records
  have recovered : recoverInto (fileWith (writeRecords workerTwice)) .empty =
      (.ok (), installRecoveredState { workers := workerTwice.workers } .empty) := by
    rw [recoverInto, accepted]
    rfl
  have counted := (kept.counted (congrArg Prod.fst recovered)).workers
  have merged : (recoverInto (fileWith (writeRecords workerTwice)) .empty).2.workers.size = 1 := by
    rw [recovered]
    decide
  cases merged.symm.trans counted

def workerEach : SnapshotRecords :=
  ofWorkers [{ workerId := ⟨0, 1⟩, bootId := ⟨0, 1⟩ }, { workerId := ⟨0, 2⟩, bootId := ⟨0, 1⟩ }]

theorem repeated_identities_workerEach :
    workerEach.IdentitiesKept (fileWith (writeRecords workerEach)) .empty := by
  have addressable : (fileWith (writeRecords workerEach)).length < sizeLimit := by
    rw [length_fileWith]
    decide +kernel
  have accepted : decodeSnapshot (fileWith (writeRecords workerEach)) = _ :=
    ofWorkers_accepted addressable
  obtain ⟨x, read, kept⟩ := repeated_identities_iff _ _ accepted .empty
  have records : readRecords (fileBody (fileWith (writeRecords workerEach))) =
      .ok (workerEach, []) := readRecords_file ofWorkers_finite addressable
  have same : x = workerEach := congrArg Prod.fst (Except.ok.inj (read.symm.trans records))
  rw [same] at kept
  exact kept.mpr ⟨by decide, by decide, by decide, by decide⟩

end ReplicaFabric
