import ReplicaFabric.Controller.Operation
import ReplicaFabric.Persistence.RecordLaws
import ReplicaFabric.Persistence.Snapshot

/-!
# The snapshot round trip

A snapshot decodes to exactly the state it was made of when the doubles in it are finite, and is
rejected when one is not.
-/

namespace ReplicaFabric

open ByteCodec

namespace ReplicaSetController

structure Keyed (ctrl : ReplicaSetController) : Prop where
  sets : ctrl.sets.KeyedBy ReplicaSetState.id
  replicas : ctrl.replicas.KeyedBy ReplicaState.id
  workers : ctrl.workers.KeyedBy WorkerRegistration.workerId

structure FiniteDoubles (ctrl : ReplicaSetController) : Prop where
  thresholds : ∀ (id : ReplicaSetId) (s : ReplicaSetState), ctrl.sets[id]? = some s →
    s.policies.health.healthThreshold.Finite
  confidences : ∀ (id : ReplicaId) (r : ReplicaState), ctrl.replicas[id]? = some r →
    r.healthRecord.confidence.Finite

/-- The snapshot fits in memory: a `std::vector` has fewer than `2 ^ 64` bytes. -/
def Addressable (ctrl : ReplicaSetController) : Prop := (makeSnapshot ctrl).length < sizeLimit

instance (ctrl : ReplicaSetController) : Decidable ctrl.Keyed :=
  decidable_of_iff (ctrl.sets.KeyedBy ReplicaSetState.id ∧ ctrl.replicas.KeyedBy ReplicaState.id ∧
    ctrl.workers.KeyedBy WorkerRegistration.workerId)
    ⟨fun all => ⟨all.1, all.2.1, all.2.2⟩, fun all => ⟨all.sets, all.replicas, all.workers⟩⟩

instance (ctrl : ReplicaSetController) : Decidable ctrl.FiniteDoubles :=
  decidable_of_iff ((∀ e ∈ ctrl.sets.toList, e.2.policies.health.healthThreshold.Finite) ∧
    ∀ e ∈ ctrl.replicas.toList, e.2.healthRecord.confidence.Finite)
    ⟨fun all => ⟨Table.forall_get.mpr all.1, Table.forall_get.mpr all.2⟩,
      fun all => ⟨Table.forall_get.mp all.thresholds, Table.forall_get.mp all.confidences⟩⟩

instance (ctrl : ReplicaSetController) : Decidable ctrl.Addressable :=
  inferInstanceAs (Decidable (_ < _))

def recordedState (ctrl : ReplicaSetController) : RecoveredState where
  sets := ctrl.sets
  replicas := ctrl.replicas
  workers := ctrl.workers.values
  promotions := ctrl.promotions
  drains := ctrl.drains
  failovers := ctrl.failovers

end ReplicaSetController

@[simp] theorem writeId_ne_nil {tag : IdTag} (id : Id tag) : writeId id ≠ [] :=
  fun empty => by simpa [writeId] using congrArg List.length empty

theorem writeReplicaSet_ne_nil (s : ReplicaSetState) : writeReplicaSet s ≠ [] := by
  simp [writeReplicaSet]

theorem writeReplica_ne_nil (x : ReplicaState) : writeReplica x ≠ [] := by
  simp [writeReplica]

theorem writeWorker_ne_nil (x : WorkerRegistration) : writeWorker x ≠ [] := by
  simp [writeWorker]

theorem writePromotion_ne_nil (p : PromotionRecord) : writePromotion p ≠ [] := by
  simp [writePromotion]

theorem writeDrain_ne_nil (d : DrainRecord) : writeDrain d ≠ [] := by
  simp [writeDrain]

theorem writeFailover_ne_nil (f : FailoverRecord) : writeFailover f ≠ [] := by
  simp [writeFailover]

section sections

variable {α : Type} {countMsg overflow label duplicate : Str} {rd : Reader α} {write : α → Str}
  {ok : α → Prop}

theorem reads_section {σ : Type} {fold : σ → α → Except Str σ} {s s' : σ} {xs : List α}
    (items : ∀ x, Reads rd (write x) x (ok x)) (nonempty : ∀ x, write x ≠ [])
    (folds : xs.foldlM fold s = .ok s') :
    Reads (foldOf (named countMsg Reader.size) overflow (labelled label rd) fold s)
      (Writer.list write xs) s' (∀ x ∈ xs, ok x) := by
  refine .of_fits fun fits => ?_
  have count : xs.length ≤ (xs.flatMap write).length :=
    ByteCodec.Reads.length_le_flatMap fun x _ => nonempty x
  rw [Writer.list, List.length_append] at fits
  exact (ByteCodec.Reads.foldOf ((reads_size (by omega)).mapError _)
    (fun x _ => (items x).mapError _) (fun x _ => nonempty x) folds).congr (and_iff_right trivial)

theorem reads_table {tag : IdTag} {key : α → Id tag} {t : Table (Id tag) α}
    (keyed : t.KeyedBy key) (items : ∀ x, Reads rd (write x) x (ok x))
    (nonempty : ∀ x, write x ≠ []) :
    Reads (foldOf (named countMsg Reader.size) overflow (labelled label rd)
        (Table.insertNew key duplicate) ∅)
      (Writer.list write (Table.sortedBy key t.values)) t
      (∀ (k : Id tag) (x : α), t[k]? = some x → ok x) := by
  rw [keyed.sortedBy_values]
  refine (reads_section items nonempty (keyed.insertNew_values duplicate)).congr ?_
  simp only [Table.mem_values]
  constructor
  · intro all k x found
    exact all x ⟨k, found⟩
  · rintro all x ⟨k, found⟩
    exact all k x found

theorem reads_log {xs : List α} (items : ∀ x, Reads rd (write x) x True)
    (nonempty : ∀ x, write x ≠ []) :
    Reads (listOf (named countMsg Reader.size) overflow (labelled label rd))
      (Writer.list write xs) xs True :=
  (reads_section items nonempty (ByteCodec.Reads.foldlM_push xs [])).congr (by simp)

end sections

theorem reads_body {ctrl : ReplicaSetController} (keyed : ctrl.Keyed) :
    Reads readBody (snapshotBody ctrl) ctrl.recordedState ctrl.FiniteDoubles := by
  have workers := keyed.workers.sortedBy_values
  refine ByteCodec.Reads.congr ?_ (⟨fun both => ⟨both.1, both.2⟩, fun all => ⟨all.1, all.2⟩⟩ :
    (_ ∧ _) ↔ ctrl.FiniteDoubles)
  rw [snapshotBody, workers]
  exact (reads_table keyed.sets reads_replicaSet writeReplicaSet_ne_nil).both <|
    (reads_table keyed.replicas reads_replica writeReplica_ne_nil).decides <|
    (reads_log reads_worker writeWorker_ne_nil).field <|
    (reads_log reads_promotion writePromotion_ne_nil).field <|
    (reads_log reads_drain writeDrain_ne_nil).field <|
    (reads_log reads_failover writeFailover_ne_nil).field <|
    ((reads_id ctrl.epoch).mapError _).field <| .pure ctrl.recordedState

theorem reads_header (bodyLen : UInt64) :
    Reads readHeader (snapshotHeader bodyLen) bodyLen True := by
  have length : ByteCodec.Reads sizeLimit (named "body length truncation" Reader.u64)
      [Writer.u64 bodyLen].flatten bodyLen True := by
    rw [List.flatten_singleton]
    exact (reads_u64 bodyLen).mapError _
  exact ((ByteCodec.Reads.take _ rfl).mapError _).field <|
    ((reads_u32 formatVersion).mapError _).field <|
    ((reads_u32 schemaVersion).mapError _).field length

theorem length_snapshotHeader (bodyLen : UInt64) : (snapshotHeader bodyLen).length = 24 := by
  simp [snapshotHeader, Writer.u32, Writer.u64]
  rfl

def fileWith (body : Str) : Str :=
  let w := snapshotHeader (UInt64.ofNat body.length) ++ body
  w ++ Writer.u64 (crc64 w)

theorem length_fileWith (body : Str) : (fileWith body).length = 24 + body.length + 8 := by
  simp only [fileWith, List.length_append, length_snapshotHeader, Writer.u64, length_leSplit]

theorem length_makeSnapshot (ctrl : ReplicaSetController) :
    (makeSnapshot ctrl).length = 24 + (snapshotBody ctrl).length + 8 :=
  length_fileWith (snapshotBody ctrl)

theorem magic_starts (bodyLen : UInt64) : magic <+: snapshotHeader bodyLen := by
  rw [snapshotHeader, List.flatten_cons]
  exact List.prefix_append ..

theorem decodeSnapshot_fileWith {body : Str} (addressable : (fileWith body).length < sizeLimit) :
    decodeSnapshot (fileWith body) =
      match readBody body with
      | .error e => .error e
      | .ok (state, rest) =>
          if rest ≠ [] then .error "trailing bytes in body" else .ok state := by
  let bodyLen := UInt64.ofNat body.length
  let header := snapshotHeader bodyLen
  let crc := Writer.u64 (crc64 (header ++ body))
  have bytes : fileWith body = header ++ body ++ crc := rfl
  have total := length_fileWith body
  have fits : 24 + body.length + 8 < sizeLimit := total ▸ addressable
  have headerLength : header.length = 24 := length_snapshotHeader bodyLen
  have decoded : bodyLen.toNat = body.length :=
    UInt64.toNat_ofNat_of_lt' (show body.length < sizeLimit by omega)
  have bodyEnd : (24 + bodyLen.toNat) % sizeLimit = (header ++ body).length := by
    rw [decoded, List.length_append, headerLength, Nat.mod_eq_of_lt (by omega)]
  have startsWith : (fileWith body).take 8 = magic := by
    have isPrefix : magic <+: fileWith body :=
      (magic_starts bodyLen).trans (bytes ▸ (List.append_assoc .. ▸ List.prefix_append ..))
    exact (List.prefix_iff_eq_take.mp isPrefix).symm
  have headed : readHeader (fileWith body) = .ok (bodyLen, body ++ crc) := by
    rw [bytes, List.append_assoc]
    exact (reads_header bodyLen (by rw [headerLength]; decide) (body ++ crc)).1 trivial
  have checksum : UInt64.ofNat (leJoin crc) = crc64 (header ++ body) := by
    rw [show crc = leSplit 8 (crc64 (header ++ body)).toNat from rfl, leJoin_leSplit]
    exact UInt64.toNat_inj.mp (by simp)
  have crcBytes : ((fileWith body).drop (header ++ body).length).take 8 = crc := by
    rw [bytes, List.drop_left]
    exact List.take_of_length_le (length_leSplit 8 _).le
  have crcCovered : (fileWith body).take (header ++ body).length = header ++ body := by
    rw [bytes, List.take_left]
  have bodyBytes : ((fileWith body).drop 24).take bodyLen.toNat = body := by
    rw [bytes, List.append_assoc, List.drop_left' headerLength, List.take_left' decoded.symm]
  have aligned : ¬((header ++ body).length > (fileWith body).length ∨
      (fileWith body).length - (header ++ body).length ≠ 8) := by
    rw [total, List.length_append, headerLength]
    omega
  simp only [decodeSnapshot, headed, bodyEnd, crcBytes, crcCovered, checksum, bodyBytes]
  exact (if_neg (by omega)).trans <| (if_neg (not_not.mpr startsWith)).trans <|
    (if_neg aligned).trans <| if_neg (not_not.mpr rfl)

theorem decodeSnapshot_frame {ctrl : ReplicaSetController} (addressable : ctrl.Addressable) :
    decodeSnapshot (makeSnapshot ctrl) =
      match readBody (snapshotBody ctrl) with
      | .error e => .error e
      | .ok (state, rest) =>
          if rest ≠ [] then .error "trailing bytes in body" else .ok state :=
  decodeSnapshot_fileWith addressable

theorem decodeSnapshot_makeSnapshot {ctrl : ReplicaSetController} (keyed : ctrl.Keyed)
    (addressable : ctrl.Addressable) (finite : ctrl.FiniteDoubles) :
    decodeSnapshot (makeSnapshot ctrl) = .ok ctrl.recordedState := by
  have fits : (snapshotBody ctrl).length < sizeLimit := by
    have total := length_makeSnapshot ctrl
    have small : (makeSnapshot ctrl).length < sizeLimit := addressable
    omega
  have whole := (reads_body keyed fits []).1 finite
  rw [List.append_nil] at whole
  rw [decodeSnapshot_frame addressable, whole]
  exact if_neg (not_not.mpr rfl)

theorem decodeSnapshot_rejects {ctrl : ReplicaSetController} (keyed : ctrl.Keyed)
    (addressable : ctrl.Addressable) (special : ¬ctrl.FiniteDoubles) :
    ∃ e, decodeSnapshot (makeSnapshot ctrl) = .error e := by
  have fits : (snapshotBody ctrl).length < sizeLimit := by
    have total := length_makeSnapshot ctrl
    have small : (makeSnapshot ctrl).length < sizeLimit := addressable
    omega
  obtain ⟨e, failed⟩ := (reads_body keyed fits []).2 special
  rw [List.append_nil] at failed
  exact ⟨e, by rw [decodeSnapshot_frame addressable, failed]⟩

namespace ReplicaSetController

def restored (ctrl : ReplicaSetController) (epoch : CoordinatorEpoch) : ReplicaSetController :=
  { ctrl with replicas := ctrl.replicas.map fun _ r => r.recovered, epoch := epoch }

variable {ctrl : ReplicaSetController}

theorem installRecoveredState_recordedState (keyed : ctrl.Keyed) (other : ReplicaSetController) :
    installRecoveredState ctrl.recordedState other = ctrl.restored other.epoch := by
  simp only [installRecoveredState, recordedState, keyed.workers.insertIfNew_values, restored]

theorem recoverInto_makeSnapshot (keyed : ctrl.Keyed) (addressable : ctrl.Addressable)
    (finite : ctrl.FiniteDoubles) (valid : validateRecoveredState ctrl.recordedState = none)
    (other : ReplicaSetController) :
    recoverInto (makeSnapshot ctrl) other = (.ok (), ctrl.restored other.epoch) := by
  simp only [recoverInto, decodeSnapshot_makeSnapshot keyed addressable finite, valid,
    installRecoveredState_recordedState keyed]

theorem restored_get (epoch : CoordinatorEpoch) (id : ReplicaId) :
    (ctrl.restored epoch).replicas[id]? = ctrl.replicas[id]?.map ReplicaState.recovered :=
  Table.get_map ..

theorem restored_keyed (keyed : ctrl.Keyed) (epoch : CoordinatorEpoch) :
    (ctrl.restored epoch).Keyed where
  sets := keyed.sets
  replicas := keyed.replicas.map fun _ => rfl
  workers := keyed.workers

theorem restored_finite (finite : ctrl.FiniteDoubles) (epoch : CoordinatorEpoch) :
    (ctrl.restored epoch).FiniteDoubles where
  thresholds := finite.thresholds
  confidences id r found := by
    rw [restored_get] at found
    obtain ⟨r, before, rfl⟩ := Option.map_eq_some_iff.mp found
    exact finite.confidences id r before

theorem restored_valid (valid : validateRecoveredState ctrl.recordedState = none)
    (epoch : CoordinatorEpoch) :
    validateRecoveredState (ctrl.restored epoch).recordedState = none := by
  rw [validateRecoveredState_eq_none] at valid ⊢
  refine ⟨fun id r found => ?_, valid.2⟩
  obtain ⟨r, before, rfl⟩ := Option.map_eq_some_iff.mp ((restored_get epoch id).symm.trans found)
  exact valid.1 id r before

theorem length_writeReplica_recovered (r : ReplicaState) :
    (writeReplica r.recovered).length = (writeReplica r).length := by
  simp [writeReplica, ReplicaState.recovered, writeHealthRecord, writeId, writeEnum, Writer.u8,
    Writer.u64, Writer.boolean]

theorem length_snapshot_restored (keyed : ctrl.Keyed) (epoch : CoordinatorEpoch) :
    (makeSnapshot (ctrl.restored epoch)).length = (makeSnapshot ctrl).length := by
  have replicas : (Writer.list writeReplica
      (Table.sortedBy ReplicaState.id (ctrl.restored epoch).replicas.values)).length =
      (Writer.list writeReplica
        (Table.sortedBy ReplicaState.id ctrl.replicas.values)).length := by
    have mapped : (ctrl.restored epoch).replicas.values =
        ctrl.replicas.values.map ReplicaState.recovered := Table.values_map ..
    rw [keyed.replicas.sortedBy_values, (restored_keyed keyed epoch).replicas.sortedBy_values,
      mapped]
    simp [Writer.list, Writer.size, Writer.u64, List.length_flatMap, Function.comp_def,
      length_writeReplica_recovered]
  rw [length_makeSnapshot, length_makeSnapshot]
  simp only [snapshotBody, List.flatten_cons, List.length_append, replicas, writeId,
    Id.length_toBytes]
  rfl

theorem restored_restored (epoch later : CoordinatorEpoch) :
    (ctrl.restored epoch).restored later = ctrl.restored later := by
  have same : (ctrl.restored epoch).replicas.map (fun _ r => r.recovered) =
      (ctrl.restored later).replicas := by
    refine Table.ext_get fun id => ?_
    rw [Table.get_map, restored_get, restored_get, Option.map_map]
    rfl
  simp only [restored] at same ⊢
  rw [same]

theorem snapshot_roundTrip (ctrl other : ReplicaSetController) (keyed : ctrl.Keyed)
    (finite : ctrl.FiniteDoubles) (addressable : ctrl.Addressable) :
    decodeSnapshot (makeSnapshot ctrl) = .ok
        { sets := ctrl.sets
          replicas := ctrl.replicas
          workers := ctrl.workers.values
          promotions := ctrl.promotions
          drains := ctrl.drains
          failovers := ctrl.failovers } ∧
      (ctrl.workers.values.Pairwise fun a b => a.workerId < b.workerId) ∧
      (validateRecoveredState ctrl.recordedState = none →
        ∃ second, recoverInto (makeSnapshot ctrl) other = (.ok (), second) ∧
          second.sets = ctrl.sets ∧ second.workers = ctrl.workers ∧
          second.promotions = ctrl.promotions ∧ second.drains = ctrl.drains ∧
          second.failovers = ctrl.failovers ∧
          (∀ id : ReplicaId, second.replicas[id]? = ctrl.replicas[id]?.map ReplicaState.recovered) ∧
          recoverInto (makeSnapshot second) second = (.ok (), second) ∧
          ∀ third, recoverInto (makeSnapshot second) third =
            (.ok (), { second with epoch := third.epoch })) := by
  refine ⟨decodeSnapshot_makeSnapshot keyed addressable finite, keyed.workers.values_ordered, ?_⟩
  intro valid
  have again (third : ReplicaSetController) :
      recoverInto (makeSnapshot (ctrl.restored other.epoch)) third =
        (.ok (), ctrl.restored third.epoch) := by
    have small : (ctrl.restored other.epoch).Addressable :=
      (length_snapshot_restored keyed other.epoch).trans_lt addressable
    rw [recoverInto_makeSnapshot (restored_keyed keyed _) small (restored_finite finite _)
      (restored_valid valid _), restored_restored]
  exact ⟨ctrl.restored other.epoch, recoverInto_makeSnapshot keyed addressable finite valid other,
    rfl, rfl, rfl, rfl, rfl, restored_get other.epoch, again _, again⟩

def servingController : ReplicaSetController := Machine.run step empty Sample.serving

theorem snapshot_roundTrip_serving :
    ∃ second, recoverInto (makeSnapshot servingController) empty = (.ok (), second) ∧
      second.sets = servingController.sets ∧
      recoverInto (makeSnapshot second) second = (.ok (), second) := by
  obtain ⟨second, recovered, sets, -, -, -, -, -, again, -⟩ :=
    (snapshot_roundTrip servingController empty (by decide) (by decide) (by decide +kernel)).2.2
      (by decide)
  exact ⟨second, recovered, sets, again⟩

end ReplicaSetController

end ReplicaFabric
