import ReplicaFabric.Persistence.Canonical
import ReplicaFabric.Persistence.Command
import ReplicaFabric.Safety.Store

/-!
# What recovery validates

Recovery keeps the tables keyed, but it compares neither the generations of a replica with those of
its set nor the number of replicas with the limit of the set. The state recovered from a file has
these relations exactly when the records in the file do.
-/

namespace ReplicaFabric

open ByteCodec

structure SameGenerations (r : ReplicaState) (s : ReplicaSetState) : Prop where
  setGeneration : r.setGeneration = s.generation
  policyGeneration : r.policyGeneration = s.policyGeneration
  artifactGeneration : r.artifactGeneration = s.artifactGeneration

structure SnapshotRecords.Related (x : SnapshotRecords) : Prop where
  room : ∀ s ∈ x.sets, x.replicas.countP (fun r => r.setId = s.id) ≤ s.maxReplicas.toNat
  generations : ∀ r ∈ x.replicas, ∀ s ∈ x.sets, s.id = r.setId → SameGenerations r s

theorem SnapshotRecords.tables {x : SnapshotRecords} {state : RecoveredState}
    (tables : x.state = .ok state) :
    state.sets.KeyedBy ReplicaSetState.id ∧ state.sets.values.Perm x.sets ∧
      state.replicas.KeyedBy ReplicaState.id ∧ state.replicas.values.Perm x.replicas := by
  obtain ⟨sets, replicas, foldSets, foldReplicas, rfl⟩ := SnapshotRecords.state_ok.mp tables
  have keyedEmpty {κ ν : Type} [Ord κ] [Std.TransOrd κ] [Std.LawfulEqOrd κ] (key : ν → κ) :
      (∅ : Table κ ν).KeyedBy key := fun k v found => by simp at found
  obtain ⟨keyedSets, filledSets⟩ := Table.filled_of_foldlM (keyedEmpty _) foldSets
  obtain ⟨keyedReplicas, filledReplicas⟩ := Table.filled_of_foldlM (keyedEmpty _) foldReplicas
  exact ⟨keyedSets, filledSets, keyedReplicas, filledReplicas⟩

namespace ReplicaSetController

variable {ctrl : ReplicaSetController}

structure Related (ctrl : ReplicaSetController) : Prop where
  keyed : ctrl.Keyed
  room : ∀ (id : ReplicaSetId) (s : ReplicaSetState), ctrl.sets[id]? = some s →
    ctrl.members id ≤ s.maxReplicas.toNat
  generations : ∀ (id : ReplicaId) (r : ReplicaState), ctrl.replicas[id]? = some r →
    ∃ s, ctrl.sets[r.setId]? = some s ∧ SameGenerations r s

theorem StoreInvariant.related (store : ctrl.StoreInvariant) : ctrl.Related where
  keyed := store.keyed
  room := store.room
  generations id r found := by
    obtain ⟨s, member, agrees⟩ := store.agrees id r found
    exact ⟨s, member, agrees.setGeneration, agrees.policyGeneration, agrees.artifactGeneration⟩

theorem members_eq_values (ctrl : ReplicaSetController) (setId : ReplicaSetId) :
    ctrl.members setId = ctrl.replicas.values.countP fun r => r.setId = setId := by
  rw [members, Table.values, List.countP_map]
  rfl

theorem install_keyed {x : SnapshotRecords} {state : RecoveredState}
    (tables : x.state = .ok state) : (installRecoveredState state ctrl).Keyed := by
  obtain ⟨keyedSets, -, keyedReplicas, -⟩ := SnapshotRecords.tables tables
  exact ⟨keyedSets, keyedReplicas.map fun _ => rfl,
    Table.keyedBy_foldl_insertIfNew (fun k v found => by simp at found) _⟩

theorem decoded_keyed {bytes : Str} {state : RecoveredState}
    (decoded : decodeSnapshot bytes = .ok state) : (installRecoveredState state ctrl).Keyed := by
  obtain ⟨x, -, tables⟩ := readBody_ok.mp (accepted_of_decodeSnapshot decoded).body
  exact install_keyed tables

theorem install_members {x : SnapshotRecords} {state : RecoveredState}
    (tables : x.state = .ok state) (setId : ReplicaSetId) :
    (installRecoveredState state ctrl).members setId =
      x.replicas.countP fun r => r.setId = setId := by
  obtain ⟨-, -, -, filled⟩ := SnapshotRecords.tables tables
  have values : (installRecoveredState state ctrl).replicas.values =
      state.replicas.values.map ReplicaState.recovered := Table.values_map ..
  rw [members_eq_values, values, List.countP_map, ← filled.countP_eq]
  rfl

theorem install_related {x : SnapshotRecords} {state : RecoveredState}
    (tables : x.state = .ok state) (valid : validateRecoveredState state = none) :
    (installRecoveredState state ctrl).Related ↔ x.Related := by
  obtain ⟨keyedSets, filledSets, -, filledReplicas⟩ := SnapshotRecords.tables tables
  have memSets (s : ReplicaSetState) : s ∈ x.sets ↔ state.sets[s.id]? = some s := by
    rw [← filledSets.mem_iff, Table.mem_values]
    exact ⟨fun ⟨k, found⟩ => keyedSets k s found ▸ found, fun found => ⟨s.id, found⟩⟩
  have memReplicas (r : ReplicaState) : r ∈ x.replicas ↔ ∃ id : ReplicaId,
      state.replicas[id]? = some r := by
    rw [← filledReplicas.mem_iff, Table.mem_values]
  constructor
  · rintro ⟨-, room, generations⟩
    refine ⟨fun s member => ?_, fun r member s memberSet same => ?_⟩
    · have counted : (installRecoveredState state ctrl).members s.id = _ :=
        install_members tables s.id
      rw [← counted]
      exact room s.id s ((memSets s).mp member)
    · obtain ⟨id, found⟩ := (memReplicas r).mp member
      have installed : (installRecoveredState state ctrl).replicas[id]? = some r.recovered :=
        (Table.get_map ..).trans (by rw [found]; rfl)
      obtain ⟨s', known, agrees⟩ := generations id r.recovered installed
      have memberSet := (memSets s).mp memberSet
      rw [same] at memberSet
      obtain rfl : s = s' := Option.some.inj (memberSet.symm.trans known)
      exact ⟨agrees.setGeneration, agrees.policyGeneration, agrees.artifactGeneration⟩
  · rintro ⟨room, generations⟩
    refine ⟨install_keyed tables, fun id s found => ?_, fun id r' found => ?_⟩
    · have named : s.id = id := keyedSets id s found
      rw [install_members tables, ← named]
      exact room s ((memSets s).mpr (named ▸ found))
    · obtain ⟨r, before, rfl⟩ := install_get found
      obtain ⟨s, known⟩ := member_of_valid valid before
      have named : s.id = r.setId := keyedSets r.setId s known
      have agrees := generations r ((memReplicas r).mpr ⟨id, before⟩) s
        ((memSets s).mpr (named ▸ known)) named
      exact ⟨s, known, agrees.setGeneration, agrees.policyGeneration, agrees.artifactGeneration⟩

theorem recoverInto_related_iff (bytes : Str)
    (accepted : (recoverInto bytes ctrl).1 = .ok ()) :
    ∃ x, readRecords (fileBody bytes) = .ok (x, []) ∧
      ((recoverInto bytes ctrl).2.Related ↔ x.Related) := by
  rcases ctrl.recoverInto_cases bytes with ⟨refused, -⟩ | ⟨state, decoded, valid, recovered⟩
  · rw [accepted] at refused
    cases refused
  · obtain ⟨x, read, tables⟩ := readBody_ok.mp (accepted_of_decodeSnapshot decoded).body
    refine ⟨x, read, ?_⟩
    rw [recovered]
    exact install_related tables valid

theorem recoverInto_related_iff_serving :
    ∃ x, readRecords (fileBody (makeSnapshot servingController)) = .ok (x, []) ∧
      ((recoverInto (makeSnapshot servingController) empty).2.Related ↔ x.Related) := by
  have keyed : servingController.Keyed := by decide
  have recovered := recoverInto_makeSnapshot keyed (by decide +kernel) (by decide) (by decide) empty
  exact recoverInto_related_iff (makeSnapshot servingController) (by rw [recovered])

def skewedController : ReplicaSetController :=
  { servingController with
    replicas := servingController.replicas.map fun _ r => { r with setGeneration := ⟨7, 7⟩ } }

theorem skewed_recovers :
    ¬∀ (bytes : Str) (ctrl : ReplicaSetController), (recoverInto bytes ctrl).1 = .ok () →
      (recoverInto bytes ctrl).2.Related := by
  intro always
  have keyed : skewedController.Keyed := by decide
  have recovered := recoverInto_makeSnapshot keyed (by decide +kernel) (by decide) (by decide) empty
  have related := always (makeSnapshot skewedController) empty (by rw [recovered])
  rw [recovered] at related
  dsimp only at related
  have found : (skewedController.restored empty.epoch).replicas[(⟨0, 1⟩ : ReplicaId)]?.map
      (fun r => (r.setId, r.setGeneration)) = some (Sample.setId, ⟨7, 7⟩) := by decide
  obtain ⟨r, member, fields⟩ := Option.map_eq_some_iff.mp found
  obtain ⟨ofSample, skewed⟩ := Prod.mk.inj fields
  obtain ⟨s, known, agrees⟩ := related.generations _ r member
  have ofSet : (skewedController.restored empty.epoch).sets[Sample.setId]?.map
      (·.generation) = some .null := by decide
  rw [← ofSample, known, Option.map_some, ← agrees.setGeneration, skewed] at ofSet
  cases ofSet

end ReplicaSetController

end ReplicaFabric
