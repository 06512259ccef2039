import ReplicaFabric.Core.Basic

namespace ReplicaFabric

/-- An enumeration with its lookup table: values and names in declaration order. The table
agrees with the cast of a value to its underlying integer. -/
class EnumTable (E : Type) [DecidableEq E] where
  table : List (E × Str)
  ordinal : E → Nat
  table_ordinal : ∀ v, table[ordinal v]?.map Prod.fst = some v
  ordinal_table : ∀ (i : Nat) (h : i < table.length), ordinal (table.get ⟨i, h⟩).1 = i
  length_le : table.length ≤ 256

section
variable {E : Type} [DecidableEq E] [EnumTable E]

/-- `static_cast<std::uint8_t>(v)` -/
def enumByte (v : E) : UInt8 := UInt8.ofNat (EnumTable.ordinal v)

/-- `detail::enum_to_string_lookup` -/
def enumString (v : E) : Str :=
  ((EnumTable.table.find? fun p => p.1 = v).map Prod.snd).getD (ascii "?")

/-- `detail::enum_from_int_lookup` -/
def enumFromInt (E : Type) [DecidableEq E] [EnumTable E] (v : Int) : Option E :=
  if v < 0 ∨ v ≥ (EnumTable.table (E := E)).length then none
  else (EnumTable.table (E := E))[v.toNat]?.map Prod.fst

theorem ordinal_lt (v : E) : EnumTable.ordinal v < (EnumTable.table (E := E)).length := by
  have found := EnumTable.table_ordinal v
  by_contra outside
  rw [List.getElem?_eq_none (by omega)] at found
  cases found

theorem enumByte_toNat (v : E) : (enumByte v).toNat = EnumTable.ordinal v := by
  have inside := ordinal_lt v
  have small := EnumTable.length_le (E := E)
  simp only [enumByte, UInt8.toNat_ofNat']
  omega

@[simp] theorem enumFromInt_enumByte (v : E) : enumFromInt E (enumByte v).toNat = some v := by
  have inside := ordinal_lt v
  rw [enumByte_toNat, enumFromInt, if_neg (by omega)]
  exact EnumTable.table_ordinal v

theorem enumByte_of_enumFromInt {b : UInt8} {v : E} (found : enumFromInt E b.toNat = some v) :
    enumByte v = b := by
  unfold enumFromInt at found
  split at found
  · cases found
  · next inside =>
      obtain ⟨entry, located, rfl⟩ := Option.map_eq_some_iff.mp found
      obtain ⟨bound, rfl⟩ := List.getElem?_eq_some_iff.mp located
      have position := EnumTable.ordinal_table (E := E) _ bound
      apply UInt8.toNat_inj.mp
      rw [enumByte_toNat]
      simpa using position

end

inductive ReplicaSetLifecycle
  | created | provisioning | available | degraded | draining | retired | failed
  deriving DecidableEq, Repr

instance : EnumTable ReplicaSetLifecycle where
  table := [(.created, "CREATED"), (.provisioning, "PROVISIONING"), (.available, "AVAILABLE"),
    (.degraded, "DEGRADED"), (.draining, "DRAINING"), (.retired, "RETIRED"), (.failed, "FAILED")]
  ordinal := ReplicaSetLifecycle.ctorIdx
  table_ordinal v := by cases v <;> rfl
  ordinal_table := by decide
  length_le := by decide

inductive ReplicaLifecycle
  | declared | allocating | starting | warming | ready | serving | draining | quiesced | failed
  | retired
  deriving DecidableEq, Repr

instance : EnumTable ReplicaLifecycle where
  table := [(.declared, "DECLARED"), (.allocating, "ALLOCATING"), (.starting, "STARTING"),
    (.warming, "WARMING"), (.ready, "READY"), (.serving, "SERVING"), (.draining, "DRAINING"),
    (.quiesced, "QUIESCED"), (.failed, "FAILED"), (.retired, "RETIRED")]
  ordinal := ReplicaLifecycle.ctorIdx
  table_ordinal v := by cases v <;> rfl
  ordinal_table := by decide
  length_le := by decide

inductive HealthState
  | unknown | starting | healthy | degraded | unhealthy | failed | quarantined
  deriving DecidableEq, Repr

instance : EnumTable HealthState where
  table := [(.unknown, "UNKNOWN"), (.starting, "STARTING"), (.healthy, "HEALTHY"),
    (.degraded, "DEGRADED"), (.unhealthy, "UNHEALTHY"), (.failed, "FAILED"),
    (.quarantined, "QUARANTINED")]
  ordinal := HealthState.ctorIdx
  table_ordinal v := by cases v <;> rfl
  ordinal_table := by decide
  length_le := by decide

inductive HealthEvidenceKind
  | unknown | measured | reported | derived | heuristic
  deriving DecidableEq, Repr

instance : EnumTable HealthEvidenceKind where
  table := [(.unknown, "UNKNOWN"), (.measured, "MEASURED"), (.reported, "REPORTED"),
    (.derived, "DERIVED"), (.heuristic, "HEURISTIC")]
  ordinal := HealthEvidenceKind.ctorIdx
  table_ordinal v := by cases v <;> rfl
  ordinal_table := by decide
  length_le := by decide

inductive WarmthState
  | cold | warming | warm | staleWarmth | invalidated
  deriving DecidableEq, Repr

instance : EnumTable WarmthState where
  table := [(.cold, "COLD"), (.warming, "WARMING"), (.warm, "WARM"),
    (.staleWarmth, "STALE_WARMTH"), (.invalidated, "INVALIDATED")]
  ordinal := WarmthState.ctorIdx
  table_ordinal v := by cases v <;> rfl
  ordinal_table := by decide
  length_le := by decide

inductive ReadinessState
  | unknown | notReady | ready
  deriving DecidableEq, Repr

instance : EnumTable ReadinessState where
  table := [(.unknown, "UNKNOWN"), (.notReady, "NOT_READY"), (.ready, "READY")]
  ordinal := ReadinessState.ctorIdx
  table_ordinal v := by cases v <;> rfl
  ordinal_table := by decide
  length_le := by decide

inductive PromotionState
  | notPromoted | standby | canary | replacement | recovered | primary
  deriving DecidableEq, Repr

instance : EnumTable PromotionState where
  table := [(.notPromoted, "NOT_PROMOTED"), (.standby, "STANDBY"), (.canary, "CANARY"),
    (.replacement, "REPLACEMENT"), (.recovered, "RECOVERED"), (.primary, "PRIMARY")]
  ordinal := PromotionState.ctorIdx
  table_ordinal v := by cases v <;> rfl
  ordinal_table := by decide
  length_le := by decide

inductive ReplicaRole
  | none | primary | secondary | standby | canary
  deriving DecidableEq, Repr

instance : EnumTable ReplicaRole where
  table := [(.none, "NONE"), (.primary, "PRIMARY"), (.secondary, "SECONDARY"),
    (.standby, "STANDBY"), (.canary, "CANARY")]
  ordinal := ReplicaRole.ctorIdx
  table_ordinal v := by cases v <;> rfl
  ordinal_table := by decide
  length_le := by decide

inductive DrainState
  | notDraining | draining | quiescing | quiesced | complete | cancelled
  deriving DecidableEq, Repr

instance : EnumTable DrainState where
  table := [(.notDraining, "NOT_DRAINING"), (.draining, "DRAINING"), (.quiescing, "QUIESCING"),
    (.quiesced, "QUIESCED"), (.complete, "COMPLETE"), (.cancelled, "CANCELLED")]
  ordinal := DrainState.ctorIdx
  table_ordinal v := by cases v <;> rfl
  ordinal_table := by decide
  length_le := by decide

inductive FailoverState
  | none | triggered | selecting | promoting | complete | failed
  deriving DecidableEq, Repr

instance : EnumTable FailoverState where
  table := [(.none, "NONE"), (.triggered, "TRIGGERED"), (.selecting, "SELECTING"),
    (.promoting, "PROMOTING"), (.complete, "COMPLETE"), (.failed, "FAILED")]
  ordinal := FailoverState.ctorIdx
  table_ordinal v := by cases v <;> rfl
  ordinal_table := by decide
  length_le := by decide

inductive WorkOutcome
  | unknown | succeeded | failed | ambiguous
  deriving DecidableEq, Repr

instance : EnumTable WorkOutcome where
  table := [(.unknown, "UNKNOWN"), (.succeeded, "SUCCEEDED"), (.failed, "FAILED"),
    (.ambiguous, "AMBIGUOUS")]
  ordinal := WorkOutcome.ctorIdx
  table_ordinal v := by cases v <;> rfl
  ordinal_table := by decide
  length_le := by decide

inductive MemoryResidencyState
  | unknown | notResident | resident | evicted
  deriving DecidableEq, Repr

instance : EnumTable MemoryResidencyState where
  table := [(.unknown, "UNKNOWN"), (.notResident, "NOT_RESIDENT"), (.resident, "RESIDENT"),
    (.evicted, "EVICTED")]
  ordinal := MemoryResidencyState.ctorIdx
  table_ordinal v := by cases v <;> rfl
  ordinal_table := by decide
  length_le := by decide

inductive PlacementState
  | pending | assigned | failed | invalidated
  deriving DecidableEq, Repr

instance : EnumTable PlacementState where
  table := [(.pending, "PENDING"), (.assigned, "ASSIGNED"), (.failed, "FAILED"),
    (.invalidated, "INVALIDATED")]
  ordinal := PlacementState.ctorIdx
  table_ordinal v := by cases v <;> rfl
  ordinal_table := by decide
  length_le := by decide

inductive AcceleratorKind
  | none | cpu | cuda | rocm | sycl | custom
  deriving DecidableEq, Repr

instance : EnumTable AcceleratorKind where
  table := [(.none, "NONE"), (.cpu, "CPU"), (.cuda, "CUDA"), (.rocm, "ROCM"), (.sycl, "SYCL"),
    (.custom, "CUSTOM")]
  ordinal := AcceleratorKind.ctorIdx
  table_ordinal v := by cases v <;> rfl
  ordinal_table := by decide
  length_le := by decide

inductive BackendKind
  | none | triton | tensorrt | onnx | vllm | custom
  deriving DecidableEq, Repr

instance : EnumTable BackendKind where
  table := [(.none, "NONE"), (.triton, "TRITON"), (.tensorrt, "TENSORRT"), (.onnx, "ONNX"),
    (.vllm, "VLLM"), (.custom, "CUSTOM")]
  ordinal := BackendKind.ctorIdx
  table_ordinal v := by cases v <;> rfl
  ordinal_table := by decide
  length_le := by decide

inductive NumericMode
  | unknown | fp32 | fp16 | bf16 | fp8 | int8 | mixed
  deriving DecidableEq, Repr

instance : EnumTable NumericMode where
  table := [(.unknown, "UNKNOWN"), (.fp32, "FP32"), (.fp16, "FP16"), (.bf16, "BF16"),
    (.fp8, "FP8"), (.int8, "INT8"), (.mixed, "MIXED")]
  ordinal := NumericMode.ctorIdx
  table_ordinal v := by cases v <;> rfl
  ordinal_table := by decide
  length_le := by decide

end ReplicaFabric
