import ReplicaFabric.Core.Compatibility

namespace ReplicaFabric

structure HealthEvidence where
  state : HealthState := .unknown
  kind : HealthEvidenceKind := .unknown
  source : Str := []
  observedAtMono : MonotonicNs := 0
  observedAtWall : WallNs := 0
  freshnessNs : UInt64 := 0
  confidence : Double := ⟨0⟩
  generation : HealthGeneration := .null
  message : Str := []

structure HealthRecord where
  state : HealthState := .unknown
  kind : HealthEvidenceKind := .unknown
  source : Str := []
  updatedAtMono : MonotonicNs := 0
  updatedAtWall : WallNs := 0
  confidence : Double := ⟨0⟩
  generation : HealthGeneration := .null
  reason : Str := []
  consecutiveStale : UInt32 := 0
  consecutiveFailures : UInt32 := 0

structure ReadinessFactors where
  modelLoaded : Bool := false
  artifactValidated : Bool := false
  adaptersPresent : Bool := false
  kernelPrepared : Bool := false
  graphPrepared : Bool := false
  memoryAvailable : Bool := false
  deviceContextInitialized : Bool := false
  warmupComplete : Bool := false
  dependenciesReady : Bool := false
  endpointRegistered : Bool := false
  policyCurrent : Bool := false

def ReadinessFactors.allSet (f : ReadinessFactors) : Bool :=
  f.modelLoaded && f.artifactValidated && f.adaptersPresent && f.kernelPrepared &&
    f.graphPrepared && f.memoryAvailable && f.deviceContextInitialized && f.warmupComplete &&
    f.dependenciesReady && f.endpointRegistered && f.policyCurrent

structure ReadinessRecord where
  state : ReadinessState := .unknown
  factors : ReadinessFactors := {}
  updatedAtMono : MonotonicNs := 0
  updatedAtWall : WallNs := 0
  reason : Str := []

structure WarmingRecord where
  state : WarmthState := .cold
  stepsCompleted : UInt64 := 0
  stepsRequired : UInt64 := 0
  artifactLoadingDone : Bool := false
  weightsResident : Bool := false
  adaptersActive : Bool := false
  kernelInitDone : Bool := false
  graphInitDone : Bool := false
  allocatorInitDone : Bool := false
  deviceContextDone : Bool := false
  warmupExecutionDone : Bool := false
  endpointRegistered : Bool := false
  startedWarmingMono : MonotonicNs := 0
  becameWarmMono : MonotonicNs := 0
  becameWarmWall : WallNs := 0
  message : Str := []

structure ReplicaState where
  id : ReplicaId := .null
  setId : ReplicaSetId := .null
  generation : ReplicaGeneration := .null
  nodeId : NodeId := .null
  workerId : WorkerId := .null
  bootId : WorkerBootId := .null
  artifactId : ArtifactId := .null
  artifactGeneration : ArtifactGeneration := .null
  backend : BackendKind := .none
  backendIdentity : Str := []
  deviceIdentity : Str := []
  accelerator : AcceleratorKind := .none
  computeCapability : ComputeCapability := {}
  memoryResidency : MemoryResidencyState := .unknown
  warmth : WarmthState := .cold
  readiness : ReadinessState := .unknown
  health : HealthState := .unknown
  lifecycle : ReplicaLifecycle := .declared
  placementId : PlacementId := .null
  placement : PlacementState := .pending
  promotion : PromotionState := .notPromoted
  role : ReplicaRole := .none
  servingEligible : Bool := false
  activeRequests : UInt64 := 0
  reservedCapacity : UInt64 := 0
  capacityTotal : UInt64 := 0
  startTimeMono : MonotonicNs := 0
  startTimeWall : WallNs := 0
  healthRecord : HealthRecord := {}
  readinessRecord : ReadinessRecord := {}
  warmingRecord : WarmingRecord := {}
  coordinatorEpoch : CoordinatorEpoch := .null
  setGeneration : ReplicaSetGeneration := .null
  healthGeneration : HealthGeneration := .null
  policyGeneration : PolicyGeneration := .null
  policyFingerprint : Str := []
  compatibility : ReplicaCompatibility := {}

end ReplicaFabric
