import ReplicaFabric.Core.Enums

namespace ReplicaFabric

structure HealthPolicy where
  enabled : Bool := true
  expectedIntervalNs : UInt64 := 0
  staleAfterNs : UInt64 := 5000000000
  degradeAfterNs : UInt64 := 0
  unhealthyAfterMisses : UInt32 := 3
  quarantineAfterFailures : UInt32 := 3
  minHealthyObservations : UInt32 := 1
  -- 0.5
  healthThreshold : Double := ⟨0x3FE0000000000000⟩
  initial : HealthState := .starting
  deriving DecidableEq, Repr

structure WarmingPolicy where
  enabled : Bool := true
  requireArtifactLoaded : Bool := true
  requireWeightsResident : Bool := true
  requireAdaptersActive : Bool := true
  requireKernelInit : Bool := true
  requireGraphInit : Bool := true
  requireAllocatorInit : Bool := true
  requireDeviceContext : Bool := true
  requireBoundedWarmup : Bool := true
  requireEndpoint : Bool := true
  warmupWorkSteps : UInt64 := 0
  warmupTimeoutNs : UInt64 := 30000000000
  deriving DecidableEq, Repr

structure DrainingPolicy where
  rejectNewWork : Bool := true
  allowExistingToFinish : Bool := true
  allowForceCancel : Bool := false
  gracePeriodNs : UInt64 := 30000000000
  forceCancelAfterNs : UInt64 := 0
  deriving DecidableEq, Repr

structure PromotionPolicy where
  requireReady : Bool := true
  requireHealthy : Bool := true
  minHealth : HealthState := .healthy
  requireCompatible : Bool := true
  requirePlacementValid : Bool := true
  requireResources : Bool := true
  requireAuthorityCurrent : Bool := true
  allowCanary : Bool := false
  autoPromoteStandby : Bool := true
  deriving DecidableEq, Repr

structure FailoverPolicy where
  requireDiversity : Bool := true
  preferStandbyFirst : Bool := true
  maxAttempts : UInt32 := 1
  preserveGeneration : Bool := true
  rejectAmbiguousOutcome : Bool := false
  deriving DecidableEq, Repr

structure PolicyBundle where
  health : HealthPolicy := {}
  warming : WarmingPolicy := {}
  draining : DrainingPolicy := {}
  promotion : PromotionPolicy := {}
  failover : FailoverPolicy := {}
  deriving DecidableEq, Repr

end ReplicaFabric
