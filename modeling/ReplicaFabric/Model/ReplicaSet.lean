import ReplicaFabric.Core.Compatibility
import ReplicaFabric.Core.Policies

namespace ReplicaFabric

structure SyntheticFailureDomain where
  label : Str := []
  kind : Str := []

structure PlacementPolicy where
  antiAffinityDomains : List Str := []
  syntheticDomains : List SyntheticFailureDomain := []
  requireDiversity : Bool := true
  preferredHost : Str := []
  preferredNuma : Str := []
  preferredDevice : Str := []
  preferredFailureDomain : Str := []
  tieBreakStrategy : UInt32 := 0

structure ReplicaSetState where
  id : ReplicaSetId := .null
  modelId : ModelId := .null
  workloadId : WorkloadId := .null
  tenantId : TenantId := .null
  desiredCount : UInt32 := 1
  minHealthy : UInt32 := 1
  maxReplicas : UInt32 := 1
  artifactId : ArtifactId := .null
  artifactGeneration : ArtifactGeneration := .null
  generation : ReplicaSetGeneration := .null
  policyGeneration : PolicyGeneration := .null
  lifecycle : ReplicaSetLifecycle := .created
  compatibility : CompatibilityRequirements := {}
  policies : PolicyBundle := {}
  placementPolicy : PlacementPolicy := {}
  backend : BackendKind := .none
  runtimeName : Str := []
  minCompute : ComputeCapability := {}
  memoryRequirementBytes : UInt64 := 0
  acceleratorRequirement : UInt32 := 0

end ReplicaFabric
