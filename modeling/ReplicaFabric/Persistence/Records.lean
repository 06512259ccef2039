import ReplicaFabric.Controller.State
import ReplicaFabric.Persistence.Codec

namespace ReplicaFabric

def writeDevice (d : DeviceCapability) : Str :=
  [ writeEnum d.kind, Writer.string d.deviceId, writeCc d.compute,
    Writer.u64 d.memoryBytes ].flatten

def readDevice : Reader DeviceCapability := do
  let kind ← readEnum
  let deviceId ← Reader.string
  let compute ← readCc
  let memoryBytes ← Reader.u64
  return { kind, deviceId, compute, memoryBytes }

def writeBackend (b : BackendCapability) : Str :=
  [ writeEnum b.kind, Writer.string b.name, writeCc b.compute, writeEnum b.numeric ].flatten

def readBackend : Reader BackendCapability := do
  let kind ← readEnum
  let name ← Reader.string
  let compute ← readCc
  let numeric ← readEnum
  return { kind, name, compute, numeric }

def writeInventory (i : ResourceInventory) : Str :=
  [ Writer.u64 i.totalMemoryBytes, Writer.u64 i.freeMemoryBytes,
    Writer.u32 i.acceleratorCount.toUInt32, Writer.list writeDevice i.devices,
    Writer.list writeBackend i.backends ].flatten

def readInventory : Reader ResourceInventory := do
  let totalMemoryBytes ← Reader.u64
  let freeMemoryBytes ← Reader.u64
  let ac ← Reader.u32
  let devices ← Reader.list [] readDevice
  let backends ← Reader.list [] readBackend
  return { totalMemoryBytes, freeMemoryBytes, acceleratorCount := ac.toInt32, devices, backends }

def writeWorker (x : WorkerRegistration) : Str :=
  [ writeId x.workerId, writeId x.bootId, writeId x.nodeId, writeInventory x.inventory,
    writeId x.hostedSetGeneration, Writer.u32 x.protocolVersion ].flatten

def readWorker : Reader WorkerRegistration := do
  let workerId ← readId
  let bootId ← readId
  let nodeId ← readId
  let inventory ← readInventory
  let hostedSetGeneration ← readId
  let protocolVersion ← Reader.u32
  return { workerId, bootId, nodeId, inventory, hostedSetGeneration, protocolVersion }

def writeHealthPolicy (p : HealthPolicy) : Str :=
  [ Writer.boolean p.enabled, Writer.u64 p.expectedIntervalNs, Writer.u64 p.staleAfterNs,
    Writer.u64 p.degradeAfterNs, Writer.u32 p.unhealthyAfterMisses,
    Writer.u32 p.quarantineAfterFailures, Writer.u32 p.minHealthyObservations,
    Writer.f64 p.healthThreshold, writeEnum p.initial ].flatten

def readHealthPolicy : Reader HealthPolicy := do
  let enabled ← Reader.boolean
  let expectedIntervalNs ← Reader.u64
  let staleAfterNs ← Reader.u64
  let degradeAfterNs ← Reader.u64
  let unhealthyAfterMisses ← Reader.u32
  let quarantineAfterFailures ← Reader.u32
  let minHealthyObservations ← Reader.u32
  let healthThreshold ← Reader.f64
  let initial ← readEnum
  return { enabled, expectedIntervalNs, staleAfterNs, degradeAfterNs, unhealthyAfterMisses,
           quarantineAfterFailures, minHealthyObservations, healthThreshold, initial }

def writeWarmingPolicy (p : WarmingPolicy) : Str :=
  [ Writer.boolean p.enabled, Writer.boolean p.requireArtifactLoaded,
    Writer.boolean p.requireWeightsResident, Writer.boolean p.requireAdaptersActive,
    Writer.boolean p.requireKernelInit, Writer.boolean p.requireGraphInit,
    Writer.boolean p.requireAllocatorInit, Writer.boolean p.requireDeviceContext,
    Writer.boolean p.requireBoundedWarmup, Writer.boolean p.requireEndpoint,
    Writer.u64 p.warmupWorkSteps, Writer.u64 p.warmupTimeoutNs ].flatten

def readWarmingPolicy : Reader WarmingPolicy := do
  let enabled ← Reader.boolean
  let requireArtifactLoaded ← Reader.boolean
  let requireWeightsResident ← Reader.boolean
  let requireAdaptersActive ← Reader.boolean
  let requireKernelInit ← Reader.boolean
  let requireGraphInit ← Reader.boolean
  let requireAllocatorInit ← Reader.boolean
  let requireDeviceContext ← Reader.boolean
  let requireBoundedWarmup ← Reader.boolean
  let requireEndpoint ← Reader.boolean
  let warmupWorkSteps ← Reader.u64
  let warmupTimeoutNs ← Reader.u64
  return { enabled, requireArtifactLoaded, requireWeightsResident, requireAdaptersActive,
           requireKernelInit, requireGraphInit, requireAllocatorInit, requireDeviceContext,
           requireBoundedWarmup, requireEndpoint, warmupWorkSteps, warmupTimeoutNs }

def writeDrainingPolicy (p : DrainingPolicy) : Str :=
  [ Writer.boolean p.rejectNewWork, Writer.boolean p.allowExistingToFinish,
    Writer.boolean p.allowForceCancel, Writer.u64 p.gracePeriodNs,
    Writer.u64 p.forceCancelAfterNs ].flatten

def readDrainingPolicy : Reader DrainingPolicy := do
  let rejectNewWork ← Reader.boolean
  let allowExistingToFinish ← Reader.boolean
  let allowForceCancel ← Reader.boolean
  let gracePeriodNs ← Reader.u64
  let forceCancelAfterNs ← Reader.u64
  return { rejectNewWork, allowExistingToFinish, allowForceCancel, gracePeriodNs,
           forceCancelAfterNs }

def writePromotionPolicy (p : PromotionPolicy) : Str :=
  [ Writer.boolean p.requireReady, Writer.boolean p.requireHealthy, writeEnum p.minHealth,
    Writer.boolean p.requireCompatible, Writer.boolean p.requirePlacementValid,
    Writer.boolean p.requireResources, Writer.boolean p.requireAuthorityCurrent,
    Writer.boolean p.allowCanary, Writer.boolean p.autoPromoteStandby ].flatten

def readPromotionPolicy : Reader PromotionPolicy := do
  let requireReady ← Reader.boolean
  let requireHealthy ← Reader.boolean
  let minHealth ← readEnum
  let requireCompatible ← Reader.boolean
  let requirePlacementValid ← Reader.boolean
  let requireResources ← Reader.boolean
  let requireAuthorityCurrent ← Reader.boolean
  let allowCanary ← Reader.boolean
  let autoPromoteStandby ← Reader.boolean
  return { requireReady, requireHealthy, minHealth, requireCompatible, requirePlacementValid,
           requireResources, requireAuthorityCurrent, allowCanary, autoPromoteStandby }

def writeFailoverPolicy (p : FailoverPolicy) : Str :=
  [ Writer.boolean p.requireDiversity, Writer.boolean p.preferStandbyFirst,
    Writer.u32 p.maxAttempts, Writer.boolean p.preserveGeneration,
    Writer.boolean p.rejectAmbiguousOutcome ].flatten

def readFailoverPolicy : Reader FailoverPolicy := do
  let requireDiversity ← Reader.boolean
  let preferStandbyFirst ← Reader.boolean
  let maxAttempts ← Reader.u32
  let preserveGeneration ← Reader.boolean
  let rejectAmbiguousOutcome ← Reader.boolean
  return { requireDiversity, preferStandbyFirst, maxAttempts, preserveGeneration,
           rejectAmbiguousOutcome }

def writePolicies (p : PolicyBundle) : Str :=
  [ writeHealthPolicy p.health, writeWarmingPolicy p.warming, writeDrainingPolicy p.draining,
    writePromotionPolicy p.promotion, writeFailoverPolicy p.failover ].flatten

def readPolicies : Reader PolicyBundle := do
  let health ← readHealthPolicy
  let warming ← readWarmingPolicy
  let draining ← readDrainingPolicy
  let promotion ← readPromotionPolicy
  let failover ← readFailoverPolicy
  return { health, warming, draining, promotion, failover }

def writeSyntheticDomain (d : SyntheticFailureDomain) : Str :=
  [ Writer.string d.label, Writer.string d.kind ].flatten

def readSyntheticDomain : Reader SyntheticFailureDomain := do
  let label ← Reader.string
  let kind ← Reader.string
  return { label, kind }

def writePlacementPolicy (p : PlacementPolicy) : Str :=
  [ Writer.strings p.antiAffinityDomains, Writer.list writeSyntheticDomain p.syntheticDomains,
    Writer.boolean p.requireDiversity, Writer.string p.preferredHost,
    Writer.string p.preferredNuma, Writer.string p.preferredDevice,
    Writer.string p.preferredFailureDomain, Writer.u32 p.tieBreakStrategy ].flatten

def readPlacementPolicy : Reader PlacementPolicy := do
  let antiAffinityDomains ← Reader.strings
  let syntheticDomains ← Reader.list [] readSyntheticDomain
  let requireDiversity ← Reader.boolean
  let preferredHost ← Reader.string
  let preferredNuma ← Reader.string
  let preferredDevice ← Reader.string
  let preferredFailureDomain ← Reader.string
  let tieBreakStrategy ← Reader.u32
  return { antiAffinityDomains, syntheticDomains, requireDiversity, preferredHost, preferredNuma,
           preferredDevice, preferredFailureDomain, tieBreakStrategy }

def writeCompatReq (c : CompatibilityRequirements) : Str :=
  [ writeId c.modelId, Writer.string c.modelRevision, Writer.string c.tokenizerVocab,
    Writer.strings c.requiredAdapters, writeEnum c.backend, Writer.string c.runtimeName,
    Writer.string c.architecture, writeCc c.minCompute, writeEnum c.numericMode,
    writeId c.artifactGeneration, Writer.string c.kernelAbi,
    Writer.string c.policyFingerprint ].flatten

def readCompatReq : Reader CompatibilityRequirements := do
  let modelId ← readId
  let modelRevision ← Reader.string
  let tokenizerVocab ← Reader.string
  let requiredAdapters ← Reader.strings
  let backend ← readEnum
  let runtimeName ← Reader.string
  let architecture ← Reader.string
  let minCompute ← readCc
  let numericMode ← readEnum
  let artifactGeneration ← readId
  let kernelAbi ← Reader.string
  let policyFingerprint ← Reader.string
  return { modelId, modelRevision, tokenizerVocab, requiredAdapters, backend, runtimeName,
           architecture, minCompute, numericMode, artifactGeneration, kernelAbi,
           policyFingerprint }

def writeReplicaCompat (c : ReplicaCompatibility) : Str :=
  [ writeId c.modelId, Writer.string c.modelRevision, Writer.string c.tokenizerVocab,
    Writer.strings c.adapters, writeEnum c.backend, Writer.string c.runtimeName,
    Writer.string c.architecture, writeCc c.compute, writeEnum c.numericMode,
    writeId c.artifactGeneration, Writer.string c.kernelAbi,
    Writer.string c.policyFingerprint ].flatten

def readReplicaCompat : Reader ReplicaCompatibility := do
  let modelId ← readId
  let modelRevision ← Reader.string
  let tokenizerVocab ← Reader.string
  let adapters ← Reader.strings
  let backend ← readEnum
  let runtimeName ← Reader.string
  let architecture ← Reader.string
  let compute ← readCc
  let numericMode ← readEnum
  let artifactGeneration ← readId
  let kernelAbi ← Reader.string
  let policyFingerprint ← Reader.string
  return { modelId, modelRevision, tokenizerVocab, adapters, backend, runtimeName, architecture,
           compute, numericMode, artifactGeneration, kernelAbi, policyFingerprint }

def writeHealthRecord (h : HealthRecord) : Str :=
  [ writeEnum h.state, writeEnum h.kind, Writer.string h.source, Writer.u64 h.updatedAtMono,
    Writer.i64 h.updatedAtWall, Writer.f64 h.confidence, writeId h.generation,
    Writer.string h.reason, Writer.u32 h.consecutiveStale,
    Writer.u32 h.consecutiveFailures ].flatten

def readHealthRecord : Reader HealthRecord := do
  let state ← readEnum
  let kind ← readEnum
  let source ← Reader.string
  let updatedAtMono ← Reader.u64
  let updatedAtWall ← Reader.i64
  let confidence ← Reader.f64
  let generation ← readId
  let reason ← Reader.string
  let consecutiveStale ← Reader.u32
  let consecutiveFailures ← Reader.u32
  return { state, kind, source, updatedAtMono, updatedAtWall, confidence, generation, reason,
           consecutiveStale, consecutiveFailures }

def writeReadinessFactors (f : ReadinessFactors) : Str :=
  [ Writer.boolean f.modelLoaded, Writer.boolean f.artifactValidated,
    Writer.boolean f.adaptersPresent, Writer.boolean f.kernelPrepared,
    Writer.boolean f.graphPrepared, Writer.boolean f.memoryAvailable,
    Writer.boolean f.deviceContextInitialized, Writer.boolean f.warmupComplete,
    Writer.boolean f.dependenciesReady, Writer.boolean f.endpointRegistered,
    Writer.boolean f.policyCurrent ].flatten

def readReadinessFactors : Reader ReadinessFactors := do
  let modelLoaded ← Reader.boolean
  let artifactValidated ← Reader.boolean
  let adaptersPresent ← Reader.boolean
  let kernelPrepared ← Reader.boolean
  let graphPrepared ← Reader.boolean
  let memoryAvailable ← Reader.boolean
  let deviceContextInitialized ← Reader.boolean
  let warmupComplete ← Reader.boolean
  let dependenciesReady ← Reader.boolean
  let endpointRegistered ← Reader.boolean
  let policyCurrent ← Reader.boolean
  return { modelLoaded, artifactValidated, adaptersPresent, kernelPrepared, graphPrepared,
           memoryAvailable, deviceContextInitialized, warmupComplete, dependenciesReady,
           endpointRegistered, policyCurrent }

def writeReadinessRecord (x : ReadinessRecord) : Str :=
  [ writeEnum x.state, writeReadinessFactors x.factors, Writer.u64 x.updatedAtMono,
    Writer.i64 x.updatedAtWall, Writer.string x.reason ].flatten

def readReadinessRecord : Reader ReadinessRecord := do
  let state ← readEnum
  let factors ← readReadinessFactors
  let updatedAtMono ← Reader.u64
  let updatedAtWall ← Reader.i64
  let reason ← Reader.string
  return { state, factors, updatedAtMono, updatedAtWall, reason }

def writeWarmingRecord (x : WarmingRecord) : Str :=
  [ writeEnum x.state, Writer.u64 x.stepsCompleted, Writer.u64 x.stepsRequired,
    Writer.boolean x.artifactLoadingDone, Writer.boolean x.weightsResident,
    Writer.boolean x.adaptersActive, Writer.boolean x.kernelInitDone,
    Writer.boolean x.graphInitDone, Writer.boolean x.allocatorInitDone,
    Writer.boolean x.deviceContextDone, Writer.boolean x.warmupExecutionDone,
    Writer.boolean x.endpointRegistered, Writer.u64 x.startedWarmingMono,
    Writer.u64 x.becameWarmMono, Writer.i64 x.becameWarmWall, Writer.string x.message ].flatten

def readWarmingRecord : Reader WarmingRecord := do
  let state ← readEnum
  let stepsCompleted ← Reader.u64
  let stepsRequired ← Reader.u64
  let artifactLoadingDone ← Reader.boolean
  let weightsResident ← Reader.boolean
  let adaptersActive ← Reader.boolean
  let kernelInitDone ← Reader.boolean
  let graphInitDone ← Reader.boolean
  let allocatorInitDone ← Reader.boolean
  let deviceContextDone ← Reader.boolean
  let warmupExecutionDone ← Reader.boolean
  let endpointRegistered ← Reader.boolean
  let startedWarmingMono ← Reader.u64
  let becameWarmMono ← Reader.u64
  let becameWarmWall ← Reader.i64
  let message ← Reader.string
  return { state, stepsCompleted, stepsRequired, artifactLoadingDone, weightsResident,
           adaptersActive, kernelInitDone, graphInitDone, allocatorInitDone, deviceContextDone,
           warmupExecutionDone, endpointRegistered, startedWarmingMono, becameWarmMono,
           becameWarmWall, message }

def writeReplicaSet (s : ReplicaSetState) : Str :=
  [ writeId s.id, writeId s.modelId, writeId s.workloadId, writeId s.tenantId,
    Writer.u32 s.desiredCount, Writer.u32 s.minHealthy, Writer.u32 s.maxReplicas,
    writeId s.artifactId, writeId s.artifactGeneration, writeId s.generation,
    writeId s.policyGeneration, writeEnum s.lifecycle, writeCompatReq s.compatibility,
    writePolicies s.policies, writePlacementPolicy s.placementPolicy, writeEnum s.backend,
    Writer.string s.runtimeName, writeCc s.minCompute, Writer.u64 s.memoryRequirementBytes,
    Writer.u32 s.acceleratorRequirement ].flatten

def readReplicaSet : Reader ReplicaSetState := do
  let id ← readId
  let modelId ← readId
  let workloadId ← readId
  let tenantId ← readId
  let desiredCount ← Reader.u32
  let minHealthy ← Reader.u32
  let maxReplicas ← Reader.u32
  let artifactId ← readId
  let artifactGeneration ← readId
  let generation ← readId
  let policyGeneration ← readId
  let lifecycle ← readEnum
  let compatibility ← readCompatReq
  let policies ← readPolicies
  let placementPolicy ← readPlacementPolicy
  let backend ← readEnum
  let runtimeName ← Reader.string
  let minCompute ← readCc
  let memoryRequirementBytes ← Reader.u64
  let acceleratorRequirement ← Reader.u32
  return { id, modelId, workloadId, tenantId, desiredCount, minHealthy, maxReplicas, artifactId,
           artifactGeneration, generation, policyGeneration, lifecycle, compatibility, policies,
           placementPolicy, backend, runtimeName, minCompute, memoryRequirementBytes,
           acceleratorRequirement }

def writeReplica (x : ReplicaState) : Str :=
  [ writeId x.id, writeId x.setId, writeId x.generation, writeId x.nodeId, writeId x.workerId,
    writeId x.bootId, writeId x.artifactId, writeId x.artifactGeneration, writeEnum x.backend,
    Writer.string x.backendIdentity, Writer.string x.deviceIdentity, writeEnum x.accelerator,
    writeCc x.computeCapability, writeEnum x.memoryResidency, writeEnum x.warmth,
    writeEnum x.readiness, writeEnum x.health, writeEnum x.lifecycle, writeId x.placementId,
    writeEnum x.placement, writeEnum x.promotion, writeEnum x.role,
    Writer.boolean x.servingEligible, Writer.u64 x.activeRequests,
    Writer.u64 x.reservedCapacity, Writer.u64 x.capacityTotal, Writer.u64 x.startTimeMono,
    Writer.i64 x.startTimeWall, writeHealthRecord x.healthRecord,
    writeReadinessRecord x.readinessRecord, writeWarmingRecord x.warmingRecord,
    writeId x.coordinatorEpoch, writeId x.setGeneration, writeId x.healthGeneration,
    writeId x.policyGeneration, Writer.string x.policyFingerprint,
    writeReplicaCompat x.compatibility ].flatten

def readReplica : Reader ReplicaState := do
  let id ← readId
  let setId ← readId
  let generation ← readId
  let nodeId ← readId
  let workerId ← readId
  let bootId ← readId
  let artifactId ← readId
  let artifactGeneration ← readId
  let backend ← readEnum
  let backendIdentity ← Reader.string
  let deviceIdentity ← Reader.string
  let accelerator ← readEnum
  let computeCapability ← readCc
  let memoryResidency ← readEnum
  let warmth ← readEnum
  let readiness ← readEnum
  let health ← readEnum
  let lifecycle ← readEnum
  let placementId ← readId
  let placement ← readEnum
  let promotion ← readEnum
  let role ← readEnum
  let servingEligible ← Reader.boolean
  let activeRequests ← Reader.u64
  let reservedCapacity ← Reader.u64
  let capacityTotal ← Reader.u64
  let startTimeMono ← Reader.u64
  let startTimeWall ← Reader.i64
  let healthRecord ← readHealthRecord
  let readinessRecord ← readReadinessRecord
  let warmingRecord ← readWarmingRecord
  let coordinatorEpoch ← readId
  let setGeneration ← readId
  let healthGeneration ← readId
  let policyGeneration ← readId
  let policyFingerprint ← Reader.string
  let compatibility ← readReplicaCompat
  return { id, setId, generation, nodeId, workerId, bootId, artifactId, artifactGeneration,
           backend, backendIdentity, deviceIdentity, accelerator, computeCapability,
           memoryResidency, warmth, readiness, health, lifecycle, placementId, placement,
           promotion, role, servingEligible, activeRequests, reservedCapacity, capacityTotal,
           startTimeMono, startTimeWall, healthRecord, readinessRecord, warmingRecord,
           coordinatorEpoch, setGeneration, healthGeneration, policyGeneration,
           policyFingerprint, compatibility }

def writePromotion (p : PromotionRecord) : Str :=
  [ writeId p.id, writeId p.replicaId, writeId p.setId, writeId p.replicaGeneration,
    writeId p.setGeneration, writeId p.epoch, writeEnum p.source, writeEnum p.target,
    Writer.u64 p.whenMono, Writer.i64 p.whenWall, Writer.string p.reason ].flatten

def readPromotion : Reader PromotionRecord := do
  let id ← readId
  let replicaId ← readId
  let setId ← readId
  let replicaGeneration ← readId
  let setGeneration ← readId
  let epoch ← readId
  let source ← readEnum
  let target ← readEnum
  let whenMono ← Reader.u64
  let whenWall ← Reader.i64
  let reason ← Reader.string
  return { id, replicaId, setId, replicaGeneration, setGeneration, epoch, source, target,
           whenMono, whenWall, reason }

def writeDrain (d : DrainRecord) : Str :=
  [ writeId d.id, writeId d.replicaId, writeId d.setId, writeEnum d.state,
    Writer.u64 d.startedMono, Writer.u64 d.completedMono, Writer.boolean d.forceCancelled,
    Writer.u64 d.quiescedRequests, Writer.string d.reason ].flatten

def readDrain : Reader DrainRecord := do
  let id ← readId
  let replicaId ← readId
  let setId ← readId
  let state ← readEnum
  let startedMono ← Reader.u64
  let completedMono ← Reader.u64
  let forceCancelled ← Reader.boolean
  let quiescedRequests ← Reader.u64
  let reason ← Reader.string
  return { id, replicaId, setId, state, startedMono, completedMono, forceCancelled,
           quiescedRequests, reason }

def writeFailover (f : FailoverRecord) : Str :=
  [ writeId f.id, writeId f.setId, writeId f.failedReplica, writeId f.replacement,
    writeEnum f.state, writeId f.epoch, Writer.u64 f.startedMono, Writer.u64 f.completedMono,
    Writer.boolean f.generationPreserved, Writer.list writeEnum f.ambiguousOutcomes,
    Writer.string f.reason ].flatten

def readFailover : Reader FailoverRecord := do
  let id ← readId
  let setId ← readId
  let failedReplica ← readId
  let replacement ← readId
  let state ← readEnum
  let epoch ← readId
  let startedMono ← Reader.u64
  let completedMono ← Reader.u64
  let generationPreserved ← Reader.boolean
  let ambiguousOutcomes ← Reader.list [] readEnum
  let reason ← Reader.string
  return { id, setId, failedReplica, replacement, state, epoch, startedMono, completedMono,
           generationPreserved, ambiguousOutcomes, reason }

end ReplicaFabric
