import ReplicaFabric.Persistence.Records

/-!
# The records are read as they were written

Every reader returns the record whose bytes it is given. The doubles are the only fields that can
make it fail: a record is valid when they are finite.
-/

namespace ReplicaFabric

theorem reads_device (d : DeviceCapability) : Reads readDevice (writeDevice d) d True :=
  (reads_enum d.kind).field <| (reads_string d.deviceId).field <| (reads_cc d.compute).field <|
    (reads_u64 d.memoryBytes).field <| .pure d

theorem reads_backend (b : BackendCapability) : Reads readBackend (writeBackend b) b True :=
  (reads_enum b.kind).field <| (reads_string b.name).field <| (reads_cc b.compute).field <|
    (reads_enum b.numeric).field <| .pure b

theorem writeDevice_ne_nil (d : DeviceCapability) : writeDevice d ≠ [] := by
  simp [writeDevice, writeEnum, Writer.u8]

theorem writeBackend_ne_nil (b : BackendCapability) : writeBackend b ≠ [] := by
  simp [writeBackend, writeEnum, Writer.u8]

theorem reads_inventory (i : ResourceInventory) :
    Reads readInventory (writeInventory i) i True :=
  (reads_u64 i.totalMemoryBytes).field <| (reads_u64 i.freeMemoryBytes).field <|
    (reads_u32 i.acceleratorCount.toUInt32).field <|
    (reads_items reads_device writeDevice_ne_nil).field <|
    (reads_items reads_backend writeBackend_ne_nil).field <| .pure i

theorem reads_worker (x : WorkerRegistration) : Reads readWorker (writeWorker x) x True :=
  (reads_id x.workerId).field <| (reads_id x.bootId).field <| (reads_id x.nodeId).field <|
    (reads_inventory x.inventory).field <| (reads_id x.hostedSetGeneration).field <|
    (reads_u32 x.protocolVersion).field <| .pure x

theorem reads_healthPolicy (p : HealthPolicy) :
    Reads readHealthPolicy (writeHealthPolicy p) p p.healthThreshold.Finite :=
  (reads_boolean p.enabled).field <| (reads_u64 p.expectedIntervalNs).field <|
    (reads_u64 p.staleAfterNs).field <| (reads_u64 p.degradeAfterNs).field <|
    (reads_u32 p.unhealthyAfterMisses).field <| (reads_u32 p.quarantineAfterFailures).field <|
    (reads_u32 p.minHealthyObservations).field <| (reads_f64 p.healthThreshold).decides <|
    (reads_enum p.initial).field <| .pure p

theorem reads_warmingPolicy (p : WarmingPolicy) :
    Reads readWarmingPolicy (writeWarmingPolicy p) p True :=
  (reads_boolean p.enabled).field <| (reads_boolean p.requireArtifactLoaded).field <|
    (reads_boolean p.requireWeightsResident).field <|
    (reads_boolean p.requireAdaptersActive).field <| (reads_boolean p.requireKernelInit).field <|
    (reads_boolean p.requireGraphInit).field <| (reads_boolean p.requireAllocatorInit).field <|
    (reads_boolean p.requireDeviceContext).field <|
    (reads_boolean p.requireBoundedWarmup).field <| (reads_boolean p.requireEndpoint).field <|
    (reads_u64 p.warmupWorkSteps).field <| (reads_u64 p.warmupTimeoutNs).field <| .pure p

theorem reads_drainingPolicy (p : DrainingPolicy) :
    Reads readDrainingPolicy (writeDrainingPolicy p) p True :=
  (reads_boolean p.rejectNewWork).field <| (reads_boolean p.allowExistingToFinish).field <|
    (reads_boolean p.allowForceCancel).field <| (reads_u64 p.gracePeriodNs).field <|
    (reads_u64 p.forceCancelAfterNs).field <| .pure p

theorem reads_promotionPolicy (p : PromotionPolicy) :
    Reads readPromotionPolicy (writePromotionPolicy p) p True :=
  (reads_boolean p.requireReady).field <| (reads_boolean p.requireHealthy).field <|
    (reads_enum p.minHealth).field <| (reads_boolean p.requireCompatible).field <|
    (reads_boolean p.requirePlacementValid).field <| (reads_boolean p.requireResources).field <|
    (reads_boolean p.requireAuthorityCurrent).field <| (reads_boolean p.allowCanary).field <|
    (reads_boolean p.autoPromoteStandby).field <| .pure p

theorem reads_failoverPolicy (p : FailoverPolicy) :
    Reads readFailoverPolicy (writeFailoverPolicy p) p True :=
  (reads_boolean p.requireDiversity).field <| (reads_boolean p.preferStandbyFirst).field <|
    (reads_u32 p.maxAttempts).field <| (reads_boolean p.preserveGeneration).field <|
    (reads_boolean p.rejectAmbiguousOutcome).field <| .pure p

theorem reads_policies (p : PolicyBundle) :
    Reads readPolicies (writePolicies p) p p.health.healthThreshold.Finite :=
  (reads_healthPolicy p.health).decides <| (reads_warmingPolicy p.warming).field <|
    (reads_drainingPolicy p.draining).field <| (reads_promotionPolicy p.promotion).field <|
    (reads_failoverPolicy p.failover).field <| .pure p

theorem writeString_ne_nil (s : Str) : Writer.string s ≠ [] := by
  simp [Writer.string, Writer.size, Writer.u64, ByteCodec.leSplit]

theorem reads_strings (v : List Str) : Reads Reader.strings (Writer.strings v) v True :=
  reads_items reads_string writeString_ne_nil

theorem reads_syntheticDomain (d : SyntheticFailureDomain) :
    Reads readSyntheticDomain (writeSyntheticDomain d) d True :=
  (reads_string d.label).field <| (reads_string d.kind).field <| .pure d

theorem writeSyntheticDomain_ne_nil (d : SyntheticFailureDomain) :
    writeSyntheticDomain d ≠ [] := by
  simp [writeSyntheticDomain, writeString_ne_nil]

theorem reads_placementPolicy (p : PlacementPolicy) :
    Reads readPlacementPolicy (writePlacementPolicy p) p True :=
  (reads_strings p.antiAffinityDomains).field <|
    (reads_items reads_syntheticDomain writeSyntheticDomain_ne_nil).field <|
    (reads_boolean p.requireDiversity).field <| (reads_string p.preferredHost).field <|
    (reads_string p.preferredNuma).field <| (reads_string p.preferredDevice).field <|
    (reads_string p.preferredFailureDomain).field <| (reads_u32 p.tieBreakStrategy).field <|
    .pure p

theorem reads_compatReq (c : CompatibilityRequirements) :
    Reads readCompatReq (writeCompatReq c) c True :=
  (reads_id c.modelId).field <| (reads_string c.modelRevision).field <|
    (reads_string c.tokenizerVocab).field <| (reads_strings c.requiredAdapters).field <|
    (reads_enum c.backend).field <| (reads_string c.runtimeName).field <|
    (reads_string c.architecture).field <| (reads_cc c.minCompute).field <|
    (reads_enum c.numericMode).field <| (reads_id c.artifactGeneration).field <|
    (reads_string c.kernelAbi).field <| (reads_string c.policyFingerprint).field <|
    .pure c

theorem reads_replicaCompat (c : ReplicaCompatibility) :
    Reads readReplicaCompat (writeReplicaCompat c) c True :=
  (reads_id c.modelId).field <| (reads_string c.modelRevision).field <|
    (reads_string c.tokenizerVocab).field <| (reads_strings c.adapters).field <|
    (reads_enum c.backend).field <| (reads_string c.runtimeName).field <|
    (reads_string c.architecture).field <| (reads_cc c.compute).field <|
    (reads_enum c.numericMode).field <| (reads_id c.artifactGeneration).field <|
    (reads_string c.kernelAbi).field <| (reads_string c.policyFingerprint).field <|
    .pure c

theorem reads_healthRecord (h : HealthRecord) :
    Reads readHealthRecord (writeHealthRecord h) h h.confidence.Finite :=
  (reads_enum h.state).field <| (reads_enum h.kind).field <| (reads_string h.source).field <|
    (reads_u64 h.updatedAtMono).field <| (reads_i64 h.updatedAtWall).field <|
    (reads_f64 h.confidence).decides <| (reads_id h.generation).field <|
    (reads_string h.reason).field <| (reads_u32 h.consecutiveStale).field <|
    (reads_u32 h.consecutiveFailures).field <| .pure h

theorem reads_readinessFactors (f : ReadinessFactors) :
    Reads readReadinessFactors (writeReadinessFactors f) f True :=
  (reads_boolean f.modelLoaded).field <| (reads_boolean f.artifactValidated).field <|
    (reads_boolean f.adaptersPresent).field <| (reads_boolean f.kernelPrepared).field <|
    (reads_boolean f.graphPrepared).field <| (reads_boolean f.memoryAvailable).field <|
    (reads_boolean f.deviceContextInitialized).field <| (reads_boolean f.warmupComplete).field <|
    (reads_boolean f.dependenciesReady).field <| (reads_boolean f.endpointRegistered).field <|
    (reads_boolean f.policyCurrent).field <| .pure f

theorem reads_readinessRecord (x : ReadinessRecord) :
    Reads readReadinessRecord (writeReadinessRecord x) x True :=
  (reads_enum x.state).field <| (reads_readinessFactors x.factors).field <|
    (reads_u64 x.updatedAtMono).field <| (reads_i64 x.updatedAtWall).field <|
    (reads_string x.reason).field <| .pure x

theorem reads_warmingRecord (x : WarmingRecord) :
    Reads readWarmingRecord (writeWarmingRecord x) x True :=
  (reads_enum x.state).field <| (reads_u64 x.stepsCompleted).field <|
    (reads_u64 x.stepsRequired).field <| (reads_boolean x.artifactLoadingDone).field <|
    (reads_boolean x.weightsResident).field <| (reads_boolean x.adaptersActive).field <|
    (reads_boolean x.kernelInitDone).field <| (reads_boolean x.graphInitDone).field <|
    (reads_boolean x.allocatorInitDone).field <| (reads_boolean x.deviceContextDone).field <|
    (reads_boolean x.warmupExecutionDone).field <| (reads_boolean x.endpointRegistered).field <|
    (reads_u64 x.startedWarmingMono).field <| (reads_u64 x.becameWarmMono).field <|
    (reads_i64 x.becameWarmWall).field <| (reads_string x.message).field <| .pure x

theorem reads_replicaSet (s : ReplicaSetState) :
    Reads readReplicaSet (writeReplicaSet s) s s.policies.health.healthThreshold.Finite :=
  (reads_id s.id).field <| (reads_id s.modelId).field <| (reads_id s.workloadId).field <|
    (reads_id s.tenantId).field <| (reads_u32 s.desiredCount).field <|
    (reads_u32 s.minHealthy).field <| (reads_u32 s.maxReplicas).field <|
    (reads_id s.artifactId).field <| (reads_id s.artifactGeneration).field <|
    (reads_id s.generation).field <| (reads_id s.policyGeneration).field <|
    (reads_enum s.lifecycle).field <| (reads_compatReq s.compatibility).field <|
    (reads_policies s.policies).decides <| (reads_placementPolicy s.placementPolicy).field <|
    (reads_enum s.backend).field <| (reads_string s.runtimeName).field <|
    (reads_cc s.minCompute).field <| (reads_u64 s.memoryRequirementBytes).field <|
    (reads_u32 s.acceleratorRequirement).field <| .pure s

theorem reads_replica (x : ReplicaState) :
    Reads readReplica (writeReplica x) x x.healthRecord.confidence.Finite :=
  (reads_id x.id).field <| (reads_id x.setId).field <| (reads_id x.generation).field <|
    (reads_id x.nodeId).field <| (reads_id x.workerId).field <| (reads_id x.bootId).field <|
    (reads_id x.artifactId).field <| (reads_id x.artifactGeneration).field <|
    (reads_enum x.backend).field <| (reads_string x.backendIdentity).field <|
    (reads_string x.deviceIdentity).field <| (reads_enum x.accelerator).field <|
    (reads_cc x.computeCapability).field <| (reads_enum x.memoryResidency).field <|
    (reads_enum x.warmth).field <| (reads_enum x.readiness).field <| (reads_enum x.health).field <|
    (reads_enum x.lifecycle).field <| (reads_id x.placementId).field <|
    (reads_enum x.placement).field <| (reads_enum x.promotion).field <| (reads_enum x.role).field <|
    (reads_boolean x.servingEligible).field <| (reads_u64 x.activeRequests).field <|
    (reads_u64 x.reservedCapacity).field <| (reads_u64 x.capacityTotal).field <|
    (reads_u64 x.startTimeMono).field <| (reads_i64 x.startTimeWall).field <|
    (reads_healthRecord x.healthRecord).decides <| (reads_readinessRecord x.readinessRecord).field <|
    (reads_warmingRecord x.warmingRecord).field <| (reads_id x.coordinatorEpoch).field <|
    (reads_id x.setGeneration).field <| (reads_id x.healthGeneration).field <|
    (reads_id x.policyGeneration).field <| (reads_string x.policyFingerprint).field <|
    (reads_replicaCompat x.compatibility).field <| .pure x

theorem reads_promotion (p : PromotionRecord) : Reads readPromotion (writePromotion p) p True :=
  (reads_id p.id).field <| (reads_id p.replicaId).field <| (reads_id p.setId).field <|
    (reads_id p.replicaGeneration).field <| (reads_id p.setGeneration).field <|
    (reads_id p.epoch).field <| (reads_enum p.source).field <| (reads_enum p.target).field <|
    (reads_u64 p.whenMono).field <| (reads_i64 p.whenWall).field <|
    (reads_string p.reason).field <| .pure p

theorem reads_drain (d : DrainRecord) : Reads readDrain (writeDrain d) d True :=
  (reads_id d.id).field <| (reads_id d.replicaId).field <| (reads_id d.setId).field <|
    (reads_enum d.state).field <| (reads_u64 d.startedMono).field <|
    (reads_u64 d.completedMono).field <| (reads_boolean d.forceCancelled).field <|
    (reads_u64 d.quiescedRequests).field <| (reads_string d.reason).field <| .pure d

theorem reads_failover (f : FailoverRecord) : Reads readFailover (writeFailover f) f True :=
  (reads_id f.id).field <| (reads_id f.setId).field <| (reads_id f.failedReplica).field <|
    (reads_id f.replacement).field <| (reads_enum f.state).field <| (reads_id f.epoch).field <|
    (reads_u64 f.startedMono).field <| (reads_u64 f.completedMono).field <|
    (reads_boolean f.generationPreserved).field <|
    (reads_items reads_enum fun _ => List.cons_ne_nil _ _).field <|
    (reads_string f.reason).field <| .pure f

end ReplicaFabric
