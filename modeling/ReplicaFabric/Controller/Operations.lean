import ReplicaFabric.Authority.Transition
import ReplicaFabric.Controller.State

/-!
# The operations of the controller

Each operation takes the state to its result and the next state. Parameters that the source
leaves unnamed are omitted.
-/

namespace ReplicaFabric

/-! ## What the operations write to one replica -/

namespace ReplicaState

def workerBootMatches (r : ReplicaState) (worker : WorkerId) (boot : WorkerBootId) : Bool :=
  r.workerId = worker && r.bootId = boot

def readyToPromote (r : ReplicaState) : Bool := r.lifecycle = .ready || r.lifecycle = .serving

def loseAuthority (r : ReplicaState) (reason : Str) : ReplicaState :=
  { r with
    servingEligible := false
    health := .failed
    healthRecord := { r.healthRecord with state := .failed, reason := reason }
    promotion := .notPromoted
    role := .none }

/-- The loop body of `register_worker` for a restarted worker. -/
def afterRestart (r : ReplicaState) (worker : WorkerId) : ReplicaState :=
  if r.workerId = worker ∧ r.lifecycle = .serving then
    { r.loseAuthority "worker restarted under a new boot identity" with
      lifecycle := .failed
      activeRequests := 0 }
  else r

def hadAuthority (r : ReplicaState) : Bool :=
  r.servingEligible || r.lifecycle = .serving || r.lifecycle = .ready || r.lifecycle = .draining

/-- The loop body of `unregister_worker`. -/
def afterDisconnect (r : ReplicaState) (worker : WorkerId) : ReplicaState :=
  if r.workerId = worker ∧ r.hadAuthority then
    { r.loseAuthority "worker disconnected" with lifecycle := .failed }
  else r

def provisioned (replicaId : ReplicaId) (setId : ReplicaSetId) (set : ReplicaSetState)
    (reg : WorkerRegistration) (workerId : WorkerId) (compat : ReplicaCompatibility)
    (device : DeviceCapability) (capacity : UInt64) (epoch : CoordinatorEpoch)
    (fresh : FreshIds) (mono : MonotonicNs) (wall : WallNs) : ReplicaState where
  id := replicaId
  setId := setId
  generation := fresh.generation
  nodeId := reg.nodeId
  workerId := workerId
  bootId := reg.bootId
  artifactId := set.artifactId
  artifactGeneration := set.artifactGeneration
  backend := compat.backend
  backendIdentity := compat.runtimeName
  deviceIdentity := device.deviceId
  accelerator := device.kind
  computeCapability := device.compute
  memoryResidency := .notResident
  warmth := .cold
  readiness := .unknown
  health := .unknown
  lifecycle := .declared
  placement := .pending
  promotion := .notPromoted
  role := .none
  servingEligible := false
  activeRequests := 0
  reservedCapacity := 0
  capacityTotal := capacity
  startTimeMono := mono
  startTimeWall := wall
  coordinatorEpoch := epoch
  setGeneration := set.generation
  healthGeneration := fresh.healthGeneration
  policyGeneration := set.policyGeneration
  policyFingerprint := set.compatibility.policyFingerprint
  compatibility := compat

def allocated (r : ReplicaState) (placementId : PlacementId) : ReplicaState :=
  { r with
    lifecycle := .allocating
    placementId := placementId
    placement := if !placementId.isNull then .assigned else .pending
    memoryResidency := .notResident }

def started (r : ReplicaState) (mono : MonotonicNs) (wall : WallNs) : ReplicaState :=
  { r with
    lifecycle := .starting
    health := .starting
    healthRecord := { r.healthRecord with
      state := .starting, updatedAtMono := mono, updatedAtWall := wall } }

def warmed (r : ReplicaState) (warm : WarmingRecord) (mono : MonotonicNs) : ReplicaState :=
  { r with
    lifecycle := .warming
    warmingRecord :=
      if warm.startedWarmingMono = 0 then { warm with startedWarmingMono := mono } else warm
    warmth :=
      if !warm.warmupExecutionDone && warm.stepsRequired > 0 && warm.stepsCompleted > 0
      then .warming else .warm }

def healthReported (r : ReplicaState) (ev : HealthEvidence) (mono : MonotonicNs) :
    ReplicaState :=
  let failing : Bool := ev.state = .failed || ev.state = .unhealthy
  let r : ReplicaState := { r with
    health := ev.state
    healthRecord := { r.healthRecord with
      state := ev.state
      kind := ev.kind
      source := ev.source
      updatedAtMono := mono
      updatedAtWall := ev.observedAtWall
      confidence := ev.confidence
      generation := ev.generation
      reason := ev.message
      consecutiveFailures := if failing then r.healthRecord.consecutiveFailures + 1 else 0 } }
  -- Serving eligibility only ever survives under a fresh authority round.
  if r.servingEligible && failing then
    { r with servingEligible := false, role := .secondary, promotion := .standby }
  else r

def readinessReported (r : ReplicaState) (rr : ReadinessRecord) : ReplicaState :=
  let canReady : Bool := r.lifecycle = .warming || r.lifecycle = .starting
  { r with
    readinessRecord := rr
    lifecycle :=
      if rr.factors.allSet && canReady && r.lifecycle.canTransition .ready
      then .ready else r.lifecycle
    readiness := if rr.factors.allSet then .ready else .notReady }

def madePrimary (r : ReplicaState) (fresh : FreshIds) : ReplicaState :=
  { r with
    lifecycle := .serving
    promotion := .primary
    role := .primary
    servingEligible := true
    healthGeneration := fresh.healthGeneration
    healthRecord := { r.healthRecord with generation := fresh.healthGeneration } }

def madeSecondary (r : ReplicaState) (target : PromotionState) : ReplicaState :=
  { r with
    promotion := target
    role := if target = .recovered then .secondary else .standby
    servingEligible := false }

def drained (r : ReplicaState) : ReplicaState :=
  { r with
    servingEligible := false
    role := .secondary
    promotion := .standby
    lifecycle := .draining }

def quiesced (r : ReplicaState) : ReplicaState :=
  { r with lifecycle := .quiesced, activeRequests := 0, servingEligible := false }

/-- The writes of `fail_replica` before its last guard. -/
def failing (r : ReplicaState) (reason : Str) (mono : MonotonicNs) : ReplicaState :=
  let r := r.loseAuthority reason
  { r with
    healthRecord := { r.healthRecord with updatedAtMono := mono }
    reservedCapacity := 0 }

def retired (r : ReplicaState) : ReplicaState :=
  { r with
    lifecycle := .retired
    servingEligible := false
    promotion := .notPromoted
    role := .none
    reservedCapacity := 0
    activeRequests := 0
    memoryResidency := .evicted
    warmth := .invalidated }

def failedOver (r : ReplicaState) (reason : Str) : ReplicaState :=
  { r.loseAuthority reason with
    reservedCapacity := 0
    lifecycle :=
      if r.lifecycle ≠ .failed ∧ r.lifecycle.canTransition .failed then .failed
      else r.lifecycle }

end ReplicaState

namespace ReplicaSetController

def putReplica (ctrl : ReplicaSetController) (replicaId : ReplicaId) (r : ReplicaState) :
    ReplicaSetController :=
  { ctrl with replicas := ctrl.replicas.insert replicaId r }

def putSet (ctrl : ReplicaSetController) (setId : ReplicaSetId) (set : ReplicaSetState) :
    ReplicaSetController :=
  { ctrl with sets := ctrl.sets.insert setId set }

/-! ## Workers -/

def restarts (ctrl : ReplicaSetController) (wr : WorkerRegistration) : Bool :=
  match ctrl.workers[wr.workerId]? with
  | none => false
  | some known => known.bootId ≠ wr.bootId

def registerWorker (ctrl : ReplicaSetController) (wr : WorkerRegistration) :
    OpResult × ReplicaSetController :=
  let replicas :=
    if ctrl.restarts wr then ctrl.replicas.map fun _ r => r.afterRestart wr.workerId
    else ctrl.replicas
  (.ok ("worker registered (boot " ++ wr.bootId.str ++ ")"),
    { ctrl with replicas := replicas, workers := ctrl.workers.insert wr.workerId wr })

def unregisterWorker (ctrl : ReplicaSetController) (workerId : WorkerId) :
    OpResult × ReplicaSetController :=
  match ctrl.workers[workerId]? with
  | none => (.rejected "unknown worker", ctrl)
  | some _ =>
      (.ok "worker unregistered",
        { ctrl with
          replicas := ctrl.replicas.map fun _ r => r.afterDisconnect workerId
          workers := ctrl.workers.erase workerId })

/-! ## Replica sets -/

def countsInvalid (set : ReplicaSetState) : Bool :=
  set.maxReplicas = 0 || set.desiredCount = 0 || set.minHealthy = 0 ||
    set.minHealthy > set.maxReplicas || set.desiredCount > set.maxReplicas

def createReplicaSet (ctrl : ReplicaSetController) (set : ReplicaSetState)
    (epoch : CoordinatorEpoch) : OpResult × ReplicaSetController :=
  if (ctrl.sets[set.id]?).isSome then (.rejected "replica set already exists", ctrl)
  else if countsInvalid set then
    (.invalid ("replica set counts invalid (desired/min_healthy/max must satisfy " ++
      "0 < min <= desired <= max)"), ctrl)
  else (.ok "replica set created", { ctrl.putSet set.id set with epoch := epoch })

def transitionReplicaSet (ctrl : ReplicaSetController) (setId : ReplicaSetId)
    (target : ReplicaSetLifecycle) : OpResult × ReplicaSetController :=
  match ctrl.sets[setId]? with
  | none => (.rejected "unknown replica set", ctrl)
  | some s =>
      if !s.lifecycle.canTransition target then
        (.invalid ("replica-set lifecycle transition " ++ enumString s.lifecycle ++ " -> " ++
          enumString target ++ " is not allowed"), ctrl)
      else
        (.ok ("replica-set lifecycle -> " ++ enumString target),
          ctrl.putSet setId { s with lifecycle := target })

/-! ## Replicas -/

/-- The `std::uint32_t` count of the replicas of a set that satisfy `p`. -/
def countReplicas (ctrl : ReplicaSetController) (setId : ReplicaSetId)
    (p : ReplicaState → Bool) : UInt32 :=
  UInt32.ofNat (ctrl.replicas.toList.countP fun e => e.2.setId = setId && p e.2)

def provisionGate (ctrl : ReplicaSetController) (setId : ReplicaSetId) (workerId : WorkerId) :
    Except OpResult (ReplicaSetState × WorkerRegistration) :=
  match ctrl.sets[setId]? with
  | none => .error (.rejected "unknown replica set")
  | some set =>
      if set.lifecycle = .retired ∨ set.lifecycle = .failed then
        .error (.rejected "replica set is not provisionable")
      else
        match ctrl.workers[workerId]? with
        | none => .error (.rejected "unknown worker")
        | some reg =>
            if ctrl.countReplicas setId (fun _ => true) ≥ set.maxReplicas then
              .error (.rejected "replica set max_replicas reached")
            else .ok (set, reg)

def provisionReplica (ctrl : ReplicaSetController) (fresh : FreshIds) (replicaId : ReplicaId)
    (setId : ReplicaSetId) (workerId : WorkerId) (compat : ReplicaCompatibility)
    (device : DeviceCapability) (capacity : UInt64) (mono : MonotonicNs) (wall : WallNs) :
    OpResult × ReplicaSetController :=
  match ctrl.provisionGate setId workerId with
  | .error refusal => (refusal, ctrl)
  | .ok (set, reg) =>
      let set := if set.lifecycle = .created then { set with lifecycle := .provisioning } else set
      let r := ReplicaState.provisioned replicaId setId set reg workerId compat device capacity
        ctrl.epoch fresh mono wall
      (.ok "replica provisioned", (ctrl.putSet setId set).putReplica replicaId r)

def setAllocating (ctrl : ReplicaSetController) (replicaId : ReplicaId)
    (placementId : PlacementId) : OpResult × ReplicaSetController :=
  match ctrl.replicas[replicaId]? with
  | none => (.rejected "unknown replica", ctrl)
  | some r =>
      if !r.lifecycle.canTransition .allocating then
        (.invalid "replica cannot move to ALLOCATING", ctrl)
      else (.ok "replica -> ALLOCATING", ctrl.putReplica replicaId (r.allocated placementId))

def setStarting (ctrl : ReplicaSetController) (replicaId : ReplicaId) (mono : MonotonicNs)
    (wall : WallNs) : OpResult × ReplicaSetController :=
  match ctrl.replicas[replicaId]? with
  | none => (.rejected "unknown replica", ctrl)
  | some r =>
      if !r.lifecycle.canTransition .starting then
        (.invalid "replica cannot move to STARTING", ctrl)
      else (.ok "replica -> STARTING", ctrl.putReplica replicaId (r.started mono wall))

def warmReplica (ctrl : ReplicaSetController) (replicaId : ReplicaId) (warm : WarmingRecord)
    (worker : WorkerId) (boot : WorkerBootId) (mono : MonotonicNs) :
    OpResult × ReplicaSetController :=
  match ctrl.replicas[replicaId]? with
  | none => (.rejected "unknown replica", ctrl)
  | some r =>
      if !r.workerBootMatches worker boot then (.rejected "stale worker boot identity", ctrl)
      else if !r.lifecycle.canTransition .warming && r.lifecycle ≠ .warming then
        (.invalid "replica is not in a state that accepts warming", ctrl)
      else (.ok "replica warming progressed", ctrl.putReplica replicaId (r.warmed warm mono))

def reportHealth (ctrl : ReplicaSetController) (replicaId : ReplicaId) (ev : HealthEvidence)
    (worker : WorkerId) (boot : WorkerBootId) (mono : MonotonicNs) :
    OpResult × ReplicaSetController :=
  match ctrl.replicas[replicaId]? with
  | none => (.rejected "unknown replica", ctrl)
  | some r =>
      if !r.workerBootMatches worker boot then (.rejected "stale worker boot identity", ctrl)
      else if r.coordinatorEpoch ≠ ctrl.epoch then (.rejected "stale coordinator epoch", ctrl)
      -- The evidence must belong to the current health generation.
      else if ev.generation ≠ r.healthGeneration then
        (.rejected "stale health generation", ctrl)
      else if r.lifecycle = .failed ∨ r.lifecycle = .retired ∨ r.lifecycle = .quiesced then
        (.rejected "replica is terminated; health evidence rejected", ctrl)
      else
        (.ok ("health updated to " ++ enumString ev.state),
          ctrl.putReplica replicaId (r.healthReported ev mono))

def reportReadiness (ctrl : ReplicaSetController) (replicaId : ReplicaId) (rr : ReadinessRecord)
    (worker : WorkerId) (boot : WorkerBootId) : OpResult × ReplicaSetController :=
  match ctrl.replicas[replicaId]? with
  | none => (.rejected "unknown replica", ctrl)
  | some r =>
      if !r.workerBootMatches worker boot then (.rejected "stale worker boot identity", ctrl)
      else if r.coordinatorEpoch ≠ ctrl.epoch then (.rejected "stale coordinator epoch", ctrl)
      else if r.lifecycle = .failed ∨ r.lifecycle = .retired ∨ r.lifecycle = .quiesced then
        (.rejected "replica is terminated; readiness report rejected", ctrl)
      else
        let r := r.readinessReported rr
        (.ok ("readiness updated to " ++ enumString r.readiness), ctrl.putReplica replicaId r)

/-! ## Promotion -/

/-- A chain of early returns: the refusal of the first guard whose condition holds. -/
def firstRefusal (guards : List (Bool × OpResult)) : Option OpResult :=
  (guards.find? (·.1)).map (·.2)

def promotionGuards (ctrl : ReplicaSetController) (r : ReplicaState) (set : ReplicaSetState) :
    List (Bool × OpResult) :=
  let pol := set.policies.promotion
  let cr := checkCompatibility set.compatibility r.compatibility
  [ (r.coordinatorEpoch ≠ ctrl.epoch, .rejected "stale coordinator epoch"),
    (r.setGeneration ≠ set.generation, .rejected "stale replica-set generation"),
    (r.policyGeneration ≠ set.policyGeneration, .rejected "stale policy generation"),
    (r.artifactGeneration ≠ set.artifactGeneration, .rejected "stale artifact generation"),
    (pol.requireReady && !r.readyToPromote, .rejected "replica is not in a ready state"),
    (r.readiness ≠ .ready, .rejected "replica is not ready"),
    (pol.requireHealthy && (r.health = .unknown || r.health = .starting),
      .rejected "replica has no validated health"),
    (pol.requireHealthy && r.health = .unhealthy, .rejected "replica is unhealthy"),
    (pol.requireCompatible && !cr.compatible,
      .rejected ("replica incompatible: " ++
        (cr.issues.map fun iss => compatibilityIssueStr iss ++ " ").flatten)),
    (pol.requirePlacementValid && r.placement ≠ .assigned,
      .rejected "replica placement is not assigned"),
    -- `require_authority_current` is honored by the generation guards above.
    (pol.requireResources && r.capacityTotal = 0, .rejected "replica has no reserved capacity") ]

def promotionGate (ctrl : ReplicaSetController) (r : ReplicaState) (worker : WorkerId)
    (boot : WorkerBootId) : Except OpResult ReplicaSetState :=
  if !r.workerBootMatches worker boot then .error (.rejected "stale worker boot identity")
  else
    match ctrl.sets[r.setId]? with
    | none => .error (.rejected "unknown replica set")
    | some set =>
        match firstRefusal (ctrl.promotionGuards r set) with
        | some refusal => .error refusal
        | none => .ok set

def promoted (r : ReplicaState) (target : PromotionState) (fresh : FreshIds) :
    Except OpResult ReplicaState :=
  if target = .primary then
    if !r.readyToPromote then .error (.rejected "cannot promote a non-ready replica to PRIMARY")
    else if r.lifecycle ≠ .serving && !r.lifecycle.canTransition .serving then
      .error (.invalid "cannot move replica to SERVING")
    else
      let r := r.madePrimary fresh
      .ok (if r.health = .unknown then { r with health := .healthy } else r)
  else .ok (r.madeSecondary target)

def deriveSetLifecycle (ctrl : ReplicaSetController) (setId : ReplicaSetId)
    (set : ReplicaSetState) (member : ReplicaSetId) : ReplicaSetController :=
  let healthy := ctrl.countReplicas member fun r => r.health = .healthy
  if healthy < set.minHealthy && set.lifecycle.canTransition .degraded then
    ctrl.putSet setId { set with lifecycle := .degraded }
  else if healthy ≥ set.minHealthy && set.lifecycle.canTransition .available then
    ctrl.putSet setId { set with lifecycle := .available }
  else ctrl

def promoteReplica (ctrl : ReplicaSetController) (fresh : FreshIds) (replicaId : ReplicaId)
    (target : PromotionState) (worker : WorkerId) (boot : WorkerBootId) (mono : MonotonicNs)
    (wall : WallNs) : OpResult × ReplicaSetController :=
  match ctrl.replicas[replicaId]? with
  | none => (.rejected "unknown replica", ctrl)
  | some r =>
      match ctrl.promotionGate r worker boot with
      | .error refusal => (refusal, ctrl)
      | .ok set =>
          match promoted r target fresh with
          | .error refusal => (refusal, ctrl)
          | .ok granted =>
              let record : PromotionRecord :=
                { id := fresh.promotionId
                  replicaId := r.id
                  setId := r.setId
                  replicaGeneration := r.generation
                  setGeneration := r.setGeneration
                  epoch := ctrl.epoch
                  source := r.promotion
                  target := target
                  whenMono := mono
                  whenWall := wall
                  reason := "promoted to " ++ enumString target }
              let ctrl := { ctrl.putReplica replicaId granted with
                promotions := ctrl.promotions ++ [record] }
              (.ok ("promoted to " ++ enumString target),
                ctrl.deriveSetLifecycle r.setId set set.id)

/-! ## Draining, failing and retiring -/

def drainReplica (ctrl : ReplicaSetController) (fresh : FreshIds) (replicaId : ReplicaId)
    (worker : WorkerId) (boot : WorkerBootId) (mono : MonotonicNs) :
    OpResult × ReplicaSetController :=
  match ctrl.replicas[replicaId]? with
  | none => (.rejected "unknown replica", ctrl)
  | some r =>
      if !r.workerBootMatches worker boot then (.rejected "stale worker boot identity", ctrl)
      else if r.coordinatorEpoch ≠ ctrl.epoch then (.rejected "stale coordinator epoch", ctrl)
      else if r.lifecycle ≠ .ready ∧ r.lifecycle ≠ .serving then
        (.rejected "only READY or SERVING replicas can be drained", ctrl)
      else if !r.lifecycle.canTransition .draining then
        -- Serving authority is dropped before this guard.
        (.invalid "cannot move replica to DRAINING",
          ctrl.putReplica replicaId { r.drained with lifecycle := r.lifecycle })
      else
        let record : DrainRecord :=
          { id := fresh.drainId
            replicaId := r.id
            setId := r.setId
            state := .draining
            startedMono := mono
            reason := "drain requested: reject new work, allow existing to finish" }
        (.ok "replica draining (reject new work)",
          { ctrl.putReplica replicaId r.drained with drains := ctrl.drains ++ [record] })

def settleDrain (replicaId : ReplicaId) (settle : DrainRecord → DrainRecord) :
    List DrainRecord → List DrainRecord
  | [] => []
  | dr :: rest =>
      if dr.replicaId = replicaId ∧ dr.state = .draining then settle dr :: rest
      else dr :: settleDrain replicaId settle rest

def completeDrain (ctrl : ReplicaSetController) (replicaId : ReplicaId) (quiesced : UInt64)
    (forceCancelled : Bool) (mono : MonotonicNs) : OpResult × ReplicaSetController :=
  match ctrl.replicas[replicaId]? with
  | none => (.rejected "unknown replica", ctrl)
  | some r =>
      if r.lifecycle ≠ .draining then (.rejected "replica is not draining", ctrl)
      else if !forceCancelled && r.activeRequests ≠ 0 then
        (.rejected "replica still has active requests; drain not complete", ctrl)
      else if !r.lifecycle.canTransition .quiesced then
        (.invalid "cannot move replica to QUIESCED", ctrl)
      else
        let settle (dr : DrainRecord) : DrainRecord :=
          { dr with
            state := .quiesced
            completedMono := mono
            quiescedRequests := quiesced
            forceCancelled := forceCancelled }
        (.ok "replica quiesced",
          { ctrl.putReplica replicaId r.quiesced with
            drains := settleDrain r.id settle ctrl.drains })

def failReplica (ctrl : ReplicaSetController) (replicaId : ReplicaId) (worker : WorkerId)
    (boot : WorkerBootId) (reason : Str) (mono : MonotonicNs) :
    OpResult × ReplicaSetController :=
  match ctrl.replicas[replicaId]? with
  | none => (.rejected "unknown replica", ctrl)
  | some r =>
      -- A stale worker (old boot) must not be able to fail a fresh replica.
      if !r.workerBootMatches worker boot then (.rejected "stale worker boot identity", ctrl)
      else if !r.lifecycle.canTransition .failed then
        (.rejected "replica is already in a terminal/older state",
          ctrl.putReplica replicaId (r.failing reason mono))
      else
        (.ok "replica failed and its authority is obsolete",
          ctrl.putReplica replicaId { r.failing reason mono with lifecycle := .failed })

def retireReplica (ctrl : ReplicaSetController) (replicaId : ReplicaId) :
    OpResult × ReplicaSetController :=
  match ctrl.replicas[replicaId]? with
  | none => (.rejected "unknown replica", ctrl)
  | some r =>
      if !r.lifecycle.canTransition .retired then
        (.rejected ("replica cannot be retired from " ++ enumString r.lifecycle), ctrl)
      else (.ok "replica retired", ctrl.putReplica replicaId r.retired)

/-! ## Failover -/

abbrev Candidate := ReplicaId × ReplicaState

def isCandidate (set : ReplicaSetState) (setId : ReplicaSetId) (failed : ReplicaId)
    (c : Candidate) : Bool :=
  c.2.setId = setId && c.1 ≠ failed &&
  (c.2.lifecycle = .ready || c.2.lifecycle = .serving) &&
  c.2.readiness = .ready &&
  (c.2.health = .healthy || c.2.health = .degraded) &&
  (checkCompatibility set.compatibility c.2.compatibility).compatible &&
  c.2.placement = .assigned &&
  c.2.setGeneration = set.generation

def roleRank : PromotionState → Nat
  | .standby => 0
  | .canary => 1
  | .replacement => 2
  | .recovered => 3
  | _ => 4

/-- The comparator of the candidate sort; `failedWorker` hosted the failed replica. -/
def sortsBefore (pol : FailoverPolicy) (failedWorker : WorkerId) (a b : Candidate) : Bool :=
  if pol.preferStandbyFirst && roleRank a.2.promotion ≠ roleRank b.2.promotion then
    roleRank a.2.promotion < roleRank b.2.promotion
  else
    let aDiff : Bool := a.2.workerId ≠ failedWorker
    let bDiff : Bool := b.2.workerId ≠ failedWorker
    if pol.requireDiversity && aDiff ≠ bDiff then aDiff
    else a.1 < b.1

/-- The sorted candidates: `std::stable_sort` is the stable insertion sort. -/
def candidates (ctrl : ReplicaSetController) (set : ReplicaSetState) (setId : ReplicaSetId)
    (failed : ReplicaId) (failedWorker : WorkerId) : List Candidate :=
  (ctrl.replicas.toList.filter (isCandidate set setId failed)).insertionSort
    fun a b => ¬sortsBefore set.policies.failover failedWorker b a

def triggerFailover (ctrl : ReplicaSetController) (fresh : FreshIds) (setId : ReplicaSetId)
    (failedReplica : ReplicaId) (reason : Str) (mono : MonotonicNs) (wall : WallNs) :
    OpResult × ReplicaSetController :=
  match ctrl.sets[setId]? with
  | none => (.rejected "unknown replica set", ctrl)
  | some set =>
      match ctrl.replicas[failedReplica]? with
      | none => (.rejected "unknown failed replica", ctrl)
      | some fr =>
          if fr.setId ≠ setId then (.rejected "failed replica not in this set", ctrl)
          else
            -- Mark the failed replica's authority obsolete.
            let fr := fr.failedOver reason
            let ctrl := ctrl.putReplica failedReplica fr
            let record : FailoverRecord :=
              { id := fresh.failoverId
                setId := setId
                failedReplica := failedReplica
                epoch := ctrl.epoch
                startedMono := mono
                completedMono := mono
                generationPreserved := set.policies.failover.preserveGeneration
                ambiguousOutcomes := if fr.activeRequests > 0 then [.ambiguous] else [] }
            match ctrl.candidates set setId failedReplica fr.workerId with
            | [] =>
                let record := { record with
                  state := .failed, reason := reason ++ "; no eligible replacement" }
                (.rejected "no eligible replacement for failover",
                  { ctrl with failovers := ctrl.failovers ++ [record] })
            | (chosen, r) :: _ =>
                let r := r.madePrimary fresh
                let record := { record with
                  replacement := chosen
                  state := .complete
                  reason := reason ++ "; promoted " ++ chosen.str }
                let pr : PromotionRecord :=
                  { id := fresh.promotionId
                    replicaId := chosen
                    setId := setId
                    replicaGeneration := r.generation
                    setGeneration := r.setGeneration
                    epoch := ctrl.epoch
                    source := .standby
                    target := .primary
                    whenMono := mono
                    whenWall := wall
                    reason := "failover replacement" }
                let ctrl := { ctrl.putReplica chosen r with
                  failovers := ctrl.failovers ++ [record]
                  promotions := ctrl.promotions ++ [pr] }
                (.ok ("failover completed; promoted " ++ chosen.str),
                  ctrl.deriveSetLifecycle setId set setId)

def setEpoch (ctrl : ReplicaSetController) (epoch : CoordinatorEpoch) : ReplicaSetController :=
  { ctrl with epoch := epoch }

end ReplicaSetController

end ReplicaFabric
