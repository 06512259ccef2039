import ReplicaFabric.Controller.Reports
import ReplicaFabric.Safety.Grants

/-!
# The gates of the policies

`warm_replica` does not consult the warming policy at all. `promote_replica` consults the promotion
policy, but not its least health and not whether it allows canaries.
-/

namespace ReplicaFabric

/-- The record has all that the policy requires done, and the steps of both. -/
structure WarmingPolicy.Satisfied (pol : WarmingPolicy) (w : WarmingRecord) : Prop where
  artifact : pol.requireArtifactLoaded = true → w.artifactLoadingDone = true
  weights : pol.requireWeightsResident = true → w.weightsResident = true
  adapters : pol.requireAdaptersActive = true → w.adaptersActive = true
  kernel : pol.requireKernelInit = true → w.kernelInitDone = true
  graph : pol.requireGraphInit = true → w.graphInitDone = true
  allocator : pol.requireAllocatorInit = true → w.allocatorInitDone = true
  deviceContext : pol.requireDeviceContext = true → w.deviceContextDone = true
  boundedWarmup : pol.requireBoundedWarmup = true → w.warmupExecutionDone = true
  endpoint : pol.requireEndpoint = true → w.endpointRegistered = true
  steps : w.stepsRequired ≤ w.stepsCompleted
  workSteps : pol.warmupWorkSteps ≤ w.stepsCompleted

def WarmingRecord.InProgress (w : WarmingRecord) : Prop :=
  w.warmupExecutionDone = false ∧ 0 < w.stepsRequired ∧ 0 < w.stepsCompleted

theorem ReplicaState.warmed_warm_iff {r : ReplicaState} {w : WarmingRecord} {mono : MonotonicNs} :
    (r.warmed w mono).warmth = .warm ↔ ¬w.InProgress := by
  have cold : (!w.warmupExecutionDone && w.stepsRequired > 0 && w.stepsCompleted > 0) = true ↔
      w.InProgress := by
    simp [WarmingRecord.InProgress, and_assoc]
  rw [← cold, warmed]
  dsimp only
  split_ifs with progress <;> simp [progress]

namespace ReplicaSetController

variable {ctrl : ReplicaSetController} {fresh : FreshIds} {id : ReplicaId} {w : WarmingRecord}
  {worker : WorkerId} {boot : WorkerBootId} {mono : MonotonicNs} {wall : WallNs}
  {target : PromotionState}

def WarmsByPolicy (ctrl : ReplicaSetController) (id : ReplicaId) (w : WarmingRecord)
    (worker : WorkerId) (boot : WorkerBootId) (mono : MonotonicNs) : Prop :=
  let outcome := ctrl.warmReplica id w worker boot mono
  outcome.1.isOk = true → ∀ r s, outcome.2.replicas[id]? = some r → r.warmth = .warm →
    ctrl.sets[r.setId]? = some s → s.policies.warming.enabled = true →
      s.policies.warming.Satisfied w

def ReportsProgress (ctrl : ReplicaSetController) (id : ReplicaId) (w : WarmingRecord)
    (worker : WorkerId) (boot : WorkerBootId) : Prop :=
  ∀ r s, ctrl.replicas[id]? = some r → (r.workerId = worker ∧ r.bootId = boot) →
    AcceptsWarming r → ctrl.sets[r.setId]? = some s → s.policies.warming.enabled = true →
      ¬s.policies.warming.Satisfied w → w.InProgress

theorem warms_by_policy_iff (ctrl : ReplicaSetController) (id : ReplicaId) (w : WarmingRecord)
    (worker : WorkerId) (boot : WorkerBootId) (mono : MonotonicNs) :
    ctrl.WarmsByPolicy id w worker boot mono ↔ ctrl.ReportsProgress id w worker boot := by
  have target : (Operation.warmReplica id w worker boot mono).reportTarget = some id := rfl
  have exactly := ctrl.report_editsWhen (Sample.freshAt 0) target
  constructor
  · intro warms r s found host accepts known enabled unsatisfied
    by_contra done
    obtain ⟨r', found', -, accepted, written⟩ := exactly.edits r found ⟨host, accepts⟩
    obtain rfl : r = r' := Option.some.inj (found.symm.trans found')
    refine unsatisfied (warms accepted (r.warmed w mono) s ?_ ?_ known enabled)
    · exact (congrArg (·.replicas[id]?) written).trans (putReplica_here ..)
    · exact ReplicaState.warmed_warm_iff.mpr done
  · intro progress accepted r' s post warm known enabled
    rcases exactly.cases with refused | ⟨r, found, ⟨host, accepts⟩, -, written⟩
    · cases refused.1.symm.trans accepted
    obtain rfl : r.warmed w mono = r' := Option.some.inj
      (((congrArg (·.replicas[id]?) written).trans
        (putReplica_here ..)).symm.trans post)
    by_contra unsatisfied
    exact ReplicaState.warmed_warm_iff.mp warm
      (progress r s found host accepts known enabled unsatisfied)

def startedReplica : ReplicaSetController :=
  Machine.run step empty (Sample.setUp ++ (Sample.bringUp ⟨0, 1⟩).take 3)

theorem startedReplica_warm :
    ¬∀ ctrl id w worker boot mono, WarmsByPolicy ctrl id w worker boot mono := by
  intro always
  have accepted : (startedReplica.warmReplica ⟨0, 1⟩ {} ⟨0, 1⟩ ⟨0, 1⟩ 0).1.isOk = true := by decide
  have after : (startedReplica.warmReplica ⟨0, 1⟩ {} ⟨0, 1⟩ ⟨0, 1⟩ 0).2.replicas[
      (⟨0, 1⟩ : ReplicaId)]?.map (fun r => (r.warmth, r.setId)) = some (.warm, Sample.setId) := by
    decide
  have usual : startedReplica.sets[Sample.setId]?.map (·.policies.warming) = some {} := by decide
  obtain ⟨r, found, both⟩ := Option.map_eq_some_iff.mp after
  obtain ⟨s, known, policy⟩ := Option.map_eq_some_iff.mp usual
  obtain ⟨warm, member⟩ := Prod.mk.inj both
  have satisfied := always startedReplica ⟨0, 1⟩ {} ⟨0, 1⟩ ⟨0, 1⟩ 0 accepted r s found warm
    (member ▸ known) (by rw [policy])
  rw [policy] at satisfied
  cases satisfied.artifact rfl

def healthRank : HealthState → Nat
  | .healthy => 2
  | .degraded => 1
  | _ => 0

structure HonoursPolicy (ctrl : ReplicaSetController) (r : ReplicaState) (set : ReplicaSetState)
    (target : PromotionState) : Prop where
  healthy : set.policies.promotion.requireHealthy = true →
    healthRank set.policies.promotion.minHealth ≤ healthRank r.health
  canary : target = .canary → set.policies.promotion.allowCanary = true
  ready : set.policies.promotion.requireReady = true →
    r.readyToPromote = true ∧ r.readiness = .ready
  compatible : set.policies.promotion.requireCompatible = true →
    (checkCompatibility set.compatibility r.compatibility).compatible = true
  placed : set.policies.promotion.requirePlacementValid = true → r.placement = .assigned
  resources : set.policies.promotion.requireResources = true → r.capacityTotal ≠ 0
  authority : set.policies.promotion.requireAuthorityCurrent = true →
    r.coordinatorEpoch = ctrl.epoch ∧ r.setGeneration = set.generation ∧
      r.policyGeneration = set.policyGeneration ∧ r.artifactGeneration = set.artifactGeneration

def PromotesByPolicy (ctrl : ReplicaSetController) (fresh : FreshIds) (id : ReplicaId)
    (target : PromotionState) (worker : WorkerId) (boot : WorkerBootId) (mono : MonotonicNs)
    (wall : WallNs) : Prop :=
  (ctrl.promoteReplica fresh id target worker boot mono wall).1.isOk = true →
    ∀ r set, ctrl.replicas[id]? = some r → ctrl.sets[r.setId]? = some set →
      HonoursPolicy ctrl r set target

/-- What passes the gate has the least health of the policy, and is no canary that the policy does
not allow. -/
def MeetsUnread (ctrl : ReplicaSetController) (id : ReplicaId) (target : PromotionState)
    (worker : WorkerId) (boot : WorkerBootId) : Prop :=
  ∀ r set, ctrl.replicas[id]? = some r → PromotionGate ctrl r worker boot set →
    (target = .primary → r.readyToPromote = true) →
      (set.policies.promotion.requireHealthy = true →
        healthRank set.policies.promotion.minHealth ≤ healthRank r.health) ∧
      (target = .canary → set.policies.promotion.allowCanary = true)

theorem PromotionGate.honoursPolicy_iff {r : ReplicaState} {set : ReplicaSetState}
    (gate : PromotionGate ctrl r worker boot set) :
    HonoursPolicy ctrl r set target ↔
      (set.policies.promotion.requireHealthy = true →
        healthRank set.policies.promotion.minHealth ≤ healthRank r.health) ∧
      (target = .canary → set.policies.promotion.allowCanary = true) := by
  constructor
  · intro honours
    exact ⟨honours.healthy, honours.canary⟩
  · rintro ⟨healthy, canary⟩
    exact {
      healthy := healthy
      canary := canary
      ready := fun required => ⟨gate.ready required, gate.readiness⟩
      compatible := gate.compatible
      placed := gate.placed
      resources := gate.resources
      authority := fun _ => ⟨gate.epoch, gate.setGeneration, gate.policyGeneration,
        gate.artifactGeneration⟩ }

theorem promotes_by_policy_iff (ctrl : ReplicaSetController) (fresh : FreshIds) (id : ReplicaId)
    (target : PromotionState) (worker : WorkerId) (boot : WorkerBootId) (mono : MonotonicNs)
    (wall : WallNs) :
    ctrl.PromotesByPolicy fresh id target worker boot mono wall ↔
      ctrl.MeetsUnread id target worker boot := by
  constructor
  · intro promotes r set found gate ready
    exact gate.honoursPolicy_iff.mp
      (promotes (promoteReplica_isOk.mpr ⟨r, set, found, gate, ready⟩) r set found gate.known)
  · intro meets accepted r set found known
    obtain ⟨r', set', found', gate, ready⟩ := promoteReplica_isOk.mp accepted
    obtain rfl : r = r' := Option.some.inj (found.symm.trans found')
    obtain rfl : set = set' := Option.some.inj (known.symm.trans gate.known)
    exact gate.honoursPolicy_iff.mpr (meets r set found gate ready)

theorem failedReady_unfit : ¬∀ ctrl fresh id target worker boot mono wall,
    PromotesByPolicy ctrl fresh id target worker boot mono wall := by
  intro always
  let ctrl := Machine.run step empty failedReady
  have accepted : (ctrl.promoteReplica (Sample.freshAt 0) ⟨0, 1⟩ .primary ⟨0, 1⟩ ⟨0, 1⟩ 0
      0).1.isOk = true := by decide +kernel
  have member : ctrl.replicas[(⟨0, 1⟩ : ReplicaId)]?.map (fun r => (r.health, r.setId)) =
      some (.failed, Sample.setId) := by decide +kernel
  have usual : ctrl.sets[Sample.setId]?.map (·.policies.promotion) = some {} := by decide +kernel
  obtain ⟨r, found, both⟩ := Option.map_eq_some_iff.mp member
  obtain ⟨s, known, policy⟩ := Option.map_eq_some_iff.mp usual
  obtain ⟨failed, inSet⟩ := Prod.mk.inj both
  have honours := always ctrl _ _ _ _ _ 0 0 accepted r s found (inSet ▸ known)
  have least := honours.healthy (by rw [policy])
  rw [policy, failed] at least
  exact absurd least (by decide)

end ReplicaSetController

end ReplicaFabric
