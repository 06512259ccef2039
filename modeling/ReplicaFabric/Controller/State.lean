import ReplicaFabric.Authority.ServingAuthority
import ReplicaFabric.Library.Table

namespace ReplicaFabric

/-- `rejected` is stale authority or policy, `invalid` a state-machine violation. -/
inductive OpStatus
  | ok | rejected | invalid
  deriving DecidableEq, Repr

structure OpResult where
  status : OpStatus := .invalid
  message : Str := []
  deriving DecidableEq, Repr

namespace OpResult

def ok (message : Str) : OpResult := ⟨.ok, message⟩

def rejected (message : Str) : OpResult := ⟨.rejected, message⟩

def invalid (message : Str) : OpResult := ⟨.invalid, message⟩

def isOk (result : OpResult) : Bool := result.status = .ok

@[simp] theorem ok_isOk (message : Str) : (ok message).isOk = true := rfl

@[simp] theorem rejected_isOk (message : Str) : (rejected message).isOk = false := rfl

@[simp] theorem invalid_isOk (message : Str) : (invalid message).isOk = false := rfl

end OpResult

structure WorkerRegistration where
  workerId : WorkerId := .null
  bootId : WorkerBootId := .null
  nodeId : NodeId := .null
  inventory : ResourceInventory := {}
  hostedSetGeneration : ReplicaSetGeneration := .null
  protocolVersion : UInt32 := 0
  deriving DecidableEq, Repr

structure PromotionRecord where
  id : PromotionId := .null
  replicaId : ReplicaId := .null
  setId : ReplicaSetId := .null
  replicaGeneration : ReplicaGeneration := .null
  setGeneration : ReplicaSetGeneration := .null
  epoch : CoordinatorEpoch := .null
  source : PromotionState := .notPromoted
  target : PromotionState := .primary
  whenMono : MonotonicNs := 0
  whenWall : WallNs := 0
  reason : Str := []
  deriving DecidableEq, Repr

structure DrainRecord where
  id : DrainId := .null
  replicaId : ReplicaId := .null
  setId : ReplicaSetId := .null
  state : DrainState := .notDraining
  startedMono : MonotonicNs := 0
  completedMono : MonotonicNs := 0
  forceCancelled : Bool := false
  quiescedRequests : UInt64 := 0
  reason : Str := []
  deriving DecidableEq, Repr

structure FailoverRecord where
  id : FailoverId := .null
  setId : ReplicaSetId := .null
  failedReplica : ReplicaId := .null
  replacement : ReplicaId := .null
  state : FailoverState := .triggered
  epoch : CoordinatorEpoch := .null
  startedMono : MonotonicNs := 0
  completedMono : MonotonicNs := 0
  generationPreserved : Bool := true
  ambiguousOutcomes : List WorkOutcome := []
  reason : Str := []
  deriving DecidableEq, Repr

/-- The state of the controller. The random generator is not part of it: the identities an
operation draws are an argument of the operation. -/
structure ReplicaSetController where
  sets : Table ReplicaSetId ReplicaSetState := ∅
  replicas : Table ReplicaId ReplicaState := ∅
  workers : Table WorkerId WorkerRegistration := ∅
  promotions : List PromotionRecord := []
  drains : List DrainRecord := []
  failovers : List FailoverRecord := []
  epoch : CoordinatorEpoch := .null

structure FreshIds where
  generation : ReplicaGeneration
  healthGeneration : HealthGeneration
  promotionId : PromotionId
  drainId : DrainId
  failoverId : FailoverId

namespace ReplicaSetController

def empty : ReplicaSetController := {}

def findReplica (ctrl : ReplicaSetController) (replicaId : ReplicaId) : Option ReplicaState :=
  ctrl.replicas[replicaId]?

def findSet (ctrl : ReplicaSetController) (setId : ReplicaSetId) : Option ReplicaSetState :=
  ctrl.sets[setId]?

def workerBoot (ctrl : ReplicaSetController) (workerId : WorkerId) : WorkerBootId :=
  match ctrl.workers[workerId]? with
  | none => .null
  | some reg => reg.bootId

def currentBootFor (ctrl : ReplicaSetController) (replicaId : ReplicaId) : WorkerBootId :=
  match ctrl.replicas[replicaId]? with
  | none => .null
  | some r => ctrl.workerBoot r.workerId

def authorityContext (ctrl : ReplicaSetController) (r : ReplicaState) (set : ReplicaSetState) :
    ServingAuthorityContext where
  epoch := ctrl.epoch
  setGeneration := set.generation
  policyGeneration := set.policyGeneration
  artifactGeneration := set.artifactGeneration
  healthGeneration := r.healthGeneration
  workerBoot := ctrl.workerBoot r.workerId
  policyFingerprint := set.compatibility.policyFingerprint

def servable (ctrl : ReplicaSetController) (replicaId : ReplicaId) : ServingAuthorityDecision :=
  match ctrl.replicas[replicaId]? with
  | none => { eligible := false, rejection := "unknown replica" }
  | some r =>
      match ctrl.sets[r.setId]? with
      | none => { eligible := false, rejection := "unknown replica set" }
      | some set => evaluateServingAuthority r set (ctrl.authorityContext r set)

def Servable (ctrl : ReplicaSetController) (replicaId : ReplicaId) : Prop :=
  (ctrl.servable replicaId).eligible = true

instance (ctrl : ReplicaSetController) (replicaId : ReplicaId) :
    Decidable (ctrl.Servable replicaId) := inferInstanceAs (Decidable (_ = true))

theorem servable_iff {ctrl : ReplicaSetController} {replicaId : ReplicaId} :
    ctrl.Servable replicaId ↔ ∃ r set, ctrl.replicas[replicaId]? = some r ∧
      ctrl.sets[r.setId]? = some set ∧ ServingAuthority r set (ctrl.authorityContext r set) := by
  unfold Servable servable
  cases found : ctrl.replicas[replicaId]? with
  | none => simp
  | some r =>
      cases known : ctrl.sets[r.setId]? with
      | none => simp [known]
      | some set => simp [known, evaluateServingAuthority_eligible]

end ReplicaSetController

end ReplicaFabric
