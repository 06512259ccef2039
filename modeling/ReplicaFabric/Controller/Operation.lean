import ReplicaFabric.Controller.Operations
import ReplicaFabric.Library.Machine

/-!
# The controller as a machine

The public operations are the inputs of the machine whose states are the controller's.
-/

namespace ReplicaFabric

inductive Operation
  | registerWorker (wr : WorkerRegistration)
  | unregisterWorker (workerId : WorkerId)
  | createReplicaSet (set : ReplicaSetState) (epoch : CoordinatorEpoch)
  | transitionReplicaSet (setId : ReplicaSetId) (target : ReplicaSetLifecycle)
  | provisionReplica (replicaId : ReplicaId) (setId : ReplicaSetId) (workerId : WorkerId)
      (compat : ReplicaCompatibility) (device : DeviceCapability) (capacity : UInt64)
      (mono : MonotonicNs) (wall : WallNs)
  | setAllocating (replicaId : ReplicaId) (placementId : PlacementId)
  | setStarting (replicaId : ReplicaId) (mono : MonotonicNs) (wall : WallNs)
  | warmReplica (replicaId : ReplicaId) (warm : WarmingRecord) (worker : WorkerId)
      (boot : WorkerBootId) (mono : MonotonicNs)
  | reportHealth (replicaId : ReplicaId) (ev : HealthEvidence) (worker : WorkerId)
      (boot : WorkerBootId) (mono : MonotonicNs)
  | reportReadiness (replicaId : ReplicaId) (rr : ReadinessRecord) (worker : WorkerId)
      (boot : WorkerBootId)
  | promoteReplica (replicaId : ReplicaId) (target : PromotionState) (worker : WorkerId)
      (boot : WorkerBootId) (mono : MonotonicNs) (wall : WallNs)
  | drainReplica (replicaId : ReplicaId) (worker : WorkerId) (boot : WorkerBootId)
      (mono : MonotonicNs)
  | completeDrain (replicaId : ReplicaId) (quiesced : UInt64) (forceCancelled : Bool)
      (mono : MonotonicNs)
  | failReplica (replicaId : ReplicaId) (worker : WorkerId) (boot : WorkerBootId) (reason : Str)
      (mono : MonotonicNs)
  | retireReplica (replicaId : ReplicaId)
  | triggerFailover (setId : ReplicaSetId) (failedReplica : ReplicaId) (reason : Str)
      (mono : MonotonicNs) (wall : WallNs)
  | setEpoch (epoch : CoordinatorEpoch)

namespace Operation

def apply (fresh : FreshIds) (ctrl : ReplicaSetController) :
    Operation → OpResult × ReplicaSetController
  | registerWorker wr => ctrl.registerWorker wr
  | unregisterWorker w => ctrl.unregisterWorker w
  | createReplicaSet set epoch => ctrl.createReplicaSet set epoch
  | transitionReplicaSet s target => ctrl.transitionReplicaSet s target
  | provisionReplica r s w compat device capacity mono wall =>
      ctrl.provisionReplica fresh r s w compat device capacity mono wall
  | setAllocating r placement => ctrl.setAllocating r placement
  | setStarting r mono wall => ctrl.setStarting r mono wall
  | warmReplica r warm w b mono => ctrl.warmReplica r warm w b mono
  | reportHealth r ev w b mono => ctrl.reportHealth r ev w b mono
  | reportReadiness r rr w b => ctrl.reportReadiness r rr w b
  | promoteReplica r target w b mono wall => ctrl.promoteReplica fresh r target w b mono wall
  | drainReplica r w b mono => ctrl.drainReplica fresh r w b mono
  | completeDrain r quiesced force mono => ctrl.completeDrain r quiesced force mono
  | failReplica r w b reason mono => ctrl.failReplica r w b reason mono
  | retireReplica r => ctrl.retireReplica r
  | triggerFailover s failed reason mono wall =>
      ctrl.triggerFailover fresh s failed reason mono wall
  -- `set_epoch` returns nothing.
  | setEpoch epoch => (.ok [], ctrl.setEpoch epoch)

/-- The operation names the replica, or it is one that goes over the replicas of a worker. -/
def Touches (id : ReplicaId) : Operation → Prop
  | registerWorker _ | unregisterWorker _ => True
  | createReplicaSet .. | transitionReplicaSet .. | setEpoch _ => False
  | provisionReplica r .. | setAllocating r _ | setStarting r .. | warmReplica r ..
  | reportHealth r .. | reportReadiness r .. | promoteReplica r .. | drainReplica r ..
  | completeDrain r .. | failReplica r .. | retireReplica r => r = id
  | triggerFailover _ failed .. => failed = id

def provisions (id : ReplicaId) : Operation → Bool
  | provisionReplica r .. => r = id
  | _ => false

theorem touches_of_provisions {id : ReplicaId} {op : Operation}
    (provisions : op.provisions id = true) : op.Touches id := by
  cases op <;> simp_all [Operation.provisions, Touches]

def credentials : Operation → Option (WorkerId × WorkerBootId)
  | warmReplica _ _ worker boot _ | reportHealth _ _ worker boot _
  | reportReadiness _ _ worker boot | promoteReplica _ _ worker boot _ _
  | drainReplica _ worker boot _ | failReplica _ worker boot _ _ => some (worker, boot)
  | _ => none

end Operation

structure Call where
  op : Operation
  fresh : FreshIds

namespace ReplicaSetController

def step (ctrl : ReplicaSetController) (call : Call) : OpResult × ReplicaSetController :=
  call.op.apply call.fresh ctrl

end ReplicaSetController

namespace Sample

def freshAt (n : UInt64) : FreshIds := ⟨⟨1, n⟩, ⟨1, n⟩, ⟨1, n⟩, ⟨1, n⟩, ⟨1, n⟩⟩

def setId : ReplicaSetId := ⟨0, 1⟩

def set : ReplicaSetState := { id := setId, maxReplicas := 3 }

def worker (w b : UInt64) : WorkerRegistration := { workerId := ⟨0, w⟩, bootId := ⟨0, b⟩ }

def register (w b : UInt64) : Call := ⟨.registerWorker (worker w b), freshAt 0⟩

def setUp : List Call := [register 1 1, ⟨.createReplicaSet set ⟨0, 1⟩, freshAt 0⟩]

def allReady : ReadinessRecord :=
  { factors := ⟨true, true, true, true, true, true, true, true, true, true, true⟩ }

def bringUp (id : ReplicaId) : List Call :=
  let fresh := freshAt id.lo
  [ .provisionReplica id setId ⟨0, 1⟩ {} {} 1 0 0,
    .setAllocating id ⟨0, 1⟩,
    .setStarting id 0 0,
    .warmReplica id {} ⟨0, 1⟩ ⟨0, 1⟩ 0,
    .reportReadiness id allReady ⟨0, 1⟩ ⟨0, 1⟩,
    .reportHealth id { state := .healthy, generation := fresh.healthGeneration } ⟨0, 1⟩ ⟨0, 1⟩
      0 ].map fun op => ⟨op, fresh⟩

def promote (id : ReplicaId) : Call :=
  ⟨.promoteReplica id .primary ⟨0, 1⟩ ⟨0, 1⟩ 0 0, freshAt 0⟩

def serving : List Call := setUp ++ bringUp ⟨0, 1⟩ ++ [promote ⟨0, 1⟩]

end Sample

end ReplicaFabric
