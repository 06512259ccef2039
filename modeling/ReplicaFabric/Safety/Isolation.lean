import ReplicaFabric.Controller.ReplicaStep
import ReplicaFabric.Controller.SetStep

/-!
# Isolation of the sets

A call addressed to one set leaves the other sets and their replicas alone. What the sets share is
the epoch: it is an argument of `create_replica_set` and holds for the whole controller.
-/

namespace ReplicaFabric

def Operation.takesOver (ctrl : ReplicaSetController) : Operation → Bool
  | provisionReplica id setId .. =>
      match ctrl.replicas[id]? with
      | none => false
      | some r => r.setId ≠ setId
  | _ => false

namespace ReplicaSetController

variable {ctrl next : ReplicaSetController} {fresh : FreshIds} {op : Operation}
  {accepted : Bool} {S : ReplicaSetId}

theorem SetsStep.elsewhere {sets : Table ReplicaSetId ReplicaSetState}
    (change : SetsStep ctrl op accepted sets) (addressed : op.setOf ctrl = some S)
    {T : ReplicaSetId} (other : T ≠ S) : sets[T]? = ctrl.sets[T]? := by
  cases change with
  | kept => rfl
  | created isNew counts =>
      cases addressed
      exact Table.get_insert_ne _ _ other.symm
  | moved found addressed' edge =>
      obtain rfl := Option.some.inj (addressed'.symm.trans addressed)
      exact Table.get_insert_ne _ _ other.symm

theorem ReplicaStep.elsewhere {id : ReplicaId} {r : ReplicaState} {post : Option ReplicaState}
    (change : ReplicaStep ctrl fresh next id op accepted (some r) post)
    (found : ctrl.replicas[id]? = some r) (addressed : op.setOf ctrl = some S)
    (other : r.setId ≠ S) (owned : op.takesOver ctrl = false) : post = some r := by
  have named (onReplica : ctrl.replicas[id]?.map ReplicaState.setId = some S) : False := by
    rw [found] at onReplica
    exact other (Option.some.inj onReplica)
  cases change with
  | kept untouched => rfl
  | registered => cases addressed
  | unregistered => cases addressed
  | provisioned gate =>
      cases addressed
      simp [Operation.takesOver, found, other] at owned
  | allocated edge => exact (named addressed).elim
  | started edge => exact (named addressed).elim
  | warmed host accepts => exact (named addressed).elim
  | healthReported host alive => exact (named addressed).elim
  | readinessReported host alive => exact (named addressed).elim
  | promoted gate grant => exact (named addressed).elim
  | drained host edge => exact (named addressed).elim
  | quiesced edge => exact (named addressed).elim
  | failed host => exact (named addressed).elim
  | failRefused host edge => exact (named addressed).elim
  | retired edge => exact (named addressed).elim
  | failedOver inSet =>
      cases addressed
      exact absurd inSet other
  | chosen selected recorded =>
      cases addressed
      exact absurd (isCandidate_iff.mp selected.candidate).1 other

theorem servable_congr {id : ReplicaId} {r : ReplicaState} (found : ctrl.replicas[id]? = some r)
    (replica : next.replicas[id]? = some r) (set : next.sets[r.setId]? = ctrl.sets[r.setId]?)
    (workers : next.workers = ctrl.workers) (epoch : next.epoch = ctrl.epoch) :
    next.servable id = ctrl.servable id := by
  unfold servable authorityContext workerBoot
  simp only [found, replica, set, workers, epoch]

theorem workersAfter_of_setOf (addressed : op.setOf ctrl = some S)
    (workers : Table WorkerId WorkerRegistration) : op.workersAfter workers = workers := by
  cases op with
  | registerWorker wr => cases addressed
  | unregisterWorker worker => cases addressed
  | _ => rfl

structure Isolated (S : ReplicaSetId) (ctrl next : ReplicaSetController) : Prop where
  sets : ∀ T : ReplicaSetId, T ≠ S → next.sets[T]? = ctrl.sets[T]?
  replicas : ∀ (x : ReplicaId) (r : ReplicaState), ctrl.replicas[x]? = some r → r.setId ≠ S →
    next.replicas[x]? = some r
  servable : ∀ (x : ReplicaId) (r : ReplicaState), ctrl.replicas[x]? = some r → r.setId ≠ S →
    (next.servable x).eligible = (ctrl.servable x).eligible

def IsolatesSets (ctrl : ReplicaSetController) (call : Call) : Prop :=
  ∀ S, call.op.setOf ctrl = some S → (ctrl.step call).1.isOk = true →
    Isolated S ctrl (ctrl.step call).2

theorem isolated_of_epoch (addressed : op.setOf ctrl = some S) (owned : op.takesOver ctrl = false)
    (accepts : (op.apply fresh ctrl).1.isOk = true) :
    Isolated S (ctrl.setEpoch (op.epochAfter true ctrl.epoch)) (op.apply fresh ctrl).2 := by
  have tables := ctrl.tablesStep op fresh
  have sets (T : ReplicaSetId) (other : T ≠ S) :
      (op.apply fresh ctrl).2.sets[T]? = ctrl.sets[T]? := tables.sets.elsewhere addressed other
  have replicas (x : ReplicaId) (r : ReplicaState) (found : ctrl.replicas[x]? = some r)
      (other : r.setId ≠ S) : (op.apply fresh ctrl).2.replicas[x]? = some r := by
    have change := ctrl.replicaStep op fresh x
    rw [found] at change
    exact change.elsewhere found addressed other owned
  refine ⟨sets, replicas, fun x r found other => ?_⟩
  have epoch : (op.apply fresh ctrl).2.epoch = op.epochAfter true ctrl.epoch := by
    rw [tables.epoch, accepts]
  have workers : (op.apply fresh ctrl).2.workers = ctrl.workers := by
    rw [tables.workers, workersAfter_of_setOf addressed]
  have served : (op.apply fresh ctrl).2.servable x =
      (ctrl.setEpoch (op.epochAfter true ctrl.epoch)).servable x :=
    servable_congr found (replicas x r found other) (sets r.setId other) workers epoch
  rw [served]

theorem sets_isolated (ctrl : ReplicaSetController) (call : Call) (S : ReplicaSetId)
    (addressed : call.op.setOf ctrl = some S) (owned : call.op.takesOver ctrl = false)
    (accepts : (ctrl.step call).1.isOk = true) :
    Isolated S (ctrl.setEpoch (call.op.epochAfter true ctrl.epoch)) (ctrl.step call).2 ∧
      ((∀ set epoch, call.op = .createReplicaSet set epoch → epoch = ctrl.epoch) →
        Isolated S ctrl (ctrl.step call).2) := by
  have isolated := isolated_of_epoch addressed owned accepts
  refine ⟨isolated, fun same => ?_⟩
  have epoch : call.op.epochAfter true ctrl.epoch = ctrl.epoch := by
    cases op : call.op with
    | createReplicaSet set epoch => exact same set epoch op
    | setEpoch epoch => simp [op, Operation.setOf] at addressed
    | _ => rfl
  rw [epoch] at isolated
  exact isolated

theorem sets_isolated_drain :
    Isolated Sample.setId
      ((Machine.run step empty Sample.serving).setEpoch ⟨0, 1⟩)
      ((Machine.run step empty Sample.serving).step
        ⟨.drainReplica ⟨0, 1⟩ ⟨0, 1⟩ ⟨0, 1⟩ 0, Sample.freshAt 0⟩).2 :=
  (sets_isolated (Machine.run step empty Sample.serving)
    ⟨.drainReplica ⟨0, 1⟩ ⟨0, 1⟩ ⟨0, 1⟩ 0, Sample.freshAt 0⟩ Sample.setId (by decide) (by decide)
    (by decide)).1

def secondSet : ReplicaSetState := { Sample.set with id := ⟨0, 2⟩ }

def createUnder (epoch : CoordinatorEpoch) : Call :=
  ⟨.createReplicaSet secondSet epoch, Sample.freshAt 0⟩

def provisionInSecond : Call :=
  ⟨.provisionReplica ⟨0, 1⟩ secondSet.id ⟨0, 1⟩ {} {} 1 0 0, Sample.freshAt 2⟩

/-- Creating a set under another epoch takes the primary of the first set out of service, and a
provision in the second set under the id of that primary overwrites it. -/
theorem secondSet_not_isolated :
    ¬IsolatesSets (Machine.run step empty Sample.serving) (createUnder ⟨0, 2⟩) ∧
    ¬IsolatesSets (Machine.run step empty (Sample.serving ++ [createUnder ⟨0, 1⟩]))
      provisionInSecond := by
  constructor
  · intro isolates
    have isolated := isolates ⟨0, 2⟩ rfl (by decide)
    have serving : (Machine.run step empty Sample.serving).replicas[(⟨0, 1⟩ : ReplicaId)]?.map
        (·.setId) = some Sample.setId := by decide
    obtain ⟨r, found, inFirst⟩ := Option.map_eq_some_iff.mp serving
    have same := isolated.servable ⟨0, 1⟩ r found (by rw [inFirst]; decide)
    revert same
    decide
  · intro isolates
    have isolated := isolates ⟨0, 2⟩ rfl (by decide)
    have inFirst : (Machine.run step empty (Sample.serving ++ [createUnder ⟨0, 1⟩])).replicas[
        (⟨0, 1⟩ : ReplicaId)]?.map (·.setId) = some Sample.setId := by decide
    obtain ⟨r, found, inFirst⟩ := Option.map_eq_some_iff.mp inFirst
    have same := isolated.replicas ⟨0, 1⟩ r found (by rw [inFirst]; decide)
    have moved : ((Machine.run step empty (Sample.serving ++ [createUnder ⟨0, 1⟩])).step
        provisionInSecond).2.replicas[(⟨0, 1⟩ : ReplicaId)]?.map (·.setId) =
          some secondSet.id := by decide
    rw [same, Option.map_some, inFirst] at moved
    cases moved

end ReplicaSetController

end ReplicaFabric
