import ReplicaFabric.Controller.Contract
import ReplicaFabric.Controller.Logs

/-!
# What the operations on a replica leave alone

An operation on a replica writes that replica, and failover also the replacement it chooses. All
else is as before, up to the lifecycle of the set and what is recorded in the logs.
-/

namespace ReplicaFabric

structure Metadata where
  incarnation : Incarnation
  contract : Contract
  nodeId : NodeId
  coordinatorEpoch : CoordinatorEpoch

def ReplicaState.metadata (r : ReplicaState) : Metadata :=
  ⟨r.incarnation, r.contract, r.nodeId, r.coordinatorEpoch⟩

namespace Operation

def actsOnReplicas : Operation → Bool
  | setAllocating .. | setStarting .. | warmReplica .. | reportHealth .. | reportReadiness ..
  | promoteReplica .. | drainReplica .. | completeDrain .. | failReplica .. | retireReplica ..
  | triggerFailover .. => true
  | _ => false

/-- The replica that the operation is on, or the replacement that an accepted failover has
chosen. -/
def Writes (next : ReplicaSetController) (accepted : Bool) (op : Operation) (id : ReplicaId) :
    Prop :=
  op.Touches id ∨
    match op with
    | triggerFailover .. => accepted = true ∧
        ∃ record, next.failovers.getLast? = some record ∧ record.replacement = id
    | _ => False

def Derives (ctrl : ReplicaSetController) (op : Operation) (setId : ReplicaSetId) : Prop :=
  match op with
  | promoteReplica x .. => ∃ r, ctrl.replicas[x]? = some r ∧ r.setId = setId
  | triggerFailover s .. => s = setId
  | _ => False

def Closes (ctrl : ReplicaSetController) (op : Operation) (id : ReplicaId) : Prop :=
  match op with
  | completeDrain x .. => ∃ r, ctrl.replicas[x]? = some r ∧ r.id = id
  | _ => False

end Operation

namespace ReplicaSetController

variable {ctrl next : ReplicaSetController}

def ClosesOne (id : ReplicaId) (before after : List DrainRecord) : Prop :=
  ∃ front dr back quiesced force mono, before = front ++ dr :: back ∧
    (dr.replicaId = id ∧ dr.state = .draining) ∧
    after = front ++ settledDrain quiesced force mono dr :: back

/-- From `ctrl` to `next` nothing changes but the replicas in `written`, the lifecycles of the sets
in `derived`, the ends of the logs and one drain record of a replica in `closed`. -/
structure Frame (written : ReplicaId → Prop) (derived : ReplicaSetId → Prop)
    (closed : ReplicaId → Prop) (ctrl next : ReplicaSetController) : Prop where
  replicas : ∀ id : ReplicaId, ¬written id → next.replicas[id]? = ctrl.replicas[id]?
  metadata : ∀ id : ReplicaId, next.replicas[id]?.map ReplicaState.metadata =
    ctrl.replicas[id]?.map ReplicaState.metadata
  workers : next.workers = ctrl.workers
  epoch : next.epoch = ctrl.epoch
  sets : ∀ id : ReplicaSetId, next.sets[id]? = ctrl.sets[id]? ∨
    (derived id ∧ ∃ s lifecycle, ctrl.sets[id]? = some s ∧
      next.sets[id]? = some { s with lifecycle := lifecycle })
  promotions : ctrl.promotions <+: next.promotions
  failovers : ctrl.failovers <+: next.failovers
  drains : ctrl.drains <+: next.drains ∨ ∃ id, closed id ∧ ClosesOne id ctrl.drains next.drains

variable {fresh : FreshIds} {op : Operation} {accepted : Bool} {id : ReplicaId}

theorem ReplicaStep.unwritten {prior post : Option ReplicaState}
    (change : ReplicaStep ctrl fresh next id op accepted prior post)
    (acts : op.actsOnReplicas = true) (unwritten : ¬op.Writes next accepted id) : post = prior := by
  obtain ⟨untouched, notChosen⟩ := not_or.mp unwritten
  cases change with
  | absent => rfl
  | kept other => rfl
  | registered => cases acts
  | unregistered => cases acts
  | provisioned gate => cases acts
  | chosen selected recorded =>
      obtain ⟨record, logged, replacement⟩ := recorded
      exact absurd ⟨rfl, record, by simp [logged], replacement⟩ notChosen
  | _ => exact absurd rfl untouched

theorem ReplicaStep.metadata {r r' : ReplicaState}
    (change : ReplicaStep ctrl fresh next id op accepted (some r) (some r'))
    (acts : op.actsOnReplicas = true) : r'.metadata = r.metadata := by
  have carried : accepted = true → op.provisions id = false := by
    intro _
    cases op <;> first | rfl | cases acts
  have placed : r'.nodeId = r.nodeId ∧ r'.coordinatorEpoch = r.coordinatorEpoch := by
    cases change with
    | registered => cases acts
    | unregistered => cases acts
    | provisioned gate => cases acts
    | healthReported host alive =>
        unfold ReplicaState.healthReported
        dsimp only
        split_ifs <;> exact ⟨rfl, rfl⟩
    | promoted gate grant =>
        rcases promoted_ok.mp grant with ⟨-, -, rfl⟩ | ⟨-, rfl⟩
        · unfold grantedPrimary
          split_ifs <;> exact ⟨rfl, rfl⟩
        · exact ⟨rfl, rfl⟩
    | _ => exact ⟨rfl, rfl⟩
  simp only [ReplicaState.metadata, change.incarnation carried, change.contract carried, placed]

theorem sets_derived (acts : op.actsOnReplicas = true) (setId : ReplicaSetId) :
    (op.apply fresh ctrl).2.sets[setId]? = ctrl.sets[setId]? ∨
      (op.Derives ctrl setId ∧ ∃ s lifecycle, ctrl.sets[setId]? = some s ∧
        (op.apply fresh ctrl).2.sets[setId]? = some { s with lifecycle := lifecycle }) := by
  cases writes : op.writesSets with
  | false => exact Or.inl (by rw [sets_kept writes])
  | true =>
      have derives (addressed : op.setOf ctrl = some setId) : op.Derives ctrl setId := by
        cases op with
        | promoteReplica x => exact Option.map_eq_some_iff.mp addressed
        | triggerFailover s => exact Option.some.inj addressed
        | _ => simp [Operation.actsOnReplicas, Operation.writesSets] at acts writes
      have change := (ctrl.tablesStep op fresh).sets
      generalize (op.apply fresh ctrl).2.sets = after, (op.apply fresh ctrl).1.isOk = ok at *
      cases change with
      | kept => exact Or.inl rfl
      | created isNew counts => cases acts
      | @moved _ target s lifecycle found addressed edge =>
          rw [Table.get_insert]
          split_ifs with here
          · subst here
            exact Or.inr ⟨derives addressed, s, lifecycle, found, rfl⟩
          · exact Or.inl rfl

theorem drains_framed :
    ctrl.drains <+: (op.apply fresh ctrl).2.drains ∨
      ∃ id, op.Closes ctrl id ∧ ClosesOne id ctrl.drains (op.apply fresh ctrl).2.drains := by
  have change := (ctrl.logsStep op fresh).drains
  generalize (op.apply fresh ctrl).2.drains = after, (op.apply fresh ctrl).1.isOk = ok at *
  cases change with
  | kept other => exact Or.inl (List.prefix_refl _)
  | opened found edge => exact Or.inl (List.prefix_append ..)
  | @settled x quiesced force mono r found edge =>
      rcases settleDrain_cases r.id (settledDrain quiesced force mono) ctrl.drains with
        ⟨same, -⟩ | ⟨front, dr, back, split, isOpen, -, closed⟩
      · rw [same]
        exact Or.inl (List.prefix_refl _)
      · exact Or.inr ⟨r.id, ⟨r, found, rfl⟩, front, dr, back, quiesced, force, mono, split, isOpen,
          closed⟩

theorem operation_frame (ctrl : ReplicaSetController) (op : Operation) (fresh : FreshIds)
    (acts : op.actsOnReplicas = true) :
    Frame (op.Writes (op.apply fresh ctrl).2 (op.apply fresh ctrl).1.isOk) (op.Derives ctrl)
      (op.Closes ctrl) ctrl (op.apply fresh ctrl).2 where
  replicas id unwritten := (ctrl.replicaStep op fresh id).unwritten acts unwritten
  metadata id := by
    refine kept_step (fun _ => ?_) fun _ _ change => change.metadata acts
    cases op <;> first | rfl | cases acts
  workers := by
    rw [workers_step]
    cases op <;> first | rfl | cases acts
  epoch := by
    rw [(ctrl.tablesStep op fresh).epoch]
    cases op <;> first | rfl | cases acts
  sets setId := sets_derived acts setId
  promotions := (ctrl.logsStep op fresh).promotions
  failovers := (ctrl.logsStep op fresh).failovers
  drains := drains_framed

theorem operation_frame_drain :
    let ctrl := Machine.run step empty Sample.serving
    let op := Operation.drainReplica ⟨0, 1⟩ ⟨0, 1⟩ ⟨0, 1⟩ 5
    Frame (op.Writes (op.apply (Sample.freshAt 4) ctrl).2 (op.apply (Sample.freshAt 4) ctrl).1.isOk)
      (op.Derives ctrl) (op.Closes ctrl) ctrl (op.apply (Sample.freshAt 4) ctrl).2 :=
  operation_frame _ _ _ rfl

end ReplicaSetController

end ReplicaFabric
