import ReplicaFabric.Controller.Failover
import ReplicaFabric.Controller.Operation

namespace ReplicaFabric

def Operation.workersAfter (workers : Table WorkerId WorkerRegistration) :
    Operation → Table WorkerId WorkerRegistration
  | registerWorker wr => workers.insert wr.workerId wr
  | unregisterWorker worker => workers.erase worker
  | _ => workers

def Operation.epochAfter (accepted : Bool) (current : CoordinatorEpoch) :
    Operation → CoordinatorEpoch
  | createReplicaSet _ epoch => if accepted then epoch else current
  | setEpoch epoch => epoch
  | _ => current

def Operation.setOf (ctrl : ReplicaSetController) : Operation → Option ReplicaSetId
  | registerWorker _ | unregisterWorker _ | setEpoch _ => none
  | createReplicaSet set _ => some set.id
  | transitionReplicaSet setId _ | provisionReplica _ setId .. | triggerFailover setId .. =>
      some setId
  | setAllocating r _ | setStarting r .. | warmReplica r .. | reportHealth r ..
  | reportReadiness r .. | promoteReplica r .. | drainReplica r .. | completeDrain r ..
  | failReplica r .. | retireReplica r => ctrl.replicas[r]?.map ReplicaState.setId

def Operation.writesSets : Operation → Bool
  | createReplicaSet .. | transitionReplicaSet .. | provisionReplica .. | promoteReplica ..
  | triggerFailover .. => true
  | _ => false

namespace ReplicaSetController

variable {ctrl : ReplicaSetController}

/-- What one call can do to the sets: the operation, whether it was accepted, and the sets after
it. -/
inductive SetsStep (ctrl : ReplicaSetController) :
    Operation → Bool → Table ReplicaSetId ReplicaSetState → Prop
  | kept {op accepted} : SetsStep ctrl op accepted ctrl.sets
  | created {set epoch} (isNew : ctrl.sets[set.id]? = none) (counts : countsInvalid set = false) :
      SetsStep ctrl (.createReplicaSet set epoch) true (ctrl.sets.insert set.id set)
  | moved {op setId s lifecycle} (found : ctrl.sets[setId]? = some s)
      (addressed : op.setOf ctrl = some setId)
      (edge : s.lifecycle.canTransition lifecycle = true) :
      SetsStep ctrl op true (ctrl.sets.insert setId { s with lifecycle := lifecycle })

theorem SetsStep.of_derived {before : ReplicaSetController} {setId : ReplicaSetId} {op : Operation}
    {s : ReplicaSetState} (member : ReplicaSetId) (found : ctrl.sets[setId]? = some s)
    (addressed : op.setOf ctrl = some setId) (same : before.sets = ctrl.sets) :
    SetsStep ctrl op true (before.deriveSetLifecycle setId s member).sets := by
  rcases before.deriveSetLifecycle_cases setId member s with unmoved | ⟨lifecycle, -, edge, moved⟩
  · rw [unmoved, same]
    exact .kept
  · rw [moved, putSet, same]
    exact .moved found addressed edge

structure TablesStep (ctrl : ReplicaSetController) (op : Operation)
    (outcome : OpResult × ReplicaSetController) : Prop where
  sets : SetsStep ctrl op outcome.1.isOk outcome.2.sets
  workers : outcome.2.workers = op.workersAfter ctrl.workers
  epoch : outcome.2.epoch = op.epochAfter outcome.1.isOk ctrl.epoch

namespace TablesStep

variable {op : Operation} {outcome : OpResult × ReplicaSetController}

theorem of_written {next : ReplicaSetController} (written : outcome.2 = next)
    (sets : next.sets = ctrl.sets) (workers : next.workers = op.workersAfter ctrl.workers)
    (epoch : next.epoch = op.epochAfter outcome.1.isOk ctrl.epoch) :
    TablesStep ctrl op outcome := by
  subst written
  refine ⟨?_, workers, epoch⟩
  rw [sets]
  exact .kept

theorem of_refused (keepsWorkers : op.workersAfter ctrl.workers = ctrl.workers)
    (keepsEpoch : op.epochAfter false ctrl.epoch = ctrl.epoch) (refused : Refused outcome ctrl) :
    TablesStep ctrl op outcome :=
  of_written refused.2 rfl keepsWorkers.symm (by rw [refused.1, keepsEpoch])

theorem of_edits {target : ReplicaId} {guard : ReplicaState → Prop}
    {edit : ReplicaState → ReplicaState} (keepsWorkers : op.workersAfter ctrl.workers = ctrl.workers)
    (keepsEpoch : op.epochAfter true ctrl.epoch = ctrl.epoch)
    (edits : Edits outcome ctrl target guard edit) : TablesStep ctrl op outcome := by
  obtain ⟨r, -, -, accepted, written⟩ := edits
  exact of_written written rfl keepsWorkers.symm (by rw [accepted, keepsEpoch]; rfl)

end TablesStep

theorem unregisterWorker_tablesStep (worker : WorkerId) :
    TablesStep ctrl (.unregisterWorker worker) (ctrl.unregisterWorker worker) := by
  rcases ctrl.unregisterWorker_cases worker with ⟨unknown, refused⟩ | ⟨reg, -, -, written⟩
  · refine .of_refused ?_ rfl refused
    apply Table.ext_get
    intro other
    rw [Operation.workersAfter, Table.get_erase]
    split_ifs with same
    · rw [← same, unknown]
    · rfl
  · exact .of_written written rfl rfl rfl

theorem createReplicaSet_tablesStep (set : ReplicaSetState) (epoch : CoordinatorEpoch) :
    TablesStep ctrl (.createReplicaSet set epoch) (ctrl.createReplicaSet set epoch) := by
  rcases ctrl.createReplicaSet_cases set epoch with refused | ⟨isNew, counts, accepted, written⟩
  · exact .of_refused rfl rfl refused
  · refine ⟨?_, (congrArg workers written).trans rfl, ?_⟩
    · rw [accepted, written]
      exact .created isNew counts
    · rw [accepted, written]
      rfl

theorem provisionReplica_tablesStep (fresh : FreshIds) (id : ReplicaId) (setId : ReplicaSetId)
    (worker : WorkerId) (compat : ReplicaCompatibility) (device : DeviceCapability)
    (capacity : UInt64) (mono : MonotonicNs) (wall : WallNs) :
    TablesStep ctrl (.provisionReplica id setId worker compat device capacity mono wall)
      (ctrl.provisionReplica fresh id setId worker compat device capacity mono wall) := by
  rcases ctrl.provisionReplica_cases fresh id setId worker compat device capacity mono wall with
    ⟨-, refused⟩ | ⟨set, reg, lifecycle, gate, moves, accepted, written⟩
  · exact .of_refused rfl rfl refused
  have found := (provisionGate_ok.mp gate).1
  rcases moves with rfl | ⟨created, rfl⟩
  · exact .of_written written (Table.insert_same found) rfl rfl
  · refine ⟨?_, (congrArg workers written).trans rfl, (congrArg epoch written).trans rfl⟩
    rw [accepted, written]
    exact .moved found rfl (by rw [created]; rfl)

theorem tablesStep (op : Operation) (fresh : FreshIds) :
    TablesStep ctrl op (op.apply fresh ctrl) := by
  cases op with
  | registerWorker wr => exact .of_written rfl rfl rfl rfl
  | unregisterWorker worker => exact unregisterWorker_tablesStep worker
  | createReplicaSet set epoch => exact createReplicaSet_tablesStep set epoch
  | transitionReplicaSet setId target =>
      rcases ctrl.transitionReplicaSet_cases setId target with refused |
        ⟨s, found, edge, accepted, written⟩
      · exact .of_refused rfl rfl refused
      · refine ⟨?_, (congrArg workers written).trans rfl, (congrArg epoch written).trans rfl⟩
        rw [Operation.apply, accepted, written]
        exact .moved found rfl edge
  | provisionReplica replicaId setId worker compat device capacity mono wall =>
      exact provisionReplica_tablesStep fresh replicaId setId worker compat device capacity mono wall
  | setAllocating replicaId placementId =>
      exact (ctrl.setAllocating_cases replicaId placementId).elim (.of_refused rfl rfl)
        (.of_edits rfl rfl)
  | setStarting replicaId mono wall =>
      exact (ctrl.setStarting_cases replicaId mono wall).elim (.of_refused rfl rfl)
        (.of_edits rfl rfl)
  | warmReplica replicaId warm worker boot mono =>
      exact (ctrl.warmReplica_cases replicaId warm worker boot mono).elim (.of_refused rfl rfl)
        (.of_edits rfl rfl)
  | reportHealth replicaId ev worker boot mono =>
      exact (ctrl.reportHealth_cases replicaId ev worker boot mono).elim (.of_refused rfl rfl)
        (.of_edits rfl rfl)
  | reportReadiness replicaId rr worker boot =>
      exact (ctrl.reportReadiness_cases replicaId rr worker boot).elim (.of_refused rfl rfl)
        (.of_edits rfl rfl)
  | promoteReplica replicaId target worker boot mono wall =>
      rcases ctrl.promoteReplica_cases fresh replicaId target worker boot mono wall with refused |
        ⟨r, set, granted, record, found, gate, -, accepted, written⟩
      · exact .of_refused rfl rfl refused
      · refine ⟨?_, (congrArg workers written).trans (deriveSetLifecycle_workers ..),
          (congrArg epoch written).trans (deriveSetLifecycle_epoch ..)⟩
        have addressed : Operation.setOf ctrl
            (.promoteReplica replicaId target worker boot mono wall) = some r.setId := by
          simp [Operation.setOf, found]
        rw [Operation.apply, accepted, written]
        exact .of_derived set.id gate.known addressed rfl
  | drainReplica replicaId worker boot mono =>
      rcases ctrl.drainReplica_cases fresh replicaId worker boot mono with refused |
        ⟨r, record, -, -, -, -, -, written⟩
      · exact .of_refused rfl rfl refused
      · exact .of_written written rfl rfl rfl
  | completeDrain replicaId quiesced force mono =>
      rcases ctrl.completeDrain_cases replicaId quiesced force mono with refused |
        ⟨r, settle, -, -, -, -, written⟩
      · exact .of_refused rfl rfl refused
      · exact .of_written written rfl rfl rfl
  | failReplica replicaId worker boot reason mono =>
      rcases ctrl.failReplica_cases replicaId worker boot reason mono with refused |
        ⟨r, -, -, ⟨-, -, written⟩ | ⟨-, -, written⟩⟩
      · exact .of_refused rfl rfl refused
      · exact .of_written written rfl rfl rfl
      · exact .of_written written rfl rfl rfl
  | retireReplica replicaId =>
      exact (ctrl.retireReplica_cases replicaId).elim (.of_refused rfl rfl) (.of_edits rfl rfl)
  | triggerFailover setId failed reason mono wall =>
      rcases ctrl.triggerFailover_cases fresh setId failed reason mono wall with refused |
        ⟨set, fr, found, foundFailed, inSet⟩
      · exact .of_refused rfl rfl refused
      rcases triggerFailover_known fresh reason mono wall found foundFailed inSet with
        ⟨record, ⟨-, -, written⟩ | ⟨chosen, r, pr, -, -, accepted, written⟩⟩
      · exact .of_written written rfl rfl rfl
      · refine ⟨?_, (congrArg workers written).trans (deriveSetLifecycle_workers ..),
          (congrArg epoch written).trans (deriveSetLifecycle_epoch ..)⟩
        rw [Operation.apply, accepted, written]
        exact .of_derived setId found rfl rfl
  | setEpoch epoch => exact .of_written rfl rfl rfl rfl

theorem workers_step (op : Operation) (fresh : FreshIds) :
    (op.apply fresh ctrl).2.workers = op.workersAfter ctrl.workers :=
  (ctrl.tablesStep op fresh).workers

theorem view_kept {α : Type} (view : ReplicaSetController → α)
    (frame : ∀ c replicas workers drains epoch, view { c with
      replicas := replicas
      workers := workers
      drains := drains
      epoch := epoch } = view c)
    {op : Operation} (other : op.writesSets = false) (fresh : FreshIds) :
    view (op.apply fresh ctrl).2 = view ctrl := by
  have refused {outcome : OpResult × ReplicaSetController} (same : Refused outcome ctrl) :
      view outcome.2 = view ctrl := congrArg view same.2
  have edits {outcome : OpResult × ReplicaSetController} {id : ReplicaId}
      {guard : ReplicaState → Prop} {edit : ReplicaState → ReplicaState}
      (edits : Edits outcome ctrl id guard edit) : view outcome.2 = view ctrl := by
    obtain ⟨r, -, -, -, written⟩ := edits
    exact (congrArg view written).trans (frame ctrl _ _ _ _)
  cases op with
  | registerWorker wr => exact frame ..
  | unregisterWorker worker =>
      rcases ctrl.unregisterWorker_cases worker with ⟨-, same⟩ | ⟨reg, -, -, written⟩
      · exact refused same
      · exact (congrArg view written).trans (frame ctrl _ _ _ _)
  | setAllocating id placementId => exact (ctrl.setAllocating_cases id placementId).elim refused edits
  | setStarting id mono wall => exact (ctrl.setStarting_cases id mono wall).elim refused edits
  | warmReplica id warm worker boot mono =>
      exact (ctrl.warmReplica_cases id warm worker boot mono).elim refused edits
  | reportHealth id ev worker boot mono =>
      exact (ctrl.reportHealth_cases id ev worker boot mono).elim refused edits
  | reportReadiness id rr worker boot =>
      exact (ctrl.reportReadiness_cases id rr worker boot).elim refused edits
  | drainReplica id worker boot mono =>
      rcases ctrl.drainReplica_cases fresh id worker boot mono with same |
        ⟨r, record, -, -, -, -, -, written⟩
      · exact refused same
      · exact (congrArg view written).trans (frame ctrl _ _ _ _)
  | completeDrain id quiesced force mono =>
      rcases ctrl.completeDrain_cases id quiesced force mono with same |
        ⟨r, settle, -, -, -, -, written⟩
      · exact refused same
      · exact (congrArg view written).trans (frame ctrl _ _ _ _)
  | failReplica id worker boot reason mono =>
      rcases ctrl.failReplica_cases id worker boot reason mono with same |
        ⟨r, -, -, ⟨-, -, written⟩ | ⟨-, -, written⟩⟩
      · exact refused same
      · exact (congrArg view written).trans (frame ctrl _ _ _ _)
      · exact (congrArg view written).trans (frame ctrl _ _ _ _)
  | retireReplica id => exact (ctrl.retireReplica_cases id).elim refused edits
  | setEpoch epoch => exact frame ..
  | _ => cases other

theorem sets_kept {op : Operation} (other : op.writesSets = false) (fresh : FreshIds) :
    (op.apply fresh ctrl).2.sets = ctrl.sets :=
  view_kept sets (fun _ _ _ _ _ => rfl) other fresh

inductive SetStep (id : ReplicaSetId) :
    Operation → Bool → Option ReplicaSetState → Option ReplicaSetState → Prop
  | kept {op accepted entry} : SetStep id op accepted entry entry
  | created {set epoch} (named : set.id = id) (counts : countsInvalid set = false) :
      SetStep id (.createReplicaSet set epoch) true none (some set)
  | moved {op accepted s} (lifecycle : ReplicaSetLifecycle) :
      SetStep id op accepted (some s) (some { s with lifecycle := lifecycle })

theorem setStep (op : Operation) (fresh : FreshIds) (id : ReplicaSetId) :
    SetStep id op (op.apply fresh ctrl).1.isOk ctrl.sets[id]?
      (op.apply fresh ctrl).2.sets[id]? := by
  have change := (ctrl.tablesStep op fresh).sets
  generalize (op.apply fresh ctrl).1.isOk = accepted,
    (op.apply fresh ctrl).2.sets = after at change ⊢
  cases change with
  | kept => exact .kept
  | created isNew counts =>
      rw [Table.get_insert]
      split_ifs with same
      · rw [← same, isNew]
        exact .created rfl counts
      · exact .kept
  | moved found addressed edge =>
      rw [Table.get_insert]
      split_ifs with same
      · rw [← same, found]
        exact .moved _
      · exact .kept

theorem sets_persist (op : Operation) (fresh : FreshIds) {id : ReplicaSetId} {s : ReplicaSetState}
    (found : ctrl.sets[id]? = some s) :
    ∃ lifecycle, (op.apply fresh ctrl).2.sets[id]? = some { s with lifecycle := lifecycle } := by
  have now := ctrl.setStep op fresh id
  rw [found] at now
  generalize (op.apply fresh ctrl).2.sets[id]? = entry,
    (op.apply fresh ctrl).1.isOk = accepted at now ⊢
  cases now with
  | kept => exact ⟨s.lifecycle, rfl⟩
  | moved lifecycle => exact ⟨lifecycle, rfl⟩

theorem worker_origin {op : Operation} {fresh : FreshIds} {worker : WorkerId}
    {reg : WorkerRegistration} (found : (op.apply fresh ctrl).2.workers[worker]? = some reg) :
    ctrl.workers[worker]? = some reg ∨ (reg.workerId = worker ∧ op = .registerWorker reg) := by
  rw [workers_step] at found
  cases op with
  | registerWorker wr =>
      rw [Operation.workersAfter, Table.get_insert] at found
      split_ifs at found with here
      · cases found
        exact Or.inr ⟨here, rfl⟩
      · exact Or.inl found
  | unregisterWorker other =>
      rw [Operation.workersAfter, Table.get_erase] at found
      split_ifs at found
      exact Or.inl found
  | _ => exact Or.inl found

theorem unregisterWorker_workers (worker : WorkerId) :
    (ctrl.unregisterWorker worker).2.workers = ctrl.workers.erase worker :=
  workers_step (.unregisterWorker worker) (Sample.freshAt 0)

theorem workerBoot_step (op : Operation) (fresh : FreshIds) (worker : WorkerId) :
    (op.apply fresh ctrl).2.workerBoot worker =
      match op with
      | .registerWorker wr =>
          if wr.workerId = worker then wr.bootId else ctrl.workerBoot worker
      | .unregisterWorker w => if w = worker then .null else ctrl.workerBoot worker
      | _ => ctrl.workerBoot worker := by
  unfold workerBoot
  rw [workers_step]
  cases op with
  | registerWorker wr =>
      simp only [Operation.workersAfter, Table.get_insert]
      by_cases same : wr.workerId = worker <;> simp [same]
  | unregisterWorker w =>
      simp only [Operation.workersAfter, Table.get_erase]
      by_cases same : w = worker <;> simp [same]
  | _ => rfl

end ReplicaSetController

end ReplicaFabric
