import ReplicaFabric.Safety.BootFencing

/-!
# Hosts of serving replicas

The serving gate takes the null boot id for that of a worker that is not registered. A replica
that records the null boot id can lose its worker and serve all the same, when the disconnect finds
it before it is ready.
-/

namespace ReplicaFabric.ReplicaSetController

variable {ctrl : ReplicaSetController}

def LiveHosts (ctrl : ReplicaSetController) : Prop :=
  ∀ id, ctrl.Servable id → ∃ r, ctrl.replicas[id]? = some r ∧
    ctrl.Registered r.workerId r.bootId

/-- No live replica with the null boot id has lost its worker. -/
def NoOrphan (ctrl : ReplicaSetController) : Prop :=
  ∀ (id : ReplicaId) (r : ReplicaState), ctrl.replicas[id]? = some r →
    ¬r.lifecycle.Terminal → r.bootId = .null → ∃ reg, ctrl.workers[r.workerId]? = some reg

theorem noOrphan_empty : empty.NoOrphan := by
  intro id r found
  simp [empty] at found

theorem NoOrphan.liveHosts (noOrphan : ctrl.NoOrphan) : ctrl.LiveHosts := by
  intro id servable
  obtain ⟨r, set, found, -, authority⟩ := servable_iff.mp servable
  have current : r.bootId = ctrl.workerBoot r.workerId := authority.workerBoot
  refine ⟨r, found, ?_⟩
  cases known : ctrl.workers[r.workerId]? with
  | some reg =>
      rw [workerBoot, known] at current
      exact ⟨reg, known, current.symm⟩
  | none =>
      rw [workerBoot, known] at current
      have alive : ¬r.lifecycle.Terminal := by
        rw [authority.lifecycle]
        exact not_false
      obtain ⟨reg, registered⟩ := noOrphan id r found alive current
      cases known.symm.trans registered

def leavesNoOrphan (ctrl : ReplicaSetController) : Operation → Bool
  | .unregisterWorker worker => ctrl.replicas.toList.all fun e =>
      e.2.workerId ≠ worker || !e.2.bootId.isNull || e.2.lifecycle.Terminal || e.2.hadAuthority
  | _ => true

theorem leavesNoOrphan_unregister {worker : WorkerId} :
    ctrl.leavesNoOrphan (.unregisterWorker worker) = true ↔
      ∀ (id : ReplicaId) (r : ReplicaState), ctrl.replicas[id]? = some r →
        r.workerId = worker → r.bootId = .null → ¬r.lifecycle.Terminal → r.hadAuthority = true := by
  rw [leavesNoOrphan, List.all_eq_true]
  refine (forall₂_congr fun e _ => ?_).trans (Table.forall_get (t := ctrl.replicas)
    (p := fun _ (r : ReplicaState) => r.workerId = worker → r.bootId = .null →
      ¬r.lifecycle.Terminal → r.hadAuthority = true)).symm
  simp only [Bool.or_eq_true, decide_eq_true_eq, Bool.not_eq_true', ← Bool.not_eq_true,
    Id.isNull_iff]
  tauto

theorem NoOrphan.host_known (noOrphan : ctrl.NoOrphan) {op : Operation} {fresh : FreshIds}
    {id : ReplicaId} {r' : ReplicaState}
    (found : (op.apply fresh ctrl).2.replicas[id]? = some r') (alive : ¬r'.lifecycle.Terminal)
    (null : r'.bootId = .null) : ∃ reg, ctrl.workers[r'.workerId]? = some reg := by
  rcases entry_cases found with ⟨r, before, carried, change⟩ |
    ⟨-, -, setId, worker, compat, device, capacity, mono, wall, set, reg, gate, rfl⟩
  · have same := change.incarnation carried
    rw [show r'.workerId = r.workerId from congrArg Incarnation.workerId same]
    refine noOrphan id r before (fun ended => alive (change.terminal carried ended)) ?_
    exact (congrArg Incarnation.bootId same).symm.trans null
  · exact ⟨reg, (provisionGate_ok.mp gate).2.2.1⟩

theorem noOrphan_unregister (noOrphan : ctrl.NoOrphan) (worker : WorkerId) :
    (ctrl.unregisterWorker worker).2.NoOrphan ↔
      ctrl.leavesNoOrphan (.unregisterWorker worker) = true := by
  rw [leavesNoOrphan_unregister]
  rcases ctrl.unregisterWorker_cases worker with ⟨unknown, -, unchanged⟩ | ⟨reg, -, -, written⟩
  · rw [unchanged]
    refine iff_of_true noOrphan fun id r found hosted null alive => ?_
    obtain ⟨reg, registered⟩ := noOrphan id r found alive null
    rw [hosted, unknown] at registered
    cases registered
  rw [written]
  constructor
  · intro after id r found hosted null alive
    by_contra idle
    have untouched : r.afterDisconnect worker = r := if_neg fun both => idle both.2
    have entry : (ctrl.replicas.map fun _ r => r.afterDisconnect worker)[id]? = some r := by
      rw [Table.get_map, found, Option.map_some, untouched]
    obtain ⟨reg', registered⟩ := after id r entry alive null
    rw [hosted, Table.get_erase, if_pos rfl] at registered
    cases registered
  · intro fails id r' found alive null
    obtain ⟨r, before, rfl⟩ := Option.map_eq_some_iff.mp ((Table.get_map ..).symm.trans found)
    have same : (r.afterDisconnect worker).incarnation = r.incarnation :=
      ReplicaState.afterDisconnect_incarnation worker
    have sameWorker : (r.afterDisconnect worker).workerId = r.workerId :=
      congrArg Incarnation.workerId same
    have sameBoot : (r.afterDisconnect worker).bootId = r.bootId :=
      congrArg Incarnation.bootId same
    rw [ReplicaState.afterDisconnect_terminal] at alive
    rw [sameWorker, Table.get_erase]
    split_ifs with here
    · have nullBoot := sameBoot.symm.trans null
      exact absurd (Or.inr ⟨here.symm, fails id r before here.symm nullBoot (mt Or.inl alive)⟩) alive
    · exact noOrphan id r before (mt Or.inl alive) (sameBoot.symm.trans null)

theorem noOrphan_step (noOrphan : ctrl.NoOrphan) (call : Call) :
    (ctrl.step call).2.NoOrphan ↔ ctrl.leavesNoOrphan call.op = true := by
  obtain ⟨op, fresh⟩ := call
  have known (id : ReplicaId) (r' : ReplicaState)
      (found : (op.apply fresh ctrl).2.replicas[id]? = some r') (alive : ¬r'.lifecycle.Terminal)
      (null : r'.bootId = .null) : ∃ reg, ctrl.workers[r'.workerId]? = some reg :=
    noOrphan.host_known found alive null
  cases op with
  | unregisterWorker worker => exact noOrphan_unregister noOrphan worker
  | registerWorker wr =>
      refine iff_of_true (fun id r' found alive null => ?_) rfl
      obtain ⟨reg, registered⟩ := known id r' found alive null
      change ∃ reg, (ctrl.workers.insert wr.workerId wr)[r'.workerId]? = some reg
      rw [Table.get_insert]
      split_ifs
      · exact ⟨wr, rfl⟩
      · exact ⟨reg, registered⟩
  | _ =>
      refine iff_of_true (fun id r' found alive null => ?_) rfl
      rw [ReplicaSetController.step, workers_step]
      exact known id r' found alive null

theorem noOrphan_iff (calls : List Call) :
    Machine.Throughout step NoOrphan empty calls ↔
      Machine.Admissible step (fun ctrl call => ctrl.leavesNoOrphan call.op = true) empty calls :=
  Machine.throughout_iff_of_step calls (fun _ call noOrphan => noOrphan_step noOrphan call)
    noOrphan_empty

theorem liveHosts_throughout (calls : List Call)
    (fails : Machine.Admissible step (fun ctrl call => ctrl.leavesNoOrphan call.op = true) empty
      calls) :
    Machine.Throughout step LiveHosts empty calls :=
  ((noOrphan_iff calls).mpr fails).mono fun _ noOrphan => noOrphan.liveHosts

theorem liveHosts_throughout_serving : Machine.Throughout step LiveHosts empty Sample.serving :=
  liveHosts_throughout Sample.serving (by decide)

/-- A worker registers under the null boot id and leaves while its replica is warming. -/
def orphanRun : List Call :=
  let fresh := Sample.freshAt 1
  [Sample.register 1 0, ⟨.createReplicaSet Sample.set ⟨0, 1⟩, fresh⟩] ++
    [ .provisionReplica ⟨0, 1⟩ Sample.setId ⟨0, 1⟩ {} {} 1 0 0,
      .setAllocating ⟨0, 1⟩ ⟨0, 1⟩,
      .setStarting ⟨0, 1⟩ 0 0,
      .warmReplica ⟨0, 1⟩ {} ⟨0, 1⟩ .null 0,
      .unregisterWorker ⟨0, 1⟩,
      .reportReadiness ⟨0, 1⟩ Sample.allReady ⟨0, 1⟩ .null,
      .reportHealth ⟨0, 1⟩ { state := .healthy, generation := fresh.healthGeneration } ⟨0, 1⟩
        .null 0,
      .promoteReplica ⟨0, 1⟩ .primary ⟨0, 1⟩ .null 0 0 ].map fun op => ⟨op, fresh⟩

theorem orphan_serves : ¬∀ calls, Machine.Throughout step LiveHosts empty calls := by
  intro always
  have servable : (Machine.run step empty orphanRun).Servable ⟨0, 1⟩ := by decide +kernel
  obtain ⟨r, -, reg, registered, -⟩ := (always orphanRun).last _ servable
  have gone : (Machine.run step empty orphanRun).workers = ∅ := by decide +kernel
  rw [gone] at registered
  simp at registered

end ReplicaFabric.ReplicaSetController
