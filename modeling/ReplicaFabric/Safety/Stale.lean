import ReplicaFabric.Controller.ReplicaStep
import ReplicaFabric.Controller.SetStep

/-!
# Stale replicas

A replica is stale when its lifecycle is over or its boot id is not the one its worker is
registered under. A stale replica cannot serve, and it stays stale until a registration brings
its boot id back.
-/

namespace ReplicaFabric

namespace ReplicaSetController

variable {ctrl : ReplicaSetController}

def Stale (ctrl : ReplicaSetController) (id : ReplicaId) : Prop :=
  ∃ r, ctrl.replicas[id]? = some r ∧
    (r.lifecycle.Terminal ∨ r.bootId ≠ ctrl.workerBoot r.workerId)

theorem Stale.not_servable {id : ReplicaId} (stale : ctrl.Stale id) : ¬ctrl.Servable id := by
  obtain ⟨r, found, ended⟩ := stale
  intro servable
  obtain ⟨r', set, found', -, authority⟩ := servable_iff.mp servable
  obtain rfl : r = r' := by simpa [found] using found'
  rcases ended with terminal | other
  · rw [authority.lifecycle] at terminal
    exact terminal
  · exact other authority.workerBoot

/-- The call leaves a stale replica stale: no new incarnation takes its place, no registration
brings its boot id back, unless it fails the replica as a restart does, and the worker is not
forgotten while the replica has the null boot id, unless that fails the replica. -/
def leavesStale (ctrl : ReplicaSetController) (id : ReplicaId) (op : Operation) : Bool :=
  match ctrl.replicas[id]? with
  | none => true
  | some r =>
      match op with
      | .provisionReplica x setId worker .. =>
          x ≠ id || !(ctrl.provisionGate setId worker).isOk
      | .registerWorker wr =>
          r.lifecycle.Terminal || wr.workerId ≠ r.workerId || wr.bootId ≠ r.bootId ||
            (r.lifecycle = .serving && ctrl.restarts wr)
      | .unregisterWorker worker =>
          r.lifecycle.Terminal || worker ≠ r.workerId || !r.bootId.isNull || r.hadAuthority
      | _ => true

theorem stale_iff {id : ReplicaId} {r r' : ReplicaState} (found : ctrl.replicas[id]? = some r')
    (same : r'.incarnation = r.incarnation) :
    ctrl.Stale id ↔ r'.lifecycle.Terminal ∨ r.bootId ≠ ctrl.workerBoot r.workerId := by
  have sameBoot : r'.bootId = r.bootId := congrArg Incarnation.bootId same
  have sameWorker : r'.workerId = r.workerId := congrArg Incarnation.workerId same
  simp [Stale, found, sameBoot, sameWorker]

theorem Stale.step {op : Operation} {fresh : FreshIds} {id : ReplicaId} (stale : ctrl.Stale id)
    (carried : (op.apply fresh ctrl).1.isOk = true → op.provisions id = false)
    (boot : ∀ worker, (op.apply fresh ctrl).2.workerBoot worker = ctrl.workerBoot worker) :
    (op.apply fresh ctrl).2.Stale id := by
  obtain ⟨r, found, ended⟩ := stale
  have change := ctrl.replicaStep op fresh id
  rw [found] at change
  obtain ⟨r', post⟩ := change.exists_some
  rw [post] at change
  rw [stale_iff post (change.incarnation carried), boot]
  exact ended.imp_left (change.terminal carried)

theorem stale_register {wr : WorkerRegistration} {fresh : FreshIds} {id : ReplicaId}
    (stale : ctrl.Stale id) :
    ((Operation.registerWorker wr).apply fresh ctrl).2.Stale id ↔
      ctrl.leavesStale id (.registerWorker wr) = true := by
  obtain ⟨r, found, ended⟩ := stale
  have post : ((Operation.registerWorker wr).apply fresh ctrl).2.replicas[id]? =
      some (if ctrl.restarts wr then r.afterRestart wr.workerId else r) := by
    simp only [Operation.apply, registerWorker]
    split_ifs <;> simp [found]
  have same : (if ctrl.restarts wr then r.afterRestart wr.workerId else r).incarnation =
      r.incarnation := by
    split_ifs <;> simp
  have life : (if ctrl.restarts wr then r.afterRestart wr.workerId else r).lifecycle.Terminal ↔
      r.lifecycle.Terminal ∨
        (ctrl.restarts wr = true ∧ r.workerId = wr.workerId ∧ r.lifecycle = .serving) := by
    by_cases restart : ctrl.restarts wr = true <;>
      simp [restart, ReplicaState.afterRestart_terminal]
  rw [stale_iff post same, life, workerBoot_step]
  simp only [leavesStale, found, Bool.or_eq_true, decide_eq_true_eq, ne_eq, Bool.and_eq_true]
  by_cases here : wr.workerId = r.workerId
  · by_cases sameBoot : wr.bootId = r.bootId
    · simp [here, sameBoot, and_comm]
    · simp [here, sameBoot, Ne.symm sameBoot]
  · simp only [here, not_false_eq_true, or_true, true_or, iff_true]
    exact ended.imp_left Or.inl

theorem stale_unregister {worker : WorkerId} {fresh : FreshIds} {id : ReplicaId}
    (stale : ctrl.Stale id) :
    ((Operation.unregisterWorker worker).apply fresh ctrl).2.Stale id ↔
      ctrl.leavesStale id (.unregisterWorker worker) = true := by
  obtain ⟨r, found, ended⟩ := stale
  simp only [leavesStale, found, Bool.or_eq_true, decide_eq_true_eq, ne_eq, Bool.not_eq_true',
    ← Bool.not_eq_true, Id.isNull_iff]
  rcases ctrl.unregisterWorker_cases worker with ⟨unknown, -, unchanged⟩ | ⟨reg, -, -, written⟩
  · rw [Operation.apply, unchanged]
    refine iff_of_true ⟨r, found, ended⟩ ?_
    by_cases here : worker = r.workerId
    · have nullBoot : ctrl.workerBoot r.workerId = .null := by
        rw [← here, workerBoot, unknown]
      rw [nullBoot] at ended
      exact ended.elim (fun life => Or.inl (Or.inl (Or.inl life))) fun boot => Or.inl (Or.inr boot)
    · exact Or.inl (Or.inl (Or.inr here))
  · have post : ((Operation.unregisterWorker worker).apply fresh ctrl).2.replicas[id]? =
        some (r.afterDisconnect worker) := by
      simp [Operation.apply, written, found]
    rw [stale_iff post (ReplicaState.afterDisconnect_incarnation worker),
      ReplicaState.afterDisconnect_terminal, workerBoot_step]
    by_cases here : worker = r.workerId
    · simp [here, or_assoc, or_comm]
    · simp only [here, Ne.symm here, not_false_eq_true, or_true, true_or, iff_true, false_and,
        or_false]
      exact ended

theorem stale_provision {x : ReplicaId} {setId : ReplicaSetId} {worker : WorkerId}
    {compat : ReplicaCompatibility} {device : DeviceCapability} {capacity : UInt64}
    {mono : MonotonicNs} {wall : WallNs} {fresh : FreshIds} {id : ReplicaId}
    (stale : ctrl.Stale id) :
    ((Operation.provisionReplica x setId worker compat device capacity mono wall).apply fresh
        ctrl).2.Stale id ↔
      ctrl.leavesStale id
        (.provisionReplica x setId worker compat device capacity mono wall) = true := by
  obtain ⟨r, found, ended⟩ := stale
  simp only [leavesStale, found, Bool.or_eq_true, decide_eq_true_eq, ne_eq, Bool.not_eq_true',
    ← Bool.not_eq_true]
  rcases ctrl.provisionReplica_cases fresh x setId worker compat device capacity mono wall with
    ⟨⟨refusal, gate⟩, refused⟩ | ⟨set, reg, lifecycle, gate, -, -, written⟩
  · rw [Operation.apply, refused.2, gate]
    exact iff_of_true ⟨r, found, ended⟩ (Or.inr (by simp))
  · by_cases here : x = id
    · -- The new incarnation has the boot id under which its worker is registered.
      have post : ((Operation.provisionReplica x setId worker compat device capacity mono
          wall).apply fresh ctrl).2.replicas[id]? = some (.provisioned x setId set reg worker compat
            device capacity ctrl.epoch fresh mono wall) := by
        rw [Operation.apply, written, putReplica_get, if_pos here]
      have current : ctrl.workerBoot worker = reg.bootId := by
        rw [workerBoot, (provisionGate_ok.mp gate).2.2.1]
      rw [stale_iff post rfl, workerBoot_step]
      refine iff_of_false ?_ (by simp [here, gate])
      rintro (ended | other)
      · exact ended
      · exact other current.symm
    · refine iff_of_true (Stale.step ⟨r, found, ended⟩ (fun _ => ?_) fun w => ?_) (Or.inl here)
      · simp [Operation.provisions, here]
      · rw [workerBoot_step]

theorem stale_step {id : ReplicaId} (stale : ctrl.Stale id) (call : Call) :
    (ctrl.step call).2.Stale id ↔ ctrl.leavesStale id call.op = true := by
  obtain ⟨op, fresh⟩ := call
  cases op with
  | registerWorker wr => exact stale_register stale
  | unregisterWorker worker => exact stale_unregister stale
  | provisionReplica x setId worker compat device capacity mono wall => exact stale_provision stale
  | _ =>
      refine iff_of_true (stale.step (fun _ => rfl) fun worker => ?_) ?_
      · rw [workerBoot_step]
      · obtain ⟨r, found, -⟩ := stale
        simp only [leavesStale, found]

end ReplicaSetController

end ReplicaFabric
