import ReplicaFabric.Persistence.Command
import ReplicaFabric.Persistence.RoundTrip
import ReplicaFabric.Safety.Stale

/-!
# Recovered replicas

Recovery forgets the boot ids of the replicas but keeps the registrations of the workers. While no
worker registers, nothing serves as long as no replica is provisioned on a recovered registration
and no forgotten boot id is taken for that of a worker that is not registered.
-/

namespace ReplicaFabric

def Operation.registers : Operation → Bool
  | registerWorker _ => true
  | _ => false

namespace ReplicaSetController

variable {ctrl : ReplicaSetController}

/-- The replica is stale, or `SERVING` without being warm, which no operation makes it again. -/
def Dormant (ctrl : ReplicaSetController) (id : ReplicaId) : Prop :=
  ctrl.Stale id ∨
    ∃ r, ctrl.replicas[id]? = some r ∧ r.lifecycle = .serving ∧ r.warmth ≠ .warm

theorem Dormant.not_servable {id : ReplicaId} (dormant : ctrl.Dormant id) :
    ¬ctrl.Servable id := by
  rcases dormant with stale | ⟨r, found, -, cold⟩
  · exact stale.not_servable
  · intro servable
    obtain ⟨r', set, found', -, authority⟩ := servable_iff.mp servable
    obtain rfl : r = r' := Option.some.inj (found.symm.trans found')
    exact cold authority.warmth

def AllDormant (ctrl : ReplicaSetController) : Prop :=
  ∀ (id : ReplicaId) (r : ReplicaState), ctrl.replicas[id]? = some r → ctrl.Dormant id

theorem AllDormant.not_servable (dormant : ctrl.AllDormant) (id : ReplicaId) :
    ¬ctrl.Servable id := by
  intro servable
  obtain ⟨r, set, found, -, -⟩ := servable_iff.mp servable
  exact (dormant id r found).not_servable servable

/-- No replica is provisioned, and no worker is forgotten that hosts a replica whose boot id is
forgotten too, unless that fails the replica. -/
def leavesDormant (ctrl : ReplicaSetController) : Operation → Bool
  | .provisionReplica _ setId worker .. => !(ctrl.provisionGate setId worker).isOk
  | .unregisterWorker worker => ctrl.replicas.toList.all fun e =>
      e.2.workerId ≠ worker || !e.2.bootId.isNull || e.2.lifecycle.Terminal || e.2.hadAuthority
  | _ => true

theorem leavesStale_of_leavesDormant {op : Operation} (leaves : ctrl.leavesDormant op = true)
    (noRegister : op.registers = false) (id : ReplicaId) :
    ctrl.leavesStale id op = true := by
  unfold leavesStale
  cases found : ctrl.replicas[id]? with
  | none => rfl
  | some r =>
      cases op with
      | registerWorker wr => cases noRegister
      | unregisterWorker worker =>
          have here := List.all_eq_true.mp leaves (id, r) ((Table.mem_entries _).mpr found)
          simp only [Bool.or_eq_true, decide_eq_true_eq] at here ⊢
          tauto
      | provisionReplica x setId worker compat device capacity mono wall =>
          exact Bool.or_eq_true_iff.mpr (Or.inr leaves)
      | _ => rfl

theorem ReplicaStep.serving_cold {next : ReplicaSetController} {fresh : FreshIds} {id : ReplicaId}
    {op : Operation} {accepted : Bool} {r r' : ReplicaState}
    (change : ReplicaStep ctrl fresh next id op accepted (some r) (some r'))
    (carried : accepted = true → op.provisions id = false) (serving : r.lifecycle = .serving)
    (cold : r.warmth ≠ .warm) :
    r'.lifecycle.Terminal ∨ (r'.lifecycle = .serving ∧ r'.warmth ≠ .warm) := by
  cases change with
  | provisioned gate => simp [Operation.provisions] at carried
  | registered =>
      unfold ReplicaState.afterRestart
      split_ifs
      · exact Or.inl trivial
      · exact Or.inr ⟨serving, cold⟩
      · exact Or.inr ⟨serving, cold⟩
  | unregistered =>
      unfold ReplicaState.afterDisconnect
      split_ifs
      · exact Or.inl trivial
      · exact Or.inr ⟨serving, cold⟩
  | allocated edge =>
      exact absurd serving (ReplicaLifecycle.not_serving_of_edge edge (by simp))
  | started edge => exact absurd serving (ReplicaLifecycle.not_serving_of_edge edge (by simp))
  | warmed host accepts =>
      rcases accepts with edge | warming
      · exact absurd serving (ReplicaLifecycle.not_serving_of_edge edge (by simp))
      · cases serving.symm.trans warming
  | @healthReported ev worker boot mono r host alive =>
      refine Or.inr ⟨ReplicaState.healthReported_lifecycle.trans serving, ?_⟩
      unfold ReplicaState.healthReported
      dsimp only
      split_ifs <;> exact cold
  | readinessReported host alive =>
      exact Or.inr ⟨by simp [ReplicaState.readinessReported, serving], cold⟩
  | promoted gate grant =>
      right
      rcases promoted_ok.mp grant with ⟨-, -, rfl⟩ | ⟨-, rfl⟩
      · unfold grantedPrimary
        split_ifs <;> exact ⟨rfl, cold⟩
      · exact ⟨serving, cold⟩
  | failRefused host edge => rw [serving] at edge; cases edge
  | failedOver inSet =>
      exact Or.inl (by simp [ReplicaState.failedOver, serving, ReplicaLifecycle.canTransition,
        ReplicaLifecycle.Terminal])
  | chosen selected recorded => exact Or.inr ⟨rfl, cold⟩
  | kept untouched => exact Or.inr ⟨serving, cold⟩
  | _ => exact Or.inl trivial

theorem Dormant.step {op : Operation} {fresh : FreshIds} {id : ReplicaId}
    (dormant : ctrl.Dormant id) (leaves : ctrl.leavesStale id op = true)
    (carried : (op.apply fresh ctrl).1.isOk = true → op.provisions id = false) :
    (op.apply fresh ctrl).2.Dormant id := by
  rcases dormant with stale | ⟨r, found, serving, cold⟩
  · exact Or.inl ((stale_step stale ⟨op, fresh⟩).mpr leaves)
  · have change := ctrl.replicaStep op fresh id
    rw [found] at change
    obtain ⟨r', post⟩ := change.exists_some
    rw [post] at change
    rcases change.serving_cold carried serving cold with ended | still
    · exact Or.inl ⟨r', post, Or.inl ended⟩
    · exact Or.inr ⟨r', post, still⟩

theorem AllDormant.step (dormant : ctrl.AllDormant) (call : Call)
    (noRegister : call.op.registers = false) (leaves : ctrl.leavesDormant call.op = true) :
    (ctrl.step call).2.AllDormant := by
  intro id r' found
  have carried : (ctrl.step call).1.isOk = true → call.op.provisions id = false := by
    intro accepted
    obtain ⟨op, fresh⟩ := call
    cases op with
    | provisionReplica =>
        have gate := (provisionReplica_isOk ..).symm.trans accepted
        simp [leavesDormant, gate] at leaves
    | _ => rfl
  have change := ctrl.replicaStep call.op call.fresh id
  rw [show (call.op.apply call.fresh ctrl).2.replicas[id]? = some r' from found] at change
  obtain ⟨r, before⟩ := change.exists_prior carried
  exact (dormant id r before).step (leavesStale_of_leavesDormant leaves noRegister id) carried

def boundInCheckpoint (state : RecoveredState) (r : ReplicaState) : Bool :=
  r.lifecycle.Terminal || r.lifecycle = .serving ||
    match state.workers.find? fun reg => reg.workerId = r.workerId with
    | none => false
    | some reg => !reg.bootId.isNull

theorem install_workerBoot (state : RecoveredState) (worker : WorkerId) :
    (installRecoveredState state ctrl).workerBoot worker =
      match state.workers.find? fun reg => reg.workerId = worker with
      | none => .null
      | some reg => reg.bootId := by
  have found : (installRecoveredState state ctrl).workers[worker]? =
      state.workers.find? fun reg => reg.workerId = worker := by
    simp [installRecoveredState, Table.get_foldl_insertIfNew]
  cases stored : state.workers.find? fun reg => reg.workerId = worker with
  | none => simp [workerBoot, found, stored]
  | some reg => simp [workerBoot, found, stored]

theorem allDormant_install {state : RecoveredState}
    (bound : ∀ (id : ReplicaId) (r : ReplicaState), state.replicas[id]? = some r →
      boundInCheckpoint state r = true) : (installRecoveredState state ctrl).AllDormant := by
  intro id r found
  obtain ⟨stored, before, rfl⟩ := install_get found
  have here := bound id stored before
  simp only [boundInCheckpoint, Bool.or_eq_true, decide_eq_true_eq] at here
  rcases here with (ended | serving) | attributed
  · exact Or.inl ⟨_, found, Or.inl ended⟩
  · exact Or.inr ⟨_, found, serving, nofun⟩
  · refine Or.inl ⟨_, found, Or.inr ?_⟩
    rw [install_workerBoot]
    split at attributed
    · cases attributed
    · next reg listed =>
        rw [show (state.workers.find? fun reg => reg.workerId = stored.recovered.workerId) =
          some reg from listed]
        intro forgotten
        have nullBoot : reg.bootId = .null := forgotten.symm
        rw [nullBoot] at attributed
        cases attributed

theorem recovered_never_serves (bytes : Str) (ctrl : ReplicaSetController)
    (state : RecoveredState) (decoded : decodeSnapshot bytes = .ok state)
    (valid : validateRecoveredState state = none)
    (bound : ∀ (id : ReplicaId) (r : ReplicaState), state.replicas[id]? = some r →
      boundInCheckpoint state r = true)
    (calls : List Call) (noRegister : ∀ call ∈ calls, call.op.registers = false)
    (leaves : Machine.Admissible step (fun ctrl call => ctrl.leavesDormant call.op = true)
      (recoverInto bytes ctrl).2 calls) :
    Machine.Throughout step (fun ctrl => ∀ id, ¬ctrl.Servable id) (recoverInto bytes ctrl).2
      calls := by
  have start : (recoverInto bytes ctrl).2.AllDormant := by
    rw [recoverInto, decoded]
    simp only [valid]
    exact allDormant_install bound
  have allowed := leaves.and (Machine.admissible_of_forall noRegister)
  have always : Machine.Throughout step AllDormant (recoverInto bytes ctrl).2 calls :=
    Machine.throughout_of_admissible
      (fun _ call dormant both => dormant.step call both.2 both.1) start allowed
  exact always.mono fun _ dormant => dormant.not_servable

def callsAfterRecovery : List Call :=
  [ .reportReadiness ⟨0, 1⟩ Sample.allReady ⟨0, 1⟩ ⟨0, 1⟩,
    .reportReadiness ⟨0, 1⟩ Sample.allReady ⟨0, 1⟩ .null,
    .promoteReplica ⟨0, 1⟩ .primary ⟨0, 1⟩ .null 0 0,
    .unregisterWorker ⟨0, 1⟩ ].map fun op => ⟨op, Sample.freshAt 2⟩

theorem recovered_never_serves_ready :
    Machine.Throughout step (fun ctrl => ∀ id, ¬ctrl.Servable id)
      (recoverInto (makeSnapshot (Machine.run step empty
        (Sample.setUp ++ Sample.bringUp ⟨0, 1⟩))) empty).2 callsAfterRecovery := by
  let ready := Machine.run step empty (Sample.setUp ++ Sample.bringUp ⟨0, 1⟩)
  have keyed : ready.Keyed := by decide
  have addressable : ready.Addressable := by decide +kernel
  have finite : ready.FiniteDoubles := by decide
  have valid : validateRecoveredState ready.recordedState = none := by decide
  have recovered := recoverInto_makeSnapshot keyed addressable finite valid empty
  refine recovered_never_serves _ empty ready.recordedState
    (decodeSnapshot_makeSnapshot keyed addressable finite) valid
    (Table.forall_get.mpr (by decide)) callsAfterRecovery (by decide) ?_
  rw [recovered]
  decide

def checkpoint : Str := makeSnapshot (Machine.run step empty Sample.setUp)

theorem recoverInto_checkpoint :
    recoverInto checkpoint empty =
      (.ok (), (Machine.run step empty Sample.setUp).restored empty.epoch) :=
  recoverInto_makeSnapshot (by decide) (by decide +kernel) (by decide) (by decide) empty

def NothingServes : Prop :=
  ∀ (bytes : Str) (ctrl : ReplicaSetController), (recoverInto bytes ctrl).1 = .ok () →
    ∀ calls : List Call, (∀ call ∈ calls, call.op.registers = false) →
      Machine.Throughout step (fun ctrl => ∀ id, ¬ctrl.Servable id) (recoverInto bytes ctrl).2 calls

theorem provisioned_on_recovered_serves : ¬NothingServes := by
  intro nothing
  have idle := (nothing checkpoint empty (by rw [recoverInto_checkpoint])
    (Sample.bringUp ⟨0, 1⟩ ++ [Sample.promote ⟨0, 1⟩]) (by decide)).last
  rw [recoverInto_checkpoint] at idle
  exact idle ⟨0, 1⟩ (by decide)

end ReplicaSetController

end ReplicaFabric
