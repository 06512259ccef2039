import ReplicaFabric.Controller.ReplicaStep
import ReplicaFabric.Controller.SetStep

/-!
# What provisioning fixes

A replica takes its terms over from its set when it is provisioned, and no other operation writes
them. The sets change in nothing but their lifecycle.
-/

namespace ReplicaFabric

structure Contract where
  setId : ReplicaSetId
  setGeneration : ReplicaSetGeneration
  policyGeneration : PolicyGeneration
  artifactId : ArtifactId
  artifactGeneration : ArtifactGeneration
  policyFingerprint : Str
  compatibility : ReplicaCompatibility

def ReplicaState.contract (r : ReplicaState) : Contract :=
  ⟨r.setId, r.setGeneration, r.policyGeneration, r.artifactId, r.artifactGeneration,
    r.policyFingerprint, r.compatibility⟩

structure AgreesWith (r : ReplicaState) (s : ReplicaSetState) : Prop where
  setGeneration : r.setGeneration = s.generation
  policyGeneration : r.policyGeneration = s.policyGeneration
  artifactId : r.artifactId = s.artifactId
  artifactGeneration : r.artifactGeneration = s.artifactGeneration
  policyFingerprint : r.policyFingerprint = s.compatibility.policyFingerprint

theorem AgreesWith.of_contract {r r' : ReplicaState} {s : ReplicaSetState}
    (agrees : AgreesWith r s) (same : r'.contract = r.contract)
    (lifecycle : ReplicaSetLifecycle) : AgreesWith r' { s with lifecycle := lifecycle } where
  setGeneration := (congrArg Contract.setGeneration same).trans agrees.setGeneration
  policyGeneration := (congrArg Contract.policyGeneration same).trans agrees.policyGeneration
  artifactId := (congrArg Contract.artifactId same).trans agrees.artifactId
  artifactGeneration := (congrArg Contract.artifactGeneration same).trans agrees.artifactGeneration
  policyFingerprint := (congrArg Contract.policyFingerprint same).trans agrees.policyFingerprint

namespace ReplicaSetController

variable {ctrl : ReplicaSetController}

theorem ReplicaStep.contract {next : ReplicaSetController} {fresh : FreshIds} {id : ReplicaId}
    {op : Operation} {accepted : Bool} {r r' : ReplicaState}
    (change : ReplicaStep ctrl fresh next id op accepted (some r) (some r'))
    (carried : accepted = true → op.provisions id = false) : r'.contract = r.contract := by
  cases change with
  | provisioned gate => simp [Operation.provisions] at carried
  | registered =>
      unfold ReplicaState.afterRestart
      split_ifs <;> rfl
  | unregistered =>
      unfold ReplicaState.afterDisconnect
      split_ifs <;> rfl
  | healthReported host alive =>
      unfold ReplicaState.healthReported
      dsimp only
      split_ifs <;> rfl
  | promoted gate grant =>
      rcases promoted_ok.mp grant with ⟨-, -, rfl⟩ | ⟨-, rfl⟩
      · unfold grantedPrimary
        split_ifs <;> rfl
      · rfl
  | _ => rfl

theorem contract_origin {op : Operation} {fresh : FreshIds} {id : ReplicaId} {r' : ReplicaState}
    (found : (op.apply fresh ctrl).2.replicas[id]? = some r') :
    (∃ r, ctrl.replicas[id]? = some r ∧ r'.contract = r.contract) ∨
      ∃ s, ctrl.sets[r'.setId]? = some s ∧ AgreesWith r' s ∧ r'.servingEligible = false := by
  rcases entry_cases found with ⟨r, before, carried, change⟩ |
    ⟨-, -, setId, worker, compat, device, capacity, mono, wall, set, reg, gate, rfl⟩
  · exact Or.inl ⟨r, before, change.contract carried⟩
  · exact Or.inr ⟨set, (provisionGate_ok.mp gate).1, ⟨rfl, rfl, rfl, rfl, rfl⟩, rfl⟩

def members (ctrl : ReplicaSetController) (setId : ReplicaSetId) : Nat :=
  ctrl.replicas.toList.countP fun e => e.2.setId = setId

theorem countReplicas_all (setId : ReplicaSetId) :
    ctrl.countReplicas setId (fun _ => true) = UInt32.ofNat (ctrl.members setId) := by
  simp [countReplicas, members]

theorem members_step (op : Operation) (fresh : FreshIds) (setId : ReplicaSetId) :
    (op.apply fresh ctrl).2.members setId ≤ ctrl.members setId ∨
      (op.apply fresh ctrl).2.members setId ≤ ctrl.members setId + 1 ∧
        ∃ worker set reg, ctrl.provisionGate setId worker = .ok (set, reg) := by
  by_cases carried : ∀ id, (op.apply fresh ctrl).1.isOk = true → op.provisions id = false
  · refine Or.inl (le_of_eq ?_)
    exact Table.countP_congr (fun life : Incarnation => life.setId = setId)
      fun id => incarnations_step (carried id)
  simp only [not_forall, Bool.not_eq_false] at carried
  obtain ⟨id, accepted, provisions⟩ := carried
  cases op with
  | provisionReplica x target worker compat device capacity mono wall =>
      rcases ctrl.provisionReplica_cases fresh x target worker compat device capacity mono wall with
        ⟨-, refused⟩ | ⟨set, reg, lifecycle, gate, -, -, written⟩
      · cases refused.1.symm.trans accepted
      let r := ReplicaState.provisioned x target set reg worker compat device capacity ctrl.epoch
        fresh mono wall
      have bound := Table.countP_insert_le ctrl.replicas x r fun e => e.2.setId = setId
      have after : ((Operation.provisionReplica x target worker compat device capacity mono
          wall).apply fresh ctrl).2.replicas = ctrl.replicas.insert x r := by
        rw [Operation.apply, written]
        rfl
      simp only [members, after]
      by_cases here : target = setId
      · subst here
        exact Or.inr ⟨bound.trans (by simp [r, ReplicaState.provisioned]), worker, set, reg, gate⟩
      · exact Or.inl (bound.trans (by simp [r, ReplicaState.provisioned, here]))
  | _ => cases provisions

end ReplicaSetController

end ReplicaFabric
