import ReplicaFabric.Persistence.Command

/-!
# The authority fields agree

The serving flag, the promotion, the role and the lifecycle of a replica are written separately
by the operations and by recovery, and agree in every state.
-/

namespace ReplicaFabric.ReplicaSetController

variable {ctrl : ReplicaSetController}

def Consistent (ctrl : ReplicaSetController) : Prop :=
  ∀ (id : ReplicaId) (r : ReplicaState), ctrl.replicas[id]? = some r → AuthorityConsistent r

theorem Consistent.step (consistent : ctrl.Consistent) (call : Call) :
    (ctrl.step call).2.Consistent := by
  intro id r found
  have change := ctrl.replicaStep call.op call.fresh id
  rw [show (call.op.apply call.fresh ctrl).2.replicas[id]? = some r from found] at change
  exact change.consistent fun r before => consistent id r before

theorem Consistent.recoverInto (consistent : ctrl.Consistent) (bytes : Str) :
    (ReplicaFabric.recoverInto bytes ctrl).2.Consistent := by
  rcases ctrl.recoverInto_cases bytes with ⟨-, unchanged⟩ | ⟨state, -, -, installed⟩
  · rw [unchanged]
    exact consistent
  · intro id r found
    rw [installed] at found
    obtain ⟨stored, -, rfl⟩ := install_get found
    exact .of_none rfl nofun nofun

theorem Consistent.command (consistent : ctrl.Consistent) (cmd : Command) :
    (ctrl.command cmd).2.Consistent := by
  cases cmd with
  | call call => exact consistent.step call
  | recoverInto bytes => exact consistent.recoverInto bytes

theorem consistent_empty : empty.Consistent := by
  intro id r found
  simp [empty] at found

theorem authority_fields_agree (cmds : List Command) :
    Machine.Throughout command (fun ctrl => ∀ (id : ReplicaId) (r : ReplicaState),
      ctrl.replicas[id]? = some r →
        (r.servingEligible = true ↔ r.promotion = .primary) ∧
        (r.promotion = .primary ↔ r.role = .primary) ∧
        (r.servingEligible = true → r.lifecycle = .serving)) empty cmds := by
  have always : Machine.Throughout command Consistent empty cmds :=
    Machine.throughout_of_step cmds (fun _ cmd consistent => consistent.command cmd)
      consistent_empty
  refine always.mono fun ctrl consistent id r found => ?_
  exact ⟨(consistent id r found).promotion, (consistent id r found).role,
    (consistent id r found).serving⟩

end ReplicaFabric.ReplicaSetController
