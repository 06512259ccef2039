import ReplicaFabric.Controller.Authority
import ReplicaFabric.Controller.Contract
import ReplicaFabric.Persistence.Command

/-!
# Serving replicas are compatible

The serving gate does not look at compatibility. The two grants of authority do, and neither what
the set asks for nor what the replica offers changes while the replica has it.
-/

namespace ReplicaFabric.ReplicaSetController

variable {ctrl : ReplicaSetController}

def ServesCompatibly (ctrl : ReplicaSetController) : Prop :=
  ∀ (id : ReplicaId) (r : ReplicaState), ctrl.replicas[id]? = some r →
    r.servingEligible = true → ∃ s, ctrl.sets[r.setId]? = some s ∧
      (s.policies.promotion.requireCompatible = true →
        (checkCompatibility s.compatibility r.compatibility).compatible = true)

theorem ServesCompatibly.step (compatible : ctrl.ServesCompatibly) (call : Call) :
    (ctrl.step call).2.ServesCompatibly := by
  intro id r' found flagged
  obtain ⟨op, fresh⟩ := call
  have change := ctrl.replicaStep op fresh id
  rw [show (op.apply fresh ctrl).2.replicas[id]? = some r' from found] at change
  obtain ⟨r, before, -, authority⟩ := change.flag flagged
  -- What provisioning makes does not have the flag, so the terms are those of before.
  have same : r'.contract = r.contract := by
    rcases contract_origin found with ⟨r0, before0, same⟩ | ⟨-, -, -, idle⟩
    · rwa [Option.some.inj (before.symm.trans before0)]
    · rw [flagged] at idle
      cases idle
  obtain ⟨s, known, passes⟩ : ∃ s, ctrl.sets[r.setId]? = some s ∧
      (s.policies.promotion.requireCompatible = true →
        (checkCompatibility s.compatibility r.compatibility).compatible = true) := by
    rcases authority with ⟨had, -⟩ | ⟨accepted, grants⟩
    · exact compatible id r before had
    · obtain ⟨r0, s, -, found0, known, passes, -⟩ := grant_cases accepted grants
      obtain rfl : r = r0 := Option.some.inj (before.symm.trans found0)
      exact ⟨s, known, passes⟩
  rw [← show r'.setId = r.setId from congrArg Contract.setId same] at known
  rw [← show r'.compatibility = r.compatibility from congrArg Contract.compatibility same] at passes
  obtain ⟨lifecycle, persists⟩ := sets_persist op fresh known
  exact ⟨_, persists, passes⟩

theorem ServesCompatibly.recoverInto (compatible : ctrl.ServesCompatibly) (bytes : Str) :
    (recoverInto bytes ctrl).2.ServesCompatibly := by
  rcases ctrl.recoverInto_cases bytes with ⟨-, unchanged⟩ | ⟨state, -, -, installed⟩
  · rwa [unchanged]
  · rw [installed]
    intro id r found flagged
    obtain ⟨stored, -, rfl⟩ := install_get found
    cases flagged

theorem servesCompatibly_throughout (cmds : List Command) :
    Machine.Throughout command ServesCompatibly empty cmds := by
  refine Machine.throughout_of_step cmds (fun ctrl cmd compatible => ?_) ?_
  · cases cmd with
    | call call => exact compatible.step call
    | recoverInto bytes => exact compatible.recoverInto bytes
  · intro id r found
    simp [empty] at found

end ReplicaFabric.ReplicaSetController
