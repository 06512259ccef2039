import ReplicaFabric.Controller.ReplicaStep
import ReplicaFabric.Controller.SetStep
import ReplicaFabric.Persistence.Snapshot

namespace ReplicaFabric

inductive Command
  | call (call : Call)
  | recoverInto (bytes : Str)

inductive Reply
  | result (outcome : OpResult)
  | recovery (outcome : Except Str Unit)

def Reply.accepted : Reply → Bool
  | .result outcome => outcome.isOk
  | .recovery outcome => outcome.isOk

namespace ReplicaSetController

def command (ctrl : ReplicaSetController) : Command → Reply × ReplicaSetController
  | .call call => (.result (ctrl.step call).1, (ctrl.step call).2)
  | .recoverInto bytes => (.recovery (recoverInto bytes ctrl).1, (recoverInto bytes ctrl).2)

variable {ctrl : ReplicaSetController}

theorem recoverInto_cases (bytes : Str) :
    ((recoverInto bytes ctrl).1.isOk = false ∧ (recoverInto bytes ctrl).2 = ctrl) ∨
    ∃ state, decodeSnapshot bytes = .ok state ∧ validateRecoveredState state = none ∧
      recoverInto bytes ctrl = (.ok (), installRecoveredState state ctrl) := by
  unfold recoverInto
  cases decoded : decodeSnapshot bytes with
  | error e => exact Or.inl ⟨rfl, rfl⟩
  | ok state =>
      cases valid : validateRecoveredState state with
      | some e => exact Or.inl ⟨by simp only [valid]; rfl, by simp only [valid]⟩
      | none => exact Or.inr ⟨state, rfl, valid, by simp only [valid]⟩

theorem install_get {state : RecoveredState} {id : ReplicaId} {r : ReplicaState}
    (found : (installRecoveredState state ctrl).replicas[id]? = some r) :
    ∃ stored, state.replicas[id]? = some stored ∧ r = stored.recovered := by
  obtain ⟨stored, before, same⟩ := Option.map_eq_some_iff.mp ((Table.get_map ..).symm.trans found)
  exact ⟨stored, before, same.symm⟩

end ReplicaSetController

end ReplicaFabric
