import ReplicaFabric.Distributed.Connections
import ReplicaFabric.Library.Channels

/-!
# Messages in flight

The frames of a connection reach the coordinator in the order in which its peer sent them, at any
later time. A message is stamped with the authority round of the replica it names.
-/

namespace ReplicaFabric

/-- How often the replica has been promoted to `PRIMARY`, by a promotion or by a failover. -/
def Coordinator.round (c : Coordinator) (id : ReplicaId) : Nat :=
  c.ctrl.promotions.countP fun record => record.replicaId = id && record.target = .primary

abbrev Network := Channels.State Coordinator ConnId Message Nat

namespace Network

abbrev Action := Channels.Action Input ConnId Message Surroundings

def system : Channels.System Coordinator Input Outcome ConnId Message Nat Surroundings where
  step := Coordinator.step
  receive conn m env := ⟨.frame conn m, env⟩
  stamp c m := c.round m.replica

def step (n : Network) (action : Action) : Option Outcome × Network := system.act n action

theorem run_refines (n : Network) (actions : List Action) :
    ∃ calls, (Machine.run step n actions).machine.ctrl =
      Machine.run ReplicaSetController.step n.machine.ctrl calls := by
  obtain ⟨inputs, refined⟩ := system.run_refines n actions
  obtain ⟨calls, made⟩ := Coordinator.run_refines n.machine inputs
  exact ⟨calls, (congrArg Coordinator.ctrl refined).trans made⟩

end Network

end ReplicaFabric
