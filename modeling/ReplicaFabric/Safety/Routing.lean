import ReplicaFabric.Distributed.Connections

/-!
# Routing work

`EXECUTE` is forwarded to the worker of the replica it names. The handler looks the replica up,
but not its serving authority.
-/

namespace ReplicaFabric

namespace Coordinator

variable {c : Coordinator} {env : Surroundings} {m : Message} {outputs : List Output}

def Forwarded (outputs : List Output) : Prop := ∃ worker frame, .forward worker frame ∈ outputs

def ErrorAcknowledged (outputs : List Output) : Prop :=
  ∃ ack, .reply ack ∈ outputs ∧ ack.kind = .msgError ∧ ascii "err " <+: ack.payload

/-- Work goes only to a replica that was servable when the message was handled; a message that
is not forwarded is answered with an error. -/
structure RoutedByAuthority (c : Coordinator) (m : Message) (outputs : List Output) : Prop where
  authorised : Forwarded outputs → c.ctrl.Servable m.replica
  answered : ¬Forwarded outputs → ErrorAcknowledged outputs

def Reachable (c : Coordinator) (env : Surroundings) (m : Message) : Prop :=
  ∃ r, c.ctrl.replicas[m.replica]? = some r ∧
    c.delivers env r.workerId { m with epoch := c.epoch } = true

theorem handleControl_execute (executes : m.kind = .execute) :
    c.handleControl env m = .ok (c.handleExecute env m, c) := by
  rw [handleControl, executes]

theorem handleExecute_reachable {r : ReplicaState}
    (found : c.ctrl.replicas[m.replica]? = some r)
    (delivered : c.delivers env r.workerId { m with epoch := c.epoch } = true) :
    c.handleExecute env m =
      [.forward r.workerId { m with epoch := c.epoch },
        .reply { c.ackFor m with payload := "ok forwarded" }] := by
  simp [handleExecute, ReplicaSetController.findReplica, found, delivered]

theorem handleExecute_unreachable (lost : ¬c.Reachable env m) :
    ∃ payload, ascii "err " <+: payload ∧
      c.handleExecute env m = [.reply { c.ackFor m with payload := payload }] := by
  cases found : c.ctrl.replicas[m.replica]? with
  | none =>
      refine ⟨"err unknown replica", by decide, ?_⟩
      simp [handleExecute, ReplicaSetController.findReplica, found]
  | some r =>
      have undelivered : c.delivers env r.workerId { m with epoch := c.epoch } = false := by
        by_contra delivered
        exact lost ⟨r, found, by simpa using delivered⟩
      refine ⟨"err worker unreachable", by decide, ?_⟩
      simp [handleExecute, ReplicaSetController.findReplica, found, undelivered]

theorem handleExecute_outcome (c : Coordinator) (env : Surroundings) (m : Message) :
    (c.Reachable env m ∧ Forwarded (c.handleExecute env m)) ∨
    (¬c.Reachable env m ∧ ¬Forwarded (c.handleExecute env m) ∧
      ErrorAcknowledged (c.handleExecute env m)) := by
  by_cases reachable : c.Reachable env m
  · obtain ⟨r, found, delivered⟩ := reachable
    refine Or.inl ⟨⟨r, found, delivered⟩, r.workerId, { m with epoch := c.epoch }, ?_⟩
    rw [handleExecute_reachable found delivered]
    exact List.mem_cons_self
  · obtain ⟨payload, isError, sent⟩ := handleExecute_unreachable reachable
    rw [sent]
    exact Or.inr ⟨reachable, by simp [Forwarded], { c.ackFor m with payload := payload },
      List.mem_singleton_self _, rfl, isError⟩

theorem execute_routedByAuthority_iff (c : Coordinator) (env : Surroundings) (m : Message)
    (executes : m.kind = .execute) :
    (∃ outputs, c.handleControl env m = .ok (outputs, c) ∧ RoutedByAuthority c m outputs) ↔
      (c.Reachable env m → c.ctrl.Servable m.replica) := by
  constructor
  · rintro ⟨outputs, handled, routed⟩ reachable
    rw [handleControl_execute executes] at handled
    cases handled
    rcases c.handleExecute_outcome env m with ⟨-, forwarded⟩ | ⟨lost, -⟩
    · exact routed.authorised forwarded
    · exact absurd reachable lost
  · intro servable
    refine ⟨_, handleControl_execute executes, ?_⟩
    rcases c.handleExecute_outcome env m with
      ⟨reachable, forwarded⟩ | ⟨-, kept, answered⟩
    · exact ⟨fun _ => servable reachable, fun unsent => absurd forwarded unsent⟩
    · exact ⟨fun sent => absurd sent kept, fun _ => answered⟩

def warmingUp : Coordinator :=
  Machine.run step Sample.coordinator (Sample.connect 0 ⟨0, 1⟩ ++ Sample.provisionOver 1)

theorem warmingUp_routed :
    ¬∀ (c : Coordinator) (env : Surroundings) (m : Message), m.kind = .execute →
      ∃ outputs, c.handleControl env m = .ok (outputs, c) ∧ RoutedByAuthority c m outputs := by
  intro all
  obtain ⟨outputs, handled, routed⟩ := all warmingUp Sample.surroundings Sample.execute rfl
  rw [handleControl_execute rfl] at handled
  cases handled
  have forwarded : Forwarded (warmingUp.handleExecute Sample.surroundings Sample.execute) :=
    ⟨⟨0, 1⟩, { Sample.execute with epoch := ⟨0, 1⟩ }, by decide +kernel⟩
  have unauthorised : ¬warmingUp.ctrl.Servable Sample.execute.replica := by decide +kernel
  exact unauthorised (routed.authorised forwarded)

theorem execute_routedByAuthority_iff_warmingUp :
    (∃ outputs, warmingUp.handleControl Sample.surroundings Sample.execute =
        .ok (outputs, warmingUp) ∧ RoutedByAuthority warmingUp Sample.execute outputs) ↔
      (warmingUp.Reachable Sample.surroundings Sample.execute →
        warmingUp.ctrl.Servable Sample.execute.replica) :=
  execute_routedByAuthority_iff _ _ _ rfl

end Coordinator

end ReplicaFabric
