import ReplicaFabric.Persistence.Command

/-!
# Reuse of replica identities

`provision_replica` does not ask whether the id already names a replica. When the set takes one
more replica, the entry of the one that is there is overwritten.
-/

namespace ReplicaFabric.ReplicaSetController

variable {ctrl : ReplicaSetController}

def Provisionable (ctrl : ReplicaSetController) (setId : ReplicaSetId) (worker : WorkerId) :
    Prop :=
  ∃ set, ctrl.sets[setId]? = some set ∧ ¬(set.lifecycle = .retired ∨ set.lifecycle = .failed) ∧
    (ctrl.workers[worker]?).isSome ∧
    ctrl.countReplicas setId (fun _ => true) < set.maxReplicas

theorem provisionGate_isOk {setId : ReplicaSetId} {worker : WorkerId} :
    (ctrl.provisionGate setId worker).isOk = true ↔ ctrl.Provisionable setId worker := by
  constructor
  · intro passes
    cases gate : ctrl.provisionGate setId worker with
    | error refusal => simp [gate] at passes
    | ok admitted =>
        obtain ⟨found, alive, known, room⟩ := provisionGate_ok.mp gate
        exact ⟨_, found, alive, by simp [known], room⟩
  · rintro ⟨set, found, alive, known, room⟩
    obtain ⟨reg, known⟩ := Option.isSome_iff_exists.mp known
    rw [provisionGate_ok.mpr ⟨found, alive, known, room⟩]
    rfl

theorem Provisionable.written {setId : ReplicaSetId} {worker : WorkerId}
    (provisionable : ctrl.Provisionable setId worker) (fresh : FreshIds) (id : ReplicaId)
    (compat : ReplicaCompatibility) (device : DeviceCapability) (capacity : UInt64)
    (mono : MonotonicNs) (wall : WallNs) :
    let after := (ctrl.provisionReplica fresh id setId worker compat device capacity mono wall).2
    (∃ set reg, after.replicas[id]? = some (.provisioned id setId set reg worker compat device
      capacity ctrl.epoch fresh mono wall)) ∧ after.failovers = ctrl.failovers := by
  rcases ctrl.provisionReplica_cases fresh id setId worker compat device capacity mono wall with
    ⟨⟨refusal, gate⟩, -⟩ | ⟨set, reg, lifecycle, -, -, -, written⟩
  · have passes := provisionGate_isOk.mpr provisionable
    rw [gate] at passes
    cases passes
  · exact ⟨⟨set, reg, (congrArg (·.replicas[id]?) written).trans (putReplica_here ..)⟩,
      (congrArg failovers written).trans rfl⟩

def KeepsIdentity (ctrl : ReplicaSetController) : Command → Prop
  | .call call => ∀ (id : ReplicaId) (r : ReplicaState), call.op.provisions id = true →
      ctrl.replicas[id]? = some r →
        (ctrl.step call).1.isOk = false ∧ (ctrl.step call).2.replicas[id]? = some r
  | .recoverInto _ => True

/-- A provision is under an id that names no replica, or the set takes no more replicas. -/
def AvoidsReuse (ctrl : ReplicaSetController) : Command → Prop
  | .call ⟨.provisionReplica id setId worker .., _⟩ =>
      ctrl.replicas[id]? = none ∨ ¬ctrl.Provisionable setId worker
  | _ => True

theorem keepsIdentity_iff (cmd : Command) : ctrl.KeepsIdentity cmd ↔ ctrl.AvoidsReuse cmd := by
  cases cmd with
  | recoverInto bytes => exact Iff.rfl
  | call call =>
      obtain ⟨op, fresh⟩ := call
      cases op with
      | provisionReplica x setId worker compat device capacity mono wall =>
          have accepted := ctrl.provisionReplica_isOk fresh x setId worker compat device capacity
            mono wall
          constructor
          · intro keeps
            by_contra reused
            obtain ⟨named, takes⟩ := not_or.mp reused
            obtain ⟨r, found⟩ := Option.ne_none_iff_exists'.mp named
            have refused := (keeps x r (by simp [Operation.provisions]) found).1
            rw [step, Operation.apply, accepted, provisionGate_isOk.mpr (not_not.mp takes)] at refused
            cases refused
          · rintro avoids id r provisions found
            obtain rfl : x = id := by simpa [Operation.provisions] using provisions
            have full := avoids.resolve_left (by simp [found])
            rcases ctrl.provisionReplica_cases fresh x setId worker compat device capacity mono
              wall with ⟨-, notOk, unchanged⟩ | ⟨set, reg, lifecycle, gate, -⟩
            · exact ⟨notOk, by rw [step, Operation.apply, unchanged, found]⟩
            · exact absurd (provisionGate_isOk.mp (by rw [gate]; rfl)) full
      | _ =>
          refine iff_of_true ?_ trivial
          intro id r provisions
          cases provisions

theorem identities_kept_iff (cmds : List Command) :
    Machine.Admissible command KeepsIdentity empty cmds ↔
      Machine.Admissible command AvoidsReuse empty cmds :=
  Machine.admissible_congr fun _ cmd => keepsIdentity_iff cmd

def reprovision : Call :=
  ⟨.provisionReplica ⟨0, 1⟩ Sample.setId ⟨0, 1⟩ {} {} 1 0 0, Sample.freshAt 2⟩

theorem reprovision_reuses : ¬∀ cmds, Machine.Admissible command KeepsIdentity empty cmds := by
  intro always
  have serving : (Machine.run command empty (Sample.serving.map .call)).replicas[
      (⟨0, 1⟩ : ReplicaId)]?.map (·.servingEligible) = some true := by decide
  have accepted : ((Machine.run command empty (Sample.serving.map .call)).step
      reprovision).1.isOk = true := by decide
  obtain ⟨r, found, -⟩ := Option.map_eq_some_iff.mp serving
  have keeps := (Machine.admissible_append.mp
    (always (Sample.serving.map .call ++ [.call reprovision]))).2.1
  rw [(keeps ⟨0, 1⟩ r rfl found).1] at accepted
  cases accepted

end ReplicaFabric.ReplicaSetController
