import ReplicaFabric.Distributed.Reports

/-!
# Fencing of messages by their epoch

The header of a message carries the epoch that its sender believes in. The loop of a worker
connection does not look at it: a message of another epoch is acted on like any other.
-/

namespace ReplicaFabric.Coordinator

def FencesMessage (c : Coordinator) (input : Input) : Prop :=
  ∀ (conn : ConnId) (m : Message) (reg : WorkerRegistration), input.action = .frame conn m →
    c.terminated = false → c.phases[conn]? = some (.serving reg) → m.epoch ≠ c.epoch →
      (c.step input).2.ctrl = c.ctrl ∧ (c.step input).2.lastResults = c.lastResults

/-- A message of another epoch on a worker connection makes no effective report, and brings no
result that is not recorded already. -/
def SilentWhenStale (c : Coordinator) (input : Input) : Prop :=
  ∀ (conn : ConnId) (m : Message) (reg : WorkerRegistration), input.action = .frame conn m →
    c.terminated = false → c.phases[conn]? = some (.serving reg) → m.epoch ≠ c.epoch →
      c.Ineffective input.env m ∧
        (m.kind = .executeResult → c.lastResults[m.replica]? = some (resultOf m))

theorem messageFenced_iff (c : Coordinator) (input : Input) :
    c.FencesMessage input ↔ c.SilentWhenStale input := by
  obtain ⟨action, env⟩ := input
  refine forall₃_congr fun conn m reg => forall₄_congr fun isFrame running serving stale => ?_
  obtain rfl : action = .frame conn m := isFrame
  rw [step_serving running serving, afterFrame_ctrl_iff, afterFrame_lastResults_iff]

def provisioned : Coordinator :=
  Machine.run step Sample.coordinator (Sample.connect 0 ⟨0, 1⟩ ++ Sample.provisionOver 1)

def staleWarmDone : Message :=
  { kind := .warmDone, epoch := ⟨0, 7⟩, worker := ⟨0, 1⟩, boot := ⟨0, 1⟩, replica := ⟨0, 1⟩ }

/-- A worker reports its warmup under another epoch, and the replica warms. -/
theorem staleWarmDone_unfenced : ¬∀ c input, FencesMessage c input := by
  intro fenced
  have serving : provisioned.phases[(0 : ConnId)]?.bind Phase.servingFor =
      some (⟨0, 1⟩, ⟨0, 1⟩) := by decide +kernel
  obtain ⟨reg, found, -⟩ := Phase.serving_of_servingFor serving
  have unchanged := (fenced provisioned (Sample.input (.frame 0 staleWarmDone)) 0 staleWarmDone reg
    rfl (by decide +kernel) found (by decide +kernel)).1
  have before : provisioned.ctrl.replicas[(⟨0, 1⟩ : ReplicaId)]?.map (·.lifecycle) =
      some .starting := by decide +kernel
  have after : (provisioned.step
      (Sample.input (.frame 0 staleWarmDone))).2.ctrl.replicas[(⟨0, 1⟩ : ReplicaId)]?.map
        (·.lifecycle) = some .warming := by decide +kernel
  rw [unchanged, before] at after
  cases after

end ReplicaFabric.Coordinator
