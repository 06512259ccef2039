import ReplicaFabric.Distributed.Network
import ReplicaFabric.Distributed.Reports

/-!
# Health evidence across authority rounds

A promotion to `PRIMARY` draws a new health generation, so that evidence of the round before is
stale. But the wire carries no generation: the coordinator fills in the current one when it handles
the message, and evidence that was in flight is taken for new.
-/

namespace ReplicaFabric

/-- What health evidence may touch: the health, its record and the serving authority. -/
def ReplicaState.healthView (r : ReplicaState) :
    HealthState × HealthRecord × Bool × PromotionState × ReplicaRole :=
  (r.health, r.healthRecord, r.servingEligible, r.promotion, r.role)

theorem ReplicaState.healthView_iff {r : ReplicaState} {id : ReplicaId} {ev : HealthEvidence}
    {worker : WorkerId} {boot : WorkerBootId} {mono : MonotonicNs} :
    (r.healthReported ev mono).healthView = r.healthView ↔
      (Operation.reportHealth id ev worker boot mono).AlreadyReported r := by
  constructor
  · intro same
    simp only [healthView, Prod.mk.injEq] at same
    exact alreadyReported_of_health same.1 same.2.1
  · intro already
    rw [healthReported_eq_iff.mpr already]

namespace Coordinator

variable {c : Coordinator} {env : Surroundings} {m : Message}

theorem afterFrame_healthView_iff (isHealth : m.kind = .health) :
    (c.afterFrame env m).ctrl.replicas[m.replica]?.map ReplicaState.healthView =
        c.ctrl.replicas[m.replica]?.map ReplicaState.healthView ↔
      c.Ineffective env m := by
  unfold afterFrame Ineffective
  cases report : c.reportOf env m with
  | error e => simp
  | ok report' =>
      cases report' with
      | none => simp [afterReport]
      | some op =>
          have exactly := c.ctrl.report_editsWhen env.fresh (reportOf_target report)
          simp only [afterReport, Except.ok.injEq, Option.some.injEq, forall_eq']
          rcases exactly.cases with refused | ⟨r, found, passes, -, written⟩
          · rw [refused.2]
            refine iff_of_true rfl fun r found passes => ?_
            exact absurd passes ((exactly.refused_iff found).mp refused)
          · rw [written, ReplicaSetController.putReplica_here, found]
            simp only [Option.map_some, Option.some.injEq, forall_eq', passes, true_implies]
            rcases reportOf_cases report with ⟨-, kind, -⟩ | ⟨hs, -, rfl⟩ | ⟨-, kind, -⟩
            · cases isHealth.symm.trans kind
            · exact ReplicaState.healthView_iff
            · cases isHealth.symm.trans kind

end Coordinator

namespace Network

/-- The next message of the connection is a health report that was sent before the last promotion
of its replica. -/
structure LateHealth (n : Network) (conn : ConnId) (m : Message) : Prop where
  running : n.machine.terminated = false
  serving : ∃ reg, n.machine.phases[conn]? = some (.serving reg)
  next : ∃ stamp rest, n.inFlight conn = ⟨m, stamp⟩ :: rest ∧ stamp < n.machine.round m.replica
  isHealth : m.kind = .health

def KeepsHealth (n : Network) (action : Action) : Prop :=
  ∀ (conn : ConnId) (env : Surroundings) (m : Message), action = .deliver conn env →
    n.LateHealth conn m →
      (n.step action).2.machine.ctrl.replicas[m.replica]?.map ReplicaState.healthView =
        n.machine.ctrl.replicas[m.replica]?.map ReplicaState.healthView

def LateHealthIneffective (n : Network) (action : Action) : Prop :=
  ∀ (conn : ConnId) (env : Surroundings) (m : Message), action = .deliver conn env →
    n.LateHealth conn m → n.machine.Ineffective env m

theorem keepsHealth_iff (n : Network) (action : Action) :
    n.KeepsHealth action ↔ n.LateHealthIneffective action := by
  refine forall₃_congr fun conn env m => forall₂_congr fun delivers late => ?_
  subst delivers
  obtain ⟨reg, serving⟩ := late.serving
  obtain ⟨stamp, rest, first, -⟩ := late.next
  have handled : (n.step (.deliver conn env)).2.machine = n.machine.afterFrame env m := by
    rw [← Coordinator.step_serving late.running serving]
    simp [step, Channels.System.act, first, system]
  rw [handled, Coordinator.afterFrame_healthView_iff late.isHealth]

theorem health_rounds_iff (c : Coordinator) (actions : List Action) :
    Machine.Admissible step KeepsHealth (.idle c) actions ↔
      Machine.Admissible step LateHealthIneffective (.idle c) actions :=
  Machine.admissible_congr keepsHealth_iff

def failingHealth : Message :=
  { kind := .health
    worker := ⟨0, 1⟩
    boot := ⟨0, 1⟩
    replica := ⟨0, 1⟩
    payload := "state=5" }

/-- A worker reports that a replica has failed. Before the report arrives, the replica is promoted
under a new health generation. -/
def promotedInFlight : List Action :=
  (Sample.connect 0 ⟨0, 1⟩ ++ Sample.provisionOver 1 ++ Sample.reportOver 0 ⟨0, 1⟩).map .direct ++
    [ .send 0 failingHealth,
      .direct ⟨(Sample.promoteOver 1).action,
        { Sample.surroundings with fresh := Sample.freshAt 2 }⟩ ]

theorem promotedInFlight_stripped :
    ¬∀ (c : Coordinator) (actions : List Action),
      Machine.Admissible step KeepsHealth (.idle c) actions := by
  intro keeps
  have last := (Machine.admissible_append.mp (keeps Sample.coordinator
    (promotedInFlight ++ [.deliver 0 Sample.surroundings]))).2.1
  have serving : (Machine.run step (.idle Sample.coordinator)
      promotedInFlight).machine.phases[(0 : ConnId)]?.bind Phase.servingFor =
        some (⟨0, 1⟩, ⟨0, 1⟩) := by decide +kernel
  obtain ⟨reg, found, -⟩ := Phase.serving_of_servingFor serving
  have unchanged := last 0 Sample.surroundings failingHealth rfl
    ⟨by decide +kernel, ⟨reg, found⟩, ⟨0, [], by decide +kernel, by decide +kernel⟩, rfl⟩
  have primary : ((Machine.run step (.idle Sample.coordinator)
      promotedInFlight).machine.ctrl.replicas[(⟨0, 1⟩ : ReplicaId)]?.map
        ReplicaState.healthView).map (·.2.2.1) = some true := by decide +kernel
  have stripped : ((step (Machine.run step (.idle Sample.coordinator) promotedInFlight)
      (.deliver 0 Sample.surroundings)).2.machine.ctrl.replicas[(⟨0, 1⟩ : ReplicaId)]?.map
        ReplicaState.healthView).map (·.2.2.1) = some false := by decide +kernel
  rw [show failingHealth.replica = ⟨0, 1⟩ from rfl] at unchanged
  rw [unchanged, primary] at stripped
  cases stripped

end Network

end ReplicaFabric
