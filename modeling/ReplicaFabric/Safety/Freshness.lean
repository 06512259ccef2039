import ReplicaFabric.Controller.Operation
import ReplicaFabric.Controller.Reports
import Mathlib.Data.List.MinMax

/-!
# The age of health evidence

Health evidence is applied as it arrives. Neither its age nor the time of its observation is looked
at, so the health of a replica is that of the report that arrived last.
-/

namespace ReplicaFabric.ReplicaSetController

variable {ctrl : ReplicaSetController} {id : ReplicaId} {r : ReplicaState} {ev ev' : HealthEvidence}
  {worker : WorkerId} {boot : WorkerBootId} {mono mono' : MonotonicNs}
  {generation : HealthGeneration} {items : List (HealthEvidence × MonotonicNs)}

def Expired (ctrl : ReplicaSetController) (r : ReplicaState) (ev : HealthEvidence) : Prop :=
  ∃ set, ctrl.sets[r.setId]? = some set ∧ set.policies.health.enabled = true ∧
    set.policies.health.staleAfterNs < ev.freshnessNs

def Overtaken (past : List (Machine.Event ReplicaSetController Call OpResult)) (id : ReplicaId)
    (ev : HealthEvidence) : Prop :=
  ∃ e ∈ past, e.output.isOk = true ∧ ∃ ev' worker boot mono,
    e.input.op = .reportHealth id ev' worker boot mono ∧ ev'.generation = ev.generation ∧
      ev.observedAtMono < ev'.observedAtMono

def StaleEvidence (start : ReplicaSetController) (past : List Call) (id : ReplicaId)
    (r : ReplicaState) (ev : HealthEvidence) : Prop :=
  Expired (Machine.run step start past) r ev ∨ Overtaken (Machine.trace step start past) id ev

def IgnoresStale (start : ReplicaSetController) (past : List Call) (id : ReplicaId)
    (ev : HealthEvidence) (worker : WorkerId) (boot : WorkerBootId) (mono : MonotonicNs) : Prop :=
  let ctrl := Machine.run step start past
  let outcome := ctrl.reportHealth id ev worker boot mono
  ∀ r, ctrl.replicas[id]? = some r → outcome.1.isOk = true → StaleEvidence start past id r ev →
    outcome.2.replicas[id]?.map (·.health) = some r.health

theorem ignoresStale_iff (start : ReplicaSetController) (past : List Call) :
    IgnoresStale start past id ev worker boot mono ↔
      ∀ r, (Machine.run step start past).replicas[id]? = some r →
        (Operation.reportHealth id ev worker boot mono).ReportGuard (Machine.run step start past) r →
        StaleEvidence start past id r ev → ev.state = r.health := by
  simp only [IgnoresStale]
  generalize Machine.run step start past = ctrl
  refine forall_congr' fun r => imp_congr_right fun found => ?_
  constructor
  · intro keeps guard stale
    obtain ⟨accepted, written⟩ := reportHealth_written mono found guard
    have same := keeps accepted stale
    rw [written, putReplica_here] at same
    exact (ReplicaState.healthReported_health ev mono).symm.trans (Option.some.inj same)
  · intro repeats accepted stale
    rcases ctrl.reportHealth_cases id ev worker boot mono with refused |
      ⟨r', found', guard, -, -⟩
    · cases refused.1.symm.trans accepted
    · obtain rfl := Option.some.inj (found'.symm.trans found)
      rw [(reportHealth_written mono found guard).2, putReplica_here, ← repeats guard stale]
      exact congrArg some (ReplicaState.healthReported_health ev mono)

def reportItem (id : ReplicaId) (worker : WorkerId) (boot : WorkerBootId)
    (ctrl : ReplicaSetController) (item : HealthEvidence × MonotonicNs) :
    OpResult × ReplicaSetController :=
  ctrl.reportHealth id item.1 worker boot item.2

/-- The replica accepts the evidence of `generation` from this incarnation of its worker. -/
def AcceptsEvidence (id : ReplicaId) (worker : WorkerId) (boot : WorkerBootId)
    (generation : HealthGeneration) (ctrl : ReplicaSetController) : Prop :=
  ∃ r, ctrl.replicas[id]? = some r ∧ ∀ (ev : HealthEvidence) (mono : MonotonicNs),
    ev.generation = generation →
      (Operation.reportHealth id ev worker boot mono).ReportGuard ctrl r

theorem reportGuard_healthReported :
    (Operation.reportHealth id ev' worker boot mono').ReportGuard
        (ctrl.putReplica id (r.healthReported ev mono)) (r.healthReported ev mono) ↔
      (Operation.reportHealth id ev' worker boot mono').ReportGuard ctrl r := by
  unfold ReplicaState.healthReported
  dsimp only
  split <;> exact Iff.rfl

theorem AcceptsEvidence.report {item : HealthEvidence × MonotonicNs}
    (accepts : AcceptsEvidence id worker boot generation ctrl)
    (current : item.1.generation = generation) :
    AcceptsEvidence id worker boot generation (reportItem id worker boot ctrl item).2 ∧
      (reportItem id worker boot ctrl item).2.replicas[id]?.map (·.health) =
        some item.1.state := by
  obtain ⟨r, found, guard⟩ := accepts
  have written := (reportHealth_written item.2 found (guard item.1 item.2 current)).2
  have entry : (reportItem id worker boot ctrl item).2.replicas[id]? =
      some (r.healthReported item.1 item.2) := by
    rw [reportItem, written]
    exact putReplica_here ..
  constructor
  · refine ⟨_, entry, fun ev mono current => ?_⟩
    rw [reportItem, written]
    exact reportGuard_healthReported.mpr (guard ev mono current)
  · rw [entry, Option.map_some, ReplicaState.healthReported_health]

def LatestWins (id : ReplicaId) (worker : WorkerId) (boot : WorkerBootId)
    (ctrl : ReplicaSetController) (items : List (HealthEvidence × MonotonicNs)) : Prop :=
  ∀ latest ∈ items, (∀ x ∈ items, x.1.observedAtMono ≤ latest.1.observedAtMono) →
    ∀ order, order.Perm items →
      (Machine.run (reportItem id worker boot) ctrl order).replicas[id]?.map (·.health) =
        some latest.1.state

theorem exists_latest (nonempty : items ≠ []) :
    ∃ latest ∈ items, ∀ x ∈ items, x.1.observedAtMono ≤ latest.1.observedAtMono := by
  cases found : items.argmax fun x => x.1.observedAtMono.toNat with
  | none => exact absurd (List.argmax_eq_none.mp found) nonempty
  | some latest =>
      refine ⟨latest, List.argmax_mem found, fun x member => ?_⟩
      have bound := List.le_of_mem_argmax member (Option.mem_def.mpr found)
      exact UInt64.le_iff_toNat_le.mpr bound

theorem latestWins_iff (accepts : AcceptsEvidence id worker boot generation ctrl)
    (current : ∀ x ∈ items, x.1.generation = generation) :
    LatestWins id worker boot ctrl items ↔
      ∀ x ∈ items, ∀ y ∈ items, x.1.state = y.1.state := by
  -- The report that comes last in the order is the one whose health stays.
  have settles (nonempty : items ≠ []) (health : Option HealthState) :
      (∀ order, order.Perm items → (Machine.run (reportItem id worker boot) ctrl
        order).replicas[id]?.map (·.health) = health) ↔ ∀ x ∈ items, some x.1.state = health :=
    Machine.view_perm_iff (fun now => now.replicas[id]?.map (·.health)) (fun x => some x.1.state)
      (fun _ _ accepts current => accepts.report current) accepts current nonempty health
  constructor
  · intro wins x inX y inY
    have nonempty := List.ne_nil_of_mem inX
    obtain ⟨latest, member, greatest⟩ := exists_latest nonempty
    have agree := (settles nonempty _).mp (wins latest member greatest)
    exact Option.some.inj ((agree x inX).trans (agree y inY).symm)
  · intro agree latest member greatest
    refine (settles (List.ne_nil_of_mem member) _).mpr fun x inX => ?_
    exact congrArg some (agree x inX latest member)

theorem stale_evidence_iff (start : ReplicaSetController) (past : List Call) (id : ReplicaId)
    (ev : HealthEvidence) (worker : WorkerId) (boot : WorkerBootId) (mono : MonotonicNs)
    (generation : HealthGeneration) (items : List (HealthEvidence × MonotonicNs)) :
    let ctrl := Machine.run step start past
    (IgnoresStale start past id ev worker boot mono ↔
        ∀ r, ctrl.replicas[id]? = some r →
          (Operation.reportHealth id ev worker boot mono).ReportGuard ctrl r →
          StaleEvidence start past id r ev → ev.state = r.health) ∧
      (AcceptsEvidence id worker boot generation ctrl →
        (∀ x ∈ items, x.1.generation = generation) →
        (LatestWins id worker boot ctrl items ↔
          ∀ x ∈ items, ∀ y ∈ items, x.1.state = y.1.state)) :=
  ⟨ignoresStale_iff start past, latestWins_iff⟩

def oldHealthyNewFailed : List (HealthEvidence × MonotonicNs) :=
  [({ state := .healthy, generation := ⟨1, 0⟩, observedAtMono := 1 }, 0),
    ({ state := .failed, generation := ⟨1, 0⟩, observedAtMono := 2 }, 0)]

def sixSecondsOld : HealthEvidence :=
  { state := .failed, generation := ⟨1, 0⟩, freshnessNs := 6000000000 }

theorem serving_acceptsEvidence :
    AcceptsEvidence ⟨0, 1⟩ ⟨0, 1⟩ ⟨0, 1⟩ ⟨1, 0⟩ (Machine.run step empty Sample.serving) := by
  have fields : (Machine.run step empty Sample.serving).replicas[(⟨0, 1⟩ : ReplicaId)]?.map
      (fun r => (r.workerId, r.bootId, r.coordinatorEpoch, r.healthGeneration, r.lifecycle)) =
        some (⟨0, 1⟩, ⟨0, 1⟩, (Machine.run step empty Sample.serving).epoch, ⟨1, 0⟩, .serving) := by
    decide
  obtain ⟨r, found, all⟩ := Option.map_eq_some_iff.mp fields
  simp only [Prod.mk.injEq] at all
  obtain ⟨worker, boot, epoch, generation, lifecycle⟩ := all
  refine ⟨r, found, fun ev mono current => ?_⟩
  refine ⟨⟨worker, boot⟩, epoch, current.trans generation.symm, ?_⟩
  simp [Terminated, lifecycle]

theorem stale_evidence_iff_serving :
    LatestWins ⟨0, 1⟩ ⟨0, 1⟩ ⟨0, 1⟩ (Machine.run step empty Sample.serving)
      [({ state := .degraded, generation := ⟨1, 0⟩, observedAtMono := 1 }, 0),
        ({ state := .degraded, generation := ⟨1, 0⟩, observedAtMono := 2 }, 0)] :=
  ((stale_evidence_iff empty Sample.serving _ {} _ _ 0 ⟨1, 0⟩ _).2 serving_acceptsEvidence
    (by decide)).mpr (by decide)

/-- Evidence that is older than the policy allows fails a healthy replica, and healthy evidence
that arrives late restores one that has failed since. -/
theorem stale_evidence_applied :
    (¬∀ (start : ReplicaSetController) (past : List Call) (id : ReplicaId) (ev : HealthEvidence)
      (worker : WorkerId) (boot : WorkerBootId) (mono : MonotonicNs),
      IgnoresStale start past id ev worker boot mono) ∧
    ¬∀ (ctrl : ReplicaSetController) (id : ReplicaId) (worker : WorkerId) (boot : WorkerBootId)
      (generation : HealthGeneration) (items : List (HealthEvidence × MonotonicNs)),
      AcceptsEvidence id worker boot generation ctrl →
      (∀ x ∈ items, x.1.generation = generation) →
      (items.map (·.1.observedAtMono)).Nodup → LatestWins id worker boot ctrl items := by
  constructor
  · intro ignores
    have health : (Machine.run step empty Sample.serving).replicas[(⟨0, 1⟩ : ReplicaId)]?.map
        (fun r => (r.setId, r.health)) = some (Sample.setId, .healthy) := by decide
    have policy : (Machine.run step empty Sample.serving).sets[Sample.setId]?.map
        (fun set => (set.policies.health.enabled, set.policies.health.staleAfterNs)) =
          some (true, 5000000000) := by decide
    have fails : ((Machine.run step empty Sample.serving).reportHealth ⟨0, 1⟩ sixSecondsOld ⟨0, 1⟩
        ⟨0, 1⟩ 0).2.replicas[(⟨0, 1⟩ : ReplicaId)]?.map (·.health) = some .failed := by decide
    obtain ⟨r, found, fields⟩ := Option.map_eq_some_iff.mp health
    obtain ⟨inSet, healthy⟩ := Prod.mk.inj fields
    obtain ⟨set, known, terms⟩ := Option.map_eq_some_iff.mp policy
    obtain ⟨enabled, limit⟩ := Prod.mk.inj terms
    have expired : Expired (Machine.run step empty Sample.serving) r sixSecondsOld :=
      ⟨set, inSet ▸ known, enabled, by rw [limit]; decide⟩
    have kept := ignores empty Sample.serving ⟨0, 1⟩ sixSecondsOld ⟨0, 1⟩ ⟨0, 1⟩ 0 r found
      (by decide) (Or.inl expired)
    rw [fails, healthy] at kept
    cases kept
  · intro wins
    have latest := wins _ _ _ _ _ oldHealthyNewFailed serving_acceptsEvidence (by decide) (by decide)
      _ (List.mem_cons_of_mem _ List.mem_cons_self) (by decide) oldHealthyNewFailed.reverse
      (List.reverse_perm _)
    have arrived : (Machine.run (reportItem ⟨0, 1⟩ ⟨0, 1⟩ ⟨0, 1⟩)
        (Machine.run step empty Sample.serving) oldHealthyNewFailed.reverse).replicas[(⟨0, 1⟩ :
          ReplicaId)]?.map (·.health) = some .healthy := by decide +kernel
    cases latest.symm.trans arrived

end ReplicaFabric.ReplicaSetController
