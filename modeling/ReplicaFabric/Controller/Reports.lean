import ReplicaFabric.Controller.Edits
import ReplicaFabric.Controller.Operation

/-!
# The reports of a worker

A warming, health or readiness report edits the replica it names exactly when its guard lets it.
-/

namespace ReplicaFabric

namespace ReplicaSetController

variable {ctrl : ReplicaSetController} {outcome : OpResult × ReplicaSetController}
  {id : ReplicaId} {guard : ReplicaState → Prop} {edit : ReplicaState → ReplicaState}

structure EditsWhen (outcome : OpResult × ReplicaSetController) (ctrl : ReplicaSetController)
    (id : ReplicaId) (guard : ReplicaState → Prop) (edit : ReplicaState → ReplicaState) : Prop where
  cases : Refused outcome ctrl ∨ Edits outcome ctrl id guard edit
  edits : ∀ r, ctrl.replicas[id]? = some r → guard r → Edits outcome ctrl id guard edit

theorem putReplica_eq_iff {r r' : ReplicaState} (found : ctrl.replicas[id]? = some r) :
    ctrl.putReplica id r' = ctrl ↔ r' = r := by
  have entry : ctrl.replicas.insert id r' = ctrl.replicas ↔ r' = r := by
    rw [Table.insert_eq_iff, found, Option.some.injEq, eq_comm]
  constructor
  · intro same
    exact entry.mp (congrArg replicas same)
  · intro same
    rw [putReplica, entry.mpr same]

theorem EditsWhen.refused_iff (exactly : EditsWhen outcome ctrl id guard edit) {r : ReplicaState}
    (found : ctrl.replicas[id]? = some r) : Refused outcome ctrl ↔ ¬guard r := by
  constructor
  · intro refused passes
    obtain ⟨-, -, -, accepted, -⟩ := exactly.edits r found passes
    rw [refused.1] at accepted
    cases accepted
  · intro stopped
    refine exactly.cases.resolve_right ?_
    rintro ⟨r', found', passes, -⟩
    obtain rfl : r = r' := by simpa [found] using found'
    exact stopped passes

theorem EditsWhen.unchanged_iff (exactly : EditsWhen outcome ctrl id guard edit) :
    outcome.2 = ctrl ↔ ∀ r, ctrl.replicas[id]? = some r → guard r → edit r = r := by
  rcases exactly.cases with refused | ⟨r, found, passes, accepted, written⟩
  · refine iff_of_true refused.2 fun r found passes => ?_
    exact absurd passes ((exactly.refused_iff found).mp refused)
  · rw [written, putReplica_eq_iff found]
    simp [found, passes]

end ReplicaSetController

namespace Operation

def reportTarget : Operation → Option ReplicaId
  | warmReplica r .. | reportHealth r .. | reportReadiness r .. => some r
  | _ => none

def ReportGuard (ctrl : ReplicaSetController) : Operation → ReplicaState → Prop
  | warmReplica _ _ worker boot _, r =>
      (r.workerId = worker ∧ r.bootId = boot) ∧ ReplicaSetController.AcceptsWarming r
  | reportHealth _ ev worker boot _, r =>
      (r.workerId = worker ∧ r.bootId = boot) ∧ r.coordinatorEpoch = ctrl.epoch ∧
        ev.generation = r.healthGeneration ∧ ¬ReplicaSetController.Terminated r
  | reportReadiness _ _ worker boot, r =>
      (r.workerId = worker ∧ r.bootId = boot) ∧ r.coordinatorEpoch = ctrl.epoch ∧
        ¬ReplicaSetController.Terminated r
  | _, _ => False

def reported : Operation → ReplicaState → ReplicaState
  | warmReplica _ warm _ _ mono, r => r.warmed warm mono
  | reportHealth _ ev _ _ mono, r => r.healthReported ev mono
  | reportReadiness _ rr .., r => r.readinessReported rr
  | _, r => r

/-- The replica already has what the report writes. No replica has what a report of failing health
writes, as that counts the failures. -/
def AlreadyReported : Operation → ReplicaState → Prop
  | warmReplica _ warm _ _ mono, r =>
      r.lifecycle = .warming ∧
        r.warmingRecord =
          (if warm.startedWarmingMono = 0 then { warm with startedWarmingMono := mono } else warm) ∧
        r.warmth = (if !warm.warmupExecutionDone && warm.stepsRequired > 0 &&
          warm.stepsCompleted > 0 then .warming else .warm)
  | reportHealth _ ev _ _ mono, r =>
      ¬(ev.state = .failed ∨ ev.state = .unhealthy) ∧ r.health = ev.state ∧
        r.healthRecord = { r.healthRecord with
          state := ev.state
          kind := ev.kind
          source := ev.source
          updatedAtMono := mono
          updatedAtWall := ev.observedAtWall
          confidence := ev.confidence
          generation := ev.generation
          reason := ev.message
          consecutiveFailures := 0 }
  | reportReadiness _ rr .., r =>
      r.readinessRecord = rr ∧
        r.readiness = (if rr.factors.allSet then .ready else .notReady) ∧
        (rr.factors.allSet = true → r.lifecycle ≠ .warming ∧ r.lifecycle ≠ .starting)
  | _, _ => True

end Operation

theorem ReplicaState.warmed_eq_iff {r : ReplicaState} {id : ReplicaId} {warm : WarmingRecord}
    {worker : WorkerId} {boot : WorkerBootId} {mono : MonotonicNs} :
    r.warmed warm mono = r ↔ (Operation.warmReplica id warm worker boot mono).AlreadyReported r := by
  constructor
  · intro same
    refine ⟨?_, ?_, ?_⟩ <;> rw [← same] <;> rfl
  · rintro ⟨lifecycle, record, warmth⟩
    unfold warmed
    rw [← lifecycle, ← record, ← warmth]

theorem ReplicaState.readinessReported_eq_iff {r : ReplicaState} {id : ReplicaId}
    {rr : ReadinessRecord} {worker : WorkerId} {boot : WorkerBootId} :
    r.readinessReported rr = r ↔
      (Operation.reportReadiness id rr worker boot).AlreadyReported r := by
  constructor
  · intro same
    have stays : (r.readinessReported rr).lifecycle = r.lifecycle := by rw [same]
    refine ⟨by rw [← same]; rfl, by rw [← same]; rfl, fun all => ⟨?_, ?_⟩⟩
    · intro warming
      simp [readinessReported, all, warming, ReplicaLifecycle.canTransition] at stays
    · intro starting
      simp [readinessReported, all, starting, ReplicaLifecycle.canTransition] at stays
  · rintro ⟨rfl, readiness, late⟩
    unfold readinessReported
    dsimp only
    rw [← readiness, if_neg ?_]
    intro ready
    simp only [Bool.and_eq_true, Bool.or_eq_true, decide_eq_true_eq] at ready
    obtain ⟨⟨all, early⟩, -⟩ := ready
    exact early.elim (late all).1 (late all).2

theorem ReplicaState.alreadyReported_of_health {r : ReplicaState} {id : ReplicaId}
    {ev : HealthEvidence} {worker : WorkerId} {boot : WorkerBootId} {mono : MonotonicNs}
    (health : (r.healthReported ev mono).health = r.health)
    (record : (r.healthReported ev mono).healthRecord = r.healthRecord) :
    (Operation.reportHealth id ev worker boot mono).AlreadyReported r := by
  rw [healthReported_health] at health
  rw [healthReported_healthRecord] at record
  have passing : ¬(ev.state = .failed ∨ ev.state = .unhealthy) := by
    intro failing
    have counted := congrArg HealthRecord.consecutiveFailures record
    simp only [failing, if_true] at counted
    simp at counted
  rw [if_neg passing] at record
  exact ⟨passing, health.symm, record.symm⟩

theorem ReplicaState.healthReported_eq_iff {r : ReplicaState} {id : ReplicaId}
    {ev : HealthEvidence} {worker : WorkerId} {boot : WorkerBootId} {mono : MonotonicNs} :
    r.healthReported ev mono = r ↔
      (Operation.reportHealth id ev worker boot mono).AlreadyReported r := by
  constructor
  · intro same
    exact alreadyReported_of_health (congrArg health same) (congrArg healthRecord same)
  · rintro ⟨passing, health, record⟩
    have failing : (decide (ev.state = .failed) || decide (ev.state = .unhealthy)) = false := by
      simpa using passing
    dsimp only at record
    unfold healthReported
    simp only [failing, Bool.and_false, Bool.false_eq_true, if_false]
    rw [← record, ← health]

theorem Operation.reported_eq_iff (op : Operation) (r : ReplicaState) :
    op.reported r = r ↔ op.AlreadyReported r := by
  cases op with
  | warmReplica id warm worker boot mono => exact ReplicaState.warmed_eq_iff
  | reportHealth id ev worker boot mono => exact ReplicaState.healthReported_eq_iff
  | reportReadiness id rr worker boot => exact ReplicaState.readinessReported_eq_iff
  | _ => exact iff_of_true rfl trivial

namespace ReplicaSetController

variable {ctrl : ReplicaSetController}

theorem reportHealth_written {id : ReplicaId} {ev : HealthEvidence} {worker : WorkerId}
    {boot : WorkerBootId} {r : ReplicaState} (mono : MonotonicNs)
    (found : ctrl.replicas[id]? = some r)
    (guard : (Operation.reportHealth id ev worker boot mono).ReportGuard ctrl r) :
    (ctrl.reportHealth id ev worker boot mono).1.isOk = true ∧
      (ctrl.reportHealth id ev worker boot mono).2 =
        ctrl.putReplica id (r.healthReported ev mono) := by
  obtain ⟨host, epoch, generation, alive⟩ := guard
  have passed : ¬(r.lifecycle = .failed ∨ r.lifecycle = .retired ∨ r.lifecycle = .quiesced) :=
    alive
  simp only [reportHealth, found, workerBootMatches_iff.mpr host, epoch, generation, ne_eq,
    not_true_eq_false, Bool.not_true, Bool.false_eq_true, if_false, if_neg passed, and_true]
  rfl

theorem report_editsWhen {op : Operation} {id : ReplicaId} (fresh : FreshIds)
    (target : op.reportTarget = some id) :
    EditsWhen (op.apply fresh ctrl) ctrl id (op.ReportGuard ctrl) op.reported := by
  cases op with
  | warmReplica _ warm worker boot mono =>
      cases target
      refine ⟨ctrl.warmReplica_cases id warm worker boot mono, ?_⟩
      rintro r found ⟨host, accepts⟩
      have passed : ¬((!r.lifecycle.canTransition .warming &&
          decide (r.lifecycle ≠ .warming)) = true) := by
        rcases accepts with edge | state
        · simp [edge]
        · simp [state]
      simp only [Operation.apply, warmReplica, found, workerBootMatches_iff.mpr host,
        Bool.not_true, Bool.false_eq_true, if_false, if_neg passed]
      exact ⟨r, found, ⟨host, accepts⟩, rfl, rfl⟩
  | reportHealth _ ev worker boot mono =>
      cases target
      refine ⟨ctrl.reportHealth_cases id ev worker boot mono, ?_⟩
      exact fun r found guard => ⟨r, found, guard, reportHealth_written mono found guard⟩
  | reportReadiness _ rr worker boot =>
      cases target
      refine ⟨ctrl.reportReadiness_cases id rr worker boot, ?_⟩
      rintro r found ⟨host, epoch, alive⟩
      have passed : ¬(r.lifecycle = .failed ∨ r.lifecycle = .retired ∨ r.lifecycle = .quiesced) :=
        alive
      simp only [Operation.apply, reportReadiness, found, workerBootMatches_iff.mpr host, epoch,
        ne_eq, not_true_eq_false, Bool.not_true, Bool.false_eq_true, if_false, if_neg passed]
      exact ⟨r, found, ⟨host, epoch, alive⟩, rfl, rfl⟩
  | _ => cases target

end ReplicaSetController

end ReplicaFabric
