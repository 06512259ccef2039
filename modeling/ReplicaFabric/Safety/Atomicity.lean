import ReplicaFabric.Controller.Reports
import ReplicaFabric.Persistence.Command

/-!
# Rejected means not applied

`fail_replica` drops the authority of a replica before it asks whether the lifecycle can go to
`FAILED`. Every other operation that does not succeed writes nothing, but for the failover that
finds no replacement.
-/

namespace ReplicaFabric

structure ReplicaState.AlreadyFailing (r : ReplicaState) (reason : Str) (mono : MonotonicNs) :
    Prop where
  authority : r.servingEligible = false
  health : r.health = .failed
  recorded : r.healthRecord.state = .failed
  reason : r.healthRecord.reason = reason
  updated : r.healthRecord.updatedAtMono = mono
  promotion : r.promotion = .notPromoted
  role : r.role = .none
  capacity : r.reservedCapacity = 0

theorem ReplicaState.failing_eq_iff {r : ReplicaState} {reason : Str} {mono : MonotonicNs} :
    r.failing reason mono = r ↔ r.AlreadyFailing reason mono := by
  constructor
  · intro same
    constructor <;> rw [← same] <;> rfl
  · rintro ⟨authority, health, recorded, rfl, rfl, promotion, role, capacity⟩
    obtain ⟨⟩ := r
    simp_all only [failing, loseAuthority]
    rw [← recorded]

namespace ReplicaSetController

variable {ctrl : ReplicaSetController}

theorem failReplica_refused_iff {id : ReplicaId} {r : ReplicaState} {worker : WorkerId}
    {boot : WorkerBootId} {reason : Str} {mono : MonotonicNs}
    (found : ctrl.replicas[id]? = some r) :
    Refused (ctrl.failReplica id worker boot reason mono) ctrl ↔
      ¬((r.workerId = worker ∧ r.bootId = boot) ∧
        (r.lifecycle.canTransition .failed = true ∨ ¬r.AlreadyFailing reason mono)) := by
  unfold Refused failReplica
  by_cases host : r.workerId = worker ∧ r.bootId = boot
  · have hosted : r.workerBootMatches worker boot = true := workerBootMatches_iff.mpr host
    cases edge : r.lifecycle.canTransition .failed with
    | true => simp [found, hosted, edge, host]
    | false =>
        simp [found, hosted, edge, host, putReplica_eq_iff found, ReplicaState.failing_eq_iff]
  · have other : r.workerBootMatches worker boot = false := by
      rw [← Bool.not_eq_true, workerBootMatches_iff]
      exact host
    simp [found, other, host]

/-- The failover that finds no replacement: the failed replica is demoted, and one record of the
failure is appended. -/
def NoReplacement (ctrl : ReplicaSetController) : Command → Prop
  | .call ⟨.triggerFailover setId failed reason mono wall, fresh⟩ =>
      let outcome := ctrl.triggerFailover fresh setId failed reason mono wall
      outcome.1 = .rejected "no eligible replacement for failover" ∧
      ∃ fr record, ctrl.replicas[failed]? = some fr ∧ record.state = .failed ∧
        record.setId = setId ∧ record.failedReplica = failed ∧
        outcome.2 = { ctrl.putReplica failed (fr.failedOver reason) with
          failovers := ctrl.failovers ++ [record] }
  | _ => False

def RejectsUnchanged (ctrl : ReplicaSetController) (cmd : Command) : Prop :=
  (ctrl.command cmd).1.accepted = false →
    (ctrl.command cmd).2 = ctrl ∨ ctrl.NoReplacement cmd

/-- The worker fails a replica whose lifecycle has no edge to `FAILED`, and the replica does not
already look so. -/
def FailsPastEdge (ctrl : ReplicaSetController) : Command → Prop
  | .call ⟨.failReplica id worker boot reason mono, _⟩ =>
      ∃ r, ctrl.replicas[id]? = some r ∧ (r.workerId = worker ∧ r.bootId = boot) ∧
        r.lifecycle.canTransition .failed = false ∧ ¬r.AlreadyFailing reason mono
  | _ => False

theorem rejected_unchanged_of_cases {call : Call} {applied : Prop}
    (other : ¬ctrl.FailsPastEdge (.call call)) (cases : Refused (ctrl.step call) ctrl ∨ applied)
    (accepts : applied → (ctrl.step call).1.isOk = true) :
    ctrl.RejectsUnchanged (.call call) ↔ ¬ctrl.FailsPastEdge (.call call) := by
  refine iff_of_true (fun notOk => Or.inl ?_) other
  rcases cases with refused | applies
  · exact refused.2
  · exact absurd ((accepts applies).symm.trans notOk) nofun

theorem rejected_unchanged_of_edits {call : Call} {id : ReplicaId} {guard : ReplicaState → Prop}
    {edit : ReplicaState → ReplicaState} (other : ¬ctrl.FailsPastEdge (.call call))
    (cases : Refused (ctrl.step call) ctrl ∨ Edits (ctrl.step call) ctrl id guard edit) :
    ctrl.RejectsUnchanged (.call call) ↔ ¬ctrl.FailsPastEdge (.call call) :=
  rejected_unchanged_of_cases other cases fun ⟨_, _, _, accepted, _⟩ => accepted

theorem triggerFailover_rejected (fresh : FreshIds) (setId : ReplicaSetId) (failed : ReplicaId)
    (reason : Str) (mono : MonotonicNs) (wall : WallNs)
    (notOk : (ctrl.triggerFailover fresh setId failed reason mono wall).1.isOk = false) :
    (ctrl.triggerFailover fresh setId failed reason mono wall).2 = ctrl ∨
      ctrl.NoReplacement (.call ⟨.triggerFailover setId failed reason mono wall, fresh⟩) := by
  unfold NoReplacement
  dsimp only
  unfold triggerFailover at notOk ⊢
  cases foundSet : ctrl.sets[setId]? with
  | none => exact Or.inl rfl
  | some set =>
      cases foundFailed : ctrl.replicas[failed]? with
      | none => exact Or.inl rfl
      | some fr =>
          by_cases inSet : fr.setId = setId
          · simp only [foundSet, foundFailed, if_neg (not_not.mpr inSet)] at notOk ⊢
            cases sorted : (ctrl.putReplica failed (fr.failedOver reason)).candidates set setId failed
                (fr.failedOver reason).workerId with
            | nil =>
                exact Or.inr ⟨rfl, fr, _, rfl, rfl, rfl, rfl, rfl⟩
            | cons c rest =>
                simp only [sorted] at notOk
                cases notOk
          · simp only [if_pos inSet]
            exact Or.inl trivial

theorem failReplica_rejected_iff {fresh : FreshIds} (id : ReplicaId) (worker : WorkerId)
    (boot : WorkerBootId) (reason : Str) (mono : MonotonicNs) :
    ctrl.RejectsUnchanged (.call ⟨.failReplica id worker boot reason mono, fresh⟩) ↔
      ¬ctrl.FailsPastEdge (.call ⟨.failReplica id worker boot reason mono, fresh⟩) := by
  unfold RejectsUnchanged FailsPastEdge NoReplacement
  simp only [command, step, Operation.apply, Reply.accepted, or_false]
  rcases ctrl.failReplica_cases id worker boot reason mono with refused |
    ⟨r, found, host, ⟨edge, refused, written⟩ | ⟨edge, accepted, written⟩⟩
  · refine iff_of_true (fun _ => refused.2) ?_
    rintro ⟨r, found, host, -, other⟩
    exact (failReplica_refused_iff found).mp refused ⟨host, Or.inr other⟩
  · rw [refused, written, putReplica_eq_iff found, ReplicaState.failing_eq_iff]
    simp only [true_implies, found, Option.some.injEq, exists_eq_left', host, edge, and_self,
      true_and, not_not]
  · refine iff_of_true (fun notOk => ?_) ?_
    · rw [accepted] at notOk
      cases notOk
    · rintro ⟨r', found', -, noEdge, -⟩
      obtain rfl : r = r' := by simpa [found] using found'
      rw [edge] at noEdge
      cases noEdge

theorem rejected_unchanged_iff (ctrl : ReplicaSetController) (cmd : Command) :
    ctrl.RejectsUnchanged cmd ↔ ¬ctrl.FailsPastEdge cmd := by
  cases cmd with
  | recoverInto bytes =>
      refine iff_of_true (fun rejected => Or.inl ?_) not_false
      rcases ctrl.recoverInto_cases bytes with ⟨-, unchanged⟩ | ⟨state, -, -, installed⟩
      · exact unchanged
      · simp [command, installed, Reply.accepted] at rejected
  | call call =>
      obtain ⟨op, fresh⟩ := call
      cases op with
      | failReplica id worker boot reason mono => exact failReplica_rejected_iff ..
      | triggerFailover setId failed reason mono wall =>
          exact iff_of_true (triggerFailover_rejected fresh setId failed reason mono wall)
            not_false
      | registerWorker wr => exact iff_of_true nofun not_false
      | unregisterWorker worker =>
          exact rejected_unchanged_of_cases not_false
            ((ctrl.unregisterWorker_cases worker).imp_left And.right)
            fun ⟨_, _, accepted, _⟩ => accepted
      | createReplicaSet set epoch =>
          exact rejected_unchanged_of_cases not_false (ctrl.createReplicaSet_cases set epoch)
            fun ⟨_, _, accepted, _⟩ => accepted
      | transitionReplicaSet setId target =>
          exact rejected_unchanged_of_cases not_false (ctrl.transitionReplicaSet_cases setId target)
            fun ⟨_, _, _, accepted, _⟩ => accepted
      | provisionReplica replicaId setId worker compat device capacity mono wall =>
          exact rejected_unchanged_of_cases not_false
            ((ctrl.provisionReplica_cases fresh replicaId setId worker compat device capacity mono
              wall).imp_left And.right)
            fun ⟨_, _, _, _, _, accepted, _⟩ => accepted
      | setAllocating replicaId placementId =>
          exact rejected_unchanged_of_edits not_false (ctrl.setAllocating_cases replicaId placementId)
      | setStarting replicaId mono wall =>
          exact rejected_unchanged_of_edits not_false (ctrl.setStarting_cases replicaId mono wall)
      | warmReplica replicaId warm worker boot mono =>
          exact rejected_unchanged_of_edits not_false
            (ctrl.warmReplica_cases replicaId warm worker boot mono)
      | reportHealth replicaId ev worker boot mono =>
          exact rejected_unchanged_of_edits not_false
            (ctrl.reportHealth_cases replicaId ev worker boot mono)
      | reportReadiness replicaId rr worker boot =>
          exact rejected_unchanged_of_edits not_false
            (ctrl.reportReadiness_cases replicaId rr worker boot)
      | promoteReplica replicaId target worker boot mono wall =>
          exact rejected_unchanged_of_cases not_false
            (ctrl.promoteReplica_cases fresh replicaId target worker boot mono wall)
            fun ⟨_, _, _, _, _, _, _, accepted, _⟩ => accepted
      | drainReplica replicaId worker boot mono =>
          exact rejected_unchanged_of_cases not_false
            (ctrl.drainReplica_cases fresh replicaId worker boot mono)
            fun ⟨_, _, _, _, _, _, accepted, _⟩ => accepted
      | completeDrain replicaId quiesced force mono =>
          exact rejected_unchanged_of_cases not_false
            (ctrl.completeDrain_cases replicaId quiesced force mono)
            fun ⟨_, _, _, _, _, accepted, _⟩ => accepted
      | retireReplica replicaId =>
          exact rejected_unchanged_of_edits not_false (ctrl.retireReplica_cases replicaId)
      | setEpoch epoch => exact iff_of_true nofun not_false

def quiescedServing : List Call :=
  Sample.serving ++ [⟨.drainReplica ⟨0, 1⟩ ⟨0, 1⟩ ⟨0, 1⟩ 0, Sample.freshAt 0⟩,
    ⟨.completeDrain ⟨0, 1⟩ 0 false 0, Sample.freshAt 0⟩]

theorem quiescedServing_written :
    ¬RejectsUnchanged (Machine.run step empty quiescedServing)
      (.call ⟨.failReplica ⟨0, 1⟩ ⟨0, 1⟩ ⟨0, 1⟩ "lost" 0, Sample.freshAt 0⟩) := by
  intro rejects
  have unchanged := (rejects (by decide)).resolve_right nofun
  have failed : ((Machine.run step empty quiescedServing).command
      (.call ⟨.failReplica ⟨0, 1⟩ ⟨0, 1⟩ ⟨0, 1⟩ "lost" 0, Sample.freshAt 0⟩)).2.replicas[
        (⟨0, 1⟩ : ReplicaId)]?.map (·.health) = some .failed := by decide
  have healthy : (Machine.run step empty quiescedServing).replicas[(⟨0, 1⟩ : ReplicaId)]?.map
      (·.health) = some .healthy := by decide
  rw [unchanged, healthy] at failed
  cases failed

end ReplicaSetController

end ReplicaFabric
