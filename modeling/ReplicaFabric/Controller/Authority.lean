import ReplicaFabric.Controller.ReplicaStep

/-!
# Granting and stripping serving authority

The serving flag of a replica is set by a promotion to `PRIMARY` and by a failover that selects
the replica; in between it is carried over only by calls that do not strip it.
-/

namespace ReplicaFabric

def Operation.Grants (next : ReplicaSetController) (id : ReplicaId) : Operation → Prop
  | promoteReplica r target .. => r = id ∧ target = .primary
  | triggerFailover .. =>
      ∃ record, next.failovers.getLast? = some record ∧ record.replacement = id
  | _ => False

def Operation.Strips (worker : WorkerId) (id : ReplicaId) : Operation → Prop
  | unregisterWorker w => w = worker
  | reportHealth r ev .. => r = id ∧ (ev.state = .failed ∨ ev.state = .unhealthy)
  | promoteReplica r target .. => r = id ∧ target ≠ .primary
  | drainReplica r .. | failReplica r .. | retireReplica r => r = id
  | triggerFailover _ failed .. => failed = id
  | _ => False

theorem Operation.not_strips_of_not_touches {op : Operation} {worker : WorkerId} {id : ReplicaId}
    (untouched : ¬op.Touches id) : ¬op.Strips worker id := by
  cases op <;> simp_all [Operation.Touches, Operation.Strips]

namespace ReplicaSetController

variable {ctrl next : ReplicaSetController} {fresh : FreshIds} {id : ReplicaId} {op : Operation}
  {accepted : Bool} {r r' : ReplicaState}

theorem ReplicaStep.flag {prior : Option ReplicaState}
    (change : ReplicaStep ctrl fresh next id op accepted prior (some r'))
    (flagged : r'.servingEligible = true) :
    ∃ r, prior = some r ∧ r'.incarnation = r.incarnation ∧
      ((r.servingEligible = true ∧ (accepted = true → ¬op.Strips r.workerId id)) ∨
        (accepted = true ∧ op.Grants next id)) := by
  cases change with
  | provisioned gate => cases flagged
  | kept untouched =>
      exact ⟨_, rfl, rfl, Or.inl ⟨flagged, fun ok => Operation.not_strips_of_not_touches
        (untouched ok)⟩⟩
  | @registered wr r =>
      refine ⟨r, rfl, ?_, Or.inl ⟨?_, fun _ => not_false⟩⟩
      · split
        · exact ReplicaState.afterRestart_incarnation _
        · rfl
      · split_ifs at flagged with restart
        · exact (ReplicaState.afterRestart_flagged.mp flagged).1
        · exact flagged
  | @unregistered worker r =>
      obtain ⟨flag, elsewhere⟩ := ReplicaState.afterDisconnect_flagged.mp flagged
      exact ⟨r, rfl, ReplicaState.afterDisconnect_incarnation _,
        Or.inl ⟨flag, fun _ same => elsewhere (Eq.symm same)⟩⟩
  | allocated edge => exact ⟨_, rfl, rfl, Or.inl ⟨flagged, fun _ => not_false⟩⟩
  | started edge => exact ⟨_, rfl, rfl, Or.inl ⟨flagged, fun _ => not_false⟩⟩
  | warmed host accepts => exact ⟨_, rfl, rfl, Or.inl ⟨flagged, fun _ => not_false⟩⟩
  | @healthReported ev worker boot mono r host alive =>
      obtain ⟨flag, passing⟩ := ReplicaState.healthReported_flagged.mp flagged
      exact ⟨r, rfl, ReplicaState.healthReported_incarnation ..,
        Or.inl ⟨flag, fun _ failing => passing failing.2⟩⟩
  | readinessReported host alive => exact ⟨_, rfl, rfl, Or.inl ⟨flagged, fun _ => not_false⟩⟩
  | promoted gate grant =>
      refine ⟨_, rfl, promoted_incarnation grant, Or.inr ⟨rfl, rfl, ?_⟩⟩
      rcases promoted_ok.mp grant with ⟨primary, -, -⟩ | ⟨-, rfl⟩
      · exact primary
      · cases flagged
  | drained host edge => cases flagged
  | quiesced edge => cases flagged
  | failed host => cases flagged
  | failRefused host edge => cases flagged
  | retired edge => cases flagged
  | failedOver inSet => cases flagged
  | chosen selected recorded =>
      obtain ⟨record, logged, replacement⟩ := recorded
      exact ⟨_, rfl, rfl, Or.inr ⟨rfl, record, by simp [logged], replacement⟩⟩

theorem grant_cases (accepts : (op.apply fresh ctrl).1.isOk = true)
    (grants : op.Grants (op.apply fresh ctrl).2 id) :
    ∃ r s r', ctrl.replicas[id]? = some r ∧ ctrl.sets[r.setId]? = some s ∧
      (s.policies.promotion.requireCompatible = true →
        (checkCompatibility s.compatibility r.compatibility).compatible = true) ∧
      (op.apply fresh ctrl).2.replicas[id]? = some r' ∧
      (r' = grantedPrimary r fresh ∨ r' = r.madePrimary fresh) := by
  cases op with
  | promoteReplica x target worker boot mono wall =>
      obtain ⟨rfl, primary⟩ := grants
      rcases ctrl.promoteReplica_cases fresh x target worker boot mono wall with refused |
        ⟨r, set, granted, record, found, gate, grant, -, written⟩
      · cases refused.1.symm.trans accepts
      rcases promoted_ok.mp grant with ⟨-, -, rfl⟩ | ⟨secondary, -⟩
      · refine ⟨r, set, _, found, gate.known, gate.compatible, ?_, Or.inl rfl⟩
        rw [Operation.apply, written, deriveSetLifecycle_replicas]
        exact putReplica_here ..
      · exact absurd primary secondary
  | triggerFailover setId failed reason mono wall =>
      obtain ⟨record, logged, rfl⟩ := grants
      rcases ctrl.triggerFailover_cases fresh setId failed reason mono wall with refused |
        ⟨set, fr, foundSet, foundFailed, inSet⟩
      · cases refused.1.symm.trans accepts
      rcases triggerFailover_known fresh reason mono wall foundSet foundFailed inSet with
        ⟨written, ⟨-, notOk, -⟩ | ⟨chosen, r, pr, selected, replacement, -, after⟩⟩
      · cases notOk.symm.trans accepts
      have same : written = record := by
        rw [Operation.apply, after, deriveSetLifecycle_failovers] at logged
        simpa using logged
      rw [← same, replacement]
      have chosenFor := isCandidate_iff.mp selected.candidate
      refine ⟨r, set, _, selected.found, (congrArg (ctrl.sets[·]?) chosenFor.1).trans foundSet,
        fun _ => chosenFor.2.2.2.2.2.1, ?_, Or.inr rfl⟩
      rw [Operation.apply, after, deriveSetLifecycle_replicas]
      exact putReplica_here ..
  | _ => cases grants

end ReplicaSetController

end ReplicaFabric
