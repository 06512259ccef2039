import ReplicaFabric.Controller.Failover
import ReplicaFabric.Controller.Operation

/-!
# What one call can do to the logs

Promotions and failovers are only appended. The drain log grows by a drain that is accepted, and a
completion settles the first open record of the replica in place.
-/

namespace ReplicaFabric

def Operation.logsDrain : Operation → Bool
  | drainReplica .. | completeDrain .. => true
  | _ => false

namespace ReplicaSetController

variable {ctrl : ReplicaSetController}

/-- What one call can do to the drain log: the operation, whether it was accepted, and the log
after it. -/
inductive DrainsStep (ctrl : ReplicaSetController) (fresh : FreshIds) :
    Operation → Bool → List DrainRecord → Prop
  | kept {op accepted} (other : accepted = true → op.logsDrain = false) :
      DrainsStep ctrl fresh op accepted ctrl.drains
  | opened {id worker boot mono r} (found : ctrl.replicas[id]? = some r)
      (edge : r.lifecycle = .ready ∨ r.lifecycle = .serving) :
      DrainsStep ctrl fresh (.drainReplica id worker boot mono) true
        (ctrl.drains ++ [openedDrain r fresh mono])
  | settled {id quiesced force mono r} (found : ctrl.replicas[id]? = some r)
      (edge : r.lifecycle = .draining) :
      DrainsStep ctrl fresh (.completeDrain id quiesced force mono) true
        (settleDrain r.id (settledDrain quiesced force mono) ctrl.drains)

structure LogsStep (ctrl : ReplicaSetController) (op : Operation) (fresh : FreshIds)
    (outcome : OpResult × ReplicaSetController) : Prop where
  drains : DrainsStep ctrl fresh op outcome.1.isOk outcome.2.drains
  promotions : ctrl.promotions <+: outcome.2.promotions
  failovers : ctrl.failovers <+: outcome.2.failovers

namespace LogsStep

variable {op : Operation} {fresh : FreshIds} {outcome : OpResult × ReplicaSetController}

theorem of_written {next : ReplicaSetController} (written : outcome.2 = next)
    (other : outcome.1.isOk = true → op.logsDrain = false) (drains : next.drains = ctrl.drains)
    (promotions : ctrl.promotions <+: next.promotions)
    (failovers : ctrl.failovers <+: next.failovers) : LogsStep ctrl op fresh outcome := by
  subst written
  refine ⟨?_, promotions, failovers⟩
  rw [drains]
  exact .kept other

theorem of_refused (refused : Refused outcome ctrl) : LogsStep ctrl op fresh outcome := by
  refine of_written refused.2 (fun accepted => ?_) rfl (List.prefix_refl _) (List.prefix_refl _)
  cases refused.1.symm.trans accepted

theorem of_edits {target : ReplicaId} {guard : ReplicaState → Prop}
    {edit : ReplicaState → ReplicaState} (other : op.logsDrain = false)
    (edits : Edits outcome ctrl target guard edit) : LogsStep ctrl op fresh outcome := by
  obtain ⟨r, -, -, -, written⟩ := edits
  exact of_written written (fun _ => other) rfl (List.prefix_refl _) (List.prefix_refl _)

end LogsStep

theorem triggerFailover_logsStep (fresh : FreshIds) (setId : ReplicaSetId) (failed : ReplicaId)
    (reason : Str) (mono : MonotonicNs) (wall : WallNs) :
    LogsStep ctrl (.triggerFailover setId failed reason mono wall) fresh
      (ctrl.triggerFailover fresh setId failed reason mono wall) := by
  rcases ctrl.triggerFailover_cases fresh setId failed reason mono wall with refused |
    ⟨set, fr, found, foundFailed, inSet⟩
  · exact .of_refused refused
  rcases triggerFailover_known fresh reason mono wall found foundFailed inSet with
    ⟨record, ⟨-, -, written⟩ | ⟨chosen, r, pr, -, -, -, written⟩⟩
  · exact .of_written written (fun _ => rfl) rfl (List.prefix_refl _) (List.prefix_append ..)
  · refine .of_written written (fun _ => rfl) (deriveSetLifecycle_drains ..) ?_ ?_
    · rw [deriveSetLifecycle_promotions]
      exact List.prefix_append ..
    · rw [deriveSetLifecycle_failovers]
      exact List.prefix_append ..

theorem logsStep (op : Operation) (fresh : FreshIds) :
    LogsStep ctrl op fresh (op.apply fresh ctrl) := by
  cases op with
  | unregisterWorker worker =>
      rcases ctrl.unregisterWorker_cases worker with ⟨-, refused⟩ | ⟨reg, -, -, written⟩
      · exact .of_refused refused
      · exact .of_written written (fun _ => rfl) rfl (List.prefix_refl _) (List.prefix_refl _)
  | createReplicaSet set epoch =>
      rcases ctrl.createReplicaSet_cases set epoch with refused | ⟨-, -, -, written⟩
      · exact .of_refused refused
      · exact .of_written written (fun _ => rfl) rfl (List.prefix_refl _) (List.prefix_refl _)
  | transitionReplicaSet setId target =>
      rcases ctrl.transitionReplicaSet_cases setId target with refused | ⟨s, -, -, -, written⟩
      · exact .of_refused refused
      · exact .of_written written (fun _ => rfl) rfl (List.prefix_refl _) (List.prefix_refl _)
  | provisionReplica id setId worker compat device capacity mono wall =>
      rcases ctrl.provisionReplica_cases fresh id setId worker compat device capacity mono wall with
        ⟨-, refused⟩ | ⟨set, reg, lifecycle, -, -, -, written⟩
      · exact .of_refused refused
      · exact .of_written written (fun _ => rfl) rfl (List.prefix_refl _) (List.prefix_refl _)
  | setAllocating id placementId =>
      exact (ctrl.setAllocating_cases id placementId).elim .of_refused (.of_edits rfl)
  | setStarting id mono wall =>
      exact (ctrl.setStarting_cases id mono wall).elim .of_refused (.of_edits rfl)
  | warmReplica id warm worker boot mono =>
      exact (ctrl.warmReplica_cases id warm worker boot mono).elim .of_refused (.of_edits rfl)
  | reportHealth id ev worker boot mono =>
      exact (ctrl.reportHealth_cases id ev worker boot mono).elim .of_refused (.of_edits rfl)
  | reportReadiness id rr worker boot =>
      exact (ctrl.reportReadiness_cases id rr worker boot).elim .of_refused (.of_edits rfl)
  | promoteReplica id target worker boot mono wall =>
      rcases ctrl.promoteReplica_cases fresh id target worker boot mono wall with refused |
        ⟨r, set, granted, record, -, -, -, -, written⟩
      · exact .of_refused refused
      · refine .of_written written (fun _ => rfl) (deriveSetLifecycle_drains ..) ?_ ?_
        · rw [deriveSetLifecycle_promotions]
          exact List.prefix_append ..
        · rw [deriveSetLifecycle_failovers]
          exact List.prefix_refl _
  | drainReplica id worker boot mono =>
      rcases ctrl.drainReplica_outcome fresh id worker boot mono with refused |
        ⟨r, found, -, -, edge, accepted, written⟩
      · exact .of_refused refused
      · refine ⟨?_, (congrArg promotions written).symm ▸ List.prefix_refl _,
          (congrArg failovers written).symm ▸ List.prefix_refl _⟩
        rw [Operation.apply, accepted, written]
        exact .opened found edge
  | completeDrain id quiesced force mono =>
      rcases ctrl.completeDrain_outcome id quiesced force mono with refused |
        ⟨r, found, edge, -, accepted, written⟩
      · exact .of_refused refused
      · refine ⟨?_, (congrArg promotions written).symm ▸ List.prefix_refl _,
          (congrArg failovers written).symm ▸ List.prefix_refl _⟩
        rw [Operation.apply, accepted, written]
        exact .settled found edge
  | failReplica id worker boot reason mono =>
      rcases ctrl.failReplica_cases id worker boot reason mono with refused |
        ⟨r, -, -, ⟨-, -, written⟩ | ⟨-, -, written⟩⟩
      · exact .of_refused refused
      · exact .of_written written (fun _ => rfl) rfl (List.prefix_refl _) (List.prefix_refl _)
      · exact .of_written written (fun _ => rfl) rfl (List.prefix_refl _) (List.prefix_refl _)
  | retireReplica id =>
      exact (ctrl.retireReplica_cases id).elim .of_refused (.of_edits rfl)
  | triggerFailover setId failed reason mono wall =>
      exact triggerFailover_logsStep fresh setId failed reason mono wall
  | registerWorker wr | setEpoch epoch =>
      exact .of_written rfl (fun _ => rfl) rfl (List.prefix_refl _) (List.prefix_refl _)

theorem settleDrain_cases (id : ReplicaId) (settle : DrainRecord → DrainRecord)
    (log : List DrainRecord) :
    (settleDrain id settle log = log ∧ ∀ dr ∈ log, ¬(dr.replicaId = id ∧ dr.state = .draining)) ∨
    ∃ front dr back, log = front ++ dr :: back ∧ (dr.replicaId = id ∧ dr.state = .draining) ∧
      (∀ earlier ∈ front, ¬(earlier.replicaId = id ∧ earlier.state = .draining)) ∧
      settleDrain id settle log = front ++ settle dr :: back := by
  induction log with
  | nil => exact Or.inl ⟨rfl, nofun⟩
  | cons first log ih =>
      by_cases hit : first.replicaId = id ∧ first.state = .draining
      · exact Or.inr ⟨[], first, log, rfl, hit, nofun, if_pos hit⟩
      rw [settleDrain, if_neg hit]
      rcases ih with ⟨same, none⟩ | ⟨front, dr, back, rfl, found, earlier, settled⟩
      · exact Or.inl ⟨by rw [same], List.forall_mem_cons.mpr ⟨hit, none⟩⟩
      · exact Or.inr ⟨first :: front, dr, back, rfl, found,
          List.forall_mem_cons.mpr ⟨hit, earlier⟩, by rw [settled]; rfl⟩

end ReplicaSetController

end ReplicaFabric
