import ReplicaFabric.Controller.Authority
import ReplicaFabric.Safety.Atomicity

/-!
# Epoch fencing

Health and readiness reports, promotions and drains are checked against the epoch of the
controller. Warming, `fail_replica` and the selection of a failover candidate are not.
-/

namespace ReplicaFabric.ReplicaSetController

variable {ctrl : ReplicaSetController}

structure Fences (ctrl : ReplicaSetController) (call : Call) (id : ReplicaId) : Prop where
  refused : call.op.credentials.isSome = true → call.op.Touches id →
    Refused (ctrl.step call) ctrl
  notGranted : ¬((ctrl.step call).1.isOk = true ∧ call.op.Grants (ctrl.step call).2 id)

def FencesEpoch (ctrl : ReplicaSetController) : Command → Prop
  | .call call => ∀ (id : ReplicaId) (r : ReplicaState), ctrl.replicas[id]? = some r →
      r.coordinatorEpoch ≠ ctrl.epoch → ctrl.Fences call id
  | .recoverInto _ => True

/-- The operation reaches the replica without a look at its epoch: the host warms it, the host
fails it, or a failover selects it. -/
def PassesBy (ctrl : ReplicaSetController) (id : ReplicaId) (r : ReplicaState) : Operation → Prop
  | .warmReplica x _ worker boot _ =>
      x = id ∧ (r.workerId = worker ∧ r.bootId = boot) ∧ AcceptsWarming r
  | .failReplica x worker boot reason mono =>
      x = id ∧ (r.workerId = worker ∧ r.bootId = boot) ∧
        (r.lifecycle.canTransition .failed = true ∨ ¬r.AlreadyFailing reason mono)
  | .triggerFailover setId failed .. =>
      ∃ set fr, ctrl.sets[setId]? = some set ∧ ctrl.replicas[failed]? = some fr ∧
        fr.setId = setId ∧ Selected ctrl set setId failed fr.workerId (id, r)
  | _ => False

def StopsStale (ctrl : ReplicaSetController) : Command → Prop
  | .call call => ∀ (id : ReplicaId) (r : ReplicaState), ctrl.replicas[id]? = some r →
      r.coordinatorEpoch ≠ ctrl.epoch → ¬ctrl.PassesBy id r call.op
  | .recoverInto _ => True

theorem triggerFailover_grants_iff {fresh : FreshIds} {setId : ReplicaSetId} {failed id : ReplicaId}
    {reason : Str} {mono : MonotonicNs} {wall : WallNs} {r : ReplicaState}
    (found : ctrl.replicas[id]? = some r) :
    let call : Call := ⟨.triggerFailover setId failed reason mono wall, fresh⟩
    ((ctrl.step call).1.isOk = true ∧ call.op.Grants (ctrl.step call).2 id) ↔
      ctrl.PassesBy id r call.op := by
  intro call
  constructor
  · rintro ⟨accepted, record, last, replacement⟩
    rcases ctrl.triggerFailover_cases fresh setId failed reason mono wall with ⟨refused, -⟩ |
      ⟨set, fr, foundSet, foundFailed, inSet⟩
    · exact absurd (refused.symm.trans accepted) nofun
    rcases triggerFailover_known fresh reason mono wall foundSet foundFailed inSet with
      ⟨record', ⟨-, refused, -⟩ | ⟨chosen, r', pr, selected, replaced, -, written⟩⟩
    · exact absurd (refused.symm.trans accepted) nofun
    · rw [show (ctrl.step call).2 = _ from written, deriveSetLifecycle_failovers] at last
      obtain rfl : record' = record := by simpa using last
      obtain rfl : chosen = id := replaced.symm.trans replacement
      obtain rfl : r' = r := by simpa [selected.found] using found
      exact ⟨set, fr, foundSet, foundFailed, inSet, selected⟩
  · rintro ⟨set, fr, foundSet, foundFailed, inSet, selected⟩
    rcases triggerFailover_known fresh reason mono wall foundSet foundFailed inSet with
      ⟨record, ⟨none, -⟩ | ⟨chosen, r', pr, first, replaced, accepted, written⟩⟩
    · exact absurd ((none _ selected.found).symm.trans selected.candidate) nofun
    · refine ⟨accepted, record, ?_, replaced.trans (first.same selected)⟩
      rw [show (ctrl.step call).2 = _ from written, deriveSetLifecycle_failovers]
      simp

theorem fences_iff_refused {call : Call} {id x : ReplicaId}
    (presents : call.op.credentials.isSome = true) (names : call.op.Touches id ↔ x = id)
    (grants : call.op.Grants (ctrl.step call).2 id → x = id) :
    ctrl.Fences call id ↔ (x = id → Refused (ctrl.step call) ctrl) := by
  constructor
  · intro fences same
    exact fences.refused presents (names.mpr same)
  · intro refused
    refine ⟨fun _ touches => refused (names.mp touches), ?_⟩
    rintro ⟨accepted, granted⟩
    exact absurd ((refused (grants granted)).1.symm.trans accepted) nofun

theorem fences_report {call : Call} {id x : ReplicaId} {r : ReplicaState}
    (target : call.op.reportTarget = some x) (found : ctrl.replicas[id]? = some r) :
    ctrl.Fences call id ↔ (x = id → ¬call.op.ReportGuard ctrl r) := by
  obtain ⟨op, fresh⟩ := call
  have fences : ctrl.Fences ⟨op, fresh⟩ id ↔
      (x = id → Refused (ctrl.step ⟨op, fresh⟩) ctrl) := by
    cases op with
    | warmReplica | reportHealth | reportReadiness =>
        cases target
        exact fences_iff_refused rfl Iff.rfl nofun
    | _ => cases target
  rw [fences]
  refine forall_congr' fun same => ?_
  subst same
  exact (report_editsWhen fresh target).refused_iff found

theorem fences_iff {call : Call} {id : ReplicaId} {r : ReplicaState}
    (found : ctrl.replicas[id]? = some r) (stale : r.coordinatorEpoch ≠ ctrl.epoch) :
    ctrl.Fences call id ↔ ¬ctrl.PassesBy id r call.op := by
  obtain ⟨op, fresh⟩ := call
  cases op with
  | warmReplica x warm worker boot mono =>
      rw [fences_report rfl found]
      exact not_and.symm
  | reportHealth x ev worker boot mono =>
      rw [fences_report rfl found]
      exact iff_of_true (fun _ passes => stale passes.2.1) not_false
  | reportReadiness x rr worker boot =>
      rw [fences_report rfl found]
      exact iff_of_true (fun _ passes => stale passes.2.1) not_false
  | promoteReplica x target worker boot mono wall =>
      rw [fences_iff_refused rfl Iff.rfl And.left]
      refine iff_of_true (fun same => ?_) not_false
      subst same
      refine (ctrl.promoteReplica_cases fresh x target worker boot mono wall).resolve_right ?_
      rintro ⟨r', set, granted, record, found', gate, -⟩
      obtain rfl : r = r' := by simpa [found] using found'
      exact stale gate.epoch
  | drainReplica x worker boot mono =>
      rw [fences_iff_refused rfl Iff.rfl False.elim]
      refine iff_of_true (fun same => ?_) not_false
      subst same
      refine (ctrl.drainReplica_cases fresh x worker boot mono).resolve_right ?_
      rintro ⟨r', record, found', host, epoch, -⟩
      obtain rfl : r = r' := by simpa [found] using found'
      exact stale epoch
  | failReplica x worker boot reason mono =>
      rw [fences_iff_refused rfl Iff.rfl False.elim]
      refine Iff.trans (forall_congr' fun same => ?_) not_and.symm
      subst same
      exact failReplica_refused_iff found
  | triggerFailover setId failed reason mono wall =>
      refine Iff.trans ?_ (not_congr (triggerFailover_grants_iff found))
      exact ⟨Fences.notGranted, fun notGranted => ⟨nofun, notGranted⟩⟩
  | _ => exact iff_of_true ⟨nofun, fun granted => granted.2⟩ not_false

theorem epochFenced_iff_stopsStale (cmds : List Command) :
    Machine.Admissible command FencesEpoch empty cmds ↔
      Machine.Admissible command StopsStale empty cmds := by
  refine Machine.admissible_congr fun ctrl cmd => ?_
  cases cmd with
  | recoverInto bytes => exact Iff.rfl
  | call call =>
      exact forall₂_congr fun id r => forall₂_congr fun found stale => fences_iff found stale

def warmedLate : List Call :=
  Sample.setUp ++ (Sample.bringUp ⟨0, 1⟩).take 3 ++ [⟨.setEpoch ⟨0, 2⟩, Sample.freshAt 0⟩]

theorem warmedLate_unfenced : ¬∀ cmds, Machine.Admissible command FencesEpoch empty cmds := by
  intro always
  let warm : Call := ⟨.warmReplica ⟨0, 1⟩ {} ⟨0, 1⟩ ⟨0, 1⟩ 0, Sample.freshAt 0⟩
  have old : (Machine.run command empty (warmedLate.map .call)).replicas[
      (⟨0, 1⟩ : ReplicaId)]?.map (·.coordinatorEpoch) = some ⟨0, 1⟩ := by decide
  have accepted : ((Machine.run command empty (warmedLate.map .call)).step warm).1.isOk =
      true := by decide
  obtain ⟨r, found, epoch⟩ := Option.map_eq_some_iff.mp old
  have fences := (Machine.admissible_append.mp
    (always (warmedLate.map .call ++ [.call warm]))).2.1
  have refused := (fences ⟨0, 1⟩ r found (by rw [epoch]; decide)).refused rfl rfl
  rw [refused.1] at accepted
  cases accepted

end ReplicaFabric.ReplicaSetController
