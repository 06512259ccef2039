import ReplicaFabric.Controller.ReplicaStep
import ReplicaFabric.Controller.SetStep
import ReplicaFabric.Safety.Reuse

/-!
# Work in flight

Four operations reset the counter of a replica's active requests. Only the failover reports that
work may have been lost, and it reads the counter as it stands by then.
-/

namespace ReplicaFabric.ReplicaSetController

variable {ctrl : ReplicaSetController} {id : ReplicaId} {r : ReplicaState} {op : Operation}
  {fresh : FreshIds} {reason : Str} {mono : MonotonicNs} {wall : WallNs}

def ForceCancels (ctrl : ReplicaSetController) (id : ReplicaId) (r : ReplicaState) :
    Operation → Prop
  | .completeDrain x _ force _ => x = id ∧ force = true ∧
      ∃ set, ctrl.sets[r.setId]? = some set ∧ set.policies.draining.allowForceCancel = true
  | _ => False

def SurfacesAmbiguity (ctrl next : ReplicaSetController) : Prop :=
  ∃ new, next.failovers = ctrl.failovers ++ new ∧
    ∃ record ∈ new, WorkOutcome.ambiguous ∈ record.ambiguousOutcomes

def WorkAccounted (ctrl : ReplicaSetController) (call : Call) : Prop :=
  ∀ id r r', ctrl.replicas[id]? = some r → r.activeRequests ≠ 0 →
    (ctrl.step call).2.replicas[id]? = some r' → r'.activeRequests = 0 →
      ctrl.ForceCancels id r call.op ∨ SurfacesAmbiguity ctrl (ctrl.step call).2

def ResetsWork (ctrl : ReplicaSetController) (id : ReplicaId) (r : ReplicaState) :
    Operation → Prop
  | .registerWorker wr => ctrl.restarts wr = true ∧ r.workerId = wr.workerId ∧
      r.lifecycle = .serving
  | .provisionReplica x setId worker .. => x = id ∧ ctrl.Provisionable setId worker
  | .completeDrain x _ force _ => x = id ∧ force = true ∧ r.lifecycle = .draining
  | .retireReplica x => x = id ∧ r.lifecycle.canTransition .retired = true
  | _ => False

def SparesWork (ctrl : ReplicaSetController) (op : Operation) : Prop :=
  ∀ id r, ctrl.replicas[id]? = some r → r.activeRequests ≠ 0 → ctrl.ResetsWork id r op →
    ctrl.ForceCancels id r op

theorem ReplicaStep.activeRequests {next : ReplicaSetController} {accepted : Bool}
    {r' : ReplicaState} (change : ReplicaStep ctrl fresh next id op accepted (some r) (some r')) :
    r'.activeRequests = r.activeRequests ∨
      r'.activeRequests = 0 ∧ (ctrl.ResetsWork id r op ∨
        ∃ quiesced force mono, op = .completeDrain id quiesced force mono) := by
  cases change with
  | registered =>
      split_ifs with restart
      · unfold ReplicaState.afterRestart
        split_ifs with here
        · exact Or.inr ⟨rfl, Or.inl ⟨restart, here⟩⟩
        · exact Or.inl rfl
      · exact Or.inl rfl
  | unregistered =>
      unfold ReplicaState.afterDisconnect
      split_ifs <;> exact Or.inl rfl
  | provisioned gate =>
      exact Or.inr ⟨rfl, Or.inl ⟨rfl, provisionGate_isOk.mp (by rw [gate]; rfl)⟩⟩
  | healthReported host alive =>
      unfold ReplicaState.healthReported
      dsimp only
      split_ifs <;> exact Or.inl rfl
  | promoted gate grant =>
      rcases promoted_ok.mp grant with ⟨-, -, rfl⟩ | ⟨-, rfl⟩
      · unfold grantedPrimary
        split_ifs <;> exact Or.inl rfl
      · exact Or.inl rfl
  | quiesced edge => exact Or.inr ⟨rfl, Or.inr ⟨_, _, _, rfl⟩⟩
  | retired edge => exact Or.inr ⟨rfl, Or.inl ⟨rfl, edge⟩⟩
  | _ => exact Or.inl rfl

theorem resets_of_reset {r' : ReplicaState} (found : ctrl.replicas[id]? = some r)
    (busy : r.activeRequests ≠ 0) (post : (op.apply fresh ctrl).2.replicas[id]? = some r')
    (reset : r'.activeRequests ≠ r.activeRequests) :
    r'.activeRequests = 0 ∧ ctrl.ResetsWork id r op := by
  have change := ctrl.replicaStep op fresh id
  rw [found, post] at change
  rcases change.activeRequests with same | ⟨none, resets | ⟨quiesced, force, mono, rfl⟩⟩
  · exact absurd same reset
  · exact ⟨none, resets⟩
  refine ⟨none, rfl, ?_⟩
  -- An unforced completion is refused while work is in flight.
  rcases ctrl.completeDrain_outcome id quiesced force mono with refused |
    ⟨r', found', draining, ends, -, -⟩
  · rw [Operation.apply, refused.2, found] at post
    exact absurd (congrArg ReplicaState.activeRequests (Option.some.inj post).symm) reset
  · obtain rfl : r = r' := Option.some.inj (found.symm.trans found')
    exact ⟨ends.resolve_right busy, draining⟩

theorem reset_of_resets (fresh : FreshIds) (found : ctrl.replicas[id]? = some r) (resets : ctrl.ResetsWork id r op) :
    (∃ r', (op.apply fresh ctrl).2.replicas[id]? = some r' ∧ r'.activeRequests = 0) ∧
      (op.apply fresh ctrl).2.failovers = ctrl.failovers := by
  cases op with
  | registerWorker wr =>
      obtain ⟨restart, here⟩ := resets
      refine ⟨⟨r.afterRestart wr.workerId, ?_, ?_⟩, rfl⟩
      · simp [Operation.apply, registerWorker, restart, found]
      · rw [ReplicaState.afterRestart, if_pos here]
  | provisionReplica x setId worker compat device capacity mono wall =>
      obtain ⟨rfl, provisionable⟩ := resets
      obtain ⟨⟨set, reg, written⟩, failovers⟩ :=
        provisionable.written fresh x compat device capacity mono wall
      exact ⟨⟨_, written, rfl⟩, failovers⟩
  | completeDrain x quiesced force mono =>
      obtain ⟨rfl, rfl, draining⟩ := resets
      refine ⟨⟨r.quiesced, ?_, rfl⟩, ?_⟩ <;>
        simp [Operation.apply, completeDrain, found, draining, ReplicaLifecycle.canTransition,
          putReplica]
  | retireReplica x =>
      obtain ⟨rfl, edge⟩ := resets
      refine ⟨⟨r.retired, ?_, rfl⟩, ?_⟩ <;>
        simp [Operation.apply, retireReplica, found, edge, putReplica]
  | _ => exact resets.elim

theorem workAccounted_iff (ctrl : ReplicaSetController) (call : Call) :
    ctrl.WorkAccounted call ↔ ctrl.SparesWork call.op := by
  constructor
  · intro accounted id r found busy resets
    obtain ⟨⟨r', post, none⟩, sameLog⟩ := reset_of_resets call.fresh found resets
    rcases accounted id r r' found busy post none with cancels | ⟨new, appended, record, member, -⟩
    · exact cancels
    · have nothing : new = [] := List.append_right_eq_self.mp (appended.symm.trans sameLog)
      rw [nothing] at member
      cases member
  · intro spares id r r' found busy post none
    have resets := resets_of_reset found busy post (by rw [none]; exact busy.symm)
    exact Or.inl (spares id r found busy resets.2)

def KeepsWork (id : ReplicaId) : ReplicaSetController → List Call → Prop :=
  Machine.Admissible step fun ctrl call =>
    ∀ r, ctrl.replicas[id]? = some r → ¬ctrl.ResetsWork id r call.op

def FailoverSurfaces (ctrl : ReplicaSetController) (id : ReplicaId) (call : Call) : Prop :=
  ∃ record, (ctrl.step call).2.failovers = ctrl.failovers ++ [record] ∧
    record.failedReplica = id ∧ .ambiguous ∈ record.ambiguousOutcomes

structure Busy (ctrl : ReplicaSetController) (id : ReplicaId) (setId : ReplicaSetId) : Prop where
  replica : ∃ r, ctrl.replicas[id]? = some r ∧ r.setId = setId ∧ r.activeRequests ≠ 0
  set : ∃ set, ctrl.sets[setId]? = some set

def Idle (ctrl : ReplicaSetController) (id : ReplicaId) : Prop :=
  ∃ r, ctrl.replicas[id]? = some r ∧ r.activeRequests = 0

theorem triggerFailover_failovers (fresh : FreshIds) {failed : ReplicaId} {setId : ReplicaSetId}
    (reason : Str) (mono : MonotonicNs) (wall : WallNs) {set : ReplicaSetState}
    (known : ctrl.sets[setId]? = some set) (found : ctrl.replicas[failed]? = some r)
    (inSet : r.setId = setId) :
    ∃ record, (ctrl.triggerFailover fresh setId failed reason mono wall).2.failovers =
        ctrl.failovers ++ [record] ∧ record.failedReplica = failed ∧
      (.ambiguous ∈ record.ambiguousOutcomes ↔ r.activeRequests ≠ 0) := by
  have surfaces : WorkOutcome.ambiguous ∈
      (if (r.failedOver reason).activeRequests > 0 then [WorkOutcome.ambiguous] else []) ↔
        r.activeRequests ≠ 0 := by
    have kept : (r.failedOver reason).activeRequests = r.activeRequests := rfl
    rw [kept]
    split_ifs with positive
    · simpa using UInt64.pos_iff_ne_zero.mp positive
    · simpa [UInt64.pos_iff_ne_zero] using positive
  simp only [triggerFailover, known, found]
  rw [if_neg (not_not.mpr inSet)]
  split
  · exact ⟨_, rfl, rfl, surfaces⟩
  · refine ⟨_, (deriveSetLifecycle_failovers ..).trans rfl, rfl, surfaces⟩

theorem busy_step {setId : ReplicaSetId} (busy : ctrl.Busy id setId) (call : Call)
    (keeps : ∀ r, ctrl.replicas[id]? = some r → ¬ctrl.ResetsWork id r call.op) :
    (ctrl.step call).2.Busy id setId := by
  obtain ⟨⟨r, found, inSet, active⟩, set, known⟩ := busy
  have change := ctrl.replicaStep call.op call.fresh id
  rw [found] at change
  obtain ⟨r', post⟩ := change.exists_some
  rw [post] at change
  have carried : (call.op.apply call.fresh ctrl).1.isOk = true → call.op.provisions id = false := by
    intro accepted
    by_contra provisions
    rw [Bool.not_eq_false] at provisions
    obtain ⟨setId, worker, compat, device, capacity, mono, wall, set, reg, gate, rfl⟩ :=
      change.of_provisions accepted provisions
    exact keeps r found (resets_of_reset found active post active.symm).2
  obtain ⟨lifecycle, known'⟩ := sets_persist call.op call.fresh known
  refine ⟨⟨r', post, ?_, ?_⟩, _, known'⟩
  · exact (congrArg Incarnation.setId (change.incarnation carried)).trans inSet
  · intro none
    exact keeps r found (resets_of_reset found active post (by rw [none]; exact active.symm)).2

theorem idle_step (idle : ctrl.Idle id) (call : Call) : (ctrl.step call).2.Idle id := by
  obtain ⟨r, found, none⟩ := idle
  have change := ctrl.replicaStep call.op call.fresh id
  rw [found] at change
  obtain ⟨r', post⟩ := change.exists_some
  rw [post] at change
  refine ⟨r', post, ?_⟩
  rcases change.activeRequests with same | ⟨reset, -⟩
  · exact same.trans none
  · exact reset

/-- Work in flight stays in flight exactly while no step resets the counter; then it is gone for
good. -/
theorem busy_run {setId : ReplicaSetId} (busy : ctrl.Busy id setId) (calls : List Call) :
    (KeepsWork id ctrl calls ∧ (Machine.run step ctrl calls).Busy id setId) ∨
      (¬KeepsWork id ctrl calls ∧ (Machine.run step ctrl calls).Idle id) := by
  induction calls generalizing ctrl with
  | nil => exact Or.inl ⟨trivial, busy⟩
  | cons call calls ih =>
      by_cases keeps : ∀ r, ctrl.replicas[id]? = some r → ¬ctrl.ResetsWork id r call.op
      · rcases ih (busy_step busy call keeps) with ⟨later, still⟩ | ⟨later, idle⟩
        · exact Or.inl ⟨⟨keeps, later⟩, still⟩
        · exact Or.inr ⟨fun kept => later kept.2, idle⟩
      · refine Or.inr ⟨fun kept => keeps kept.1, ?_⟩
        simp only [not_forall, not_not] at keeps
        obtain ⟨r, found, resets⟩ := keeps
        have idle : (ctrl.step call).2.Idle id := (reset_of_resets call.fresh found resets).1
        have always : Machine.Throughout step (Idle · id) (ctrl.step call).2 calls :=
          Machine.throughout_of_step calls (fun _ call now => idle_step now call) idle
        exact always.last

theorem failoverSurfaces_iff {setId : ReplicaSetId} (busy : ctrl.Busy id setId)
    (calls : List Call) :
    (Machine.run step ctrl calls).FailoverSurfaces id
        ⟨.triggerFailover setId id reason mono wall, fresh⟩ ↔ KeepsWork id ctrl calls := by
  rcases busy_run busy calls with ⟨keeps, ⟨r, found, inSet, active⟩, set, known⟩ | ⟨lost, idle⟩
  · obtain ⟨record, appended, named, surfaces⟩ := triggerFailover_failovers fresh reason mono
      wall known found inSet
    exact iff_of_true ⟨record, appended, named, surfaces.mpr active⟩ keeps
  · refine iff_of_false ?_ lost
    rintro ⟨record, appended, -, surfaces⟩
    obtain ⟨r, found, none⟩ := idle
    rcases (Machine.run step ctrl calls).triggerFailover_cases fresh setId id reason mono wall with
      refused | ⟨set, fr, known, found', inSet⟩
    · have same : (Machine.run step ctrl calls).failovers ++ [record] = _ :=
        appended.symm.trans (congrArg failovers refused.2)
      simp at same
    · obtain rfl : r = fr := Option.some.inj (found.symm.trans found')
      obtain ⟨record', appended', -, surfaces'⟩ := triggerFailover_failovers fresh reason
        mono wall known found inSet
      have same : [record] = [record'] :=
        List.append_cancel_left (appended.symm.trans appended')
      rw [List.cons.inj same |>.1] at surfaces
      exact surfaces'.mp surfaces none

/-- In every state, work in flight is lost silently by exactly the operations that reset the
counter without a policy that allows it, and a failover surfaces the work that was in flight at the
start of a run exactly when no step of the run has reset the counter. -/
theorem work_in_flight_iff (ctrl : ReplicaSetController) :
    (∀ call, ctrl.WorkAccounted call ↔ ctrl.SparesWork call.op) ∧
    ∀ id r set, ctrl.replicas[id]? = some r → r.activeRequests ≠ 0 →
      ctrl.sets[r.setId]? = some set → ∀ calls fresh reason mono wall,
        ((Machine.run step ctrl calls).FailoverSurfaces id
          ⟨.triggerFailover r.setId id reason mono wall, fresh⟩ ↔ KeepsWork id ctrl calls) := by
  refine ⟨ctrl.workAccounted_iff, ?_⟩
  intro id r set found active known calls fresh reason mono wall
  exact failoverSurfaces_iff ⟨⟨r, found, rfl, active⟩, set, known⟩ calls

def busyPrimary : ReplicaSetController :=
  let served := Machine.run step empty Sample.serving
  { served with replicas := served.replicas.map fun _ r => { r with activeRequests := 3 } }

/-- The worker of a serving replica with three requests in flight restarts: the counter is reset,
nothing is recorded, and the failover that follows reports no ambiguous outcome. -/
theorem busyPrimary_restart_drops :
    ¬busyPrimary.WorkAccounted (Sample.register 1 2) ∧
    ¬(Machine.run step busyPrimary [Sample.register 1 2]).FailoverSurfaces ⟨0, 1⟩
      ⟨.triggerFailover Sample.setId ⟨0, 1⟩ "restarted" 0 0, Sample.freshAt 0⟩ := by
  have entry : busyPrimary.replicas[(⟨0, 1⟩ : ReplicaId)]?.map (fun r =>
      (r.activeRequests, r.setId, r.workerId, r.lifecycle)) =
        some (3, Sample.setId, ⟨0, 1⟩, .serving) := by decide
  have restarts : busyPrimary.restarts (Sample.worker 1 2) = true := by decide
  have known : (busyPrimary.sets[Sample.setId]?).isSome = true := by decide
  obtain ⟨r, found, fields⟩ := Option.map_eq_some_iff.mp entry
  simp only [Prod.mk.injEq] at fields
  obtain ⟨active, inSet, host, serving⟩ := fields
  obtain ⟨set, known⟩ := Option.isSome_iff_exists.mp known
  have busy : r.activeRequests ≠ 0 := by rw [active]; decide
  have resets : busyPrimary.ResetsWork ⟨0, 1⟩ r (Sample.register 1 2).op :=
    ⟨restarts, host, serving⟩
  constructor
  · intro accounted
    exact (busyPrimary.workAccounted_iff _).mp accounted ⟨0, 1⟩ r found busy resets
  · intro surfaces
    have kept := (failoverSurfaces_iff ⟨⟨r, found, inSet, busy⟩, set, known⟩ _).mp surfaces
    exact kept.1 r found resets

end ReplicaFabric.ReplicaSetController
