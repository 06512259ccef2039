import ReplicaFabric.Controller.Authority
import ReplicaFabric.Controller.Reports

/-!
# Loss of health

A report of `FAILED` or `UNHEALTHY` health strips a serving replica of its authority, which then
only a grant gives back. One of `UNKNOWN`, `STARTING` or `QUARANTINED` health leaves the flag set,
and the next healthy report returns the replica to service.
-/

namespace ReplicaFabric

/-- The state does not pass the serving gate, and a report of it takes no authority away. -/
def HealthState.Masks (h : HealthState) : Prop :=
  h = .unknown ∨ h = .starting ∨ h = .quarantined

instance (h : HealthState) : Decidable h.Masks :=
  inferInstanceAs (Decidable (_ ∨ _ ∨ _))

theorem HealthState.strips_of_not_masks {h : HealthState}
    (unhealthy : ¬(h = .healthy ∨ h = .degraded)) (strips : ¬h.Masks) :
    h = .failed ∨ h = .unhealthy := by
  cases h with
  | failed => exact Or.inl rfl
  | unhealthy => exact Or.inr rfl
  | healthy => exact absurd (Or.inl rfl) unhealthy
  | degraded => exact absurd (Or.inr rfl) unhealthy
  | unknown => exact absurd (Or.inl rfl) strips
  | starting => exact absurd (Or.inr (Or.inl rfl)) strips
  | quarantined => exact absurd (Or.inr (Or.inr rfl)) strips

def Operation.Masks : Operation → Prop
  | reportHealth _ ev .. => ev.state.Masks
  | _ => False

instance (op : Operation) : Decidable op.Masks := by
  cases op <;> unfold Operation.Masks <;> infer_instance

namespace ReplicaSetController

variable {ctrl : ReplicaSetController} {id : ReplicaId} {r : ReplicaState} {ev ev' : HealthEvidence}
  {worker : WorkerId} {boot : WorkerBootId} {mono mono' : MonotonicNs}

def StripsOnLoss (ctrl : ReplicaSetController) (call : Call) : Prop :=
  ∀ (id : ReplicaId) (r : ReplicaState), call.op.reportTarget = some id →
    ctrl.replicas[id]? = some r → r.servingEligible = true → call.op.ReportGuard ctrl r →
    ¬call.op.Masks

def Unflagged (id : ReplicaId) (ctrl : ReplicaSetController) : Prop :=
  ∀ r, ctrl.replicas[id]? = some r → r.servingEligible = false

def MakesPrimary (id : ReplicaId) (e : Machine.Event ReplicaSetController Call OpResult) : Prop :=
  e.output.isOk = true ∧ e.input.op.Grants e.after id

theorem Unflagged.not_servable (unflagged : Unflagged id ctrl) : ¬ctrl.Servable id := by
  intro servable
  obtain ⟨r, set, found, -, gate⟩ := servable_iff.mp servable
  cases (unflagged r found).symm.trans gate.servingFlag

theorem Unflagged.step {call : Call} (unflagged : Unflagged id ctrl)
    (grantless : ¬MakesPrimary id (Machine.event ReplicaSetController.step ctrl call)) :
    Unflagged id (ctrl.step call).2 := by
  intro r' found
  have change := ctrl.replicaStep call.op call.fresh id
  rw [show (call.op.apply call.fresh ctrl).2.replicas[id]? = some r' from found] at change
  by_contra flagged
  rw [Bool.not_eq_false] at flagged
  obtain ⟨r, prior, -, ⟨before, -⟩ | grants⟩ := change.flag flagged
  · cases (unflagged r prior).symm.trans before
  · exact grantless grants

theorem Unflagged.of_report {next : ReplicaSetController}
    (written : next = ctrl.putReplica id (r.healthReported ev mono))
    (strips : ev.state = .failed ∨ ev.state = .unhealthy) : Unflagged id next := by
  intro r' found'
  rw [written, putReplica_here] at found'
  obtain rfl := Option.some.inj found'
  rw [← Bool.not_eq_true, ReplicaState.healthReported_flagged]
  exact fun kept => kept.2 strips

theorem putReplica_servable {set : ReplicaSetState} (known : ctrl.sets[r.setId]? = some set)
    (gate : ServingAuthority r set (ctrl.authorityContext r set)) :
    (ctrl.putReplica id r).Servable id :=
  servable_iff.mpr ⟨r, set, putReplica_here .., known, gate⟩

theorem masked_restored (servable : ctrl.Servable id)
    (found : ctrl.replicas[id]? = some r)
    (guard : (Operation.reportHealth id ev worker boot mono).ReportGuard ctrl r)
    (masks : ev.state.Masks) (healthy : ev'.state = .healthy)
    (current : ev'.generation = r.healthGeneration) :
    let masked := (ctrl.reportHealth id ev worker boot mono).2
    ¬masked.Servable id ∧ (masked.reportHealth id ev' worker boot mono').2.Servable id := by
  intro masked
  obtain ⟨r', set, found', known, gate⟩ := servable_iff.mp servable
  obtain rfl := Option.some.inj (found'.symm.trans found)
  have passing : ¬(ev.state = .failed ∨ ev.state = .unhealthy) := by
    rcases masks with state | state | state <;> rw [state] <;> nofun
  have written : masked = ctrl.putReplica id (r'.healthReported ev mono) :=
    (reportHealth_written mono found guard).2
  have entry : masked.replicas[id]? = some (r'.healthReported ev mono) := by
    rw [written]
    exact putReplica_here ..
  constructor
  · intro servable
    obtain ⟨r'', set', found'', -, gate'⟩ := servable_iff.mp servable
    obtain rfl := Option.some.inj (found''.symm.trans entry)
    have passes := gate'.health
    rw [ReplicaState.healthReported_health] at passes
    rcases masks with state | state | state <;> rw [state] at passes <;> simp at passes
  · rw [ReplicaState.healthReported_of_passing passing] at written entry
    have again := (reportHealth_written mono' entry
      ⟨guard.1, by rw [written]; exact guard.2.1, current, guard.2.2.2⟩).2
    have unfailing : ¬(ev'.state = .failed ∨ ev'.state = .unhealthy) := by
      rw [healthy]
      nofun
    rw [ReplicaState.healthReported_of_passing unfailing] at again
    rw [again, written]
    refine putReplica_servable known ?_
    exact { gate with health := Or.inl healthy }

theorem lost_health_stays_lost (start : ReplicaSetController) (earlier later : List Call)
    (fresh : FreshIds) (id : ReplicaId) (ev : HealthEvidence) (worker : WorkerId)
    (boot : WorkerBootId) (mono : MonotonicNs) (r : ReplicaState)
    (strips : Machine.Admissible step StripsOnLoss start
      (earlier ++ ⟨.reportHealth id ev worker boot mono, fresh⟩ :: later))
    (found : (Machine.run step start earlier).replicas[id]? = some r)
    (flagged : r.servingEligible = true)
    (accepted : ((Machine.run step start earlier).step
      ⟨.reportHealth id ev worker boot mono, fresh⟩).1.isOk = true)
    (unhealthy : ¬(ev.state = .healthy ∨ ev.state = .degraded))
    (grantless : ∀ e ∈ Machine.trace step ((Machine.run step start earlier).step
      ⟨.reportHealth id ev worker boot mono, fresh⟩).2 later, ¬MakesPrimary id e) :
    Machine.Throughout step (fun ctrl => ¬ctrl.Servable id)
      ((Machine.run step start earlier).step
        ⟨.reportHealth id ev worker boot mono, fresh⟩).2 later := by
  have allowed := (Machine.admissible_append.mp strips).2.1
  generalize Machine.run step start earlier = ctrl at *
  have target : (Operation.reportHealth id ev worker boot mono).reportTarget = some id := rfl
  have exactly := ctrl.report_editsWhen fresh target
  have lost : Unflagged id (ctrl.step ⟨.reportHealth id ev worker boot mono, fresh⟩).2 := by
    rcases exactly.cases with refused | ⟨r', found', guard, -, written⟩
    · cases refused.1.symm.trans accepted
    · obtain rfl := Option.some.inj (found'.symm.trans found)
      have passes := allowed id _ rfl found flagged guard
      exact .of_report written (HealthState.strips_of_not_masks unhealthy passes)
  have unflagged := Machine.throughout_of_admissible (P := Unflagged id)
    (fun _ _ before grantless => before.step grantless) lost
    (Machine.admissible_of_trace grantless)
  exact unflagged.mono fun _ => Unflagged.not_servable

def reportServing (state : HealthState) : Operation :=
  .reportHealth ⟨0, 1⟩ { state, generation := ⟨1, 0⟩ } ⟨0, 1⟩ ⟨0, 1⟩ 0

theorem lost_health_stays_lost_serving :
    Machine.Throughout step (fun ctrl => ¬ctrl.Servable ⟨0, 1⟩)
      ((Machine.run step empty Sample.serving).step ⟨reportServing .failed, Sample.freshAt 0⟩).2
      [⟨reportServing .healthy, Sample.freshAt 0⟩] := by
  have serving : (Machine.run step empty Sample.serving).replicas[(⟨0, 1⟩ : ReplicaId)]?.map
      (·.servingEligible) = some true := by decide
  obtain ⟨r, found, flagged⟩ := Option.map_eq_some_iff.mp serving
  refine lost_health_stays_lost empty Sample.serving _ (Sample.freshAt 0) ⟨0, 1⟩ _ ⟨0, 1⟩ ⟨0, 1⟩ 0
    r ?_ found flagged (by decide) (by decide) (List.forall_mem_singleton.mpr fun made => made.2)
  refine (Machine.admissible_of_forall (C := fun call => ¬call.op.Masks) (by decide)).mono ?_
  exact fun _ _ unmasked _ _ _ _ _ _ => unmasked

/-- A quarantined replica keeps the flag, and serves again once it is reported healthy. -/
theorem quarantined_serves_again :
    ¬∀ (earlier later : List Call) (fresh : FreshIds) (id : ReplicaId) (ev : HealthEvidence)
      (worker : WorkerId) (boot : WorkerBootId) (mono : MonotonicNs) (r : ReplicaState),
      (Machine.run step empty earlier).replicas[id]? = some r → r.servingEligible = true →
      ((Machine.run step empty earlier).step
        ⟨.reportHealth id ev worker boot mono, fresh⟩).1.isOk = true →
      ¬(ev.state = .healthy ∨ ev.state = .degraded) →
      (∀ e ∈ Machine.trace step ((Machine.run step empty earlier).step
        ⟨.reportHealth id ev worker boot mono, fresh⟩).2 later, ¬MakesPrimary id e) →
      Machine.Throughout step (fun ctrl => ¬ctrl.Servable id)
        ((Machine.run step empty earlier).step
          ⟨.reportHealth id ev worker boot mono, fresh⟩).2 later := by
  intro stays
  have serving : (Machine.run step empty Sample.serving).replicas[(⟨0, 1⟩ : ReplicaId)]?.map
      (·.servingEligible) = some true := by decide
  obtain ⟨r, found, flagged⟩ := Option.map_eq_some_iff.mp serving
  have lost := stays Sample.serving [⟨reportServing .healthy, Sample.freshAt 0⟩] (Sample.freshAt 0)
    ⟨0, 1⟩ { state := .quarantined, generation := ⟨1, 0⟩ } ⟨0, 1⟩ ⟨0, 1⟩ 0 r found flagged
    (by decide) (by decide) (List.forall_mem_singleton.mpr fun made => made.2)
  exact lost.last (by decide)

end ReplicaSetController

end ReplicaFabric
