import ReplicaFabric.Controller.Cases

/-!
# What the edits of a replica keep

Which fields each edit leaves alone, and that no edit separates the serving flag from the
promotion, the role and the lifecycle.
-/

namespace ReplicaFabric

/-- What identifies one incarnation of a replica. Only provisioning writes it. -/
structure Incarnation where
  id : ReplicaId
  setId : ReplicaSetId
  generation : ReplicaGeneration
  workerId : WorkerId
  bootId : WorkerBootId
  deriving DecidableEq

namespace ReplicaState

variable {r : ReplicaState}

def incarnation (r : ReplicaState) : Incarnation :=
  ⟨r.id, r.setId, r.generation, r.workerId, r.bootId⟩

@[simp] theorem afterRestart_incarnation (worker : WorkerId) :
    (r.afterRestart worker).incarnation = r.incarnation := by
  unfold afterRestart
  split <;> rfl

@[simp] theorem afterDisconnect_incarnation (worker : WorkerId) :
    (r.afterDisconnect worker).incarnation = r.incarnation := by
  unfold afterDisconnect
  split <;> rfl

@[simp] theorem allocated_incarnation (placementId : PlacementId) :
    (r.allocated placementId).incarnation = r.incarnation := rfl

@[simp] theorem started_incarnation (mono : MonotonicNs) (wall : WallNs) :
    (r.started mono wall).incarnation = r.incarnation := rfl

@[simp] theorem warmed_incarnation (warm : WarmingRecord) (mono : MonotonicNs) :
    (r.warmed warm mono).incarnation = r.incarnation := rfl

@[simp] theorem healthReported_incarnation (ev : HealthEvidence) (mono : MonotonicNs) :
    (r.healthReported ev mono).incarnation = r.incarnation := by
  unfold healthReported
  dsimp only
  split <;> rfl

@[simp] theorem readinessReported_incarnation (rr : ReadinessRecord) :
    (r.readinessReported rr).incarnation = r.incarnation := rfl

@[simp] theorem madePrimary_incarnation (fresh : FreshIds) :
    (r.madePrimary fresh).incarnation = r.incarnation := rfl

@[simp] theorem madeSecondary_incarnation (target : PromotionState) :
    (r.madeSecondary target).incarnation = r.incarnation := rfl

@[simp] theorem drained_incarnation : r.drained.incarnation = r.incarnation := rfl

@[simp] theorem quiesced_incarnation : r.quiesced.incarnation = r.incarnation := rfl

@[simp] theorem failing_incarnation (reason : Str) (mono : MonotonicNs) :
    (r.failing reason mono).incarnation = r.incarnation := rfl

@[simp] theorem retired_incarnation : r.retired.incarnation = r.incarnation := rfl

@[simp] theorem failedOver_incarnation (reason : Str) :
    (r.failedOver reason).incarnation = r.incarnation := rfl

def host (r : ReplicaState) : WorkerId × WorkerBootId := (r.workerId, r.bootId)

theorem host_eq_of_incarnation {r' : ReplicaState} (same : r'.incarnation = r.incarnation) :
    r'.host = r.host :=
  congrArg (fun life : Incarnation => (life.workerId, life.bootId)) same

theorem afterRestart_flagged {worker : WorkerId} :
    (r.afterRestart worker).servingEligible = true ↔
      r.servingEligible = true ∧ ¬(r.workerId = worker ∧ r.lifecycle = .serving) := by
  unfold afterRestart
  split
  · next restarted => simp [restarted, loseAuthority]
  · next elsewhere => simp [elsewhere]

theorem afterDisconnect_flagged {worker : WorkerId} :
    (r.afterDisconnect worker).servingEligible = true ↔
      r.servingEligible = true ∧ r.workerId ≠ worker := by
  unfold afterDisconnect
  split
  · next gone => simp [gone, loseAuthority]
  · next elsewhere =>
      constructor
      · intro flagged
        refine ⟨flagged, fun same => elsewhere ⟨same, ?_⟩⟩
        simp [hadAuthority, flagged]
      · exact And.left

theorem healthReported_flagged {ev : HealthEvidence} {mono : MonotonicNs} :
    (r.healthReported ev mono).servingEligible = true ↔
      r.servingEligible = true ∧ ¬(ev.state = .failed ∨ ev.state = .unhealthy) := by
  unfold healthReported
  dsimp only
  split
  · next stripped =>
      have failing : ev.state = .failed ∨ ev.state = .unhealthy := by
        simpa using (Bool.and_eq_true_iff.mp stripped).2
      simp [failing]
  · next kept =>
      constructor
      · intro flagged
        refine ⟨flagged, fun failing => kept ?_⟩
        simpa [show r.servingEligible = true from flagged] using failing
      · exact And.left

theorem healthReported_health (ev : HealthEvidence) (mono : MonotonicNs) :
    (r.healthReported ev mono).health = ev.state := by
  unfold healthReported
  dsimp only
  split <;> rfl

theorem healthReported_healthRecord (ev : HealthEvidence) (mono : MonotonicNs) :
    (r.healthReported ev mono).healthRecord = { r.healthRecord with
      state := ev.state
      kind := ev.kind
      source := ev.source
      updatedAtMono := mono
      updatedAtWall := ev.observedAtWall
      confidence := ev.confidence
      generation := ev.generation
      reason := ev.message
      consecutiveFailures :=
        if ev.state = .failed ∨ ev.state = .unhealthy then r.healthRecord.consecutiveFailures + 1
        else 0 } := by
  unfold healthReported
  dsimp only
  split <;> simp

theorem healthReported_of_passing {ev : HealthEvidence} {mono : MonotonicNs}
    (passing : ¬(ev.state = .failed ∨ ev.state = .unhealthy)) :
    r.healthReported ev mono = { r with
      health := ev.state
      healthRecord := (r.healthReported ev mono).healthRecord } := by
  have kept : ¬(r.servingEligible && (ev.state = .failed || ev.state = .unhealthy)) = true := by
    simp [not_or.mp passing]
  unfold healthReported
  dsimp only
  rw [if_neg kept]

theorem healthReported_lifecycle {ev : HealthEvidence} {mono : MonotonicNs} :
    (r.healthReported ev mono).lifecycle = r.lifecycle := by
  unfold healthReported
  dsimp only
  split <;> rfl

theorem afterRestart_terminal {worker : WorkerId} :
    (r.afterRestart worker).lifecycle.Terminal ↔
      r.lifecycle.Terminal ∨ (r.workerId = worker ∧ r.lifecycle = .serving) := by
  unfold afterRestart
  split
  · next restarted => exact iff_of_true trivial (Or.inr restarted)
  · next elsewhere => exact (or_iff_left elsewhere).symm

theorem afterDisconnect_terminal {worker : WorkerId} :
    (r.afterDisconnect worker).lifecycle.Terminal ↔
      r.lifecycle.Terminal ∨ (r.workerId = worker ∧ r.hadAuthority = true) := by
  unfold afterDisconnect
  split
  · next gone => exact iff_of_true trivial (Or.inr gone)
  · next elsewhere => exact (or_iff_left elsewhere).symm

theorem readinessReported_terminal {rr : ReadinessRecord} (ended : r.lifecycle.Terminal) :
    (r.readinessReported rr).lifecycle.Terminal := by
  have late : ¬(r.lifecycle = .warming ∨ r.lifecycle = .starting) := by
    rintro (state | state) <;> rw [state] at ended <;> exact ended
  simpa [readinessReported, not_or.mp late] using ended

theorem failedOver_terminal {reason : Str} (ended : r.lifecycle.Terminal) :
    (r.failedOver reason).lifecycle.Terminal := by
  simp only [failedOver]
  split
  · trivial
  · exact ended

end ReplicaState

namespace ReplicaSetController

theorem promoted_incarnation {r granted : ReplicaState} {target : PromotionState}
    {fresh : FreshIds} (grant : promoted r target fresh = .ok granted) :
    granted.incarnation = r.incarnation := by
  rcases promoted_ok.mp grant with ⟨-, -, rfl⟩ | ⟨-, rfl⟩
  · unfold grantedPrimary
    split <;> rfl
  · rfl

end ReplicaSetController

structure AuthorityConsistent (r : ReplicaState) : Prop where
  promotion : r.servingEligible = true ↔ r.promotion = .primary
  role : r.promotion = .primary ↔ r.role = .primary
  serving : r.servingEligible = true → r.lifecycle = .serving

namespace AuthorityConsistent

variable {r : ReplicaState}

theorem of_none (flag : r.servingEligible = false) (promotion : r.promotion ≠ .primary)
    (role : r.role ≠ .primary) : AuthorityConsistent r := by
  constructor <;> simp [flag, promotion, role]

theorem of_unchanged {r' : ReplicaState} (consistent : AuthorityConsistent r)
    (flag : r'.servingEligible = r.servingEligible) (promotion : r'.promotion = r.promotion)
    (role : r'.role = r.role)
    (lifecycle : r.lifecycle = .serving → r'.lifecycle = .serving) : AuthorityConsistent r' where
  promotion := by rw [flag, promotion]; exact consistent.promotion
  role := by rw [promotion, role]; exact consistent.role
  serving flagged := lifecycle (consistent.serving (flag ▸ flagged))

theorem not_serving (consistent : AuthorityConsistent r) (idle : r.lifecycle ≠ .serving) :
    r.servingEligible = false ∧ r.promotion ≠ .primary ∧ r.role ≠ .primary := by
  have flag : r.servingEligible ≠ true := fun flagged => idle (consistent.serving flagged)
  have promotion : r.promotion ≠ .primary := fun primary => flag (consistent.promotion.mpr primary)
  exact ⟨by simpa using flag, promotion, fun role => promotion (consistent.role.mpr role)⟩

theorem loseAuthority (reason : Str) : AuthorityConsistent (r.loseAuthority reason) :=
  of_none rfl nofun nofun

theorem afterRestart (consistent : AuthorityConsistent r) (worker : WorkerId) :
    AuthorityConsistent (r.afterRestart worker) := by
  unfold ReplicaState.afterRestart
  split
  · exact of_none rfl nofun nofun
  · exact consistent

theorem afterDisconnect (consistent : AuthorityConsistent r) (worker : WorkerId) :
    AuthorityConsistent (r.afterDisconnect worker) := by
  unfold ReplicaState.afterDisconnect
  split
  · exact of_none rfl nofun nofun
  · exact consistent

theorem of_idle {r' : ReplicaState} (consistent : AuthorityConsistent r)
    (idle : r.lifecycle ≠ .serving) (flag : r'.servingEligible = r.servingEligible)
    (promotion : r'.promotion = r.promotion) (role : r'.role = r.role) :
    AuthorityConsistent r' :=
  consistent.of_unchanged flag promotion role fun serving => absurd serving idle

theorem healthReported (consistent : AuthorityConsistent r) (ev : HealthEvidence)
    (mono : MonotonicNs) : AuthorityConsistent (r.healthReported ev mono) := by
  unfold ReplicaState.healthReported
  dsimp only
  split
  · exact of_none rfl nofun nofun
  · exact consistent.of_unchanged rfl rfl rfl fun serving => serving

theorem readinessReported (consistent : AuthorityConsistent r) (rr : ReadinessRecord) :
    AuthorityConsistent (r.readinessReported rr) := by
  refine consistent.of_unchanged rfl rfl rfl fun serving => ?_
  simp [ReplicaState.readinessReported, serving]

theorem madePrimary (fresh : FreshIds) : AuthorityConsistent (r.madePrimary fresh) :=
  ⟨iff_of_true rfl rfl, iff_of_true rfl rfl, fun _ => rfl⟩

theorem madeSecondary {target : PromotionState} (secondary : target ≠ .primary) :
    AuthorityConsistent (r.madeSecondary target) := by
  refine of_none rfl secondary ?_
  unfold ReplicaState.madeSecondary
  dsimp only
  split <;> nofun

theorem promoted {granted : ReplicaState} {target : PromotionState} {fresh : FreshIds}
    (grant : ReplicaSetController.promoted r target fresh = .ok granted) :
    AuthorityConsistent granted := by
  rcases ReplicaSetController.promoted_ok.mp grant with ⟨-, -, rfl⟩ | ⟨secondary, rfl⟩
  · unfold ReplicaSetController.grantedPrimary
    split
    · exact ⟨iff_of_true rfl rfl, iff_of_true rfl rfl, fun _ => rfl⟩
    · exact madePrimary fresh
  · exact madeSecondary secondary

theorem quiesced (consistent : AuthorityConsistent r) (draining : r.lifecycle = .draining) :
    AuthorityConsistent r.quiesced := by
  have idle : r.lifecycle ≠ .serving := by rw [draining]; nofun
  obtain ⟨-, promotion, role⟩ := consistent.not_serving idle
  exact of_none rfl promotion role

end AuthorityConsistent

namespace ReplicaLifecycle.Terminal

variable {source : ReplicaLifecycle}

theorem no_edge (ended : source.Terminal) {target : ReplicaLifecycle}
    (early : target = .allocating ∨ target = .starting ∨ target = .warming) :
    ¬source.canTransition target = true := by
  cases source <;> rcases early with rfl | rfl | rfl <;>
    simp_all [ReplicaLifecycle.Terminal, ReplicaLifecycle.canTransition]

end ReplicaLifecycle.Terminal

theorem ReplicaState.not_readyToPromote {r : ReplicaState} (ended : r.lifecycle.Terminal) :
    ¬r.readyToPromote = true := by
  simp only [readyToPromote, Bool.or_eq_true, decide_eq_true_eq]
  rintro (state | state) <;> rw [state] at ended <;> exact ended

theorem ReplicaLifecycle.not_serving_of_edge {source target : ReplicaLifecycle}
    (edge : source.canTransition target = true)
    (early : target = .allocating ∨ target = .starting ∨ target = .warming) :
    source ≠ .serving := by
  rintro rfl
  rcases early with rfl | rfl | rfl <;> cases edge

end ReplicaFabric
