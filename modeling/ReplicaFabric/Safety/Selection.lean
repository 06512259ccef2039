import ReplicaFabric.Controller.Failover
import ReplicaFabric.Controller.Operation

/-!
# The outcome of a failover

What a failover does depends on the candidates and their order only. The order is strict and
compares any two replicas, so at most one candidate is the least.
-/

namespace ReplicaFabric.ReplicaSetController

variable {ctrl : ReplicaSetController} {set : ReplicaSetState} {setId : ReplicaSetId}
  {failed : ReplicaId} {failedWorker : WorkerId}

/-- By promotion rank, by whether the worker of the failed replica hosts it, by id; the first two
only as the policy asks for them. -/
def Precedes (pol : FailoverPolicy) (failedWorker : WorkerId) (a b : Candidate) : Prop :=
  rankKey pol a < rankKey pol b ∨
    (rankKey pol a = rankKey pol b ∧
      (sharedWorkerKey pol failedWorker a < sharedWorkerKey pol failedWorker b ∨
        (sharedWorkerKey pol failedWorker a = sharedWorkerKey pol failedWorker b ∧ a.1 < b.1)))

theorem precedes_iff {pol : FailoverPolicy} {a b : Candidate} :
    Precedes pol failedWorker a b ↔ candidateCmp pol failedWorker a b = .lt := by
  simp only [candidateCmp, compareLex, compareOn, Ordering.then_eq_lt, Nat.compare_eq_lt,
    Nat.compare_eq_eq]
  exact Iff.rfl

theorem sortsBefore_iff_precedes {pol : FailoverPolicy} {a b : Candidate} :
    sortsBefore pol failedWorker a b = true ↔ Precedes pol failedWorker a b :=
  (sortsBefore_iff pol failedWorker a b).trans precedes_iff.symm

instance precedes_strict (pol : FailoverPolicy) (failedWorker : WorkerId) :
    IsStrictOrder Candidate (Precedes pol failedWorker) where
  irrefl a before := by
    rw [precedes_iff] at before
    exact Std.OrientedCmp.not_lt_of_isLE Std.ReflCmp.isLE_rfl before
  trans a b c ab bc := by
    rw [precedes_iff] at ab bc ⊢
    exact Std.TransCmp.lt_trans ab bc

theorem precedes_of_not {pol : FailoverPolicy} {a b : Candidate} (other : a.1 ≠ b.1)
    (notBefore : ¬Precedes pol failedWorker b a) : Precedes pol failedWorker a b := by
  rw [precedes_iff] at notBefore ⊢
  cases order : candidateCmp pol failedWorker a b with
  | lt => rfl
  | eq =>
      have keys := (Ordering.then_eq_eq.mp (Ordering.then_eq_eq.mp order).2).2
      exact absurd (Std.LawfulEqOrd.eq_of_compare keys) other
  | gt => exact absurd (Std.OrientedCmp.gt_iff_lt.mp order) notBefore

structure Eligible (ctrl : ReplicaSetController) (set : ReplicaSetState) (setId : ReplicaSetId)
    (failed : ReplicaId) (c : Candidate) : Prop where
  found : ctrl.replicas[c.1]? = some c.2
  member : c.2.setId = setId
  other : c.1 ≠ failed
  lifecycle : c.2.lifecycle = .ready ∨ c.2.lifecycle = .serving
  readiness : c.2.readiness = .ready
  health : c.2.health = .healthy ∨ c.2.health = .degraded
  compatible : (checkCompatibility set.compatibility c.2.compatibility).compatible = true
  placement : c.2.placement = .assigned
  setGeneration : c.2.setGeneration = set.generation

theorem eligible_iff {c : Candidate} :
    Eligible ctrl set setId failed c ↔
      ctrl.replicas[c.1]? = some c.2 ∧ isCandidate set setId failed c = true := by
  rw [isCandidate_iff]
  constructor
  · rintro ⟨found, member, other, lifecycle, readiness, health, compatible, placement, generation⟩
    exact ⟨found, member, other, lifecycle, readiness, health, compatible, placement, generation⟩
  · rintro ⟨found, member, other, lifecycle, readiness, health, compatible, placement, generation⟩
    exact ⟨found, member, other, lifecycle, readiness, health, compatible, placement, generation⟩

structure LeastEligible (ctrl : ReplicaSetController) (set : ReplicaSetState)
    (setId : ReplicaSetId) (failed : ReplicaId) (failedWorker : WorkerId) (c : Candidate) :
    Prop where
  eligible : Eligible ctrl set setId failed c
  least : ∀ d, Eligible ctrl set setId failed d → d ≠ c →
    Precedes set.policies.failover failedWorker c d

theorem LeastEligible.unique {c d : Candidate}
    (first : LeastEligible ctrl set setId failed failedWorker c)
    (second : LeastEligible ctrl set setId failed failedWorker d) : d = c := by
  by_contra other
  have before := first.least d second.eligible other
  have after := second.least c first.eligible (Ne.symm other)
  exact irrefl_of (Precedes set.policies.failover failedWorker) c (trans_of _ before after)

theorem Selected.leastEligible {c : Candidate}
    (selected : Selected ctrl set setId failed failedWorker c) :
    LeastEligible ctrl set setId failed failedWorker c := by
  refine ⟨eligible_iff.mpr ⟨selected.found, selected.candidate⟩, fun d eligible other => ?_⟩
  obtain ⟨found, candidate⟩ := eligible_iff.mp eligible
  refine precedes_of_not (fun sameId => other ?_) fun before => ?_
  · rw [← sameId, selected.found] at found
    exact Prod.ext sameId.symm (Option.some.inj found).symm
  · rw [← sortsBefore_iff_precedes, selected.first d found candidate] at before
    cases before

structure WithoutAuthority (ctrl : ReplicaSetController) (id : ReplicaId) (r : ReplicaState) :
    Prop where
  found : ctrl.replicas[id]? = some r
  servingEligible : r.servingEligible = false
  promotion : r.promotion = .notPromoted
  role : r.role = .none
  health : r.health = .failed
  lifecycle : r.lifecycle ≠ .serving
  notServable : ¬ctrl.Servable id

structure FailoverRefused (ctrl : ReplicaSetController) (failed : ReplicaId)
    (outcome : OpResult × ReplicaSetController) : Prop where
  rejected : ∃ message, outcome.1 = .rejected message
  recorded : ∃ record, record.state = .failed ∧ record.failedReplica = failed ∧
    outcome.2.failovers = ctrl.failovers ++ [record]
  promotions : outcome.2.promotions = ctrl.promotions
  others : ∀ id, id ≠ failed → outcome.2.replicas[id]? = ctrl.replicas[id]?

structure FailoverCompleted (ctrl : ReplicaSetController) (fresh : FreshIds)
    (failed chosen : ReplicaId) (outcome : OpResult × ReplicaSetController) : Prop where
  accepted : outcome.1.isOk = true
  recorded : ∃ record, record.state = .complete ∧ record.failedReplica = failed ∧
    record.replacement = chosen ∧ outcome.2.failovers = ctrl.failovers ++ [record]
  promotions : ∃ record, record.replicaId = chosen ∧ record.target = .primary ∧
    outcome.2.promotions = ctrl.promotions ++ [record]
  granted : ∃ r, outcome.2.replicas[chosen]? = some r ∧ r.lifecycle = .serving ∧
    r.promotion = .primary ∧ r.role = .primary ∧ r.servingEligible = true ∧
    r.healthGeneration = fresh.healthGeneration
  others : ∀ id, id ≠ failed → id ≠ chosen → outcome.2.replicas[id]? = ctrl.replicas[id]?

theorem failedOver_withoutAuthority {next : ReplicaSetController} {fr : ReplicaState} {reason : Str}
    (found : next.replicas[failed]? = some (fr.failedOver reason)) :
    WithoutAuthority next failed (fr.failedOver reason) where
  found := found
  servingEligible := rfl
  promotion := rfl
  role := rfl
  health := rfl
  lifecycle := by
    unfold ReplicaState.failedOver
    dsimp only
    split_ifs with fails
    · nofun
    · intro serving
      exact fails ⟨by rw [serving]; nofun, by rw [serving]; rfl⟩
  notServable := by
    intro servable
    obtain ⟨r, s, found', -, authority⟩ := servable_iff.mp servable
    obtain rfl : r = fr.failedOver reason := Option.some.inj (found'.symm.trans found)
    cases authority.servingFlag

theorem failover_selection (fresh : FreshIds) (setId : ReplicaSetId) (failed : ReplicaId)
    (reason : Str) (mono : MonotonicNs) (wall : WallNs) (set : ReplicaSetState) (fr : ReplicaState)
    (known : ctrl.sets[setId]? = some set) (found : ctrl.replicas[failed]? = some fr)
    (inSet : fr.setId = setId) :
    let outcome := ctrl.triggerFailover fresh setId failed reason mono wall
    (∃ f, WithoutAuthority outcome.2 failed f) ∧
      ((∀ c, ¬Eligible ctrl set setId failed c) → FailoverRefused ctrl failed outcome) ∧
      ((∃ c, Eligible ctrl set setId failed c) → ∃ c,
        (∀ d, LeastEligible ctrl set setId failed fr.workerId d ↔ d = c) ∧
          FailoverCompleted ctrl fresh failed c.1 outcome) := by
  intro outcome
  rcases triggerFailover_outcome fresh reason mono wall known found inSet with
    ⟨record, ⟨none, state, names, same⟩ |
      ⟨chosen, r, selected, replacement, state, names, same⟩⟩
  · have entry (id : ReplicaId) : outcome.2.replicas[id]? =
        if failed = id then some (fr.failedOver reason) else ctrl.replicas[id]? := by
      simp only [outcome, same]
      exact putReplica_get ..
    refine ⟨⟨_, failedOver_withoutAuthority ((entry failed).trans (if_pos rfl))⟩, fun _ => ?_, ?_⟩
    · refine ⟨⟨_, congrArg Prod.fst same⟩, ⟨record, state, names, ?_⟩, ?_, fun id other => ?_⟩
      · exact congrArg (·.2.failovers) same
      · exact congrArg (·.2.promotions) same
      · exact (entry id).trans (if_neg (Ne.symm other))
    · rintro ⟨c, eligible⟩
      obtain ⟨found', candidate⟩ := eligible_iff.mp eligible
      cases (none c found').symm.trans candidate
  · have least := selected.leastEligible
    have entry (id : ReplicaId) : outcome.2.replicas[id]? =
        if chosen = id then some (r.madePrimary fresh)
        else if failed = id then some (fr.failedOver reason) else ctrl.replicas[id]? :=
      replaced_get (congrArg Prod.snd same) id
    have stripped : outcome.2.replicas[failed]? = some (fr.failedOver reason) := by
      rw [entry, if_neg least.eligible.other, if_pos rfl]
    refine ⟨⟨_, failedOver_withoutAuthority stripped⟩, fun none => ?_, fun _ => ?_⟩
    · exact absurd least.eligible (none _)
    refine ⟨(chosen, r), fun d => ⟨least.unique, fun same => same ▸ least⟩, ?_⟩
    exact {
      accepted := congrArg (·.1.isOk) same
      recorded := by
        refine ⟨record, state, names, replacement, ?_⟩
        exact (congrArg (·.2.failovers) same).trans (deriveSetLifecycle_failovers ..)
      promotions := by
        refine ⟨ctrl.failoverPromotion fresh setId chosen r mono wall, rfl, rfl, ?_⟩
        exact (congrArg (·.2.promotions) same).trans (deriveSetLifecycle_promotions ..)
      granted := ⟨_, (entry chosen).trans (if_pos rfl), rfl, rfl, rfl, rfl, rfl⟩
      others := fun id notFailed notChosen => by
        rw [entry, if_neg (Ne.symm notChosen), if_neg (Ne.symm notFailed)] }

theorem failover_selection_standby :
    let ctrl := Machine.run step empty (Sample.serving ++ Sample.bringUp ⟨0, 2⟩)
    ∃ chosen, FailoverCompleted ctrl (Sample.freshAt 3) ⟨0, 1⟩ chosen
      (ctrl.triggerFailover (Sample.freshAt 3) Sample.setId ⟨0, 1⟩ "worker lost" 0 0) := by
  intro ctrl
  have member : ctrl.replicas[(⟨0, 1⟩ : ReplicaId)]?.map (·.setId) = some Sample.setId := by
    decide +kernel
  have created : ctrl.sets[Sample.setId]?.isSome = true := by decide +kernel
  have accepted : (ctrl.triggerFailover (Sample.freshAt 3) Sample.setId ⟨0, 1⟩ "worker lost" 0
      0).1.isOk = true := by decide +kernel
  obtain ⟨fr, found, inSet⟩ := Option.map_eq_some_iff.mp member
  obtain ⟨set, known⟩ := Option.isSome_iff_exists.mp created
  have selection := failover_selection (Sample.freshAt 3) Sample.setId ⟨0, 1⟩ "worker lost" 0 0
    set fr known found inSet
  by_cases some : ∃ c, Eligible ctrl set Sample.setId ⟨0, 1⟩ c
  · obtain ⟨c, -, completed⟩ := selection.2.2 some
    exact ⟨c.1, completed⟩
  · obtain ⟨message, rejected⟩ := (selection.2.1 (not_exists.mp some)).rejected
    rw [rejected] at accepted
    cases accepted

end ReplicaFabric.ReplicaSetController
