import ReplicaFabric.Safety.Selection
import ReplicaFabric.Safety.SinglePrimary
import ReplicaFabric.Safety.Grants

/-!
# Retried failovers

A failover leaves its replacement among the candidates, where it now ranks as a primary. A second
failover of the same replica selects it again, or else the runner-up, which then serves beside it.
-/

namespace ReplicaFabric.ReplicaSetController

variable {ctrl next : ReplicaSetController} {set : ReplicaSetState} {setId : ReplicaSetId}
  {failed : ReplicaId} {fr : ReplicaState} {failedWorker : WorkerId} {c d e : Candidate}

def rankedAsPrimary (c : Candidate) : Candidate := (c.1, { c.2 with promotion := .primary })

structure RunnerUp (ctrl : ReplicaSetController) (set : ReplicaSetState) (setId : ReplicaSetId)
    (failed : ReplicaId) (failedWorker : WorkerId) (c d : Candidate) : Prop where
  eligible : Eligible ctrl set setId failed d
  other : d.1 ≠ c.1
  least : ∀ e, Eligible ctrl set setId failed e → e.1 ≠ c.1 → e ≠ d →
    Precedes set.policies.failover failedWorker d e

/-- If the runner-up precedes the replacement once that is primary, it holds authority already. -/
def RetryKeeps (ctrl : ReplicaSetController) (setId : ReplicaSetId) (failed : ReplicaId) : Prop :=
  ∀ set fr c d, ctrl.sets[setId]? = some set → ctrl.replicas[failed]? = some fr →
    fr.setId = setId → LeastEligible ctrl set setId failed fr.workerId c →
    RunnerUp ctrl set setId failed fr.workerId c d →
    Precedes set.policies.failover fr.workerId d (rankedAsPrimary c) →
    d.2.servingEligible = true

structure Replaced (ctrl next : ReplicaSetController) (set : ReplicaSetState)
    (setId : ReplicaSetId) (failed : ReplicaId) (fr : ReplicaState) (c : Candidate) : Prop where
  chosen : LeastEligible ctrl set setId failed fr.workerId c
  granted : ∃ fresh, next.replicas[c.1]? = some (c.2.madePrimary fresh)
  stripped : ∃ reason, next.replicas[failed]? = some (fr.failedOver reason)
  others : ∀ id, id ≠ c.1 → id ≠ failed → next.replicas[id]? = ctrl.replicas[id]?
  known : ∃ lifecycle, next.sets[setId]? = some { set with lifecycle := lifecycle }

theorem triggerFailover_replaced (fresh : FreshIds) (reason : Str) (mono : MonotonicNs)
    (wall : WallNs) (known : ctrl.sets[setId]? = some set)
    (found : ctrl.replicas[failed]? = some fr) (inSet : fr.setId = setId) :
    let outcome := ctrl.triggerFailover fresh setId failed reason mono wall
    (outcome.1.isOk = false ∧ ∀ c, ¬Eligible ctrl set setId failed c) ∨
      outcome.1.isOk = true ∧ ∃ c, Replaced ctrl outcome.2 set setId failed fr c := by
  intro outcome
  obtain ⟨record, ⟨none, notOk, -⟩ | ⟨chosen, r, pr, selected, -, ok, same⟩⟩ :=
    triggerFailover_known fresh reason mono wall known found inSet
  · refine Or.inl ⟨notOk, fun c eligible => ?_⟩
    obtain ⟨foundC, candidate⟩ := eligible_iff.mp eligible
    cases (none c foundC).symm.trans candidate
  · have least := selected.leastEligible
    have entry (id : ReplicaId) : outcome.2.replicas[id]? =
        if chosen = id then some (r.madePrimary fresh)
        else if failed = id then some (fr.failedOver reason) else ctrl.replicas[id]? :=
      replaced_get same id
    refine Or.inr ⟨ok, (chosen, r), ?_⟩
    exact {
      chosen := least
      granted := ⟨fresh, (entry chosen).trans (if_pos rfl)⟩
      stripped := by
        refine ⟨reason, (entry failed).trans ?_⟩
        rw [if_neg least.eligible.other, if_pos rfl]
      others := fun id notChosen notFailed => by
        rw [entry, if_neg (Ne.symm notChosen), if_neg (Ne.symm notFailed)]
      known := by
        simp only [outcome, same]
        refine Exists.imp (fun _ written => And.left written) (deriveSetLifecycle_set setId ?_)
        exact known }

theorem Replaced.holds (replaced : Replaced ctrl next set setId failed fr c) (id : ReplicaId) :
    next.Holds setId id ↔ id = c.1 ∨ id ≠ failed ∧ ctrl.Holds setId id := by
  obtain ⟨fresh, granted⟩ := replaced.granted
  obtain ⟨reason, stripped⟩ := replaced.stripped
  by_cases isChosen : id = c.1
  · subst isChosen
    exact iff_of_true ⟨_, granted, replaced.chosen.eligible.member, rfl⟩ (Or.inl rfl)
  by_cases isFailed : id = failed
  · subst isFailed
    rw [holds_iff stripped]
    simp [isChosen, ReplicaState.failedOver, ReplicaState.loseAuthority]
  · simp [Holds, replaced.others id isChosen isFailed, isChosen, isFailed]

theorem Replaced.eligible_again (replaced : Replaced ctrl next set setId failed fr c)
    {lifecycle : ReplicaSetLifecycle} (other : e.1 ≠ c.1) :
    Eligible next { set with lifecycle := lifecycle } setId failed e ↔
      Eligible ctrl set setId failed e := by
  rw [eligible_iff, eligible_iff]
  by_cases isFailed : e.1 = failed
  · refine iff_of_false ?_ ?_ <;> exact fun eligible => isCandidate_ne_failed eligible.2 isFailed.symm
  · rw [replaced.others e.1 other isFailed]
    exact Iff.rfl

theorem Replaced.eligible_chosen (replaced : Replaced ctrl next set setId failed fr c)
    (lifecycle : ReplicaSetLifecycle) {r : ReplicaState} (found : next.replicas[c.1]? = some r) :
    Eligible next { set with lifecycle := lifecycle } setId failed (c.1, r) := by
  obtain ⟨fresh, granted⟩ := replaced.granted
  obtain rfl : r = c.2.madePrimary fresh := Option.some.inj (found.symm.trans granted)
  have before := replaced.chosen.eligible
  exact { before with found := found, lifecycle := Or.inr rfl }

theorem precedes_rankedAsPrimary {pol : FailoverPolicy} {fresh : FreshIds} :
    Precedes pol failedWorker d (c.1, c.2.madePrimary fresh) ↔
      Precedes pol failedWorker d (rankedAsPrimary c) :=
  Iff.rfl

theorem Replaced.again {last : ReplicaSetController} {lifecycle : ReplicaSetLifecycle}
    {reason : Str} (replaced : Replaced ctrl next set setId failed fr c)
    (again : Replaced next last { set with lifecycle := lifecycle } setId failed
      (fr.failedOver reason) d) :
    (d.1 = c.1 ∨ ctrl.Holds setId d.1) ↔
      ∀ e, RunnerUp ctrl set setId failed fr.workerId c e →
        Precedes set.policies.failover fr.workerId e (rankedAsPrimary c) →
        e.2.servingEligible = true := by
  obtain ⟨fresh, granted⟩ := replaced.granted
  have chosen := replaced.eligible_chosen lifecycle granted
  constructor
  · intro holds e runnerUp before
    have least : LeastEligible next { set with lifecycle := lifecycle } setId failed fr.workerId
        e := by
      refine ⟨(replaced.eligible_again runnerUp.other).mpr runnerUp.eligible, fun x found ne => ?_⟩
      by_cases isChosen : x.1 = c.1
      · have same := found.found
        rw [isChosen, granted] at same
        obtain rfl : x = (c.1, c.2.madePrimary fresh) :=
          Prod.ext isChosen (Option.some.inj same).symm
        exact before
      · exact runnerUp.least x ((replaced.eligible_again isChosen).mp found) isChosen ne
    obtain rfl : d = e := least.unique again.chosen
    exact ((holds_iff runnerUp.eligible.found).mp (holds.resolve_left runnerUp.other)).2
  · intro keeps
    by_contra neither
    obtain ⟨other, notHeld⟩ := not_or.mp neither
    have eligible := (replaced.eligible_again other).mp again.chosen.eligible
    refine notHeld ⟨d.2, eligible.found, eligible.member, keeps d ⟨eligible, other, ?_⟩ ?_⟩
    · exact fun x found notChosen ne =>
        again.chosen.least x ((replaced.eligible_again notChosen).mpr found) ne
    · refine precedes_rankedAsPrimary.mp (again.chosen.least _ chosen fun same => other ?_)
      exact (congrArg Prod.fst same).symm

theorem retryKeeps_iff (known : ctrl.sets[setId]? = some set)
    (found : ctrl.replicas[failed]? = some fr) (inSet : fr.setId = setId) :
    RetryKeeps ctrl setId failed ↔
      ∀ c d, LeastEligible ctrl set setId failed fr.workerId c →
        RunnerUp ctrl set setId failed fr.workerId c d →
        Precedes set.policies.failover fr.workerId d (rankedAsPrimary c) →
        d.2.servingEligible = true := by
  constructor
  · exact fun keeps c d => keeps set fr c d known found inSet
  · intro keeps set' fr' c d known' found' _
    obtain rfl := Option.some.inj (known.symm.trans known')
    obtain rfl := Option.some.inj (found.symm.trans found')
    exact keeps c d

theorem retryKeeps_of_unranked
    (unranked : ∀ set, ctrl.sets[setId]? = some set →
      set.policies.failover.preferStandbyFirst = false) : RetryKeeps ctrl setId failed := by
  intro set fr c d known found inSet least runnerUp before
  have sameRank : rankKey set.policies.failover (rankedAsPrimary c) =
      rankKey set.policies.failover c := by
    simp [rankKey, unranked set known]
  have after : Precedes set.policies.failover fr.workerId d c := by
    unfold Precedes at before ⊢
    rw [sameRank] at before
    exact before
  have first := least.least d runnerUp.eligible fun same => runnerUp.other (congrArg Prod.fst same)
  exact absurd (trans_of (Precedes set.policies.failover fr.workerId) first after) (irrefl_of _ c)

theorem retry_keeps_iff (ctrl : ReplicaSetController) (setId : ReplicaSetId) (failed : ReplicaId)
    (fresh fresh' : FreshIds) (reason reason' : Str) (mono mono' : MonotonicNs)
    (wall wall' : WallNs) :
    let first := ctrl.triggerFailover fresh setId failed reason mono wall
    let retried := first.2.triggerFailover fresh' setId failed reason' mono' wall'
    (first.1.isOk = true → ∀ id, retried.2.Holds setId id ↔ first.2.Holds setId id) ↔
      RetryKeeps ctrl setId failed := by
  intro first retried
  by_cases exists_known : ∃ set fr, ctrl.sets[setId]? = some set ∧
      ctrl.replicas[failed]? = some fr ∧ fr.setId = setId
  · obtain ⟨set, fr, known, found, inSet⟩ := exists_known
    rw [retryKeeps_iff known found inSet]
    rcases triggerFailover_replaced fresh reason mono wall known found inSet with
      ⟨notOk, none⟩ | ⟨ok, c, replaced⟩
    · refine iff_of_true (fun ok => by cases notOk.symm.trans ok) fun c d least => ?_
      exact absurd least.eligible (none c)
    · obtain ⟨lifecycle, knownAgain⟩ := replaced.known
      obtain ⟨reason, stripped⟩ := replaced.stripped
      obtain ⟨fresh, granted⟩ := replaced.granted
      rcases triggerFailover_replaced fresh' reason' mono' wall' knownAgain stripped inSet with
        ⟨-, none⟩ | ⟨-, d, again⟩
      · exact absurd (replaced.eligible_chosen _ granted) (none _)
      have unchanged : (first.1.isOk = true → ∀ id, retried.2.Holds setId id ↔
          first.2.Holds setId id) ↔ first.2.Holds setId d.1 := by
        constructor
        · exact fun same => (same ok d.1).mp ((again.holds d.1).mpr (Or.inl rfl))
        · intro held _ id
          rw [again.holds]
          constructor
          · rintro (rfl | ⟨-, holds⟩)
            · exact held
            · exact holds
          · intro holds
            by_cases isFailed : id = failed
            · subst isFailed
              cases ((holds_iff stripped).mp holds).2
            · exact Or.inr ⟨isFailed, holds⟩
      rw [unchanged, replaced.holds, and_iff_right again.chosen.eligible.other,
        replaced.again again]
      constructor
      · intro keeps c' e least
        obtain rfl := replaced.chosen.unique least
        exact keeps e
      · exact fun keeps e => keeps c e replaced.chosen
  · rcases ctrl.triggerFailover_cases fresh setId failed reason mono wall with
      refused | exists_known'
    · refine iff_of_true (fun ok => by cases refused.1.symm.trans ok) ?_
      exact fun set fr c d known found inSet => absurd ⟨set, fr, known, found, inSet⟩ exists_known
    · exact absurd exists_known' exists_known

def standBy (id : ReplicaId) : Call :=
  ⟨.promoteReplica id .standby ⟨0, 1⟩ ⟨0, 1⟩ 0 0, Sample.freshAt 0⟩

def twoStandbys : List Call :=
  Sample.serving ++ Sample.bringUp ⟨0, 2⟩ ++ Sample.bringUp ⟨0, 3⟩ ++
    [standBy ⟨0, 2⟩, standBy ⟨0, 3⟩]

/-- The first failover promotes one of two standby replicas, and its retry the other. -/
theorem twoStandbys_both_promoted :
    ¬∀ (ctrl : ReplicaSetController) (setId : ReplicaSetId) (failed : ReplicaId)
      (fresh fresh' : FreshIds) (reason reason' : Str) (mono mono' : MonotonicNs)
      (wall wall' : WallNs),
      let first := ctrl.triggerFailover fresh setId failed reason mono wall
      let retried := first.2.triggerFailover fresh' setId failed reason' mono' wall'
      first.1.isOk = true → ∀ id, retried.2.Holds setId id ↔ first.2.Holds setId id := by
  intro keeps
  have same := keeps (Machine.run step empty twoStandbys) Sample.setId ⟨0, 1⟩ (Sample.freshAt 3)
    (Sample.freshAt 4) "gone" "gone" 0 0 0 0 (by decide +kernel) ⟨0, 3⟩
  have promoted := Option.map_eq_some_iff.mp (by decide +kernel :
    ((((Machine.run step empty twoStandbys).triggerFailover (Sample.freshAt 3) Sample.setId ⟨0, 1⟩
      "gone" 0 0).2.triggerFailover (Sample.freshAt 4) Sample.setId ⟨0, 1⟩ "gone" 0
      0).2.replicas[(⟨0, 3⟩ : ReplicaId)]?.map fun r => (r.setId, r.servingEligible)) =
      some (Sample.setId, true))
  have standing := Option.map_eq_some_iff.mp (by decide +kernel :
    ((Machine.run step empty twoStandbys).triggerFailover (Sample.freshAt 3) Sample.setId ⟨0, 1⟩
      "gone" 0 0).2.replicas[(⟨0, 3⟩ : ReplicaId)]?.map (·.servingEligible) = some false)
  obtain ⟨r, found, fields⟩ := promoted
  obtain ⟨inSet, flagged⟩ := Prod.mk.inj fields
  obtain ⟨r', found', -, flagged'⟩ := same.mp ⟨r, found, inSet, flagged⟩
  obtain ⟨r'', found'', unflagged⟩ := standing
  obtain rfl := Option.some.inj (found'.symm.trans found'')
  cases flagged'.symm.trans unflagged

end ReplicaFabric.ReplicaSetController
