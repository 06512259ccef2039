import ReplicaFabric.Controller.Cases

/-!
# Failover selection

The comparator of the candidate sort is the lexicographic order on promotion rank, shared worker
and key, so the candidate put first is the least one.
-/

namespace ReplicaFabric.ReplicaSetController

variable {ctrl : ReplicaSetController}

def rankKey (pol : FailoverPolicy) (c : Candidate) : Nat :=
  if pol.preferStandbyFirst then roleRank c.2.promotion else 0

def sharedWorkerKey (pol : FailoverPolicy) (failedWorker : WorkerId) (c : Candidate) : Nat :=
  if pol.requireDiversity ∧ c.2.workerId = failedWorker then 1 else 0

def candidateCmp (pol : FailoverPolicy) (failedWorker : WorkerId) :
    Candidate → Candidate → Ordering :=
  compareLex (compareOn (rankKey pol))
    (compareLex (compareOn (sharedWorkerKey pol failedWorker)) (compareOn Prod.fst))

instance (pol : FailoverPolicy) (failedWorker : WorkerId) :
    Std.TransCmp (candidateCmp pol failedWorker) :=
  inferInstanceAs (Std.TransCmp (compareLex _ (compareLex _ _)))

theorem sortsBefore_iff (pol : FailoverPolicy) (failedWorker : WorkerId) (a b : Candidate) :
    sortsBefore pol failedWorker a b = true ↔ candidateCmp pol failedWorker a b = .lt := by
  have byKey : (a.1 < b.1) ↔ compare a.1 b.1 = .lt := Iff.rfl
  simp only [sortsBefore, candidateCmp, compareLex, compareOn, rankKey, sharedWorkerKey,
    Ordering.then_eq_lt, Nat.compare_eq_lt, Nat.compare_eq_eq]
  by_cases standby : pol.preferStandbyFirst = true <;>
    by_cases diversity : pol.requireDiversity = true <;>
    by_cases sameRank : roleRank a.2.promotion = roleRank b.2.promotion <;>
    by_cases aShares : a.2.workerId = failedWorker <;>
    by_cases bShares : b.2.workerId = failedWorker <;>
    simp [standby, diversity, sameRank, aShares, bShares, byKey]

theorem mem_candidates {set : ReplicaSetState} {setId : ReplicaSetId} {failed : ReplicaId}
    {failedWorker : WorkerId} {c : Candidate} :
    c ∈ ctrl.candidates set setId failed failedWorker ↔
      ctrl.replicas[c.1]? = some c.2 ∧ isCandidate set setId failed c = true := by
  rw [candidates, List.mem_insertionSort, List.mem_filter]
  exact and_congr_left fun _ => Table.mem_entries ctrl.replicas

theorem candidates_head {set : ReplicaSetState} {setId : ReplicaSetId} {failed : ReplicaId}
    {failedWorker : WorkerId} {c : Candidate} {rest : List Candidate}
    (sorted : ctrl.candidates set setId failed failedWorker = c :: rest)
    {d : Candidate} (member : d ∈ ctrl.candidates set setId failed failedWorker) :
    sortsBefore set.policies.failover failedWorker d c = false := by
  let order (a b : Candidate) : Prop := ¬sortsBefore set.policies.failover failedWorker b a
  have order_iff (a b : Candidate) :
      order a b ↔ (candidateCmp set.policies.failover failedWorker a b).isLE = true := by
    simp only [order, sortsBefore_iff]
    rw [Ordering.isLE_iff_ne_gt, Std.OrientedCmp.gt_iff_lt]
  have total : Std.Total order := ⟨fun a b => by
    rw [order_iff, order_iff, ← Std.OrientedCmp.isGE_iff_isLE]
    cases candidateCmp set.policies.failover failedWorker b a <;> simp⟩
  have trans : IsTrans Candidate order := ⟨fun a b c ab bc => by
    rw [order_iff] at ab bc ⊢
    exact Std.TransCmp.isLE_trans ab bc⟩
  have pairs := List.pairwise_insertionSort order
    (ctrl.replicas.toList.filter (isCandidate set setId failed))
  change (ctrl.candidates set setId failed failedWorker).Pairwise order at pairs
  rw [sorted] at pairs member
  have before := (List.pairwise_cons.mp pairs).1
  rcases List.mem_cons.mp member with rfl | later
  · have irrefl : ¬sortsBefore set.policies.failover failedWorker d d = true := by
      rw [sortsBefore_iff]
      exact Std.OrientedCmp.not_lt_of_isLE Std.ReflCmp.isLE_rfl
    simpa using irrefl
  · simpa [order] using before d later

structure Selected (ctrl : ReplicaSetController) (set : ReplicaSetState) (setId : ReplicaSetId)
    (failed : ReplicaId) (failedWorker : WorkerId) (c : Candidate) : Prop where
  found : ctrl.replicas[c.1]? = some c.2
  candidate : isCandidate set setId failed c = true
  first : ∀ d : Candidate, ctrl.replicas[d.1]? = some d.2 →
    isCandidate set setId failed d = true →
    sortsBefore set.policies.failover failedWorker d c = false

theorem isCandidate_ne_failed {set : ReplicaSetState} {setId : ReplicaSetId} {failed : ReplicaId}
    {c : Candidate} (candidate : isCandidate set setId failed c = true) : failed ≠ c.1 := by
  simp only [isCandidate, Bool.and_eq_true, decide_eq_true_eq] at candidate
  exact fun same => candidate.1.1.1.1.1.1.2 same.symm

theorem isCandidate_iff {set : ReplicaSetState} {setId : ReplicaSetId} {failed : ReplicaId}
    {c : Candidate} :
    isCandidate set setId failed c = true ↔
      c.2.setId = setId ∧ c.1 ≠ failed ∧
      (c.2.lifecycle = .ready ∨ c.2.lifecycle = .serving) ∧ c.2.readiness = .ready ∧
      (c.2.health = .healthy ∨ c.2.health = .degraded) ∧
      (checkCompatibility set.compatibility c.2.compatibility).compatible = true ∧
      c.2.placement = .assigned ∧ c.2.setGeneration = set.generation := by
  simp [isCandidate, and_assoc]

def failoverPromotion (ctrl : ReplicaSetController) (fresh : FreshIds) (setId : ReplicaSetId)
    (chosen : ReplicaId) (r : ReplicaState) (mono : MonotonicNs) (wall : WallNs) :
    PromotionRecord where
  id := fresh.promotionId
  replicaId := chosen
  setId := setId
  replicaGeneration := r.generation
  setGeneration := r.setGeneration
  epoch := ctrl.epoch
  source := .standby
  target := .primary
  whenMono := mono
  whenWall := wall
  reason := "failover replacement"

theorem triggerFailover_outcome (fresh : FreshIds) {setId : ReplicaSetId} {failed : ReplicaId}
    (reason : Str) (mono : MonotonicNs) (wall : WallNs) {set : ReplicaSetState} {fr : ReplicaState}
    (foundSet : ctrl.sets[setId]? = some set) (foundFailed : ctrl.replicas[failed]? = some fr)
    (inSet : fr.setId = setId) :
    let outcome := ctrl.triggerFailover fresh setId failed reason mono wall
    ∃ record,
      ((∀ c : Candidate, ctrl.replicas[c.1]? = some c.2 →
            isCandidate set setId failed c = false) ∧
          record.state = .failed ∧ record.failedReplica = failed ∧
          outcome = (.rejected "no eligible replacement for failover",
            { ctrl.putReplica failed (fr.failedOver reason) with
              failovers := ctrl.failovers ++ [record] })) ∨
        ∃ chosen r, Selected ctrl set setId failed fr.workerId (chosen, r) ∧
          record.replacement = chosen ∧ record.state = .complete ∧
          record.failedReplica = failed ∧
          outcome = (.ok ("failover completed; promoted " ++ chosen.str), deriveSetLifecycle
            { (ctrl.putReplica failed (fr.failedOver reason)).putReplica chosen
                (r.madePrimary fresh) with
              failovers := ctrl.failovers ++ [record]
              promotions := ctrl.promotions ++
                [ctrl.failoverPromotion fresh setId chosen r mono wall] } setId set setId) := by
  intro outcome
  simp only [outcome, triggerFailover, foundSet, foundFailed]
  rw [if_neg (not_not.mpr inSet)]
  -- Failing the replica leaves the candidates as they were: it is none of them.
  have unaffected (c : Candidate) (candidate : isCandidate set setId failed c = true) :
      (ctrl.putReplica failed (fr.failedOver reason)).replicas[c.1]? = ctrl.replicas[c.1]? := by
    rw [putReplica_get, if_neg (isCandidate_ne_failed candidate)]
  cases sorted : (ctrl.putReplica failed (fr.failedOver reason)).candidates set setId failed
      (fr.failedOver reason).workerId with
  | nil =>
      refine ⟨_, Or.inl ⟨?_, rfl, rfl, rfl⟩⟩
      intro c found
      by_contra candidate
      rw [Bool.not_eq_false] at candidate
      have member : c ∈ (ctrl.putReplica failed (fr.failedOver reason)).candidates set setId
          failed (fr.failedOver reason).workerId :=
        mem_candidates.mpr ⟨(unaffected c candidate).trans found, candidate⟩
      rw [sorted] at member
      cases member
  | cons c rest =>
      obtain ⟨chosen, r⟩ := c
      have member := mem_candidates.mp (sorted ▸ List.mem_cons_self : (chosen, r) ∈ _)
      refine ⟨_, Or.inr ⟨chosen, r, ?_, rfl, rfl, rfl, rfl⟩⟩
      refine ⟨(unaffected _ member.2).symm.trans member.1, member.2, ?_⟩
      intro d found candidate
      exact candidates_head sorted
        (mem_candidates.mpr ⟨(unaffected d candidate).trans found, candidate⟩)

theorem triggerFailover_known (fresh : FreshIds) {setId : ReplicaSetId} {failed : ReplicaId}
    (reason : Str) (mono : MonotonicNs) (wall : WallNs) {set : ReplicaSetState} {fr : ReplicaState}
    (foundSet : ctrl.sets[setId]? = some set) (foundFailed : ctrl.replicas[failed]? = some fr)
    (inSet : fr.setId = setId) :
    let outcome := ctrl.triggerFailover fresh setId failed reason mono wall
    ∃ record,
      ((∀ c : Candidate, ctrl.replicas[c.1]? = some c.2 →
            isCandidate set setId failed c = false) ∧
          outcome.1.isOk = false ∧
          outcome.2 = { ctrl.putReplica failed (fr.failedOver reason) with
            failovers := ctrl.failovers ++ [record] }) ∨
        ∃ chosen r pr, Selected ctrl set setId failed fr.workerId (chosen, r) ∧
          record.replacement = chosen ∧ outcome.1.isOk = true ∧
          outcome.2 = deriveSetLifecycle
            { (ctrl.putReplica failed (fr.failedOver reason)).putReplica chosen
                (r.madePrimary fresh) with
              failovers := ctrl.failovers ++ [record]
              promotions := ctrl.promotions ++ [pr] } setId set setId := by
  obtain ⟨record, ⟨none, -, -, same⟩ |
      ⟨chosen, r, selected, replacement, -, -, same⟩⟩ :=
    triggerFailover_outcome fresh reason mono wall foundSet foundFailed inSet
  · rw [same]
    exact ⟨record, Or.inl ⟨none, rfl, rfl⟩⟩
  · rw [same]
    exact ⟨record, Or.inr ⟨chosen, r, _, selected, replacement, rfl, rfl⟩⟩

theorem replaced_get {next : ReplicaSetController} {failed chosen : ReplicaId}
    {f r : ReplicaState} {failovers : List FailoverRecord} {promotions : List PromotionRecord}
    {setId member : ReplicaSetId} {set : ReplicaSetState}
    (written : next = deriveSetLifecycle { (ctrl.putReplica failed f).putReplica chosen r with
      failovers := failovers
      promotions := promotions } setId set member) (id : ReplicaId) :
    next.replicas[id]? =
      if chosen = id then some r else if failed = id then some f else ctrl.replicas[id]? := by
  rw [written, deriveSetLifecycle_replicas]
  exact (putReplica_get ..).trans (by rw [putReplica_get])

theorem triggerFailover_cases (fresh : FreshIds) (setId : ReplicaSetId) (failed : ReplicaId)
    (reason : Str) (mono : MonotonicNs) (wall : WallNs) :
    Refused (ctrl.triggerFailover fresh setId failed reason mono wall) ctrl ∨
    ∃ set fr, ctrl.sets[setId]? = some set ∧ ctrl.replicas[failed]? = some fr ∧
      fr.setId = setId := by
  unfold triggerFailover
  cases foundSet : ctrl.sets[setId]? with
  | none => exact Or.inl (refused_error _)
  | some set =>
      dsimp only
      cases foundFailed : ctrl.replicas[failed]? with
      | none => exact Or.inl (refused_error _)
      | some fr =>
          dsimp only
          by_cases inSet : fr.setId = setId
          · exact Or.inr ⟨set, fr, rfl, rfl, inSet⟩
          · rw [if_pos inSet]
            exact Or.inl (refused_error _)

theorem Selected.unique {set : ReplicaSetState} {setId : ReplicaSetId} {failed : ReplicaId}
    {failedWorker : WorkerId} {c d : Candidate}
    (first : Selected ctrl set setId failed failedWorker c)
    (other : ctrl.replicas[d.1]? = some d.2) (candidate : isCandidate set setId failed d = true)
    (notBefore : sortsBefore set.policies.failover failedWorker c d = false) : c.1 = d.1 := by
  have cd : candidateCmp set.policies.failover failedWorker c d ≠ .lt := by
    rw [ne_eq, ← sortsBefore_iff, notBefore]
    nofun
  have dc : candidateCmp set.policies.failover failedWorker d c ≠ .lt := by
    rw [ne_eq, ← sortsBefore_iff, first.first d other candidate]
    nofun
  have same : candidateCmp set.policies.failover failedWorker c d = .eq := by
    rw [ne_eq, ← Std.OrientedCmp.gt_iff_lt] at dc
    cases order : candidateCmp set.policies.failover failedWorker c d with
    | lt => exact absurd order cd
    | eq => rfl
    | gt => exact absurd order dc
  exact Std.LawfulEqOrd.eq_of_compare (Ordering.then_eq_eq.mp (Ordering.then_eq_eq.mp same).2).2

theorem Selected.same {set : ReplicaSetState} {setId : ReplicaSetId} {failed : ReplicaId}
    {failedWorker : WorkerId} {c d : Candidate}
    (first : Selected ctrl set setId failed failedWorker c)
    (second : Selected ctrl set setId failed failedWorker d) : c.1 = d.1 :=
  first.unique second.found second.candidate (second.first c first.found first.candidate)

end ReplicaFabric.ReplicaSetController
