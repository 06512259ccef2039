import ReplicaFabric.Safety.Grants

/-!
# The derived lifecycle of a set

A promotion and a failover derive the lifecycle of the set from the number of its replicas that are
`HEALTHY`, whatever lifecycle the set was put in and whatever lifecycle the replicas are in.
-/

namespace ReplicaFabric

def ReplicaState.live (r : ReplicaState) : Bool :=
  !(r.lifecycle = .failed || r.lifecycle = .quiesced || r.lifecycle = .retired)

namespace ReplicaSetController

variable {ctrl : ReplicaSetController} {fresh : FreshIds} {id : ReplicaId} {r : ReplicaState}
  {set : ReplicaSetState}

/-- A member of the set that is `HEALTHY` once `id` is promoted: promotion to `PRIMARY` makes an
`UNKNOWN` replica `HEALTHY`. -/
def healthyPromoted (setId : ReplicaSetId) (id : ReplicaId) (target : PromotionState)
    (e : Candidate) : Bool :=
  e.2.setId = setId &&
    (e.2.health = .healthy || (e.1 = id && target = .primary && e.2.health = .unknown))

def healthyOther (setId : ReplicaSetId) (failed : ReplicaId) (e : Candidate) : Bool :=
  (e.2.setId = setId && e.2.health = .healthy) && e.1 ≠ failed

/-- The count that `set` is compared with is of all replicas that satisfy `p`, in 32 bits. -/
def countOf (ctrl : ReplicaSetController) (p : Candidate → Bool) : UInt32 :=
  UInt32.ofNat (ctrl.replicas.toList.countP p)

def liveCountOf (ctrl : ReplicaSetController) (p : Candidate → Bool) : Nat :=
  ctrl.replicas.toList.countP fun e => p e && e.2.live

def liveHealthy (ctrl : ReplicaSetController) (setId : ReplicaSetId) : Nat :=
  ctrl.liveCountOf fun e => e.2.setId = setId && e.2.health = .healthy

theorem promoted_counts (id : ReplicaId) {target : PromotionState} {granted : ReplicaState}
    (grant : promoted r target fresh = .ok granted) (setId : ReplicaSetId) :
    (decide (granted.setId = setId) && decide (granted.health = .healthy)) =
      healthyPromoted setId id target (id, r) ∧ granted.live = r.live := by
  rcases promoted_ok.mp grant with ⟨rfl, ready, rfl⟩ | ⟨secondary, rfl⟩
  · have live : r.live = true := by
      simp only [ReplicaState.readyToPromote, Bool.or_eq_true, decide_eq_true_eq] at ready
      rcases ready with state | state <;> simp [ReplicaState.live, state]
    unfold grantedPrimary
    split_ifs with unknown
    · exact ⟨by simp [healthyPromoted, unknown, ReplicaState.madePrimary], live.symm⟩
    · refine ⟨?_, live.symm⟩
      rw [healthyPromoted, decide_eq_false unknown, Bool.and_false, Bool.or_false]
      rfl
  · refine ⟨?_, rfl⟩
    rw [healthyPromoted, decide_eq_false secondary, Bool.and_false, Bool.false_and, Bool.or_false]
    rfl

theorem healthy_after_promotion {target : PromotionState} {granted : ReplicaState}
    (found : ctrl.replicas[id]? = some r) (grant : promoted r target fresh = .ok granted)
    (setId : ReplicaSetId) :
    (ctrl.putReplica id granted).countReplicas setId (fun r => r.health = .healthy) =
        ctrl.countOf (healthyPromoted setId id target) ∧
      (ctrl.putReplica id granted).liveHealthy setId =
        ctrl.liveCountOf (healthyPromoted setId id target) := by
  obtain ⟨counts, live⟩ := promoted_counts id grant setId
  have elsewhere (e : Candidate) (other : e.1 ≠ id) :
      (decide (e.2.setId = setId) && decide (e.2.health = .healthy)) =
        healthyPromoted setId id target e := by
    simp [healthyPromoted, other]
  constructor
  · exact congrArg UInt32.ofNat (Table.countP_insert_eq found counts elsewhere)
  · exact Table.countP_insert_eq found (congrArg₂ and counts live)
      fun e other => congrArg (· && e.2.live) (elsewhere e other)

theorem live_after_failover {failed : ReplicaId} {fr : ReplicaState} (reason : Str)
    (found : ctrl.replicas[failed]? = some fr) (setId : ReplicaSetId) :
    (ctrl.putReplica failed (fr.failedOver reason)).liveHealthy setId =
      ctrl.liveCountOf (healthyOther setId failed) := by
  refine Table.countP_insert_eq found ?_ fun e other => ?_
  · simp [healthyOther, ReplicaState.failedOver, ReplicaState.loseAuthority]
  · simp [healthyOther, other]

theorem live_after_choice {chosen : ReplicaId} (found : ctrl.replicas[chosen]? = some r)
    (ready : r.lifecycle = .ready ∨ r.lifecycle = .serving) (setId : ReplicaSetId) :
    (ctrl.putReplica chosen (r.madePrimary fresh)).liveHealthy setId = ctrl.liveHealthy setId := by
  refine Table.countP_insert_same found ?_
  have live : r.live = true := by rcases ready with state | state <;> simp [ReplicaState.live, state]
  rw [live]
  rfl

theorem derived_sets {next granted : ReplicaSetController} {setId member : ReplicaSetId}
    {p : Candidate → Bool} (written : next = granted.deriveSetLifecycle setId set member)
    (sets : granted.sets = ctrl.sets) (known : ctrl.sets[setId]? = some set)
    (counted : granted.countReplicas member (fun r => r.health = .healthy) = ctrl.countOf p) :
    next.sets = ctrl.sets.insert setId { set with
      lifecycle := derivedLifecycle set (ctrl.countOf p) } := by
  rw [← sets] at known
  rw [written, deriveSetLifecycle_eq known, counted, putSet, sets]

theorem promoteReplica_derives (fresh : FreshIds) {target : PromotionState} {worker : WorkerId}
    {boot : WorkerBootId} (found : ctrl.replicas[id]? = some r)
    (gate : PromotionGate ctrl r worker boot set)
    (ready : target = .primary → r.readyToPromote = true) (mono : MonotonicNs) (wall : WallNs) :
    let outcome := ctrl.promoteReplica fresh id target worker boot mono wall
    outcome.1.isOk = true ∧
      outcome.2.sets = ctrl.sets.insert r.setId { set with
        lifecycle := derivedLifecycle set (ctrl.countOf (healthyPromoted set.id id target)) } ∧
      ∀ setId, outcome.2.liveHealthy setId =
        ctrl.liveCountOf (healthyPromoted setId id target) := by
  intro outcome
  obtain ⟨granted, grant⟩ := exists_promoted_iff.mpr ready
  have accepted := promoteReplica_accepted found gate grant mono wall
  rcases ctrl.promoteReplica_cases fresh id target worker boot mono wall with refused |
    ⟨r', set', granted', record, found', gate', grant', -, written⟩
  · cases refused.1.symm.trans accepted
  obtain rfl : r = r' := Option.some.inj (found.symm.trans found')
  obtain rfl : set = set' := Option.some.inj (gate.known.symm.trans gate'.known)
  obtain rfl : granted = granted' := Except.ok.inj (grant.symm.trans grant')
  refine ⟨accepted, ?_, fun setId => ?_⟩
  · exact derived_sets written rfl gate.known (healthy_after_promotion found grant set.id).1
  · rw [← (healthy_after_promotion found grant setId).2]
    simp only [liveHealthy, liveCountOf, show outcome.2 = _ from written,
      deriveSetLifecycle_replicas]

theorem triggerFailover_derives (fresh : FreshIds) {setId : ReplicaSetId} {failed : ReplicaId}
    {fr : ReplicaState} (reason : Str) (mono : MonotonicNs) (wall : WallNs)
    (known : ctrl.sets[setId]? = some set) (found : ctrl.replicas[failed]? = some fr)
    (inSet : fr.setId = setId) :
    let outcome := ctrl.triggerFailover fresh setId failed reason mono wall
    (((∀ c, ¬Selected ctrl set setId failed fr.workerId c) ∧ outcome.2.sets = ctrl.sets) ∨
      ((∃ c, Selected ctrl set setId failed fr.workerId c) ∧
        outcome.2.sets = ctrl.sets.insert setId { set with
          lifecycle := derivedLifecycle set (ctrl.countOf (healthyOther setId failed)) })) ∧
      outcome.2.liveHealthy setId = ctrl.liveCountOf (healthyOther setId failed) := by
  intro outcome
  rcases triggerFailover_known fresh reason mono wall known found inSet with
    ⟨record, ⟨none, -, written⟩ | ⟨chosen, r, pr, selected, -, -, written⟩⟩
  · refine ⟨Or.inl ⟨fun c selected => ?_, (congrArg sets written).trans rfl⟩, ?_⟩
    · cases (none c selected.found).symm.trans selected.candidate
    · exact (congrArg (liveHealthy · setId) written).trans (live_after_failover reason found setId)
  · have other := isCandidate_ne_failed selected.candidate
    have standing : (ctrl.putReplica failed (fr.failedOver reason)).replicas[chosen]? = some r := by
      rw [putReplica_get, if_neg other]
      exact selected.found
    refine ⟨Or.inr ⟨⟨_, selected⟩, ?_⟩, ?_⟩
    · exact derived_sets written rfl known (healthy_after_failover fresh reason standing setId)
    · rw [← live_after_failover reason found setId,
        ← live_after_choice standing (isCandidate_iff.mp selected.candidate).2.2.1 setId]
      simp only [liveHealthy, liveCountOf, show outcome.2 = _ from written,
        deriveSetLifecycle_replicas]
      rfl

def KeepsDraining (ctrl : ReplicaSetController) (call : Call) : Prop :=
  ∀ (setId : ReplicaSetId) (s : ReplicaSetState), ctrl.sets[setId]? = some s →
    s.lifecycle = .draining → (∀ target, call.op ≠ .transitionReplicaSet setId target) →
      ∃ s', (ctrl.step call).2.sets[setId]? = some s' ∧ s'.lifecycle = .draining

def StaysShort (ctrl : ReplicaSetController) (call : Call) : Prop :=
  match call.op with
  | .promoteReplica id target worker boot .. => ∀ r set, ctrl.replicas[id]? = some r →
      PromotionGate ctrl r worker boot set → (target = .primary → r.readyToPromote = true) →
      set.lifecycle = .draining → ctrl.countOf (healthyPromoted set.id id target) < set.minHealthy
  | .triggerFailover setId failed .. => ∀ set fr c, ctrl.sets[setId]? = some set →
      ctrl.replicas[failed]? = some fr → fr.setId = setId →
      Selected ctrl set setId failed fr.workerId c →
      set.lifecycle = .draining → ctrl.countOf (healthyOther setId failed) < set.minHealthy
  | _ => True

theorem derivedLifecycle_draining (draining : set.lifecycle = .draining) {healthy : UInt32} :
    derivedLifecycle set healthy = .draining ↔ healthy < set.minHealthy := by
  rw [derivedLifecycle, draining, ← UInt32.not_le]
  by_cases reached : set.minHealthy ≤ healthy <;> simp [reached]

theorem draining_insert {setId x : ReplicaSetId} {s : ReplicaSetState} {healthy : UInt32}
    (known : ctrl.sets[setId]? = some set) (found : ctrl.sets[x]? = some s)
    (draining : s.lifecycle = .draining)
    (short : set.lifecycle = .draining → healthy < set.minHealthy) :
    ∃ s', (ctrl.sets.insert setId { set with lifecycle := derivedLifecycle set healthy })[x]? =
      some s' ∧ s'.lifecycle = .draining := by
  rw [Table.get_insert]
  split_ifs with here
  · subst here
    obtain rfl : set = s := Option.some.inj (known.symm.trans found)
    exact ⟨_, rfl, (derivedLifecycle_draining draining).mpr (short draining)⟩
  · exact ⟨s, found, draining⟩

theorem draining_elsewhere {op : Operation} {x : ReplicaSetId} {s : ReplicaSetState}
    (found : ctrl.sets[x]? = some s) (draining : s.lifecycle = .draining)
    (other : ∀ target, op ≠ .transitionReplicaSet x target)
    (underived : match op with
      | .promoteReplica .. | .triggerFailover .. => False
      | _ => True) :
    (op.apply fresh ctrl).2.sets[x]? = some s := by
  cases op with
  | createReplicaSet set epoch =>
      rcases ctrl.createReplicaSet_cases set epoch with refused | ⟨absent, -, -, written⟩
      · rw [Operation.apply, refused.2, found]
      · have different : set.id ≠ x := by
          rintro rfl
          cases absent.symm.trans found
        rw [Operation.apply, written]
        exact (putSet_get ..).trans ((if_neg different).trans found)
  | transitionReplicaSet setId target =>
      have different : setId ≠ x := by
        rintro rfl
        exact other target rfl
      rcases ctrl.transitionReplicaSet_cases setId target with refused | ⟨s', -, -, -, written⟩
      · rw [Operation.apply, refused.2, found]
      · rw [Operation.apply, written, putSet_get, if_neg different, found]
  | provisionReplica id setId worker compat device capacity mono wall =>
      rcases ctrl.provisionReplica_cases fresh id setId worker compat device capacity mono wall with
        ⟨-, refused⟩ | ⟨set, reg, lifecycle, gate, moves, -, written⟩
      · rw [Operation.apply, refused.2, found]
      · rw [Operation.apply, written, putReplica_sets, putSet_get]
        split_ifs with here
        · subst here
          obtain rfl : set = s := Option.some.inj ((provisionGate_ok.mp gate).1.symm.trans found)
          rcases moves with rfl | ⟨created, -⟩
          · rfl
          · cases draining.symm.trans created
        · exact found
  | promoteReplica => exact underived.elim
  | triggerFailover => exact underived.elim
  | _ => rw [sets_kept rfl, found]

theorem keepsDraining_iff (call : Call) : ctrl.KeepsDraining call ↔ ctrl.StaysShort call := by
  obtain ⟨op, fresh⟩ := call
  cases op with
  | promoteReplica id target worker boot mono wall =>
      constructor
      · intro keeps r set found gate ready draining
        obtain ⟨-, sets, -⟩ := promoteReplica_derives fresh found gate ready mono wall
        obtain ⟨s', known, still⟩ := keeps r.setId set gate.known draining
          fun _ same => by cases same
        rw [step, Operation.apply, sets, Table.get_insert, if_pos rfl] at known
        obtain rfl := Option.some.inj known
        exact (derivedLifecycle_draining draining).mp still
      · intro short x s known draining _
        rcases ctrl.promoteReplica_cases fresh id target worker boot mono wall with refused |
          ⟨r, set, granted, record, found, gate, grant, -, -⟩
        · exact ⟨s, (congrArg (·.sets[x]?) refused.2).trans known, draining⟩
        have ready := exists_promoted_iff.mp ⟨granted, grant⟩
        obtain ⟨-, sets, -⟩ := promoteReplica_derives fresh found gate ready mono wall
        rw [step, Operation.apply, sets]
        exact draining_insert gate.known known draining (short r set found gate ready)
  | triggerFailover setId failed reason mono wall =>
      constructor
      · intro keeps set fr c known found inSet selected draining
        obtain ⟨⟨none, -⟩ | ⟨-, sets⟩, -⟩ :=
          triggerFailover_derives fresh reason mono wall known found inSet
        · exact absurd selected (none c)
        obtain ⟨s', known', still⟩ := keeps setId set known draining fun _ same => by cases same
        rw [step, Operation.apply, sets, Table.get_insert, if_pos rfl] at known'
        obtain rfl := Option.some.inj known'
        exact (derivedLifecycle_draining draining).mp still
      · intro short x s known draining _
        rcases ctrl.triggerFailover_cases fresh setId failed reason mono wall with refused |
          ⟨set, fr, known', found, inSet⟩
        · exact ⟨s, (congrArg (·.sets[x]?) refused.2).trans known, draining⟩
        obtain ⟨⟨-, sets⟩ | ⟨⟨c, selected⟩, sets⟩, -⟩ :=
          triggerFailover_derives fresh reason mono wall known' found inSet
        · exact ⟨s, by rw [step, Operation.apply, sets, known], draining⟩
        · rw [step, Operation.apply, sets]
          exact draining_insert known' known draining
            (short set fr c known' found inSet selected)
  | _ =>
      refine iff_of_true (fun x s known draining other => ?_) trivial
      exact ⟨s, draining_elsewhere known draining other trivial, draining⟩

theorem draining_kept_iff (start : ReplicaSetController) (calls : List Call) :
    Machine.Admissible step KeepsDraining start calls ↔
      Machine.Admissible step StaysShort start calls :=
  Machine.admissible_congr fun _ call => keepsDraining_iff call

def drainedSet : List Call :=
  Sample.serving ++ [⟨.transitionReplicaSet Sample.setId .draining, Sample.freshAt 4⟩]

theorem drainedSet_rearmed :
    ¬∀ start calls, Machine.Admissible step KeepsDraining start calls := by
  intro always
  have last := (Machine.admissible_append.mp
    (always empty (drainedSet ++ [Sample.promote ⟨0, 1⟩]))).2.1
  have before : (Machine.run step empty drainedSet).sets[Sample.setId]?.map (·.lifecycle) =
      some .draining := by decide
  have after : ((Machine.run step empty drainedSet).step (Sample.promote ⟨0, 1⟩)).2.sets[
      Sample.setId]?.map (·.lifecycle) = some .available := by decide
  obtain ⟨s, known, draining⟩ := Option.map_eq_some_iff.mp before
  obtain ⟨s', known', still⟩ := last Sample.setId s known draining nofun
  rw [known', Option.map_some, still] at after
  cases after

def InOperation (set : ReplicaSetState) : Prop :=
  set.lifecycle = .provisioning ∨ set.lifecycle = .available ∨ set.lifecycle = .degraded

def truthfulLifecycle (set : ReplicaSetState) (live : Nat) : ReplicaSetLifecycle :=
  if set.minHealthy.toNat ≤ live then .available else .degraded

def TruthfulAfter (ctrl next : ReplicaSetController) (setId : ReplicaSetId) : Prop :=
  ∀ s, ctrl.sets[setId]? = some s → InOperation s →
    ∃ s', next.sets[setId]? = some s' ∧
      s'.lifecycle = truthfulLifecycle s (next.liveHealthy setId)

def DerivesTruth (ctrl : ReplicaSetController) (call : Call) : Prop :=
  match call.op with
  | .promoteReplica id .. => ∀ r, ctrl.replicas[id]? = some r → (ctrl.step call).1.isOk = true →
      TruthfulAfter ctrl (ctrl.step call).2 r.setId
  | .triggerFailover setId failed .. => ∀ r, ctrl.replicas[failed]? = some r → r.setId = setId →
      TruthfulAfter ctrl (ctrl.step call).2 setId
  | _ => True

/-- The `HEALTHY` replicas that are over make no difference to whether the set has enough of them,
and a failover finds a replacement, or else the set has its lifecycle already. -/
def CountsLive (ctrl : ReplicaSetController) (call : Call) : Prop :=
  match call.op with
  | .promoteReplica id target worker boot .. => ∀ r set, ctrl.replicas[id]? = some r →
      PromotionGate ctrl r worker boot set → (target = .primary → r.readyToPromote = true) →
      InOperation set → (set.minHealthy ≤ ctrl.countOf (healthyPromoted set.id id target) ↔
        set.minHealthy.toNat ≤ ctrl.liveCountOf (healthyPromoted r.setId id target))
  | .triggerFailover setId failed .. => ∀ set fr, ctrl.sets[setId]? = some set →
      ctrl.replicas[failed]? = some fr → fr.setId = setId → InOperation set →
      ((∃ c, Selected ctrl set setId failed fr.workerId c) →
        (set.minHealthy ≤ ctrl.countOf (healthyOther setId failed) ↔
          set.minHealthy.toNat ≤ ctrl.liveCountOf (healthyOther setId failed))) ∧
      ((∀ c, ¬Selected ctrl set setId failed fr.workerId c) →
        set.lifecycle = truthfulLifecycle set (ctrl.liveCountOf (healthyOther setId failed)))
  | _ => True

theorem derivedLifecycle_truthful_iff (operates : InOperation set) {healthy : UInt32} {live : Nat} :
    derivedLifecycle set healthy = truthfulLifecycle set live ↔
      (set.minHealthy ≤ healthy ↔ set.minHealthy.toNat ≤ live) := by
  have derived : derivedLifecycle set healthy =
      if set.minHealthy ≤ healthy then .available else .degraded := by
    rcases operates with state | state | state <;> rw [derivedLifecycle, state]
  rw [derived, truthfulLifecycle]
  by_cases counted : set.minHealthy ≤ healthy <;>
    by_cases reached : set.minHealthy.toNat ≤ live <;> simp [counted, reached]

theorem truthfulAfter_iff {next : ReplicaSetController} {setId : ReplicaSetId}
    (lifecycle : ReplicaSetLifecycle) (known : ctrl.sets[setId]? = some set)
    (after : next.sets[setId]? = some { set with lifecycle := lifecycle }) :
    TruthfulAfter ctrl next setId ↔ (InOperation set →
      lifecycle = truthfulLifecycle set (next.liveHealthy setId)) := by
  constructor
  · intro truthful operates
    obtain ⟨s', found, state⟩ := truthful set known operates
    obtain rfl := Option.some.inj (after.symm.trans found)
    exact state
  · intro state s found operates
    obtain rfl : set = s := Option.some.inj (known.symm.trans found)
    exact ⟨_, after, state operates⟩

theorem derivesTruth_iff (call : Call) : ctrl.DerivesTruth call ↔ ctrl.CountsLive call := by
  obtain ⟨op, fresh⟩ := call
  cases op with
  | promoteReplica id target worker boot mono wall =>
      have truthful {r : ReplicaState} {set : ReplicaSetState}
          (found : ctrl.replicas[id]? = some r) (gate : PromotionGate ctrl r worker boot set)
          (ready : target = .primary → r.readyToPromote = true) :
          TruthfulAfter ctrl (ctrl.promoteReplica fresh id target worker boot mono wall).2 r.setId ↔
            (InOperation set → (set.minHealthy ≤ ctrl.countOf (healthyPromoted set.id id target) ↔
              set.minHealthy.toNat ≤ ctrl.liveCountOf (healthyPromoted r.setId id target))) := by
        obtain ⟨-, sets, live⟩ := promoteReplica_derives fresh found gate ready mono wall
        rw [truthfulAfter_iff _ gate.known (by rw [sets, Table.get_insert, if_pos rfl]), live]
        exact imp_congr_right fun operates => derivedLifecycle_truthful_iff operates
      constructor
      · intro derives r set found gate ready
        obtain ⟨accepted, -⟩ := promoteReplica_derives fresh found gate ready mono wall
        exact (truthful found gate ready).mp (derives r found accepted)
      · intro counts r found accepted
        rcases ctrl.promoteReplica_cases fresh id target worker boot mono wall with refused |
          ⟨r', set, granted, record, found', gate, grant, -⟩
        · cases refused.1.symm.trans accepted
        obtain rfl : r = r' := Option.some.inj (found.symm.trans found')
        have ready := exists_promoted_iff.mp ⟨granted, grant⟩
        exact (truthful found gate ready).mpr (counts r set found gate ready)
  | triggerFailover setId failed reason mono wall =>
      have truthful {set : ReplicaSetState} {fr : ReplicaState}
          (known : ctrl.sets[setId]? = some set) (found : ctrl.replicas[failed]? = some fr)
          (inSet : fr.setId = setId) :
          TruthfulAfter ctrl (ctrl.triggerFailover fresh setId failed reason mono wall).2 setId ↔
            (InOperation set → ((∃ c, Selected ctrl set setId failed fr.workerId c) →
              (set.minHealthy ≤ ctrl.countOf (healthyOther setId failed) ↔
                set.minHealthy.toNat ≤ ctrl.liveCountOf (healthyOther setId failed))) ∧
              ((∀ c, ¬Selected ctrl set setId failed fr.workerId c) → set.lifecycle =
                truthfulLifecycle set (ctrl.liveCountOf (healthyOther setId failed)))) := by
        obtain ⟨⟨none, sets⟩ | ⟨some, sets⟩, live⟩ :=
          triggerFailover_derives fresh reason mono wall known found inSet
        · rw [truthfulAfter_iff set.lifecycle known (by rw [sets, known]), live]
          refine imp_congr_right fun _ => ⟨fun same => ⟨?_, fun _ => same⟩, fun both => both.2 none⟩
          rintro ⟨c, selected⟩
          exact absurd selected (none c)
        · rw [truthfulAfter_iff _ known (by rw [sets, Table.get_insert, if_pos rfl]), live]
          refine imp_congr_right fun operates => (derivedLifecycle_truthful_iff operates).trans
            ⟨fun same => ⟨fun _ => same, fun none => ?_⟩, fun both => both.1 some⟩
          obtain ⟨c, selected⟩ := some
          exact absurd selected (none c)
      constructor
      · intro derives set fr known found inSet
        exact (truthful known found inSet).mp (derives fr found inSet)
      · intro counts fr found inSet s known
        exact (truthful known found inSet).mpr (counts s fr known found inSet) s known
  | _ => exact Iff.rfl

theorem truth_derived_iff (start : ReplicaSetController) (calls : List Call) :
    Machine.Admissible step DerivesTruth start calls ↔
      Machine.Admissible step CountsLive start calls :=
  Machine.admissible_congr fun _ call => derivesTruth_iff call

def failLast : Call :=
  ⟨.triggerFailover Sample.setId ⟨0, 1⟩ "worker lost" 0 0, Sample.freshAt 4⟩

/-- No replacement is found, and the set stays `AVAILABLE` without a `HEALTHY` replica. -/
theorem failLast_available :
    ¬∀ calls, Machine.Admissible step DerivesTruth empty calls := by
  intro always
  have last := (Machine.admissible_append.mp (always (Sample.serving ++ [failLast]))).2.1
  have before : (Machine.run step empty Sample.serving).sets[Sample.setId]?.map
      (fun s => (s.lifecycle, s.minHealthy)) = some (.available, 1) := by decide
  have member : (Machine.run step empty Sample.serving).replicas[(⟨0, 1⟩ : ReplicaId)]?.map
      (·.setId) = some Sample.setId := by decide
  have none : ((Machine.run step empty Sample.serving).step failLast).2.liveHealthy Sample.setId =
      0 := by decide
  have after : ((Machine.run step empty Sample.serving).step failLast).2.sets[Sample.setId]?.map
      (·.lifecycle) = some .available := by decide
  obtain ⟨s, known, state⟩ := Option.map_eq_some_iff.mp before
  obtain ⟨r, found, inSet⟩ := Option.map_eq_some_iff.mp member
  obtain ⟨available, one⟩ := Prod.mk.inj state
  obtain ⟨s', known', truthful⟩ := last r found inSet s known (Or.inr (Or.inl available))
  rw [known', Option.map_some, truthful, none, truthfulLifecycle, one] at after
  cases after

end ReplicaSetController

end ReplicaFabric
