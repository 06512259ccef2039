import ReplicaFabric.Controller.Authority

/-!
# At most one serving replica in each set

Neither promotion nor failover looks at the replicas that already hold serving authority. A run
keeps at most one holder for each set exactly when every grant leaves no other holder behind.
-/

namespace ReplicaFabric.ReplicaSetController

variable {ctrl : ReplicaSetController}

def Holds (ctrl : ReplicaSetController) (setId : ReplicaSetId) (id : ReplicaId) : Prop :=
  ∃ r, ctrl.replicas[id]? = some r ∧ r.setId = setId ∧ r.servingEligible = true

def SoleHolder (ctrl : ReplicaSetController) : Prop :=
  ∀ setId a b, ctrl.Holds setId a → ctrl.Holds setId b → a = b

def NoDoubleServing (ctrl : ReplicaSetController) : Prop :=
  ∀ a b ra rb, ctrl.replicas[a]? = some ra → ctrl.replicas[b]? = some rb →
    ra.setId = rb.setId → ctrl.Servable a → ctrl.Servable b → a = b

theorem holds_of_servable {id : ReplicaId} {r : ReplicaState}
    (found : ctrl.replicas[id]? = some r) (servable : ctrl.Servable id) :
    ctrl.Holds r.setId id := by
  obtain ⟨r', set, found', -, authority⟩ := servable_iff.mp servable
  obtain rfl : r = r' := by simpa [found] using found'
  exact ⟨r, found, rfl, authority.servingFlag⟩

theorem SoleHolder.noDoubleServing (sole : SoleHolder ctrl) : NoDoubleServing ctrl := by
  intro a b ra rb foundA foundB sameSet servableA servableB
  exact sole rb.setId a b (sameSet ▸ holds_of_servable foundA servableA)
    (holds_of_servable foundB servableB)

def othersSatisfy (ctrl : ReplicaSetController) (setId : ReplicaSetId) (spared : ReplicaId)
    (p : Candidate → Bool) : Bool :=
  ctrl.replicas.toList.all fun x =>
    !(x.2.setId = setId && x.2.servingEligible && x.1 ≠ spared) || p x

def selectedFirst (ctrl : ReplicaSetController) (set : ReplicaSetState) (setId : ReplicaSetId)
    (failed : ReplicaId) (failedWorker : WorkerId) (x : Candidate) : Bool :=
  ctrl.replicas.toList.all fun c =>
    !(isCandidate set setId failed c && c.1 ≠ x.1) ||
      (isCandidate set setId failed x && sortsBefore set.policies.failover failedWorker x c)

/-- Every call that makes a replica primary finds no other holder of authority in its set: a
promotion finds none, and a failover none but the failed replica and the one it selects. -/
def grantsAlone (ctrl : ReplicaSetController) : Operation → Bool
  | .promoteReplica id .primary worker boot _ _ =>
      match ctrl.replicas[id]? with
      | none => true
      | some r =>
          match ctrl.promotionGate r worker boot with
          | .error _ => true
          | .ok _ => !r.readyToPromote || ctrl.othersSatisfy r.setId id fun _ => false
  | .triggerFailover setId failed _ _ _ =>
      match ctrl.sets[setId]?, ctrl.replicas[failed]? with
      | some set, some fr =>
          fr.setId ≠ setId || ctrl.othersSatisfy setId failed
            (ctrl.selectedFirst set setId failed fr.workerId)
      | _, _ => true
  | _ => true

theorem othersSatisfy_iff {setId : ReplicaSetId} {spared : ReplicaId} {p : Candidate → Bool} :
    ctrl.othersSatisfy setId spared p = true ↔
      ∀ x r, ctrl.replicas[x]? = some r → r.setId = setId → r.servingEligible = true →
        x ≠ spared → p (x, r) = true := by
  simp only [othersSatisfy, List.all_eq_true, Prod.forall, Table.mem_entries, Bool.or_eq_true,
    Bool.not_eq_true', Bool.and_eq_false_iff, decide_eq_false_iff_not, not_not]
  refine forall_congr' fun x => forall_congr' fun r => imp_congr_right fun _ => ?_
  rw [← Bool.not_eq_true]
  tauto

theorem selectedFirst_iff {set : ReplicaSetState} {setId : ReplicaSetId} {failed : ReplicaId}
    {failedWorker : WorkerId} {x : Candidate} :
    ctrl.selectedFirst set setId failed failedWorker x = true ↔
      ∀ c r, ctrl.replicas[c]? = some r → isCandidate set setId failed (c, r) = true → c ≠ x.1 →
        isCandidate set setId failed x = true ∧
          sortsBefore set.policies.failover failedWorker x (c, r) = true := by
  simp only [selectedFirst, List.all_eq_true, Prod.forall, Table.mem_entries, Bool.or_eq_true,
    Bool.not_eq_true', Bool.and_eq_false_iff, Bool.and_eq_true, decide_eq_false_iff_not, not_not]
  refine forall_congr' fun c => forall_congr' fun r => imp_congr_right fun _ => ?_
  rw [← Bool.not_eq_true]
  tauto

theorem holds_iff {setId : ReplicaSetId} {id : ReplicaId} {r : ReplicaState}
    (found : ctrl.replicas[id]? = some r) :
    ctrl.Holds setId id ↔ r.setId = setId ∧ r.servingEligible = true := by
  simp [Holds, found]

theorem holds_origin {op : Operation} {fresh : FreshIds} {setId : ReplicaSetId} {id : ReplicaId}
    (held : (op.apply fresh ctrl).2.Holds setId id) :
    ctrl.Holds setId id ∨
      ((op.apply fresh ctrl).1.isOk = true ∧ op.Grants (op.apply fresh ctrl).2 id) := by
  obtain ⟨r', found, inSet, flagged⟩ := held
  have change := ctrl.replicaStep op fresh id
  rw [found] at change
  obtain ⟨r, prior, same, ⟨before, -⟩ | grants⟩ := change.flag flagged
  · have sameSet : r'.setId = r.setId := congrArg Incarnation.setId same
    exact Or.inl ⟨r, prior, sameSet ▸ inSet, before⟩
  · exact Or.inr grants

theorem SoleHolder.of_no_grant {op : Operation} {fresh : FreshIds} (sole : SoleHolder ctrl)
    (grantless : ∀ id, (op.apply fresh ctrl).1.isOk = true →
      ¬op.Grants (op.apply fresh ctrl).2 id) :
    SoleHolder (op.apply fresh ctrl).2 := by
  intro setId a b holdsA holdsB
  exact sole setId a b ((holds_origin holdsA).resolve_right fun ⟨ok, grants⟩ => grantless a ok grants)
    ((holds_origin holdsB).resolve_right fun ⟨ok, grants⟩ => grantless b ok grants)

theorem soleHolder_grant {next : ReplicaSetController} (granted : ReplicaId)
    {grantedSet : ReplicaSetId} (loses : ReplicaId → Prop) (sole : SoleHolder ctrl)
    (new : ∀ setId, next.Holds setId granted ↔ grantedSet = setId)
    (old : ∀ setId x, x ≠ granted → (next.Holds setId x ↔ ctrl.Holds setId x ∧ ¬loses x)) :
    SoleHolder next ↔ ∀ x, ctrl.Holds grantedSet x → ¬loses x → x = granted := by
  constructor
  · intro alone x holds keeps
    by_contra other
    exact other (alone grantedSet x granted ((old _ x other).mpr ⟨holds, keeps⟩) ((new _).mpr rfl))
  · intro alone setId a b holdsA holdsB
    by_cases isA : a = granted <;> by_cases isB : b = granted
    · exact isA.trans isB.symm
    · have same := (new setId).mp (isA ▸ holdsA)
      obtain ⟨holds, keeps⟩ := (old _ b isB).mp holdsB
      exact absurd (alone b (same ▸ holds) keeps) isB
    · have same := (new setId).mp (isB ▸ holdsB)
      obtain ⟨holds, keeps⟩ := (old _ a isA).mp holdsA
      exact absurd (alone a (same ▸ holds) keeps) isA
    · exact sole setId a b ((old _ a isA).mp holdsA).1 ((old _ b isB).mp holdsB).1

theorem promotePrimary_replicas {fresh : FreshIds} {id : ReplicaId} {worker : WorkerId}
    {boot : WorkerBootId} {mono : MonotonicNs} {wall : WallNs} {r : ReplicaState}
    {set : ReplicaSetState} (found : ctrl.replicas[id]? = some r)
    (gate : ctrl.promotionGate r worker boot = .ok set) (ready : r.readyToPromote = true)
    (x : ReplicaId) :
    (ctrl.promoteReplica fresh id .primary worker boot mono wall).2.replicas[x]? =
      if id = x then some (grantedPrimary r fresh) else ctrl.replicas[x]? := by
  have grant : promoted r .primary fresh = .ok (grantedPrimary r fresh) :=
    promoted_ok.mpr (Or.inl ⟨rfl, ready, rfl⟩)
  simp only [promoteReplica, found, gate, grant, deriveSetLifecycle_replicas]
  exact putReplica_get ..

theorem grantedPrimary_holds (r : ReplicaState) (fresh : FreshIds) :
    (grantedPrimary r fresh).setId = r.setId ∧
      (grantedPrimary r fresh).servingEligible = true := by
  unfold grantedPrimary
  split <;> exact ⟨rfl, rfl⟩

theorem soleHolder_promotePrimary {fresh : FreshIds} {id : ReplicaId} {worker : WorkerId}
    {boot : WorkerBootId} {mono : MonotonicNs} {wall : WallNs} (sole : SoleHolder ctrl) :
    SoleHolder (ctrl.promoteReplica fresh id .primary worker boot mono wall).2 ↔
      ctrl.grantsAlone (.promoteReplica id .primary worker boot mono wall) = true := by
  cases found : ctrl.replicas[id]? with
  | none => simpa [promoteReplica, grantsAlone, found] using sole
  | some r =>
      cases gate : ctrl.promotionGate r worker boot with
      | error refusal => simpa [promoteReplica, grantsAlone, found, gate] using sole
      | ok set =>
          by_cases ready : r.readyToPromote = true
          · have entry (x : ReplicaId) :
                (ctrl.promoteReplica fresh id .primary worker boot mono wall).2.replicas[x]? =
                  if id = x then some (grantedPrimary r fresh) else ctrl.replicas[x]? :=
              promotePrimary_replicas found gate ready x
            obtain ⟨inSet, flagged⟩ := grantedPrimary_holds r fresh
            rw [soleHolder_grant id (fun _ => False) sole]
            · simp only [grantsAlone, found, gate, ready, Bool.not_true, Bool.false_or,
                othersSatisfy_iff, Bool.false_eq_true]
              constructor
              · intro alone x rx foundX sameSet flaggedX other
                exact other (alone x ⟨rx, foundX, sameSet, flaggedX⟩ not_false)
              · rintro alone x ⟨rx, foundX, sameSet, flaggedX⟩ -
                by_contra other
                exact alone x rx foundX sameSet flaggedX other
            · intro setId
              rw [holds_iff ((entry id).trans (if_pos rfl)), inSet]
              exact and_iff_left flagged
            · intro setId x other
              simp only [Holds, entry x, if_neg (Ne.symm other), not_false_iff, and_true]
          · have refused : promoted r .primary fresh =
                .error (.rejected "cannot promote a non-ready replica to PRIMARY") := by
              simp [promoted, ready]
            simpa [promoteReplica, grantsAlone, found, gate, refused, ready] using sole

theorem grantsAlone_failover {setId : ReplicaSetId} {failed : ReplicaId} {reason : Str}
    {mono : MonotonicNs} {wall : WallNs} {set : ReplicaSetState} {fr : ReplicaState}
    (foundSet : ctrl.sets[setId]? = some set) (foundFailed : ctrl.replicas[failed]? = some fr)
    (inSet : fr.setId = setId) :
    ctrl.grantsAlone (.triggerFailover setId failed reason mono wall) = true ↔
      ∀ x rx, ctrl.replicas[x]? = some rx → rx.setId = setId → rx.servingEligible = true →
        x ≠ failed → ctrl.selectedFirst set setId failed fr.workerId (x, rx) = true := by
  simp [grantsAlone, foundSet, foundFailed, inSet, othersSatisfy_iff]

theorem soleHolder_chosen {next : ReplicaSetController} {fresh : FreshIds} {setId : ReplicaSetId}
    {failed chosen : ReplicaId} {reason : Str} {set : ReplicaSetState} {fr r : ReplicaState}
    (sole : SoleHolder ctrl) (selected : Selected ctrl set setId failed fr.workerId (chosen, r))
    (entry : ∀ x : ReplicaId, next.replicas[x]? = if chosen = x then some (r.madePrimary fresh)
      else if failed = x then some (fr.failedOver reason) else ctrl.replicas[x]?) :
    SoleHolder next ↔
      ∀ x rx, ctrl.replicas[x]? = some rx → rx.setId = setId → rx.servingEligible = true →
        x ≠ failed → ctrl.selectedFirst set setId failed fr.workerId (x, rx) = true := by
  have inSet : r.setId = setId := (isCandidate_iff.mp selected.candidate).1
  rw [soleHolder_grant chosen (· = failed) sole]
  · constructor
    · intro alone x rx foundX sameSet flagged other
      obtain rfl : x = chosen := alone x ⟨rx, foundX, sameSet, flagged⟩ other
      obtain rfl : rx = r := by simpa [foundX] using selected.found
      refine selectedFirst_iff.mpr fun c rc foundC candidate different => ⟨selected.candidate, ?_⟩
      by_contra notBefore
      rw [Bool.not_eq_true] at notBefore
      exact different (selected.unique foundC candidate notBefore).symm
    · rintro first x ⟨rx, foundX, sameSet, flagged⟩ other
      by_contra different
      obtain ⟨candidate, before⟩ := selectedFirst_iff.mp
        (first x rx foundX sameSet flagged other) chosen r selected.found selected.candidate
        (Ne.symm different)
      rw [selected.first (x, rx) foundX candidate] at before
      cases before
  · intro s
    rw [holds_iff ((entry chosen).trans (if_pos rfl))]
    exact (and_iff_left rfl).trans (by rw [← inSet]; rfl)
  · intro s x other
    rw [Holds, entry x, if_neg (Ne.symm other)]
    by_cases isFailed : failed = x
    · simp [isFailed, ReplicaState.failedOver, ReplicaState.loseAuthority]
    · simp [if_neg isFailed, Holds, Ne.symm isFailed]

theorem soleHolder_failover {fresh : FreshIds} {setId : ReplicaSetId} {failed : ReplicaId}
    {reason : Str} {mono : MonotonicNs} {wall : WallNs} (sole : SoleHolder ctrl) :
    SoleHolder (ctrl.triggerFailover fresh setId failed reason mono wall).2 ↔
      ctrl.grantsAlone (.triggerFailover setId failed reason mono wall) = true := by
  cases foundSet : ctrl.sets[setId]? with
  | none => simpa [triggerFailover, grantsAlone, foundSet] using sole
  | some set =>
      cases foundFailed : ctrl.replicas[failed]? with
      | none => simpa [triggerFailover, grantsAlone, foundSet, foundFailed] using sole
      | some fr =>
          by_cases inSet : fr.setId = setId
          · rw [grantsAlone_failover foundSet foundFailed inSet]
            obtain ⟨record, ⟨noCandidate, notOk, -⟩ |
              ⟨chosen, r, pr, selected, -, -, written⟩⟩ :=
              triggerFailover_known fresh reason mono wall foundSet foundFailed inSet
            · have kept : SoleHolder
                  ((Operation.triggerFailover setId failed reason mono wall).apply fresh ctrl).2 :=
                sole.of_no_grant fun id ok => by cases notOk.symm.trans ok
              refine iff_of_true kept fun x rx _ _ _ _ => ?_
              refine selectedFirst_iff.mpr fun c rc foundC candidate _ => ?_
              rw [noCandidate (c, rc) foundC] at candidate
              cases candidate
            · exact soleHolder_chosen sole selected (replaced_get written)
          · simpa [triggerFailover, grantsAlone, foundSet, foundFailed, inSet] using sole

theorem soleHolder_step (sole : SoleHolder ctrl) (call : Call) :
    SoleHolder (ctrl.step call).2 ↔ ctrl.grantsAlone call.op = true := by
  obtain ⟨op, fresh⟩ := call
  cases op with
  | promoteReplica id target worker boot mono wall =>
      cases target with
      | primary => exact soleHolder_promotePrimary sole
      | _ => exact iff_of_true (sole.of_no_grant fun _ _ grants => nomatch grants.2) rfl
  | triggerFailover setId failed reason mono wall => exact soleHolder_failover sole
  | _ => exact iff_of_true (sole.of_no_grant fun _ _ => not_false) rfl

theorem soleHolder_empty : SoleHolder empty := by
  rintro setId a b ⟨r, found, -⟩ -
  simp [empty] at found

theorem soleHolder_iff_grantsAlone (calls : List Call) :
    Machine.Throughout step SoleHolder empty calls ↔
      Machine.Admissible step (fun ctrl call => ctrl.grantsAlone call.op = true) empty calls :=
  Machine.throughout_iff_of_step calls (fun _ call sole => soleHolder_step sole call)
    soleHolder_empty

theorem noDoubleServing_of_grantsAlone (calls : List Call)
    (alone : Machine.Admissible step (fun ctrl call => ctrl.grantsAlone call.op = true) empty
      calls) :
    Machine.Throughout step NoDoubleServing empty calls :=
  ((soleHolder_iff_grantsAlone calls).mpr alone).mono fun _ => SoleHolder.noDoubleServing

theorem noDoubleServing_of_grantsAlone_failover :
    Machine.Throughout step NoDoubleServing empty
      (Sample.setUp ++ Sample.bringUp ⟨0, 1⟩ ++ Sample.bringUp ⟨0, 2⟩ ++
        [Sample.promote ⟨0, 1⟩,
          ⟨.triggerFailover Sample.setId ⟨0, 1⟩ "gone" 0 0, Sample.freshAt 3⟩]) :=
  noDoubleServing_of_grantsAlone _ (by decide)

def twoPromotions : List Call :=
  Sample.setUp ++ Sample.bringUp ⟨0, 1⟩ ++ Sample.bringUp ⟨0, 2⟩ ++
    [Sample.promote ⟨0, 1⟩, Sample.promote ⟨0, 2⟩]

theorem twoPromotions_serve :
    ¬∀ calls, Machine.Throughout step NoDoubleServing empty calls := by
  intro never
  have sole := (never twoPromotions).last
  have inSet (id : ReplicaId) (known : id = ⟨0, 1⟩ ∨ id = ⟨0, 2⟩) :
      ∃ r, (Machine.run step empty twoPromotions).replicas[id]? = some r ∧
        r.setId = Sample.setId := by
    apply Option.map_eq_some_iff.mp
    rcases known with rfl | rfl <;> decide
  obtain ⟨ra, foundA, inA⟩ := inSet ⟨0, 1⟩ (Or.inl rfl)
  obtain ⟨rb, foundB, inB⟩ := inSet ⟨0, 2⟩ (Or.inr rfl)
  have same := sole _ _ ra rb foundA foundB (inA.trans inB.symm) (by decide) (by decide)
  cases same

end ReplicaFabric.ReplicaSetController
