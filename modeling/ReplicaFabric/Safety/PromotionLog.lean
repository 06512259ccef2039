import ReplicaFabric.Controller.Logs
import ReplicaFabric.Safety.Validation

/-!
# The promotion log as an audit trail

A promotion records the state that it takes the replica from. A failover records `STANDBY`,
whatever the promotion of the replacement has been.
-/

namespace ReplicaFabric

structure PromotionRecord.Traces (record : PromotionRecord) (ctrl next : ReplicaSetController) :
    Prop where
  before : ∃ r, ctrl.replicas[record.replicaId]? = some r ∧ record.source = r.promotion
  after : ∃ r, next.replicas[record.replicaId]? = some r ∧ record.target = r.promotion ∧
    record.replicaGeneration = r.generation ∧ record.setGeneration = r.setGeneration
  epoch : record.epoch = next.epoch

def Operation.promotes : Operation → Bool
  | promoteReplica .. | triggerFailover .. => true
  | _ => false

namespace ReplicaSetController

variable {ctrl next : ReplicaSetController} {fresh : FreshIds} {id : ReplicaId} {op : Operation}

def BecomesPrimary (ctrl next : ReplicaSetController) (id : ReplicaId) : Prop :=
  (∃ r, next.replicas[id]? = some r ∧ r.promotion = .primary) ∧
    ∀ r, ctrl.replicas[id]? = some r → r.promotion ≠ .primary

/-- At most one record is appended, it is true of the step, and there is one for every replica that
becomes `PRIMARY`. -/
def Audited (ctrl next : ReplicaSetController) : Prop :=
  ∃ new, next.promotions = ctrl.promotions ++ new ∧ new.length ≤ 1 ∧
    (∀ record ∈ new, record.Traces ctrl next) ∧
    ∀ id, BecomesPrimary ctrl next id → ∃ record ∈ new, record.replicaId = id

def ReplacesByStandby (ctrl : ReplicaSetController) : Operation → Prop
  | .triggerFailover setId failed .. => ∀ set fr c, ctrl.sets[setId]? = some set →
      ctrl.replicas[failed]? = some fr → fr.setId = setId →
        Selected ctrl set setId failed fr.workerId c → c.2.promotion = .standby
  | _ => True

theorem promotions_kept (other : op.promotes = false) :
    (op.apply fresh ctrl).2.promotions = ctrl.promotions := by
  cases writes : op.writesSets with
  | false => exact view_kept promotions (fun _ _ _ _ _ => rfl) writes fresh
  | true =>
      cases op with
      | createReplicaSet set epoch =>
          rcases ctrl.createReplicaSet_cases set epoch with refused | ⟨-, -, -, written⟩
          · exact congrArg promotions refused.2
          · exact (congrArg promotions written).trans rfl
      | transitionReplicaSet setId target =>
          rcases ctrl.transitionReplicaSet_cases setId target with refused | ⟨s, -, -, -, written⟩
          · exact congrArg promotions refused.2
          · exact (congrArg promotions written).trans rfl
      | provisionReplica id setId worker compat device capacity mono wall =>
          rcases ctrl.provisionReplica_cases fresh id setId worker compat device capacity mono
            wall with ⟨-, refused⟩ | ⟨set, reg, lifecycle, -, -, -, written⟩
          · exact congrArg promotions refused.2
          · exact (congrArg promotions written).trans rfl
      | promoteReplica | triggerFailover => cases other
      | _ => cases writes

theorem ReplicaStep.promotion_origin {accepted : Bool} {prior : Option ReplicaState}
    {r' : ReplicaState} (change : ReplicaStep ctrl fresh next id op accepted prior (some r'))
    (other : op.promotes = false) (primary : r'.promotion = .primary) :
    ∃ r, prior = some r ∧ r.promotion = .primary := by
  cases change with
  | kept untouched => exact ⟨_, rfl, primary⟩
  | @registered wr r =>
      refine ⟨r, rfl, ?_⟩
      unfold ReplicaState.afterRestart at primary
      split_ifs at primary
      · cases primary
      · exact primary
      · exact primary
  | @unregistered worker r =>
      refine ⟨r, rfl, ?_⟩
      unfold ReplicaState.afterDisconnect at primary
      split_ifs at primary
      · cases primary
      · exact primary
  | @healthReported ev worker boot mono r host alive =>
      refine ⟨r, rfl, ?_⟩
      unfold ReplicaState.healthReported at primary
      dsimp only at primary
      split at primary
      · cases primary
      · exact primary
  | promoted gate grant => cases other
  | chosen selected recorded => cases other
  | failedOver inSet => cases other
  | provisioned gate => cases primary
  | drained host edge => cases primary
  | failed host => cases primary
  | failRefused host edge => cases primary
  | retired edge => cases primary
  | _ => exact ⟨_, rfl, primary⟩

theorem audited_other (other : op.promotes = false) : ctrl.Audited (op.apply fresh ctrl).2 := by
  refine ⟨[], ?_, Nat.zero_le _, nofun, ?_⟩
  · rw [promotions_kept other, List.append_nil]
  · rintro id ⟨⟨r', post, primary⟩, wasNot⟩
    have change := ctrl.replicaStep op fresh id
    rw [post] at change
    obtain ⟨r, found, before⟩ := change.promotion_origin other primary
    exact absurd before (wasNot r found)

theorem audited_refl : ctrl.Audited ctrl := by
  refine ⟨[], (List.append_nil _).symm, Nat.zero_le _, nofun, ?_⟩
  rintro id ⟨⟨r, found, primary⟩, wasNot⟩
  exact absurd primary (wasNot r found)

theorem audited_single {record : PromotionRecord}
    (appended : next.promotions = ctrl.promotions ++ [record])
    (others : ∀ id, id ≠ record.replicaId → ∀ r, next.replicas[id]? = some r →
      r.promotion = .primary → ∃ r, ctrl.replicas[id]? = some r ∧ r.promotion = .primary) :
    ctrl.Audited next ↔ record.Traces ctrl next := by
  constructor
  · rintro ⟨new, appended', -, traces, -⟩
    have single : [record] = new := List.append_cancel_left (appended.symm.trans appended')
    exact traces record (single ▸ List.mem_singleton_self record)
  · intro traces
    refine ⟨[record], appended, le_rfl, by simpa using traces, ?_⟩
    rintro id ⟨⟨r', post, primary⟩, wasNot⟩
    by_cases named : id = record.replicaId
    · exact ⟨record, List.mem_singleton_self record, named.symm⟩
    · obtain ⟨r, found, before⟩ := others id named r' post primary
      exact absurd before (wasNot r found)

theorem audited_promote (keyed : ctrl.Keyed) (target : PromotionState) (worker : WorkerId)
    (boot : WorkerBootId) (mono : MonotonicNs) (wall : WallNs) :
    ctrl.Audited (ctrl.promoteReplica fresh id target worker boot mono wall).2 := by
  rcases ctrl.promoteReplica_outcome fresh id target worker boot mono wall with refused |
    ⟨r, set, granted, found, -, grant, -, written⟩
  · rw [refused.2]
    exact audited_refl
  have named : r.id = id := keyed.replicas id r found
  have entry (x : ReplicaId) :
      (ctrl.promoteReplica fresh id target worker boot mono wall).2.replicas[x]? =
        if id = x then some granted else ctrl.replicas[x]? := by
    rw [written, deriveSetLifecycle_replicas]
    exact putReplica_get ..
  have granting : granted.promotion = target ∧ granted.generation = r.generation ∧
      granted.setGeneration = r.setGeneration := by
    rcases promoted_ok.mp grant with ⟨rfl, -, rfl⟩ | ⟨-, rfl⟩
    · unfold grantedPrimary
      split_ifs <;> exact ⟨rfl, rfl, rfl⟩
    · exact ⟨rfl, rfl, rfl⟩
  obtain ⟨promotion, generation, setGeneration⟩ := granting
  have appended : (ctrl.promoteReplica fresh id target worker boot mono wall).2.promotions =
      ctrl.promotions ++ [ctrl.requestedPromotion fresh r target mono wall] := by
    rw [written, deriveSetLifecycle_promotions]
  refine (audited_single appended ?_).mpr ?_
  · intro x other r' post primary
    rw [entry, if_neg fun same => other (same.symm.trans named.symm)] at post
    exact ⟨r', post, primary⟩
  · refine ⟨⟨r, (congrArg (ctrl.replicas[·]?) named).trans found, rfl⟩, ⟨granted, ?_, ?_⟩, ?_⟩
    · exact (entry r.id).trans (if_pos named.symm)
    · exact ⟨promotion.symm, generation.symm, setGeneration.symm⟩
    · rw [written, deriveSetLifecycle_epoch]
      rfl

theorem audited_failover {setId : ReplicaSetId} {failed : ReplicaId} {reason : Str}
    {mono : MonotonicNs} {wall : WallNs} :
    ctrl.Audited (ctrl.triggerFailover fresh setId failed reason mono wall).2 ↔
      ctrl.ReplacesByStandby (.triggerFailover setId failed reason mono wall) := by
  by_cases applies : ∃ set fr, ctrl.sets[setId]? = some set ∧ ctrl.replicas[failed]? = some fr ∧
    fr.setId = setId
  swap
  · rcases ctrl.triggerFailover_cases fresh setId failed reason mono wall with refused | known
    · rw [refused.2]
      exact iff_of_true audited_refl fun set fr c known found inSet _ =>
        absurd ⟨set, fr, known, found, inSet⟩ applies
    · exact absurd known applies
  obtain ⟨set, fr, known, found, inSet⟩ := applies
  obtain ⟨record, ⟨none, -, -, same⟩ | ⟨chosen, r, selected, -, -, -, same⟩⟩ :=
    triggerFailover_outcome fresh reason mono wall known found inSet
  · refine iff_of_true ⟨[], ?_, Nat.zero_le _, nofun, ?_⟩ ?_
    · rw [same, List.append_nil]
      rfl
    · rintro id ⟨⟨r', post, primary⟩, wasNot⟩
      have entry : r' = fr.failedOver reason ∨ ctrl.replicas[id]? = some r' := by
        rw [same] at post
        have post : (ctrl.putReplica failed (fr.failedOver reason)).replicas[id]? = some r' := post
        rw [putReplica_get] at post
        split_ifs at post
        · exact Or.inl (Option.some.inj post).symm
        · exact Or.inr post
      rcases entry with rfl | before
      · cases primary
      · exact absurd primary (wasNot r' before)
    · intro set' fr' c known' found' _ selected
      obtain rfl : set = set' := Option.some.inj (known.symm.trans known')
      cases (none c selected.found).symm.trans selected.candidate
  have written := congrArg Prod.snd same
  have entry := replaced_get written
  have appended : (ctrl.triggerFailover fresh setId failed reason mono wall).2.promotions =
      ctrl.promotions ++ [ctrl.failoverPromotion fresh setId chosen r mono wall] := by
    rw [written, deriveSetLifecycle_promotions]
  have others (id : ReplicaId) (other : id ≠ chosen) (r' : ReplicaState)
      (post : (ctrl.triggerFailover fresh setId failed reason mono wall).2.replicas[id]? = some r')
      (primary : r'.promotion = .primary) :
      ∃ r, ctrl.replicas[id]? = some r ∧ r.promotion = .primary := by
    rw [entry, if_neg (Ne.symm other)] at post
    split_ifs at post
    · cases post
      cases primary
    · exact ⟨r', post, primary⟩
  rw [audited_single appended others]
  constructor
  · rintro ⟨⟨r', before, source⟩, -, -⟩ set' fr' c known' found' _ selected'
    obtain rfl : set = set' := Option.some.inj (known.symm.trans known')
    obtain rfl : fr = fr' := Option.some.inj (found.symm.trans found')
    have least : chosen = c.1 := selected.same selected'
    have named : ctrl.replicas[chosen]? = some r' := before
    have now : ctrl.replicas[chosen]? = some c.2 := least ▸ selected'.found
    rw [Option.some.inj (now.symm.trans named)]
    exact source.symm
  · intro standby
    refine ⟨⟨r, selected.found, ?_⟩, ⟨r.madePrimary fresh, ?_, rfl, rfl, rfl⟩, ?_⟩
    · exact (standby set fr (chosen, r) known found inSet selected).symm
    · exact (entry chosen).trans (if_pos rfl)
    · rw [written, deriveSetLifecycle_epoch]
      rfl

theorem audited_iff (keyed : ctrl.Keyed) (call : Call) :
    ctrl.Audited (ctrl.step call).2 ↔ ctrl.ReplacesByStandby call.op := by
  obtain ⟨op, fresh⟩ := call
  cases op with
  | promoteReplica id target worker boot mono wall =>
      exact iff_of_true (audited_promote keyed target worker boot mono wall) trivial
  | triggerFailover setId failed reason mono wall => exact audited_failover
  | _ => exact iff_of_true (audited_other rfl) trivial

theorem keyed_command (keyed : ctrl.Keyed) (cmd : Command) : (ctrl.command cmd).2.Keyed := by
  cases cmd with
  | call call => exact keyed_step keyed call
  | recoverInto bytes =>
      rcases ctrl.recoverInto_cases bytes with ⟨-, same⟩ | ⟨state, decoded, -, installed⟩
      · rw [command, same]
        exact keyed
      · rw [command, installed]
        exact decoded_keyed decoded

theorem promotion_log_iff (cmds : List Command) (call : Call) :
    let ctrl := Machine.run command empty cmds
    ctrl.Audited (ctrl.step call).2 ↔ ctrl.ReplacesByStandby call.op := by
  have keyed : Machine.Throughout command Keyed empty cmds :=
    Machine.throughout_of_step cmds (fun _ cmd keyed => keyed_command keyed cmd)
      wellFormed_empty.keyed
  exact audited_iff keyed.last call

theorem unpromoted_logged_standby :
    let ctrl := Machine.run command empty
      ((Sample.serving ++ Sample.bringUp ⟨0, 2⟩).map Command.call)
    ¬ctrl.Audited (ctrl.step
      ⟨.triggerFailover Sample.setId ⟨0, 1⟩ "worker lost" 0 0, Sample.freshAt 3⟩).2 := by
  intro ctrl audited
  have logged : (ctrl.triggerFailover (Sample.freshAt 3) Sample.setId ⟨0, 1⟩ "worker lost" 0
      0).2.promotions.drop ctrl.promotions.length =
        [ctrl.failoverPromotion (Sample.freshAt 3) Sample.setId ⟨0, 2⟩
          { generation := ⟨1, 2⟩ } 0 0] := by
    decide +kernel
  have before : ctrl.replicas[(⟨0, 2⟩ : ReplicaId)]?.map (·.promotion) = some .notPromoted := by
    decide +kernel
  obtain ⟨new, appended, -, traces, -⟩ := audited
  have appended : (ctrl.triggerFailover (Sample.freshAt 3) Sample.setId ⟨0, 1⟩ "worker lost" 0
      0).2.promotions = ctrl.promotions ++ new := appended
  rw [appended, List.drop_left] at logged
  obtain ⟨r, found, source⟩ := (traces _ (logged ▸ List.mem_singleton_self _)).before
  have found : ctrl.replicas[(⟨0, 2⟩ : ReplicaId)]? = some r := found
  rw [found, Option.map_some, Option.some.injEq, ← source] at before
  cases before

end ReplicaSetController

end ReplicaFabric
