import ReplicaFabric.Controller.Logs
import ReplicaFabric.Safety.Restorability
import ReplicaFabric.Safety.Reuse

/-!
# The drain log and the drains

A drain opens a record and its completion settles it. The other ways out of `DRAINING` leave the
record open, so the log matches the drains exactly while no drain ends in one of them.
-/

namespace ReplicaFabric.ReplicaSetController

variable {ctrl next : ReplicaSetController} {id : ReplicaId} {op : Operation} {fresh : FreshIds}

def Draining (ctrl : ReplicaSetController) (id : ReplicaId) : Prop :=
  ∃ r, ctrl.replicas[id]? = some r ∧ r.lifecycle = .draining

def drainsOf (ctrl : ReplicaSetController) (id : ReplicaId) : List DrainRecord :=
  ctrl.drains.filter fun dr => dr.replicaId = id

def openDrains (ctrl : ReplicaSetController) (id : ReplicaId) : Nat :=
  (ctrl.drainsOf id).countP fun dr => dr.state = .draining

structure DrainLogMatches (ctrl : ReplicaSetController) : Prop where
  draining : ∀ id, ctrl.Draining id ↔ ctrl.openDrains id = 1
  single : ∀ id, ctrl.openDrains id ≤ 1

/-- A completion settles the newest record of the replica, the one that the drain it completes has
opened. -/
def CompletesOwn (ctrl : ReplicaSetController) (call : Call) : Prop :=
  ∀ id quiesced force mono, call.op = .completeDrain id quiesced force mono →
    (ctrl.step call).1.isOk = true →
      ∃ older dr, ctrl.drainsOf id = older ++ [dr] ∧ dr.state = .draining ∧
        (ctrl.step call).2.drainsOf id = older ++ [settledDrain quiesced force mono dr]

def AbandonsDrain (ctrl : ReplicaSetController) (id : ReplicaId) : Operation → Prop
  | .unregisterWorker worker => (ctrl.workers[worker]?).isSome ∧
      ∃ r, ctrl.replicas[id]? = some r ∧ r.workerId = worker
  | .provisionReplica x setId worker .. => x = id ∧ ctrl.Provisionable setId worker
  | .failReplica x worker boot .. => x = id ∧
      ∃ r, ctrl.replicas[id]? = some r ∧ (r.workerId = worker ∧ r.bootId = boot)
  | .retireReplica x => x = id
  | .triggerFailover setId failed .. => failed = id ∧ (ctrl.sets[setId]?).isSome ∧
      ∃ r, ctrl.replicas[id]? = some r ∧ r.setId = setId
  | _ => False

/-- No replica that drains is disconnected, provisioned anew, failed, retired or failed over. -/
def LetsDrain (ctrl : ReplicaSetController) (call : Call) : Prop :=
  ∀ id, ctrl.Draining id → ¬ctrl.AbandonsDrain id call.op

theorem ReplicaStep.draining_origin {accepted : Bool} {prior : Option ReplicaState}
    {r' : ReplicaState} (change : ReplicaStep ctrl fresh next id op accepted prior (some r'))
    (draining : r'.lifecycle = .draining) :
    (accepted = true ∧ ∃ worker boot mono, op = .drainReplica id worker boot mono) ∨
      ∃ r, prior = some r ∧ r.lifecycle = .draining := by
  cases change with
  | kept untouched => exact Or.inr ⟨_, rfl, draining⟩
  | @registered wr r =>
      refine Or.inr ⟨r, rfl, ?_⟩
      unfold ReplicaState.afterRestart at draining
      split_ifs at draining
      · exact draining
      · exact draining
  | @unregistered worker r =>
      refine Or.inr ⟨r, rfl, ?_⟩
      unfold ReplicaState.afterDisconnect at draining
      split_ifs at draining
      exact draining
  | @healthReported ev worker boot mono r host alive =>
      exact Or.inr ⟨r, rfl, ReplicaState.healthReported_lifecycle.symm.trans draining⟩
  | @readinessReported rr worker boot r host alive =>
      refine Or.inr ⟨r, rfl, ?_⟩
      unfold ReplicaState.readinessReported at draining
      dsimp only at draining
      split_ifs at draining
      exact draining
  | @promoted target worker boot mono wall r set granted gate grant =>
      rcases promoted_ok.mp grant with ⟨-, -, rfl⟩ | ⟨-, rfl⟩
      · unfold grantedPrimary at draining
        split_ifs at draining <;> cases draining
      · exact Or.inr ⟨r, rfl, draining⟩
  | drained host edge => exact Or.inl ⟨rfl, _, _, _, rfl⟩
  | @failRefused worker boot reason mono r host edge => exact Or.inr ⟨r, rfl, draining⟩
  | @failedOver setId reason mono wall accepted r inSet =>
      refine Or.inr ⟨r, rfl, ?_⟩
      unfold ReplicaState.failedOver at draining
      dsimp only at draining
      split_ifs at draining
      exact draining
  | _ => cases draining

theorem not_draining_of_abandons (draining : ctrl.Draining id)
    (abandons : ctrl.AbandonsDrain id op) : ¬(op.apply fresh ctrl).2.Draining id := by
  obtain ⟨r, found, state⟩ := draining
  have ended (r' : ReplicaState) (post : (op.apply fresh ctrl).2.replicas[id]? = some r')
      (gone : r'.lifecycle ≠ .draining) : ¬(op.apply fresh ctrl).2.Draining id := by
    rintro ⟨r'', found', draining⟩
    obtain rfl : r' = r'' := Option.some.inj (post.symm.trans found')
    exact gone draining
  cases op with
  | unregisterWorker worker =>
      obtain ⟨known, r', found', host⟩ := abandons
      obtain rfl : r = r' := Option.some.inj (found.symm.trans found')
      rcases ctrl.unregisterWorker_cases worker with ⟨unknown, -⟩ | ⟨reg, -, -, written⟩
      · rw [unknown] at known
        cases known
      · refine ended (r.afterDisconnect worker) (by simp [Operation.apply, written, found]) ?_
        rw [ReplicaState.afterDisconnect, if_pos ⟨host, by simp [ReplicaState.hadAuthority, state]⟩]
        exact fun draining => by cases draining
  | provisionReplica x setId worker compat device capacity mono wall =>
      obtain ⟨rfl, provisionable⟩ := abandons
      obtain ⟨⟨set, reg, written⟩, -⟩ :=
        provisionable.written fresh x compat device capacity mono wall
      exact ended _ written fun draining => by cases draining
  | failReplica x worker boot reason mono =>
      obtain ⟨rfl, r', found', host⟩ := abandons
      obtain rfl : r = r' := Option.some.inj (found.symm.trans found')
      refine ended { r.failing reason mono with lifecycle := .failed } ?_
        fun draining => by cases draining
      simp [Operation.apply, failReplica, found, workerBootMatches_iff.mpr host, state,
        ReplicaLifecycle.canTransition, putReplica_get]
  | retireReplica x =>
      obtain rfl : x = id := abandons
      refine ended r.retired ?_ fun draining => by cases draining
      simp [Operation.apply, retireReplica, found, state, ReplicaLifecycle.canTransition,
        putReplica_get]
  | triggerFailover setId failed reason mono wall =>
      obtain ⟨rfl, known, r', found', inSet⟩ := abandons
      obtain rfl : r = r' := Option.some.inj (found.symm.trans found')
      obtain ⟨set, known⟩ := Option.isSome_iff_exists.mp known
      have gone : (r.failedOver reason).lifecycle ≠ .draining := by
        simp [ReplicaState.failedOver, state, ReplicaLifecycle.canTransition]
      rcases triggerFailover_known fresh reason mono wall known found inSet with
        ⟨record, ⟨-, -, written⟩ | ⟨chosen, c, pr, selected, -, -, written⟩⟩
      · exact ended _ ((congrArg (·.replicas[failed]?) written).trans
          (putReplica_here ..)) gone
      · have other := isCandidate_ne_failed selected.candidate
        refine ended _ ((congrArg (·.replicas[failed]?) written).trans ?_) gone
        rw [deriveSetLifecycle_replicas]
        exact (putReplica_get ..).trans
          ((if_neg (Ne.symm other)).trans (putReplica_here ..))
  | _ => exact abandons.elim

theorem draining_step (draining : ctrl.Draining id) (stays : ¬ctrl.AbandonsDrain id op)
    (incomplete : (op.apply fresh ctrl).1.isOk = true →
      ∀ quiesced force mono, op ≠ .completeDrain id quiesced force mono) :
    (op.apply fresh ctrl).2.Draining id := by
  obtain ⟨r, found, state⟩ := draining
  have change := ctrl.replicaStep op fresh id
  rw [found] at change
  obtain ⟨r', post⟩ := change.exists_some
  rw [post] at change
  refine ⟨r', post, ?_⟩
  generalize accepted : (op.apply fresh ctrl).1.isOk = ok at change incomplete
  cases change with
  | kept untouched => exact state
  | registered =>
      unfold ReplicaState.afterRestart
      split_ifs with restart here
      · cases state.symm.trans here.2
      · exact state
      · exact state
  | @unregistered worker r =>
      unfold ReplicaState.afterDisconnect
      split_ifs with here
      · rcases ctrl.unregisterWorker_cases worker with ⟨-, refused⟩ | ⟨reg, known, -⟩
        · cases refused.1.symm.trans accepted
        · exact absurd ⟨by simp [known], r, found, here.1⟩ stays
      · exact state
  | provisioned gate => exact absurd ⟨rfl, provisionGate_isOk.mp (by rw [gate]; rfl)⟩ stays
  | allocated edge => rw [state] at edge; cases edge
  | started edge => rw [state] at edge; cases edge
  | warmed host accepts =>
      rcases accepts with edge | warming
      · rw [state] at edge
        cases edge
      · cases state.symm.trans warming
  | healthReported host alive => exact ReplicaState.healthReported_lifecycle.trans state
  | readinessReported host alive => simp [ReplicaState.readinessReported, state]
  | promoted gate grant =>
      rcases promoted_ok.mp grant with ⟨-, ready, -⟩ | ⟨-, rfl⟩
      · simp [ReplicaState.readyToPromote, state] at ready
      · exact state
  | drained host edge => rcases edge with early | early <;> cases state.symm.trans early
  | quiesced edge => exact absurd rfl (incomplete rfl _ _ _)
  | failed host => exact absurd ⟨rfl, _, found, host⟩ stays
  | failRefused host edge => exact absurd ⟨rfl, _, found, host⟩ stays
  | retired edge => exact absurd rfl stays
  | @failedOver setId reason mono wall _ r inSet =>
      rcases ctrl.triggerFailover_cases fresh setId id reason mono wall with refused |
        ⟨set, fr, known, -⟩
      · rw [Operation.apply, refused.2, found] at post
        exact (congrArg ReplicaState.lifecycle (Option.some.inj post)).symm.trans state
      · exact absurd ⟨rfl, by simp [known], r, found, inSet⟩ stays
  | chosen selected recorded =>
      rcases (isCandidate_iff.mp selected.candidate).2.2.1 with early | early <;>
        cases state.symm.trans early

theorem settleDrain_filter (x : ReplicaId) (settle : DrainRecord → DrainRecord)
    (keeps : ∀ dr, (settle dr).replicaId = dr.replicaId) (log : List DrainRecord) :
    (settleDrain x settle log).filter (fun dr => dr.replicaId = id) =
      if x = id then settleDrain x settle (log.filter fun dr => dr.replicaId = id)
      else log.filter fun dr => dr.replicaId = id := by
  induction log with
  | nil => simp [settleDrain]
  | cons dr log ih =>
      by_cases hit : dr.replicaId = x ∧ dr.state = .draining
      · obtain ⟨rfl, isOpen⟩ := hit
        by_cases here : dr.replicaId = id <;> simp [settleDrain, isOpen, keeps, here]
      · rw [settleDrain, if_neg hit, List.filter_cons, ih, List.filter_cons]
        split_ifs with mine here
        · rw [settleDrain, if_neg hit]
        · rfl
        · rfl
        · rfl

theorem settleDrain_newest {older : List DrainRecord} {dr : DrainRecord}
    (settle : DrainRecord → DrainRecord) (named : dr.replicaId = id) (isOpen : dr.state = .draining)
    (closed : older.countP (fun dr => dr.state = .draining) = 0) :
    settleDrain id settle (older ++ [dr]) = older ++ [settle dr] := by
  induction older with
  | nil => simp [settleDrain, named, isOpen]
  | cons first older ih =>
      obtain ⟨first, closed⟩ := List.forall_mem_cons.mp (List.countP_eq_zero.mp closed)
      rw [List.cons_append, settleDrain, if_neg fun hit => first (decide_eq_true hit.2),
        ih (List.countP_eq_zero.mpr closed)]
      rfl

inductive DrainStep (ctrl : ReplicaSetController) (op : Operation) (next : ReplicaSetController)
    (id : ReplicaId) : Prop
  | kept (records : next.drainsOf id = ctrl.drainsOf id)
      (after : next.Draining id ↔ ctrl.Draining id ∧ ¬ctrl.AbandonsDrain id op)
  | opened {dr} (records : next.drainsOf id = ctrl.drainsOf id ++ [dr])
      (isOpen : dr.state = .draining) (before : ¬ctrl.Draining id) (after : next.Draining id)
      (other : ¬ctrl.AbandonsDrain id op)
  | settled {quiesced force mono} (completes : op = .completeDrain id quiesced force mono)
      (records : next.drainsOf id =
        settleDrain id (settledDrain quiesced force mono) (ctrl.drainsOf id))
      (before : ctrl.Draining id) (after : ¬next.Draining id)

theorem drainReplica_draining {worker : WorkerId} {boot : WorkerBootId} {mono : MonotonicNs}
    (accepted : (ctrl.drainReplica fresh id worker boot mono).1.isOk = true) :
    (ctrl.drainReplica fresh id worker boot mono).2.Draining id := by
  rcases ctrl.drainReplica_outcome fresh id worker boot mono with refused |
    ⟨r, -, -, -, -, -, written⟩
  · cases refused.1.symm.trans accepted
  · rw [written]
    exact ⟨r.drained, putReplica_here .., rfl⟩

theorem completeDrain_not_draining {quiesced : UInt64} {force : Bool} {mono : MonotonicNs}
    (accepted : (ctrl.completeDrain id quiesced force mono).1.isOk = true) :
    ¬(ctrl.completeDrain id quiesced force mono).2.Draining id := by
  rcases ctrl.completeDrain_outcome id quiesced force mono with refused |
    ⟨r, -, -, -, -, written⟩
  · cases refused.1.symm.trans accepted
  · rw [written]
    rintro ⟨r', found, draining⟩
    obtain rfl : r' = r.quiesced :=
      Option.some.inj (found.symm.trans (putReplica_here ..))
    cases draining

theorem draining_step_iff
    (undrained : (op.apply fresh ctrl).1.isOk = true →
      ∀ worker boot mono, op ≠ .drainReplica id worker boot mono)
    (incomplete : (op.apply fresh ctrl).1.isOk = true →
      ∀ quiesced force mono, op ≠ .completeDrain id quiesced force mono) :
    (op.apply fresh ctrl).2.Draining id ↔ ctrl.Draining id ∧ ¬ctrl.AbandonsDrain id op := by
  constructor
  · rintro ⟨r', post, state⟩
    have change := ctrl.replicaStep op fresh id
    rw [post] at change
    rcases change.draining_origin state with ⟨accepted, worker, boot, mono, drains⟩ | before
    · exact absurd drains (undrained accepted worker boot mono)
    · exact ⟨before, fun abandons => not_draining_of_abandons before abandons ⟨r', post, state⟩⟩
  · rintro ⟨draining, stays⟩
    exact draining_step draining stays incomplete

theorem drainStep (keyed : ctrl.Keyed) (op : Operation) (fresh : FreshIds) (id : ReplicaId) :
    DrainStep ctrl op (op.apply fresh ctrl).2 id := by
  have change := (ctrl.logsStep op fresh).drains
  have after := @draining_step_iff ctrl id op fresh
  generalize accepted : (op.apply fresh ctrl).1.isOk = ok,
    logged : (op.apply fresh ctrl).2.drains = log at change after
  have records : (op.apply fresh ctrl).2.drainsOf id = log.filter fun dr => dr.replicaId = id := by
    rw [drainsOf, logged]
  cases change with
  | kept other =>
      refine .kept records (after ?_ ?_)
      · rintro rfl worker boot mono rfl
        cases other rfl
      · rintro rfl quiesced force mono rfl
        cases other rfl
  | @opened x worker boot mono r found edge =>
      rw [List.filter_append, List.filter_singleton] at records
      by_cases here : x = id
      · subst here
        have named : (openedDrain r fresh mono).replicaId = x := keyed.replicas x r found
        rw [decide_eq_true named, cond_true] at records
        refine .opened records rfl ?_ (drainReplica_draining accepted) not_false
        rintro ⟨r', found', state⟩
        obtain rfl : r = r' := Option.some.inj (found.symm.trans found')
        rcases edge with early | early <;> cases state.symm.trans early
      · have named : (openedDrain r fresh mono).replicaId ≠ id :=
          fun same => here ((keyed.replicas x r found).symm.trans same)
        rw [decide_eq_false named, cond_false, List.append_nil] at records
        refine .kept records (after ?_ nofun)
        rintro - _ _ _ same
        cases same
        exact here rfl
  | @settled x quiesced force mono r found edge =>
      rw [settleDrain_filter r.id (settledDrain quiesced force mono) fun _ => rfl, keyed.replicas x r found] at records
      split_ifs at records with here
      · subst here
        exact .settled rfl records ⟨r, found, edge⟩ (completeDrain_not_draining accepted)
      · refine .kept records (after nofun ?_)
        rintro - _ _ _ same
        cases same
        exact here rfl

def NewestOpen (ctrl : ReplicaSetController) : Prop :=
  ∀ id, ctrl.Draining id → ∃ older dr, ctrl.drainsOf id = older ++ [dr] ∧ dr.state = .draining

theorem newestOpen_step (keyed : ctrl.Keyed) (newest : ctrl.NewestOpen) (call : Call) :
    (ctrl.step call).2.NewestOpen := by
  intro id draining
  cases ctrl.drainStep keyed call.op call.fresh id with
  | kept records after =>
      obtain ⟨older, dr, split, isOpen⟩ := newest id (after.mp draining).1
      exact ⟨older, dr, records.trans split, isOpen⟩
  | opened records isOpen before after other => exact ⟨_, _, records, isOpen⟩
  | settled completes records before after => exact absurd draining after

theorem NewestOpen.split (newest : ctrl.NewestOpen) (matched : ctrl.DrainLogMatches)
    (draining : ctrl.Draining id) :
    ∃ older dr, ctrl.drainsOf id = older ++ [dr] ∧ dr.state = .draining ∧
      older.countP (fun dr => dr.state = .draining) = 0 ∧
      ∀ settle, settleDrain id settle (ctrl.drainsOf id) = older ++ [settle dr] := by
  obtain ⟨older, dr, split, isOpen⟩ := newest id draining
  have single := matched.single id
  rw [openDrains, split, List.countP_append, List.countP_singleton,
    if_pos (decide_eq_true isOpen)] at single
  have closed : older.countP (fun dr => dr.state = .draining) = 0 := by omega
  have member : dr ∈ ctrl.drainsOf id := by simp [split]
  refine ⟨older, dr, split, isOpen, closed, fun settle => ?_⟩
  rw [split]
  exact settleDrain_newest settle (of_decide_eq_true (List.mem_filter.mp member).2) isOpen closed

theorem completesOwn_of_matches (keyed : ctrl.Keyed) (newest : ctrl.NewestOpen)
    (matched : ctrl.DrainLogMatches) (call : Call) : ctrl.CompletesOwn call := by
  obtain ⟨op, fresh⟩ := call
  rintro id quiesced force mono rfl accepted
  have after : ¬(ctrl.completeDrain id quiesced force mono).2.Draining id :=
    completeDrain_not_draining accepted
  rcases ctrl.completeDrain_outcome id quiesced force mono with refused | ⟨r, found, state, -⟩
  · cases refused.1.symm.trans accepted
  obtain ⟨older, dr, split, isOpen, -, settles⟩ := newest.split matched ⟨r, found, state⟩
  cases ctrl.drainStep keyed (.completeDrain id quiesced force mono) fresh id with
  | kept records still => exact absurd (still.mpr ⟨⟨r, found, state⟩, not_false⟩) after
  | opened records new before drains other => exact absurd drains after
  | settled completes records before after =>
      cases completes
      exact ⟨older, dr, split, isOpen, records.trans (settles _)⟩

theorem matches_step (keyed : ctrl.Keyed) (newest : ctrl.NewestOpen)
    (matched : ctrl.DrainLogMatches) (call : Call) :
    (ctrl.step call).2.DrainLogMatches ↔ ctrl.LetsDrain call := by
  constructor
  · intro still id draining abandons
    cases ctrl.drainStep keyed call.op call.fresh id with
    | kept records after =>
        have one : (ctrl.step call).2.openDrains id = 1 :=
          (congrArg _ records).trans ((matched.draining id).mp draining)
        exact (after.mp ((still.draining id).mpr one)).2 abandons
    | opened records isOpen before after other => exact other abandons
    | settled completes records before after =>
        rw [completes] at abandons
        exact abandons
  · intro lets
    have tracked (id : ReplicaId) : ((ctrl.step call).2.Draining id ↔
        (ctrl.step call).2.openDrains id = 1) ∧ (ctrl.step call).2.openDrains id ≤ 1 := by
      have before := matched.draining id
      have single := matched.single id
      cases ctrl.drainStep keyed call.op call.fresh id with
      | kept records after =>
          have same : (ctrl.step call).2.openDrains id = ctrl.openDrains id :=
            congrArg (List.countP _) records
          rw [same]
          exact ⟨after.trans ((and_iff_left_of_imp (lets id)).trans before), single⟩
      | opened records isOpen idle draining other =>
          have more : (ctrl.step call).2.openDrains id = ctrl.openDrains id + 1 := by
            rw [openDrains, show (ctrl.step call).2.drainsOf id = _ from records,
              List.countP_append, List.countP_singleton, if_pos (decide_eq_true isOpen)]
            rfl
          have none : ctrl.openDrains id ≠ 1 := fun one => idle (before.mpr one)
          exact ⟨iff_of_true draining (by omega), by omega⟩
      | settled completes records draining after =>
          obtain ⟨older, dr, -, -, closed, settles⟩ := newest.split matched draining
          have none : (ctrl.step call).2.openDrains id = 0 := by
            rw [openDrains, show (ctrl.step call).2.drainsOf id = _ from records, settles,
              List.countP_append, closed]
            rfl
          exact ⟨iff_of_false after (by omega), by omega⟩
    exact ⟨fun id => (tracked id).1, fun id => (tracked id).2⟩

theorem draining_empty : ¬empty.Draining id := by
  rintro ⟨r, found, -⟩
  simp [empty] at found

theorem drainLogMatches_empty : empty.DrainLogMatches :=
  ⟨fun _ => iff_of_false draining_empty nofun, fun _ => Nat.zero_le _⟩

theorem drain_log_iff (calls : List Call) :
    (Machine.Throughout step DrainLogMatches empty calls ∧
        Machine.Admissible step CompletesOwn empty calls) ↔
      Machine.Admissible step LetsDrain empty calls := by
  have known : Machine.Throughout step (fun ctrl => ctrl.Keyed ∧ ctrl.NewestOpen) empty calls :=
    Machine.throughout_of_step calls
      (fun _ call both => ⟨keyed_step both.1 call, newestOpen_step both.1 both.2 call⟩)
      ⟨wellFormed_empty.keyed, fun _ draining => absurd draining draining_empty⟩
  rw [← Machine.throughout_iff_admissible known
    (fun _ call both matched => matches_step both.1 both.2 matched call) drainLogMatches_empty]
  refine and_iff_left_of_imp fun always => ?_
  exact (known.and always).admissible fun _ call holds =>
    completesOwn_of_matches holds.1.1 holds.1.2 holds.2 call

def abandonedDrain : List Call :=
  Sample.serving ++ [⟨.drainReplica ⟨0, 1⟩ ⟨0, 1⟩ ⟨0, 1⟩ 5, Sample.freshAt 4⟩,
    ⟨.unregisterWorker ⟨0, 1⟩, Sample.freshAt 5⟩]

/-- The replica is `FAILED`, and its record stays open. -/
theorem abandonedDrain_stays_open :
    ¬∀ calls, Machine.Throughout step DrainLogMatches empty calls ∧
      Machine.Admissible step CompletesOwn empty calls := by
  intro always
  have matched := (always abandonedDrain).1.last
  have isOpen : (Machine.run step empty abandonedDrain).openDrains ⟨0, 1⟩ = 1 := by decide
  have failed : (Machine.run step empty abandonedDrain).replicas[
      (⟨0, 1⟩ : ReplicaId)]?.map (·.lifecycle) = some .failed := by decide
  obtain ⟨r, found, state⟩ := (matched.draining ⟨0, 1⟩).mpr isOpen
  rw [found, Option.map_some, state] at failed
  cases failed

end ReplicaFabric.ReplicaSetController
