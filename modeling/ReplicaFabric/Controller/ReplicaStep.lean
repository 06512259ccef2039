import ReplicaFabric.Controller.Edits
import ReplicaFabric.Controller.Failover
import ReplicaFabric.Controller.Operation

namespace ReplicaFabric.ReplicaSetController

/-- What one call can do to the replica under `id`: the operation, whether it was accepted, and
the entry before and after. `next` is the state after the call. -/
inductive ReplicaStep (ctrl : ReplicaSetController) (fresh : FreshIds)
    (next : ReplicaSetController) (id : ReplicaId) :
    Operation → Bool → Option ReplicaState → Option ReplicaState → Prop
  | absent {op accepted} : ReplicaStep ctrl fresh next id op accepted none none
  | kept {op accepted r} (untouched : accepted = true → ¬op.Touches id) :
      ReplicaStep ctrl fresh next id op accepted (some r) (some r)
  | registered {wr r} :
      ReplicaStep ctrl fresh next id (.registerWorker wr) true (some r)
        (some (if ctrl.restarts wr then r.afterRestart wr.workerId else r))
  | unregistered {worker r} :
      ReplicaStep ctrl fresh next id (.unregisterWorker worker) true (some r)
        (some (r.afterDisconnect worker))
  | provisioned {setId worker compat device capacity mono wall set reg prior}
      (gate : ctrl.provisionGate setId worker = .ok (set, reg)) :
      ReplicaStep ctrl fresh next id
        (.provisionReplica id setId worker compat device capacity mono wall) true prior
        (some (.provisioned id setId set reg worker compat device capacity ctrl.epoch fresh mono
          wall))
  | allocated {placementId r} (edge : r.lifecycle.canTransition .allocating = true) :
      ReplicaStep ctrl fresh next id (.setAllocating id placementId) true (some r)
        (some (r.allocated placementId))
  | started {mono wall r} (edge : r.lifecycle.canTransition .starting = true) :
      ReplicaStep ctrl fresh next id (.setStarting id mono wall) true (some r)
        (some (r.started mono wall))
  | warmed {warm worker boot mono r} (host : r.workerId = worker ∧ r.bootId = boot)
      (accepts : AcceptsWarming r) :
      ReplicaStep ctrl fresh next id (.warmReplica id warm worker boot mono) true (some r)
        (some (r.warmed warm mono))
  | healthReported {ev worker boot mono r} (host : r.workerId = worker ∧ r.bootId = boot)
      (alive : ¬Terminated r) :
      ReplicaStep ctrl fresh next id (.reportHealth id ev worker boot mono) true (some r)
        (some (r.healthReported ev mono))
  | readinessReported {rr worker boot r} (host : r.workerId = worker ∧ r.bootId = boot)
      (alive : ¬Terminated r) :
      ReplicaStep ctrl fresh next id (.reportReadiness id rr worker boot) true (some r)
        (some (r.readinessReported rr))
  | promoted {target worker boot mono wall r set granted}
      (gate : PromotionGate ctrl r worker boot set)
      (grant : promoted r target fresh = .ok granted) :
      ReplicaStep ctrl fresh next id (.promoteReplica id target worker boot mono wall) true
        (some r) (some granted)
  | drained {worker boot mono r} (host : r.workerId = worker ∧ r.bootId = boot)
      (edge : r.lifecycle = .ready ∨ r.lifecycle = .serving) :
      ReplicaStep ctrl fresh next id (.drainReplica id worker boot mono) true (some r)
        (some r.drained)
  | quiesced {quiesced force mono r} (edge : r.lifecycle = .draining) :
      ReplicaStep ctrl fresh next id (.completeDrain id quiesced force mono) true (some r)
        (some r.quiesced)
  | failed {worker boot reason mono r} (host : r.workerId = worker ∧ r.bootId = boot) :
      ReplicaStep ctrl fresh next id (.failReplica id worker boot reason mono) true (some r)
        (some { r.failing reason mono with lifecycle := .failed })
  | failRefused {worker boot reason mono r} (host : r.workerId = worker ∧ r.bootId = boot)
      (edge : r.lifecycle.canTransition .failed = false) :
      ReplicaStep ctrl fresh next id (.failReplica id worker boot reason mono) false (some r)
        (some (r.failing reason mono))
  | retired {r} (edge : r.lifecycle.canTransition .retired = true) :
      ReplicaStep ctrl fresh next id (.retireReplica id) true (some r) (some r.retired)
  | failedOver {setId reason mono wall accepted r} (inSet : r.setId = setId) :
      ReplicaStep ctrl fresh next id (.triggerFailover setId id reason mono wall) accepted
        (some r) (some (r.failedOver reason))
  | chosen {setId failed reason mono wall r set failedWorker}
      (selected : Selected ctrl set setId failed failedWorker (id, r))
      (recorded : ∃ record : FailoverRecord,
        next.failovers = ctrl.failovers ++ [record] ∧ record.replacement = id) :
      ReplicaStep ctrl fresh next id (.triggerFailover setId failed reason mono wall) true
        (some r) (some (r.madePrimary fresh))

namespace ReplicaStep

variable {ctrl next : ReplicaSetController} {fresh : FreshIds} {id : ReplicaId} {op : Operation}
  {outcome : OpResult × ReplicaSetController}

theorem of_same {accepted : Bool} {entry : Option ReplicaState}
    (untouched : accepted = true → ¬op.Touches id) :
    ReplicaStep ctrl fresh next id op accepted entry entry := by
  cases entry with
  | none => exact .absent
  | some r => exact .kept untouched

theorem of_refused (refused : Refused outcome ctrl) :
    ReplicaStep ctrl fresh outcome.2 id op outcome.1.isOk ctrl.replicas[id]?
      outcome.2.replicas[id]? := by
  obtain ⟨notOk, same⟩ := refused
  rw [notOk, same]
  exact of_same nofun

theorem of_put {target : ReplicaId} {accepted : Bool} {r r' : ReplicaState}
    (found : ctrl.replicas[target]? = some r)
    (written : next.replicas = ctrl.replicas.insert target r')
    (elsewhere : target ≠ id → accepted = true → ¬op.Touches id)
    (here : target = id → ReplicaStep ctrl fresh next id op accepted (some r) (some r')) :
    ReplicaStep ctrl fresh next id op accepted ctrl.replicas[id]? next.replicas[id]? := by
  rw [written, Table.get_insert]
  split_ifs with same
  · subst same
    rw [found]
    exact here rfl
  · exact of_same (elsewhere same)

theorem of_edits {target : ReplicaId} {guard : ReplicaState → Prop}
    {edit : ReplicaState → ReplicaState} (edits : Edits outcome ctrl target guard edit)
    (elsewhere : target ≠ id → ¬op.Touches id)
    (here : ∀ r, target = id → guard r →
      ReplicaStep ctrl fresh outcome.2 id op true (some r) (some (edit r))) :
    ReplicaStep ctrl fresh outcome.2 id op outcome.1.isOk ctrl.replicas[id]?
      outcome.2.replicas[id]? := by
  obtain ⟨r, found, guarded, accepted, written⟩ := edits
  rw [accepted]
  exact of_put found ((congrArg replicas written).trans rfl) (fun other _ => elsewhere other)
    fun same => here r same guarded

end ReplicaStep

variable {ctrl : ReplicaSetController}

theorem triggerFailover_replicaStep (fresh : FreshIds) (id : ReplicaId) (setId : ReplicaSetId)
    (failed : ReplicaId) (reason : Str) (mono : MonotonicNs) (wall : WallNs) :
    let outcome := ctrl.triggerFailover fresh setId failed reason mono wall
    ReplicaStep ctrl fresh outcome.2 id (.triggerFailover setId failed reason mono wall)
      outcome.1.isOk ctrl.replicas[id]? outcome.2.replicas[id]? := by
  intro outcome
  rcases ctrl.triggerFailover_cases fresh setId failed reason mono wall with refused |
    ⟨set, fr, foundSet, foundFailed, inSet⟩
  · exact .of_refused refused
  have ofFailed (same : failed = id) (accepted : Bool) :
      ReplicaStep ctrl fresh outcome.2 id (.triggerFailover setId failed reason mono wall)
        accepted ctrl.replicas[id]? (some (fr.failedOver reason)) := by
    subst same
    rw [foundFailed]
    exact .failedOver inSet
  rcases triggerFailover_known fresh reason mono wall foundSet foundFailed inSet with
    ⟨record, ⟨-, notOk, written⟩ |
      ⟨chosen, r, pr, selected, replacement, accepted, written⟩⟩
  · have entry : outcome.2.replicas[id]? =
        if failed = id then some (fr.failedOver reason) else ctrl.replicas[id]? := by
      simp only [outcome, written]
      exact putReplica_get ..
    rw [entry]
    split_ifs with same
    · exact ofFailed same _
    · exact .of_same fun _ => same
  · have entry : outcome.2.replicas[id]? = if chosen = id then some (r.madePrimary fresh)
        else if failed = id then some (fr.failedOver reason) else ctrl.replicas[id]? :=
      replaced_get written id
    have logged : outcome.2.failovers = ctrl.failovers ++ [record] := by
      simp only [outcome, written, deriveSetLifecycle_failovers]
    rw [entry]
    split_ifs with isChosen same
    · subst isChosen
      have found : ctrl.replicas[chosen]? = some r := selected.found
      rw [found, show outcome.1.isOk = true from accepted]
      exact .chosen selected ⟨record, logged, replacement⟩
    · exact ofFailed same _
    · exact .of_same fun _ => same

theorem replicaStep (op : Operation) (fresh : FreshIds) (id : ReplicaId) :
    ReplicaStep ctrl fresh (op.apply fresh ctrl).2 id op (op.apply fresh ctrl).1.isOk
      ctrl.replicas[id]? (op.apply fresh ctrl).2.replicas[id]? := by
  cases op with
  | registerWorker wr =>
      have entry : (ctrl.registerWorker wr).2.replicas[id]? = ctrl.replicas[id]?.map fun r =>
          if ctrl.restarts wr then r.afterRestart wr.workerId else r := by
        simp only [registerWorker]
        split_ifs with restart
        · exact Table.get_map ..
        · simp
      simp only [Operation.apply, entry]
      cases ctrl.replicas[id]? with
      | none => exact .absent
      | some r => exact .registered
  | unregisterWorker worker =>
      rcases ctrl.unregisterWorker_cases worker with ⟨-, refused⟩ | ⟨reg, -, accepted, written⟩
      · exact .of_refused refused
      · simp only [Operation.apply, accepted, written, Table.get_map]
        cases ctrl.replicas[id]? with
        | none => exact .absent
        | some r => exact .unregistered
  | createReplicaSet set epoch =>
      rcases ctrl.createReplicaSet_cases set epoch with refused | ⟨-, -, -, written⟩
      · exact .of_refused refused
      · simp only [Operation.apply, written]
        exact .of_same fun _ => not_false
  | transitionReplicaSet setId target =>
      rcases ctrl.transitionReplicaSet_cases setId target with refused | ⟨s, -, -, -, written⟩
      · exact .of_refused refused
      · simp only [Operation.apply, written]
        exact .of_same fun _ => not_false
  | provisionReplica replicaId setId worker compat device capacity mono wall =>
      rcases ctrl.provisionReplica_cases fresh replicaId setId worker compat device capacity mono
        wall with ⟨-, refused⟩ | ⟨set, reg, lifecycle, gate, -, accepted, written⟩
      · exact .of_refused refused
      · simp only [Operation.apply, accepted, written, putReplica_get, putSet_replicas]
        split_ifs with same
        · subst same
          exact .provisioned gate
        · exact .of_same fun _ => same
  | setAllocating replicaId placementId =>
      rcases ctrl.setAllocating_cases replicaId placementId with refused | edits
      · exact .of_refused refused
      · exact .of_edits edits (fun other => other) fun r same edge => same ▸ .allocated edge
  | setStarting replicaId mono wall =>
      rcases ctrl.setStarting_cases replicaId mono wall with refused | edits
      · exact .of_refused refused
      · exact .of_edits edits (fun other => other) fun r same edge => same ▸ .started edge
  | warmReplica replicaId warm worker boot mono =>
      rcases ctrl.warmReplica_cases replicaId warm worker boot mono with refused | edits
      · exact .of_refused refused
      · exact .of_edits edits (fun other => other) fun r same ⟨host, accepts⟩ => same ▸ .warmed host accepts
  | reportHealth replicaId ev worker boot mono =>
      rcases ctrl.reportHealth_cases replicaId ev worker boot mono with refused | edits
      · exact .of_refused refused
      · exact .of_edits edits (fun other => other)
          fun r same ⟨host, _, _, alive⟩ => same ▸ .healthReported host alive
  | reportReadiness replicaId rr worker boot =>
      rcases ctrl.reportReadiness_cases replicaId rr worker boot with refused | edits
      · exact .of_refused refused
      · exact .of_edits edits (fun other => other)
          fun r same ⟨host, _, alive⟩ => same ▸ .readinessReported host alive
  | promoteReplica replicaId target worker boot mono wall =>
      rcases ctrl.promoteReplica_cases fresh replicaId target worker boot mono wall with refused |
        ⟨r, set, granted, record, found, gate, grant, accepted, written⟩
      · exact .of_refused refused
      · rw [Operation.apply, accepted]
        exact .of_put found ((congrArg replicas written).trans (deriveSetLifecycle_replicas ..))
          (fun other _ => other) fun same => same ▸ .promoted gate grant
  | drainReplica replicaId worker boot mono =>
      rcases ctrl.drainReplica_cases fresh replicaId worker boot mono with refused |
        ⟨r, record, found, host, -, edge, accepted, written⟩
      · exact .of_refused refused
      · rw [Operation.apply, accepted]
        exact .of_put found ((congrArg replicas written).trans rfl) (fun other _ => other)
          fun same => same ▸ .drained host edge
  | completeDrain replicaId quiesced force mono =>
      rcases ctrl.completeDrain_cases replicaId quiesced force mono with refused |
        ⟨r, settle, found, edge, -, accepted, written⟩
      · exact .of_refused refused
      · rw [Operation.apply, accepted]
        exact .of_put found ((congrArg replicas written).trans rfl) (fun other _ => other)
          fun same => same ▸ .quiesced edge
  | failReplica replicaId worker boot reason mono =>
      rcases ctrl.failReplica_cases replicaId worker boot reason mono with refused |
        ⟨r, found, host, ⟨edge, accepted, written⟩ | ⟨edge, accepted, written⟩⟩
      · exact .of_refused refused
      · rw [Operation.apply, accepted]
        exact .of_put found ((congrArg replicas written).trans rfl) (fun _ => nofun)
          fun same => same ▸ .failRefused host edge
      · rw [Operation.apply, accepted]
        exact .of_put found ((congrArg replicas written).trans rfl) (fun other _ => other)
          fun same => same ▸ .failed host
  | retireReplica replicaId =>
      rcases ctrl.retireReplica_cases replicaId with refused | edits
      · exact .of_refused refused
      · exact .of_edits edits (fun other => other) fun r same edge => same ▸ .retired edge
  | triggerFailover setId failed reason mono wall =>
      exact triggerFailover_replicaStep fresh id setId failed reason mono wall
  | setEpoch epoch => exact .of_same fun _ => not_false

namespace ReplicaStep

variable {next : ReplicaSetController} {fresh : FreshIds} {id : ReplicaId} {op : Operation}
  {accepted : Bool} {r r' : ReplicaState}

theorem exists_some {post : Option ReplicaState}
    (change : ReplicaStep ctrl fresh next id op accepted (some r) post) :
    ∃ r', post = some r' := by
  cases change <;> exact ⟨_, rfl⟩

theorem exists_prior {prior : Option ReplicaState}
    (change : ReplicaStep ctrl fresh next id op accepted prior (some r'))
    (carried : accepted = true → op.provisions id = false) : ∃ r, prior = some r := by
  cases change with
  | provisioned gate => simp [Operation.provisions] at carried
  | _ => exact ⟨_, rfl⟩

theorem incarnation (change : ReplicaStep ctrl fresh next id op accepted (some r) (some r'))
    (carried : accepted = true → op.provisions id = false) : r'.incarnation = r.incarnation := by
  cases change with
  | provisioned gate => simp [Operation.provisions] at carried
  | kept untouched => rfl
  | registered =>
      split
      · exact ReplicaState.afterRestart_incarnation _
      · rfl
  | promoted gate grant => exact promoted_incarnation grant
  | failed host => rfl
  | _ => simp

theorem terminal (change : ReplicaStep ctrl fresh next id op accepted (some r) (some r'))
    (carried : accepted = true → op.provisions id = false) (ended : r.lifecycle.Terminal) :
    r'.lifecycle.Terminal := by
  cases change with
  | provisioned gate => simp [Operation.provisions] at carried
  | kept untouched => exact ended
  | registered =>
      split
      · exact ReplicaState.afterRestart_terminal.mpr (Or.inl ended)
      · exact ended
  | unregistered => exact ReplicaState.afterDisconnect_terminal.mpr (Or.inl ended)
  | allocated edge => exact absurd edge (ended.no_edge (by simp))
  | started edge => exact absurd edge (ended.no_edge (by simp))
  | warmed host accepts =>
      exact absurd accepts (not_or.mpr ⟨ended.no_edge (by simp), fun warming => by
        rw [warming] at ended; exact ended⟩)
  | healthReported host alive => exact ReplicaState.healthReported_lifecycle.symm ▸ ended
  | readinessReported host alive => exact ReplicaState.readinessReported_terminal ended
  | promoted gate grant =>
      rcases promoted_ok.mp grant with ⟨-, ready, -⟩ | ⟨-, rfl⟩
      · exact absurd ready (ReplicaState.not_readyToPromote ended)
      · exact ended
  | drained host edge => trivial
  | quiesced edge => trivial
  | failed host => trivial
  | failRefused host edge => exact ended
  | retired edge => trivial
  | failedOver inSet => exact ReplicaState.failedOver_terminal ended
  | chosen selected recorded =>
      have ready := (isCandidate_iff.mp selected.candidate).2.2.1
      exact absurd (by simpa [ReplicaState.readyToPromote] using ready)
        (ReplicaState.not_readyToPromote ended)

theorem consistent {prior : Option ReplicaState}
    (change : ReplicaStep ctrl fresh next id op accepted prior (some r'))
    (before : ∀ r, prior = some r → AuthorityConsistent r) : AuthorityConsistent r' := by
  cases change with
  | provisioned gate => exact .of_none rfl nofun nofun
  | kept untouched => exact before _ rfl
  | registered =>
      split
      · exact (before _ rfl).afterRestart _
      · exact before _ rfl
  | unregistered => exact (before _ rfl).afterDisconnect _
  | allocated edge =>
      exact (before _ rfl).of_idle (ReplicaLifecycle.not_serving_of_edge edge (by simp)) rfl rfl rfl
  | started edge =>
      exact (before _ rfl).of_idle (ReplicaLifecycle.not_serving_of_edge edge (by simp)) rfl rfl rfl
  | warmed host accepts =>
      have idle := accepts.elim (ReplicaLifecycle.not_serving_of_edge · (by simp))
        fun warming => by rw [warming]; nofun
      exact (before _ rfl).of_idle idle rfl rfl rfl
  | healthReported host alive => exact (before _ rfl).healthReported _ _
  | readinessReported host alive => exact (before _ rfl).readinessReported _
  | promoted gate grant => exact .promoted grant
  | drained host edge => exact .of_none rfl nofun nofun
  | quiesced edge => exact (before _ rfl).quiesced edge
  | failed host => exact .of_none rfl nofun nofun
  | failRefused host edge => exact .of_none rfl nofun nofun
  | retired edge => exact .of_none rfl nofun nofun
  | failedOver inSet => exact .of_none rfl nofun nofun
  | chosen selected recorded => exact .madePrimary fresh

end ReplicaStep

theorem ReplicaStep.of_provisions {next : ReplicaSetController} {fresh : FreshIds}
    {id : ReplicaId} {op : Operation} {accepted : Bool} {prior : Option ReplicaState}
    {r' : ReplicaState} (change : ReplicaStep ctrl fresh next id op accepted prior (some r'))
    (accepts : accepted = true) (provisions : op.provisions id = true) :
    ∃ setId worker compat device capacity mono wall set reg,
      ctrl.provisionGate setId worker = .ok (set, reg) ∧
      r' = .provisioned id setId set reg worker compat device capacity ctrl.epoch fresh mono wall := by
  cases change with
  | kept untouched => exact absurd (Operation.touches_of_provisions provisions) (untouched accepts)
  | provisioned gate => exact ⟨_, _, _, _, _, _, _, _, _, gate, rfl⟩
  | _ => cases provisions

theorem entry_cases {op : Operation} {fresh : FreshIds} {id : ReplicaId} {r' : ReplicaState}
    (found : (op.apply fresh ctrl).2.replicas[id]? = some r') :
    (∃ r, ctrl.replicas[id]? = some r ∧
      ((op.apply fresh ctrl).1.isOk = true → op.provisions id = false) ∧
      ReplicaStep ctrl fresh (op.apply fresh ctrl).2 id op (op.apply fresh ctrl).1.isOk (some r)
        (some r')) ∨
    ((op.apply fresh ctrl).1.isOk = true ∧ op.provisions id = true ∧
      ∃ setId worker compat device capacity mono wall set reg,
        ctrl.provisionGate setId worker = .ok (set, reg) ∧
        r' = .provisioned id setId set reg worker compat device capacity ctrl.epoch fresh mono
          wall) := by
  have change := ctrl.replicaStep op fresh id
  rw [found] at change
  by_cases carried : (op.apply fresh ctrl).1.isOk = true → op.provisions id = false
  · obtain ⟨r, before⟩ := change.exists_prior carried
    rw [before] at change
    exact Or.inl ⟨r, before, carried, change⟩
  · simp only [Classical.not_imp, Bool.not_eq_false] at carried
    obtain ⟨accepted, provisions⟩ := carried
    exact Or.inr ⟨accepted, provisions, change.of_provisions accepted provisions⟩

theorem kept_step {α : Type} {f : ReplicaState → α} {op : Operation} {fresh : FreshIds}
    {id : ReplicaId} (carried : (op.apply fresh ctrl).1.isOk = true → op.provisions id = false)
    (kept : ∀ r r', ReplicaStep ctrl fresh (op.apply fresh ctrl).2 id op
      (op.apply fresh ctrl).1.isOk (some r) (some r') → f r' = f r) :
    (op.apply fresh ctrl).2.replicas[id]?.map f = ctrl.replicas[id]?.map f := by
  have change := ctrl.replicaStep op fresh id
  cases found : ctrl.replicas[id]? with
  | none =>
      rw [found] at change
      cases post : (op.apply fresh ctrl).2.replicas[id]? with
      | none => rfl
      | some r' =>
          rw [post] at change
          obtain ⟨r, impossible⟩ := change.exists_prior carried
          cases impossible
  | some r =>
      rw [found] at change
      obtain ⟨r', post⟩ := change.exists_some
      rw [post] at change ⊢
      exact congrArg some (kept r r' change)

theorem incarnations_step {op : Operation} {fresh : FreshIds} {id : ReplicaId}
    (carried : (op.apply fresh ctrl).1.isOk = true → op.provisions id = false) :
    (op.apply fresh ctrl).2.replicas[id]?.map ReplicaState.incarnation =
      ctrl.replicas[id]?.map ReplicaState.incarnation :=
  kept_step carried fun _ _ change => change.incarnation carried

end ReplicaFabric.ReplicaSetController
