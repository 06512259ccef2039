import ReplicaFabric.Controller.Authority
import ReplicaFabric.Persistence.Command

/-!
# Grants and the serving gate

A promotion to `PRIMARY` and a failover have gates of their own, each with its own list of checks.
A call that passes one of them reports success, whether or not the replica passes the serving gate
after it.
-/

namespace ReplicaFabric

def ReplicaSetState.ServesWith (set : ReplicaSetState) (healthy : UInt32) : Prop :=
  match set.lifecycle with
  | .provisioning | .available | .degraded => True
  | .draining => set.minHealthy ≤ healthy
  | .created | .retired | .failed => False

namespace ReplicaSetController

variable {ctrl : ReplicaSetController} {fresh : FreshIds} {id : ReplicaId} {r : ReplicaState}
  {set : ReplicaSetState}

theorem deriveSetLifecycle_set {setId : ReplicaSetId} (member : ReplicaSetId)
    (found : ctrl.sets[setId]? = some set) :
    ∃ lifecycle, (ctrl.deriveSetLifecycle setId set member).sets[setId]? =
        some { set with lifecycle := lifecycle } ∧
      ((lifecycle = .available ∨ lifecycle = .degraded) ↔
        set.ServesWith (ctrl.countReplicas member fun r => r.health = .healthy)) := by
  have derived := deriveSetLifecycle_eq found member
  generalize ctrl.countReplicas member (fun r => r.health = .healthy) = healthy at *
  refine ⟨derivedLifecycle set healthy, ?_, ?_⟩
  · rw [derived, putSet_get, if_pos rfl]
  · unfold derivedLifecycle ReplicaSetState.ServesWith
    by_cases reached : set.minHealthy ≤ healthy <;> cases set.lifecycle <;> simp [reached]

/-- What the serving gate asks and neither grant looks at. -/
structure Unchecked (ctrl : ReplicaSetController) (r : ReplicaState) (set : ReplicaSetState) :
    Prop where
  generation : r.generation ≠ .null
  policyFingerprint : r.policyFingerprint = set.compatibility.policyFingerprint
  workerBoot : r.bootId = ctrl.workerBoot r.workerId
  warmth : r.warmth = .warm

/-- What the serving gate asks of a replica and a grant does not write. -/
structure FitToServe (ctrl : ReplicaSetController) (r : ReplicaState) (set : ReplicaSetState) : Prop
    extends Unchecked ctrl r set where
  epoch : r.coordinatorEpoch = ctrl.epoch
  setGeneration : r.setGeneration = set.generation
  policyGeneration : r.policyGeneration = set.policyGeneration
  artifactGeneration : r.artifactGeneration = set.artifactGeneration
  health : r.health = .healthy ∨ r.health = .degraded
  readiness : r.readiness = .ready
  placement : r.placement = .assigned

theorem servable_granted_iff (ctrl : ReplicaSetController) {granted next : ReplicaSetController}
    {member : ReplicaSetId} (written : next = granted.deriveSetLifecycle r.setId set member)
    (entry : granted.replicas[id]? = some (r.madePrimary fresh))
    (known : granted.sets[r.setId]? = some set) (workers : granted.workers = ctrl.workers)
    (epoch : granted.epoch = ctrl.epoch) :
    next.Servable id ↔
      set.ServesWith (granted.countReplicas member fun r => r.health = .healthy) ∧
        FitToServe ctrl r set := by
  obtain ⟨lifecycle, knownAfter, permits⟩ := deriveSetLifecycle_set member known
  rw [← written] at knownAfter
  have entryAfter : next.replicas[id]? = some (r.madePrimary fresh) := by
    rw [written, deriveSetLifecycle_replicas, entry]
  have sameEpoch : next.epoch = ctrl.epoch := by
    rw [written, deriveSetLifecycle_epoch, epoch]
  have boot : next.workerBoot r.workerId = ctrl.workerBoot r.workerId := by
    rw [workerBoot, written, deriveSetLifecycle_workers, workers, workerBoot]
  rw [servable_iff, ← permits]
  constructor
  · rintro ⟨r', set', found, foundSet, gate⟩
    obtain rfl : r' = r.madePrimary fresh := Option.some.inj (found.symm.trans entryAfter)
    obtain rfl : set' = _ := Option.some.inj (foundSet.symm.trans knownAfter)
    exact ⟨gate.setLifecycle, ⟨gate.replicaGeneration, gate.policyFingerprint,
      gate.workerBoot.trans boot, gate.warmth⟩, gate.coordinatorEpoch.trans sameEpoch,
      gate.setGeneration, gate.policyGeneration, gate.artifactGeneration, gate.health,
      gate.readiness, gate.placement⟩
  · rintro ⟨serves, fit⟩
    refine ⟨r.madePrimary fresh, _, entryAfter, knownAfter, ?_⟩
    exact {
      setLifecycle := serves
      coordinatorEpoch := fit.epoch.trans sameEpoch.symm
      setGeneration := fit.setGeneration
      replicaGeneration := fit.generation
      artifactGeneration := fit.artifactGeneration
      artifactOfSet := fit.artifactGeneration
      healthGeneration := rfl
      policyGeneration := fit.policyGeneration
      policyFingerprint := fit.policyFingerprint
      fingerprintOfSet := rfl
      workerBoot := fit.workerBoot.trans boot.symm
      lifecycle := rfl
      health := fit.health
      readiness := fit.readiness
      warmth := fit.warmth
      promotion := nofun
      servingFlag := rfl
      placement := fit.placement }

structure FitToPromote (ctrl : ReplicaSetController) (r : ReplicaState) (set : ReplicaSetState) :
    Prop extends Unchecked ctrl r set where
  health : r.health = .healthy ∨ r.health = .degraded
  setLifecycle : set.ServesWith (ctrl.countReplicas set.id fun r => r.health = .healthy)

theorem PromotionGate.fitToServe_iff {worker : WorkerId} {boot : WorkerBootId}
    (gate : PromotionGate ctrl r worker boot set) (usual : set.policies.promotion = {}) :
    FitToServe ctrl r set ↔ Unchecked ctrl r set ∧ (r.health = .healthy ∨ r.health = .degraded) := by
  constructor
  · intro fit
    exact ⟨fit.toUnchecked, fit.health⟩
  · rintro ⟨unchecked, health⟩
    exact ⟨unchecked, gate.epoch, gate.setGeneration, gate.policyGeneration,
      gate.artifactGeneration, health, gate.readiness, gate.placed (by rw [usual])⟩

theorem promoteReplica_accepted {target : PromotionState} {worker : WorkerId} {boot : WorkerBootId}
    {granted : ReplicaState} (found : ctrl.replicas[id]? = some r)
    (gate : PromotionGate ctrl r worker boot set) (grant : promoted r target fresh = .ok granted)
    (mono : MonotonicNs) (wall : WallNs) :
    (ctrl.promoteReplica fresh id target worker boot mono wall).1.isOk = true := by
  simp only [promoteReplica, found, promotionGate_ok.mpr gate, grant, OpResult.ok_isOk]

theorem promoteReplica_isOk {target : PromotionState} {worker : WorkerId} {boot : WorkerBootId}
    {mono : MonotonicNs} {wall : WallNs} :
    (ctrl.promoteReplica fresh id target worker boot mono wall).1.isOk = true ↔
      ∃ r set, ctrl.replicas[id]? = some r ∧ PromotionGate ctrl r worker boot set ∧
        (target = .primary → r.readyToPromote = true) := by
  constructor
  · intro accepted
    rcases ctrl.promoteReplica_cases fresh id target worker boot mono wall with refused |
      ⟨r, set, granted, record, found, gate, grant, -⟩
    · cases refused.1.symm.trans accepted
    · exact ⟨r, set, found, gate, exists_promoted_iff.mp ⟨granted, grant⟩⟩
  · rintro ⟨r, set, found, gate, ready⟩
    obtain ⟨granted, grant⟩ := exists_promoted_iff.mpr ready
    exact promoteReplica_accepted found gate grant mono wall

theorem promoteReplica_servable_iff (fresh : FreshIds) {worker : WorkerId} {boot : WorkerBootId}
    (found : ctrl.replicas[id]? = some r) (gate : PromotionGate ctrl r worker boot set)
    (usual : set.policies.promotion = {}) (mono : MonotonicNs) (wall : WallNs) :
    let outcome := ctrl.promoteReplica fresh id .primary worker boot mono wall
    outcome.1.isOk = true ∧ (outcome.2.Servable id ↔ FitToPromote ctrl r set) := by
  intro outcome
  have validated : r.health ≠ .unknown := (gate.healthValidated (by rw [usual])).1
  have grant : promoted r .primary fresh = .ok (r.madePrimary fresh) :=
    promoted_ok.mpr (Or.inl ⟨rfl, gate.ready (by rw [usual]), (if_neg validated).symm⟩)
  have accepted := promoteReplica_accepted found gate grant mono wall
  refine ⟨accepted, ?_⟩
  rcases ctrl.promoteReplica_cases fresh id .primary worker boot mono wall with refused |
    ⟨r', set', granted, record, found', gate', grant', -, written⟩
  · cases refused.1.symm.trans accepted
  obtain rfl : r = r' := Option.some.inj (found.symm.trans found')
  obtain rfl : set = set' := Option.some.inj (gate.known.symm.trans gate'.known)
  obtain rfl : r.madePrimary fresh = granted := Except.ok.inj (grant.symm.trans grant')
  -- The grant keeps the health of the replica.
  have count : (ctrl.putReplica id (r.madePrimary fresh)).countReplicas set.id
        (fun r => r.health = .healthy) =
      ctrl.countReplicas set.id fun r => r.health = .healthy :=
    congrArg UInt32.ofNat (Table.countP_insert_same found rfl)
  rw [servable_granted_iff ctrl written (putReplica_here ..) gate.known rfl rfl,
    gate.fitToServe_iff usual]
  constructor
  · rintro ⟨serves, unchecked, health⟩
    exact ⟨unchecked, health, count ▸ serves⟩
  · intro fit
    exact ⟨count.symm ▸ fit.setLifecycle, fit.toUnchecked, fit.health⟩

def PromotionsServe (ctrl : ReplicaSetController) : Command → Prop
  | .call call => ∀ (id : ReplicaId) (worker : WorkerId) (boot : WorkerBootId) (mono : MonotonicNs)
      (wall : WallNs) (r : ReplicaState) (set : ReplicaSetState),
      call.op = .promoteReplica id .primary worker boot mono wall →
      ctrl.replicas[id]? = some r → ctrl.sets[r.setId]? = some set →
      set.policies.promotion = {} → (ctrl.step call).1.isOk = true →
      (ctrl.step call).2.Servable id
  | .recoverInto _ => True

def PromotesFit (ctrl : ReplicaSetController) : Command → Prop
  | .call call => ∀ (id : ReplicaId) (worker : WorkerId) (boot : WorkerBootId) (mono : MonotonicNs)
      (wall : WallNs) (r : ReplicaState) (set : ReplicaSetState),
      call.op = .promoteReplica id .primary worker boot mono wall →
      ctrl.replicas[id]? = some r → PromotionGate ctrl r worker boot set →
      set.policies.promotion = {} → FitToPromote ctrl r set
  | .recoverInto _ => True

theorem promotionsServe_iff (cmd : Command) : ctrl.PromotionsServe cmd ↔ ctrl.PromotesFit cmd := by
  cases cmd with
  | recoverInto bytes => exact Iff.rfl
  | call call =>
      obtain ⟨op, fresh⟩ := call
      constructor
      · rintro serves id worker boot mono wall r set rfl found gate usual
        obtain ⟨accepted, servable⟩ :=
          promoteReplica_servable_iff fresh found gate usual mono wall
        exact servable.mp (serves id worker boot mono wall r set rfl found gate.known usual accepted)
      · rintro fits id worker boot mono wall r set rfl found known usual accepted
        rcases ctrl.promoteReplica_cases fresh id .primary worker boot mono wall with refused |
          ⟨r', set', granted, record, found', gate, -⟩
        · cases refused.1.symm.trans accepted
        obtain rfl : r' = r := Option.some.inj (found'.symm.trans found)
        obtain rfl : set' = set := Option.some.inj (gate.known.symm.trans known)
        exact (promoteReplica_servable_iff fresh found gate usual mono wall).2.mpr
          (fits id worker boot mono wall r' set' rfl found gate usual)

theorem promotions_serve_iff (cmds : List Command) :
    Machine.Admissible command PromotionsServe empty cmds ↔
      Machine.Admissible command PromotesFit empty cmds :=
  Machine.admissible_congr fun _ cmd => promotionsServe_iff cmd

def failedReady : List Call :=
  Sample.setUp ++ Sample.bringUp ⟨0, 1⟩ ++
    [⟨.reportHealth ⟨0, 1⟩ { state := .failed, generation := ⟨1, 1⟩ } ⟨0, 1⟩ ⟨0, 1⟩ 0,
      Sample.freshAt 0⟩]

theorem failedReady_promoted : ¬∀ cmds, Machine.Admissible command PromotionsServe empty cmds := by
  intro always
  have last := (Machine.admissible_append.mp
    (always (failedReady.map .call ++ [.call (Sample.promote ⟨0, 1⟩)]))).2.1
  let ctrl := Machine.run command empty (failedReady.map .call)
  have accepted : (ctrl.step (Sample.promote ⟨0, 1⟩)).1.isOk = true := by decide +kernel
  have idle : ¬(ctrl.step (Sample.promote ⟨0, 1⟩)).2.Servable ⟨0, 1⟩ := by decide +kernel
  have member : ctrl.replicas[(⟨0, 1⟩ : ReplicaId)]?.map (·.setId) = some Sample.setId := by
    decide +kernel
  have usual : ctrl.sets[Sample.setId]?.map (·.policies.promotion) = some {} := by decide +kernel
  obtain ⟨r, found, same⟩ := Option.map_eq_some_iff.mp member
  obtain ⟨set, known, policy⟩ := Option.map_eq_some_iff.mp usual
  exact idle (last ⟨0, 1⟩ ⟨0, 1⟩ ⟨0, 1⟩ 0 0 r set rfl found (same ▸ known) policy accepted)

def healthyWithout (ctrl : ReplicaSetController) (setId : ReplicaSetId) (failed : ReplicaId) :
    UInt32 :=
  UInt32.ofNat (ctrl.replicas.toList.countP fun e =>
    (e.2.setId = setId && e.2.health = .healthy) && e.1 ≠ failed)

structure FitToReplace (ctrl : ReplicaSetController) (failed : ReplicaId) (r : ReplicaState)
    (set : ReplicaSetState) : Prop extends Unchecked ctrl r set where
  epoch : r.coordinatorEpoch = ctrl.epoch
  policyGeneration : r.policyGeneration = set.policyGeneration
  artifactGeneration : r.artifactGeneration = set.artifactGeneration
  setLifecycle : set.ServesWith (ctrl.healthyWithout r.setId failed)

theorem healthy_after_failover (fresh : FreshIds) {failed chosen : ReplicaId} {fr : ReplicaState}
    (reason : Str)
    (found : (ctrl.putReplica failed (fr.failedOver reason)).replicas[chosen]? = some r)
    (setId : ReplicaSetId) :
    ((ctrl.putReplica failed (fr.failedOver reason)).putReplica chosen
        (r.madePrimary fresh)).countReplicas setId (fun r => r.health = .healthy) =
      ctrl.healthyWithout setId failed := by
  refine congrArg UInt32.ofNat ?_
  have chosenCounts := Table.countP_insert_same (v := r.madePrimary fresh)
    (p := fun e => e.2.setId = setId && e.2.health = .healthy) found rfl
  refine chosenCounts.trans ((Table.countP_insert ..).trans ?_)
  have notCounted : ((fr.failedOver reason).setId = setId &&
      (fr.failedOver reason).health = .healthy) = false := Bool.and_false _
  rw [notCounted]
  rfl

theorem failover_servable_iff {setId : ReplicaSetId} {failed chosen : ReplicaId}
    {fr : ReplicaState} {next : ReplicaSetController} {reason : Str}
    {failovers : List FailoverRecord} {promotions : List PromotionRecord}
    (known : ctrl.sets[setId]? = some set)
    (selected : Selected ctrl set setId failed fr.workerId (chosen, r))
    (written : next = deriveSetLifecycle
      { (ctrl.putReplica failed (fr.failedOver reason)).putReplica chosen (r.madePrimary fresh) with
        failovers := failovers
        promotions := promotions } setId set setId) :
    next.Servable chosen ↔ FitToReplace ctrl failed r set := by
  obtain ⟨inSet, other, -, readiness, health, -, placement, setGeneration⟩ :=
    isCandidate_iff.mp selected.candidate
  obtain rfl : r.setId = setId := inSet
  have found : (ctrl.putReplica failed (fr.failedOver reason)).replicas[chosen]? = some r := by
    rw [putReplica_get, if_neg (Ne.symm other)]
    exact selected.found
  rw [servable_granted_iff ctrl written (putReplica_here ..) known rfl rfl]
  have count := healthy_after_failover fresh reason found r.setId
  constructor
  · rintro ⟨serves, fit⟩
    exact ⟨fit.toUnchecked, fit.epoch, fit.policyGeneration, fit.artifactGeneration,
      count ▸ serves⟩
  · intro fit
    exact ⟨count.symm ▸ fit.setLifecycle, fit.toUnchecked, fit.epoch, setGeneration,
      fit.policyGeneration, fit.artifactGeneration, health, readiness, placement⟩

def FailoversServe (ctrl : ReplicaSetController) : Command → Prop
  | .call call => ∀ (setId : ReplicaSetId) (failed : ReplicaId) (reason : Str)
      (mono : MonotonicNs) (wall : WallNs) (record : FailoverRecord),
      call.op = .triggerFailover setId failed reason mono wall →
      (ctrl.step call).1.isOk = true →
      (ctrl.step call).2.failovers = ctrl.failovers ++ [record] →
      (ctrl.step call).2.Servable record.replacement
  | .recoverInto _ => True

def SelectsFit (ctrl : ReplicaSetController) : Command → Prop
  | .call call => ∀ (setId : ReplicaSetId) (failed : ReplicaId) (reason : Str)
      (mono : MonotonicNs) (wall : WallNs) (set : ReplicaSetState) (fr : ReplicaState)
      (c : Candidate),
      call.op = .triggerFailover setId failed reason mono wall →
      ctrl.sets[setId]? = some set → ctrl.replicas[failed]? = some fr → fr.setId = setId →
      Selected ctrl set setId failed fr.workerId c → FitToReplace ctrl failed c.2 set
  | .recoverInto _ => True

theorem failoversServe_iff (cmd : Command) : ctrl.FailoversServe cmd ↔ ctrl.SelectsFit cmd := by
  cases cmd with
  | recoverInto bytes => exact Iff.rfl
  | call call =>
      obtain ⟨op, fresh⟩ := call
      constructor
      · rintro serves setId failed reason mono wall set fr ⟨x, r⟩ rfl known foundFailed inSet
          selected
        rcases triggerFailover_known fresh reason mono wall known foundFailed inSet with
          ⟨record, ⟨none, -⟩ | ⟨chosen, r', pr, first, replacement, accepted, written⟩⟩
        · exact absurd ((none _ selected.found).symm.trans selected.candidate) nofun
        obtain rfl : chosen = x := first.same selected
        obtain rfl : r' = r := Option.some.inj (first.found.symm.trans selected.found)
        refine (failover_servable_iff known first written).mp ?_
        rw [← replacement]
        refine serves setId failed reason mono wall record rfl accepted ?_
        exact (congrArg failovers written).trans (deriveSetLifecycle_failovers ..)
      · rintro fits setId failed reason mono wall record rfl accepted logged
        rcases ctrl.triggerFailover_cases fresh setId failed reason mono wall with refused |
          ⟨set, fr, known, foundFailed, inSet⟩
        · cases refused.1.symm.trans accepted
        rcases triggerFailover_known fresh reason mono wall known foundFailed inSet with
          ⟨record', ⟨-, notOk, -⟩ | ⟨chosen, r, pr, selected, replacement, -, written⟩⟩
        · cases notOk.symm.trans accepted
        have recorded := (congrArg failovers written).trans (deriveSetLifecycle_failovers ..)
        obtain rfl : record' = record := by
          simpa using recorded.symm.trans logged
        rw [replacement]
        exact (failover_servable_iff known selected written).mpr
          (fits setId failed reason mono wall set fr (chosen, r) rfl known foundFailed inSet selected)

theorem failovers_serve_iff (cmds : List Command) :
    Machine.Admissible command FailoversServe empty cmds ↔
      Machine.Admissible command SelectsFit empty cmds :=
  Machine.admissible_congr fun _ cmd => failoversServe_iff cmd

def restartedHost : List Call :=
  Sample.serving ++ Sample.bringUp ⟨0, 2⟩ ++ [Sample.register 1 2]

def replaceFirst : Call :=
  ⟨.triggerFailover Sample.setId ⟨0, 1⟩ "worker restarted" 0 0, Sample.freshAt 3⟩

/-- The ready replica was not failed by the restart, and is put in the place of the other under the
boot id from before it. -/
theorem restartedHost_replaced : ¬∀ cmds, Machine.Admissible command FailoversServe empty cmds := by
  intro always
  have last := (Machine.admissible_append.mp
    (always (restartedHost.map .call ++ [.call replaceFirst]))).2.1
  have accepted : ((Machine.run command empty (restartedHost.map .call)).step
      replaceFirst).1.isOk = true := by decide +kernel
  have idle : ¬((Machine.run command empty (restartedHost.map .call)).step
      replaceFirst).2.Servable ⟨0, 2⟩ := by decide +kernel
  have start : (Machine.run command empty (restartedHost.map .call)).failovers = [] := by
    decide +kernel
  have one : ((Machine.run command empty (restartedHost.map .call)).step
      replaceFirst).2.failovers.map (·.replacement) = [⟨0, 2⟩] := by decide +kernel
  generalize Machine.run command empty (restartedHost.map .call) = ctrl at *
  obtain ⟨record, logged, replacement⟩ := List.map_eq_singleton_iff.mp one
  have recorded : (ctrl.step replaceFirst).2.failovers = ctrl.failovers ++ [record] := by
    rw [start, List.nil_append, logged]
  have servable := last Sample.setId ⟨0, 1⟩ "worker restarted" 0 0 record rfl accepted recorded
  rw [replacement] at servable
  exact idle servable

end ReplicaSetController

end ReplicaFabric
