import ReplicaFabric.Controller.Operations

/-!
# What each operation can do

One lemma for each operation: it refuses and changes nothing, or it passes its guards and writes
exactly what is stated. Later files cite these lemmas and do not unfold the operations.
-/

namespace ReplicaFabric.ReplicaSetController

variable {ctrl : ReplicaSetController}

@[simp] theorem putReplica_sets (id : ReplicaId) (r : ReplicaState) :
    (ctrl.putReplica id r).sets = ctrl.sets := rfl

@[simp] theorem putReplica_workers (id : ReplicaId) (r : ReplicaState) :
    (ctrl.putReplica id r).workers = ctrl.workers := rfl

@[simp] theorem putReplica_epoch (id : ReplicaId) (r : ReplicaState) :
    (ctrl.putReplica id r).epoch = ctrl.epoch := rfl

theorem putReplica_get (id x : ReplicaId) (r : ReplicaState) :
    (ctrl.putReplica id r).replicas[x]? = if id = x then some r else ctrl.replicas[x]? :=
  Table.get_insert ..

theorem putReplica_here (id : ReplicaId) (r : ReplicaState) :
    (ctrl.putReplica id r).replicas[id]? = some r :=
  (putReplica_get ..).trans (if_pos rfl)

@[simp] theorem putSet_replicas (id : ReplicaSetId) (s : ReplicaSetState) :
    (ctrl.putSet id s).replicas = ctrl.replicas := rfl

@[simp] theorem putSet_workers (id : ReplicaSetId) (s : ReplicaSetState) :
    (ctrl.putSet id s).workers = ctrl.workers := rfl

@[simp] theorem putSet_epoch (id : ReplicaSetId) (s : ReplicaSetState) :
    (ctrl.putSet id s).epoch = ctrl.epoch := rfl

theorem putSet_get (id x : ReplicaSetId) (s : ReplicaSetState) :
    (ctrl.putSet id s).sets[x]? = if id = x then some s else ctrl.sets[x]? :=
  Table.get_insert ..

def Refused (outcome : OpResult × ReplicaSetController) (ctrl : ReplicaSetController) : Prop :=
  outcome.1.isOk = false ∧ outcome.2 = ctrl

def Edits (outcome : OpResult × ReplicaSetController) (ctrl : ReplicaSetController)
    (id : ReplicaId) (guard : ReplicaState → Prop) (edit : ReplicaState → ReplicaState) : Prop :=
  ∃ r, ctrl.replicas[id]? = some r ∧ guard r ∧ outcome.1.isOk = true ∧
    outcome.2 = ctrl.putReplica id (edit r)

theorem refused_error (message : Str) : Refused (.rejected message, ctrl) ctrl := ⟨rfl, rfl⟩

theorem refused_invalid (message : Str) : Refused (.invalid message, ctrl) ctrl := ⟨rfl, rfl⟩

theorem workerBootMatches_iff {r : ReplicaState} {worker : WorkerId} {boot : WorkerBootId} :
    r.workerBootMatches worker boot = true ↔ r.workerId = worker ∧ r.bootId = boot := by
  simp [ReplicaState.workerBootMatches]

/-! ## Workers and sets -/

theorem unregisterWorker_cases (workerId : WorkerId) :
    (ctrl.workers[workerId]? = none ∧ Refused (ctrl.unregisterWorker workerId) ctrl) ∨
    (∃ reg, ctrl.workers[workerId]? = some reg ∧ (ctrl.unregisterWorker workerId).1.isOk = true ∧
      (ctrl.unregisterWorker workerId).2 = { ctrl with
        replicas := ctrl.replicas.map fun _ r => r.afterDisconnect workerId
        workers := ctrl.workers.erase workerId }) := by
  unfold unregisterWorker
  cases found : ctrl.workers[workerId]? with
  | none => exact Or.inl ⟨rfl, refused_error _⟩
  | some reg => exact Or.inr ⟨reg, rfl, rfl, rfl⟩

theorem createReplicaSet_cases (set : ReplicaSetState) (epoch : CoordinatorEpoch) :
    Refused (ctrl.createReplicaSet set epoch) ctrl ∨
    (ctrl.sets[set.id]? = none ∧ countsInvalid set = false ∧
      (ctrl.createReplicaSet set epoch).1.isOk = true ∧
      (ctrl.createReplicaSet set epoch).2 = { ctrl.putSet set.id set with epoch := epoch }) := by
  unfold createReplicaSet
  split_ifs with known counts
  · exact Or.inl (refused_error _)
  · exact Or.inl (refused_invalid _)
  · exact Or.inr ⟨by simpa using known, by simpa using counts, rfl, rfl⟩

theorem createReplicaSet_isOk (set : ReplicaSetState) (epoch : CoordinatorEpoch) :
    (ctrl.createReplicaSet set epoch).1.isOk =
      !((ctrl.sets[set.id]?).isSome || countsInvalid set) := by
  unfold createReplicaSet
  split_ifs <;> simp_all

theorem transitionReplicaSet_cases (setId : ReplicaSetId) (target : ReplicaSetLifecycle) :
    Refused (ctrl.transitionReplicaSet setId target) ctrl ∨
    (∃ s, ctrl.sets[setId]? = some s ∧ s.lifecycle.canTransition target = true ∧
      (ctrl.transitionReplicaSet setId target).1.isOk = true ∧
      (ctrl.transitionReplicaSet setId target).2 =
        ctrl.putSet setId { s with lifecycle := target }) := by
  unfold transitionReplicaSet
  cases found : ctrl.sets[setId]? with
  | none => exact Or.inl (refused_error _)
  | some s =>
      dsimp only
      split_ifs with guard
      · exact Or.inl (refused_invalid _)
      · exact Or.inr ⟨s, rfl, by simpa using guard, rfl, rfl⟩

/-! ## Replicas -/

theorem provisionGate_ok {setId : ReplicaSetId} {workerId : WorkerId} {set : ReplicaSetState}
    {reg : WorkerRegistration} :
    ctrl.provisionGate setId workerId = .ok (set, reg) ↔
      ctrl.sets[setId]? = some set ∧ ¬(set.lifecycle = .retired ∨ set.lifecycle = .failed) ∧
      ctrl.workers[workerId]? = some reg ∧
      ctrl.countReplicas setId (fun _ => true) < set.maxReplicas := by
  unfold provisionGate
  cases foundSet : ctrl.sets[setId]? with
  | none => simp
  | some s =>
      cases foundWorker : ctrl.workers[workerId]? with
      | none =>
          dsimp only
          split_ifs <;> simp
      | some w =>
          dsimp only
          split_ifs with dead full
          · simp only [Option.some.injEq, false_iff]
            rintro ⟨rfl, alive, -⟩
            exact alive dead
          · simp only [Option.some.injEq, false_iff]
            rintro ⟨rfl, -, rfl, room⟩
            exact (UInt32.not_lt.mpr full) room
          · simp only [Except.ok.injEq, Prod.mk.injEq, Option.some.injEq]
            constructor
            · rintro ⟨rfl, rfl⟩
              exact ⟨rfl, dead, rfl, UInt32.not_le.mp full⟩
            · rintro ⟨rfl, -, rfl, -⟩
              exact ⟨rfl, rfl⟩

theorem provisionGate_error_not_ok {setId : ReplicaSetId} {workerId : WorkerId}
    {refusal : OpResult} (gate : ctrl.provisionGate setId workerId = .error refusal) :
    refusal.isOk = false := by
  unfold provisionGate at gate
  split at gate
  · cases gate; rfl
  · split at gate
    · cases gate; rfl
    · split at gate
      · cases gate; rfl
      · split at gate <;> cases gate
        rfl

theorem provisionReplica_cases (fresh : FreshIds) (replicaId : ReplicaId) (setId : ReplicaSetId)
    (workerId : WorkerId) (compat : ReplicaCompatibility) (device : DeviceCapability)
    (capacity : UInt64) (mono : MonotonicNs) (wall : WallNs) :
    let outcome := ctrl.provisionReplica fresh replicaId setId workerId compat device capacity
      mono wall
    ((∃ refusal, ctrl.provisionGate setId workerId = .error refusal) ∧ Refused outcome ctrl) ∨
    (∃ set reg lifecycle, ctrl.provisionGate setId workerId = .ok (set, reg) ∧
      (lifecycle = set.lifecycle ∨
        set.lifecycle = .created ∧ lifecycle = .provisioning) ∧
      outcome.1.isOk = true ∧
      outcome.2 = (ctrl.putSet setId { set with lifecycle := lifecycle }).putReplica replicaId
        (.provisioned replicaId setId set reg workerId compat device capacity ctrl.epoch fresh
          mono wall)) := by
  intro outcome
  simp only [outcome, provisionReplica]
  cases gate : ctrl.provisionGate setId workerId with
  | error refusal =>
      exact Or.inl ⟨⟨refusal, rfl⟩, provisionGate_error_not_ok gate, rfl⟩
  | ok admitted =>
      obtain ⟨set, reg⟩ := admitted
      right
      by_cases isNew : set.lifecycle = .created
      · exact ⟨set, reg, .provisioning, rfl, Or.inr ⟨isNew, rfl⟩, rfl, by simp only [if_pos isNew]; rfl⟩
      · exact ⟨set, reg, set.lifecycle, rfl, Or.inl rfl, rfl, by simp only [if_neg isNew]⟩

theorem provisionReplica_isOk (fresh : FreshIds) (id : ReplicaId) (setId : ReplicaSetId)
    (worker : WorkerId) (compat : ReplicaCompatibility) (device : DeviceCapability)
    (capacity : UInt64) (mono : MonotonicNs) (wall : WallNs) :
    (ctrl.provisionReplica fresh id setId worker compat device capacity mono wall).1.isOk =
      (ctrl.provisionGate setId worker).isOk := by
  unfold provisionReplica
  cases gate : ctrl.provisionGate setId worker with
  | error refusal => exact provisionGate_error_not_ok gate
  | ok admitted => rfl

theorem setAllocating_cases (replicaId : ReplicaId) (placementId : PlacementId) :
    Refused (ctrl.setAllocating replicaId placementId) ctrl ∨
    Edits (ctrl.setAllocating replicaId placementId) ctrl replicaId
      (fun r => r.lifecycle.canTransition .allocating = true) (·.allocated placementId) := by
  unfold setAllocating
  cases found : ctrl.replicas[replicaId]? with
  | none => exact Or.inl (refused_error _)
  | some r =>
      dsimp only
      split_ifs with guard
      · exact Or.inl (refused_invalid _)
      · exact Or.inr ⟨r, found, by simpa using guard, rfl, rfl⟩

theorem setStarting_cases (replicaId : ReplicaId) (mono : MonotonicNs) (wall : WallNs) :
    Refused (ctrl.setStarting replicaId mono wall) ctrl ∨
    Edits (ctrl.setStarting replicaId mono wall) ctrl replicaId
      (fun r => r.lifecycle.canTransition .starting = true) (·.started mono wall) := by
  unfold setStarting
  cases found : ctrl.replicas[replicaId]? with
  | none => exact Or.inl (refused_error _)
  | some r =>
      dsimp only
      split_ifs with guard
      · exact Or.inl (refused_invalid _)
      · exact Or.inr ⟨r, found, by simpa using guard, rfl, rfl⟩

def AcceptsWarming (r : ReplicaState) : Prop :=
  r.lifecycle.canTransition .warming = true ∨ r.lifecycle = .warming

theorem warmReplica_cases (replicaId : ReplicaId) (warm : WarmingRecord) (worker : WorkerId)
    (boot : WorkerBootId) (mono : MonotonicNs) :
    Refused (ctrl.warmReplica replicaId warm worker boot mono) ctrl ∨
    Edits (ctrl.warmReplica replicaId warm worker boot mono) ctrl replicaId
      (fun r => (r.workerId = worker ∧ r.bootId = boot) ∧ AcceptsWarming r)
      (·.warmed warm mono) := by
  unfold warmReplica
  cases found : ctrl.replicas[replicaId]? with
  | none => exact Or.inl (refused_error _)
  | some r =>
      dsimp only
      split_ifs with host guard
      · exact Or.inl (refused_error _)
      · exact Or.inl (refused_invalid _)
      · have accepts : AcceptsWarming r := by
          simp only [Bool.and_eq_true, Bool.not_eq_true', decide_eq_true_eq, not_and] at guard
          by_cases edge : r.lifecycle.canTransition .warming = true
          · exact Or.inl edge
          · exact Or.inr (by simpa using guard (by simpa using edge))
        have hosted := workerBootMatches_iff.mp (by simpa using host)
        exact Or.inr ⟨r, found, ⟨hosted, accepts⟩, rfl, rfl⟩

def Terminated (r : ReplicaState) : Prop :=
  r.lifecycle = .failed ∨ r.lifecycle = .retired ∨ r.lifecycle = .quiesced

theorem reportHealth_cases (replicaId : ReplicaId) (ev : HealthEvidence) (worker : WorkerId)
    (boot : WorkerBootId) (mono : MonotonicNs) :
    Refused (ctrl.reportHealth replicaId ev worker boot mono) ctrl ∨
    Edits (ctrl.reportHealth replicaId ev worker boot mono) ctrl replicaId
      (fun r => (r.workerId = worker ∧ r.bootId = boot) ∧ r.coordinatorEpoch = ctrl.epoch ∧
        ev.generation = r.healthGeneration ∧ ¬Terminated r)
      (·.healthReported ev mono) := by
  unfold reportHealth
  cases found : ctrl.replicas[replicaId]? with
  | none => exact Or.inl (refused_error _)
  | some r =>
      dsimp only
      split_ifs with host epoch generation dead
      · exact Or.inl (refused_error _)
      · exact Or.inl (refused_error _)
      · exact Or.inl (refused_error _)
      · exact Or.inl (refused_error _)
      · have hosted := workerBootMatches_iff.mp (by simpa using host)
        exact Or.inr ⟨r, found,
          ⟨hosted, not_not.mp epoch, not_not.mp generation, dead⟩, rfl, rfl⟩

theorem reportReadiness_cases (replicaId : ReplicaId) (rr : ReadinessRecord) (worker : WorkerId)
    (boot : WorkerBootId) :
    Refused (ctrl.reportReadiness replicaId rr worker boot) ctrl ∨
    Edits (ctrl.reportReadiness replicaId rr worker boot) ctrl replicaId
      (fun r => (r.workerId = worker ∧ r.bootId = boot) ∧ r.coordinatorEpoch = ctrl.epoch ∧
        ¬Terminated r)
      (·.readinessReported rr) := by
  unfold reportReadiness
  cases found : ctrl.replicas[replicaId]? with
  | none => exact Or.inl (refused_error _)
  | some r =>
      dsimp only
      split_ifs with host epoch dead
      · exact Or.inl (refused_error _)
      · exact Or.inl (refused_error _)
      · exact Or.inl (refused_error _)
      · have hosted := workerBootMatches_iff.mp (by simpa using host)
        exact Or.inr ⟨r, found, ⟨hosted, not_not.mp epoch, dead⟩, rfl, rfl⟩

/-! ## Promotion -/

theorem firstRefusal_eq_none {guards : List (Bool × OpResult)} :
    firstRefusal guards = none ↔ ∀ g ∈ guards, g.1 = false := by
  simp [firstRefusal]

theorem firstRefusal_not_ok {guards : List (Bool × OpResult)} {refusal : OpResult}
    (refuses : ∀ g ∈ guards, g.2.isOk = false) (found : firstRefusal guards = some refusal) :
    refusal.isOk = false := by
  obtain ⟨g, first, rfl⟩ := Option.map_eq_some_iff.mp found
  exact refuses g (List.mem_of_find?_eq_some first)

theorem promotionGate_error_not_ok {r : ReplicaState} {worker : WorkerId} {boot : WorkerBootId}
    {refusal : OpResult} (gate : ctrl.promotionGate r worker boot = .error refusal) :
    refusal.isOk = false := by
  unfold promotionGate at gate
  split at gate
  · cases gate; rfl
  · split at gate
    · cases gate; rfl
    · split at gate
      · next first =>
          cases gate
          refine firstRefusal_not_ok ?_ first
          simp only [promotionGuards, List.forall_mem_cons, OpResult.rejected_isOk, true_and,
            List.not_mem_nil, false_implies, implies_true]
      · cases gate

structure PromotionGate (ctrl : ReplicaSetController) (r : ReplicaState) (worker : WorkerId)
    (boot : WorkerBootId) (set : ReplicaSetState) : Prop where
  host : r.workerId = worker ∧ r.bootId = boot
  known : ctrl.sets[r.setId]? = some set
  epoch : r.coordinatorEpoch = ctrl.epoch
  setGeneration : r.setGeneration = set.generation
  policyGeneration : r.policyGeneration = set.policyGeneration
  artifactGeneration : r.artifactGeneration = set.artifactGeneration
  ready : set.policies.promotion.requireReady = true → r.readyToPromote = true
  readiness : r.readiness = .ready
  healthValidated : set.policies.promotion.requireHealthy = true →
    r.health ≠ .unknown ∧ r.health ≠ .starting
  notUnhealthy : set.policies.promotion.requireHealthy = true → r.health ≠ .unhealthy
  compatible : set.policies.promotion.requireCompatible = true →
    (checkCompatibility set.compatibility r.compatibility).compatible = true
  placed : set.policies.promotion.requirePlacementValid = true → r.placement = .assigned
  resources : set.policies.promotion.requireResources = true → r.capacityTotal ≠ 0

theorem promotionGuards_pass {r : ReplicaState} {set : ReplicaSetState} :
    firstRefusal (ctrl.promotionGuards r set) = none ↔
      r.coordinatorEpoch = ctrl.epoch ∧ r.setGeneration = set.generation ∧
      r.policyGeneration = set.policyGeneration ∧
      r.artifactGeneration = set.artifactGeneration ∧
      (set.policies.promotion.requireReady = true → r.readyToPromote = true) ∧
      r.readiness = .ready ∧
      (set.policies.promotion.requireHealthy = true → r.health ≠ .unknown ∧ r.health ≠ .starting) ∧
      (set.policies.promotion.requireHealthy = true → r.health ≠ .unhealthy) ∧
      (set.policies.promotion.requireCompatible = true →
        (checkCompatibility set.compatibility r.compatibility).compatible = true) ∧
      (set.policies.promotion.requirePlacementValid = true → r.placement = .assigned) ∧
      (set.policies.promotion.requireResources = true → r.capacityTotal ≠ 0) := by
  rw [firstRefusal_eq_none]
  simp [promotionGuards]

theorem promotionGate_ok {r : ReplicaState} {worker : WorkerId} {boot : WorkerBootId}
    {set : ReplicaSetState} :
    ctrl.promotionGate r worker boot = .ok set ↔ PromotionGate ctrl r worker boot set := by
  constructor
  · intro gate
    unfold promotionGate at gate
    split at gate
    · cases gate
    · next host =>
        split at gate
        · cases gate
        · next found =>
            split at gate
            · cases gate
            · next passed =>
                cases gate
                obtain ⟨c1, c2, c3, c4, c5, c6, c7, c8, c9, c10, c11⟩ :=
                  promotionGuards_pass.mp passed
                exact ⟨workerBootMatches_iff.mp (by simpa using host), found, c1, c2, c3, c4, c5,
                  c6, c7, c8, c9, c10, c11⟩
  · rintro ⟨host, found, c1, c2, c3, c4, c5, c6, c7, c8, c9, c10, c11⟩
    have passed : firstRefusal (ctrl.promotionGuards r set) = none :=
      promotionGuards_pass.mpr ⟨c1, c2, c3, c4, c5, c6, c7, c8, c9, c10, c11⟩
    unfold promotionGate
    rw [if_neg (by simp [workerBootMatches_iff.mpr host]), found]
    simp only [passed]

def grantedPrimary (r : ReplicaState) (fresh : FreshIds) : ReplicaState :=
  if r.health = .unknown then { r.madePrimary fresh with health := .healthy }
  else r.madePrimary fresh

theorem promoted_ok {r granted : ReplicaState} {target : PromotionState} {fresh : FreshIds} :
    promoted r target fresh = .ok granted ↔
      (target = .primary ∧ r.readyToPromote = true ∧ granted = grantedPrimary r fresh) ∨
      (target ≠ .primary ∧ granted = r.madeSecondary target) := by
  unfold promoted grantedPrimary
  by_cases primary : target = .primary
  · by_cases ready : r.readyToPromote = true
    · have edge : ¬((decide (r.lifecycle ≠ .serving) && !r.lifecycle.canTransition .serving)
          = true) := by
        simp only [ReplicaState.readyToPromote, Bool.or_eq_true, decide_eq_true_eq] at ready
        rcases ready with state | state <;> simp [state, ReplicaLifecycle.canTransition]
      rw [if_pos primary, if_neg (by simp [ready]), if_neg edge]
      simp only [Except.ok.injEq, primary, ready, ne_eq, not_true_eq_false, false_and, or_false,
        true_and]
      exact eq_comm
    · rw [if_pos primary, if_pos (by simpa using ready)]
      simp [primary, ready]
  · rw [if_neg primary]
    simp only [Except.ok.injEq, primary, false_and, false_or, ne_eq, not_false_eq_true, true_and]
    exact eq_comm

theorem exists_promoted_iff {r : ReplicaState} {target : PromotionState} {fresh : FreshIds} :
    (∃ granted, promoted r target fresh = .ok granted) ↔
      (target = .primary → r.readyToPromote = true) := by
  constructor
  · rintro ⟨granted, grant⟩ primary
    rcases promoted_ok.mp grant with ⟨-, ready, -⟩ | ⟨secondary, -⟩
    · exact ready
    · exact absurd primary secondary
  · intro ready
    by_cases primary : target = .primary
    · exact ⟨_, promoted_ok.mpr (Or.inl ⟨primary, ready primary, rfl⟩)⟩
    · exact ⟨_, promoted_ok.mpr (Or.inr ⟨primary, rfl⟩)⟩

theorem promoted_error_not_ok {r : ReplicaState} {target : PromotionState} {fresh : FreshIds}
    {refusal : OpResult} (outcome : promoted r target fresh = .error refusal) :
    refusal.isOk = false := by
  unfold promoted at outcome
  split_ifs at outcome <;> cases outcome <;> rfl

theorem deriveSetLifecycle_cases (setId member : ReplicaSetId) (set : ReplicaSetState) :
    ctrl.deriveSetLifecycle setId set member = ctrl ∨
    ∃ lifecycle, (lifecycle = .degraded ∨ lifecycle = .available) ∧
      set.lifecycle.canTransition lifecycle = true ∧
      ctrl.deriveSetLifecycle setId set member =
        ctrl.putSet setId { set with lifecycle := lifecycle } := by
  unfold deriveSetLifecycle
  dsimp only
  split_ifs with degrade avail
  · exact Or.inr ⟨.degraded, Or.inl rfl, (Bool.and_eq_true_iff.mp degrade).2, rfl⟩
  · exact Or.inr ⟨.available, Or.inr rfl, (Bool.and_eq_true_iff.mp avail).2, rfl⟩
  · exact Or.inl rfl

def derivedLifecycle (set : ReplicaSetState) (healthy : UInt32) : ReplicaSetLifecycle :=
  match set.lifecycle with
  | .provisioning | .available | .degraded =>
      if set.minHealthy ≤ healthy then .available else .degraded
  | .draining => if set.minHealthy ≤ healthy then .available else .draining
  | .created => .created
  | .retired => .retired
  | .failed => .failed

theorem deriveSetLifecycle_eq {setId : ReplicaSetId} {set : ReplicaSetState}
    (known : ctrl.sets[setId]? = some set) (member : ReplicaSetId) :
    ctrl.deriveSetLifecycle setId set member = ctrl.putSet setId { set with
      lifecycle := derivedLifecycle set
        (ctrl.countReplicas member fun r => r.health = .healthy) } := by
  unfold deriveSetLifecycle
  generalize ctrl.countReplicas member (fun r => r.health = .healthy) = healthy
  dsimp only
  split_ifs with few enough
  · obtain ⟨short, edge⟩ := Bool.and_eq_true_iff.mp few
    have short : ¬set.minHealthy ≤ healthy := UInt32.not_le.mpr (of_decide_eq_true short)
    have degraded : derivedLifecycle set healthy = .degraded := by
      unfold derivedLifecycle
      cases state : set.lifecycle <;> simp_all [ReplicaSetLifecycle.canTransition]
    rw [degraded]
  · obtain ⟨reached, edge⟩ := Bool.and_eq_true_iff.mp enough
    have reached : set.minHealthy ≤ healthy := of_decide_eq_true reached
    have available : derivedLifecycle set healthy = .available := by
      unfold derivedLifecycle
      cases state : set.lifecycle <;> simp_all [ReplicaSetLifecycle.canTransition]
    rw [available]
  · have stays : derivedLifecycle set healthy = set.lifecycle := by
      unfold derivedLifecycle
      cases state : set.lifecycle <;> simp_all [ReplicaSetLifecycle.canTransition]
    rw [stays, putSet, Table.insert_same known]

theorem deriveSetLifecycle_frame (setId member : ReplicaSetId) (set : ReplicaSetState) :
    ∃ sets, ctrl.deriveSetLifecycle setId set member = { ctrl with sets := sets } := by
  rcases ctrl.deriveSetLifecycle_cases setId member set with same | ⟨_, -, -, moved⟩
  · exact ⟨ctrl.sets, same⟩
  · exact ⟨_, moved⟩

@[simp] theorem deriveSetLifecycle_replicas (setId member : ReplicaSetId)
    (set : ReplicaSetState) :
    (ctrl.deriveSetLifecycle setId set member).replicas = ctrl.replicas := by
  obtain ⟨sets, same⟩ := ctrl.deriveSetLifecycle_frame setId member set
  rw [same]

@[simp] theorem deriveSetLifecycle_workers (setId member : ReplicaSetId)
    (set : ReplicaSetState) :
    (ctrl.deriveSetLifecycle setId set member).workers = ctrl.workers := by
  obtain ⟨sets, same⟩ := ctrl.deriveSetLifecycle_frame setId member set
  rw [same]

@[simp] theorem deriveSetLifecycle_epoch (setId member : ReplicaSetId)
    (set : ReplicaSetState) :
    (ctrl.deriveSetLifecycle setId set member).epoch = ctrl.epoch := by
  obtain ⟨sets, same⟩ := ctrl.deriveSetLifecycle_frame setId member set
  rw [same]

@[simp] theorem deriveSetLifecycle_failovers (setId member : ReplicaSetId)
    (set : ReplicaSetState) :
    (ctrl.deriveSetLifecycle setId set member).failovers = ctrl.failovers := by
  obtain ⟨sets, same⟩ := ctrl.deriveSetLifecycle_frame setId member set
  rw [same]

@[simp] theorem deriveSetLifecycle_promotions (setId member : ReplicaSetId)
    (set : ReplicaSetState) :
    (ctrl.deriveSetLifecycle setId set member).promotions = ctrl.promotions := by
  obtain ⟨sets, same⟩ := ctrl.deriveSetLifecycle_frame setId member set
  rw [same]

@[simp] theorem deriveSetLifecycle_drains (setId member : ReplicaSetId)
    (set : ReplicaSetState) :
    (ctrl.deriveSetLifecycle setId set member).drains = ctrl.drains := by
  obtain ⟨sets, same⟩ := ctrl.deriveSetLifecycle_frame setId member set
  rw [same]

def requestedPromotion (ctrl : ReplicaSetController) (fresh : FreshIds) (r : ReplicaState)
    (target : PromotionState) (mono : MonotonicNs) (wall : WallNs) : PromotionRecord where
  id := fresh.promotionId
  replicaId := r.id
  setId := r.setId
  replicaGeneration := r.generation
  setGeneration := r.setGeneration
  epoch := ctrl.epoch
  source := r.promotion
  target := target
  whenMono := mono
  whenWall := wall
  reason := "promoted to " ++ enumString target

theorem promoteReplica_outcome (fresh : FreshIds) (replicaId : ReplicaId) (target : PromotionState)
    (worker : WorkerId) (boot : WorkerBootId) (mono : MonotonicNs) (wall : WallNs) :
    let outcome := ctrl.promoteReplica fresh replicaId target worker boot mono wall
    Refused outcome ctrl ∨
    ∃ r set granted, ctrl.replicas[replicaId]? = some r ∧
      PromotionGate ctrl r worker boot set ∧ promoted r target fresh = .ok granted ∧
      outcome.1.isOk = true ∧
      outcome.2 = deriveSetLifecycle { ctrl.putReplica replicaId granted with
        promotions := ctrl.promotions ++ [ctrl.requestedPromotion fresh r target mono wall] }
        r.setId set set.id := by
  intro outcome
  simp only [outcome, promoteReplica]
  cases found : ctrl.replicas[replicaId]? with
  | none => exact Or.inl (refused_error _)
  | some r =>
      dsimp only
      cases gate : ctrl.promotionGate r worker boot with
      | error refusal => exact Or.inl ⟨promotionGate_error_not_ok gate, rfl⟩
      | ok set =>
          dsimp only
          cases grant : promoted r target fresh with
          | error refusal => exact Or.inl ⟨promoted_error_not_ok grant, rfl⟩
          | ok granted =>
              exact Or.inr ⟨r, set, granted, rfl, promotionGate_ok.mp gate, grant, rfl, rfl⟩

theorem promoteReplica_cases (fresh : FreshIds) (replicaId : ReplicaId) (target : PromotionState)
    (worker : WorkerId) (boot : WorkerBootId) (mono : MonotonicNs) (wall : WallNs) :
    let outcome := ctrl.promoteReplica fresh replicaId target worker boot mono wall
    Refused outcome ctrl ∨
    ∃ r set granted record, ctrl.replicas[replicaId]? = some r ∧
      PromotionGate ctrl r worker boot set ∧ promoted r target fresh = .ok granted ∧
      outcome.1.isOk = true ∧
      outcome.2 = deriveSetLifecycle { ctrl.putReplica replicaId granted with
        promotions := ctrl.promotions ++ [record] } r.setId set set.id := by
  intro outcome
  rcases ctrl.promoteReplica_outcome fresh replicaId target worker boot mono wall with refused |
    ⟨r, set, granted, promotes⟩
  · exact Or.inl refused
  · exact Or.inr ⟨r, set, granted, _, promotes⟩

/-! ## Draining, failing and retiring -/

def openedDrain (r : ReplicaState) (fresh : FreshIds) (mono : MonotonicNs) : DrainRecord where
  id := fresh.drainId
  replicaId := r.id
  setId := r.setId
  state := .draining
  startedMono := mono
  reason := "drain requested: reject new work, allow existing to finish"

def settledDrain (quiesced : UInt64) (forceCancelled : Bool) (mono : MonotonicNs)
    (dr : DrainRecord) : DrainRecord :=
  { dr with
    state := .quiesced
    completedMono := mono
    quiescedRequests := quiesced
    forceCancelled := forceCancelled }

theorem drainReplica_outcome (fresh : FreshIds) (replicaId : ReplicaId) (worker : WorkerId)
    (boot : WorkerBootId) (mono : MonotonicNs) :
    let outcome := ctrl.drainReplica fresh replicaId worker boot mono
    Refused outcome ctrl ∨
    ∃ r, ctrl.replicas[replicaId]? = some r ∧ (r.workerId = worker ∧ r.bootId = boot) ∧
      r.coordinatorEpoch = ctrl.epoch ∧ (r.lifecycle = .ready ∨ r.lifecycle = .serving) ∧
      outcome.1.isOk = true ∧
      outcome.2 = { ctrl.putReplica replicaId r.drained with
        drains := ctrl.drains ++ [openedDrain r fresh mono] } := by
  intro outcome
  simp only [outcome, drainReplica]
  cases found : ctrl.replicas[replicaId]? with
  | none => exact Or.inl (refused_error _)
  | some r =>
      dsimp only
      split_ifs with host epoch state edge
      · exact Or.inl (refused_error _)
      · exact Or.inl (refused_error _)
      · exact Or.inl (refused_error _)
      · exfalso
        have serving : r.lifecycle = .ready ∨ r.lifecycle = .serving := by tauto
        rcases serving with state | state <;> simp [state, ReplicaLifecycle.canTransition] at edge
      · have hosted := workerBootMatches_iff.mp (by simpa using host)
        exact Or.inr ⟨r, rfl, hosted, not_not.mp epoch, by tauto, rfl, rfl⟩

theorem drainReplica_cases (fresh : FreshIds) (replicaId : ReplicaId) (worker : WorkerId)
    (boot : WorkerBootId) (mono : MonotonicNs) :
    let outcome := ctrl.drainReplica fresh replicaId worker boot mono
    Refused outcome ctrl ∨
    ∃ r record, ctrl.replicas[replicaId]? = some r ∧ (r.workerId = worker ∧ r.bootId = boot) ∧
      r.coordinatorEpoch = ctrl.epoch ∧ (r.lifecycle = .ready ∨ r.lifecycle = .serving) ∧
      outcome.1.isOk = true ∧
      outcome.2 = { ctrl.putReplica replicaId r.drained with drains := ctrl.drains ++ [record] } := by
  intro outcome
  rcases ctrl.drainReplica_outcome fresh replicaId worker boot mono with refused | ⟨r, drains⟩
  · exact Or.inl refused
  · exact Or.inr ⟨r, _, drains⟩

theorem completeDrain_outcome (replicaId : ReplicaId) (quiesced : UInt64) (forceCancelled : Bool)
    (mono : MonotonicNs) :
    let outcome := ctrl.completeDrain replicaId quiesced forceCancelled mono
    Refused outcome ctrl ∨
    ∃ r, ctrl.replicas[replicaId]? = some r ∧ r.lifecycle = .draining ∧
      (forceCancelled = true ∨ r.activeRequests = 0) ∧ outcome.1.isOk = true ∧
      outcome.2 = { ctrl.putReplica replicaId r.quiesced with
        drains := settleDrain r.id (settledDrain quiesced forceCancelled mono) ctrl.drains } := by
  intro outcome
  simp only [outcome, completeDrain]
  cases found : ctrl.replicas[replicaId]? with
  | none => exact Or.inl (refused_error _)
  | some r =>
      dsimp only
      split_ifs with state active edge
      · exact Or.inl (refused_error _)
      · exact Or.inl (refused_error _)
      · exact Or.inl (refused_invalid _)
      · refine Or.inr ⟨r, rfl, not_not.mp state, ?_, rfl, rfl⟩
        cases forceCancelled with
        | true => exact Or.inl rfl
        | false => exact Or.inr (by simpa using active)

theorem completeDrain_cases (replicaId : ReplicaId) (quiesced : UInt64) (forceCancelled : Bool)
    (mono : MonotonicNs) :
    let outcome := ctrl.completeDrain replicaId quiesced forceCancelled mono
    Refused outcome ctrl ∨
    ∃ r settle, ctrl.replicas[replicaId]? = some r ∧ r.lifecycle = .draining ∧
      (forceCancelled = true ∨ r.activeRequests = 0) ∧ outcome.1.isOk = true ∧
      outcome.2 = { ctrl.putReplica replicaId r.quiesced with
        drains := settleDrain r.id settle ctrl.drains } := by
  intro outcome
  rcases ctrl.completeDrain_outcome replicaId quiesced forceCancelled mono with refused |
    ⟨r, found, draining, ends⟩
  · exact Or.inl refused
  · exact Or.inr ⟨r, _, found, draining, ends⟩

theorem failReplica_cases (replicaId : ReplicaId) (worker : WorkerId) (boot : WorkerBootId)
    (reason : Str) (mono : MonotonicNs) :
    let outcome := ctrl.failReplica replicaId worker boot reason mono
    Refused outcome ctrl ∨
    ∃ r, ctrl.replicas[replicaId]? = some r ∧ (r.workerId = worker ∧ r.bootId = boot) ∧
      ((r.lifecycle.canTransition .failed = false ∧ outcome.1.isOk = false ∧
          outcome.2 = ctrl.putReplica replicaId (r.failing reason mono)) ∨
        (r.lifecycle.canTransition .failed = true ∧ outcome.1.isOk = true ∧
          outcome.2 = ctrl.putReplica replicaId
            { r.failing reason mono with lifecycle := .failed })) := by
  intro outcome
  simp only [outcome, failReplica]
  cases found : ctrl.replicas[replicaId]? with
  | none => exact Or.inl (refused_error _)
  | some r =>
      dsimp only
      split_ifs with host edge
      · exact Or.inl (refused_error _)
      · have hosted := workerBootMatches_iff.mp (by simpa using host)
        exact Or.inr ⟨r, rfl, hosted, Or.inl ⟨by simpa using edge, rfl, rfl⟩⟩
      · have hosted := workerBootMatches_iff.mp (by simpa using host)
        exact Or.inr ⟨r, rfl, hosted, Or.inr ⟨by simpa using edge, rfl, rfl⟩⟩

theorem retireReplica_cases (replicaId : ReplicaId) :
    Refused (ctrl.retireReplica replicaId) ctrl ∨
    Edits (ctrl.retireReplica replicaId) ctrl replicaId
      (fun r => r.lifecycle.canTransition .retired = true) (·.retired) := by
  unfold retireReplica
  cases found : ctrl.replicas[replicaId]? with
  | none => exact Or.inl (refused_error _)
  | some r =>
      dsimp only
      split_ifs with guard
      · exact Or.inl (refused_error _)
      · exact Or.inr ⟨r, found, by simpa using guard, rfl, rfl⟩

end ReplicaFabric.ReplicaSetController
