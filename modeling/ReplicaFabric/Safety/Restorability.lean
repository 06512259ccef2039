import ReplicaFabric.Controller.ReplicaStep
import ReplicaFabric.Controller.SetStep
import ReplicaFabric.Persistence.RoundTrip

/-!
# What the controller can restore

Recovery rejects null identities and doubles that are not finite. The operations accept both, so
the snapshot of a run can be recovered exactly when no accepted call brought one of them in.
-/

namespace ReplicaFabric

def Operation.storable : Operation → Bool
  | createReplicaSet set _ => !set.id.isNull && set.policies.health.healthThreshold.Finite
  | provisionReplica id .. => !id.isNull
  | reportHealth _ ev .. => ev.confidence.Finite
  | _ => true

theorem ReplicaState.healthReported_confidence {r : ReplicaState} (ev : HealthEvidence)
    (mono : MonotonicNs) : (r.healthReported ev mono).healthRecord.confidence = ev.confidence := by
  unfold healthReported
  dsimp only
  split_ifs <;> rfl

namespace ReplicaSetController

variable {ctrl : ReplicaSetController}

def Restorable (ctrl : ReplicaSetController) : Prop :=
  (recoverInto (makeSnapshot ctrl) empty).1 = .ok ()

/-- What recovery asks for and the operations see to. -/
structure WellFormed (ctrl : ReplicaSetController) : Prop where
  keyed : ctrl.Keyed
  members : ∀ (id : ReplicaId) (r : ReplicaState), ctrl.replicas[id]? = some r →
    ∃ s, ctrl.sets[r.setId]? = some s
  counts : ∀ (id : ReplicaSetId) (s : ReplicaSetState), ctrl.sets[id]? = some s →
    countsInvalid s = false
  generations : ∀ (id : ReplicaId) (r : ReplicaState), ctrl.replicas[id]? = some r →
    r.generation ≠ .null

theorem wellFormed_empty : empty.WellFormed := by
  constructor
  · constructor <;> intro k v found <;> simp [empty] at found
  all_goals
    intro id x found
    simp [empty] at found

theorem set_origin {op : Operation} {fresh : FreshIds} {id : ReplicaSetId} {s' : ReplicaSetState}
    (found : (op.apply fresh ctrl).2.sets[id]? = some s') :
    (∃ s, ctrl.sets[id]? = some s ∧ ∃ lifecycle, s' = { s with lifecycle := lifecycle }) ∨
      (s'.id = id ∧ countsInvalid s' = false ∧ (op.apply fresh ctrl).1.isOk = true ∧
        ∃ epoch, op = .createReplicaSet s' epoch) := by
  have change := ctrl.setStep op fresh id
  rw [found] at change
  generalize ctrl.sets[id]? = prior, (op.apply fresh ctrl).1.isOk = accepted at change ⊢
  cases change with
  | kept => exact Or.inl ⟨s', rfl, s'.lifecycle, rfl⟩
  | created named counts => exact Or.inr ⟨named, counts, rfl, _, rfl⟩
  | moved lifecycle => exact Or.inl ⟨_, rfl, lifecycle, rfl⟩

theorem replica_origin {op : Operation} {fresh : FreshIds} {id : ReplicaId} {r' : ReplicaState}
    (found : (op.apply fresh ctrl).2.replicas[id]? = some r') :
    (∃ r, ctrl.replicas[id]? = some r ∧ r'.incarnation = r.incarnation ∧
      (r'.healthRecord.confidence = r.healthRecord.confidence ∨
        (op.apply fresh ctrl).1.isOk = true ∧ ∃ ev worker boot mono,
          op = .reportHealth id ev worker boot mono ∧
            r'.healthRecord.confidence = ev.confidence)) ∨
      ((op.apply fresh ctrl).1.isOk = true ∧ op.provisions id = true ∧ r'.id = id ∧
        r'.generation = fresh.generation ∧ r'.healthRecord.confidence = ⟨0⟩ ∧
        ∃ s, ctrl.sets[r'.setId]? = some s) := by
  have change := ctrl.replicaStep op fresh id
  rw [found] at change
  generalize ctrl.replicas[id]? = prior, (op.apply fresh ctrl).1.isOk = accepted,
    (op.apply fresh ctrl).2 = next at change ⊢
  cases change with
  | provisioned gate =>
      exact Or.inr ⟨rfl, by simp [Operation.provisions], rfl, rfl, rfl, _,
        (provisionGate_ok.mp gate).1⟩
  | @registered wr r =>
      have confidence : (r.afterRestart wr.workerId).healthRecord.confidence =
          r.healthRecord.confidence := by
        unfold ReplicaState.afterRestart
        split_ifs <;> rfl
      split_ifs
      · exact Or.inl ⟨r, rfl, ReplicaState.afterRestart_incarnation _, Or.inl confidence⟩
      · exact Or.inl ⟨r, rfl, rfl, Or.inl rfl⟩
  | @unregistered worker r =>
      refine Or.inl ⟨r, rfl, ReplicaState.afterDisconnect_incarnation worker, Or.inl ?_⟩
      unfold ReplicaState.afterDisconnect
      split_ifs <;> rfl
  | @healthReported ev worker boot mono r host alive =>
      refine Or.inl ⟨r, rfl, ReplicaState.healthReported_incarnation ev mono,
        Or.inr ⟨rfl, ev, worker, boot, mono, rfl, ReplicaState.healthReported_confidence ev mono⟩⟩
  | @promoted target worker boot mono wall r set granted gate grant =>
      refine Or.inl ⟨r, rfl, promoted_incarnation grant, Or.inl ?_⟩
      rcases promoted_ok.mp grant with ⟨-, -, rfl⟩ | ⟨-, rfl⟩
      · unfold grantedPrimary
        split_ifs <;> rfl
      · rfl
  | _ => exact Or.inl ⟨_, rfl, rfl, Or.inl rfl⟩

theorem keyed_step (keyed : ctrl.Keyed) (call : Call) : (ctrl.step call).2.Keyed where
  sets id s' found := by
    rcases set_origin found with ⟨s, before, lifecycle, rfl⟩ | ⟨named, -⟩
    · exact keyed.sets id s before
    · exact named
  replicas id r' found := by
    rcases replica_origin found with ⟨r, before, same, -⟩ | ⟨-, -, named, -⟩
    · exact (congrArg Incarnation.id same).trans (keyed.replicas id r before)
    · exact named
  workers worker reg found := by
    rcases worker_origin found with before | ⟨named, -⟩
    · exact keyed.workers worker reg before
    · exact named

theorem WellFormed.step (wellFormed : ctrl.WellFormed) (call : Call)
    (drawn : call.fresh.generation ≠ .null) : (ctrl.step call).2.WellFormed where
  keyed := keyed_step wellFormed.keyed call
  members id r' found := by
    have known : ∃ s, ctrl.sets[r'.setId]? = some s := by
      rcases replica_origin found with ⟨r, before, same, -⟩ | ⟨-, -, -, -, -, known⟩
      · rw [show r'.setId = r.setId from congrArg Incarnation.setId same]
        exact wellFormed.members id r before
      · exact known
    obtain ⟨s, before⟩ := known
    obtain ⟨lifecycle, persists⟩ := sets_persist call.op call.fresh before
    exact ⟨_, persists⟩
  counts id s' found := by
    rcases set_origin found with ⟨s, before, lifecycle, rfl⟩ | ⟨-, counts, -⟩
    · exact wellFormed.counts id s before
    · exact counts
  generations id r' found := by
    rcases replica_origin found with ⟨r, before, same, -⟩ | ⟨-, -, -, generation, -⟩
    · rw [show r'.generation = r.generation from congrArg Incarnation.generation same]
      exact wellFormed.generations id r before
    · rw [generation]
      exact drawn

structure Acceptable (ctrl : ReplicaSetController) : Prop where
  setIds : ∀ (id : ReplicaSetId) (s : ReplicaSetState), ctrl.sets[id]? = some s → s.id ≠ .null
  replicaIds : ∀ (id : ReplicaId) (r : ReplicaState), ctrl.replicas[id]? = some r → r.id ≠ .null
  finite : ctrl.FiniteDoubles

theorem acceptable_empty : empty.Acceptable := by
  constructor
  · intro id s found
    simp [empty] at found
  · intro id r found
    simp [empty] at found
  · constructor <;> intro id x found <;> simp [empty] at found

theorem valid_iff (wellFormed : ctrl.WellFormed) :
    validateRecoveredState ctrl.recordedState = none ↔
      (∀ (id : ReplicaId) (r : ReplicaState), ctrl.replicas[id]? = some r →
        r.id ≠ .null ∧ r.setId ≠ .null) ∧
      (∀ (id : ReplicaSetId) (s : ReplicaSetState), ctrl.sets[id]? = some s → s.id ≠ .null) := by
  rw [validateRecoveredState_eq_none]
  refine and_congr (forall₂_congr fun id r => forall_congr' fun found => ?_)
    (forall₂_congr fun id s => forall_congr' fun found => ?_)
  · obtain ⟨s, member⟩ := wellFormed.members id r found
    have known : ctrl.recordedState.sets[r.setId]? = some s := member
    simp [replicaInvalid, known, wellFormed.generations id r found]
  · simp [setInvalid, wellFormed.counts id s found]

theorem restorable_iff (wellFormed : ctrl.WellFormed) (addressable : ctrl.Addressable) :
    ctrl.Restorable ↔ ctrl.Acceptable := by
  constructor
  · intro restorable
    have finite : ctrl.FiniteDoubles := by
      by_contra special
      obtain ⟨e, failed⟩ := decodeSnapshot_rejects wellFormed.keyed addressable special
      simp [Restorable, recoverInto, failed] at restorable
    have valid : validateRecoveredState ctrl.recordedState = none := by
      cases outcome : validateRecoveredState ctrl.recordedState with
      | none => rfl
      | some e =>
          simp [Restorable, recoverInto, outcome,
            decodeSnapshot_makeSnapshot wellFormed.keyed addressable finite] at restorable
    obtain ⟨replicas, sets⟩ := (valid_iff wellFormed).mp valid
    exact ⟨sets, fun id r found => (replicas id r found).1, finite⟩
  · intro acceptable
    have valid : validateRecoveredState ctrl.recordedState = none := by
      refine (valid_iff wellFormed).mpr ⟨fun id r found => ⟨acceptable.replicaIds id r found, ?_⟩,
        acceptable.setIds⟩
      -- The set of a replica is filed under its id.
      obtain ⟨s, member⟩ := wellFormed.members id r found
      rw [← wellFormed.keyed.sets r.setId s member]
      exact acceptable.setIds r.setId s member
    rw [Restorable, recoverInto_makeSnapshot wellFormed.keyed addressable acceptable.finite valid]

def admitsHealth (ctrl : ReplicaSetController) (id : ReplicaId) (ev : HealthEvidence)
    (worker : WorkerId) (boot : WorkerBootId) : Bool :=
  match ctrl.replicas[id]? with
  | none => false
  | some r =>
      r.workerBootMatches worker boot && r.coordinatorEpoch = ctrl.epoch &&
        ev.generation = r.healthGeneration &&
        !(r.lifecycle = .failed || r.lifecycle = .retired || r.lifecycle = .quiesced)

def keepsAcceptable (ctrl : ReplicaSetController) (op : Operation) : Bool :=
  op.storable ||
    match op with
    | .createReplicaSet set _ => (ctrl.sets[set.id]?).isSome || countsInvalid set
    | .provisionReplica _ setId worker .. => !(ctrl.provisionGate setId worker).isOk
    | .reportHealth id ev worker boot _ => !ctrl.admitsHealth id ev worker boot
    | _ => false

theorem reportHealth_isOk (id : ReplicaId) (ev : HealthEvidence) (worker : WorkerId)
    (boot : WorkerBootId) (mono : MonotonicNs) :
    (ctrl.reportHealth id ev worker boot mono).1.isOk = ctrl.admitsHealth id ev worker boot := by
  unfold reportHealth admitsHealth
  cases ctrl.replicas[id]? with
  | none => rfl
  | some r =>
      dsimp only
      split_ifs with host epoch generation dead
      · simp_all
      · simp [epoch]
      · simp [generation]
      · rcases dead with ended | ended | ended <;> simp [ended]
      · simp_all

theorem keepsAcceptable_iff (op : Operation) (fresh : FreshIds) :
    ctrl.keepsAcceptable op = true ↔
      ((op.apply fresh ctrl).1.isOk = true → op.storable = true) := by
  have guarded (stopped ok storable : Bool) (same : ok = !stopped) :
      (storable || stopped) = true ↔ (ok = true → storable = true) := by
    cases stopped <;> cases storable <;> simp [same]
  cases op with
  | createReplicaSet set epoch => exact guarded _ _ _ (ctrl.createReplicaSet_isOk set epoch)
  | provisionReplica id setId worker compat device capacity mono wall =>
      refine guarded _ _ _ ?_
      rw [Bool.not_not]
      exact ctrl.provisionReplica_isOk fresh id setId worker compat device capacity mono wall
  | reportHealth id ev worker boot mono =>
      refine guarded _ _ _ ?_
      rw [Bool.not_not]
      exact ctrl.reportHealth_isOk id ev worker boot mono
  | _ => exact iff_of_true rfl fun _ => rfl

theorem Acceptable.step (acceptable : ctrl.Acceptable) {op : Operation} {fresh : FreshIds}
    (storable : (op.apply fresh ctrl).1.isOk = true → op.storable = true) :
    (op.apply fresh ctrl).2.Acceptable where
  setIds id s' found := by
    rcases set_origin found with ⟨s, before, lifecycle, rfl⟩ | ⟨-, -, accepted, epoch, rfl⟩
    · exact acceptable.setIds id s before
    · have both := storable accepted
      simp only [Operation.storable, Bool.and_eq_true, Bool.not_eq_true', ← Bool.not_eq_true,
        Id.isNull_iff] at both
      exact both.1
  replicaIds id r' found := by
    rcases replica_origin found with ⟨r, before, same, -⟩ | ⟨accepted, provisions, named, -⟩
    · rw [show r'.id = r.id from congrArg Incarnation.id same]
      exact acceptable.replicaIds id r before
    · rw [named]
      cases op with
      | provisionReplica x =>
          obtain rfl : x = id := by simpa [Operation.provisions] using provisions
          simpa [Operation.storable, ← Bool.not_eq_true] using storable accepted
      | _ => cases provisions
  finite := by
    constructor
    · intro id s' found
      rcases set_origin found with ⟨s, before, lifecycle, rfl⟩ | ⟨-, -, accepted, epoch, rfl⟩
      · exact acceptable.finite.thresholds id s before
      · exact of_decide_eq_true (Bool.and_eq_true_iff.mp (storable accepted)).2
    · intro id r' found
      rcases replica_origin found with
        ⟨r, before, -, same | ⟨accepted, ev, worker, boot, mono, rfl, reported⟩⟩ |
          ⟨-, -, -, -, zero, -⟩
      · rw [same]
        exact acceptable.finite.confidences id r before
      · rw [reported]
        exact of_decide_eq_true (storable accepted)
      · rw [zero]
        decide

theorem storable_of_acceptable {op : Operation} {fresh : FreshIds}
    (accepted : (op.apply fresh ctrl).1.isOk = true)
    (acceptable : (op.apply fresh ctrl).2.Acceptable) : op.storable = true := by
  cases op with
  | createReplicaSet set epoch =>
      rcases ctrl.createReplicaSet_cases set epoch with refused | ⟨-, -, -, written⟩
      · cases refused.1.symm.trans accepted
      · have found : ((Operation.createReplicaSet set epoch).apply fresh ctrl).2.sets[set.id]? =
            some set := by
          rw [Operation.apply, written]
          exact (putSet_get ..).trans (if_pos rfl)
        have named := acceptable.setIds set.id set found
        have finite := acceptable.finite.thresholds set.id set found
        simp [Operation.storable, ← Bool.not_eq_true, named, finite]
  | provisionReplica id setId worker compat device capacity mono wall =>
      rcases ctrl.provisionReplica_cases fresh id setId worker compat device capacity mono wall with
        ⟨-, refused⟩ | ⟨set, reg, lifecycle, gate, -, -, written⟩
      · cases refused.1.symm.trans accepted
      · have found : ((Operation.provisionReplica id setId worker compat device capacity mono
            wall).apply fresh ctrl).2.replicas[id]? = some (.provisioned id setId set reg worker
              compat device capacity ctrl.epoch fresh mono wall) := by
          rw [Operation.apply, written]
          exact putReplica_here ..
        have named : id ≠ .null := acceptable.replicaIds id _ found
        simpa [Operation.storable, ← Bool.not_eq_true] using named
  | reportHealth id ev worker boot mono =>
      rcases ctrl.reportHealth_cases id ev worker boot mono with refused | ⟨r, -, -, -, written⟩
      · cases refused.1.symm.trans accepted
      · have finite := acceptable.finite.confidences id (r.healthReported ev mono) (by
          rw [Operation.apply, written]
          exact putReplica_here ..)
        rw [ReplicaState.healthReported_confidence] at finite
        exact decide_eq_true finite
  | _ => rfl

theorem acceptable_step (acceptable : ctrl.Acceptable) (call : Call) :
    (ctrl.step call).2.Acceptable ↔ ctrl.keepsAcceptable call.op = true := by
  rw [keepsAcceptable_iff call.op call.fresh]
  exact ⟨fun after accepted => storable_of_acceptable accepted after, acceptable.step⟩

def NonNullDraws (calls : List Call) : Prop := ∀ call ∈ calls, call.fresh.generation ≠ .null

instance (calls : List Call) : Decidable (NonNullDraws calls) := List.decidableBAll _ calls

theorem wellFormed_throughout {calls : List Call} (drawn : NonNullDraws calls) :
    Machine.Throughout step WellFormed empty calls :=
  Machine.throughout_of_admissible (fun _ call wellFormed drawn => wellFormed.step call drawn)
    wellFormed_empty (Machine.admissible_of_forall drawn)

theorem restorable_iff_keepsAcceptable (calls : List Call) (drawn : NonNullDraws calls)
    (addressable : Machine.Throughout step Addressable empty calls) :
    Machine.Throughout step Restorable empty calls ↔
      Machine.Admissible step (fun ctrl call => ctrl.keepsAcceptable call.op = true) empty
        calls := by
  have wellFormed := wellFormed_throughout drawn
  rw [Machine.Throughout.congr (wellFormed.and addressable)
    fun _ both => restorable_iff both.1 both.2]
  exact Machine.throughout_iff_admissible wellFormed
    (fun _ call _ acceptable => acceptable_step acceptable call) acceptable_empty

theorem restorable_iff_keepsAcceptable_serving :
    Machine.Throughout step Restorable empty Sample.serving :=
  (restorable_iff_keepsAcceptable Sample.serving (by decide) (by decide +kernel)).mpr (by decide)

def nanEvidence : HealthEvidence where
  state := .healthy
  confidence := ⟨0x7FF8000000000000⟩
  generation := ⟨1, 1⟩

def nanReport : List Call :=
  Sample.setUp ++ (Sample.bringUp ⟨0, 1⟩).take 1 ++
    [⟨.reportHealth ⟨0, 1⟩ nanEvidence ⟨0, 1⟩ ⟨0, 1⟩ 0, Sample.freshAt 0⟩]

/-- The report is accepted, and the snapshot after it cannot be recovered. -/
theorem nanReport_unrestorable :
    ¬∀ calls, NonNullDraws calls → Machine.Throughout step Addressable empty calls →
      Machine.Throughout step Restorable empty calls := by
  intro always
  have drawn : NonNullDraws nanReport := by decide
  have addressable : Machine.Throughout step Addressable empty nanReport := by decide +kernel
  have restorable := (always nanReport drawn addressable).last
  have special : ¬(Machine.run step empty nanReport).FiniteDoubles := by decide
  exact special ((restorable_iff (wellFormed_throughout drawn).last addressable.last).mp
    restorable).finite

end ReplicaSetController

end ReplicaFabric
