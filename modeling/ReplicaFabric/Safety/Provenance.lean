import ReplicaFabric.Persistence.Command
import ReplicaFabric.Safety.SinglePrimary

/-!
# The health and its record

Every operation that writes the health of a replica writes its health record with it, but for a
promotion to `PRIMARY`: it takes an `UNKNOWN` replica to be `HEALTHY`, and no record says so.
-/

namespace ReplicaFabric

def HealthRecorded (r : ReplicaState) : Prop := r.health = r.healthRecord.state

namespace HealthRecorded

variable {r : ReplicaState}

theorem loseAuthority (reason : Str) : HealthRecorded (r.loseAuthority reason) := rfl

theorem of_same {r' : ReplicaState} (recorded : HealthRecorded r) (health : r'.health = r.health)
    (state : r'.healthRecord.state = r.healthRecord.state) : HealthRecorded r' :=
  health.trans (recorded.trans state.symm)

theorem healthReported (ev : HealthEvidence) (mono : MonotonicNs) :
    HealthRecorded (r.healthReported ev mono) := by
  rw [HealthRecorded, ReplicaState.healthReported_health, ReplicaState.healthReported_healthRecord]

theorem grantedPrimary_iff (recorded : HealthRecorded r) (fresh : FreshIds) :
    HealthRecorded (ReplicaSetController.grantedPrimary r fresh) ↔ r.health ≠ .unknown := by
  unfold ReplicaSetController.grantedPrimary
  split_ifs with unknown
  · refine iff_of_false (fun healthy => ?_) (not_not.mpr unknown)
    have state : HealthState.healthy = r.healthRecord.state := healthy
    rw [← recorded, unknown] at state
    cases state
  · exact iff_of_true recorded unknown

end HealthRecorded

namespace ReplicaSetController

variable {ctrl next : ReplicaSetController} {fresh : FreshIds} {id : ReplicaId} {op : Operation}
  {r' : ReplicaState}

def HealthsRecorded (ctrl : ReplicaSetController) : Prop :=
  ∀ (id : ReplicaId) (r : ReplicaState), ctrl.replicas[id]? = some r → HealthRecorded r

def AssumesNoHealth (ctrl : ReplicaSetController) : Command → Prop
  | .call call => ∀ (id : ReplicaId) (worker : WorkerId) (boot : WorkerBootId) (mono : MonotonicNs)
      (wall : WallNs) (r : ReplicaState) (set : ReplicaSetState),
      call.op = .promoteReplica id .primary worker boot mono wall →
      ctrl.replicas[id]? = some r → PromotionGate ctrl r worker boot set →
      r.readyToPromote = true → r.health ≠ .unknown
  | .recoverInto _ => True

theorem ReplicaStep.healthRecorded {accepted : Bool} {prior : Option ReplicaState}
    (change : ReplicaStep ctrl fresh next id op accepted prior (some r'))
    (before : ∀ r, prior = some r → HealthRecorded r)
    (known : ∀ worker boot mono wall r set,
      op = .promoteReplica id .primary worker boot mono wall → prior = some r →
      PromotionGate ctrl r worker boot set → r.readyToPromote = true → r.health ≠ .unknown) :
    HealthRecorded r' := by
  cases change with
  | provisioned gate => rfl
  | registered =>
      unfold ReplicaState.afterRestart
      split_ifs
      · rfl
      · exact before _ rfl
      · exact before _ rfl
  | unregistered =>
      unfold ReplicaState.afterDisconnect
      split_ifs
      · rfl
      · exact before _ rfl
  | started edge => rfl
  | healthReported host alive => exact .healthReported ..
  | promoted gate grant =>
      rcases promoted_ok.mp grant with ⟨rfl, ready, rfl⟩ | ⟨-, rfl⟩
      · exact ((before _ rfl).grantedPrimary_iff _).mpr (known _ _ _ _ _ _ rfl rfl gate ready)
      · exact (before _ rfl).of_same rfl rfl
  | failed host => rfl
  | failRefused host edge => rfl
  | failedOver inSet => exact .loseAuthority _
  | _ => exact (before _ rfl).of_same rfl rfl

theorem healthsRecorded_promote {worker : WorkerId} {boot : WorkerBootId} {mono : MonotonicNs}
    {wall : WallNs} {r : ReplicaState} {set : ReplicaSetState} (recorded : HealthRecorded r)
    (after : (ctrl.promoteReplica fresh id .primary worker boot mono wall).2.HealthsRecorded)
    (found : ctrl.replicas[id]? = some r) (gate : PromotionGate ctrl r worker boot set)
    (ready : r.readyToPromote = true) : r.health ≠ .unknown := by
  have granted : (ctrl.promoteReplica fresh id .primary worker boot mono wall).2.replicas[id]? =
      some (grantedPrimary r fresh) :=
    (promotePrimary_replicas found (promotionGate_ok.mpr gate) ready id).trans (if_pos rfl)
  exact (recorded.grantedPrimary_iff fresh).mp (after id _ granted)

theorem healthsRecorded_command (recorded : ctrl.HealthsRecorded) (cmd : Command) :
    (ctrl.command cmd).2.HealthsRecorded ↔ ctrl.AssumesNoHealth cmd := by
  cases cmd with
  | call call =>
      obtain ⟨op, fresh⟩ := call
      constructor
      · rintro after id worker boot mono wall r set rfl found gate ready
        exact healthsRecorded_promote (recorded id r found) after found gate ready
      · intro known id r' found
        have change := ctrl.replicaStep op fresh id
        rw [show (op.apply fresh ctrl).2.replicas[id]? = some r' from found] at change
        exact change.healthRecorded (recorded id) (known id)
  | recoverInto bytes =>
      refine iff_of_true (fun id r found => ?_) trivial
      rcases ctrl.recoverInto_cases bytes with ⟨-, same⟩ | ⟨state, -, -, installed⟩
      · rw [command, same] at found
        exact recorded id r found
      · rw [command, installed] at found
        obtain ⟨stored, -, rfl⟩ := install_get found
        rfl

theorem healthsRecorded_empty : empty.HealthsRecorded := by
  intro id r found
  simp [empty] at found

theorem healths_recorded_iff (cmds : List Command) :
    Machine.Throughout command HealthsRecorded empty cmds ↔
      Machine.Admissible command AssumesNoHealth empty cmds :=
  Machine.throughout_iff_of_step cmds
    (fun _ cmd recorded => healthsRecorded_command recorded cmd) healthsRecorded_empty

def unknownReady : List Call :=
  let lax : PolicyBundle := { promotion := { requireHealthy := false } }
  [Sample.register 1 1, ⟨.createReplicaSet { Sample.set with policies := lax } ⟨0, 1⟩,
    Sample.freshAt 0⟩] ++ Sample.bringUp ⟨0, 1⟩ ++
    [⟨.reportHealth ⟨0, 1⟩ { state := .unknown, generation := ⟨1, 1⟩ } ⟨0, 1⟩ ⟨0, 1⟩ 0,
      Sample.freshAt 0⟩]

/-- Its promotion makes it `HEALTHY`, and the record still says `UNKNOWN`. -/
theorem unknownReady_promoted : ¬∀ cmds, Machine.Throughout command HealthsRecorded empty cmds := by
  intro always
  let cmds := (unknownReady ++ [Sample.promote ⟨0, 1⟩]).map Command.call
  have after : (Machine.run command empty cmds).replicas[(⟨0, 1⟩ : ReplicaId)]?.map
      (fun r => (r.health, r.healthRecord.state)) = some (.healthy, .unknown) := by decide +kernel
  obtain ⟨r, found, both⟩ := Option.map_eq_some_iff.mp after
  obtain ⟨health, record⟩ := Prod.mk.inj both
  have recorded := (always cmds).last _ r found
  rw [HealthRecorded, health, record] at recorded
  cases recorded

end ReplicaSetController

end ReplicaFabric
