import ReplicaFabric.Controller.Cases
import ReplicaFabric.Controller.Operation
import ReplicaFabric.Library.Cells

/-!
# Replicas on their own

Between provisionings, failovers, worker registrations and new epochs, the operations on a replica
read and write that replica only, next to the terms of its set and the logs: calls for other
replicas may come in between in any order, and change neither the replica nor what its callers hear.
-/

namespace ReplicaFabric

def ReplicaSetState.terms (s : ReplicaSetState) : ReplicaSetState := { s with lifecycle := .created }

namespace Operation

def isLocal : Operation → Bool
  | transitionReplicaSet .. | setAllocating .. | setStarting .. | warmReplica .. | reportHealth ..
  | reportReadiness .. | promoteReplica .. | drainReplica .. | completeDrain .. | failReplica ..
  | retireReplica .. => true
  | registerWorker .. | unregisterWorker .. | createReplicaSet .. | provisionReplica ..
  | triggerFailover .. | setEpoch .. => false

def target : Operation → Option ReplicaId
  | setAllocating r _ | setStarting r .. | warmReplica r .. | reportHealth r ..
  | reportReadiness r .. | promoteReplica r .. | drainReplica r .. | completeDrain r ..
  | failReplica r .. | retireReplica r => some r
  | _ => none

end Operation

namespace ReplicaSetController

open Cells

def terms (ctrl : ReplicaSetController) :
    CoordinatorEpoch × (ReplicaSetId → Option ReplicaSetState) :=
  (ctrl.epoch, fun id => (ctrl.sets[id]?).map ReplicaSetState.terms)

def entry (ctrl : ReplicaSetController) (id : ReplicaId) : Option ReplicaState :=
  ctrl.replicas[id]?

/-- The outcome is this answer, and writes this replica or none. -/
structure Leaves (ctrl : ReplicaSetController) (id : ReplicaId)
    (outcome : OpResult × ReplicaSetController) (answer : OpResult)
    (replica : Option ReplicaState) : Prop where
  answer : outcome.1 = answer
  replicas : outcome.2.replicas = replica.elim ctrl.replicas (ctrl.replicas.insert id)
  terms : outcome.2.terms = ctrl.terms

variable {ctrl : ReplicaSetController} {id : ReplicaId} {answer answer' : OpResult}
  {outcome outcome' : OpResult × ReplicaSetController} {r : ReplicaState}
  {replica replica' : Option ReplicaState}

namespace Leaves

theorem refused : Leaves ctrl id (answer, ctrl) answer none := ⟨rfl, rfl, rfl⟩

theorem put : Leaves ctrl id (answer, ctrl.putReplica id r) answer (some r) := ⟨rfl, rfl, rfl⟩

theorem drained {drains : List DrainRecord} :
    Leaves ctrl id (answer, { ctrl.putReplica id r with drains := drains }) answer (some r) :=
  ⟨rfl, rfl, rfl⟩

theorem ite {c : Prop} {dec : Decidable c} (first : Leaves ctrl id outcome answer replica)
    (second : Leaves ctrl id outcome' answer' replica') :
    Leaves ctrl id (if c then outcome else outcome') (if c then answer else answer')
      (if c then replica else replica') := by
  split_ifs
  · exact first
  · exact second

end Leaves

theorem local_of_leaves {op : ReplicaSetController → OpResult × ReplicaSetController}
    (unknown : ∀ ctrl, ctrl.replicas[id]? = none → op ctrl = (.rejected "unknown replica", ctrl))
    (known : ∀ r terms, ∃ answer replica, ∀ ctrl, ctrl.replicas[id]? = some r →
      ctrl.terms = terms → Leaves ctrl id (op ctrl) answer replica) :
    Local entry terms (some id) op := by
  have leaves (ctrl : ReplicaSetController) :
      ∃ answer replica, Leaves ctrl id (op ctrl) answer replica := by
    cases found : ctrl.replicas[id]? with
    | none =>
        rw [unknown ctrl found]
        exact ⟨_, none, Leaves.refused⟩
    | some r =>
        obtain ⟨answer, replica, leaves⟩ := known r ctrl.terms
        exact ⟨answer, replica, leaves ctrl found rfl⟩
  refine ⟨fun s t k mine here same => ?_, fun s k elsewhere => ?_, fun s => ?_⟩
  · cases mine
    have here : s.replicas[id]? = t.replicas[id]? := here
    cases found : t.replicas[id]? with
    | none =>
        rw [unknown s (here.trans found), unknown t found]
        exact ⟨rfl, here⟩
    | some r =>
        obtain ⟨answer, replica, leaves⟩ := known r t.terms
        have left := leaves s (here.trans found) same
        have right := leaves t found rfl
        refine ⟨left.answer.trans right.answer.symm, ?_⟩
        rw [entry, entry, left.replicas, right.replicas]
        cases replica with
        | none => exact here
        | some r' => exact (Table.get_insert ..).trans (Table.get_insert ..).symm |>.trans (by simp)
  · obtain ⟨answer, replica, leaves⟩ := leaves s
    rw [entry, leaves.replicas]
    cases replica with
    | none => rfl
    | some r' => exact Table.get_insert_ne _ _ fun same => elsewhere (congrArg some same)
  · obtain ⟨answer, replica, leaves⟩ := leaves s
    exact leaves.terms

theorem epoch_of_terms {terms : CoordinatorEpoch × (ReplicaSetId → Option ReplicaSetState)}
    (same : ctrl.terms = terms) : ctrl.epoch = terms.1 := congrArg Prod.fst same

theorem setAllocating_local (placementId : PlacementId) :
    Local entry terms (some id) (·.setAllocating id placementId) := by
  refine local_of_leaves (fun ctrl found => by rw [setAllocating, found]) fun r terms =>
    ⟨?answer, ?replica, fun ctrl found same => ?leaves⟩
  case leaves =>
    rw [setAllocating, found]
    exact .ite .refused .put

theorem setStarting_local (mono : MonotonicNs) (wall : WallNs) :
    Local entry terms (some id) (·.setStarting id mono wall) := by
  refine local_of_leaves (fun ctrl found => by rw [setStarting, found]) fun r terms =>
    ⟨?answer, ?replica, fun ctrl found same => ?leaves⟩
  case leaves =>
    rw [setStarting, found]
    exact .ite .refused .put

theorem warmReplica_local (warm : WarmingRecord) (worker : WorkerId) (boot : WorkerBootId)
    (mono : MonotonicNs) :
    Local entry terms (some id) (·.warmReplica id warm worker boot mono) := by
  refine local_of_leaves (fun ctrl found => by rw [warmReplica, found]) fun r terms =>
    ⟨?answer, ?replica, fun ctrl found same => ?leaves⟩
  case leaves =>
    rw [warmReplica, found]
    exact .ite .refused (.ite .refused .put)

theorem reportHealth_local (ev : HealthEvidence) (worker : WorkerId) (boot : WorkerBootId)
    (mono : MonotonicNs) :
    Local entry terms (some id) (·.reportHealth id ev worker boot mono) := by
  refine local_of_leaves (fun ctrl found => by rw [reportHealth, found]) fun r terms =>
    ⟨?answer, ?replica, fun ctrl found same => ?leaves⟩
  case leaves =>
    rw [reportHealth, found, epoch_of_terms same]
    exact .ite .refused (.ite .refused (.ite .refused (.ite .refused .put)))

theorem reportReadiness_local (rr : ReadinessRecord) (worker : WorkerId) (boot : WorkerBootId) :
    Local entry terms (some id) (·.reportReadiness id rr worker boot) := by
  refine local_of_leaves (fun ctrl found => by rw [reportReadiness, found]) fun r terms =>
    ⟨?answer, ?replica, fun ctrl found same => ?leaves⟩
  case leaves =>
    rw [reportReadiness, found, epoch_of_terms same]
    exact .ite .refused (.ite .refused (.ite .refused .put))

theorem failReplica_local (worker : WorkerId) (boot : WorkerBootId) (reason : Str)
    (mono : MonotonicNs) :
    Local entry terms (some id) (·.failReplica id worker boot reason mono) := by
  refine local_of_leaves (fun ctrl found => by rw [failReplica, found]) fun r terms =>
    ⟨?answer, ?replica, fun ctrl found same => ?leaves⟩
  case leaves =>
    rw [failReplica, found]
    exact .ite .refused (.ite .put .put)

theorem retireReplica_local :
    Local entry terms (some id) (·.retireReplica id) := by
  refine local_of_leaves (fun ctrl found => by rw [retireReplica, found]) fun r terms =>
    ⟨?answer, ?replica, fun ctrl found same => ?leaves⟩
  case leaves =>
    rw [retireReplica, found]
    exact .ite .refused .put

theorem drainReplica_local (fresh : FreshIds) (worker : WorkerId) (boot : WorkerBootId)
    (mono : MonotonicNs) :
    Local entry terms (some id) (·.drainReplica fresh id worker boot mono) := by
  refine local_of_leaves (fun ctrl found => by rw [drainReplica, found]) fun r terms =>
    ⟨?answer, ?replica, fun ctrl found same => ?leaves⟩
  case leaves =>
    rw [drainReplica, found, epoch_of_terms same]
    exact .ite .refused (.ite .refused (.ite .refused (.ite .put .drained)))

theorem completeDrain_local (quiesced : UInt64) (forceCancelled : Bool) (mono : MonotonicNs) :
    Local entry terms (some id) (·.completeDrain id quiesced forceCancelled mono) := by
  refine local_of_leaves (fun ctrl found => by rw [completeDrain, found]) fun r terms =>
    ⟨?answer, ?replica, fun ctrl found same => ?leaves⟩
  case leaves =>
    rw [completeDrain, found]
    exact .ite .refused (.ite .refused (.ite .refused .drained))

theorem putSet_terms {setId : ReplicaSetId} {set : ReplicaSetState}
    (known : ctrl.sets[setId]? = some set) (lifecycle : ReplicaSetLifecycle) :
    (ctrl.putSet setId { set with lifecycle := lifecycle }).terms = ctrl.terms := by
  refine Prod.ext rfl (funext fun other => ?_)
  change ((ctrl.sets.insert setId _)[other]?).map _ = (ctrl.sets[other]?).map _
  rw [Table.get_insert]
  split_ifs with same
  · rw [← same, known]
    rfl
  · rfl

theorem transitionReplicaSet_local (setId : ReplicaSetId) (target : ReplicaSetLifecycle) :
    Local entry terms none (·.transitionReplicaSet setId target) := by
  refine ⟨fun s t k mine => (nomatch mine), fun s k _ => ?_, fun s => ?_⟩
  · rcases s.transitionReplicaSet_cases setId target with ⟨-, same⟩ | ⟨set, -, -, -, moved⟩
    · rw [same]
    · rw [moved]
      rfl
  · rcases s.transitionReplicaSet_cases setId target with ⟨-, same⟩ | ⟨set, known, -, -, moved⟩
    · rw [same]
    · rw [moved, putSet_terms known]

theorem promotionGate_of_terms {other : ReplicaSetController} (same : ctrl.terms = other.terms)
    (r : ReplicaState) (worker : WorkerId) (boot : WorkerBootId) :
    (ctrl.promotionGate r worker boot).map ReplicaSetState.terms =
      (other.promotionGate r worker boot).map ReplicaSetState.terms := by
  have sets : (ctrl.sets[r.setId]?).map ReplicaSetState.terms =
      (other.sets[r.setId]?).map ReplicaSetState.terms := congrFun (congrArg Prod.snd same) r.setId
  have guards (set set' : ReplicaSetState) (alike : set.terms = set'.terms) :
      ctrl.promotionGuards r set = other.promotionGuards r set' := by
    change ctrl.promotionGuards r set.terms = other.promotionGuards r set'.terms
    rw [alike, promotionGuards, promotionGuards, epoch_of_terms same]
    rfl
  unfold promotionGate
  split_ifs
  · rfl
  cases found : ctrl.sets[r.setId]? with
  | none =>
      cases found' : other.sets[r.setId]? with
      | none => rfl
      | some set' => simp [found, found'] at sets
  | some set =>
      cases found' : other.sets[r.setId]? with
      | none => simp [found, found'] at sets
      | some set' =>
          have alike : set.terms = set'.terms := by simpa [found, found'] using sets
          dsimp only
          rw [guards set set' alike]
          cases firstRefusal (other.promotionGuards r set') with
          | none => exact congrArg Except.ok alike
          | some refusal => rfl

theorem promotionGate_error_of_terms {other : ReplicaSetController}
    (same : ctrl.terms = other.terms) {worker : WorkerId} {boot : WorkerBootId}
    {refusal : OpResult} (gate : other.promotionGate r worker boot = .error refusal) :
    ctrl.promotionGate r worker boot = .error refusal := by
  have alike := promotionGate_of_terms same r worker boot
  cases here : ctrl.promotionGate r worker boot with
  | error refusal' => simpa [here, gate, Except.map] using alike
  | ok set => simp [here, gate, Except.map] at alike

theorem promotionGate_ok_of_terms {other : ReplicaSetController}
    (same : ctrl.terms = other.terms) {worker : WorkerId} {boot : WorkerBootId}
    {set : ReplicaSetState} (gate : other.promotionGate r worker boot = .ok set) :
    ∃ set, ctrl.promotionGate r worker boot = .ok set := by
  have alike := promotionGate_of_terms same r worker boot
  cases here : ctrl.promotionGate r worker boot with
  | error refusal => simp [here, gate, Except.map] at alike
  | ok set => exact ⟨set, rfl⟩

theorem promoteReplica_local (fresh : FreshIds) (target : PromotionState) (worker : WorkerId)
    (boot : WorkerBootId) (mono : MonotonicNs) (wall : WallNs) :
    Local entry terms (some id) (·.promoteReplica fresh id target worker boot mono wall) := by
  refine local_of_leaves (fun ctrl found => by rw [promoteReplica, found]) fun r terms => ?_
  -- The gate wants a set with its lifecycle, which the terms leave out: any such set will do.
  by_cases asked : ∃ ctrl : ReplicaSetController, ctrl.terms = terms
  swap
  · exact ⟨.ok [], none, fun ctrl _ same => absurd ⟨ctrl, same⟩ asked⟩
  obtain ⟨other, same'⟩ := asked
  cases gate : other.promotionGate r worker boot with
  | error refusal =>
      refine ⟨refusal, none, fun ctrl found same => ?_⟩
      rw [promoteReplica, found]
      dsimp only
      rw [promotionGate_error_of_terms (same.trans same'.symm) gate]
      exact .refused
  | ok set' =>
      cases grant : promoted r target fresh with
      | error refusal =>
          refine ⟨refusal, none, fun ctrl found same => ?_⟩
          obtain ⟨set, gate⟩ := promotionGate_ok_of_terms (same.trans same'.symm) gate
          rw [promoteReplica, found]
          dsimp only
          rw [gate, grant]
          exact .refused
      | ok granted =>
          refine ⟨.ok ("promoted to " ++ enumString target), some granted, fun ctrl found same => ?_⟩
          obtain ⟨set, gate⟩ := promotionGate_ok_of_terms (same.trans same'.symm) gate
          have known : ctrl.sets[r.setId]? = some set := (promotionGate_ok.mp gate).known
          rw [promoteReplica, found]
          dsimp only
          rw [gate, grant]
          refine ⟨rfl, deriveSetLifecycle_replicas .., ?_⟩
          rcases deriveSetLifecycle_cases r.setId set.id set with kept | ⟨lifecycle, -, -, moved⟩
          · exact (congrArg _ kept).trans rfl
          · exact (congrArg _ moved).trans (putSet_terms known lifecycle)

theorem step_local {call : Call} (isLocal : call.op.isLocal = true) :
    Local entry terms call.op.target (step · call) := by
  obtain ⟨op, fresh⟩ := call
  cases op with
  | transitionReplicaSet setId target => exact transitionReplicaSet_local setId target
  | setAllocating id placement => exact setAllocating_local placement
  | setStarting id mono wall => exact setStarting_local mono wall
  | warmReplica id warm worker boot mono => exact warmReplica_local warm worker boot mono
  | reportHealth id ev worker boot mono => exact reportHealth_local ev worker boot mono
  | reportReadiness id rr worker boot => exact reportReadiness_local rr worker boot
  | promoteReplica id target worker boot mono wall =>
      exact promoteReplica_local fresh target worker boot mono wall
  | drainReplica id worker boot mono => exact drainReplica_local fresh worker boot mono
  | completeDrain id quiesced forceCancelled mono =>
      exact completeDrain_local quiesced forceCancelled mono
  | failReplica id worker boot reason mono => exact failReplica_local worker boot reason mono
  | retireReplica id => exact retireReplica_local
  | _ => cases isLocal

theorem replicas_alone (ctrl : ReplicaSetController) (calls : List Call)
    (locals : ∀ call ∈ calls, call.op.isLocal = true) (id : ReplicaId) :
    (Machine.run step ctrl calls).replicas[id]? =
        (Machine.run step ctrl (calls.filter fun call => call.op.target = some id)).replicas[id]? ∧
      answersTo (·.op.target) id (Machine.trace step ctrl calls) =
        (Machine.trace step ctrl (calls.filter fun call => call.op.target = some id)).map
          Machine.Event.output :=
  run_alone (fun call member => step_local (locals call member)) rfl rfl

end ReplicaSetController

namespace Sample

def bothProvisioned : ReplicaSetController :=
  Machine.run ReplicaSetController.step .empty
    (setUp ++ (bringUp ⟨0, 1⟩).take 1 ++ (bringUp ⟨0, 2⟩).take 1)

def comingUp : List Call := (bringUp ⟨0, 1⟩).drop 1 ++ [promote ⟨0, 1⟩]

def interleaved : List Call :=
  (comingUp.zipWith (fun first second => [first, second])
    (promote ⟨0, 2⟩ :: (bringUp ⟨0, 2⟩).drop 1)).flatten

end Sample

open Cells Machine in
theorem ReplicaSetController.replicas_alone_interleaved :
    (run step Sample.bothProvisioned Sample.interleaved).replicas[(⟨0, 1⟩ : ReplicaId)]? =
        (run step Sample.bothProvisioned Sample.comingUp).replicas[(⟨0, 1⟩ : ReplicaId)]? ∧
      answersTo (·.op.target) ⟨0, 1⟩ (trace step Sample.bothProvisioned Sample.interleaved) =
        (trace step Sample.bothProvisioned Sample.comingUp).map Event.output :=
  replicas_alone Sample.bothProvisioned Sample.interleaved (by decide) ⟨0, 1⟩

end ReplicaFabric
