import ReplicaFabric.Cli.Session
import ReplicaFabric.Controller.Operation
import ReplicaFabric.Distributed.Connections

/-!
# What the commands call

A command of the command-line interface is a script of calls of the controller's operations. All of
them but a promotion and a failover leave it to others to grant serving authority.
-/

namespace ReplicaFabric

def Operation.finite : Operation → Bool
  | createReplicaSet set _ => set.policies.health.healthThreshold.Finite
  | reportHealth _ ev .. => ev.confidence.Finite
  | _ => true

/-- The operation may give a replica the serving flag. -/
def Operation.mayGrant : Operation → Bool
  | promoteReplica _ target .. => target = .primary
  | triggerFailover .. => true
  | _ => false

def Operation.quiet (op : Operation) : Bool := op.finite && !op.mayGrant

def Operation.provisioning : Operation → Bool
  | provisionReplica .. => true
  | _ => false

def Operation.calm (op : Operation) : Bool := op.quiet && !op.provisioning

namespace ReplicaSetController

def Scripted (allowed : Operation → Bool) (ctrl next : ReplicaSetController) : Prop :=
  ∃ calls : List Call, (∀ call ∈ calls, allowed call.op = true) ∧
    next = Machine.run step ctrl calls

namespace Scripted

variable {allowed : Operation → Bool} {ctrl next last : ReplicaSetController} {op : Operation}

theorem refl : Scripted allowed ctrl ctrl :=
  ⟨[], fun _ member => absurd member List.not_mem_nil, (Machine.run_nil ctrl).symm⟩

theorem trans (first : Scripted allowed ctrl next) (second : Scripted allowed next last) :
    Scripted allowed ctrl last := by
  obtain ⟨calls, allows, rfl⟩ := first
  obtain ⟨more, allowsMore, rfl⟩ := second
  refine ⟨calls ++ more, fun call member => ?_, (Machine.run_append ..).symm⟩
  rcases List.mem_append.mp member with early | late
  · exact allows call early
  · exact allowsMore call late

theorem apply (fresh : FreshIds) (script : Scripted allowed ctrl next) (op : Operation)
    (allows : allowed op = true) : Scripted allowed ctrl (op.apply fresh next).2 :=
  script.trans ⟨[⟨op, fresh⟩], by simpa using allows, rfl⟩

theorem keeps {P : ReplicaSetController → Prop} (script : Scripted allowed ctrl next)
    (step : ∀ ctrl op fresh, P ctrl → allowed op = true → P (op.apply fresh ctrl).2)
    (start : P ctrl) : P next := by
  obtain ⟨calls, allows, rfl⟩ := script
  induction calls generalizing ctrl with
  | nil => exact start
  | cons call calls ih =>
      exact ih (step ctrl call.op call.fresh start (allows call List.mem_cons_self))
        fun c member => allows c (List.mem_cons_of_mem _ member)

theorem mono {weaker : Operation → Bool} (script : Scripted allowed ctrl next)
    (weakens : ∀ op, allowed op = true → weaker op = true) : Scripted weaker ctrl next := by
  obtain ⟨calls, allows, rfl⟩ := script
  exact ⟨calls, fun call member => weakens call.op (allows call member), rfl⟩

theorem quiet (script : Scripted Operation.calm ctrl next) : Scripted Operation.quiet ctrl next :=
  script.mono fun _ calm => (Bool.and_eq_true_iff.mp calm).1

theorem carries (script : Scripted Operation.calm ctrl next) :
    Scripted (fun op => !op.provisioning) ctrl next :=
  script.mono fun _ calm => (Bool.and_eq_true_iff.mp calm).2

end Scripted

end ReplicaSetController

namespace Cli

open ReplicaSetController

variable {host : Host} {json : Bool} {args : List Str} {ctrl next : ReplicaSetController}
  {done : Done}

def noIds : FreshIds := ⟨.null, .null, .null, .null, .null⟩

theorem healthy_calm {rid : ReplicaId} {w : WorkerId} {b : WorkerBootId} :
    (Operation.reportHealth rid (healthy ctrl rid) w b 0).calm = true := by
  have finite : (healthy ctrl rid).confidence.Finite := by
    rw [show (healthy ctrl rid).confidence = ⟨0⟩ from rfl]
    decide
  simp [Operation.calm, Operation.quiet, Operation.finite, Operation.mayGrant,
    Operation.provisioning, finite]

theorem warmReady_scripted (rid : ReplicaId) (w : WorkerId) (b : WorkerBootId)
    (script : Scripted Operation.calm ctrl next) :
    Scripted Operation.calm ctrl (warmReady next rid w b).2 := by
  have warmed := script.apply noIds (.warmReplica rid warm w b 0) rfl
  have checked := warmed.apply noIds
    (.reportHealth rid (healthy (next.warmReplica rid warm w b 0).2 rid) w b 0) healthy_calm
  exact checked.apply noIds (.reportReadiness rid ready w b) rfl

theorem ensureReady_scripted (rid : ReplicaId) (w : WorkerId) (b : WorkerBootId)
    (script : Scripted Operation.calm ctrl next) :
    Scripted Operation.calm ctrl (ensureReady next rid w b).2 := by
  unfold ensureReady
  split
  · exact script
  · dsimp only
    split_ifs
    · exact script
    · exact warmReady_scripted rid w b script

theorem readyCandidate_scripted (failed rid : ReplicaId)
    (script : Scripted Operation.calm ctrl next) :
    Scripted Operation.calm ctrl (readyCandidate failed next rid) := by
  unfold readyCandidate
  split_ifs
  · exact script
  · split
    · exact script
    · split
      · exact script
      · exact ensureReady_scripted rid _ _ script

theorem readyCandidates_scripted (failed : ReplicaId) (rids : List ReplicaId)
    (script : Scripted Operation.calm ctrl next) :
    Scripted Operation.calm ctrl (rids.foldl (readyCandidate failed) next) := by
  induction rids generalizing next with
  | nil => exact script
  | cons rid rids ih => exact ih (readyCandidate_scripted failed rid script)

theorem setupReplica_scripted (k : Nat) (set : ReplicaSetId) (rid : ReplicaId)
    (script : Scripted Operation.quiet ctrl next) :
    Scripted Operation.quiet ctrl (setupReplica host k set rid next) := by
  have registered := script.apply noIds (.registerWorker (setupWorker host k)) rfl
  have provisioned := registered.apply (host.fresh k)
    (.provisionReplica rid set (host.id k) (setupCompat (next.findSet set))
      ⟨.cuda, "cuda:0", ⟨12, 0⟩, 32 * 1024 * 1024 * 1024⟩ (8 * 1024 * 1024) 0 0) rfl
  have allocated := provisioned.apply noIds (.setAllocating rid (host.id (k + 3))) rfl
  exact allocated.apply noIds (.setStarting rid 0 0) rfl

theorem setupReplicas_scripted (indices : List Nat) (script : Scripted Operation.quiet ctrl next) :
    Scripted Operation.quiet ctrl (setupReplicas host indices next) := by
  unfold setupReplicas
  induction indices generalizing next with
  | nil => exact script
  | cons i indices ih => exact ih (setupReplica_scripted _ _ _ script)

theorem mkSet_calm {set : ReplicaSetState} {epoch : CoordinatorEpoch}
    (policies : set.policies = {}) : (Operation.createReplicaSet set epoch).calm = true := by
  have finite : set.policies.health.healthThreshold.Finite := by
    rw [policies]
    decide
  simp [Operation.calm, Operation.quiet, Operation.finite, Operation.mayGrant,
    Operation.provisioning, finite]

theorem mkSet_scripted (id : ReplicaSetId) (model : ModelId) (art : ArtifactId)
    (ag : ArtifactGeneration) (sg : ReplicaSetGeneration) (pg : PolicyGeneration) (max : Int32)
    (epoch : CoordinatorEpoch) : Scripted Operation.calm ctrl
      (ctrl.createReplicaSet (mkSet host id model art ag sg pg max) epoch).2 :=
  Scripted.refl.apply noIds (.createReplicaSet (mkSet host id model art ag sg pg max) epoch)
    (mkSet_calm rfl)

theorem demo_calls (host : Host) (ctrl : ReplicaSetController) :
    ∃ ready standby left, Scripted Operation.quiet ctrl ready ∧
      let promoted := ((Operation.promoteReplica (host.id (replicaDraws 0)) .primary
        (host.id (replicaDraws 0 + 1)) (host.id (replicaDraws 0 + 2)) 0 0).apply (host.fresh 0)
        ready).2
      Scripted Operation.quiet promoted standby ∧ Scripted Operation.quiet standby left ∧
      (demo host ctrl).ctrl = ((Operation.triggerFailover (host.id 3) (host.id (replicaDraws 0))
        "demo: worker A died" 0 0).apply (host.fresh 2) left).2 ∧
      ∃ rest, (demo host ctrl).text =
        (if (standby.servable (host.id (replicaDraws 0))).eligible
          then ascii "A serving as PRIMARY\n" else ascii "A NOT serving\n") ++
        (if (standby.servable (host.id (replicaDraws 1))).eligible
          then ascii "B serving (BAD - double serve)\n"
          else ascii "B standby (correct, not serving)\n") ++ rest := by
  have set : Scripted Operation.quiet ctrl
      (ctrl.createReplicaSet (setupSet host 2) (host.id 2)).2 := (mkSet_scripted ..).quiet
  have replicas : Scripted Operation.quiet ctrl (setupReplicas host [0, 1] _) :=
    setupReplicas_scripted [0, 1] set
  have first := replicas.trans (warmReady_scripted (host.id (replicaDraws 0))
    (setupWorker host (replicaDraws 0 + 1)).workerId (setupWorker host (replicaDraws 0 + 1)).bootId
    .refl).quiet
  have ready := first.trans (warmReady_scripted (host.id (replicaDraws 1))
    (setupWorker host (replicaDraws 1 + 1)).workerId (setupWorker host (replicaDraws 1 + 1)).bootId
    .refl).quiet
  have standby (promoted : ReplicaSetController) :=
    (Scripted.refl : Scripted Operation.quiet promoted promoted).apply (host.fresh 1)
      (.promoteReplica (host.id (replicaDraws 1)) .standby
        (setupWorker host (replicaDraws 1 + 1)).workerId
        (setupWorker host (replicaDraws 1 + 1)).bootId 0 0) rfl
  have left (promoted : ReplicaSetController) :=
    (Scripted.refl : Scripted Operation.quiet promoted promoted).apply noIds
      (.unregisterWorker (setupWorker host (replicaDraws 0 + 1)).workerId) rfl
  refine ⟨_, _, _, ready, standby _, left _, rfl, ?_⟩
  unfold demo
  dsimp only
  simp only [List.append_assoc]
  exact ⟨_, rfl⟩

def Grants (ctrl next : ReplicaSetController) : Prop :=
  ∃ last, Scripted Operation.calm ctrl last ∧ ∃ op : Operation, op.finite = true ∧
    op.provisioning = false ∧ ∃ fresh, next = (op.apply fresh last).2

/-- How the controller of a command comes about: nothing in it grants authority, or only its last
call does, or the command is `demo`. -/
inductive Ends (host : Host) (ctrl : ReplicaSetController) : Done → Prop
  | quiet {done : Done} (script : Scripted Operation.quiet ctrl done.ctrl) : Ends host ctrl done
  | grants {done : Done} (grants : Grants ctrl done.ctrl) : Ends host ctrl done
  | demo : Ends host ctrl (demo host ctrl)

theorem createSet_scripted (ok : createSet host args ctrl = .ok done) :
    Scripted Operation.calm ctrl done.ctrl := by
  unfold createSet at ok
  obtain ⟨id, -, ok⟩ := exists_of_bind_ok ok
  obtain ⟨model, -, ok⟩ := exists_of_bind_ok ok
  obtain ⟨art, -, ok⟩ := exists_of_bind_ok ok
  obtain ⟨ag, -, ok⟩ := exists_of_bind_ok ok
  obtain ⟨sg, -, ok⟩ := exists_of_bind_ok ok
  obtain ⟨pg, -, ok⟩ := exists_of_bind_ok ok
  obtain ⟨max, -, ok⟩ := exists_of_bind_ok ok
  cases ok
  exact mkSet_scripted id model art ag sg pg max _

theorem setup_scripted (ok : setup host json args ctrl = .ok done) :
    Scripted Operation.quiet ctrl done.ctrl := by
  unfold setup at ok
  obtain ⟨max, -, ok⟩ := exists_of_bind_ok ok
  dsimp only at ok
  split_ifs at ok with refused
  all_goals cases ok
  · exact (mkSet_scripted ..).quiet
  · exact setupReplicas_scripted _ (mkSet_scripted ..).quiet

theorem inspect_scripted (ok : inspect json args ctrl = .ok done) :
    Scripted Operation.calm ctrl done.ctrl := by
  unfold inspect at ok
  obtain ⟨id, -, ok⟩ := exists_of_bind_ok ok
  dsimp only at ok
  split at ok <;> cases ok <;> exact .refl

theorem explainPlacement_scripted {scores : Scores}
    (ok : explainPlacement scores json args ctrl = .ok done) :
    Scripted Operation.calm ctrl done.ctrl := by
  unfold explainPlacement at ok
  obtain ⟨id, -, ok⟩ := exists_of_bind_ok ok
  dsimp only at ok
  split at ok
  · cases ok
    exact .refl
  · split_ifs at ok <;> cases ok <;> exact .refl

theorem warmCommand_scripted (ok : warmCommand args ctrl = .ok done) :
    Scripted Operation.calm ctrl done.ctrl := by
  unfold warmCommand at ok
  obtain ⟨rid, -, ok⟩ := exists_of_bind_ok ok
  obtain ⟨w, -, ok⟩ := exists_of_bind_ok ok
  obtain ⟨b, -, ok⟩ := exists_of_bind_ok ok
  dsimp only at ok
  split at ok <;> cases ok
  · exact .refl
  · exact warmReady_scripted rid w b .refl

theorem drain_scripted (ok : drain host args ctrl = .ok done) :
    Scripted Operation.calm ctrl done.ctrl := by
  unfold drain at ok
  obtain ⟨rid, -, ok⟩ := exists_of_bind_ok ok
  obtain ⟨w, -, ok⟩ := exists_of_bind_ok ok
  obtain ⟨b, -, ok⟩ := exists_of_bind_ok ok
  cases ok
  exact Scripted.refl.apply (host.fresh 0) (.drainReplica rid w b 0) rfl

theorem promote_calls (ok : promote host args ctrl = .ok done) :
    Scripted Operation.calm ctrl done.ctrl ∨ Grants ctrl done.ctrl := by
  unfold promote at ok
  obtain ⟨rid, -, ok⟩ := exists_of_bind_ok ok
  obtain ⟨w, -, ok⟩ := exists_of_bind_ok ok
  obtain ⟨b, -, ok⟩ := exists_of_bind_ok ok
  obtain ⟨a, -, ok⟩ := exists_of_bind_ok ok
  obtain ⟨v, -, ok⟩ := exists_of_bind_ok ok
  dsimp only at ok
  have script : Scripted Operation.calm ctrl (ensureReady ctrl rid w b).2 :=
    ensureReady_scripted rid w b .refl
  split_ifs at ok with unready
  all_goals cases ok
  · exact .inl script
  · exact .inr ⟨_, script, .promoteReplica rid _ w b 0 0, rfl, rfl, host.fresh 0, rfl⟩

theorem failover_calls (ok : failover host args ctrl = .ok done) : Grants ctrl done.ctrl := by
  unfold failover at ok
  obtain ⟨set, -, ok⟩ := exists_of_bind_ok ok
  obtain ⟨failed, -, ok⟩ := exists_of_bind_ok ok
  cases ok
  exact ⟨_, readyCandidates_scripted failed _ .refl, .triggerFailover set failed _ 0 0, rfl, rfl,
    host.fresh 0, rfl⟩

def Verb.mayGrant : Verb → Bool
  | .promote | .failover | .demo => true
  | _ => false

def Verb.provisions : Verb → Bool
  | .setup | .demo => true
  | _ => false

theorem command_calm {verb : Verb} (ok : command host json args ctrl verb = .ok done)
    (grantless : verb.mayGrant = false) (carried : verb.provisions = false) :
    Scripted Operation.calm ctrl done.ctrl := by
  cases verb with
  | promote => cases grantless
  | failover => cases grantless
  | demo => cases grantless
  | setup => cases carried
  | createSet => exact createSet_scripted ok
  | inspect => exact inspect_scripted ok
  | warm => exact warmCommand_scripted ok
  | drain => exact drain_scripted ok
  | version =>
      cases ok
      exact .refl
  | listSets =>
      cases ok
      exact .refl
  | listReplicas =>
      obtain ⟨set, -, ok⟩ := exists_of_bind_ok ok
      cases ok
      exact .refl
  | explainServable =>
      obtain ⟨rid, -, ok⟩ := exists_of_bind_ok ok
      cases ok
      exact .refl
  | explainPlacement => exact explainPlacement_scripted ok

theorem command_scripted {verb : Verb} (ok : command host json args ctrl verb = .ok done)
    (grantless : verb.mayGrant = false) : Scripted Operation.quiet ctrl done.ctrl := by
  cases carried : verb.provisions with
  | false => exact (command_calm ok grantless carried).quiet
  | true =>
      cases verb with
      | setup => exact setup_scripted ok
      | demo => cases grantless
      | _ => cases carried

theorem command_ends {verb : Verb} (ok : command host json args ctrl verb = .ok done) :
    Ends host ctrl done := by
  cases verb with
  | promote => exact (promote_calls ok).elim (fun script => .quiet script.quiet) .grants
  | failover => exact .grants (failover_calls ok)
  | demo =>
      cases ok
      exact .demo
  | _ => exact .quiet (command_scripted ok rfl)

theorem command_carries {verb : Verb} (ok : command host json args ctrl verb = .ok done)
    (carried : verb.provisions = false) :
    Scripted (fun op => !op.provisioning) ctrl done.ctrl := by
  have grants (called : Grants ctrl done.ctrl) :
      Scripted (fun op => !op.provisioning) ctrl done.ctrl := by
    obtain ⟨last, script, op, -, carried, fresh, same⟩ := called
    rw [same]
    exact script.carries.apply fresh op (by simp [carried])
  cases verb with
  | promote => exact (promote_calls ok).elim Scripted.carries grants
  | failover => exact grants (failover_calls ok)
  | demo => cases carried
  | setup => cases carried
  | _ => exact (command_calm ok rfl rfl).carries

end Cli

end ReplicaFabric
