import ReplicaFabric.Controller.ReplicaStep
import ReplicaFabric.Distributed.Genuine
import ReplicaFabric.Safety.Impersonation

/-!
# What a worker process can touch

The reports of a worker process and the coming and going of its connection change only replicas that
the process hosts. They give no authority, and the sets, the logs and the other workers stay as they
are.
-/

namespace ReplicaFabric

open Duplex

structure ReplicaSetController.ConfinedTo (w : WorkerId) (ctrl next : ReplicaSetController) :
    Prop where
  sets : next.sets = ctrl.sets
  promotions : next.promotions = ctrl.promotions
  drains : next.drains = ctrl.drains
  failovers : next.failovers = ctrl.failovers
  epoch : next.epoch = ctrl.epoch
  workers : ∀ w' : WorkerId, w' ≠ w → next.workers[w']? = ctrl.workers[w']?
  replicas : ∀ id : ReplicaId, next.replicas[id]? = ctrl.replicas[id]? ∨
    ∃ r r', ctrl.replicas[id]? = some r ∧ next.replicas[id]? = some r' ∧ r.workerId = w ∧
      r'.incarnation = r.incarnation ∧ (r'.servingEligible = true → r.servingEligible = true)

namespace ReplicaSetController

variable {ctrl next last : ReplicaSetController} {w : WorkerId}

namespace ConfinedTo

theorem refl (w : WorkerId) (ctrl : ReplicaSetController) : ConfinedTo w ctrl ctrl :=
  ⟨rfl, rfl, rfl, rfl, rfl, fun _ _ => rfl, fun _ => .inl rfl⟩

theorem trans (first : ConfinedTo w ctrl next) (second : ConfinedTo w next last) :
    ConfinedTo w ctrl last where
  sets := second.sets.trans first.sets
  promotions := second.promotions.trans first.promotions
  drains := second.drains.trans first.drains
  failovers := second.failovers.trans first.failovers
  epoch := second.epoch.trans first.epoch
  workers w' other := (second.workers w' other).trans (first.workers w' other)
  replicas id := by
    rcases first.replicas id with same | ⟨r, r', found, found', host, life, flag⟩
    · rw [← same]
      exact second.replicas id
    · right
      rcases second.replicas id with same | ⟨s, s', there, there', -, life', flag'⟩
      · exact ⟨r, r', found, same.trans found', host, life, flag⟩
      · obtain rfl : r' = s := by simpa [found'] using there
        exact ⟨r, s', found, there', host, life'.trans life, flag ∘ flag'⟩

end ConfinedTo

theorem registerWorker_confined (reg : WorkerRegistration) :
    ConfinedTo reg.workerId ctrl (ctrl.registerWorker reg).2 := by
  refine ⟨rfl, rfl, rfl, rfl, rfl, fun w' other => Table.get_insert_ne _ _ other.symm, fun id => ?_⟩
  have after : (ctrl.registerWorker reg).2.replicas[id]? = (ctrl.replicas[id]?).map fun r =>
      if ctrl.restarts reg then r.afterRestart reg.workerId else r := by
    unfold registerWorker
    dsimp only
    split <;> simp
  rw [after]
  cases found : ctrl.replicas[id]? with
  | none => exact .inl rfl
  | some r =>
      by_cases touched : ctrl.restarts reg = true ∧ r.workerId = reg.workerId
      · refine .inr ⟨r, _, rfl, rfl, touched.2, ?_, ?_⟩
        · simp [touched.1]
        · simp only [touched.1, if_true, ReplicaState.afterRestart_flagged]
          exact And.left
      · left
        rw [Option.map_some]
        split_ifs with restarts
        · have elsewhere : r.workerId ≠ reg.workerId := fun here => touched ⟨restarts, here⟩
          simp [ReplicaState.afterRestart, elsewhere]
        · rfl

theorem unregisterWorker_confined (w : WorkerId) :
    ConfinedTo w ctrl (ctrl.unregisterWorker w).2 := by
  rcases ctrl.unregisterWorker_cases w with ⟨-, refused⟩ | ⟨reg, -, -, written⟩
  · rw [refused.2]
    exact .refl w ctrl
  · rw [written]
    refine ⟨rfl, rfl, rfl, rfl, rfl, fun w' other => ?_, fun id => ?_⟩
    · rw [Table.get_erase, if_neg other.symm]
    · rw [Table.get_map]
      cases found : ctrl.replicas[id]? with
      | none => exact .inl rfl
      | some r =>
          by_cases host : r.workerId = w
          · refine .inr ⟨r, _, rfl, rfl, host, by simp, ?_⟩
            rw [ReplicaState.afterDisconnect_flagged]
            exact And.left
          · left
            simp [ReplicaState.afterDisconnect, host]

theorem reported_gains {op : Operation} {r : ReplicaState} :
    (op.reported r).incarnation = r.incarnation ∧
      ((op.reported r).servingEligible = true → r.servingEligible = true) := by
  cases op with
  | reportHealth id ev worker boot mono =>
      exact ⟨r.healthReported_incarnation ev mono, fun flag =>
        (ReplicaState.healthReported_flagged.mp flag).1⟩
  | _ => exact ⟨rfl, id⟩

end ReplicaSetController

namespace Coordinator

variable {c : Coordinator} {env : Surroundings} {m : Message}

theorem afterFrame_confined (c : Coordinator) (env : Surroundings) (m : Message) :
    c.ctrl.ConfinedTo m.worker (c.afterFrame env m).ctrl := by
  unfold afterFrame
  cases report : c.reportOf env m with
  | error e => exact .refl _ _
  | ok report' =>
      cases report' with
      | none => exact .refl _ _
      | some op =>
          have exactly := c.ctrl.report_editsWhen env.fresh (reportOf_target report)
          simp only [afterReport]
          rcases exactly.cases with refused | ⟨r, found, passes, -, written⟩
          · rw [refused.2]
            exact .refl _ _
          · rw [written]
            refine ⟨rfl, rfl, rfl, rfl, rfl, fun _ _ => rfl, fun id => ?_⟩
            rw [ReplicaSetController.putReplica_get]
            split_ifs with here
            · subst here
              exact .inr ⟨r, _, found, rfl, (reportOf_host report passes).1,
                ReplicaSetController.reported_gains⟩
            · exact .inl rfl

end Coordinator

namespace Fleet

open WorkerProcess

variable {Sends : ConnId → Message → Prop} {c : Coordinator} {conn : ConnId} {l : Link}
  {p : WorkerProcess} {w : WorkerId} {s : Fleet} {env : Surroundings} {m : Message}

theorem writes_confined (writes : Writes p.worker p.boot m) :
    c.ctrl.ConfinedTo p.worker (c.afterFrame env m).ctrl := by
  rcases writes.host with pong | ⟨worker, -⟩
  · have silent : c.reportOf env m = .ok none := by simp [Coordinator.reportOf, pong]
    simp only [Coordinator.afterFrame, silent]
    exact .refl _ _
  · rw [← worker]
    exact c.afterFrame_confined env m

theorem frame_confined (ofWorker : OfWorker c conn p l) {up : List Message}
    (first : l.up = m :: up) (running : c.terminated = false) (waits : c.reads conn = true) :
    c.ctrl.ConfinedTo p.worker (c.step ⟨.frame conn m, env⟩).2.ctrl := by
  have taken := c.step_frame env conn m running waits
  generalize result : c.step ⟨.frame conn m, env⟩ = stepped at taken ⊢
  have registering (fresh : c.phases[conn]? = none) :
      ∃ node, m = registration p.worker p.boot node := by
    obtain ⟨-, -, -, nothing | ⟨node, only⟩⟩ := ofWorker.waiting fresh
    · simp [nothing] at first
    · exact ⟨node, (List.cons.inj (first.symm.trans only)).1⟩
  cases taken with
  | failed => exact .refl _ _
  | registered fresh kind built =>
      obtain ⟨node, rfl⟩ := registering fresh
      have host : _ = p.worker := (Coordinator.buildWorkerReg_host built).1
      rw [← host]
      exact ReplicaSetController.registerWorker_confined _
  | opened fresh kind ok =>
      obtain ⟨node, rfl⟩ := registering fresh
      exact absurd rfl kind
  | commanded control ok => exact absurd control ofWorker.notControl
  | @reported reg sent after serving ok =>
      have stepped : after = c.afterFrame env m := by
        rw [← Coordinator.step_serving running serving, result]
      rw [stepped]
      exact writes_confined (ofWorker.writes m (by simp [first]))

theorem turn_confined (ofWorker : OfWorker c conn p l) (turn : Turn) :
    c.ctrl.ConfinedTo p.worker (c.step ⟨turn.action conn, env⟩).2.ctrl := by
  have worked := c.step_turn env conn turn
  generalize c.step ⟨turn.action conn, env⟩ = stepped at worked ⊢
  cases worked with
  | @hungUp reg phase =>
      have host := (ofWorker.registered reg (by simp [holds, phase, Phase.holds])).1
      rw [← host]
      exact ReplicaSetController.unregisterWorker_confined _
  | _ => exact .refl _ _

/-- If the action is one of a thread of the coordinator, it serves a worker process named `w`. -/
def actsFor (w : WorkerId) (s : Fleet) : Action → Bool
  | .deliver conn _ | .own conn _ =>
      match s.peers conn with
      | some (.worker p) => p.worker = w
      | _ => false
  | _ => true

theorem actsFor_peer {s : Fleet} (acts : (match s.peers conn with
    | some (.worker p) => decide (p.worker = w)
    | _ => false) = true) : ∃ p, s.peers conn = some (.worker p) ∧ p.worker = w := by
  split at acts
  · next p peer => exact ⟨p, peer, of_decide_eq_true acts⟩
  · cases acts

theorem act_confined (known : System.Everywhere (Known Sends) s) {action : Action}
    (acts : actsFor w s action = true) :
    s.server.ctrl.ConfinedTo w (system.act s action).2.server.ctrl := by
  have change := system.act_change s action
  generalize (system.act s action).1 = output at change
  generalize (system.act s action).2 = next at change ⊢
  cases change with
  | @delivers conn env m up idle reads taken =>
      obtain ⟨p, peer, rfl⟩ := actsFor_peer acts
      exact frame_confined ((known conn).orderly.worker peer) (queue_of_take taken).1
        (live_iff.mp (System.idle_iff.mp idle).1) reads
  | @works conn turn idle =>
      obtain ⟨p, peer, rfl⟩ := actsFor_peer acts
      exact turn_confined ((known conn).orderly.worker peer) turn.1
  | _ => exact .refl _ _

theorem run_confined {actions : List Action}
    (known : Machine.Throughout system.act (System.Everywhere (Known Sends)) s actions)
    (acts : Machine.Admissible system.act (fun s action => actsFor w s action = true) s actions) :
    s.server.ctrl.ConfinedTo w (Machine.run system.act s actions).server.ctrl := by
  induction actions generalizing s with
  | nil => exact .refl _ _
  | cons action actions ih => exact (act_confined known.1 acts.1).trans (ih known.2 acts.2)

theorem worker_confined (epoch : CoordinatorEpoch) (w : WorkerId) (actions later : List Action)
    (acts : Machine.Admissible system.act (fun s action => actsFor w s action = true)
      (run epoch actions) later) :
    (run epoch actions).server.ctrl.ConfinedTo w
      (run epoch (actions ++ later)).server.ctrl := by
  rw [run, run, Machine.run_append]
  exact run_confined (throughout_known epoch (actions ++ later)).later acts

theorem worker_confined_warming :
    (run ⟨0, 1⟩ Sample.provisioning).server.ctrl.ConfinedTo ⟨0, 1⟩
      (run ⟨0, 1⟩ (Sample.provisioning ++ Sample.warming)).server.ctrl :=
  worker_confined ⟨0, 1⟩ ⟨0, 1⟩ Sample.provisioning Sample.warming (by decide +kernel)

theorem reports_own (epoch : CoordinatorEpoch) (actions : List Action) (conn : ConnId)
    (p : WorkerProcess) (peer : (run epoch actions).peers conn = some (.worker p)) :
    ∀ e ∈ served epoch actions, ∀ m env reg, e.input = ⟨.frame conn m, env⟩ →
      e.before.phases[conn]? = some (.serving reg) → reg.workerId = p.worker ∧ reg.bootId = p.boot ∧
        Coordinator.ChangesOnly reg.workerId reg.bootId e.before e.after := by
  intro e member m env reg input serving
  have after : e.after = e.before.afterFrame env m := by
    rw [event_after (served_eq member), input,
      Coordinator.step_serving (served_waited e member).live serving]
  rcases writtenBy_of_served peer member input with
    ⟨fresh, -⟩ | ⟨reg', serving', worker, boot, writes⟩
  · cases fresh.symm.trans serving
  · cases serving.symm.trans serving'
    refine ⟨worker, boot, ?_⟩
    rw [after]
    rcases writes.host with pong | ⟨worker', boot'⟩
    · have silent : e.before.reportOf env m = .ok none := by simp [Coordinator.reportOf, pong]
      intro id r found changed
      simp [Coordinator.afterFrame, silent, Coordinator.afterReport, found] at changed
    · rw [worker, boot, ← worker', ← boot']
      exact e.before.afterFrame_changesOnly env m

theorem reports_own_warming : ∃ e ∈ served ⟨0, 1⟩ (Sample.provisioning ++ Sample.warming),
    ∃ reg, e.before.phases[(0 : ConnId)]? = some (.serving reg) ∧
      Coordinator.ChangesOnly reg.workerId reg.bootId e.before e.after := by
  have taken : (served ⟨0, 1⟩ (Sample.provisioning ++ Sample.warming)).any (attends 0) = true := by
    decide +kernel
  have peer : (run ⟨0, 1⟩ (Sample.provisioning ++ Sample.warming)).peers 0 =
      some (.worker ⟨⟨0, 1⟩, ⟨0, 1⟩, .serving⟩) := by decide +kernel
  obtain ⟨e, member, attended⟩ := List.any_eq_true.mp taken
  obtain ⟨m, env, reg, input, serving⟩ := attends_iff.mp attended
  exact ⟨e, member, reg, serving,
    (reports_own ⟨0, 1⟩ _ 0 _ peer e member m env reg input serving).2.2⟩

end Fleet

end ReplicaFabric
