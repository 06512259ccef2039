import ReplicaFabric.Safety.BringUp
import ReplicaFabric.Safety.Routing

/-!
# Where commands go

A `WARM` or an `EXECUTE` that the coordinator forwards goes to a process of the worker that hosts
the replica at that moment and never to another worker, nor to a client unless it has registered.
-/

namespace ReplicaFabric

namespace Coordinator

variable {c : Coordinator} {env : Surroundings} {m : Message} {conn : ConnId}

theorem execute_ctrl (running : c.terminated = false) (waits : c.reads conn = true)
    (commands : Fleet.Commands c conn m) (kind : m.kind = .execute) :
    (c.step ⟨.frame conn m, env⟩).2.ctrl = c.ctrl := by
  have taken := c.step_frame env conn m running waits
  generalize c.step ⟨.frame conn m, env⟩ = result at taken ⊢
  cases taken with
  | failed => rfl
  | registered fresh registers built => cases kind.symm.trans registers
  | opened fresh other ok =>
      rw [handleControl_execute kind] at ok
      cases ok
      rfl
  | commanded control ok =>
      rw [handleControl_execute kind] at ok
      cases ok
      rfl
  | reported serving ok =>
      exact absurd serving commands.not_serving

end Coordinator

namespace Fleet

open Duplex

variable {Sends : ConnId → Message → Prop} {epoch : CoordinatorEpoch} {actions : List Action}
  {e : Event} {conn : ConnId} {m : Message}

structure AddressedTo (w : WorkerId) (e : Event) (m : Message) : Prop where
  epoch : m.epoch = e.before.epoch
  hosts : ∃ r, e.after.ctrl.replicas[m.replica]? = some r ∧ r.workerId = w ∧
    (m.kind = .warm → r.lifecycle = .starting)
  kind : m.kind = .warm ∧ m.worker = w ∨ m.kind = .execute

theorem event_addressed (waited : Waited e)
    (same : e = Machine.event serve e.before e.input) (agrees : e.before.TableAgrees)
    (posted : m ∈ postsTo e.output conn) :
    ∃ w, e.before.workerConns[w]? = some conn ∧ AddressedTo w e m := by
  obtain ⟨conn', command, env, input, commands, forwards⟩ := waited.forwards same posted
  cases forwards with
  | @warm w kind found =>
      obtain ⟨w', r, found', provisioned, started, -⟩ := event_starts waited same agrees posted rfl
      obtain ⟨reg, phases, rfl⟩ := agrees w conn found
      obtain ⟨reg', phases', rfl⟩ := agrees w' conn found'
      have one : reg' = reg := by
        rcases phases with phase | phase <;> rcases phases' with phase' | phase' <;>
          simpa using phase'.symm.trans phase
      have hosts : r.workerId = reg.workerId := started.worker.trans (congrArg _ one)
      exact ⟨reg.workerId, found, rfl, ⟨r, provisioned, hosts, fun _ => started.lifecycle⟩,
        .inl ⟨rfl, rfl⟩⟩
  | @execute rs kind host found =>
      have kept : e.after.ctrl = e.before.ctrl := by
        rw [event_after same, input]
        exact Coordinator.execute_ctrl waited.live (waited.reads conn' command env input) commands
          kind
      refine ⟨rs.workerId, found, rfl, ⟨rs, kept ▸ host, rfl, fun warm => ?_⟩, .inr kind⟩
      cases kind.symm.trans warm

theorem mem_served (member : e ∈ served epoch actions) : ∃ front action back,
    actions = front ++ action :: back ∧ (system.act (run epoch front) action).1 = some e := by
  obtain ⟨event, inTrace, output⟩ := List.mem_filterMap.mp member
  obtain ⟨front, action, back, whole, rfl⟩ := Machine.mem_trace.mp inTrace
  exact ⟨front, action, back, whole, output⟩

theorem run_epoch (epoch : CoordinatorEpoch) (actions : List Action) :
    (run epoch actions).server.epoch = epoch :=
  (System.throughout_server (s := initial epoch) (I := fun c => c.epoch = epoch)
    (fun c input same => (c.step_epoch input).trans same) rfl actions).last 0

theorem forwarded_addressed (epoch : CoordinatorEpoch) (actions : List Action)
    (conn : ConnId) (leaves : ∀ m, .send conn m ∈ actions → m.kind ≠ .register)
    (e : Event) (member : e ∈ served epoch actions) (m : Message)
    (posted : Effect.post conn m ∈ e.output) :
    ∃ p, (run epoch actions).peers conn = some (.worker p) ∧ AddressedTo p.worker e m ∧
      m.epoch = epoch := by
  obtain ⟨front, action, back, rfl, output⟩ := mem_served member
  have known := (throughout_known epoch (front ++ action :: back)).later.first conn
  rw [← run] at known
  obtain ⟨-, same⟩ := act_event output
  have beforeIs : e.before = (run epoch front).server := congrArg Machine.Event.before same
  rw [← beforeIs] at same known
  have posted : m ∈ postsTo e.output conn :=
    mem_postsTo.mpr (List.mem_filterMap.mpr ⟨_, posted, rfl⟩)
  obtain ⟨w, found, addressed⟩ := event_addressed (served_waited e member) same known.agrees
    posted
  have named : m.epoch = epoch := by rw [addressed.epoch, beforeIs, run_epoch]
  rcases worker_of_table known found with ⟨p, peer, rfl⟩ | ⟨-, registers⟩
  · obtain ⟨q, there, worker, -⟩ := run_ids (action :: back) peer
    rw [run_append]
    exact ⟨q, there, worker ▸ addressed, named⟩
  · exact absurd leaves registers

end Fleet

namespace Sample

def forwarding : List Fleet.Action := provisioning ++ commanding 1 execute

end Sample

namespace Fleet

open Duplex

theorem forwarded_addressed_forwarding : ∃ e ∈ served ⟨0, 1⟩ Sample.forwarding, ∃ m p,
    m.kind = .execute ∧ (run ⟨0, 1⟩ Sample.forwarding).peers 0 = some (.worker p) ∧
      AddressedTo p.worker e m ∧ m.epoch = ⟨0, 1⟩ := by
  have closed : Closed Sample.forwarding := by decide
  have forwards : ((served ⟨0, 1⟩ Sample.forwarding).any fun e => (postsTo e.output 0).any
      fun m => m.kind = .execute) = true := by decide +kernel
  obtain ⟨e, member, forwards⟩ := List.any_eq_true.mp forwards
  obtain ⟨m, posted, kind⟩ := List.any_eq_true.mp forwards
  obtain ⟨effect, inOutput, isPost⟩ := List.mem_filterMap.mp (mem_postsTo.mp posted)
  cases effect with
  | answer m' => cases isPost
  | post conn' m' =>
      cases isPost
      obtain ⟨p, there, addressed⟩ :=
        forwarded_addressed ⟨0, 1⟩ Sample.forwarding 0 (closed.sends 0) e member m inOutput
      exact ⟨e, member, m, p, of_decide_eq_true kind, there, addressed⟩

end Fleet

end ReplicaFabric
