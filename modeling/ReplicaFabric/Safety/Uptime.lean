import ReplicaFabric.Distributed.Genuine
import ReplicaFabric.Safety.Availability

/-!
# What brings the coordinator down

A worker process writes nothing that a handler cannot parse, whatever its command line and whatever
it is sent. The coordinator ends with a garbled command of a client, and with nothing else.
-/

namespace ReplicaFabric.Fleet

open Duplex WorkerProcess

structure Crashes (e : Event) (conn : ConnId) (m : Message) : Prop where
  frame : ∃ env, e.input = ⟨.frame conn m, env⟩
  commands : Commands e.before conn m
  unreadable : (Field.ofControl m.kind).all (·.readable m.payload) = false

variable {Sends : ConnId → Message → Prop} {c : Coordinator} {input : Input} {conn : ConnId}
  {m : Message}

theorem Genuine.readable {env : Surroundings}
    (genuine : Genuine Sends (Machine.event serve c ⟨.frame conn m, env⟩))
    (other : ¬Commands c conn m) :
    (Coordinator.fieldsOf c.phases[conn]? m.kind).all (·.readable m.payload) = true := by
  cases phase : c.phases[conn]? with
  | none =>
      have kind : m.kind = .register := by
        by_contra kind
        exact other (.inl ⟨phase, kind⟩)
      have written := genuine.registers conn m env rfl phase kind
      simpa [Coordinator.fieldsOf, kind] using written.readable.1 kind
  | some phase' =>
      cases phase' with
      | serving reg => exact (genuine.reports conn m env reg rfl phase).readable.2
      | control => exact absurd (.inr phase) other
      | _ => rfl

theorem fieldsOf_commands (commands : Commands c conn m) :
    Coordinator.fieldsOf c.phases[conn]? m.kind = Field.ofControl m.kind := by
  rcases commands with ⟨fresh, kind⟩ | control
  · simp [Coordinator.fieldsOf, fresh, kind]
  · simp [Coordinator.fieldsOf, control]

theorem Genuine.terminated_iff (genuine : Genuine Sends (Machine.event serve c input)) :
    (c.step input).2.terminated = true ↔
      ∃ conn m, Sends conn m ∧ Crashes (Machine.event serve c input) conn m := by
  have running : c.terminated = false := genuine.live
  rw [← Bool.not_eq_false, not_iff_comm, Coordinator.step_terminated_iff running]
  obtain ⟨action, env⟩ := input
  cases action with
  | frame conn m =>
      rw [Coordinator.readsFields_frame]
      constructor
      · intro harmless
        by_cases commands : Commands c conn m
        · rw [fieldsOf_commands commands]
          by_contra unreadable
          have sent := genuine.commands conn m env rfl commands
          exact harmless ⟨conn, m, sent, ⟨env, rfl⟩, commands, Bool.not_eq_true _ ▸ unreadable⟩
        · exact genuine.readable commands
      · rintro readable ⟨conn', m', -, ⟨⟨env', same⟩, commands, unreadable⟩⟩
        cases same
        have fields : Coordinator.fieldsOf c.phases[conn]? m.kind = Field.ofControl m.kind :=
          fieldsOf_commands commands
        rw [fields, unreadable] at readable
        cases readable
  | _ =>
      refine iff_of_true ?_ fun _ _ isFrame => nomatch isFrame
      rintro ⟨_, _, -, ⟨⟨_, same⟩, -, -⟩⟩
      cases same

theorem trace_terminated_iff (c : Coordinator) (inputs : List Input)
    (genuine : ∀ e ∈ Machine.trace serve c inputs, Genuine Sends e) :
    (Machine.run serve c inputs).terminated = true ↔ c.terminated = true ∨
      ∃ e ∈ Machine.trace serve c inputs, ∃ conn m, Sends conn m ∧ Crashes e conn m := by
  induction inputs generalizing c with
  | nil => simp [Machine.trace]
  | cons input inputs ih =>
      have first := genuine _ List.mem_cons_self
      have running : c.terminated = false := first.live
      rw [Machine.run_cons, ih _ fun e later => genuine e (List.mem_cons_of_mem _ later),
        Machine.trace, serve, first.terminated_iff]
      simp [running]

theorem down_iff_garbled (epoch : CoordinatorEpoch) (actions : List Action)
    (closed : Closed actions) :
    (run epoch actions).server.terminated = true ↔
      ∃ e ∈ served epoch actions, ∃ conn m, .send conn m ∈ actions ∧ Crashes e conn m := by
  obtain ⟨inputs, trace, server⟩ := System.served_eq_trace system (initial epoch) actions
  have genuine : ∀ e ∈ served epoch actions, Genuine (Sent actions) e := served_genuine closed
  rw [served, trace] at genuine ⊢
  rw [run, server]
  refine (trace_terminated_iff (initial epoch).server inputs genuine).trans ?_
  exact or_iff_right Bool.false_ne_true

def garbling : List Action :=
  Sample.registering 0 1 1 ++
    [.join 1 .client, .send 1 { kind := .promote, payload := "target=zz" }, Sample.took 1]

theorem down_iff_garbled_garbling :
    (run ⟨0, 1⟩ garbling).server.terminated = true ∧
      ∃ e ∈ served ⟨0, 1⟩ garbling, ∃ conn m, .send conn m ∈ garbling ∧ Crashes e conn m := by
  have down : (run ⟨0, 1⟩ garbling).server.terminated = true := by decide +kernel
  exact ⟨down, (down_iff_garbled ⟨0, 1⟩ garbling (by decide)).mp down⟩

end ReplicaFabric.Fleet
