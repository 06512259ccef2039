import ReplicaFabric.Distributed.Reports
import ReplicaFabric.Safety.Conservation

/-!
# Where the results come from

The table of results has only answers to what clients asked for: each entry is what the loop of a
worker process computes for an `EXECUTE` that a client has sent for that replica.
-/

namespace ReplicaFabric

open Duplex

namespace Coordinator

variable {c : Coordinator} {env : Surroundings} {m : Message} {conn : ConnId}

def takesResult (c : Coordinator) : Action → Option (ReplicaId × Str)
  | .frame conn m =>
      match c.phases[conn]? with
      | some (.serving _) => if m.kind = .executeResult then some (m.replica, resultOf m) else none
      | _ => none
  | _ => none

theorem afterFrame_lastResults (c : Coordinator) (env : Surroundings) (m : Message) :
    (c.afterFrame env m).lastResults =
      if m.kind = .executeResult then c.lastResults.insert m.replica (resultOf m)
      else c.lastResults := by
  unfold afterFrame
  by_cases kind : m.kind = .executeResult
  · have silent : c.reportOf env m = .ok none := by simp [reportOf, kind]
    simp [silent, afterReport]
  · cases c.reportOf env m with
    | error e => simp [kind]
    | ok report => simp [afterReport]

theorem settle_lastResults {handler : Except Exception (List Output × Coordinator)}
    (keeps : ∀ outputs next, handler = .ok (outputs, next) → next.lastResults = c.lastResults) :
    (c.settle handler).2.lastResults = c.lastResults := by
  cases handler with
  | error e => rfl
  | ok handled => exact keeps handled.1 handled.2 rfl

theorem firstFrame_lastResults {outputs : List Output} {next : Coordinator}
    (ok : c.firstFrame env conn m = .ok (outputs, next)) : next.lastResults = c.lastResults := by
  unfold firstFrame at ok
  split at ok
  · obtain ⟨reg, -, ok⟩ := exists_of_bind_ok ok
    cases ok
    rfl
  · obtain ⟨⟨sent, after⟩, handled, ok⟩ := exists_of_bind_ok ok
    cases ok
    have same : after.lastResults = c.lastResults := handleControl_lastResults handled
    exact same

theorem lastResults_origin (c : Coordinator) (input : Input) (id : ReplicaId) (text : Str)
    (holds : (c.step input).2.lastResults[id]? = some text) :
    c.lastResults[id]? = some text ∨
      c.terminated = false ∧ c.takesResult input.action = some (id, text) := by
  obtain ⟨action, env⟩ := input
  by_cases down : c.terminated = true
  · left
    simpa [step, down] using holds
  have running : c.terminated = false := by simpa using down
  cases action with
  | frame conn m =>
      cases phase : c.phases[conn]? with
      | none =>
          left
          rw [step, if_neg down, act] at holds
          simp only [phase] at holds
          rwa [settle_lastResults fun _ _ => firstFrame_lastResults] at holds
      | some phase' =>
          cases phase' with
          | serving reg =>
              rw [step_serving running phase, afterFrame_lastResults] at holds
              split_ifs at holds with kind
              · rw [Table.get_insert] at holds
                split_ifs at holds with here
                · refine .inr ⟨running, ?_⟩
                  simp [takesResult, phase, kind, here, Option.some.inj holds]
                · exact .inl holds
              · exact .inl holds
          | control =>
              left
              rw [step, if_neg down, act] at holds
              simp only [phase] at holds
              rwa [settle_lastResults fun _ _ => handleControl_lastResults] at holds
          | _ =>
              left
              rw [step, if_neg down, act] at holds
              simpa only [phase] using holds
  | _ =>
      left
      rw [step, if_neg down, act] at holds
      revert holds
      split <;> exact fun kept => kept

theorem takesResult_some {action : Action} {id : ReplicaId} {text : Str}
    (takes : c.takesResult action = some (id, text)) :
    ∃ conn m reg, action = .frame conn m ∧ c.phases[conn]? = some (.serving reg) ∧
      m.kind = .executeResult ∧ m.replica = id ∧ resultOf m = text := by
  unfold takesResult at takes
  split at takes
  · next conn m =>
      split at takes
      · next reg phase =>
          split_ifs at takes with kind
          obtain ⟨rfl, rfl⟩ := Prod.mk.inj (Option.some.inj takes)
          exact ⟨conn, m, reg, rfl, phase, kind, rfl, rfl⟩
      · cases takes
  · cases takes

end Coordinator

namespace WorkerProcess

variable {p : WorkerProcess} {m m' : Message}

theorem answer_result (member : m' ∈ p.answer m) (kind : m'.kind = .executeResult) :
    m.kind = .execute ∧ m' = result p.worker p.boot m := by
  unfold answer at member
  split at member
  · simp only [List.mem_cons, List.not_mem_nil, or_false] at member
    rcases member with rfl | rfl | rfl <;> cases kind
  · next execute => exact ⟨execute, List.mem_singleton.mp member⟩
  · obtain rfl := List.mem_singleton.mp member
    cases kind
  · cases member

theorem resultOf_result (worker : WorkerId) (boot : WorkerBootId) (m : Message) :
    Coordinator.resultOf (result worker boot m) =
      resultPayload (getPayload m.payload "req" "?") := by
  have unbroken : 0x0A ∉ ascii "req=" ++ getPayload m.payload "req" "?" := by
    rw [List.mem_append, not_or]
    exact ⟨by decide, getPayload_unbroken (by decide)⟩
  have payload : (result worker boot m).payload =
      (ascii "req=" ++ getPayload m.payload "req" "?") ++
        0x0A :: ascii "outcome=1\nresult=14999850000" :=
    (resultPayload_eq _).trans (List.append_assoc ..)
  have req : getPayload (result worker boot m).payload "req" "?" =
      getPayload m.payload "req" "?" := by
    rw [payload, getPayload_line unbroken, if_pos ⟨_, rfl⟩]
    rfl
  have outcome : getPayload (result worker boot m).payload "outcome" "?" = "1" := by
    rw [payload, getPayload_line unbroken, if_neg]
    · decide
    · rintro ⟨rest, same⟩
      have first : some (0x6F : UInt8) = some 0x72 := congrArg (·[0]?) same
      exact absurd first (by decide)
  have computed : getPayload (result worker boot m).payload "result" "?" = "14999850000" := by
    rw [payload, getPayload_line unbroken, if_neg]
    · decide
    · rintro ⟨rest, same⟩
      have third : some (0x73 : UInt8) = some 0x71 := congrArg (·[2]?) same
      exact absurd third (by decide)
  rw [Coordinator.resultOf, req, outcome, computed, resultPayload_eq]
  simp only [List.append_assoc]
  rfl

end WorkerProcess

namespace Fleet

open WorkerProcess

variable {epoch : CoordinatorEpoch} {actions : List Action}

theorem worker_of_serving {e : Event} {conn : ConnId} {m : Message} {reg : WorkerRegistration}
    (closed : Closed actions) (member : e ∈ served epoch actions)
    (action : e.input.action = .frame conn m)
    (serving : e.before.phases[conn]? = some (.serving reg)) :
    ∃ p, (run epoch actions).peers conn = some (.worker p) := by
  have heard := heard_run epoch actions conn e member m e.input.env (by rw [← action])
  have peer : ((run epoch actions).link conn).peer = (run epoch actions).peers conn := rfl
  rw [peer] at heard
  cases named : (run epoch actions).peers conn with
  | none => simp [named, HeardFrom] at heard
  | some peer' =>
      cases peer' with
      | worker p => exact ⟨p, rfl⟩
      | client sent received =>
          have heard : HeardFrom _ e.before conn m (some (.client sent received)) := named ▸ heard
          exact absurd serving (heard (closed.sends conn)).not_serving

theorem exists_served {id : ReplicaId} {text : Str}
    (found : (run epoch actions).server.lastResults[id]? = some text) :
    ∃ e ∈ served epoch actions, e.before.takesResult e.input.action = some (id, text) := by
  obtain ⟨inputs, trace, server⟩ := System.served_eq_trace system (initial epoch) actions
  rw [run, server] at found
  let Holds (c : Coordinator) (entry : ReplicaId × Str) : Prop :=
    c.lastResults[entry.1]? = some entry.2
  have origin (c : Coordinator) (input : Input) (entry : ReplicaId × Str)
      (holds : Holds (serve c input).2 entry) :
      Holds c entry ∨ c.takesResult input.action = some entry :=
    (c.lastResults_origin input _ _ holds).imp_right And.right
  have drawn : Holds (initial epoch).server (id, text) ∨ (id, text) ∈
      (Machine.trace serve (initial epoch).server inputs).filterMap fun e =>
        e.before.takesResult e.input.action := Machine.held_of_drawn origin found
  have nothing : ¬Holds (initial epoch).server (id, text) := by
    simp [Holds, initial, Duplex.State.alone]
  obtain ⟨e, member, takes⟩ := List.mem_filterMap.mp (drawn.resolve_left nothing)
  exact ⟨e, by rw [served, trace]; exact member, takes⟩

theorem result_commanded (epoch : CoordinatorEpoch) (actions : List Action)
    (closed : Closed actions) (id : ReplicaId) (text : Str)
    (found : (run epoch actions).server.lastResults[id]? = some text) :
    ∃ conn m, .send conn m ∈ actions ∧ m.kind = .execute ∧ m.replica = id ∧
      text = resultPayload (getPayload m.payload "req" "?") := by
  obtain ⟨e, member, takes⟩ := exists_served found
  obtain ⟨conn, m, reg, action, phase, kind, rfl, rfl⟩ := Coordinator.takesResult_some takes
  obtain ⟨p, peer⟩ := worker_of_serving closed member action phase
  have balanced := (account_run epoch actions conn).worker peer
  have heard : m ∈ heardOver conn (served epoch actions) := by
    refine List.mem_flatMap.mpr ⟨e, member, ?_⟩
    simp [frameOver, action, kind]
  obtain ⟨fwd, forwarded, reports⟩ :=
    List.mem_flatMap.mp (balanced.part.subset (List.mem_append_left _ heard))
  obtain ⟨execute, rfl⟩ := answer_result (mem_reports reports) kind
  obtain ⟨e', member', posted⟩ := List.mem_flatMap.mp forwarded
  have genuine := served_genuine closed e' member'
  obtain ⟨conn', command, env, input, commands, forwards⟩ :=
    genuine.toWaited.forwards (served_eq member') posted
  have sent : .send conn' command ∈ actions := genuine.commands conn' command env input commands
  cases forwards with
  | warm kind found => cases execute
  | execute executes host found =>
      exact ⟨conn', command, sent, executes, rfl, resultOf_result _ _ _⟩

theorem executing_stored :
    ((run ⟨0, 1⟩ (Sample.provisioning ++ Sample.warming ++ Sample.executing)).server.lastResults[
      (⟨0, 1⟩ : ReplicaId)]?).isSome = true := by
  have total : work 100000 = 14999850000 := by
    rw [work_eq]
    rfl
  unfold run system Fleet.hear WorkerProcess.hear WorkerProcess.answer result resultPayload
  simp only [total]
  decide +kernel

theorem result_commanded_executing : ∃ text conn m,
    .send conn m ∈ Sample.provisioning ++ Sample.warming ++ Sample.executing ∧ m.kind = .execute ∧
      m.replica = ⟨0, 1⟩ ∧ text = resultPayload (getPayload m.payload "req" "?") := by
  obtain ⟨text, found⟩ := Option.isSome_iff_exists.mp executing_stored
  exact ⟨text, result_commanded ⟨0, 1⟩
    (Sample.provisioning ++ Sample.warming ++ Sample.executing) (by decide) ⟨0, 1⟩ text found⟩

end Fleet

end ReplicaFabric
