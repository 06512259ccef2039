import ReplicaFabric.Distributed.Connections
import ReplicaFabric.Distributed.Fields

/-!
# Availability of the coordinator

Nothing catches what the parsers of a handler throw, so a field that one of them does not take
ends the process. A message may also lack the field: the fallback of an id is the empty text,
which is no id.
-/

namespace ReplicaFabric.Coordinator

variable {c next : Coordinator} {env : Surroundings} {m : Message} {conn : ConnId}
  {outputs : List Output}

def fieldsOf (phase : Option Phase) (kind : MessageKind) : List Field :=
  match phase with
  | none => if kind = .register then Field.ofRegistration else Field.ofControl kind
  | some (.serving _) => Field.ofWorker kind
  | some .control => Field.ofControl kind
  | some _ => []

theorem firstFrame_isOk : (c.firstFrame env conn m).isOk =
    (fieldsOf none m.kind).all (·.readable m.payload) := by
  unfold firstFrame fieldsOf
  dsimp only
  split
  · exact (isOk_bind_total fun _ => rfl).trans buildWorkerReg_isOk
  · exact (isOk_bind_total fun _ => rfl).trans handleControl_isOk

theorem firstFrame_terminated (ok : c.firstFrame env conn m = .ok (outputs, next)) :
    next.terminated = c.terminated := by
  unfold firstFrame at ok
  split at ok
  · obtain ⟨reg, -, ok⟩ := exists_of_bind_ok ok
    cases ok
    rfl
  · obtain ⟨⟨sent, after⟩, handled, ok⟩ := exists_of_bind_ok ok
    cases ok
    obtain ⟨calls, handles⟩ := handleControl_handles handled
    exact handles.terminated

theorem settle_terminated {handler : Except Exception (List Output × Coordinator)}
    (running : c.terminated = false)
    (keeps : ∀ outputs next, handler = .ok (outputs, next) → next.terminated = c.terminated) :
    (c.settle handler).2.terminated = false ↔ handler.isOk = true := by
  cases handler with
  | error e => exact iff_of_false (nofun) (nofun)
  | ok handled => exact iff_of_true ((keeps handled.1 handled.2 rfl).trans running) rfl

def ReadsFields (c : Coordinator) (input : Input) : Prop :=
  ∀ (conn : ConnId) (m : Message), input.action = .frame conn m →
    ∀ f ∈ fieldsOf c.phases[conn]? m.kind, f.readable m.payload = true

theorem readsFields_frame :
    c.ReadsFields ⟨.frame conn m, env⟩ ↔
      (fieldsOf c.phases[conn]? m.kind).all (·.readable m.payload) = true := by
  rw [List.all_eq_true]
  constructor
  · intro reads
    exact reads conn m rfl
  · rintro all _ _ same
    cases same
    exact all

theorem frame_terminated_iff (running : c.terminated = false) :
    (c.act env (.frame conn m)).2.terminated = false ↔ c.ReadsFields ⟨.frame conn m, env⟩ := by
  rw [readsFields_frame, act]
  cases arrived : c.phases[conn]? with
  | none =>
      dsimp only
      rw [settle_terminated running fun _ _ => firstFrame_terminated, firstFrame_isOk]
  | some phase =>
      cases phase with
      | serving reg =>
          dsimp only
          rw [settle_terminated running, handleWorker_isOk, fieldsOf]
          intro _ _ ok
          obtain ⟨calls, handles⟩ := handleWorker_handles ok
          exact handles.terminated
      | control =>
          dsimp only
          rw [settle_terminated running, handleControl_isOk, fieldsOf]
          intro _ _ ok
          obtain ⟨calls, handles⟩ := handleControl_handles ok
          exact handles.terminated
      | _ => exact iff_of_true running rfl

theorem step_terminated_iff {input : Input} (running : c.terminated = false) :
    (c.step input).2.terminated = false ↔ c.ReadsFields input := by
  obtain ⟨action, env⟩ := input
  rw [step, if_neg (by simp [running])]
  cases action with
  | frame conn m => exact frame_terminated_iff running
  | _ =>
      refine iff_of_true ?_ fun _ _ isFrame => nomatch isFrame
      unfold act
      dsimp only
      split <;> exact running

theorem stays_up_iff (running : c.terminated = false) (inputs : List Input) :
    Machine.Throughout step (fun c => c.terminated = false) c inputs ↔
      Machine.Admissible step ReadsFields c inputs :=
  Machine.throughout_iff_of_step inputs (fun _ _ up => step_terminated_iff up) running

def garbledPromote : Input :=
  Sample.input (.frame 0 { kind := .promote, payload := "target=zz" })

theorem stays_up_iff_garbledPromote :
    Machine.Throughout step (fun c => c.terminated = false) Sample.coordinator [garbledPromote] ↔
      Machine.Admissible step ReadsFields Sample.coordinator [garbledPromote] :=
  stays_up_iff rfl [garbledPromote]

/-- One message with a target that is no number, first on its connection, ends the process. -/
theorem garbledPromote_terminates : ¬∀ (c : Coordinator) (inputs : List Input),
    c.terminated = false → Machine.Throughout step (fun c => c.terminated = false) c inputs := by
  intro up
  have ended : (Sample.coordinator.step garbledPromote).2.terminated = true := by decide
  have survived := (up Sample.coordinator [garbledPromote] rfl).last
  rw [Machine.run_cons, Machine.run_nil, ended] at survived
  cases survived

end ReplicaFabric.Coordinator
