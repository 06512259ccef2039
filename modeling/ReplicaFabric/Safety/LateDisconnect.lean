import ReplicaFabric.Distributed.Connections
import ReplicaFabric.Safety.BootFencing

/-!
# Late disconnects

The close of a worker connection unregisters the worker by its id alone. When a new incarnation
of the worker has registered in the meantime, it is the one that is unregistered.
-/

namespace ReplicaFabric

def Phase.closingFor : Phase → Option (WorkerId × WorkerBootId)
  | unregistered reg => some (reg.workerId, reg.bootId)
  | _ => none

namespace Coordinator

variable {c next : Coordinator} {action : Action}

abbrev Event := Machine.Event Coordinator Input Outcome

def registration (e : Event) : Option (ConnId × WorkerId × WorkerBootId) :=
  match e.input.action with
  | .frame conn _ =>
      match e.before.phases[conn]?, e.after.phases[conn]? with
      | none, some (.registered reg _) => some (conn, reg.workerId, reg.bootId)
      | _, _ => none
  | _ => none

def registrations (start : Coordinator) (inputs : List Input) :
    List (ConnId × WorkerId × WorkerBootId) :=
  (Machine.trace step start inputs).filterMap registration

def Opened (conn : ConnId) (c : Coordinator) : Prop := (c.phases[conn]?).isSome = true

theorem Change.opened (change : Change c action next) {conn : ConnId} (before : c.Opened conn) :
    next.Opened conn := by
  have insert (other : ConnId) (phase : Phase) :
      ((c.phases.insert other phase)[conn]?).isSome = true := by
    rw [Table.get_insert]
    split
    · rfl
    · exact before
  cases change with
  | disabled => exact before
  | terminated => exact before
  | registers fresh => exact insert ..
  | opens fresh handles =>
      unfold Opened
      rw [handles.phases]
      exact insert ..
  | handles handles =>
      unfold Opened
      rw [handles.phases]
      exact before
  | attaches phase => exact insert ..
  | hangsUp phase => exact insert ..
  | closes phase => exact insert ..
  | detaches phase => exact insert ..

theorem registration_opens {e : Event} {conn : ConnId} {worker : WorkerId} {boot : WorkerBootId}
    (registered : registration e = some (conn, worker, boot)) : e.after.Opened conn := by
  unfold registration at registered
  split at registered
  · split at registered
    · next entered =>
        cases registered
        simp [Opened, entered]
    · cases registered
  · cases registered

theorem registration_fresh {e : Event} {conn : ConnId} {worker : WorkerId} {boot : WorkerBootId}
    (registered : registration e = some (conn, worker, boot)) : ¬e.before.Opened conn := by
  unfold registration at registered
  split at registered
  · split at registered
    · next fresh _ =>
        cases registered
        simp [Opened, fresh]
    · cases registered
  · cases registered

theorem unregistered_step {input : Input} {worker : WorkerId}
    (absent : c.ctrl.workers[worker]? = none)
    (elsewhere : ∀ conn boot,
      registration (Machine.event step c input) ≠ some (conn, worker, boot)) :
    (c.step input).2.ctrl.workers[worker]? = none := by
  have change := c.step_change input
  generalize action : input.action = act at change
  generalize after : (c.step input).2 = next at change
  cases change with
  | disabled => exact absent
  | terminated => exact absent
  | @registers conn m reg fresh =>
      have other : reg.workerId ≠ worker := by
        rintro rfl
        refine elsewhere conn reg.bootId ?_
        simp [registration, Machine.event, action, after, fresh]
      change (c.ctrl.workers.insert reg.workerId reg)[worker]? = none
      rw [Table.get_insert_ne _ _ other]
      exact absent
  | opens fresh handles =>
      dsimp only
      rw [handles.workers]
      exact absent
  | handles handles =>
      rw [handles.workers]
      exact absent
  | attaches phase => exact absent
  | @hangsUp conn reg phase =>
      dsimp only
      rw [ReplicaSetController.unregisterWorker_workers, Table.get_erase]
      split
      · rfl
      · exact absent
  | closes phase => exact absent
  | detaches phase => exact absent

/-- A run with the two steps of a close: what comes before the first and between the two. -/
structure ClosingRun where
  start : Coordinator
  before : List Input
  hangUp : Input
  between : List Input
  detach : Input

namespace ClosingRun

def atHangUp (run : ClosingRun) : Coordinator := Machine.run step run.start run.before

def unregistered (run : ClosingRun) : Coordinator := (step run.atHangUp run.hangUp).2

def atDetach (run : ClosingRun) : Coordinator := Machine.run step run.unregistered run.between

def closed (run : ClosingRun) : Coordinator := (step run.atDetach run.detach).2

end ClosingRun

def OnlyConnections (first second : ConnId) (worker : WorkerId) (e : Event) : Prop :=
  ∀ r ∈ registration e, r.2.1 = worker → r.1 = first ∨ r.1 = second

instance (first second : ConnId) (worker : WorkerId) (e : Event) :
    Decidable (OnlyConnections first second worker e) :=
  inferInstanceAs (Decidable (∀ r ∈ registration e, _))

/-- An interleaving of two connections of one worker: `second` registers it after `first`, under
another boot id, and then the close of `first` is processed. Steps of connections of other
workers and of control clients may come anywhere. -/
structure LateClose (run : ClosingRun) (first second : ConnId) (worker : WorkerId)
    (old new : WorkerBootId) : Prop where
  restarted : old ≠ new
  registered : List.Sublist [(first, worker, old), (second, worker, new)]
    (registrations run.start run.before)
  onlyTwo : ∀ e ∈ Machine.trace step run.start (run.before ++ run.hangUp :: run.between),
    OnlyConnections first second worker e
  hangsUp : run.hangUp.action = .hangUp first
  detaches : run.detach.action = .detach first
  serving : run.atHangUp.phases[first]?.bind Phase.servingFor = some (worker, old)
  closing : run.atDetach.phases[first]?.bind Phase.closingFor = some (worker, old)
  running : run.atDetach.terminated = false

def KeepsReplicas (worker : WorkerId) (boot : WorkerBootId) (before after : Coordinator) : Prop :=
  ∀ (id : ReplicaId) (r : ReplicaState), before.ctrl.replicas[id]? = some r →
    r.workerId = worker → r.bootId = boot → after.ctrl.replicas[id]? = some r

structure SparesIncarnation (run : ClosingRun) (second : ConnId) (worker : WorkerId)
    (new : WorkerBootId) : Prop where
  registered : run.closed.ctrl.Registered worker new
  connected : run.closed.workerConns[worker]? = some second
  replicas : KeepsReplicas worker new run.atHangUp run.unregistered ∧
    KeepsReplicas worker new run.atDetach run.closed

variable {run : ClosingRun} {first second : ConnId} {worker : WorkerId} {old new : WorkerBootId}

theorem run_terminated (dead : c.terminated = true) (inputs : List Input) :
    Machine.run step c inputs = c := by
  induction inputs with
  | nil => rfl
  | cons input inputs ih =>
      have still : (step c input).2 = c := by rw [step, if_pos dead]
      rw [Machine.run_cons, still, ih]

theorem run_opened {conn : ConnId} (before : c.Opened conn) (inputs : List Input) :
    (Machine.run step c inputs).Opened conn :=
  (Machine.throughout_of_step inputs (fun s input => (s.step_change input).opened) before).last

theorem opened_of_registered {conn : ConnId} {inputs : List Input}
    (member : (conn, worker, new) ∈ registrations c inputs) :
    (Machine.run step c inputs).Opened conn := by
  obtain ⟨e, happened, registered⟩ := List.mem_filterMap.mp member
  obtain ⟨front, input, back, rfl, rfl⟩ := Machine.mem_trace.mp happened
  rw [Machine.run_append, Machine.run_cons]
  exact run_opened (registration_opens registered) back

theorem LateClose.unregistered_absent (late : LateClose run first second worker old new) :
    run.unregistered.ctrl.workers[worker]? = none := by
  have alive : run.atHangUp.terminated = false := by
    by_contra dead
    have stuck : run.atDetach = run.atHangUp := by
      have still : run.unregistered = run.atHangUp := by
        rw [ClosingRun.unregistered, step, if_pos (by simpa using dead)]
      rw [ClosingRun.atDetach, still, run_terminated (by simpa using dead)]
    exact dead (stuck ▸ late.running)
  obtain ⟨reg, found, host⟩ := Phase.serving_of_servingFor late.serving
  obtain rfl : reg.workerId = worker := congrArg Prod.fst host
  have taken : run.unregistered.ctrl =
      (run.atHangUp.ctrl.unregisterWorker reg.workerId).2 := by
    simp [ClosingRun.unregistered, step, alive, act, late.hangsUp, found]
  rw [taken, ReplicaSetController.unregisterWorker_workers, Table.get_erase, if_pos rfl]

def Waiting (first second : ConnId) (worker : WorkerId) (c : Coordinator) : Prop :=
  c.Opened first ∧ c.Opened second ∧ c.ctrl.workers[worker]? = none

theorem waiting_step {input : Input} (waiting : Waiting first second worker c)
    (onlyTwo : OnlyConnections first second worker (Machine.event step c input)) :
    Waiting first second worker (c.step input).2 := by
  obtain ⟨openFirst, openSecond, absent⟩ := waiting
  have change := c.step_change input
  refine ⟨change.opened openFirst, change.opened openSecond, unregistered_step absent ?_⟩
  intro conn boot registered
  rcases onlyTwo _ registered rfl with rfl | rfl
  · exact registration_fresh registered openFirst
  · exact registration_fresh registered openSecond

theorem LateClose.waiting (late : LateClose run first second worker old new) :
    Waiting first second worker run.unregistered := by
  have opened {conn : ConnId} {boot : WorkerBootId}
      (member : (conn, worker, boot) ∈ [(first, worker, old), (second, worker, new)]) :
      run.unregistered.Opened conn :=
    (run.atHangUp.step_change run.hangUp).opened
      (opened_of_registered (late.registered.subset member))
  exact ⟨opened List.mem_cons_self, opened (List.mem_cons_of_mem _ List.mem_cons_self),
    late.unregistered_absent⟩

theorem LateClose.atDetach_absent (late : LateClose run first second worker old new) :
    run.atDetach.ctrl.workers[worker]? = none := by
  have allowed : Machine.Admissible step
      (fun c input => OnlyConnections first second worker (Machine.event step c input))
      run.unregistered run.between := by
    refine Machine.admissible_of_trace fun e happened => late.onlyTwo e ?_
    rw [Machine.trace_append]
    exact List.mem_append_right _ (List.mem_cons_of_mem _ happened)
  have always := Machine.throughout_of_admissible (fun _ _ => waiting_step) late.waiting allowed
  exact always.last.2.2

theorem late_close_harms (late : LateClose run first second worker old new) :
    ¬SparesIncarnation run second worker new := by
  intro spared
  have absent : run.closed.ctrl.workers[worker]? = none := by
    refine unregistered_step late.atDetach_absent fun conn boot => ?_
    simp [registration, Machine.event, late.detaches]
  obtain ⟨reg, found, -⟩ := spared.registered
  rw [absent] at found
  cases found

def lateDisconnect : ClosingRun where
  start := Sample.coordinator
  before := Sample.connect 0 ⟨0, 1⟩ ++ Sample.connect 2 ⟨0, 2⟩ ++ Sample.provisionOver 1 ++
    Sample.reportOver 2 ⟨0, 2⟩ ++ [Sample.promoteOver 1]
  hangUp := Sample.input (.hangUp 0)
  between := []
  detach := Sample.input (.detach 0)

theorem lateDisconnect_late : LateClose lateDisconnect 0 2 ⟨0, 1⟩ ⟨0, 1⟩ ⟨0, 2⟩ where
  restarted := by decide
  registered := by decide +kernel
  onlyTwo := by decide +kernel
  hangsUp := rfl
  detaches := rfl
  serving := by decide +kernel
  closing := by decide +kernel
  running := by decide +kernel

theorem lateDisconnect_harmful :
    ¬∀ (run : ClosingRun) (first second : ConnId) (worker : WorkerId) (old new : WorkerBootId),
      LateClose run first second worker old new → SparesIncarnation run second worker new := by
  intro all
  have spared := all _ _ _ _ _ _ lateDisconnect_late
  have serving : lateDisconnect.atHangUp.ctrl.replicas[(⟨0, 1⟩ : ReplicaId)]?.map
      (fun r => (r.workerId, r.bootId, r.lifecycle)) =
        some (⟨0, 1⟩, ⟨0, 2⟩, .serving) := by decide +kernel
  have failed : lateDisconnect.unregistered.ctrl.replicas[(⟨0, 1⟩ : ReplicaId)]?.map
      (·.lifecycle) = some .failed := by decide +kernel
  obtain ⟨r, found, host⟩ := Option.map_eq_some_iff.mp serving
  rw [Prod.mk.injEq, Prod.mk.injEq] at host
  obtain ⟨worker, boot, lifecycle⟩ := host
  rw [spared.replicas.1 _ r found worker boot, Option.map_some, lifecycle] at failed
  cases failed

theorem late_close_harms_lateDisconnect :
    ¬SparesIncarnation lateDisconnect 2 ⟨0, 1⟩ ⟨0, 2⟩ :=
  late_close_harms lateDisconnect_late

end Coordinator

end ReplicaFabric
