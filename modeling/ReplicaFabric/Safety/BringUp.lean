import ReplicaFabric.Safety.Conservation
import ReplicaFabric.Safety.Decoding

/-!
# How a replica comes up

A `PROVISION` starts the replica and asks its worker to warm it, and the three reports of the worker
process make it ready, if nobody else touches it in the meantime.
-/

namespace ReplicaFabric

open Duplex WorkerProcess

/-! ## The replica -/

/-- What a report of a worker process does to its replica. -/
inductive Advances : MessageKind → ReplicaState → ReplicaState → Prop
  | warmDone {warm : WarmingRecord} {mono : MonotonicNs} {r : ReplicaState}
      (done : warm.warmupExecutionDone = true) : Advances .warmDone r (r.warmed warm mono)
  | health {ev : HealthEvidence} {mono : MonotonicNs} {r : ReplicaState}
      (healthy : ev.state = .healthy) : Advances .health r (r.healthReported ev mono)
  | readiness {rr : ReadinessRecord} {r : ReplicaState} (all : rr.factors.allSet = true) :
      Advances .readiness r (r.readinessReported rr)

inductive Reaches : List MessageKind → ReplicaState → ReplicaState → Prop
  | done {r} : Reaches [] r r
  | report {kind kinds r r' r''} (first : Advances kind r r') (rest : Reaches kinds r' r'') :
      Reaches (kind :: kinds) r r''

structure ComingUp (p : WorkerProcess) (epoch : CoordinatorEpoch) (r : ReplicaState) : Prop where
  host : r.workerId = p.worker ∧ r.bootId = p.boot
  epoch : r.coordinatorEpoch = epoch
  lifecycle : r.lifecycle = .starting ∨ r.lifecycle = .warming ∨ r.lifecycle = .ready

structure Up (r : ReplicaState) : Prop where
  lifecycle : r.lifecycle = .ready
  warmth : r.warmth = .warm
  health : r.health = .healthy
  readiness : r.readiness = .ready

variable {p : WorkerProcess} {epoch : CoordinatorEpoch} {r r' r'' : ReplicaState}
  {kind : MessageKind} {kinds kinds' : List MessageKind}

theorem Advances.warmed (advances : Advances .warmDone r r') :
    r'.lifecycle = .warming ∧ r'.warmth = .warm := by
  cases advances with
  | warmDone done => exact ⟨rfl, by simp [ReplicaState.warmed, done]⟩

theorem Advances.checked (advances : Advances .health r r') :
    r'.health = .healthy ∧ r'.lifecycle = r.lifecycle ∧ r'.warmth = r.warmth ∧
      r'.coordinatorEpoch = r.coordinatorEpoch := by
  cases advances with
  | @health ev mono _ healthy =>
      refine ⟨(ReplicaState.healthReported_health ev mono).trans healthy, ?_⟩
      unfold ReplicaState.healthReported
      simp [healthy]

theorem Advances.readied (advances : Advances .readiness r r') (warming : r.lifecycle = .warming) :
    r'.lifecycle = .ready ∧ r'.readiness = .ready ∧ r'.warmth = r.warmth ∧
      r'.health = r.health := by
  cases advances with
  | @readiness rr _ all =>
      simp [ReplicaState.readinessReported, all, warming, ReplicaLifecycle.canTransition]

theorem Advances.incarnation (advances : Advances kind r r') :
    r'.incarnation = r.incarnation := by
  cases advances <;> simp

theorem Advances.comingUp (advances : Advances kind r r') (comingUp : ComingUp p epoch r) :
    ComingUp p epoch r' := by
  have host := ReplicaState.host_eq_of_incarnation advances.incarnation
  have host : r'.workerId = p.worker ∧ r'.bootId = p.boot :=
    ⟨(congrArg Prod.fst host).trans comingUp.host.1, (congrArg Prod.snd host).trans comingUp.host.2⟩
  have step := advances
  cases advances with
  | warmDone done => exact ⟨host, comingUp.epoch, .inr (.inl rfl)⟩
  | health healthy =>
      obtain ⟨-, lifecycle, -, sameEpoch⟩ := step.checked
      exact ⟨host, sameEpoch.trans comingUp.epoch, by rw [lifecycle]; exact comingUp.lifecycle⟩
  | readiness all =>
      refine ⟨host, comingUp.epoch, ?_⟩
      unfold ReplicaState.readinessReported
      dsimp only
      split_ifs
      · exact .inr (.inr rfl)
      · exact comingUp.lifecycle

theorem Reaches.incarnation (reaches : Reaches kinds r r') : r'.incarnation = r.incarnation := by
  induction reaches with
  | done => rfl
  | report first rest ih => exact ih.trans first.incarnation

theorem Reaches.comingUp (reaches : Reaches kinds r r') (comingUp : ComingUp p epoch r) :
    ComingUp p epoch r' := by
  induction reaches with
  | done => exact comingUp
  | report first rest ih => exact ih (first.comingUp comingUp)

theorem Reaches.trans (first : Reaches kinds r r') (second : Reaches kinds' r' r'') :
    Reaches (kinds ++ kinds') r r'' := by
  induction first with
  | done => exact second
  | report advances rest ih => exact .report advances (ih second)

theorem Reaches.split (reaches : Reaches (kinds ++ kinds') r r'') :
    ∃ r', Reaches kinds r r' ∧ Reaches kinds' r' r'' := by
  induction kinds generalizing r with
  | nil => exact ⟨r, .done, reaches⟩
  | cons kind kinds ih =>
      cases reaches with
      | report first rest =>
          obtain ⟨r', before, after⟩ := ih rest
          exact ⟨r', .report first before, after⟩

theorem Reaches.first (reaches : Reaches (kind :: kinds) r r'') :
    ∃ r', Advances kind r r' ∧ Reaches kinds r' r'' := by
  cases reaches with
  | report first rest => exact ⟨_, first, rest⟩

theorem Reaches.up (reaches : Reaches (kinds ++ [.warmDone, .health, .readiness]) r r') : Up r' := by
  obtain ⟨early, -, reaches⟩ := reaches.split
  obtain ⟨warm, warmed, reaches⟩ := reaches.first
  obtain ⟨checked, health, reaches⟩ := reaches.first
  obtain ⟨ready, readiness, reaches⟩ := reaches.first
  cases reaches
  obtain ⟨warming, isWarm⟩ := warmed.warmed
  obtain ⟨healthy, lifecycle, warmth, -⟩ := health.checked
  obtain ⟨isReady, readied, warmth', health'⟩ := readiness.readied (lifecycle.trans warming)
  exact ⟨isReady, warmth'.trans (warmth.trans isWarm), health'.trans healthy, readied⟩

/-! ## A report -/

def MessageKind.reports (kind : MessageKind) : Bool :=
  kind = .warmDone || kind = .health || kind = .readiness

namespace Coordinator

variable {c : Coordinator} {env : Surroundings} {m : Message} {id : ReplicaId} {op : Operation}

theorem afterFrame_reported (report : c.reportOf env m = .ok (some op))
    (found : c.ctrl.replicas[m.replica]? = some r) (passes : op.ReportGuard c.ctrl r) :
    (c.afterFrame env m).ctrl = c.ctrl.putReplica m.replica (op.reported r) := by
  have exactly := c.ctrl.report_editsWhen env.fresh (reportOf_target report)
  obtain ⟨r', found', -, -, written⟩ := exactly.edits r found passes
  obtain rfl : r = r' := by simpa [found] using found'
  simp only [afterFrame, report, afterReport, written]

theorem afterFrame_elsewhere (env : Surroundings)
    (other : ¬(m.replica = id ∧ m.kind.reports = true)) :
    (c.afterFrame env m).ctrl.replicas[id]? = c.ctrl.replicas[id]? ∧
      (c.afterFrame env m).ctrl.epoch = c.ctrl.epoch := by
  unfold afterFrame
  cases report : c.reportOf env m with
  | error e => exact ⟨rfl, rfl⟩
  | ok report' =>
      cases report' with
      | none => exact ⟨rfl, rfl⟩
      | some op =>
          have reports : m.kind.reports = true := by
            rcases reportOf_cases report with ⟨-, kind, -⟩ | ⟨-, kind, -⟩ | ⟨-, kind, -⟩ <;>
              simp [MessageKind.reports, kind]
          have elsewhere : m.replica ≠ id := fun here => other ⟨here, reports⟩
          have exactly := c.ctrl.report_editsWhen env.fresh (reportOf_target report)
          simp only [afterReport]
          rcases exactly.cases with refused | ⟨r, -, -, -, written⟩
          · rw [refused.2]
            exact ⟨rfl, rfl⟩
          · rw [written]
            exact ⟨Table.get_insert_ne _ _ elsewhere, rfl⟩

theorem report_advances (env : Surroundings) (writes : Writes p.worker p.boot m)
    (reports : m.kind.reports = true)
    (found : c.ctrl.replicas[m.replica]? = some r) (comingUp : ComingUp p c.ctrl.epoch r) :
    ∃ r', Advances m.kind r r' ∧ (c.afterFrame env m).ctrl = c.ctrl.putReplica m.replica r' := by
  have alive : ¬ReplicaSetController.Terminated r := by
    rintro (failed | retired | quiesced) <;>
      rcases comingUp.lifecycle with state | state | state <;> simp_all
  have accepts : ReplicaSetController.AcceptsWarming r := by
    rcases comingUp.lifecycle with state | state | state
    · exact .inl (by rw [state]; rfl)
    · exact .inr state
    · exact .inl (by rw [state]; rfl)
  cases writes with
  | registers node => cases reports
  | pong => cases reports
  | result m => cases reports
  | warmDone m =>
      obtain ⟨warm, parsed, done⟩ : ∃ warm, warmingFrom "steps=4" = .ok warm ∧
          warm.warmupExecutionDone = true := ⟨_, rfl, rfl⟩
      have report : c.reportOf env (about p.worker p.boot m .warmDone "steps=4") =
          .ok (some (.warmReplica m.replica warm p.worker p.boot (env.mono 0))) := by
        simp only [reportOf, about, parsed]
        rfl
      exact ⟨_, .warmDone done, afterFrame_reported report found ⟨comingUp.host, accepts⟩⟩
  | health m =>
      have parsed : hexi (getPayload "state=2\nsource=worker" "state" "2") = .ok 2 := rfl
      have state : enumFromInt HealthState (2 : Int32).toInt = some .healthy := by decide
      have report : c.reportOf env (about p.worker p.boot m .health "state=2\nsource=worker") =
          .ok (some (.reportHealth m.replica (c.evidenceOf env (about p.worker p.boot m .health
            "state=2\nsource=worker") .healthy) p.worker p.boot (env.mono 0))) := by
        simp only [reportOf, about, parsed]
        exact congrArg (fun hs => Except.ok (Option.map _ hs)) state
      have known : c.ctrl.findReplica m.replica = some r := found
      have generation : (c.evidenceOf env (about p.worker p.boot m .health
          "state=2\nsource=worker") .healthy).generation = r.healthGeneration := by
        simp [evidenceOf, about, known]
      exact ⟨_, .health rfl, afterFrame_reported report found
        ⟨comingUp.host, comingUp.epoch, generation, alive⟩⟩
  | readiness m =>
      have parsed : hexu (getPayload "mask=0x7ff" "mask" "0") = .ok 0x7ff := rfl
      have report : c.reportOf env (about p.worker p.boot m .readiness "mask=0x7ff") =
          .ok (some (.reportReadiness m.replica (readinessOf 0x7ff) p.worker p.boot)) := by
        simp only [reportOf, about, parsed]
        rfl
      exact ⟨_, .readiness (by decide), afterFrame_reported report found
        ⟨comingUp.host, comingUp.epoch, alive⟩⟩

/-! ## A `PROVISION` -/

structure StartedOn (w : WorkerId) (before after : ReplicaSetController) (r : ReplicaState) :
    Prop where
  worker : r.workerId = w
  boot : ∃ reg, before.workers[w]? = some reg ∧ r.bootId = reg.bootId
  epoch : r.coordinatorEpoch = after.epoch
  lifecycle : r.lifecycle = .starting

theorem provision_starts {w : WorkerId} {compat : ReplicaCompatibility} {dev : DeviceCapability}
    {cap : UInt64}
    (accepted : (c.ctrl.provisionReplica env.fresh m.replica m.set w compat dev cap (env.mono 0)
      (env.wall 0)).1.isOk = true) :
    ∃ r, (c.provision env m w compat dev cap).2.ctrl.replicas[m.replica]? = some r ∧
      StartedOn w c.ctrl (c.provision env m w compat dev cap).2.ctrl r := by
  rcases c.ctrl.provisionReplica_cases env.fresh m.replica m.set w compat dev cap (env.mono 0)
    (env.wall 0) with ⟨-, refused⟩ | ⟨set, reg, lifecycle, gate, -, -, written⟩
  · cases refused.1.symm.trans accepted
  have worker := (ReplicaSetController.provisionGate_ok.mp gate).2.2.1
  unfold Coordinator.provision
  simp only [accepted, if_true, written]
  have allocates : ReplicaLifecycle.canTransition .declared .allocating = true := rfl
  have starts : ReplicaLifecycle.canTransition .allocating .starting = true := rfl
  simp only [ReplicaSetController.setAllocating, ReplicaSetController.putReplica_here,
    ReplicaState.provisioned, allocates, Bool.not_true, Bool.false_eq_true, if_false,
    ReplicaSetController.setStarting, ReplicaState.allocated, starts]
  exact ⟨_, rfl, rfl, ⟨reg, worker, rfl⟩, rfl, rfl⟩

theorem handleControl_starts {outputs : List Output} {next : Coordinator} {w : WorkerId}
    {warm : Message} (ok : c.handleControl env m = .ok (outputs, next))
    (forwarded : .forward w warm ∈ outputs) (kind : warm.kind = .warm) :
    ∃ r, next.ctrl.replicas[warm.replica]? = some r ∧ StartedOn w c.ctrl next.ctrl r := by
  have spoken := handleControl_spoken ok
  have provisions : m.kind = .provision := by
    cases spoken with
    | answered answers => simp at forwarded
    | provisioned kind answers connected => exact kind
    | forwarded executes answers found connected =>
        obtain ⟨-, rfl⟩ : w = _ ∧ warm = _ := by simpa using forwarded
        cases executes.symm.trans kind
  unfold handleControl handleProvision at ok
  simp only [provisions] at ok
  obtain ⟨w', -, ok⟩ := exists_of_bind_ok ok
  obtain ⟨major, -, ok⟩ := exists_of_bind_ok ok
  obtain ⟨devmem, -, ok⟩ := exists_of_bind_ok ok
  obtain ⟨cap, -, ok⟩ := exists_of_bind_ok ok
  have result := Except.ok.inj ok
  obtain rfl := congrArg Prod.fst result
  obtain rfl := congrArg Prod.snd result
  have sent := forwarded
  unfold Coordinator.provision acknowledge at sent
  dsimp only at sent
  split at sent
  · next accepted =>
      rcases List.mem_append.mp sent with acked | sent
      · cases List.mem_singleton.mp acked
      · unfold sendToWorker at sent
        split at sent
        · obtain ⟨rfl, rfl⟩ := Output.forward.inj (List.mem_singleton.mp sent)
          exact provision_starts accepted
        · cases sent
  · cases List.mem_singleton.mp sent

end Coordinator

namespace Fleet

variable {conn : ConnId} {id : ReplicaId} {c : Coordinator} {actions : List Action}

/-- The replica is left alone, and the worker is not asked to warm it. -/
structure Spares (id : ReplicaId) (conn : ConnId) (e : Event) : Prop where
  replica : e.after.ctrl.replicas[id]? = e.before.ctrl.replicas[id]?
  epoch : e.after.ctrl.epoch = e.before.ctrl.epoch
  unasked : ∀ m ∈ postsTo e.output conn, m.kind = .warm → m.replica ≠ id

def kindsAbout (id : ReplicaId) (ms : List Message) : List MessageKind :=
  (ms.filter fun m => m.replica = id && m.kind.reports).map Message.kind

@[simp] theorem kindsAbout_append (id : ReplicaId) (ms ms' : List Message) :
    kindsAbout id (ms ++ ms') = kindsAbout id ms ++ kindsAbout id ms' := by
  simp [kindsAbout]

theorem kindsAbout_eq_nil {ms : List Message}
    (other : ∀ m ∈ ms, ¬(m.replica = id ∧ m.kind.reports = true)) : kindsAbout id ms = [] := by
  rw [kindsAbout, List.filter_eq_nil_iff.mpr, List.map_nil]
  simpa using other

structure Hears (p : WorkerProcess) (conn : ConnId) (e : Event) : Prop where
  running : e.before.terminated = false
  heard : ∀ m env, e.input = ⟨.frame conn m, env⟩ → WrittenBy p e.before conn m

theorem attended (env : Surroundings) {m : Message} {reg : WorkerRegistration}
    (running : c.terminated = false) (serving : c.phases[conn]? = some (.serving reg))
    (heard : WrittenBy p c conn m)
    (found : c.ctrl.replicas[id]? = some r) (comingUp : ComingUp p c.ctrl.epoch r) :
    ∃ r', (c.step ⟨.frame conn m, env⟩).2.ctrl.replicas[id]? = some r' ∧
      (c.step ⟨.frame conn m, env⟩).2.ctrl.epoch = c.ctrl.epoch ∧
      Reaches (kindsAbout id (frameOver conn ⟨.frame conn m, env⟩)) r r' := by
  rw [Coordinator.step_serving running serving, frameOver_frame]
  by_cases here : m.replica = id ∧ m.kind.reports = true
  · obtain ⟨rfl, reports⟩ := here
    have kind : m.kind ≠ .register := by
      intro kind
      rw [kind] at reports
      cases reports
    obtain ⟨-, -, -, -, writes⟩ := heard.resolve_left fun registers => kind registers.2
    obtain ⟨r', advances, written⟩ := c.report_advances env writes reports found comingUp
    refine ⟨r', ?_, ?_, ?_⟩
    · rw [written, ReplicaSetController.putReplica_get, if_pos rfl]
    · rw [written]
      rfl
    · have only : kindsAbout m.replica (reported [m]) = [m.kind] := by
        simp [kindsAbout, reported, kind, reports]
      rw [only]
      exact .report advances .done
  · obtain ⟨same, epoch⟩ := c.afterFrame_elsewhere env here
    have nothing : kindsAbout id (reported [m]) = [] := kindsAbout_eq_nil fun m' member => by
      obtain rfl := List.mem_singleton.mp (List.mem_of_mem_filter member)
      exact here
    rw [nothing]
    exact ⟨r, same.trans found, epoch, .done⟩

theorem unattended {e : Event} (hears : Hears p conn e) (unserved : ¬attends conn e = true) :
    frameOver conn e.input = [] := by
  rw [attends_iff] at unserved
  obtain ⟨before, ⟨action, env⟩, output, after⟩ := e
  cases action with
  | frame conn' m =>
      by_cases here : conn' = conn
      · subst here
        rcases hears.heard m env rfl with ⟨-, register⟩ | ⟨reg, serving, -⟩
        · simp [frameOver, register]
        · exact absurd ⟨m, env, reg, rfl, serving⟩ unserved
      · simp [frameOver, here]
  | _ => rfl

theorem trace_reaches (c : Coordinator) (inputs : List Input)
    (hears : ∀ e ∈ Machine.trace serve c inputs, Hears p conn e)
    (spared : ∀ e ∈ Machine.trace serve c inputs, ¬attends conn e = true → Spares id conn e)
    (found : c.ctrl.replicas[id]? = some r) (comingUp : ComingUp p c.ctrl.epoch r) :
    ∃ r', (Machine.run serve c inputs).ctrl.replicas[id]? = some r' ∧
      Reaches (kindsAbout id (heardOver conn (Machine.trace serve c inputs))) r r' := by
  induction inputs generalizing c r with
  | nil => exact ⟨r, found, .done⟩
  | cons input inputs ih =>
      have first := hears _ List.mem_cons_self
      have one : ∃ r', (c.step input).2.ctrl.replicas[id]? = some r' ∧
          (c.step input).2.ctrl.epoch = c.ctrl.epoch ∧
          Reaches (kindsAbout id (frameOver conn input)) r r' := by
        by_cases attended' : attends conn (Machine.event serve c input) = true
        · obtain ⟨m, env, reg, rfl, serving⟩ := attends_iff.mp attended'
          exact attended env first.running serving (first.heard m env rfl) found comingUp
        · have spares := spared _ List.mem_cons_self attended'
          have nothing : frameOver conn input = [] := unattended first attended'
          rw [nothing]
          exact ⟨r, spares.replica.trans found, spares.epoch, .done⟩
      obtain ⟨r', found', epoch, reaches⟩ := one
      obtain ⟨r'', final, rest⟩ := ih _ (fun e later => hears e (List.mem_cons_of_mem _ later))
        (fun e later => spared e (List.mem_cons_of_mem _ later)) found'
        (epoch ▸ reaches.comingUp comingUp)
      refine ⟨r'', final, ?_⟩
      rw [Machine.trace, heardOver, List.flatMap_cons, kindsAbout_append]
      exact reaches.trans rest

/-! ## From the `WARM` to the last report -/

variable {Sends : ConnId → Message → Prop} {l : Link} {s : Fleet} {warm : Message}

theorem event_starts {e : Event} (waited : Waited e)
    (same : e = Machine.event serve e.before e.input) (agrees : e.before.TableAgrees)
    (posted : warm ∈ postsTo e.output conn) (kind : warm.kind = .warm) :
    ∃ w r, e.before.workerConns[w]? = some conn ∧
      e.after.ctrl.replicas[warm.replica]? = some r ∧
      Coordinator.StartedOn w e.before.ctrl e.after.ctrl r ∧ frameOver conn e.input = [] := by
  obtain ⟨conn', m, env, input, commands, -⟩ := waited.forwards same posted
  rw [event_output same, mem_postsTo] at posted
  obtain ⟨outputs, w, done, forwarded, found⟩ := mem_posts posted
  have silent : frameOver conn e.input = [] := by
    refine frameOver_elsewhere fun here => ?_
    rw [input] at here
    have here : conn' = conn := here
    obtain ⟨reg, phases, -⟩ := agrees w conn found
    rw [here] at commands
    rcases commands with ⟨fresh, -⟩ | control
    · simp [fresh] at phases
    · simp [control] at phases
  have started : ∃ r, (e.before.step ⟨.frame conn' m, env⟩).2.ctrl.replicas[warm.replica]? =
      some r ∧ Coordinator.StartedOn w e.before.ctrl
        (e.before.step ⟨.frame conn' m, env⟩).2.ctrl r := by
    have taken := e.before.step_frame env conn' m waited.live (waited.reads conn' m env input)
    rw [input] at done
    generalize e.before.step ⟨.frame conn' m, env⟩ = result at taken done ⊢
    cases taken with
    | failed => cases done
    | registered fresh kind built =>
        cases done
        cases forwarded
    | opened fresh kind' ok =>
        cases done
        have started := Coordinator.handleControl_starts ok forwarded kind
        exact started
    | commanded control ok =>
        cases done
        exact Coordinator.handleControl_starts ok forwarded kind
    | reported serving ok =>
        cases done
        rw [Coordinator.handleWorker_outputs ok] at forwarded
        split at forwarded <;> simp at forwarded
  obtain ⟨r, provisioned, started⟩ := started
  rw [event_after same, input]
  exact ⟨w, r, found, provisioned, started, input ▸ silent⟩

theorem attends_silent {e : Event} (waited : Waited e)
    (same : e = Machine.event serve e.before e.input) (taken : attends conn e = true) :
    postsTo e.output conn = [] := by
  obtain ⟨m, env, reg, input, serving⟩ := attends_iff.mp taken
  rw [List.eq_nil_iff_forall_not_mem]
  intro fwd posted
  obtain ⟨conn', m', env', input', commands, -⟩ := waited.forwards same posted
  cases input.symm.trans input'
  exact commands.not_serving serving

/-- A client that has registered is taken for a worker. -/
theorem worker_of_table {w : WorkerId} (known : Known Sends c conn l)
    (found : c.workerConns[w]? = some conn) : (∃ p, l.peer = some (.worker p) ∧ p.worker = w) ∨
      (∃ sent received, l.peer = some (.client sent received)) ∧
        ¬∀ m, Sends conn m → m.kind ≠ .register := by
  obtain ⟨reg, phases, rfl⟩ := known.agrees w conn found
  have held : holds c conn = some reg := by
    rcases phases with phase | phase <;> simp [holds, phase, Phase.holds]
  cases peer : l.peer with
  | none =>
      rw [(known.orderly.unused peer).holds] at held
      cases held
  | some peer' =>
      cases peer' with
      | worker p => exact .inl ⟨p, rfl, ((known.orderly.worker peer).registered reg held).1.symm⟩
      | client sent received =>
          refine .inr ⟨⟨sent, received, rfl⟩, fun leaves => ?_⟩
          rw [(known.orderly.client peer).unregistered leaves] at held
          cases held

theorem run_ids (actions : List Action) (now : s.peers conn = some (.worker p)) :
    ∃ q, (Machine.run system.act s actions).peers conn = some (.worker q) ∧
      q.worker = p.worker ∧ q.boot = p.boot := by
  obtain ⟨peer, there, host⟩ := (throughout_stay s actions).first conn _ now
  cases peer with
  | worker q => exact ⟨q, there, by simpa [Peer.host] using host⟩
  | client sent received => cases host

theorem reports_warm (kind : warm.kind = .warm) :
    kindsAbout warm.replica (p.reports warm) = [.warmDone, .health, .readiness] := by
  have fits (kind : MessageKind) (payload : Str) (short : payload.length ≤ 100) :
      (about p.worker p.boot warm kind payload).fits = true := by
    have length := length_encodeMessage (about p.worker p.boot warm kind payload)
    have small : 109 + payload.length ≤ kMaxFrame :=
      (Nat.add_le_add_left short 109).trans (by decide)
    exact decide_eq_true (length.trans_le small)
  have first := fits .warmDone "steps=4" (by decide)
  have second := fits .health "state=2\nsource=worker" (by decide)
  have third := fits .readiness "mask=0x7ff" (by decide)
  have all : p.reports warm = p.answer warm := by
    simp [reports, answer, kind, first, second, third]
  simp [all, answer, kind, kindsAbout, about, MessageKind.reports]

theorem reports_other {m m' : Message} (other : m.kind = .warm → m.replica ≠ id)
    (member : m' ∈ p.reports m) : ¬(m'.replica = id ∧ m'.kind.reports = true) := by
  rintro ⟨here, reports⟩
  have written := mem_reports member
  unfold answer at written
  split at written
  · next kind =>
      simp only [List.mem_cons, List.not_mem_nil, or_false] at written
      have same : m'.replica = m.replica := by rcases written with rfl | rfl | rfl <;> rfl
      exact other kind (same.symm.trans here)
  · obtain rfl := List.mem_singleton.mp written
    cases reports
  · obtain rfl := List.mem_singleton.mp written
    cases reports
  · cases written

theorem served_append (before later : List Action) :
    system.served s (before ++ later) =
      system.served s before ++ system.served (Machine.run system.act s before) later := by
  simp [System.served, Machine.trace_append]

structure Arrived (p : WorkerProcess) (conn : ConnId) (s : Fleet) : Prop where
  peer : s.peers conn = some (.worker p)
  hears : p.hears = true
  up : (s.link conn).up = []
  down : (s.link conn).down = []

theorem heard_since {before now later : List Event}
    (start : heardOver conn before <+: (forwardedTo conn before).flatMap p.reports)
    (silent : heardOver conn now = []) (asked : forwardedTo conn now = [warm])
    (kind : warm.kind = .warm)
    (unasked : ∀ m ∈ forwardedTo conn later, m.kind = .warm → m.replica ≠ warm.replica)
    (rest : heardOver conn (before ++ now ++ later) =
      (forwardedTo conn (before ++ now ++ later)).flatMap p.reports) :
    ∃ kinds, kindsAbout warm.replica (heardOver conn later) =
      kinds ++ [.warmDone, .health, .readiness] := by
  obtain ⟨early, start⟩ := start
  simp only [heardOver, forwardedTo, List.flatMap_append] at rest start silent asked unasked
  rw [silent, asked, ← start, List.append_nil, List.append_assoc, List.append_assoc,
    List.append_cancel_left_eq, List.flatMap_singleton] at rest
  refine ⟨kindsAbout warm.replica early, ?_⟩
  rw [heardOver, rest, kindsAbout_append, kindsAbout_append, reports_warm kind]
  have nothing : kindsAbout warm.replica
      ((later.flatMap fun e => postsTo e.output conn).flatMap p.reports) = [] := by
    refine kindsAbout_eq_nil fun m' member => ?_
    obtain ⟨m, forwarded, reports⟩ := List.mem_flatMap.mp member
    exact reports_other (unasked m forwarded) reports
  rw [nothing, List.append_nil]

variable {actions before later : List Action} {action : Action}

theorem run_append (epoch : CoordinatorEpoch) (before later : List Action) :
    run epoch (before ++ later) = Machine.run system.act (run epoch before) later :=
  Machine.run_append ..

theorem act_event {e : Event} (output : (system.act s action).1 = some e) :
    (system.act s action).2.server = e.after ∧ e = Machine.event serve s.server e.input := by
  have change := system.act_change s action
  rw [output] at change
  generalize (system.act s action).2 = next at change ⊢
  cases change with
  | delivers idle reads taken => exact ⟨rfl, rfl⟩
  | works idle => exact ⟨rfl, rfl⟩

theorem asks_start (last : (run epoch (before ++ action :: later)).peers conn = some (.worker p))
    (asked : forwardedTo conn (system.served (run epoch before) [action]) = [warm])
    (kind : warm.kind = .warm) :
    ∃ p r, (run epoch before).peers conn = some (.worker p) ∧
      (run epoch (before ++ [action])).server.ctrl.replicas[warm.replica]? = some r ∧
      Coordinator.StartedOn p.worker (run epoch before).server.ctrl
        (run epoch (before ++ [action])).server.ctrl r ∧
      heardOver conn (system.served (run epoch before) [action]) = [] := by
  have known := (throughout_known epoch (before ++ action :: later)).later.first conn
  rw [← run] at known
  have waited : ∀ e ∈ served epoch (before ++ action :: later), Waited e := served_waited
  rw [served, served_append, ← run, ← List.singleton_append, served_append] at waited
  rw [run_append epoch before [action], Machine.run_cons, Machine.run_nil]
  rw [System.served_cons] at asked waited ⊢
  cases output : (system.act (run epoch before) action).1 with
  | none => simp [output, System.served, Machine.trace, forwardedTo] at asked
  | some e =>
      obtain ⟨after, event⟩ := act_event output
      have forwards : postsTo e.output conn = [warm] := by
        simpa [output, System.served, Machine.trace, forwardedTo] using asked
      have waited := waited e (by simp [output])
      have beforeIs : e.before = (run epoch before).server := congrArg Machine.Event.before event
      rw [← beforeIs] at event known ⊢
      obtain ⟨w, r, found, provisioned, started, silent⟩ :=
        event_starts waited event known.agrees (forwards ▸ List.mem_singleton_self warm) kind
      rcases worker_of_table known found with ⟨p, peer, rfl⟩ | ⟨⟨sent, received, peer⟩, -⟩
      · refine ⟨p, r, peer, after ▸ provisioned, after ▸ started, ?_⟩
        simpa [output, System.served, Machine.trace, heardOver] using silent
      · obtain ⟨peer', there, host⟩ := (throughout_stay (run epoch before) (action :: later)).first
          conn _ peer
        rw [← run_append, last] at there
        cases there
        cases host

/-- A worker process that has been asked to warm a replica, and that nobody asks again or takes the
replica from, has brought it up when all its reports have arrived. -/
theorem provision_brings_up (epoch : CoordinatorEpoch) (before : List Action) (action : Action)
    (later : List Action) (conn : ConnId) (p : WorkerProcess) (warm : Message)
    (kind : warm.kind = .warm)
    (asked : forwardedTo conn (system.served (run epoch before) [action]) = [warm])
    (current : ∀ reg, (run epoch before).server.ctrl.workers[p.worker]? = some reg →
      reg.bootId = p.boot)
    (spared : ∀ e ∈ system.served (run epoch (before ++ [action])) later,
      attends conn e = false → Spares warm.replica conn e)
    (arrived : Arrived p conn (run epoch (before ++ action :: later))) :
    ∃ r, (run epoch (before ++ action :: later)).server.ctrl.replicas[warm.replica]? = some r ∧
      Up r ∧ r.workerId = p.worker ∧ r.bootId = p.boot := by
  obtain ⟨p₀, r, peer₀, provisioned, started, silent⟩ := asks_start arrived.peer asked kind
  have whole : before ++ action :: later = before ++ [action] ++ later := by simp
  obtain ⟨worker, boot⟩ : p.worker = p₀.worker ∧ p.boot = p₀.boot := by
    obtain ⟨q, peer, ids⟩ := run_ids (action :: later) peer₀
    rw [← run_append, arrived.peer] at peer
    cases peer
    exact ids
  have comingUp : ComingUp p (run epoch (before ++ [action])).server.ctrl.epoch r := by
    obtain ⟨reg, registered, incarnation⟩ := started.boot
    rw [← worker] at registered
    exact ⟨⟨started.worker.trans worker.symm, incarnation.trans (current reg registered)⟩,
      started.epoch, .inl started.lifecycle⟩
  have parts : served epoch (before ++ action :: later) = served epoch before ++
      system.served (run epoch before) [action] ++
      system.served (run epoch (before ++ [action])) later := by
    rw [whole, served, served_append, served_append, ← run, ← run]
    rfl
  have hears : ∀ e ∈ system.served (run epoch (before ++ [action])) later, Hears p conn e := by
    intro e member
    have member : e ∈ served epoch (before ++ action :: later) := by simp [parts, member]
    exact ⟨(served_waited e member).live, fun m env => writtenBy_of_served arrived.peer member⟩
  obtain ⟨inputs, trace, server⟩ :=
    System.served_eq_trace system (run epoch (before ++ [action])) later
  rw [trace] at hears spared
  obtain ⟨r', found, reaches⟩ := trace_reaches _ inputs hears
    (fun e member unserved => spared e member (by simpa using unserved)) provisioned comingUp
  have unasked : ∀ m ∈ forwardedTo conn (Machine.trace serve
      (run epoch (before ++ [action])).server inputs), m.kind = .warm → m.replica ≠ warm.replica := by
    intro m forwarded
    obtain ⟨e, member, posted⟩ := List.mem_flatMap.mp forwarded
    cases attended : attends conn e with
    | false => exact (spared e member attended).unasked m posted
    | true =>
        have member : e ∈ served epoch (before ++ action :: later) := by
          rw [parts, trace]
          exact List.mem_append_right _ member
        rw [attends_silent (served_waited e member) (served_eq member) attended] at posted
        cases posted
  have start : heardOver conn (served epoch before) <+:
      (forwardedTo conn (served epoch before)).flatMap p.reports := by
    have balanced := (account_run epoch before conn).worker peer₀
    rw [reports_congr worker boot]
    exact (List.prefix_append _ _).trans balanced.part
  have rest := ((account_run epoch _ conn).worker arrived.peer).rest arrived.hears
  rw [arrived.up, arrived.down, parts, trace, reported, List.filter_nil, List.flatMap_nil,
    List.append_nil, List.append_nil] at rest
  obtain ⟨kinds, heard⟩ := heard_since start silent asked kind unasked rest
  rw [heard] at reaches
  have host := (reaches.comingUp comingUp).host
  refine ⟨r', ?_, reaches.up, host⟩
  rw [whole, run_append, server]
  exact found

def asking : List Action :=
  Sample.registering 0 1 1 ++ .join 1 .client :: Sample.commanding 1 Sample.createSet ++
    [.send 1 Sample.provision]

theorem provision_brings_up_warming : ∃ r,
    (run ⟨0, 1⟩ (asking ++ Sample.took 1 :: .write 1 :: Sample.warming)).server.ctrl.replicas[
      (⟨0, 1⟩ : ReplicaId)]? = some r ∧ Up r ∧ r.workerId = ⟨0, 1⟩ ∧ r.bootId = ⟨0, 1⟩ := by
  have boot : ((run ⟨0, 1⟩ asking).server.ctrl.workers[(⟨0, 1⟩ : WorkerId)]?).map (·.bootId) =
      some ⟨0, 1⟩ := by decide +kernel
  have attended : ∀ e ∈ system.served (run ⟨0, 1⟩ (asking ++ [Sample.took 1]))
      (.write 1 :: Sample.warming), attends 0 e = true := by decide +kernel
  exact provision_brings_up ⟨0, 1⟩ asking (Sample.took 1) (.write 1 :: Sample.warming) 0
    ⟨⟨0, 1⟩, ⟨0, 1⟩, .serving⟩
    { kind := .warm, epoch := ⟨0, 1⟩, worker := ⟨0, 1⟩, replica := ⟨0, 1⟩, set := Sample.setId,
      payload := "steps=4" } rfl (by decide +kernel)
    (fun reg found => Option.some.inj ((congrArg (Option.map _) found).symm.trans boot))
    (fun e member unserved => absurd (attended e member) (by simp [unserved]))
    ⟨by decide +kernel, rfl, by decide +kernel, by decide +kernel⟩

end Fleet

end ReplicaFabric
