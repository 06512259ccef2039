import ReplicaFabric.Distributed.Reports

/-!
# Whom a connection speaks for

A report is checked against the ids in the header of its message, not against what its connection
registered as. So a connection speaks for whom its messages name.
-/

namespace ReplicaFabric.Coordinator

variable {c : Coordinator} {env : Surroundings} {m : Message} {conn : ConnId}
  {reg : WorkerRegistration}

def ChangesOnly (worker : WorkerId) (boot : WorkerBootId) (before after : Coordinator) : Prop :=
  ∀ (id : ReplicaId) (r : ReplicaState), before.ctrl.replicas[id]? = some r →
    after.ctrl.replicas[id]? ≠ some r → r.workerId = worker ∧ r.bootId = boot

theorem afterFrame_changesOnly (c : Coordinator) (env : Surroundings) (m : Message) :
    ChangesOnly m.worker m.boot c (c.afterFrame env m) := by
  intro id r found changed
  unfold afterFrame at changed
  cases report : c.reportOf env m with
  | error e => simp [report, found] at changed
  | ok report' =>
      cases report' with
      | none => simp [report, afterReport, found] at changed
      | some op =>
          simp only [report, afterReport] at changed
          have exactly := c.ctrl.report_editsWhen env.fresh (reportOf_target report)
          rcases exactly.cases with refused | ⟨r', found', passes, -, written⟩
          · rw [refused.2] at changed
            exact absurd found changed
          · rw [written, ReplicaSetController.putReplica_get] at changed
            split_ifs at changed with same
            · subst same
              obtain rfl : r' = r := by simpa [found] using found'.symm
              exact reportOf_host report passes
            · exact absurd found changed

theorem header_speaks (c : Coordinator) (env : Surroundings) (conn : ConnId)
    (reg : WorkerRegistration) (m : Message) (running : c.terminated = false)
    (serving : c.phases[conn]? = some (.serving reg)) :
    ChangesOnly m.worker m.boot c (c.step ⟨.frame conn m, env⟩).2 ∧
      (m.worker = reg.workerId → m.boot = reg.bootId →
        ChangesOnly reg.workerId reg.bootId c (c.step ⟨.frame conn m, env⟩).2) := by
  have changes : ChangesOnly m.worker m.boot c (c.step ⟨.frame conn m, env⟩).2 := by
    rw [step_serving running serving]
    exact c.afterFrame_changesOnly env m
  refine ⟨changes, fun sameWorker sameBoot => ?_⟩
  rw [← sameWorker, ← sameBoot]
  exact changes

/-- Worker 1 over connection 0 hosts a replica, and worker 2 has registered over connection 2. -/
def twoWorkers : Coordinator :=
  Machine.run step Sample.coordinator
    (Sample.connect 0 ⟨0, 1⟩ ++ Sample.provisionOver 1 ++
      [ .frame 2 {
          kind := .register
          worker := ⟨0, 2⟩
          boot := ⟨0, 2⟩
          payload := Sample.idPayload ⟨0, 1⟩ ["node_hex"] },
        .attach 2 ].map Sample.input)

def impersonating : Message :=
  { kind := .warmDone, worker := ⟨0, 1⟩, boot := ⟨0, 1⟩, replica := ⟨0, 1⟩ }

theorem twoWorkers_serving : ∃ reg, twoWorkers.phases[(2 : ConnId)]? = some (.serving reg) ∧
    (reg.workerId, reg.bootId) = (⟨0, 2⟩, ⟨0, 2⟩) :=
  Phase.serving_of_servingFor (by decide +kernel)

theorem header_speaks_twoWorkers :
    ChangesOnly ⟨0, 1⟩ ⟨0, 1⟩ twoWorkers
      (twoWorkers.step ⟨.frame 2 impersonating, Sample.surroundings⟩).2 := by
  obtain ⟨reg, found, -⟩ := twoWorkers_serving
  exact (header_speaks twoWorkers Sample.surroundings 2 reg impersonating (by decide +kernel)
    found).1

theorem twoWorkers_impersonated :
    ¬∀ (c : Coordinator) (env : Surroundings) (conn : ConnId) (reg : WorkerRegistration)
      (m : Message), c.terminated = false → c.phases[conn]? = some (.serving reg) →
        ChangesOnly reg.workerId reg.bootId c (c.step ⟨.frame conn m, env⟩).2 := by
  intro own
  obtain ⟨reg, found, host⟩ := twoWorkers_serving
  have changes := own twoWorkers Sample.surroundings 2 reg impersonating (by decide +kernel) found
  have starting : twoWorkers.ctrl.replicas[(⟨0, 1⟩ : ReplicaId)]?.map
      (fun r => (r.workerId, r.lifecycle)) = some (⟨0, 1⟩, .starting) := by decide +kernel
  have warming : (twoWorkers.step ⟨.frame 2 impersonating,
      Sample.surroundings⟩).2.ctrl.replicas[(⟨0, 1⟩ : ReplicaId)]?.map (·.lifecycle) =
        some .warming := by decide +kernel
  obtain ⟨r, before, hosted⟩ := Option.map_eq_some_iff.mp starting
  obtain ⟨worker, lifecycle⟩ := Prod.mk.inj hosted
  have changed : (twoWorkers.step ⟨.frame 2 impersonating,
      Sample.surroundings⟩).2.ctrl.replicas[(⟨0, 1⟩ : ReplicaId)]? ≠ some r := by
    intro same
    rw [same, Option.map_some, lifecycle] at warming
    cases warming
  have registered := (changes ⟨0, 1⟩ r before changed).1
  rw [worker, (Prod.mk.inj host).1] at registered
  cases registered

end ReplicaFabric.Coordinator
