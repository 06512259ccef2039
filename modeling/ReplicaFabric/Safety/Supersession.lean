import ReplicaFabric.Safety.Stale

/-!
# Superseded incarnations

When a worker registers under a new boot id, the incarnations it hosted under another one are
superseded. They stay out of service until a registration brings their boot id back.
-/

namespace ReplicaFabric.ReplicaSetController

variable {ctrl : ReplicaSetController}

/-- The registration supersedes the incarnation under `id`: the same worker hosts it, and it was
provisioned while the worker was registered under another boot id. The worker may have
disconnected or restarted more than once in between. -/
def supersedes (ctrl : ReplicaSetController) (wr : WorkerRegistration) (id : ReplicaId) : Bool :=
  match ctrl.replicas[id]? with
  | none => false
  | some r => r.workerId = wr.workerId && r.bootId ≠ wr.bootId

def reprovisions (ctrl : ReplicaSetController) (id : ReplicaId) (call : Call) : Bool :=
  call.op.provisions id && (ctrl.step call).1.isOk

theorem stale_of_supersedes {wr : WorkerRegistration} {fresh : FreshIds} {id : ReplicaId}
    (superseded : ctrl.supersedes wr id = true) :
    (ctrl.step ⟨.registerWorker wr, fresh⟩).2.Stale id := by
  unfold supersedes at superseded
  cases found : ctrl.replicas[id]? with
  | none => simp [found] at superseded
  | some r =>
      simp only [found, Bool.and_eq_true, decide_eq_true_eq] at superseded
      obtain ⟨sameWorker, otherBoot⟩ := superseded
      have change := ctrl.replicaStep (.registerWorker wr) fresh id
      rw [found] at change
      obtain ⟨r', post⟩ := change.exists_some
      rw [post] at change
      rw [step, stale_iff post (change.incarnation fun _ => rfl), workerBoot_step]
      simp only [sameWorker, if_true]
      exact Or.inr otherBoot

theorem superseded_stale_iff {wr : WorkerRegistration} {fresh : FreshIds} {id : ReplicaId}
    (superseded : ctrl.supersedes wr id = true) (later : List Call) :
    Machine.Throughout step (·.Stale id) (ctrl.step ⟨.registerWorker wr, fresh⟩).2 later ↔
      Machine.Admissible step (fun ctrl call => ctrl.leavesStale id call.op = true)
        (ctrl.step ⟨.registerWorker wr, fresh⟩).2 later :=
  Machine.throughout_iff_of_step later (fun _ call stale => stale_step stale call)
    (stale_of_supersedes superseded)

theorem superseded_never_serves (earlier later : List Call) (wr : WorkerRegistration)
    (fresh : FreshIds) (id : ReplicaId)
    (superseded : (Machine.run step empty earlier).supersedes wr id = true)
    (leaves : Machine.Admissible step (fun ctrl call => ctrl.leavesStale id call.op = true)
      ((Machine.run step empty earlier).step ⟨.registerWorker wr, fresh⟩).2 later) :
    Machine.Throughout step (fun ctrl => ¬ctrl.Servable id)
      ((Machine.run step empty earlier).step ⟨.registerWorker wr, fresh⟩).2 later :=
  ((superseded_stale_iff superseded later).mpr leaves).mono fun _ => Stale.not_servable

theorem superseded_never_serves_ready :
    Machine.Throughout step (fun ctrl => ¬ctrl.Servable ⟨0, 1⟩)
      ((Machine.run step empty (Sample.setUp ++ Sample.bringUp ⟨0, 1⟩)).step
        (Sample.register 1 2)).2
      [Sample.promote ⟨0, 1⟩, Sample.register 1 3, Sample.promote ⟨0, 1⟩, Sample.register 1 2] :=
  superseded_never_serves _ _ (Sample.worker 1 2) (Sample.freshAt 0) _ (by decide) (by decide)

def NeverServesAgain : Prop :=
  ∀ (earlier later : List Call) (wr : WorkerRegistration) (fresh : FreshIds) (id : ReplicaId)
    (r : ReplicaState) (reg : WorkerRegistration),
    (Machine.run step empty earlier).workers[wr.workerId]? = some reg →
    reg.bootId ≠ wr.bootId →
    (Machine.run step empty earlier).replicas[id]? = some r →
    r.workerId = wr.workerId → r.bootId = reg.bootId →
    Machine.Admissible step (fun ctrl call => ctrl.reprovisions id call = false)
      ((Machine.run step empty earlier).step ⟨.registerWorker wr, fresh⟩).2 later →
    Machine.Throughout step (fun ctrl => ¬ctrl.Servable id)
      ((Machine.run step empty earlier).step ⟨.registerWorker wr, fresh⟩).2 later

/-- A `READY` replica is superseded, then its boot id is registered once more: the old
incarnation is promoted and serves. -/
theorem superseded_serves_again : ¬NeverServesAgain := by
  intro never
  let earlier := Sample.setUp ++ Sample.bringUp ⟨0, 1⟩
  have hosted : ((Machine.run step empty earlier).replicas[(⟨0, 1⟩ : ReplicaId)]?).map
      (fun r => (r.workerId, r.bootId)) = some (⟨0, 1⟩, ⟨0, 1⟩) := by decide
  have registered : (Machine.run step empty earlier).workers[(⟨0, 1⟩ : WorkerId)]? =
      some (Sample.worker 1 1) := by decide
  obtain ⟨r, found, host⟩ := Option.map_eq_some_iff.mp hosted
  obtain ⟨sameWorker, sameBoot⟩ := Prod.mk.inj host
  have last := (never earlier [Sample.register 1 1, Sample.promote ⟨0, 1⟩] (Sample.worker 1 2)
    (Sample.freshAt 0) ⟨0, 1⟩ r (Sample.worker 1 1) registered (by decide) found sameWorker sameBoot
    (by decide)).last
  exact last (by decide)

end ReplicaFabric.ReplicaSetController
