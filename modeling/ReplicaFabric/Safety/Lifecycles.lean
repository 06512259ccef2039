import ReplicaFabric.Safety.Representation

/-!
# Guarded lifecycles

Some operations write a lifecycle without consulting the table of transitions. In the states that
can be reached, every call still leaves a lifecycle as it was or takes it along one edge.
-/

namespace ReplicaFabric

/-- Unchanged, or along one edge of the table. -/
def ReplicaLifecycle.Moves (source target : ReplicaLifecycle) : Prop :=
  target = source ∨ source.canTransition target = true

def ReplicaSetLifecycle.Moves (source target : ReplicaSetLifecycle) : Prop :=
  target = source ∨ source.canTransition target = true

/-- The lifecycles with no edge, or with the one edge to `RETIRED`. -/
def ReplicaLifecycle.Ended (lifecycle : ReplicaLifecycle) : Prop :=
  lifecycle = .failed ∨ lifecycle = .retired

def ReplicaSetLifecycle.Ended (lifecycle : ReplicaSetLifecycle) : Prop :=
  lifecycle = .failed ∨ lifecycle = .retired

theorem ReplicaLifecycle.Ended.moves {start now next : ReplicaLifecycle} (ended : start.Ended)
    (here : now = start ∨ now = .retired) (moves : now.Moves next) :
    next = start ∨ next = .retired := by
  rcases moves with rfl | edge
  · exact here
  · rcases here with rfl | rfl
    · rcases ended with rfl | rfl
      · exact Or.inr (by simpa [canTransition] using edge)
      · cases edge
    · cases edge

theorem ReplicaSetLifecycle.Ended.moves {start now next : ReplicaSetLifecycle}
    (ended : start.Ended) (here : now = start ∨ now = .retired) (moves : now.Moves next) :
    next = start ∨ next = .retired := by
  rcases moves with rfl | edge
  · exact here
  · rcases here with rfl | rfl
    · rcases ended with rfl | rfl
      · exact Or.inr (by simpa [canTransition] using edge)
      · cases edge
    · cases edge

theorem AuthorityConsistent.failed_edge {r : ReplicaState} (consistent : AuthorityConsistent r)
    (had : r.hadAuthority = true) : r.lifecycle.canTransition .failed = true := by
  simp only [ReplicaState.hadAuthority, Bool.or_eq_true, decide_eq_true_eq] at had
  rcases had with ((flagged | state) | state) | state
  · rw [consistent.serving flagged]
    rfl
  · rw [state]
    rfl
  · rw [state]
    rfl
  · rw [state]
    rfl

namespace ReplicaSetController

variable {ctrl next : ReplicaSetController} {fresh : FreshIds} {op : Operation} {accepted : Bool}

theorem failReplica_edge {id : ReplicaId} {worker : WorkerId} {boot : WorkerBootId} {reason : Str}
    {mono : MonotonicNs} {r : ReplicaState} (found : ctrl.replicas[id]? = some r)
    (accepted : (ctrl.failReplica id worker boot reason mono).1.isOk = true) :
    r.lifecycle.canTransition .failed = true := by
  rcases ctrl.failReplica_cases id worker boot reason mono with ⟨refused, -⟩ |
    ⟨r', found', -, ⟨-, refused, -⟩ | ⟨edge, -, -⟩⟩
  · exact absurd accepted (by simp [refused])
  · exact absurd accepted (by simp [refused])
  · obtain rfl : r' = r := by simpa [found] using found'.symm
    exact edge

theorem ReplicaStep.moves {id : ReplicaId} {r r' : ReplicaState}
    (change : ReplicaStep ctrl fresh next id op accepted (some r) (some r'))
    (carried : op.provisions id = false) (consistent : AuthorityConsistent r)
    (fails : ∀ worker boot reason mono, op = .failReplica id worker boot reason mono →
      accepted = true → r.lifecycle.canTransition .failed = true) :
    r.lifecycle.Moves r'.lifecycle := by
  cases change with
  | provisioned gate => simp [Operation.provisions] at carried
  | kept untouched => exact Or.inl rfl
  | @registered wr =>
      split
      · unfold ReplicaState.afterRestart
        split
        · next serving => exact Or.inr (by rw [serving.2]; rfl)
        · exact Or.inl rfl
      · exact Or.inl rfl
  | @unregistered worker =>
      unfold ReplicaState.afterDisconnect
      split
      · next hosted => exact Or.inr (consistent.failed_edge hosted.2)
      · exact Or.inl rfl
  | allocated edge => exact Or.inr edge
  | started edge => exact Or.inr edge
  | warmed host accepts => exact accepts.symm.imp_left Eq.symm
  | healthReported host alive => exact Or.inl ReplicaState.healthReported_lifecycle
  | @readinessReported rr worker boot _ host alive =>
      unfold ReplicaState.readinessReported
      dsimp only
      split
      · next ready => exact Or.inr (Bool.and_eq_true_iff.mp ready).2
      · exact Or.inl rfl
  | promoted gate grant =>
      rcases promoted_ok.mp grant with ⟨-, ready, rfl⟩ | ⟨-, rfl⟩
      · have serving : (grantedPrimary r fresh).lifecycle = .serving := by
          unfold grantedPrimary
          split <;> rfl
        rw [serving]
        simp only [ReplicaState.readyToPromote, Bool.or_eq_true, decide_eq_true_eq] at ready
        exact ready.symm.imp Eq.symm fun state => by rw [state]; rfl
      · exact Or.inl rfl
  | drained host edge =>
      rcases edge with state | state <;> exact Or.inr (by rw [state]; rfl)
  | quiesced edge => exact Or.inr (by rw [edge]; rfl)
  | failed host => exact Or.inr (fails _ _ _ _ rfl rfl)
  | failRefused host edge => exact Or.inl rfl
  | retired edge => exact Or.inr edge
  | failedOver inSet =>
      unfold ReplicaState.failedOver
      dsimp only
      split
      · next alive => exact Or.inr alive.2
      · exact Or.inl rfl
  | chosen selected recorded =>
      rcases (isCandidate_iff.mp selected.candidate).2.2.1 with state | state
      · exact Or.inr (by rw [state]; rfl)
      · exact Or.inl state.symm

theorem SetsStep.moves {sets : Table ReplicaSetId ReplicaSetState}
    (change : SetsStep ctrl op accepted sets) {id : ReplicaSetId} {s : ReplicaSetState}
    (found : ctrl.sets[id]? = some s) :
    ∃ s', sets[id]? = some s' ∧ s.lifecycle.Moves s'.lifecycle := by
  cases change with
  | kept => exact ⟨s, found, Or.inl rfl⟩
  | @created set epoch isNew counts =>
      have other : set.id ≠ id := by
        rintro rfl
        rw [isNew] at found
        cases found
      exact ⟨s, (Table.get_insert_ne _ _ other).trans found, Or.inl rfl⟩
  | @moved _ setId s₀ lifecycle found₀ addressed edge =>
      rw [Table.get_insert]
      split_ifs with same
      · subst same
        obtain rfl : s₀ = s := by simpa [found] using found₀.symm
        exact ⟨_, rfl, Or.inr edge⟩
      · exact ⟨s, found, Or.inl rfl⟩

structure Guarded (ctrl : ReplicaSetController) : Prop where
  replicas : ∀ (call : Call) (id : ReplicaId) (r : ReplicaState), ctrl.replicas[id]? = some r →
    call.op.provisions id = false →
      ∃ r', (ctrl.step call).2.replicas[id]? = some r' ∧ r.lifecycle.Moves r'.lifecycle
  sets : ∀ (call : Call) (id : ReplicaSetId) (s : ReplicaSetState), ctrl.sets[id]? = some s →
    ∃ s', (ctrl.step call).2.sets[id]? = some s' ∧ s.lifecycle.Moves s'.lifecycle

structure KeepsEnded (ctrl : ReplicaSetController) (later : List Call) : Prop where
  replicas : ∀ (id : ReplicaId) (r : ReplicaState), ctrl.replicas[id]? = some r →
    r.lifecycle.Ended → (∀ call ∈ later, call.op.provisions id = false) →
      Machine.Throughout step (fun next => ∃ r', next.replicas[id]? = some r' ∧
        (r'.lifecycle = r.lifecycle ∨ r'.lifecycle = .retired)) ctrl later
  sets : ∀ (id : ReplicaSetId) (s : ReplicaSetState), ctrl.sets[id]? = some s →
    s.lifecycle.Ended →
      Machine.Throughout step (fun next => ∃ s', next.sets[id]? = some s' ∧
        (s'.lifecycle = s.lifecycle ∨ s'.lifecycle = .retired)) ctrl later

theorem Consistent.guarded (consistent : ctrl.Consistent) : ctrl.Guarded where
  replicas call id r found carried := by
    have change := ctrl.replicaStep call.op call.fresh id
    rw [found] at change
    obtain ⟨r', post⟩ := change.exists_some
    rw [post] at change
    refine ⟨r', post, change.moves carried (consistent id r found) ?_⟩
    intro worker boot reason mono fails accepted
    rw [fails] at accepted
    exact failReplica_edge found accepted
  sets call id s found := (ctrl.tablesStep call.op call.fresh).sets.moves found

theorem Consistent.throughout (consistent : ctrl.Consistent) (calls : List Call) :
    Machine.Throughout ReplicaSetController.step Consistent ctrl calls :=
  Machine.throughout_of_step calls (fun _ call known => known.step call) consistent

theorem Consistent.keepsEnded (consistent : ctrl.Consistent) (later : List Call) :
    ctrl.KeepsEnded later where
  replicas id r found ended carried := by
    refine Machine.throughout_of_invariant (consistent.throughout later) ?_
      ⟨r, found, Or.inl rfl⟩ (Machine.admissible_of_forall carried)
    rintro now call known ⟨r₀, found₀, here⟩ carried
    obtain ⟨r', post, moves⟩ := known.guarded.replicas call id r₀ found₀ carried
    exact ⟨r', post, ended.moves here moves⟩
  sets id s found ended := by
    refine Machine.throughout_of_step later ?_ ⟨s, found, Or.inl rfl⟩
    rintro now call ⟨s₀, found₀, here⟩
    obtain ⟨s', post, moves⟩ := (now.tablesStep call.op call.fresh).sets.moves found₀
    exact ⟨s', post, ended.moves here moves⟩

theorem lifecycles_guarded (cmds : List Command) :
    Machine.Throughout command (fun ctrl => ctrl.Guarded ∧ ∀ later, ctrl.KeepsEnded later) empty
      cmds := by
  have always : Machine.Throughout command Consistent empty cmds :=
    Machine.throughout_of_step cmds (fun _ cmd consistent => consistent.command cmd)
      consistent_empty
  exact always.mono fun ctrl consistent => ⟨consistent.guarded, consistent.keepsEnded⟩

end ReplicaSetController

end ReplicaFabric
