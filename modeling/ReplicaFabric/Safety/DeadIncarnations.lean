import ReplicaFabric.Controller.Evidence
import ReplicaFabric.Safety.Lifecycles
import ReplicaFabric.Safety.Stale

/-!
# Dead incarnations

The table has edges from `DRAINING` and `QUIESCED` back to `READY`, but no operation takes them: an
incarnation that is drained or dead stays out of service in every later state.
-/

namespace ReplicaFabric.ReplicaSetController

variable {ctrl : ReplicaSetController}

def drawn (e : Machine.Event ReplicaSetController Call OpResult) : Option ReplicaGeneration :=
  match e.input.op with
  | .provisionReplica .. => if e.output.isOk then some e.input.fresh.generation else none
  | _ => none

def drawnGenerations (start : ReplicaSetController) (calls : List Call) :
    List ReplicaGeneration :=
  (Machine.trace step start calls).filterMap drawn

theorem entry_origin {call : Call} {id : ReplicaId} {r' : ReplicaState}
    (found : (ctrl.step call).2.replicas[id]? = some r') :
    (drawn (Machine.event step ctrl call) = some r'.generation ∧ call.op.provisions id = true) ∨
    ∃ r, ctrl.replicas[id]? = some r ∧ r'.generation = r.generation ∧
      (r.lifecycle.Terminal → r'.lifecycle.Terminal) := by
  obtain ⟨op, fresh⟩ := call
  rcases entry_cases found with ⟨r, before, carried, change⟩ |
    ⟨accepted, provisions, setId, worker, compat, device, capacity, mono, wall, set, reg, -, rfl⟩
  · exact Or.inr ⟨r, before, congrArg Incarnation.generation (change.incarnation carried),
      change.terminal carried⟩
  · refine Or.inl ⟨?_, provisions⟩
    cases op with
    | provisionReplica => simp [drawn, Machine.event, step, accepted, ReplicaState.provisioned]
    | _ => cases provisions

structure GenerationsDrawn (past : List (Machine.Event ReplicaSetController Call OpResult))
    (ctrl : ReplicaSetController) : Prop where
  listed : ∀ (id : ReplicaId) (r : ReplicaState), ctrl.replicas[id]? = some r →
    r.generation ∈ past.filterMap drawn
  unique : ∀ (x y : ReplicaId) (r s : ReplicaState), ctrl.replicas[x]? = some r →
    ctrl.replicas[y]? = some s → r.generation = s.generation → x = y

theorem provisions_unique {op : Operation} {x y : ReplicaId} (first : op.provisions x = true)
    (second : op.provisions y = true) : x = y := by
  cases op with
  | provisionReplica =>
      simp only [Operation.provisions, decide_eq_true_eq] at first second
      rw [← first, second]
  | _ => cases first

theorem generationsDrawn_step {past : List (Machine.Event ReplicaSetController Call OpResult)} {call : Call}
    (known : GenerationsDrawn past ctrl)
    (distinct : ((past ++ [Machine.event step ctrl call]).filterMap drawn).Nodup) :
    GenerationsDrawn (past ++ [Machine.event step ctrl call]) (ctrl.step call).2 := by
  rw [List.filterMap_append] at distinct
  -- What is drawn now is the generation of no incarnation that is carried over.
  have isNew (r' r : ReplicaState) (id : ReplicaId) (found : ctrl.replicas[id]? = some r)
      (now : drawn (Machine.event step ctrl call) = some r'.generation) : r'.generation ≠ r.generation := by
    intro same
    refine List.disjoint_of_nodup_append distinct (known.listed id r found) ?_
    simp [now, same]
  constructor
  · intro id r' found
    rw [List.filterMap_append, List.mem_append]
    rcases entry_origin found with ⟨now, -⟩ | ⟨r, before, same, -⟩
    · exact Or.inr (by simp [now])
    · exact Or.inl (same ▸ known.listed id r before)
  · intro x y r' s' foundX foundY same
    rcases entry_origin foundX with ⟨nowX, provisionsX⟩ | ⟨r, beforeX, sameX, -⟩ <;>
      rcases entry_origin foundY with ⟨nowY, provisionsY⟩ | ⟨s, beforeY, sameY, -⟩
    · exact provisions_unique provisionsX provisionsY
    · exact absurd (same.trans sameY) (isNew r' s y beforeY nowX)
    · exact absurd (same.symm.trans sameX) (isNew s' r x beforeX nowY)
    · exact known.unique x y r s beforeX beforeY (by rw [← sameX, same, sameY])

theorem generationsDrawn_run (calls : List Call) (distinct : (drawnGenerations empty calls).Nodup) :
    GenerationsDrawn (Machine.trace step empty calls) (Machine.run step empty calls) := by
  refine Machine.trace_induction (P := fun past ctrl => (past.filterMap drawn).Nodup →
    GenerationsDrawn past ctrl) (fun _ => ⟨?_, ?_⟩) ?_ calls distinct
  · intro id r found
    simp [empty] at found
  · intro x y r s found
    simp [empty] at found
  · intro past now call known distinct
    refine generationsDrawn_step (known ?_) distinct
    rw [List.filterMap_append] at distinct
    exact distinct.of_append_left

def Out (generation : ReplicaGeneration) (ctrl : ReplicaSetController) : Prop :=
  ∀ (id : ReplicaId) (r : ReplicaState), ctrl.replicas[id]? = some r →
    r.generation = generation →
      r.lifecycle.Terminal ∧ r.servingEligible = false ∧ ¬ctrl.Servable id

def Dead (generation : ReplicaGeneration) (ctrl : ReplicaSetController) : Prop :=
  ∀ (id : ReplicaId) (r : ReplicaState), ctrl.replicas[id]? = some r →
    r.generation = generation → r.lifecycle.Terminal

theorem GenerationsDrawn.dead {past : List (Machine.Event ReplicaSetController Call OpResult)}
    {id : ReplicaId} {r : ReplicaState} (known : GenerationsDrawn past ctrl)
    (found : ctrl.replicas[id]? = some r) (ended : r.lifecycle.Terminal) :
    Dead r.generation ctrl := by
  intro x s foundS same
  obtain rfl := known.unique x id s r foundS found same
  obtain rfl : s = r := by simpa [found] using foundS.symm
  exact ended

theorem Dead.step {generation : ReplicaGeneration} {call : Call} (dead : Dead generation ctrl)
    (other : drawn (Machine.event ReplicaSetController.step ctrl call) ≠ some generation) :
    Dead generation (ctrl.step call).2 := by
  intro x s' post same
  rcases entry_origin post with ⟨now, -⟩ | ⟨s, before, carried, stays⟩
  · exact absurd (same ▸ now) other
  · exact stays (dead x s before (carried ▸ same))

theorem Dead.out {generation : ReplicaGeneration} (dead : Dead generation ctrl)
    (consistent : ctrl.Consistent) : Out generation ctrl := by
  intro x s found same
  have terminal := dead x s found same
  refine ⟨terminal, ?_, Stale.not_servable ⟨s, found, Or.inl terminal⟩⟩
  refine ((consistent x s found).not_serving ?_).1
  intro serving
  rw [serving] at terminal
  exact terminal

theorem dead_incarnation_stays_out (earlier later : List Call) (id : ReplicaId) (r : ReplicaState)
    (distinct : (drawnGenerations empty (earlier ++ later)).Nodup)
    (found : (Machine.run step empty earlier).replicas[id]? = some r)
    (ended : r.lifecycle.Terminal) :
    Machine.Throughout step (Out r.generation) (Machine.run step empty earlier) later := by
  have split : drawnGenerations empty (earlier ++ later) = drawnGenerations empty earlier ++
      drawnGenerations (Machine.run step empty earlier) later := by
    rw [drawnGenerations, Machine.trace_append, List.filterMap_append]
    rfl
  rw [split] at distinct
  have known := generationsDrawn_run earlier distinct.of_append_left
  -- No later provision draws the generation again.
  have spent : Machine.Admissible step
      (fun ctrl call => drawn (Machine.event step ctrl call) ≠ some r.generation)
      (Machine.run step empty earlier) later := by
    refine Machine.admissible_of_trace (C := fun e => drawn e ≠ some r.generation) ?_
    intro e happened again
    exact List.disjoint_of_nodup_append distinct (known.listed id r found)
      (List.mem_filterMap.mpr ⟨e, happened, again⟩)
  have dead : Machine.Throughout step (Dead r.generation) (Machine.run step empty earlier) later :=
    Machine.throughout_of_admissible (fun _ _ dead => dead.step) (known.dead found ended) spent
  have consistent : Machine.Throughout step Consistent (Machine.run step empty earlier) later :=
    (consistent_empty.throughout earlier).last.throughout later
  exact (dead.and consistent).mono fun _ both => both.1.out both.2

example : ReplicaLifecycle.draining.canTransition .ready = true ∧
    ReplicaLifecycle.quiesced.canTransition .ready = true := by decide

def drainedServing : List Call :=
  Sample.serving ++ [⟨.drainReplica ⟨0, 1⟩ ⟨0, 1⟩ ⟨0, 1⟩ 0, Sample.freshAt 0⟩]

theorem dead_incarnation_stays_out_drained :
    ∃ r, (Machine.run step empty drainedServing).replicas[(⟨0, 1⟩ : ReplicaId)]? = some r ∧
      Machine.Throughout step (Out r.generation) (Machine.run step empty drainedServing)
        [⟨.reportReadiness ⟨0, 1⟩ Sample.allReady ⟨0, 1⟩ ⟨0, 1⟩, Sample.freshAt 0⟩,
          Sample.promote ⟨0, 1⟩] := by
  have draining : (Machine.run step empty drainedServing).replicas[(⟨0, 1⟩ : ReplicaId)]?.map
      (·.lifecycle) = some .draining := by decide
  obtain ⟨r, found, lifecycle⟩ := Option.map_eq_some_iff.mp draining
  refine ⟨r, found, dead_incarnation_stays_out _ _ _ r (by decide) found ?_⟩
  rw [lifecycle]
  trivial

end ReplicaFabric.ReplicaSetController
