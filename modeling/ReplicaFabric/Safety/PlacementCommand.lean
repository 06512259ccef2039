import ReplicaFabric.Cli.Command
import ReplicaFabric.Controller.Operation
import ReplicaFabric.Safety.Placement

namespace ReplicaFabric

open PlacementEngine ReplicaSetController

theorem PlacementEngine.place_note {R : Type} [LinearOrder R] [Add R] [Mul R] [Div R] [NatCast R]
    [IntCast R] [OfScientific R] {set : ReplicaSetState} {hosts : List PlacementHost}
    {existing : List PlacedReplica}
    (placed : (place set hosts existing : PlacementDecision R).placed = true) :
    (place set hosts existing : PlacementDecision R).note =
      "chosen host " ++ (place set hosts existing : PlacementDecision R).chosen.workerId.str := by
  unfold place at placed ⊢
  dsimp only at placed ⊢
  split at placed
  · cases placed
  · rfl

namespace Cli

variable {ctrl : ReplicaSetController}

theorem mem_placementHosts {h : PlacementHost} :
    (h ∈ ctrl.workers.toList.map fun e => placementHost e.1 e.2) ↔
      ∃ w reg, ctrl.workers[w]? = some reg ∧ placementHost w reg = h := by
  simp only [List.mem_map, Prod.exists, Table.mem_entries]

structure Recommended (scores : Scores) (ctrl : ReplicaSetController) (set : ReplicaSetState)
    (w : WorkerId) (reg : WorkerRegistration) : Prop where
  registered : ctrl.workers[w]? = some reg
  eligible : Eligible set (placementHost w reg)
  best : ∀ w' reg', ctrl.workers[w']? = some reg' → Eligible set (placementHost w' reg') →
    (score set [] (placementHost w' reg') : scores.R) ≤ score set [] (placementHost w reg)

theorem placement_explained {scores : Scores} {json : Bool} {args : List Str} {done : Done}
    {id : ReplicaSetId} {set : ReplicaSetState} (named : pid args 1 = .ok id)
    (known : ctrl.findSet id = some set)
    (ok : explainPlacement scores json args ctrl = .ok done) :
    (done.code = 0 ↔ ∃ w reg, ctrl.workers[w]? = some reg ∧ Eligible set (placementHost w reg)) ∧
      (done.code = 0 → ∃ w reg rest, Recommended scores ctrl set w reg ∧
        done.text = opening json ++ out json "placed" "1" ++
          out json "note" ("chosen host " ++ w.str) ++ out json "chosen_worker" w.str ++
          out json "chosen_host" ("host-" ++ w.str.take 8) ++ rest) := by
  obtain ⟨placed, best⟩ := place_spec (R := scores.R) set
    (ctrl.workers.toList.map fun e => placementHost e.1 e.2) []
  have passes : (∃ h ∈ ctrl.workers.toList.map fun e => placementHost e.1 e.2, Eligible set h) ↔
      ∃ w reg, ctrl.workers[w]? = some reg ∧ Eligible set (placementHost w reg) := by
    simp only [mem_placementHosts]
    constructor
    · rintro ⟨h, ⟨w, reg, found, rfl⟩, eligible⟩
      exact ⟨w, reg, found, eligible⟩
    · rintro ⟨w, reg, found, eligible⟩
      exact ⟨_, ⟨w, reg, found, rfl⟩, eligible⟩
  rw [passes] at placed
  unfold explainPlacement at ok
  rw [named] at ok
  simp only [Bind.bind, Except.bind, known] at ok
  cases chosen : (place set (ctrl.workers.toList.map fun e => placementHost e.1 e.2) [] :
      PlacementDecision scores.R).placed with
  | false =>
      rw [chosen] at ok placed
      cases ok
      refine ⟨⟨fun ended => ?_, fun some => ?_⟩, fun ended => ?_⟩
      · cases ended
      · cases placed.mpr some
      · cases ended
  | true =>
      obtain ⟨member, eligible, least⟩ := best chosen
      obtain ⟨w, reg, found, same⟩ := mem_placementHosts.mp member
      have note := place_note chosen
      rw [chosen] at ok placed
      rw [← same] at note eligible least
      cases ok
      have recommended : Recommended scores ctrl set w reg := by
        refine ⟨found, eligible, fun w' reg' found' passes' => ?_⟩
        rcases least _ (mem_placementHosts.mpr ⟨w', reg', found', rfl⟩) passes' with less | tie
        · exact less.le
        · exact tie.1.le
      refine ⟨⟨fun _ => placed.mp rfl, fun _ => rfl⟩, fun _ => ?_⟩
      exact ⟨w, reg, _, recommended, by simp only [note, ← same]; rfl⟩

def Sample.registered : ReplicaSetController := Machine.run step .empty Sample.setUp

def Sample.explain : List Str := ["explain-placement", "00000000000000000000000000000001"]

theorem placement_explained_registered : ∃ w reg rest,
    Recommended .exact Sample.registered Sample.set w reg ∧
      (explainPlacement .exact false Sample.explain Sample.registered).toOption.map
        Done.text = some (out false "placed" "1" ++ out false "note" ("chosen host " ++ w.str) ++
          out false "chosen_worker" w.str ++ out false "chosen_host" ("host-" ++ w.str.take 8) ++
          rest) := by
  have known : Sample.registered.findSet ⟨0, 1⟩ = some Sample.set := rfl
  have code : (explainPlacement .exact false Sample.explain Sample.registered).toOption.map
      Done.code = some 0 := by decide +kernel
  cases ok : explainPlacement .exact false Sample.explain Sample.registered with
  | error abort =>
      rw [ok] at code
      cases code
  | ok done =>
      rw [ok] at code
      obtain ⟨w, reg, rest, recommended, text⟩ :=
        (placement_explained rfl known ok).2 (Option.some.inj code)
      exact ⟨w, reg, rest, recommended, congrArg some text⟩

end Cli

end ReplicaFabric
