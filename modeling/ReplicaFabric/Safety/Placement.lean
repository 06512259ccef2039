import Mathlib.Algebra.Order.Ring.Unbundled.Rat
import ReplicaFabric.Core.IdentityText
import ReplicaFabric.Placement.Engine

/-!
# What placement chooses

Of the hosts that pass the hard constraints the engine chooses the one with the largest total, and
among those the one with the smallest key. Neither the order of the hosts nor that of the replicas
that are there already matters.
-/

namespace ReplicaFabric

theorem PlacementHost.key_injective {h h' : PlacementHost} (same : h.key = h'.key) :
    h.workerId = h'.workerId ∧ h.device.deviceId = h'.device.deviceId := by
  rw [key, key, List.append_assoc, List.append_assoc] at same
  obtain ⟨worker, device⟩ := List.append_inj same (by simp)
  exact ⟨Id.str_injective worker, List.append_cancel_left device⟩

namespace PlacementEngine

variable {set : ReplicaSetState} {hosts : List PlacementHost} {existing : List PlacedReplica}

structure Eligible (set : ReplicaSetState) (host : PlacementHost) : Prop where
  backend : hasBackend host set.backend = true
  compute : host.device.compute.below set.minCompute = false
  memory : ¬host.inventory.freeMemoryBytes < set.memoryRequirementBytes
  accelerators : ¬host.inventory.acceleratorCount < set.acceleratorRequirement.toInt32

theorem hardReject_eq_nil {host : PlacementHost} : hardReject set host = [] ↔ Eligible set host := by
  unfold hardReject
  constructor
  · intro passes
    split_ifs at passes with backend compute memory accelerators
    · exact absurd (List.append_eq_nil_iff.mp passes).1 (by decide)
    · exact absurd passes (by decide)
    · exact absurd passes (by decide)
    · exact absurd passes (by decide)
    · exact ⟨by simpa using backend, by simpa using compute, memory, accelerators⟩
  · rintro ⟨backend, compute, memory, accelerators⟩
    rw [backend, compute, if_neg (by decide), if_neg (by decide), if_neg memory,
      if_neg accelerators]

theorem occupied_perm {existing' : List PlacedReplica} (perm : existing'.Perm existing) :
    occupied existing' = occupied existing := by
  funext h domain
  exact perm.any_eq

section scores

variable {R : Type} [LinearOrder R] [Add R] [Mul R] [Div R] [NatCast R] [IntCast R]
  [OfScientific R]

def score (set : ReplicaSetState) (existing : List PlacedReplica) (host : PlacementHost) : R :=
  total (factors set existing host)

theorem candidate_perm {existing' : List PlacedReplica} (perm : existing'.Perm existing) :
    (candidate set existing' : PlacementHost → PlacementCandidate R) = candidate set existing := by
  funext host
  simp only [candidate, factors, occupied_perm perm]

variable (set existing)

theorem candidate_host (host : PlacementHost) :
    (candidate set existing host : PlacementCandidate R).host = host := by
  unfold candidate
  dsimp only
  split <;> rfl

theorem candidate_eligible (host : PlacementHost) :
    (candidate set existing host : PlacementCandidate R).eligible = true ↔ Eligible set host := by
  rw [← hardReject_eq_nil]
  unfold candidate
  dsimp only
  split_ifs with rejected
  · simpa using rejected
  · simpa using rejected

theorem candidate_of_eligible {host : PlacementHost} (eligible : Eligible set host) :
    (candidate set existing host : PlacementCandidate R).total = score set existing host ∧
      (candidate set existing host : PlacementCandidate R).summary = host.key := by
  have passes := hardReject_eq_nil.mpr eligible
  unfold candidate
  dsimp only
  rw [if_neg (not_not.mpr passes)]
  exact ⟨rfl, rfl⟩

end scores

section choice

variable {R : Type} [LinearOrder R]

theorem better_irrefl : Std.Irrefl (better : PlacementCandidate R → PlacementCandidate R → Prop) where
  irrefl c := by
    rintro (above | ⟨-, before⟩)
    · exact lt_irrefl _ above
    · rw [Std.ReflOrd.compare_self] at before
      cases before

theorem better_trans : IsTrans (PlacementCandidate R) better where
  trans a b c := by
    rintro (above | ⟨same, before⟩) (above' | ⟨same', before'⟩)
    · exact Or.inl (above'.trans above)
    · exact Or.inl (same' ▸ above)
    · exact Or.inl (same ▸ above')
    · exact Or.inr ⟨same.trans same', Std.TransCmp.lt_trans before before'⟩

theorem not_better {c b : PlacementCandidate R} (least : ¬better c b) :
    c.total < b.total ∨ (c.total = b.total ∧ (compare b.summary c.summary).isLE = true) := by
  obtain ⟨above, tie⟩ := not_or.mp least
  rcases (not_lt.mp above).lt_or_eq with below | same
  · exact Or.inl below
  · refine Or.inr ⟨same, ?_⟩
    by_contra after
    exact tie ⟨same, Std.OrientedCmp.lt_of_not_isLE after⟩

variable [Add R] [Mul R] [Div R] [NatCast R] [IntCast R] [OfScientific R]

theorem place_cases (set : ReplicaSetState) (hosts : List PlacementHost)
    (existing : List PlacedReplica) :
    let d : PlacementDecision R := place set hosts existing
    d.candidates = (Table.sortedBy PlacementHost.key hosts).map (candidate set existing) ∧
      ((d.placed = false ∧ ∀ c ∈ d.candidates, c.eligible = false) ∨
        (d.placed = true ∧ ∃ b ∈ d.candidates, b.eligible = true ∧ b.host = d.chosen ∧
          ∀ c ∈ d.candidates, c.eligible = true → ¬better c b)) := by
  unfold place
  cases chosen : select ((Table.sortedBy PlacementHost.key hosts).map
      (candidate set existing : PlacementHost → PlacementCandidate R)) with
  | none =>
      dsimp only
      rw [chosen]
      exact ⟨rfl, Or.inl ⟨rfl, Best.ofList_eq_none.mp chosen⟩⟩
  | some best =>
      dsimp only
      rw [chosen]
      obtain ⟨member, eligible, least⟩ := Best.ofList_spec better_irrefl better_trans chosen
      exact ⟨rfl, Or.inr ⟨rfl, best, member, eligible, rfl, least⟩⟩

theorem mem_candidates {c : PlacementCandidate R} :
    c ∈ (Table.sortedBy PlacementHost.key hosts).map (candidate set existing) ↔
      ∃ h ∈ hosts, candidate set existing h = c := by
  simp only [List.mem_map, (Table.sortedBy_perm PlacementHost.key hosts).mem_iff]

theorem place_spec (set : ReplicaSetState) (hosts : List PlacementHost)
    (existing : List PlacedReplica) :
    let d : PlacementDecision R := place set hosts existing
    (d.placed = true ↔ ∃ h ∈ hosts, Eligible set h) ∧
      (d.placed = true → d.chosen ∈ hosts ∧ Eligible set d.chosen ∧
        ∀ h ∈ hosts, Eligible set h →
          (score set existing h : R) < score set existing d.chosen ∨
            ((score set existing h : R) = score set existing d.chosen ∧
              (compare d.chosen.key h.key).isLE = true)) := by
  intro d
  obtain ⟨candidates, ⟨unplaced, none⟩ | ⟨placed, b, member, eligible, chosen, least⟩⟩ :=
    place_cases (R := R) set hosts existing
  · rw [candidates] at none
    refine ⟨⟨fun placed => ?_, fun ⟨h, member, eligible⟩ => ?_⟩, fun placed => ?_⟩
    · exact absurd (placed.symm.trans unplaced) (by decide)
    · have passes := (candidate_eligible (R := R) set existing h).mpr eligible
      rw [none _ (mem_candidates.mpr ⟨h, member, rfl⟩)] at passes
      cases passes
    · exact absurd (placed.symm.trans unplaced) (by decide)
  · rw [candidates] at member least
    obtain ⟨host, inside, rfl⟩ := mem_candidates.mp member
    rw [candidate_host] at chosen
    subst chosen
    have passes := (candidate_eligible set existing _).mp eligible
    refine ⟨⟨fun _ => ⟨_, inside, passes⟩, fun _ => placed⟩, fun _ => ⟨inside, passes, ?_⟩⟩
    intro h among counts
    have rest := not_better (least _ (mem_candidates.mpr ⟨h, among, rfl⟩)
      ((candidate_eligible set existing h).mpr counts))
    obtain ⟨total, summary⟩ := candidate_of_eligible (R := R) set existing counts
    obtain ⟨total', summary'⟩ := candidate_of_eligible (R := R) set existing passes
    rwa [total, summary, total', summary'] at rest

theorem place_perm {hosts' : List PlacementHost} {existing' : List PlacedReplica}
    (perm : hosts'.Perm hosts) (perm' : existing'.Perm existing)
    (distinct : (hosts'.map PlacementHost.key).Nodup) :
    (place set hosts' existing' : PlacementDecision R) = place set hosts existing := by
  unfold place
  rw [candidate_perm perm', Table.sortedBy_congr perm distinct]

theorem hosts_candidates (set : ReplicaSetState) (hosts : List PlacementHost)
    (existing : List PlacedReplica) :
    ((place set hosts existing : PlacementDecision R).candidates.map (·.host)).Perm hosts := by
  rw [(place_cases (R := R) set hosts existing).1, List.map_map, Function.comp_def]
  simp only [candidate_host, List.map_id']
  exact Table.sortedBy_perm ..

theorem nodup_keys (distinct : (hosts.map fun h => (h.workerId, h.device.deviceId)).Nodup) :
    (hosts.map PlacementHost.key).Nodup := by
  rw [List.Nodup, List.pairwise_map] at distinct ⊢
  refine distinct.imp fun differ same => differ ?_
  obtain ⟨worker, device⟩ := PlacementHost.key_injective same
  rw [worker, device]

theorem place_optimal (set : ReplicaSetState) (hosts : List PlacementHost)
    (existing : List PlacedReplica)
    (distinct : (hosts.map fun h => (h.workerId, h.device.deviceId)).Nodup) :
    let d : PlacementDecision R := place set hosts existing
    (d.placed = true ↔ ∃ h ∈ hosts, Eligible set h) ∧
      (d.placed = true → d.chosen ∈ hosts ∧ Eligible set d.chosen ∧
        ∀ h ∈ hosts, Eligible set h →
          (score set existing h : R) < score set existing d.chosen ∨
            ((score set existing h : R) = score set existing d.chosen ∧
              (compare d.chosen.key h.key).isLE = true)) ∧
      (∀ c ∈ d.candidates, (c.eligible = true ↔ Eligible set c.host) ∧
        (c.eligible = true → c.total = score set existing c.host)) ∧
      (d.candidates.map (·.host)).Perm hosts ∧ (d.candidates.map (·.host)).Nodup ∧
      ∀ (hosts' : List PlacementHost) (existing' : List PlacedReplica), hosts'.Perm hosts →
        existing'.Perm existing → place set hosts' existing' = d := by
  intro d
  have keys := nodup_keys distinct
  obtain ⟨placed, best⟩ := place_spec (R := R) set hosts existing
  have candidates := (place_cases (R := R) set hosts existing).1
  have perm : (d.candidates.map (·.host)).Perm hosts := hosts_candidates set hosts existing
  refine ⟨placed, best, fun c member => ?_, perm, ?_, fun hosts' existing' perm perm' => ?_⟩
  · rw [candidates] at member
    obtain ⟨host, -, rfl⟩ := mem_candidates.mp member
    rw [candidate_host]
    have passes := candidate_eligible (R := R) set existing host
    exact ⟨passes, fun eligible => (candidate_of_eligible set existing (passes.mp eligible)).1⟩
  · exact perm.nodup_iff.mpr (List.Nodup.of_map _ keys)
  · exact place_perm perm perm' ((perm.map _).nodup_iff.mpr keys)

end choice

def firstHost : PlacementHost := { workerId := ⟨0, 1⟩, host := "host-0" }

def secondHost : PlacementHost := { workerId := ⟨0, 2⟩, host := "host-1" }

theorem place_optimal_twoHosts :
    (place {} [secondHost, firstHost] [] : PlacementDecision ℚ).placed = true ↔
      ∃ h ∈ [secondHost, firstHost], Eligible {} h :=
  (place_optimal (R := ℚ) {} [secondHost, firstHost] [] (by decide)).1

example : (place {} [secondHost, firstHost] [] : PlacementDecision ℚ).chosen = firstHost := by
  decide +kernel

end PlacementEngine

end ReplicaFabric
