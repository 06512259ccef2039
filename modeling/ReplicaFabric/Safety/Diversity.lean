import ReplicaFabric.Safety.Scores

/-!
# Anti-affinity

The engine does not read `requireDiversity`. A host apart from the replicas that are there already
gets four points, and a host that is not may make them up with the other five factors.
-/

namespace ReplicaFabric.PlacementEngine

variable {set : ReplicaSetState} {hosts sorted : List PlacementHost} {existing : List PlacedReplica}

def AntiAffinityReal (set : ReplicaSetState) (hosts : List PlacementHost)
    (existing : List PlacedReplica) (d : PlacementDecision ℚ) : Prop :=
  set.placementPolicy.requireDiversity = true →
    (∃ h ∈ hosts, Eligible set h ∧ Apart set existing h) →
      d.placed = true ∧ Apart set existing d.chosen

def otherFactors (set : ReplicaSetState) (existing : List PlacedReplica) (host : PlacementHost) :
    ℚ :=
  totalWithout "failure_domain_diversity" set existing host

def Outweighs (set : ReplicaSetState) (existing : List PlacedReplica) (apart shared : PlacementHost) :
    Prop :=
  otherFactors set existing shared < otherFactors set existing apart + 4 ∨
    (otherFactors set existing shared = otherFactors set existing apart + 4 ∧
      compare apart.key shared.key = .lt)

theorem outweighs_iff {apart shared : PlacementHost} (isApart : Apart set existing apart)
    (isShared : ¬Apart set existing shared) :
    Outweighs set existing apart shared ↔
      (score set existing shared : ℚ) < score set existing apart ∨
        ((score set existing shared : ℚ) = score set existing apart ∧
          compare apart.key shared.key = .lt) := by
  rw [score_diversity, score_diversity, if_pos isApart, if_neg isShared, add_zero]
  rfl

theorem anti_affinity_iff (set : ReplicaSetState) (hosts : List PlacementHost)
    (existing : List PlacedReplica) :
    (∀ sorted, SortsTo hosts sorted →
        AntiAffinityReal set hosts existing (place set sorted existing)) ↔
      (set.placementPolicy.requireDiversity = true →
        (∃ h ∈ hosts, Eligible set h ∧ Apart set existing h) →
          ∀ shared ∈ hosts, Eligible set shared → ¬Apart set existing shared →
            ∃ apart ∈ hosts, Eligible set apart ∧ Apart set existing apart ∧
              Outweighs set existing apart shared) := by
  constructor
  · intro real required someApart shared member eligible isShared
    have sorts := sortsTo_sortedBy hosts
    obtain ⟨placed, isApart⟩ := real _ sorts required someApart
    have leads := chosen_leads sorts placed
    refine ⟨_, leads.member, leads.eligible, isApart, (outweighs_iff isApart isShared).mpr ?_⟩
    refine (leads.most shared member eligible).imp_right fun ⟨total, order⟩ => ⟨total, ?_⟩
    by_contra notBefore
    -- With its key it would tie, and in some order it would be the one that is chosen.
    have tie := (Ordering.isLE_iff_eq_lt_or_eq_eq.mp order).resolve_left notBefore
    have key : shared.key = _ := (Std.LawfulEqOrd.eq_of_compare tie).symm
    obtain ⟨sorted, sorts', chosen⟩ := (leads.of_tie member eligible total key).exists_chosen
    have apart := (real sorted sorts' required someApart).2
    rw [chosen] at apart
    exact isShared apart
  · intro outweighed sorted sorts required someApart
    have placed : (place set sorted existing : PlacementDecision ℚ).placed = true :=
      (placed_iff sorts).mpr (someApart.imp fun h => And.imp_right And.left)
    have leads := chosen_leads sorts placed
    refine ⟨placed, ?_⟩
    by_contra isShared
    obtain ⟨apart, member, eligible, isApart, outweighs⟩ :=
      outweighed required someApart _ leads.member leads.eligible isShared
    rcases (outweighs_iff isApart isShared).mp outweighs with less | ⟨same, smaller⟩
    · exact absurd less (leads.le member eligible).not_gt
    · exact absurd same (leads.lt_of_key member eligible smaller).ne'

def spread : ReplicaSetState where
  placementPolicy := { antiAffinityDomains := ["host"], requireDiversity := true }

def crowdedHost : PlacementHost where
  workerId := ⟨0, 1⟩
  host := "host-0"
  inventory := { totalMemoryBytes := 1, freeMemoryBytes := 1 }
  hasWarmModel := true

def freeHost : PlacementHost where
  workerId := ⟨0, 2⟩
  host := "host-1"
  inventory := { totalMemoryBytes := 1, freeMemoryBytes := 0 }

def onCrowded : List PlacedReplica := [{ id := ⟨0, 1⟩, host := "host-0" }]

theorem crowdedHost_chosen :
    ¬∀ (set : ReplicaSetState) (hosts : List PlacementHost) (existing : List PlacedReplica),
      AntiAffinityReal set hosts existing (place set hosts existing) := by
  intro always
  have eligible : Eligible spread freeHost := ⟨by decide, by decide, by decide, by decide⟩
  have real := always spread [crowdedHost, freeHost] onCrowded rfl
    ⟨freeHost, by simp, eligible, by decide⟩
  exact absurd real.2 (by decide +kernel)

end ReplicaFabric.PlacementEngine
