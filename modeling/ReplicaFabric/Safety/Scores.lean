import Mathlib.Tactic.Linarith
import Mathlib.Tactic.Ring
import ReplicaFabric.Safety.Placement

/-!
# Who leads

The engine chooses a host that leads: no eligible host has a larger total, or the same total and a
smaller key. Hosts of one key may tie, and then the order that the sort leaves them in decides. Each
of two factors is split off the total, so that it can be weighed against the others.
-/

namespace ReplicaFabric.PlacementEngine

variable {set : ReplicaSetState} {hosts sorted : List PlacementHost} {existing : List PlacedReplica}
  {host : PlacementHost}

/-- What `std::sort` may leave of the hosts: it promises nothing about hosts of one key. The engine
sorts a sorted list again to no effect. -/
structure SortsTo (hosts sorted : List PlacementHost) : Prop where
  perm : sorted.Perm hosts
  ordered : sorted.Pairwise fun a b => (compare a.key b.key).isLE = true

theorem sortsTo_sortedBy (hosts : List PlacementHost) :
    SortsTo hosts (Table.sortedBy PlacementHost.key hosts) :=
  ⟨Table.sortedBy_perm .., Table.sortedBy_ordered ..⟩

section scores

variable {R : Type} [LinearOrder R]

structure Leads (f : PlacementHost → R) (set : ReplicaSetState) (hosts : List PlacementHost)
    (host : PlacementHost) : Prop where
  member : host ∈ hosts
  eligible : Eligible set host
  most : ∀ g ∈ hosts, Eligible set g →
    f g < f host ∨ (f g = f host ∧ (compare host.key g.key).isLE = true)

theorem Leads.le {f : PlacementHost → R} (leads : Leads f set hosts host) {g : PlacementHost}
    (member : g ∈ hosts) (eligible : Eligible set g) : f g ≤ f host := by
  rcases leads.most g member eligible with less | ⟨same, -⟩
  · exact less.le
  · exact same.le

theorem Leads.tie {f : PlacementHost → R} {g : PlacementHost} (leads : Leads f set hosts host)
    (other : Leads f set hosts g) : f g = f host ∧ g.key = host.key := by
  have total := le_antisymm (leads.le other.member other.eligible)
    (other.le leads.member leads.eligible)
  refine ⟨total, ?_⟩
  have first := (leads.most g other.member other.eligible).resolve_left total.not_lt
  have second := (other.most host leads.member leads.eligible).resolve_left total.le.not_gt
  exact (Table.eq_of_isLE first.2 second.2).symm

theorem Leads.of_tie {f : PlacementHost → R} {g : PlacementHost} (leads : Leads f set hosts host)
    (member : g ∈ hosts) (eligible : Eligible set g) (total : f g = f host)
    (key : g.key = host.key) : Leads f set hosts g := by
  refine ⟨member, eligible, fun h inside counts => ?_⟩
  rw [total, key]
  exact leads.most h inside counts

theorem Leads.lt_of_key {f : PlacementHost → R} {g : PlacementHost}
    (leads : Leads f set hosts host) (member : g ∈ hosts) (eligible : Eligible set g)
    (smaller : compare g.key host.key = .lt) : f g < f host := by
  refine (leads.most g member eligible).resolve_right ?_
  rintro ⟨-, order⟩
  exact Table.not_isLE_of_lt smaller order

theorem Leads.not_of_key {f : PlacementHost → R} {g : PlacementHost}
    (leads : Leads f set hosts host) (smaller : compare g.key host.key = .lt) :
    ¬Leads f set hosts g := fun other =>
  (other.le leads.member leads.eligible).not_gt
    (leads.lt_of_key other.member other.eligible smaller)

variable [Add R] [Mul R] [Div R] [NatCast R] [IntCast R] [OfScientific R]

theorem chosen_leads (sorts : SortsTo hosts sorted)
    (placed : (place set sorted existing : PlacementDecision R).placed = true) :
    Leads (score set existing : PlacementHost → R) set hosts
      (place set sorted existing : PlacementDecision R).chosen := by
  obtain ⟨member, eligible, most⟩ := (place_spec (R := R) set sorted existing).2 placed
  exact ⟨sorts.perm.mem_iff.mp member, eligible,
    fun g inside => most g (sorts.perm.mem_iff.mpr inside)⟩

theorem placed_iff (sorts : SortsTo hosts sorted) :
    (place set sorted existing : PlacementDecision R).placed = true ↔
      ∃ h ∈ hosts, Eligible set h := by
  rw [(place_spec (R := R) set sorted existing).1]
  simp only [sorts.perm.mem_iff]

theorem better_candidate {g : PlacementHost} (eligible : Eligible set host)
    (counts : Eligible set g) :
    better (candidate set existing g) (candidate set existing host : PlacementCandidate R) ↔
      (score set existing host : R) < score set existing g ∨
        ((score set existing g : R) = score set existing host ∧
          compare g.key host.key = .lt) := by
  obtain ⟨total, summary⟩ := candidate_of_eligible (R := R) set existing eligible
  obtain ⟨total', summary'⟩ := candidate_of_eligible (R := R) set existing counts
  rw [better, total, summary, total', summary', gt_iff_lt]

theorem chosen_of_first {before after : List PlacementHost}
    (sorts : SortsTo hosts (before ++ host :: after))
    (leads : Leads (score set existing : PlacementHost → R) set hosts host)
    (first : ∀ g ∈ before, ¬Leads (score set existing : PlacementHost → R) set hosts g) :
    (place set (before ++ host :: after) existing : PlacementDecision R).chosen = host := by
  have inside (g : PlacementHost) (member : g ∈ before ++ host :: after) : g ∈ hosts :=
    sorts.perm.mem_iff.mp member
  have passes (g : PlacementHost) := candidate_eligible (R := R) set existing g
  obtain ⟨-, later, earlier⟩ := List.pairwise_append.mp sorts.ordered
  have selected : select ((before ++ host :: after).map
      (candidate set existing : PlacementHost → PlacementCandidate R)) =
        some (candidate set existing host) := by
    rw [List.map_append, List.map_cons]
    refine Best.ofList_split ((passes host).mpr leads.eligible) ?_ ?_
    · intro c member counts
      obtain ⟨g, here, rfl⟩ := List.mem_map.mp member
      have counts := (passes g).mp counts
      have among := inside g (List.mem_append_left _ here)
      rw [better_candidate counts leads.eligible]
      refine Or.inl ((leads.most g among counts).resolve_right ?_)
      rintro ⟨total, order⟩
      -- Such a host would lead as well.
      have order' := earlier g here host List.mem_cons_self
      have key : g.key = host.key := Table.eq_of_isLE order' order
      exact first g here (leads.of_tie among counts total key)
    · intro c member counts
      obtain ⟨g, here, rfl⟩ := List.mem_map.mp member
      have counts := (passes g).mp counts
      have among := inside g (List.mem_append_right _ (List.mem_cons_of_mem _ here))
      rw [better_candidate leads.eligible counts]
      rintro (above | ⟨-, smaller⟩)
      · exact absurd above (leads.le among counts).not_gt
      · exact Table.not_isLE_of_lt smaller ((List.pairwise_cons.mp later).1 g here)
  unfold place
  rw [Table.sortedBy_of_ordered sorts.ordered]
  dsimp only
  rw [selected]
  exact candidate_host ..

theorem exists_first (sorts : SortsTo hosts sorted)
    (placed : (place set sorted existing : PlacementDecision R).placed = true) :
    ∃ before after,
      sorted = before ++ (place set sorted existing : PlacementDecision R).chosen :: after ∧
        ∀ g ∈ before, ¬Leads (score set existing : PlacementHost → R) set hosts g := by
  classical
  have leads := chosen_leads sorts placed
  cases found : sorted.find? fun g =>
      decide (Leads (score set existing : PlacementHost → R) set hosts g) with
  | none =>
      have none_leads := List.find?_eq_none.mp found _ (sorts.perm.mem_iff.mpr leads.member)
      exact absurd (decide_eq_true leads) none_leads
  | some host =>
      obtain ⟨passes, before, after, rfl, first⟩ := List.find?_eq_some_iff_append.mp found
      have first (g : PlacementHost) (member : g ∈ before) :
          ¬Leads (score set existing : PlacementHost → R) set hosts g := by
        simpa using first g member
      rw [chosen_of_first sorts (of_decide_eq_true passes) first]
      exact ⟨before, after, rfl, first⟩

theorem exists_sortsTo {key : Str} (front : List PlacementHost) {rest : List PlacementHost}
    (parts : (front ++ rest).Perm hosts) (keyed : ∀ g ∈ front, g.key = key) :
    ∃ before after, SortsTo hosts (before ++ (front ++ after)) ∧
      ∀ g ∈ before, compare g.key key = .lt := by
  obtain ⟨before, after, perm, ordered, smaller⟩ := Table.exists_ordered_front rest keyed
  exact ⟨before, after, ⟨perm.trans parts, ordered⟩, smaller⟩

theorem Leads.exists_chosen
    (leads : Leads (score set existing : PlacementHost → R) set hosts host) :
    ∃ sorted, SortsTo hosts sorted ∧
      (place set sorted existing : PlacementDecision R).chosen = host := by
  obtain ⟨before, after, sorts, smaller⟩ :=
    exists_sortsTo [host] (List.perm_cons_erase leads.member).symm fun g here =>
      congrArg PlacementHost.key (List.mem_singleton.mp here)
  exact ⟨_, sorts, chosen_of_first sorts leads fun g member =>
    leads.not_of_key (smaller g member)⟩

end scores

section weights

variable {R : Type} [LinearOrder R] [Add R] [Mul R] [Div R] [NatCast R] [IntCast R]
  [OfScientific R]

def totalWithout (name : Str) (set : ReplicaSetState) (existing : List PlacedReplica)
    (host : PlacementHost) : R :=
  total ((factors set existing host).filter fun f => f.name ≠ name)

end weights

theorem total_eq_sum (fs : List (PlacementFactor ℚ)) :
    total fs = (fs.map (·.contribution)).sum := by
  rw [List.sum_eq_foldl, List.foldl_map, total]
  norm_num

theorem total_split (fs : List (PlacementFactor ℚ)) (name : Str) :
    total fs = total (fs.filter fun f => f.name ≠ name) +
      ((fs.filter fun f => f.name = name).map (·.contribution)).sum := by
  simp only [total_eq_sum]
  induction fs with
  | nil => simp
  | cons f fs ih =>
      by_cases same : f.name = name
      · simpa [same, ih] using add_left_comm ..
      · simpa [same, ih] using (add_assoc ..).symm

def Apart (set : ReplicaSetState) (existing : List PlacedReplica) (host : PlacementHost) : Prop :=
  ∀ dom ∈ set.placementPolicy.antiAffinityDomains, occupied existing host dom = false

instance : Decidable (Apart set existing host) := inferInstanceAs (Decidable (∀ _ ∈ _, _))

theorem diversity_contribution :
    ((factors set existing host : List (PlacementFactor ℚ)).filter
        fun f => f.name = ascii "failure_domain_diversity").map (·.contribution) =
      [4.0 * if Apart set existing host then 1.0 else 0.0] := by
  unfold factors
  cases found : set.placementPolicy.antiAffinityDomains.find? (occupied existing host) with
  | none =>
      have apart : Apart set existing host := by
        simpa [Apart] using List.find?_eq_none.mp found
      rw [if_pos apart]
      rfl
  | some dom =>
      have shared : ¬Apart set existing host := fun apart => by
        have occupied := List.find?_some found
        rw [apart dom (List.mem_of_find?_eq_some found)] at occupied
        cases occupied
      rw [if_neg shared]
      rfl

theorem preference_contribution :
    ((factors set existing host : List (PlacementFactor ℚ)).filter
        fun f => f.name = ascii "preference").map (·.contribution) =
      [1.0 * min 1.0 (preference set.placementPolicy host)] := by
  unfold factors
  cases set.placementPolicy.antiAffinityDomains.find? (occupied existing host) <;> rfl

theorem score_diversity :
    (score set existing host : ℚ) = totalWithout "failure_domain_diversity" set existing host +
      if Apart set existing host then 4 else 0 := by
  rw [score, total_split _ "failure_domain_diversity", diversity_contribution, totalWithout,
    List.sum_singleton]
  split_ifs <;> norm_num

theorem score_preference :
    (score set existing host : ℚ) = totalWithout "preference" set existing host +
      min 1 (preference set.placementPolicy host) := by
  rw [score, total_split _ "preference", preference_contribution, totalWithout, List.sum_singleton]
  norm_num

end ReplicaFabric.PlacementEngine
