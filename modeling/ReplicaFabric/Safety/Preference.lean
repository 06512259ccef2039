import ReplicaFabric.Safety.Scores

/-!
# Preferences

A preference gives up to one point, in the sum with the other factors. A host of a smaller total
without it may lead with it.
-/

namespace ReplicaFabric.PlacementEngine

variable {set : ReplicaSetState} {hosts sorted : List PlacementHost} {existing : List PlacedReplica}
  {host : PlacementHost}

structure Preferences where
  host : Str := []
  device : Str := []
  failureDomain : Str := []

def prefer (set : ReplicaSetState) (p : Preferences) : ReplicaSetState where
  __ := set
  placementPolicy :=
    { set.placementPolicy with
      preferredHost := p.host
      preferredDevice := p.device
      preferredFailureDomain := p.failureDomain }

def base (set : ReplicaSetState) (existing : List PlacedReplica) (host : PlacementHost) : ℚ :=
  totalWithout "preference" set existing host

def bonus (pol : PlacementPolicy) (host : PlacementHost) : ℚ := min 1 (preference pol host)

/-- Whatever the host lacks against another eligible host, the bonus makes up for it. -/
def MakesUp (set : ReplicaSetState) (pol : PlacementPolicy) (hosts : List PlacementHost)
    (existing : List PlacedReplica) (host : PlacementHost) : Prop :=
  Leads (fun g => base set existing g + bonus pol g) set hosts host

/-- From one decision to the other the choice has moved to a host of the largest base, or has not
moved. -/
structure OnlyBreaksTies (set : ReplicaSetState) (hosts : List PlacementHost)
    (existing : List PlacedReplica) (d d' : PlacementDecision ℚ) : Prop where
  placed : d'.placed = d.placed
  moved : d'.placed = true → d'.chosen ≠ d.chosen →
    ∀ h ∈ hosts, Eligible set h → base set existing h ≤ base set existing d'.chosen

theorem eligible_prefer (p : Preferences) : Eligible (prefer set p) host ↔ Eligible set host :=
  ⟨fun ⟨backend, compute, memory, accelerators⟩ => ⟨backend, compute, memory, accelerators⟩,
    fun ⟨backend, compute, memory, accelerators⟩ => ⟨backend, compute, memory, accelerators⟩⟩

theorem base_prefer (p : Preferences) :
    base (prefer set p) existing host = base set existing host := by
  have domains : (prefer set p).placementPolicy.antiAffinityDomains =
      set.placementPolicy.antiAffinityDomains := rfl
  unfold base totalWithout factors
  rw [domains]
  cases set.placementPolicy.antiAffinityDomains.find? (occupied existing host) <;> rfl

theorem makesUp_iff :
    MakesUp set set.placementPolicy hosts existing host ↔
      Leads (score set existing : PlacementHost → ℚ) set hosts host := by
  have scores : (score set existing : PlacementHost → ℚ) =
      fun g => base set existing g + bonus set.placementPolicy g := funext fun g => score_preference
  rw [scores]
  rfl

theorem makesUp_prefer {p : Preferences} :
    MakesUp set (prefer set p).placementPolicy hosts existing host ↔
      Leads (score (prefer set p) existing : PlacementHost → ℚ) (prefer set p) hosts host := by
  rw [← makesUp_iff]
  constructor
  · rintro ⟨member, eligible, most⟩
    refine ⟨member, (eligible_prefer p).mpr eligible, fun g inside counts => ?_⟩
    simp only [base_prefer]
    exact most g inside ((eligible_prefer p).mp counts)
  · rintro ⟨member, eligible, most⟩
    simp only [base_prefer] at most
    exact ⟨member, (eligible_prefer p).mp eligible,
      fun g inside counts => most g inside ((eligible_prefer p).mpr counts)⟩

theorem eq_of_first {before before' after after' : List PlacementHost} {g h : PlacementHost}
    (same : before ++ g :: after = before' ++ h :: after') (first : h ∉ before)
    (first' : g ∉ before') : g = h := by
  rcases List.append_eq_append_iff.mp same with ⟨between, rfl, rest⟩ | ⟨between, rfl, rest⟩
  · cases between with
    | nil => exact (List.cons.inj rest).1
    | cons k between =>
        obtain rfl : g = k := (List.cons.inj rest).1
        exact absurd (List.mem_append_right _ List.mem_cons_self) first'
  · cases between with
    | nil => exact (List.cons.inj rest).1.symm
    | cons k between =>
        obtain rfl : h = k := (List.cons.inj rest).1
        exact absurd (List.mem_append_right _ List.mem_cons_self) first

def NothingNew (set : ReplicaSetState) (p : Preferences) (hosts : List PlacementHost)
    (existing : List PlacedReplica) : Prop :=
  ∀ h, MakesUp set (prefer set p).placementPolicy hosts existing h →
    (∃ g ∈ hosts, Eligible set g ∧ base set existing h < base set existing g) →
      MakesUp set set.placementPolicy hosts existing h ∧
        ∀ g, MakesUp set set.placementPolicy hosts existing g →
          MakesUp set (prefer set p).placementPolicy hosts existing g

theorem nothingNew_of_ties {p : Preferences}
    (ties : ∀ sorted, SortsTo hosts sorted →
      OnlyBreaksTies set hosts existing (place set sorted existing)
        (place (prefer set p) sorted existing)) : NothingNew set p hosts existing := by
  rintro h makesUp ⟨g, member, eligible, short⟩
  have leads' := makesUp_prefer.mp makesUp
  simp only [makesUp_iff, makesUp_prefer]
  have placed' {sorted : List PlacementHost} (sorts : SortsTo hosts sorted) :
      (place (prefer set p) sorted existing : PlacementDecision ℚ).placed = true :=
    (placed_iff sorts).mpr ⟨h, leads'.member, leads'.eligible⟩
  have unmoved {sorted : List PlacementHost} (sorts : SortsTo hosts sorted)
      (chosen' : (place (prefer set p) sorted existing : PlacementDecision ℚ).chosen = h) :
      (place set sorted existing : PlacementDecision ℚ).chosen = h := by
    by_contra moved
    have most := (ties sorted sorts).moved (placed' sorts)
      (fun same => moved (same.symm.trans chosen')) g member eligible
    rw [chosen'] at most
    exact absurd most short.not_ge
  have leads : Leads (score set existing : PlacementHost → ℚ) set hosts h := by
    obtain ⟨sorted, sorts, chosen'⟩ := leads'.exists_chosen
    rw [← unmoved sorts chosen']
    exact chosen_leads sorts ((ties sorted sorts).placed ▸ placed' sorts)
  refine ⟨leads, fun other otherLeads => ?_⟩
  by_contra dropped
  -- In an order where `other` comes first and `h` after it, the choice moves from `other` to `h`.
  have key : other.key = h.key := (leads.tie otherLeads).2
  have differ : h ≠ other := by
    rintro rfl
    exact dropped leads'
  have parts : ([other, h] ++ (hosts.erase other).erase h).Perm hosts := by
    have inside : h ∈ hosts.erase other := (List.mem_erase_of_ne differ).mpr leads.member
    exact ((List.perm_cons_erase inside).symm.cons other).trans
      (List.perm_cons_erase otherLeads.member).symm
  have keyed : ∀ g ∈ [other, h], g.key = h.key := by simp [key]
  obtain ⟨before, after, sorts, smaller⟩ := exists_sortsTo [other, h] parts keyed
  have chosen : (place set (before ++ other :: (h :: after)) existing :
      PlacementDecision ℚ).chosen = other :=
    chosen_of_first sorts otherLeads fun g here => otherLeads.not_of_key (key ▸ smaller g here)
  have chosen' : (place (prefer set p) (before ++ other :: (h :: after)) existing :
      PlacementDecision ℚ).chosen = h := by
    have sorts' : SortsTo hosts ((before ++ [other]) ++ h :: after) := by
      rwa [List.append_assoc]
    have second : (place (prefer set p) ((before ++ [other]) ++ h :: after) existing :
        PlacementDecision ℚ).chosen = h := chosen_of_first sorts' leads' fun g here => by
      rcases List.mem_append.mp here with earlier | last
      · exact leads'.not_of_key (smaller g earlier)
      · rwa [List.mem_singleton.mp last]
    rwa [List.append_assoc] at second
  exact differ ((unmoved sorts chosen').symm.trans chosen)

theorem preference_iff (set : ReplicaSetState) (p : Preferences) (hosts : List PlacementHost)
    (existing : List PlacedReplica) :
    (∀ sorted, SortsTo hosts sorted →
        OnlyBreaksTies set hosts existing (place set sorted existing)
          (place (prefer set p) sorted existing)) ↔ NothingNew set p hosts existing := by
  refine ⟨nothingNew_of_ties, fun nothing sorted sorts => ?_⟩
  have same : (place (prefer set p) sorted existing : PlacementDecision ℚ).placed =
      (place set sorted existing : PlacementDecision ℚ).placed := by
    rw [Bool.eq_iff_iff, placed_iff sorts, placed_iff sorts]
    simp only [eligible_prefer]
  refine ⟨same, fun placed' moved h member eligible => ?_⟩
  by_contra short
  have placed := same ▸ placed'
  have leads := chosen_leads sorts placed
  have leads' := chosen_leads sorts placed'
  obtain ⟨already, keeps⟩ :=
    nothing _ (makesUp_prefer.mpr leads') ⟨h, member, eligible, not_le.mp short⟩
  have keepsLead := makesUp_prefer.mp (keeps _ (makesUp_iff.mpr leads))
  obtain ⟨before, after, split, first⟩ := exists_first sorts placed
  obtain ⟨before', after', split', first'⟩ := exists_first sorts placed'
  exact moved (eq_of_first (split'.symm.trans split) (fun here => first' _ here keepsLead)
    fun here => first _ here (makesUp_iff.mp already))

def roomyHost : PlacementHost where
  workerId := ⟨0, 1⟩
  host := "host-0"
  inventory := { totalMemoryBytes := 10, freeMemoryBytes := 10 }

def preferredHost : PlacementHost where
  workerId := ⟨0, 2⟩
  host := "host-1"
  inventory := { totalMemoryBytes := 10, freeMemoryBytes := 9 }

theorem preferredHost_chosen :
    ¬∀ (set : ReplicaSetState) (p : Preferences) (hosts : List PlacementHost)
      (existing : List PlacedReplica),
        OnlyBreaksTies set hosts existing (place set hosts existing)
          (place (prefer set p) hosts existing) := by
  intro always
  have eligible : Eligible {} roomyHost := ⟨by decide, by decide, by decide, by decide⟩
  have most := (always {} { host := "host-1" } [roomyHost, preferredHost] []).moved
    (by decide +kernel) (by decide +kernel) roomyHost (by simp) eligible
  exact absurd most (by decide +kernel)

end ReplicaFabric.PlacementEngine
