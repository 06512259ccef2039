import Mathlib.Data.Prod.Lex
import ReplicaFabric.Safety.Placement

/-!
# Hard constraints

The engine compares the backend, the compute capability and the memory as numbers. The number of
accelerators it casts to `int`, so a requirement from 2^31 on is negative to it.
-/

namespace ReplicaFabric.PlacementEngine

variable {set : ReplicaSetState} {host : PlacementHost}

structure Capable (set : ReplicaSetState) (host : PlacementHost) : Prop where
  backend : set.backend = .none ∨ ∃ b ∈ host.inventory.backends, b.kind = set.backend
  compute : toLex (set.minCompute.major.toInt, set.minCompute.minor.toInt) ≤
    toLex (host.device.compute.major.toInt, host.device.compute.minor.toInt)
  memory : set.memoryRequirementBytes.toNat ≤ host.inventory.freeMemoryBytes.toNat

structure HardConstraints (set : ReplicaSetState) (host : PlacementHost) : Prop
    extends Capable set host where
  accelerators : (set.acceleratorRequirement.toNat : Int) ≤ host.inventory.acceleratorCount.toInt

theorem hasBackend_iff (kind : BackendKind) :
    hasBackend host kind = true ↔ kind = .none ∨ ∃ b ∈ host.inventory.backends, b.kind = kind := by
  unfold hasBackend
  split_ifs with free
  · simp [free]
  · simp [free]

theorem below_eq_false (a b : ComputeCapability) :
    a.below b = false ↔
      toLex (b.major.toInt, b.minor.toInt) ≤ toLex (a.major.toInt, a.minor.toInt) := by
  have order (x y : Int32) : x < y ↔ x.toInt < y.toInt := Int32.lt_iff_toInt_lt
  have same (x y : Int32) : x = y ↔ x.toInt = y.toInt := Int32.toInt_inj.symm
  rw [Prod.Lex.toLex_le_toLex, ComputeCapability.below]
  by_cases majors : a.major = b.major
  · simp [majors, order]
  · rw [if_pos majors, decide_eq_false_iff_not, order]
    have differ := mt (same _ _).mpr majors
    dsimp only
    omega

/-- `static_cast<int>` -/
theorem toInt_toInt32 (n : UInt32) :
    n.toInt32.toInt = if n.toNat < 2 ^ 31 then (n.toNat : Int) else n.toNat - 2 ^ 32 := by
  have bound := n.toNat_lt
  have bits : n.toInt32.toInt = n.toBitVec.toInt := rfl
  rw [bits, BitVec.toInt_eq_toNat_cond]
  change (if 2 * n.toNat < 2 ^ 32 then (n.toNat : Int) else n.toNat - (2 ^ 32 : Nat)) = _
  split_ifs <;> omega

theorem eligible_iff :
    Eligible set host ↔ Capable set host ∧
      set.acceleratorRequirement.toInt32.toInt ≤ host.inventory.acceleratorCount.toInt := by
  have counts (x y : Int32) : ¬x < y ↔ y.toInt ≤ x.toInt := by
    rw [Int32.lt_iff_toInt_lt, not_lt]
  have bytes (x y : UInt64) : ¬x < y ↔ y.toNat ≤ x.toNat := by
    rw [UInt64.lt_iff_toNat_lt, not_lt]
  constructor
  · rintro ⟨backend, compute, memory, accelerators⟩
    exact ⟨⟨(hasBackend_iff _).mp backend, (below_eq_false _ _).mp compute,
      (bytes _ _).mp memory⟩, (counts _ _).mp accelerators⟩
  · rintro ⟨⟨backend, compute, memory⟩, accelerators⟩
    exact ⟨(hasBackend_iff _).mpr backend, (below_eq_false _ _).mpr compute,
      (bytes _ _).mpr memory, (counts _ _).mpr accelerators⟩

/-- From 2^31 on no host meets the requirement, and the engine compares with a negative number. -/
theorem eligible_agrees :
    (Eligible set host ↔ HardConstraints set host) ↔
      (set.acceleratorRequirement.toNat < 2 ^ 31 ∨
        (Capable set host →
          host.inventory.acceleratorCount.toInt < set.acceleratorRequirement.toNat - 2 ^ 32)) := by
  have most := host.inventory.acceleratorCount.toInt_lt
  have hard : HardConstraints set host ↔ Capable set host ∧
      (set.acceleratorRequirement.toNat : Int) ≤ host.inventory.acceleratorCount.toInt :=
    ⟨fun ⟨capable, accelerators⟩ => ⟨capable, accelerators⟩,
      fun ⟨capable, accelerators⟩ => ⟨capable, accelerators⟩⟩
  rw [eligible_iff, toInt_toInt32, hard]
  by_cases small : set.acceleratorRequirement.toNat < 2 ^ 31
  · rw [if_pos small]
    exact ⟨fun _ => Or.inl small, fun _ => Iff.rfl⟩
  · have unmet : ¬(set.acceleratorRequirement.toNat : Int) ≤
        host.inventory.acceleratorCount.toInt := by omega
    rw [if_neg small]
    constructor
    · intro agree
      refine Or.inr fun capable => ?_
      by_contra enough
      exact unmet (agree.mp ⟨capable, not_lt.mp enough⟩).2
    · intro few
      have beaten := few.resolve_left small
      exact ⟨fun ⟨capable, lowered⟩ => absurd (beaten capable) (not_lt.mpr lowered),
        fun ⟨_, meets⟩ => absurd meets unmet⟩

variable {R : Type} [LinearOrder R] [Add R] [Mul R] [Div R] [NatCast R] [IntCast R]
  [OfScientific R]

structure ConstraintsKept (set : ReplicaSetState) (hosts : List PlacementHost)
    (d : PlacementDecision R) : Prop where
  hosts : (d.candidates.map (·.host)).Perm hosts
  eligible : ∀ c ∈ d.candidates, c.eligible = true ↔ HardConstraints set c.host
  chosen : d.placed = true → HardConstraints set d.chosen

theorem constraintsKept_iff (hosts : List PlacementHost) (existing : List PlacedReplica) :
    ConstraintsKept set hosts (place set hosts existing : PlacementDecision R) ↔
      ∀ h ∈ hosts, (Eligible set h ↔ HardConstraints set h) := by
  have candidates := (place_cases (R := R) set hosts existing).1
  constructor
  · rintro ⟨-, eligible, -⟩ h member
    have kept := eligible (candidate set existing h) (by
      rw [candidates]
      exact mem_candidates.mpr ⟨h, member, rfl⟩)
    rwa [candidate_eligible, candidate_host] at kept
  · intro agree
    refine ⟨hosts_candidates set hosts existing, fun c member => ?_, fun placed => ?_⟩
    · rw [candidates] at member
      obtain ⟨h, inside, rfl⟩ := mem_candidates.mp member
      rw [candidate_eligible, candidate_host]
      exact agree h inside
    · obtain ⟨inside, eligible, -⟩ := (place_spec (R := R) set hosts existing).2 placed
      exact (agree _ inside).mp eligible

theorem hard_constraints_iff (set : ReplicaSetState) (hosts : List PlacementHost)
    (existing : List PlacedReplica) :
    ConstraintsKept set hosts (place set hosts existing : PlacementDecision R) ↔
      (set.acceleratorRequirement.toNat < 2 ^ 31 ∨
        ∀ h ∈ hosts, Capable set h →
          h.inventory.acceleratorCount.toInt < set.acceleratorRequirement.toNat - 2 ^ 32) := by
  rw [constraintsKept_iff]
  simp only [eligible_agrees]
  constructor
  · intro each
    refine or_iff_not_imp_left.mpr fun large h member => ?_
    exact (each h member).resolve_left large
  · rintro (small | few) h member
    · exact Or.inl small
    · exact Or.inr (few h member)

def manyAccelerators : ReplicaSetState := { acceleratorRequirement := 0x80000000 }

theorem manyAccelerators_onNone :
    ¬∀ (set : ReplicaSetState) (hosts : List PlacementHost) (existing : List PlacedReplica),
      ConstraintsKept set hosts (place set hosts existing : PlacementDecision ℚ) := by
  intro always
  have kept := (constraintsKept_iff _ _).mp (always manyAccelerators [{}] []) {} (by simp)
  have eligible : Eligible manyAccelerators {} := ⟨by decide, by decide, by decide, by decide⟩
  exact absurd (kept.mp eligible).accelerators (by decide)

end ReplicaFabric.PlacementEngine
