import ReplicaFabric.Safety.Placement

/-!
# Kinds of failure domains

The engine does not read the kinds of the synthetic domains. For the domain "rack" any common label
counts, and for "zone" and "region" only a label that is this very text.
-/

namespace ReplicaFabric.PlacementEngine

inductive DomainKind
  | rack | zone | region
  deriving DecidableEq

def DomainKind.text : DomainKind → Str
  | rack => "rack"
  | zone => "zone"
  | region => "region"

variable {pol : PlacementPolicy} {existing : List PlacedReplica} {host : PlacementHost}
  {kind : DomainKind} {label : Str}

def HasKind (pol : PlacementPolicy) (kind : DomainKind) (label : Str) : Prop :=
  ∃ d ∈ pol.syntheticDomains, d.label = label ∧ d.kind = kind.text

instance : Decidable (HasKind pol kind label) :=
  inferInstanceAs (Decidable (∃ d ∈ _, _ ∧ _))

def Shared (existing : List PlacedReplica) (host : PlacementHost) (label : Str) : Prop :=
  label ∈ host.failureDomainLabels ∧ ∃ e ∈ existing, label ∈ e.failureDomainLabels

def ofKind (pol : PlacementPolicy) (kind : DomainKind) (labels : List Str) : List Str :=
  labels.filter fun label => HasKind pol kind label

def hostOfKind (pol : PlacementPolicy) (kind : DomainKind) (host : PlacementHost) :
    PlacementHost :=
  { host with failureDomainLabels := ofKind pol kind host.failureDomainLabels }

def replicaOfKind (pol : PlacementPolicy) (kind : DomainKind) (e : PlacedReplica) :
    PlacedReplica :=
  { e with failureDomainLabels := ofKind pol kind e.failureDomainLabels }

theorem shared_ofKind :
    Shared (existing.map (replicaOfKind pol kind)) (hostOfKind pol kind host) label ↔
      Shared existing host label ∧ HasKind pol kind label := by
  have kept (labels : List Str) :
      label ∈ ofKind pol kind labels ↔ label ∈ labels ∧ HasKind pol kind label := by
    simp [ofKind, List.mem_filter]
  constructor
  · rintro ⟨here, _, member, there⟩
    obtain ⟨e, among, rfl⟩ := List.mem_map.mp member
    obtain ⟨here, has⟩ := (kept _).mp here
    exact ⟨⟨here, e, among, ((kept _).mp there).1⟩, has⟩
  · rintro ⟨⟨here, e, among, there⟩, has⟩
    exact ⟨(kept _).mpr ⟨here, has⟩, _, List.mem_map_of_mem among, (kept _).mpr ⟨there, has⟩⟩

structure KindRespected (pol : PlacementPolicy) (existing : List PlacedReplica)
    (host : PlacementHost) (kind : DomainKind) : Prop where
  shares : occupied existing host kind.text = true ↔
    ∃ label, Shared existing host label ∧ HasKind pol kind label
  /-- Labels of other kinds do not matter. -/
  others : occupied (existing.map (replicaOfKind pol kind)) (hostOfKind pol kind host) kind.text =
    occupied existing host kind.text

theorem occupied_iff (kind : DomainKind) :
    occupied existing host kind.text = true ↔
      (kind = .rack ∧ ∃ label, Shared existing host label) ∨ Shared existing host kind.text := by
  have texts : kind.text ≠ ascii "host" ∧ kind.text ≠ ascii "numa" ∧
      kind.text ≠ ascii "device" ∧ (kind.text = ascii "rack" ↔ kind = .rack) := by
    cases kind <;> decide
  obtain ⟨notHost, notNuma, notDevice, isRack⟩ := texts
  have each : occupied existing host kind.text = true ↔ ∃ e ∈ existing,
      (kind = .rack ∧ ∃ label ∈ e.failureDomainLabels, label ∈ host.failureDomainLabels) ∨
        (kind.text ∈ host.failureDomainLabels ∧ kind.text ∈ e.failureDomainLabels) := by
    simp [occupied, notHost, notNuma, notDevice, isRack]
  rw [each]
  constructor
  · rintro ⟨e, member, ⟨rack, label, there, here⟩ | ⟨here, there⟩⟩
    · exact Or.inl ⟨rack, label, here, e, member, there⟩
    · exact Or.inr ⟨here, e, member, there⟩
  · rintro (⟨rack, label, here, e, member, there⟩ | ⟨here, e, member, there⟩)
    · exact ⟨e, member, Or.inl ⟨rack, label, there, here⟩⟩
    · exact ⟨e, member, Or.inr ⟨here, there⟩⟩

theorem occupied_rack :
    occupied existing host DomainKind.rack.text = true ↔ ∃ label, Shared existing host label := by
  rw [occupied_iff]
  constructor
  · rintro (⟨-, shared⟩ | shared)
    · exact shared
    · exact ⟨_, shared⟩
  · exact fun shared => Or.inl ⟨rfl, shared⟩

theorem occupied_text (other : kind ≠ .rack) :
    occupied existing host kind.text = true ↔ Shared existing host kind.text := by
  rw [occupied_iff]
  exact or_iff_right fun both => other both.1

/-- For racks a common label of another kind comes with one of the kind. For the others, if labels of
the kind are common then the text of the kind is one of them, and the text has the kind. -/
def KindTold (pol : PlacementPolicy) (existing : List PlacedReplica) (host : PlacementHost) :
    DomainKind → Prop
  | .rack => ∀ label, Shared existing host label →
      ∃ label, Shared existing host label ∧ HasKind pol .rack label
  | kind => (∀ label, Shared existing host label → HasKind pol kind label →
      Shared existing host kind.text) ∧
        (Shared existing host kind.text → HasKind pol kind kind.text)

theorem kindRespected_rack :
    KindRespected pol existing host .rack ↔ KindTold pol existing host .rack := by
  constructor
  · rintro ⟨shares, -⟩ label here
    exact shares.mp (occupied_rack.mpr ⟨label, here⟩)
  · intro told
    have both : (∃ label, Shared existing host label ∧ HasKind pol .rack label) ↔
        ∃ label, Shared existing host label := by
      refine ⟨Exists.imp fun label => And.left, ?_⟩
      rintro ⟨label, here⟩
      exact told label here
    refine ⟨occupied_rack.trans both.symm, ?_⟩
    rw [Bool.eq_iff_iff, occupied_rack, occupied_rack]
    simp only [shared_ofKind]
    exact both

theorem kindRespected_text (other : kind ≠ .rack) :
    KindRespected pol existing host kind ↔
      (∀ label, Shared existing host label → HasKind pol kind label →
        Shared existing host kind.text) ∧
          (Shared existing host kind.text → HasKind pol kind kind.text) := by
  constructor
  · rintro ⟨shares, others⟩
    rw [occupied_text other] at shares
    rw [Bool.eq_iff_iff, occupied_text other, occupied_text other, shared_ofKind] at others
    exact ⟨fun label here has => shares.mpr ⟨label, here, has⟩, fun here => (others.mpr here).2⟩
  · rintro ⟨spelled, typed⟩
    refine ⟨?_, ?_⟩
    · rw [occupied_text other]
      exact ⟨fun here => ⟨_, here, typed here⟩, fun ⟨label, here, has⟩ => spelled label here has⟩
    · rw [Bool.eq_iff_iff, occupied_text other, occupied_text other, shared_ofKind]
      exact and_iff_left_of_imp typed

theorem kinds_respected_iff (pol : PlacementPolicy) (existing : List PlacedReplica)
    (host : PlacementHost) (kind : DomainKind) :
    KindRespected pol existing host kind ↔ KindTold pol existing host kind := by
  cases kind with
  | rack => exact kindRespected_rack
  | zone => exact kindRespected_text (by decide)
  | region => exact kindRespected_text (by decide)

def Assigns (pol : PlacementPolicy) (existing : List PlacedReplica) (host : PlacementHost) : Prop :=
  ∀ label, (label ∈ host.failureDomainLabels ∨ ∃ e ∈ existing, label ∈ e.failureDomainLabels) →
    ∃ kind, HasKind pol kind label

def zoned : PlacementPolicy where
  antiAffinityDomains := ["zone"]
  syntheticDomains := [{ label := "zone-1", kind := "zone" }]

def inZone : PlacementHost := { failureDomainLabels := ["zone-1"] }

def replicaInZone : PlacedReplica := { failureDomainLabels := ["zone-1"] }

theorem zone_ignored :
    ¬∀ (pol : PlacementPolicy) (existing : List PlacedReplica) (host : PlacementHost)
      (kind : DomainKind), Assigns pol existing host → KindRespected pol existing host kind := by
  intro always
  have assigns : Assigns zoned [replicaInZone] inZone := by
    intro label used
    obtain rfl : label = ascii "zone-1" := by simpa [inZone, replicaInZone] using used
    exact ⟨.zone, by decide⟩
  have shares := (always zoned [replicaInZone] inZone .zone assigns).shares
  have unseen : occupied [replicaInZone] inZone DomainKind.zone.text = false := by decide
  rw [unseen] at shares
  have common : Shared [replicaInZone] inZone "zone-1" := by simp [Shared, inZone, replicaInZone]
  exact Bool.false_ne_true (shares.mpr ⟨ascii "zone-1", common, by decide⟩)

end ReplicaFabric.PlacementEngine
