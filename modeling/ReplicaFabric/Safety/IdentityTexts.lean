import ReplicaFabric.Core.IdentityText
import ReplicaFabric.Distributed.Fields
import ReplicaFabric.Library.Groups
import ReplicaFabric.Placement.Engine

/-!
# The forms of an identity

Texts and bytes are faithful. The parsers take more than the forms that their comments name.
-/

namespace ReplicaFabric

theorem PlacementHost.compare_key (a b : PlacementHost) :
    compare a.key b.key = (compare a.workerId b.workerId).then
      (compare (ascii "|" ++ a.device.deviceId) (ascii "|" ++ b.device.deviceId)) := by
  have split (h : PlacementHost) : h.key = h.workerId.str ++ (ascii "|" ++ h.device.deviceId) :=
    List.append_assoc ..
  rw [split, split, Digits.compare_append (by simp), Id.compare_str]

namespace Id

variable {tag : IdTag}

theorem sortedBy_key (hosts : List PlacementHost) :
    (Table.sortedBy PlacementHost.key hosts).map PlacementHost.workerId =
      Table.sortedBy (fun id => id) (hosts.map PlacementHost.workerId) := by
  have perm := ((Table.sortedBy_perm PlacementHost.key hosts).map PlacementHost.workerId).trans
    (Table.sortedBy_perm (fun id => id) (hosts.map PlacementHost.workerId)).symm
  refine perm.eq_of_pairwise (fun a b _ _ => Table.eq_of_isLE) ?_
    (Table.sortedBy_ordered (fun id => id) _)
  refine List.pairwise_map.mpr ((Table.sortedBy_ordered PlacementHost.key hosts).imp ?_)
  intro a b first
  rw [PlacementHost.compare_key] at first
  exact Ordering.isLE_left_of_isLE_then first

theorem forms_faithful (a b : Id tag) (x : Vector UInt8 16) :
    (tryParse a.str = some a ∧ fromString a.str = .ok a) ∧
      (fromBytes a.toBytes = a ∧ (fromBytes x.toList : Id tag).toBytes = x.toList) ∧
      (a < b ↔ a.str < b.str) ∧
      (∀ (ι : Type) (id : ι → Id tag) (items : List ι),
        Table.sortedBy (fun item => (id item).str) items = Table.sortedBy id items) ∧
      ∀ hosts : List PlacementHost,
        (Table.sortedBy PlacementHost.key hosts).map PlacementHost.workerId =
          Table.sortedBy (fun id => id) (hosts.map PlacementHost.workerId) :=
  ⟨⟨tryParse_str a, fromString_str a⟩, ⟨fromBytes_toBytes a, toBytes_fromBytes (by simp)⟩,
    lt_iff_str a b, fun _ => sortedBy_str, sortedBy_key⟩

def Documented (s : Str) : Prop :=
  (s.length = 32 ∧ Hex s) ∨
    ∃ groups, groups.map List.length = [8, 4, 4, 4, 12] ∧ (∀ g ∈ groups, Hex g) ∧
      s = [0x2D].intercalate groups

def Canonical (tag : IdTag) (s : Str) : Prop := ∃ id : Id tag, id.str = s

theorem readable_iff {s : Str} : readable s = true ↔
    (∀ c ∈ s, c = 0x2D ∨ (hexDigit c).isSome = true) ∧ s.countP (· ≠ 0x2D) = 32 := by
  simp [readable]

theorem plain_iff {s : Str} : (s.length = 32 ∧ Hex s) ↔ readable s = true ∧ 0x2D ∉ s := by
  rw [readable_iff]
  constructor
  · rintro ⟨length, hex⟩
    rw [Groups.countP_of_unmarked hex.noHyphen]
    exact ⟨⟨fun c member => .inr (hex c member), length⟩, hex.noHyphen⟩
  · rintro ⟨⟨digits, length⟩, none⟩
    rw [Groups.countP_of_unmarked none] at length
    exact ⟨length, fun c member => (digits c member).resolve_left fun same => none (same ▸ member)⟩

theorem grouped_iff {s : Str} :
    (∃ groups, groups.map List.length = [8, 4, 4, 4, 12] ∧ (∀ g ∈ groups, Hex g) ∧
      s = [0x2D].intercalate groups) ↔
      readable s = true ∧ Groups.MarksAt 0x2D s [8, 13, 18, 23] := by
  have groups_iff : _ ↔ Groups.MarksAt 0x2D s [8, 13, 18, 23] ∧ s.countP (· ≠ 0x2D) = 32 :=
    Groups.groups_iff 8 [4, 4, 4, 12]
  have every {groups : List Str} :
      (∀ c ∈ [0x2D].intercalate groups, c = 0x2D ∨ (hexDigit c).isSome = true) ↔
        ∀ g ∈ groups, ∀ c ∈ g, c = 0x2D ∨ (hexDigit c).isSome = true :=
    Groups.forall_mem_intercalate (.inl rfl)
  rw [readable_iff]
  constructor
  · rintro ⟨groups, lengths, hex, rfl⟩
    obtain ⟨marks, count⟩ := groups_iff.mp
      ⟨groups, lengths, fun g member => (hex g member).noHyphen, rfl⟩
    exact ⟨⟨every.mpr fun g member c inside => .inr (hex g member c inside), count⟩, marks⟩
  · rintro ⟨⟨digits, count⟩, marks⟩
    obtain ⟨groups, lengths, none, rfl⟩ := groups_iff.mpr ⟨marks, count⟩
    refine ⟨groups, lengths, fun g member c inside => ?_, rfl⟩
    exact (every.mp digits g member c inside).resolve_left fun same => none g member (same ▸ inside)

theorem documented_iff {s : Str} :
    Documented s ↔ readable s = true ∧ (0x2D ∉ s ∨ Groups.MarksAt 0x2D s [8, 13, 18, 23]) := by
  rw [Documented, plain_iff, grouped_iff, and_or_left]

theorem tryParse_isSome {s : Str} :
    (tryParse s : Option (Id tag)).isSome = true ↔ s.length = 32 ∧ Hex s := by
  constructor
  · intro parsed
    rw [tryParse] at parsed
    split_ifs at parsed with length
    · cases parsed
    refine ⟨not_not.mp length, ?_⟩
    split at parsed
    case h_2 => cases parsed
    next high low =>
      obtain ⟨-, ds, front⟩ := shows_of_parseHex high
      obtain ⟨-, es, back⟩ := shows_of_parseHex low
      rw [← List.take_append_drop 16 s]
      exact List.forall_mem_append.mpr ⟨front.hex, back.hex⟩
  · rintro ⟨length, hex⟩
    obtain ⟨ds, shows⟩ := hex.shows
    rw [tryParse_shows shows length]
    rfl

theorem canonical_iff {s : Str} :
    Canonical tag s ↔ (s.length = 32 ∧ Hex s) ∧ ∀ c ∈ s, ¬Uppercase c := by
  constructor
  · rintro ⟨id, rfl⟩
    refine ⟨⟨id.length_str, id.shows_str.hex⟩, fun c member => ?_⟩
    rw [str_eq] at member
    obtain ⟨d, digit, rfl⟩ := List.mem_map.mp member
    exact (hexDigit_some (hexDigit_hexChar d (id.digits_lt d digit))).2.mp rfl
  · rintro ⟨⟨length, hex⟩, lowercase⟩
    obtain ⟨ds, shows⟩ := hex.shows
    refine ⟨ofDigits ds, ?_⟩
    rw [str_eq, digits_ofDigits (shows.length ▸ length) shows.digits]
    exact shows.chars lowercase

structure ParsersExact (tag : IdTag) (s : Str) : Prop where
  fromString : (fromString s : Except Exception (Id tag)).isOk = true ↔ Documented s
  tryParse : (tryParse s : Option (Id tag)).isSome = true ↔ Canonical tag s

/-- Hyphens are only between the groups, and a numeral without hyphens has no digit in upper case. -/
structure WellFormed (s : Str) : Prop where
  hyphens : readable s = true → 0x2D ∉ s ∨ Groups.MarksAt 0x2D s [8, 13, 18, 23]
  lowercase : s.length = 32 → Hex s → ∀ c ∈ s, ¬Uppercase c

theorem parsers_exact_iff (tag : IdTag) (s : Str) : ParsersExact tag s ↔ WellFormed s := by
  constructor
  · rintro ⟨documented, canonical⟩
    rw [fromString_isOk, documented_iff] at documented
    rw [tryParse_isSome, canonical_iff] at canonical
    exact ⟨fun taken => (documented.mp taken).2,
      fun length hex => (canonical.mp ⟨length, hex⟩).2⟩
  · rintro ⟨hyphens, lowercase⟩
    constructor
    · rw [fromString_isOk, documented_iff]
      exact ⟨fun taken => ⟨taken, hyphens taken⟩, And.left⟩
    · rw [tryParse_isSome, canonical_iff]
      exact ⟨fun plain => ⟨plain, lowercase plain.1 plain.2⟩, And.left⟩

/-- A hyphen before the first digit, and a digit in upper case. -/
theorem looseTexts_taken :
    ¬ParsersExact .replica (ascii "-00000000000000000000000000000000") ∧
      ¬ParsersExact .replica (ascii "A0000000000000000000000000000000") := by
  constructor
  · rintro ⟨documented, -⟩
    obtain ⟨-, none | marks⟩ := documented_iff.mp (documented.mp (by rw [fromString_isOk]; decide))
    · exact none (by decide)
    · exact absurd ((marks 0).mp rfl) (by decide)
  · rintro ⟨-, canonical⟩
    obtain ⟨-, lowercase⟩ := canonical_iff.mp
      (canonical.mp (tryParse_isSome.mpr ⟨rfl, by decide +kernel⟩))
    exact lowercase 0x41 (by decide) (by decide)

end Id

end ReplicaFabric
