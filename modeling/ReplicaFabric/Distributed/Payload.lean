import ReplicaFabric.Distributed.Protocol
import ReplicaFabric.Library.Groups

/-!
# Payloads

A payload has one line for each field. The lookup goes by positions, and it finds the field that was
set first.
-/

namespace ReplicaFabric

namespace Payload

/-- `find` of a character; `none` is `npos`. -/
def find (s : Str) (c : UInt8) (pos : Nat) : Option Nat := ((s.drop pos).idxOf? c).map (pos + ·)

def substr (s : Str) (pos : Nat) : Option Nat → Str
  | none => s.drop pos
  | some count => (s.drop pos).take count

inductive Turn
  | returns (value : Str)
  | breaks
  | next (pos : Nat)

/-- The body of the loop of `get_payload`. -/
def turn (s needle : Str) (pos : Nat) : Turn :=
  let nl := find s 0x0A pos
  let line := substr s pos (nl.map (· - pos))
  if line.length ≥ needle.length ∧ line.take needle.length = needle then
    .returns (line.drop needle.length)
  else
    match nl with
    | none => .breaks
    | some nl => .next (nl + 1)

def loop (s needle fallback : Str) : Nat → Nat → Option Str
  | 0, _ => none
  | turns + 1, pos =>
      if pos ≤ s.length then
        match turn s needle pos with
        | .returns value => some value
        | .breaks => some fallback
        | .next pos => loop s needle fallback turns pos
      else some fallback

def get (turns : Nat) (s key fallback : Str) : Option Str :=
  loop s (key ++ [0x3D]) fallback turns 0

end Payload

section

variable {s line rest key fallback : Str}

theorem getPayload_line (unbroken : 0x0A ∉ line) :
    getPayload (line ++ 0x0A :: rest) key fallback =
      if key ++ [0x3D] <+: line then line.drop (key ++ [0x3D]).length
      else getPayload rest key fallback := by
  simp only [getPayload, List.splitOn_append_cons_self_of_not_mem unbroken, List.find?_cons,
    ← List.isPrefixOf_iff_prefix]
  cases (key ++ [0x3D]).isPrefixOf line <;> rfl

theorem getPayload_lastLine (unbroken : 0x0A ∉ line) :
    getPayload line key fallback =
      if key ++ [0x3D] <+: line then line.drop (key ++ [0x3D]).length else fallback := by
  simp only [getPayload, List.splitOn_eq_singleton unbroken, List.find?_cons, List.find?_nil,
    ← List.isPrefixOf_iff_prefix]
  cases (key ++ [0x3D]).isPrefixOf line <;> rfl

theorem unbroken_of_mem_splitOn (member : line ∈ s.splitOn 0x0A) : 0x0A ∉ line := by
  induction s generalizing line with
  | nil => simp_all
  | cons c s ih =>
      rw [List.splitOn_cons_eq_if_modifyHead] at member
      split_ifs at member with newline
      · rcases List.mem_cons.mp member with rfl | later
        · exact List.not_mem_nil
        · exact ih later
      · cases pieces : s.splitOn 0x0A with
        | nil => exact absurd pieces (List.splitOn_ne_nil 0x0A s)
        | cons first others =>
            rw [pieces, List.modifyHead_cons] at member
            rw [pieces] at ih
            rcases List.mem_cons.mp member with rfl | later
            · have other : c ≠ 0x0A := by simpa using newline
              simpa [other.symm] using ih List.mem_cons_self
            · exact ih (List.mem_cons_of_mem _ later)

theorem getPayload_unbroken (unbroken : 0x0A ∉ fallback) : 0x0A ∉ getPayload s key fallback := by
  unfold getPayload
  dsimp only
  split
  · exact unbroken
  · next line found =>
      exact fun inside => unbroken_of_mem_splitOn (List.mem_of_find?_eq_some found)
        (List.mem_of_mem_drop inside)

namespace Payload

theorem compare_iff {needle : Str} :
    (line.length ≥ needle.length ∧ line.take needle.length = needle) ↔ needle <+: line := by
  rw [List.prefix_iff_eq_take]
  constructor
  · rintro ⟨-, same⟩
    exact same.symm
  · intro same
    refine ⟨?_, same.symm⟩
    rw [same]
    exact List.length_take_le' ..

theorem turn_cases (s needle : Str) (pos : Nat) (inside : pos ≤ s.length) :
    (0x0A ∉ s.drop pos ∧ turn s needle pos =
      if needle <+: s.drop pos then .returns ((s.drop pos).drop needle.length) else .breaks) ∨
    ∃ line next, 0x0A ∉ line ∧ s.drop pos = line ++ 0x0A :: s.drop next ∧
      pos < next ∧ next ≤ s.length ∧ turn s needle pos =
        if needle <+: line then .returns (line.drop needle.length) else .next next := by
  cases found : (s.drop pos).idxOf? 0x0A with
  | none =>
      refine .inl ⟨List.idxOf?_eq_none_iff.mp found, ?_⟩
      simp only [turn, find, found, Option.map_none, substr, compare_iff]
  | some i =>
      obtain ⟨inRest, here, before⟩ := List.idxOf?_eq_some_iff.mp found
      have length : i < s.length - pos := by simpa using inRest
      obtain ⟨parts, unbroken⟩ := Groups.split_first (List.getElem?_eq_some_iff.mpr ⟨_, here⟩)
        fun j less other => before j less (List.getElem?_eq_some_iff.mp other).2
      rw [List.drop_drop] at parts
      refine .inr ⟨_, _, unbroken, parts, by omega, by omega, ?_⟩
      have count : pos + i - pos = i := by omega
      simp only [turn, find, found, Option.map_some, substr, count, compare_iff]
      rfl

theorem loop_eq {turns pos : Nat} (inside : pos ≤ s.length) (enough : s.length < pos + turns) :
    loop s (key ++ [0x3D]) fallback turns pos = some (getPayload (s.drop pos) key fallback) := by
  induction turns generalizing pos with
  | zero => omega
  | succ turns ih =>
      rw [loop, if_pos inside]
      obtain ⟨unbroken, last⟩ | ⟨line, next, unbroken, lines, later, within, first⟩ :=
        turn_cases s (key ++ [0x3D]) pos inside
      · rw [last, getPayload_lastLine unbroken]
        split_ifs <;> rfl
      · rw [first, lines, getPayload_line unbroken]
        split_ifs
        · rfl
        · exact ih within (by omega)

theorem get_eq {turns : Nat} (enough : s.length < turns) :
    get turns s key fallback = some (getPayload s key fallback) :=
  loop_eq (Nat.zero_le _) (by omega)

def ofPairs (pairs : List (Str × Str)) : Str :=
  pairs.foldl (fun s pair => setPayload s pair.1 pair.2) []

structure IsKey (key : Str) : Prop where
  noEquals : 0x3D ∉ key
  noNewline : 0x0A ∉ key

instance (key : Str) : Decidable (IsKey key) :=
  decidable_of_iff (0x3D ∉ key ∧ 0x0A ∉ key) ⟨fun ⟨e, n⟩ => ⟨e, n⟩, fun ⟨e, n⟩ => ⟨e, n⟩⟩

theorem foldl_setPayload (pairs : List (Str × Str)) (s : Str) :
    pairs.foldl (fun s pair => setPayload s pair.1 pair.2) s = s ++ ofPairs pairs := by
  induction pairs generalizing s with
  | nil => simp [ofPairs]
  | cons pair pairs ih =>
      have first : ofPairs (pair :: pairs) = setPayload [] pair.1 pair.2 ++ ofPairs pairs := ih _
      rw [List.foldl_cons, ih, first]
      simp [setPayload]

theorem ofPairs_cons (pair : Str × Str) (pairs : List (Str × Str)) :
    ofPairs (pair :: pairs) = (pair.1 ++ 0x3D :: pair.2) ++ 0x0A :: ofPairs pairs := by
  rw [ofPairs, List.foldl_cons, foldl_setPayload]
  simp [setPayload]

theorem needle_prefix_iff {key other value : Str} (isKey : IsKey key) (otherKey : IsKey other) :
    key ++ [0x3D] <+: other ++ 0x3D :: value ↔ other = key := by
  constructor
  · rintro ⟨tail, same⟩
    have pieces := congrArg (List.splitOn 0x3D) same
    rw [List.append_assoc, List.singleton_append,
      List.splitOn_append_cons_self_of_not_mem isKey.noEquals,
      List.splitOn_append_cons_self_of_not_mem otherKey.noEquals] at pieces
    exact (List.cons.inj pieces).1.symm
  · rintro rfl
    exact ⟨value, by simp⟩

theorem getPayload_ofPairs {pairs : List (Str × Str)}
    (keys : ∀ pair ∈ pairs, IsKey pair.1) (values : ∀ pair ∈ pairs, 0x0A ∉ pair.2)
    (isKey : IsKey key) (fallback : Str) :
    getPayload (ofPairs pairs) key fallback =
      ((pairs.find? fun pair => pair.1 = key).map Prod.snd).getD fallback := by
  induction pairs with
  | nil =>
      have noPrefix : ¬key ++ [0x3D] <+: [] := by simp
      exact (getPayload_lastLine List.not_mem_nil).trans (if_neg noPrefix)
  | cons pair pairs ih =>
      obtain ⟨here, later⟩ := List.forall_mem_cons.mp keys
      obtain ⟨value, others⟩ := List.forall_mem_cons.mp values
      have unbroken : 0x0A ∉ pair.1 ++ 0x3D :: pair.2 := by
        simp [here.noNewline, value]
      have starts : key ++ [0x3D] <+: pair.1 ++ 0x3D :: pair.2 ↔ pair.1 = key :=
        needle_prefix_iff isKey here
      rw [ofPairs_cons, getPayload_line unbroken, ih later others]
      by_cases same : pair.1 = key
      · rw [if_pos (starts.mpr same), List.find?_cons_of_pos (by simpa using same), ← same]
        simp
      · rw [if_neg (same ∘ starts.mp), List.find?_cons_of_neg (by simpa using same)]

theorem get_inverts_set {pairs : List (Str × Str)} {key : Str}
    (keys : ∀ pair ∈ pairs, IsKey pair.1) (values : ∀ pair ∈ pairs, 0x0A ∉ pair.2)
    (isKey : IsKey key) (fallback : Str) :
    (∀ turns > (ofPairs pairs).length, get turns (ofPairs pairs) key fallback =
      some (((pairs.find? fun pair => pair.1 = key).map Prod.snd).getD fallback)) ∧
      ∀ s key fallback : Str, ∀ turns > s.length, (get turns s key fallback).isSome = true := by
  refine ⟨fun turns enough => ?_, fun s key fallback turns enough => ?_⟩
  · rw [get_eq enough, getPayload_ofPairs keys values isKey]
  · rw [get_eq enough]
    rfl

theorem repeatedKey_found :
    get 20 (ofPairs [("", "w"), ("ab", ""), ("a", "x=y"), ("a", "z")]) "a" "?" = some "x=y" :=
  (get_inverts_set (by decide) (by decide) (by decide) "?").1 20 (by decide)

end Payload

end

end ReplicaFabric
