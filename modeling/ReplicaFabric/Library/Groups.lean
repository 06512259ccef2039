import Mathlib.Algebra.GroupWithZero.Nat
import Mathlib.Data.List.Basic

/-!
# Groups

A text in groups has a mark between one group and the next. The places of the marks and the number
of the other characters determine the lengths of the groups.
-/

namespace Groups

variable {α : Type} {mark : α} {s group rest : List α} {n : Nat} {places : List Nat}

def ends : List Nat → List Nat
  | [] => []
  | [_] => []
  | n :: m :: lengths => n :: (ends (m :: lengths)).map (· + (n + 1))

def MarksAt (mark : α) (s : List α) (places : List Nat) : Prop :=
  ∀ i, s[i]? = some mark ↔ i ∈ places

theorem marksAt_nil : MarksAt mark s [] ↔ mark ∉ s := by
  simp [MarksAt, List.mem_iff_getElem?]

theorem marksAt_cons (length : group.length = n) (unmarked : mark ∉ group) :
    MarksAt mark (group ++ mark :: rest) (n :: places.map (· + (n + 1))) ↔
      MarksAt mark rest places := by
  have after (i : Nat) : (group ++ mark :: rest)[i + (n + 1)]? = rest[i]? := by
    rw [List.getElem?_append_right (by omega), ← length, show
      i + (group.length + 1) - group.length = i + 1 by omega, List.getElem?_cons_succ]
  have shifted (i : Nat) : i + (n + 1) ∈ n :: places.map (· + (n + 1)) ↔ i ∈ places := by
    simp [show i + (n + 1) ≠ n by omega]
  constructor
  · intro marks i
    rw [← after, marks, shifted]
  · intro marks i
    rcases Nat.lt_trichotomy i n with before | rfl | behind
    · have notHere : i ∉ n :: places.map (· + (n + 1)) := by
        simp only [List.mem_cons, List.mem_map, not_or, not_exists, not_and]
        exact ⟨Nat.ne_of_lt before, fun _ _ => by omega⟩
      rw [List.getElem?_append_left (by omega)]
      exact iff_of_false (fun marked => unmarked (List.mem_of_getElem? marked)) notHere
    · refine iff_of_true ?_ List.mem_cons_self
      rw [List.getElem?_append_right (by omega), length, Nat.sub_self, List.getElem?_cons_zero]
    · obtain ⟨j, rfl⟩ := Nat.exists_eq_add_of_le' (Nat.succ_le_of_lt behind)
      rw [after, shifted, marks]

theorem split_first (here : s[n]? = some mark) (first : ∀ i < n, s[i]? ≠ some mark) :
    s = s.take n ++ mark :: s.drop (n + 1) ∧ mark ∉ s.take n := by
  obtain ⟨inside, marked⟩ := List.getElem?_eq_some_iff.mp here
  constructor
  · rw [← marked, List.getElem_cons_drop, List.take_append_drop]
  · intro member
    obtain ⟨i, found⟩ := List.mem_iff_getElem?.mp member
    rw [List.getElem?_take] at found
    split at found
    case isFalse => cases found
    next before => exact first i before found

theorem MarksAt.front (marks : MarksAt mark s (n :: places)) (first : ∀ p ∈ places, n < p) :
    ∃ group rest, s = group ++ mark :: rest ∧ group.length = n ∧ mark ∉ group := by
  have here : s[n]? = some mark := (marks n).mpr List.mem_cons_self
  obtain ⟨inside, -⟩ := List.getElem?_eq_some_iff.mp here
  obtain ⟨parts, unmarked⟩ := split_first here fun i before found => by
    rcases List.mem_cons.mp ((marks i).mp found) with rfl | later
    · exact Nat.lt_irrefl _ before
    · exact Nat.lt_asymm before (first i later)
  exact ⟨_, _, parts, List.length_take_of_le (Nat.le_of_lt inside), unmarked⟩

theorem forall_mem_intercalate {p : α → Prop} (ofMark : p mark) {groups : List (List α)} :
    (∀ c ∈ [mark].intercalate groups, p c) ↔ ∀ g ∈ groups, ∀ c ∈ g, p c := by
  induction groups with
  | nil => simp
  | cons g groups ih =>
      cases groups with
      | nil => simp
      | cons h groups =>
          rw [List.intercalate_cons_cons, List.forall_mem_append, List.forall_mem_append,
            List.forall_mem_singleton, ih, List.forall_mem_cons (l := h :: groups)]
          exact ⟨fun ⟨⟨here, _⟩, there⟩ => ⟨here, there⟩, fun ⟨here, there⟩ =>
            ⟨⟨here, ofMark⟩, there⟩⟩

theorem countP_of_unmarked [DecidableEq α] (none : mark ∉ s) : s.countP (· ≠ mark) = s.length := by
  rw [List.countP_eq_length]
  intro c member
  simpa using fun same : c = mark => none (same ▸ member)

theorem groups_iff [DecidableEq α] (n : Nat) (lengths : List Nat) :
    (∃ groups, groups.map List.length = n :: lengths ∧ (∀ g ∈ groups, mark ∉ g) ∧
      s = [mark].intercalate groups) ↔
      MarksAt mark s (ends (n :: lengths)) ∧ s.countP (· ≠ mark) = (n :: lengths).sum := by
  induction lengths generalizing s n with
  | nil =>
      rw [ends, marksAt_nil, List.sum_singleton]
      constructor
      · rintro ⟨groups, lengths, none, rfl⟩
        obtain ⟨g, rfl, length⟩ := List.map_eq_singleton_iff.mp lengths
        rw [List.intercalate_singleton, countP_of_unmarked (none g (by simp))]
        exact ⟨none g (by simp), length⟩
      · rintro ⟨none, count⟩
        rw [countP_of_unmarked none] at count
        exact ⟨[s], by simp [count], by simpa using none, by simp⟩
  | cons m lengths ih =>
      rw [ends, List.sum_cons]
      constructor
      · rintro ⟨groups, lengths, none, rfl⟩
        obtain ⟨g, groups, rfl, length, lengths⟩ := List.map_eq_cons_iff.mp lengths
        obtain ⟨h, others, rfl, -, -⟩ := List.map_eq_cons_iff.mp lengths
        obtain ⟨noneHere, none⟩ := List.forall_mem_cons.mp none
        obtain ⟨marks, count⟩ := (ih m).mp ⟨_, lengths, none, rfl⟩
        rw [List.intercalate_cons_cons, List.append_assoc, List.singleton_append,
          marksAt_cons length noneHere, List.countP_append, List.countP_cons,
          countP_of_unmarked noneHere, count, length]
        exact ⟨marks, by simp⟩
      · rintro ⟨marks, count⟩
        obtain ⟨g, rest, rfl, length, noneHere⟩ := marks.front (by simp; omega)
        rw [marksAt_cons length noneHere] at marks
        rw [List.countP_append, List.countP_cons, countP_of_unmarked noneHere, length] at count
        have fewer : rest.countP (· ≠ mark) = (m :: lengths).sum := by
          simpa using count
        obtain ⟨groups, lengths, none, rfl⟩ := (ih m).mpr ⟨marks, fewer⟩
        obtain ⟨h, others, rfl, -, -⟩ := List.map_eq_cons_iff.mp lengths
        exact ⟨g :: h :: others, by rw [List.map_cons, length, lengths],
          List.forall_mem_cons.mpr ⟨noneHere, none⟩, by simp [List.intercalate_cons_cons]⟩

end Groups
