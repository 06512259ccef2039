import Mathlib.Data.Nat.Digits.Defs

/-!
# Numerals of a fixed length

The most significant digit first. Of numerals with one length the lexicographic order is the order
of their values, and so it is of their texts if the characters of the digits are in order.
-/

namespace Digits

variable {base : Nat} {ds es : List Nat}

def value (base : Nat) (ds : List Nat) : Nat := Nat.ofDigits base ds.reverse

def ofValue (base n v : Nat) : List Nat := ((List.range n).map fun k => v / base ^ k % base).reverse

@[simp] theorem value_nil : value base [] = 0 := rfl

theorem value_cons (d : Nat) : value base (d :: ds) = d * base ^ ds.length + value base ds := by
  rw [value, Nat.ofDigits_reverse_cons, ← value, Nat.add_comm, Nat.mul_comm]

theorem value_append :
    value base (ds ++ es) = value base ds * base ^ es.length + value base es := by
  rw [value, List.reverse_append, Nat.ofDigits_append, ← value, ← value, List.length_reverse,
    Nat.add_comm, Nat.mul_comm]

theorem foldl_digits (v : Nat) :
    ds.foldl (fun v d => v * base + d) v = v * base ^ ds.length + value base ds := by
  induction ds generalizing v with
  | nil => simp
  | cons d ds ih =>
      rw [List.foldl_cons, ih, value_cons, List.length_cons]
      ring

theorem value_lt (large : 1 < base) (digits : ∀ d ∈ ds, d < base) :
    value base ds < base ^ ds.length := by
  rw [value, ← List.length_reverse]
  exact Nat.ofDigits_lt_base_pow_length large fun d member => digits d (List.mem_reverse.mp member)

@[simp] theorem length_ofValue (n v : Nat) : (ofValue base n v).length = n := by simp [ofValue]

theorem ofValue_lt (large : 1 < base) {n v d : Nat} (member : d ∈ ofValue base n v) : d < base := by
  obtain ⟨k, -, rfl⟩ := List.mem_map.mp (List.mem_reverse.mp member)
  exact Nat.mod_lt _ (Nat.zero_lt_of_lt large)

theorem value_ofValue (n v : Nat) : value base (ofValue base n v) = v % base ^ n := by
  rw [value, ofValue, List.reverse_reverse]
  induction n with
  | zero => simp [Nat.mod_one]
  | succ n ih =>
      rw [List.range_succ, List.map_append, Nat.ofDigits_append, ih, List.map_singleton,
        Nat.ofDigits_singleton, List.length_map, List.length_range, Nat.mod_pow_succ]

theorem ofValue_value (large : 1 < base) (digits : ∀ d ∈ ds, d < base) :
    ofValue base ds.length (value base ds) = ds := by
  have same : value base (ofValue base ds.length (value base ds)) = value base ds := by
    rw [value_ofValue, Nat.mod_eq_of_lt (value_lt large digits)]
  refine List.reverse_inj.mp (Nat.ofDigits_inj_of_len_eq large (by simp) ?_ ?_ same)
  · exact fun d member => ofValue_lt large (List.mem_reverse.mp member)
  · exact fun d member => digits d (List.mem_reverse.mp member)

theorem compare_parts {m x x' y y' : Nat} (low : y < m) (low' : y' < m) :
    compare (x * m + y) (x' * m + y') = (compare x x').then (compare y y') := by
  rcases Nat.lt_trichotomy x x' with less | rfl | more
  · have : (x + 1) * m ≤ x' * m := Nat.mul_le_mul_right m less
    rw [Nat.compare_eq_lt.mpr less, Nat.compare_eq_lt.mpr (by linarith)]
    rfl
  · rw [Std.ReflOrd.compare_self, Nat.compare_eq_ite_lt, Ordering.then, Nat.compare_eq_ite_lt]
    simp only [Nat.add_lt_add_iff_left]
  · have : (x' + 1) * m ≤ x * m := Nat.mul_le_mul_right m more
    rw [Nat.compare_eq_gt.mpr more, Nat.compare_eq_gt.mpr (by linarith)]
    rfl

theorem compare_value (large : 1 < base) (lengths : ds.length = es.length)
    (digits : ∀ d ∈ ds, d < base) (digits' : ∀ e ∈ es, e < base) :
    compare ds es = compare (value base ds) (value base es) := by
  induction ds generalizing es with
  | nil =>
      obtain rfl := List.eq_nil_of_length_eq_zero lengths.symm
      rfl
  | cons d ds ih =>
      cases es with
      | nil => cases lengths
      | cons e es =>
          have lengths := Nat.succ.inj lengths
          have rest := List.forall_mem_cons.mp digits
          have rest' := List.forall_mem_cons.mp digits'
          have step : compare (d :: ds) (e :: es) = (compare d e).then (compare ds es) :=
            List.compare_cons_cons
          have low := value_lt large rest'.2
          rw [← lengths] at low
          rw [step, ih lengths rest.2 rest'.2, value_cons, value_cons, ← lengths,
            compare_parts (value_lt large rest.2) low]

theorem compare_map {α : Type} [Ord α] {char : Nat → α}
    (chars : ∀ d < base, ∀ e < base, compare (char d) (char e) = compare d e)
    (digits : ∀ d ∈ ds, d < base) (digits' : ∀ e ∈ es, e < base) :
    compare (ds.map char) (es.map char) = compare ds es := by
  induction ds generalizing es with
  | nil => cases es <;> rfl
  | cons d ds ih =>
      cases es with
      | nil => rfl
      | cons e es =>
          have rest := List.forall_mem_cons.mp digits
          have rest' := List.forall_mem_cons.mp digits'
          have step : compare (d :: ds) (e :: es) = (compare d e).then (compare ds es) :=
            List.compare_cons_cons
          rw [step, ← chars d rest.1 e rest'.1, ← ih rest.2 rest'.2]
          exact List.compare_cons_cons

theorem compare_append {α : Type} [Ord α] {s t u v : List α} (lengths : s.length = t.length) :
    compare (s ++ u) (t ++ v) = (compare s t).then (compare u v) := by
  induction s generalizing t with
  | nil =>
      obtain rfl := List.eq_nil_of_length_eq_zero lengths.symm
      rfl
  | cons a s ih =>
      cases t with
      | nil => cases lengths
      | cons b t =>
          rw [List.cons_append, List.cons_append, List.compare_cons_cons, List.compare_cons_cons,
            ih (Nat.succ.inj lengths), Ordering.then_assoc]

theorem compare_eq_lt {α : Type} [Ord α] [Std.LawfulEqOrd α] [LT α]
    (order : ∀ a b : α, compare a b = .lt ↔ a < b) {s t : List α} :
    compare s t = .lt ↔ s < t := by
  induction s generalizing t with
  | nil =>
      cases t with
      | nil => simp
      | cons b t => simp [List.compare_nil_cons]
  | cons a s ih =>
      cases t with
      | nil => simp [List.compare_cons_nil]
      | cons b t =>
          rw [List.compare_cons_cons, Ordering.then_eq_lt, order, ih, List.cons_lt_cons_iff,
            Std.LawfulEqOrd.compare_eq_iff_eq]

end Digits
