import Mathlib.Data.Nat.Bitwise
import Mathlib.Tactic.Common

/-!
# Byte codecs

A reader consumes a prefix of its input or fails. `Reads` relates a reader to the bytes that a
writer made of a value: the reader returns the value exactly when it is valid, and fails
otherwise. The rules below prove it of a record field by field, in the order of the fields.
-/

namespace ByteCodec

abbrev Bytes := List UInt8

/-- The `n` low bytes of `v`, the least significant first. -/
def leSplit : Nat → Nat → Bytes
  | 0, _ => []
  | n + 1, v => UInt8.ofNat v :: leSplit n (v >>> 8)

def leJoin : Bytes → Nat
  | [] => 0
  | b :: bs => b.toNat ||| (leJoin bs <<< 8)

def beSplit (n v : Nat) : Bytes := (leSplit n v).reverse

def beJoin (bs : Bytes) : Nat := bs.foldl (fun v b => b.toNat ||| (v <<< 8)) 0

@[simp] theorem length_leSplit (n v : Nat) : (leSplit n v).length = n := by
  induction n generalizing v with
  | zero => rfl
  | succ n ih => simp [leSplit, ih]

@[simp] theorem length_beSplit (n v : Nat) : (beSplit n v).length = n := by
  simp [beSplit]

theorem leJoin_leSplit (n v : Nat) : leJoin (leSplit n v) = v % 2 ^ (8 * n) := by
  induction n generalizing v with
  | zero => simp [leSplit, leJoin, Nat.mod_one]
  | succ n ih =>
      have low : v % 2 ^ 8 < 2 ^ 8 := Nat.mod_lt _ (by decide)
      have split : v % 2 ^ (8 * (n + 1)) = 2 ^ 8 * (v / 2 ^ 8 % 2 ^ (8 * n)) + v % 2 ^ 8 := by
        rw [Nat.mul_add, Nat.add_comm (8 * n), Nat.pow_add, Nat.mod_mul, Nat.add_comm]
      have byte : (UInt8.ofNat v).toNat = v % 2 ^ 8 := UInt8.toNat_ofNat'
      rw [leSplit, leJoin, ih, byte, Nat.lor_comm, ← Nat.shiftLeft_add_eq_or_of_lt low,
        Nat.shiftLeft_eq, Nat.shiftRight_eq_div_pow, split, Nat.mul_comm]

theorem leJoin_cons (b : UInt8) (bs : Bytes) : leJoin (b :: bs) = leJoin bs * 2 ^ 8 + b.toNat := by
  rw [leJoin, Nat.lor_comm, ← Nat.shiftLeft_add_eq_or_of_lt b.toNat_lt, Nat.shiftLeft_eq]

theorem leJoin_lt (bs : Bytes) : leJoin bs < 2 ^ (8 * bs.length) := by
  induction bs with
  | nil => exact Nat.one_pos
  | cons b bs ih =>
      have byte := b.toNat_lt
      rw [leJoin_cons, List.length_cons, Nat.mul_add, Nat.pow_add]
      omega

theorem leSplit_leJoin (bs : Bytes) : leSplit bs.length (leJoin bs) = bs := by
  induction bs with
  | nil => rfl
  | cons b bs ih =>
      have byte := b.toNat_lt
      have low : UInt8.ofNat (leJoin (b :: bs)) = b := by
        rw [leJoin_cons, ← UInt8.toNat_inj, UInt8.toNat_ofNat']
        omega
      have high : leJoin (b :: bs) >>> 8 = leJoin bs := by
        rw [leJoin_cons, Nat.shiftRight_eq_div_pow]
        omega
      rw [List.length_cons, leSplit, low, high, ih]

theorem beJoin_eq (bs : Bytes) : beJoin bs = leJoin bs.reverse := by
  have asJoin (bs : Bytes) : bs.foldr (fun b v => b.toNat ||| (v <<< 8)) 0 = leJoin bs := by
    induction bs with
    | nil => rfl
    | cons b bs ih => simp [leJoin, ih]
  rw [beJoin, ← asJoin, List.foldr_reverse]

theorem beJoin_lt (bs : Bytes) : beJoin bs < 2 ^ (8 * bs.length) := by
  rw [beJoin_eq, ← List.length_reverse]
  exact leJoin_lt _

theorem beJoin_beSplit (n v : Nat) : beJoin (beSplit n v) = v % 2 ^ (8 * n) := by
  rw [beJoin_eq, beSplit, List.reverse_reverse, leJoin_leSplit]

theorem beSplit_beJoin (bs : Bytes) : beSplit bs.length (beJoin bs) = bs := by
  rw [beJoin_eq, beSplit, ← List.length_reverse, leSplit_leJoin, List.reverse_reverse]

def cut : List Nat → Bytes → List Bytes
  | [], bs => [bs]
  | k :: widths, bs => bs.take k :: cut widths (bs.drop k)

theorem flatten_cut (widths : List Nat) (bs : Bytes) : (cut widths bs).flatten = bs := by
  induction widths generalizing bs with
  | nil => exact List.append_nil bs
  | cons k widths ih => rw [cut, List.flatten_cons, ih, List.take_append_drop]

theorem cut_flatten (pieces : List Bytes) (last : Bytes) :
    cut (pieces.map List.length) (pieces.flatten ++ last) = pieces ++ [last] := by
  induction pieces with
  | nil => rfl
  | cons piece pieces ih =>
      rw [List.map_cons, cut, List.flatten_cons, List.append_assoc, List.take_left,
        List.drop_left, ih, List.cons_append]

abbrev Reader (ε : Type) := StateT Bytes (Except ε)

variable {ε α β σ : Type}

def take (n : Nat) (tooShort : ε) : Reader ε Bytes := fun input =>
  if input.length < n then .error tooShort else .ok (input.take n, input.drop n)

def remaining : Reader ε Nat := fun input => .ok (input.length, input)

def ended : Reader ε Bool := fun input => .ok (input.isEmpty, input)

def foldTimes (rd : Reader ε α) (f : σ → α → Except ε σ) : Nat → σ → Reader ε σ
  | 0, s => pure s
  | n + 1, s => do
      let x ← rd
      let s ← f s x
      foldTimes rd f n s

/-- Read a count, and fold that many items. A count above the number of bytes left is refused
before the first item is read. -/
def foldOf (readCount : Reader ε Nat) (tooMany : ε) (rd : Reader ε α) (f : σ → α → Except ε σ)
    (s : σ) : Reader ε σ := do
  let n ← readCount
  let left ← remaining
  if n > left then throw tooMany else foldTimes rd f n s

def listOf (readCount : Reader ε Nat) (tooMany : ε) (rd : Reader ε α) : Reader ε (List α) :=
  foldOf readCount tooMany rd (fun xs x => .ok (xs ++ [x])) []

def mapError (g : ε → ε) (rd : Reader ε α) : Reader ε α := fun input => (rd input).mapError g

/-- On the bytes `w` of a value `x`, when they fit the size limit, the reader returns `x` and
consumes exactly `w` if the value is valid, and fails if it is not. -/
def Reads (limit : Nat) (rd : Reader ε α) (w : Bytes) (x : α) (valid : Prop) : Prop :=
  w.length < limit → ∀ rest,
    (valid → rd (w ++ rest) = .ok (x, rest)) ∧ (¬valid → ∃ e, rd (w ++ rest) = .error e)

namespace Reads

variable {limit : Nat} {rd : Reader ε α} {w w' : Bytes} {x : α} {y : β} {valid valid' : Prop}
  {f : α → Reader ε β}

theorem pure (x : α) : Reads limit (pure x : Reader ε α) [] x True :=
  fun _ _ => ⟨fun _ => rfl, fun contra => absurd trivial contra⟩

theorem congr (reads : Reads limit rd w x valid) (same : valid ↔ valid') :
    Reads limit rd w x valid' := by
  rwa [← same]

theorem bind (first : Reads limit rd w x valid) (second : Reads limit (f x) w' y valid') :
    Reads limit (rd >>= f) (w ++ w') y (valid ∧ valid') := by
  intro fits rest
  rw [List.length_append] at fits
  obtain ⟨accepts, rejects⟩ := first (by omega) (w' ++ rest)
  obtain ⟨accepts', rejects'⟩ := second (by omega) rest
  have run : (rd >>= f) (w ++ w' ++ rest) = (rd (w ++ (w' ++ rest)) >>= fun p => f p.1 p.2) := by
    rw [List.append_assoc]
    rfl
  rw [run]
  constructor
  · rintro ⟨ok, ok'⟩
    rw [accepts ok]
    exact accepts' ok'
  · intro bad
    by_cases ok : valid
    · rw [accepts ok]
      exact rejects' fun ok' => bad ⟨ok, ok'⟩
    · obtain ⟨e, failed⟩ := rejects ok
      exact ⟨e, by rw [failed]; rfl⟩

theorem both {ws : List Bytes} (first : Reads limit rd w x valid)
    (rest : Reads limit (f x) ws.flatten y valid') :
    Reads limit (rd >>= f) (w :: ws).flatten y (valid ∧ valid') := by
  rw [List.flatten_cons]
  exact first.bind rest

theorem field {ws : List Bytes} (first : Reads limit rd w x True)
    (rest : Reads limit (f x) ws.flatten y valid) :
    Reads limit (rd >>= f) (w :: ws).flatten y valid :=
  (first.both rest).congr (and_iff_right trivial)

theorem decides {ws : List Bytes} (first : Reads limit rd w x valid)
    (rest : Reads limit (f x) ws.flatten y True) :
    Reads limit (rd >>= f) (w :: ws).flatten y valid :=
  (first.both rest).congr (and_iff_left trivial)

theorem map (reads : Reads limit rd w x valid) {g : α → β} (converts : g x = y) :
    Reads limit (rd >>= fun x => Pure.pure (g x)) w y valid := by
  have both : Reads limit (rd >>= fun x => Pure.pure (g x)) (w ++ []) y (valid ∧ True) :=
    reads.bind (by rw [converts]; exact pure y)
  rw [List.append_nil] at both
  exact both.congr (and_iff_left trivial)

theorem check (reads : Reads limit rd w x True) (accepts : valid → f x = Pure.pure y)
    (rejects : ¬valid → ∃ e, f x = throw e) : Reads limit (rd >>= f) w y valid := by
  intro fits rest
  have run : (rd >>= f) (w ++ rest) = f x rest := by
    change (rd (w ++ rest) >>= fun p => f p.1 p.2) = _
    rw [(reads fits rest).1 trivial]
    rfl
  rw [run]
  constructor
  · intro ok
    rw [accepts ok]
    rfl
  · intro bad
    obtain ⟨e, failed⟩ := rejects bad
    exact ⟨e, by rw [failed]; rfl⟩

theorem of_fits (reads : w.length < limit → Reads limit rd w x valid) :
    Reads limit rd w x valid :=
  fun fits => reads fits fits

theorem mapError (reads : Reads limit rd w x valid) (g : ε → ε) :
    Reads limit (mapError g rd) w x valid := by
  intro fits rest
  obtain ⟨accepts, rejects⟩ := reads fits rest
  constructor
  · intro ok
    simp only [ByteCodec.mapError, accepts ok, Except.mapError]
  · intro bad
    obtain ⟨e, failed⟩ := rejects bad
    exact ⟨g e, by simp only [ByteCodec.mapError, failed, Except.mapError]⟩

theorem take {n : Nat} (e : ε) (length : w.length = n) : Reads limit (take n e) w w True := by
  intro _ rest
  have enough : ¬(w ++ rest).length < n := by rw [List.length_append]; omega
  refine ⟨fun _ => ?_, fun contra => absurd trivial contra⟩
  simp only [ByteCodec.take, if_neg enough, List.take_left' length, List.drop_left' length]

variable {enc : α → Bytes} {ok : α → Prop} {fold : σ → α → Except ε σ} {s s' : σ} {xs : List α}

theorem foldTimes (items : ∀ x ∈ xs, Reads limit rd (enc x) x (ok x))
    (folds : xs.foldlM fold s = .ok s') :
    Reads limit (foldTimes rd fold xs.length s) (xs.flatMap enc) s' (∀ x ∈ xs, ok x) := by
  induction xs generalizing s with
  | nil =>
      cases folds
      exact (pure s').congr (by simp)
  | cons x xs ih =>
      rw [List.foldlM_cons] at folds
      cases step : fold s x with
      | error e => simp [step, Bind.bind, Except.bind] at folds
      | ok s1 =>
          rw [step] at folds
          have tail := ih (fun y member => items y (List.mem_cons_of_mem _ member)) folds
          have head := items x List.mem_cons_self
          have both : Reads limit (rd >>= fun x => (monadLift (fold s x) : Reader ε σ) >>= fun s =>
              ByteCodec.foldTimes rd fold xs.length s) (enc x ++ xs.flatMap enc) s'
              (ok x ∧ ∀ x ∈ xs, ok x) := by
            refine head.bind ?_
            rw [step]
            exact tail
          exact both.congr List.forall_mem_cons.symm

theorem length_le_flatMap (nonempty : ∀ x ∈ xs, enc x ≠ []) :
    xs.length ≤ (xs.flatMap enc).length := by
  induction xs with
  | nil => exact le_rfl
  | cons x xs ih =>
      have head := List.length_pos_iff.mpr (nonempty x List.mem_cons_self)
      have tail := ih fun y member => nonempty y (List.mem_cons_of_mem _ member)
      rw [List.flatMap_cons, List.length_append, List.length_cons]
      omega

theorem foldOf {readCount : Reader ε Nat} {tooMany : ε}
    (count : Reads limit readCount w xs.length valid)
    (items : ∀ x ∈ xs, Reads limit rd (enc x) x (ok x)) (nonempty : ∀ x ∈ xs, enc x ≠ [])
    (folds : xs.foldlM fold s = .ok s') :
    Reads limit (foldOf readCount tooMany rd fold s) (w ++ xs.flatMap enc) s'
      (valid ∧ ∀ x ∈ xs, ok x) := by
  refine count.bind ?_
  intro fits rest
  have enough : ¬xs.length > (xs.flatMap enc ++ rest).length := by
    have atLeast := length_le_flatMap nonempty
    rw [List.length_append]
    omega
  have run : (remaining >>= fun left =>
      if xs.length > left then throw tooMany
      else ByteCodec.foldTimes rd fold xs.length s : Reader ε σ) (xs.flatMap enc ++ rest) =
        ByteCodec.foldTimes rd fold xs.length s (xs.flatMap enc ++ rest) := by
    change (if _ then _ else _ : Reader ε σ) (xs.flatMap enc ++ rest) = _
    rw [if_neg enough]
  rw [run]
  exact foldTimes items folds fits rest

theorem foldlM_push (xs ys : List α) :
    xs.foldlM (fun ys x => (.ok (ys ++ [x]) : Except ε (List α))) ys = .ok (ys ++ xs) := by
  induction xs generalizing ys with
  | nil => simp [Pure.pure, Except.pure]
  | cons x xs ih =>
      rw [List.foldlM_cons]
      exact (ih _).trans (by simp)

theorem listOf {readCount : Reader ε Nat} {tooMany : ε}
    (count : Reads limit readCount w xs.length valid)
    (items : ∀ x ∈ xs, Reads limit rd (enc x) x (ok x)) (nonempty : ∀ x ∈ xs, enc x ≠ []) :
    Reads limit (listOf readCount tooMany rd) (w ++ xs.flatMap enc) xs
      (valid ∧ ∀ x ∈ xs, ok x) :=
  foldOf count items nonempty (foldlM_push xs [])

end Reads

end ByteCodec
