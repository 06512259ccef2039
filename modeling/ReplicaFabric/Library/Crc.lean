import Mathlib.Data.BitVec
import Mathlib.Logic.Function.Iterate
import ReplicaFabric.Library.ByteCodec

/-!
# Cyclic redundancy checks

The register of a reflected check takes in a byte by an exclusive or and eight shifts. A shift is
linear, and injective when the polynomial has its top bit, so two byte strings that differ inside
a window no wider than the register leave different registers. A file that ends with its own
register leaves zero. To take in a byte at once is the same as to take in its bits one by one.
-/

namespace Crc

open ByteCodec

variable {w : Nat} {poly x y r r' : BitVec w} {bs cs : Bytes}

def bit (poly x : BitVec w) : BitVec w :=
  if x.getLsbD 0 then (x >>> 1) ^^^ poly else x >>> 1

theorem getLsbD_bit (i : Nat) :
    (bit poly x).getLsbD i = (x.getLsbD (i + 1) ^^ (x.getLsbD 0 && poly.getLsbD i)) := by
  unfold bit
  split
  · rename_i low
    simp [low, Nat.add_comm]
  · rename_i low
    simp [Bool.eq_false_of_not_eq_true low, Nat.add_comm]

@[simp] theorem bit_zero : bit poly 0#w = 0#w :=
  BitVec.eq_of_getLsbD_eq fun i _ => by simp [getLsbD_bit]

theorem bit_xor (x y : BitVec w) : bit poly (x ^^^ y) = bit poly x ^^^ bit poly y := by
  refine BitVec.eq_of_getLsbD_eq fun i _ => ?_
  simp only [getLsbD_bit, BitVec.getLsbD_xor, Bool.and_xor_distrib_right, Bool.xor_assoc,
    Bool.xor_left_comm]

theorem bit_ne_zero (top : poly.msb = true) (nonzero : x ≠ 0#w) : bit poly x ≠ 0#w := by
  intro vanished
  have bits (i : Nat) : (x.getLsbD (i + 1) ^^ (x.getLsbD 0 && poly.getLsbD i)) = false := by
    rw [← getLsbD_bit, vanished, BitVec.getLsbD_zero]
  have low : x.getLsbD 0 = false := by
    -- The last bit of the polynomial has nothing to cancel with.
    rw [BitVec.msb_eq_getLsbD_last] at top
    simpa [top, BitVec.getLsbD_of_ge x (w - 1 + 1) (by omega)] using bits (w - 1)
  refine nonzero (BitVec.eq_of_getLsbD_eq fun i _ => ?_)
  cases i with
  | zero => simpa using low
  | succ i => simpa [low] using bits i

theorem bit_injective (top : poly.msb = true) : Function.Injective (bit poly) := by
  intro x y same
  by_contra distinct
  refine bit_ne_zero (x := x ^^^ y) top ?_ ?_
  · rwa [Ne, BitVec.xor_eq_zero_iff]
  · rw [bit_xor, same, BitVec.xor_self]

theorem bits_zero (k : Nat) : (bit poly)^[k] 0#w = 0#w :=
  Function.iterate_fixed bit_zero k

theorem bits_xor (k : Nat) (x y : BitVec w) :
    (bit poly)^[k] (x ^^^ y) = (bit poly)^[k] x ^^^ (bit poly)^[k] y := by
  induction k generalizing x y with
  | zero => rfl
  | succ k ih => rw [Function.iterate_succ_apply, bit_xor, ih]; rfl

theorem bits_of_clear {k : Nat} (clear : ∀ i < k, x.getLsbD i = false) :
    (bit poly)^[k] x = x >>> k := by
  induction k generalizing x with
  | zero => simp
  | succ k ih =>
      have low : bit poly x = x >>> 1 := by simp [bit, clear 0 (Nat.succ_pos k)]
      rw [Function.iterate_succ_apply, low, ih, ← BitVec.shiftRight_add, Nat.add_comm]
      intro i below
      simpa [Nat.add_comm] using clear (i + 1) (by omega)

theorem bits_shiftLeft {k : Nat} (x : BitVec w) : (bit poly)^[k] (x <<< k) = x <<< k >>> k :=
  bits_of_clear fun i below => by simp [below]

def ofByte (w : Nat) (b : UInt8) : BitVec w := b.toBitVec.setWidth w

def feed (poly r : BitVec w) (bs : Bytes) : BitVec w :=
  bs.foldl (fun r b => (bit poly)^[8] (r ^^^ ofByte w b)) r

@[simp] theorem feed_nil : feed poly r [] = r := rfl

theorem feed_cons (b : UInt8) :
    feed poly r (b :: bs) = feed poly ((bit poly)^[8] (r ^^^ ofByte w b)) bs := rfl

theorem feed_append : feed poly r (bs ++ cs) = feed poly (feed poly r bs) cs :=
  List.foldl_append ..

theorem feed_byte (r : BitVec w) (b : UInt8) :
    (bit poly)^[8] (r ^^^ ofByte w b) =
      (bit poly)^[8] ((r.setWidth 8 ^^^ b.toBitVec).setWidth w) ^^^ (r >>> 8) := by
  have split : r ^^^ ofByte w b =
      (r.setWidth 8 ^^^ b.toBitVec).setWidth w ^^^ (r >>> 8 <<< 8) := by
    refine BitVec.eq_of_getLsbD_eq fun i inside => ?_
    by_cases low : i < 8
    · simp [ofByte, low, inside]
    · have byte : b.toBitVec.getLsbD i = false := BitVec.getLsbD_of_ge _ _ (by omega)
      simp [ofByte, low, inside, byte, show 8 + (i - 8) = i by omega]
  have high : r >>> 8 <<< 8 >>> 8 = r >>> 8 := by
    refine BitVec.eq_of_getLsbD_eq fun i inside => ?_
    by_cases fits : 8 + i < w
    · simp [fits]
    · simp [fits, BitVec.getLsbD_of_ge r (8 + i) (by omega)]
  rw [split, bits_xor, bits_shiftLeft, high]

def serialBit (poly r : BitVec w) (b : Bool) : BitVec w :=
  if r.getLsbD 0 ^^ b then (r >>> 1) ^^^ poly else r >>> 1

def serial (poly r : BitVec w) (bits : List Bool) : BitVec w := bits.foldl (serialBit poly) r

/-- The bits of a byte, the least significant first. -/
def bitsOf (b : UInt8) : List Bool := (List.range 8).map b.toBitVec.getLsbD

theorem getLsbD_serialBit (b : Bool) (i : Nat) :
    (serialBit poly r b).getLsbD i =
      (r.getLsbD (i + 1) ^^ ((r.getLsbD 0 ^^ b) && poly.getLsbD i)) := by
  unfold serialBit
  split
  · rename_i feedback
    simp [feedback, Nat.add_comm]
  · rename_i silent
    simp [Bool.eq_false_of_not_eq_true silent, Nat.add_comm]

theorem serialBit_eq (wide : 0 < w) (b : Bool) :
    serialBit poly r b = bit poly (r ^^^ (BitVec.ofBool b).setWidth w) := by
  refine BitVec.eq_of_getLsbD_eq fun i _ => ?_
  simp [getLsbD_serialBit, getLsbD_bit, wide]

theorem ofBoolListLE_cons (b : Bool) (bits : List Bool) :
    (BitVec.ofBoolListLE (b :: bits)).setWidth w =
      (BitVec.ofBool b).setWidth w ^^^ ((BitVec.ofBoolListLE bits).setWidth w <<< 1) := by
  refine BitVec.eq_of_getLsbD_eq fun i inside => ?_
  rw [BitVec.getLsbD_setWidth, BitVec.getLsbD_ofBoolListLE]
  cases i with
  | zero => simp [inside]
  | succ i => simp [inside]

theorem serial_eq (bits : List Bool) (short : bits.length ≤ w) :
    serial poly r bits =
      (bit poly)^[bits.length] (r ^^^ (BitVec.ofBoolListLE bits).setWidth w) := by
  induction bits generalizing r with
  | nil => simp [serial, BitVec.ofBoolListLE]
  | cons b bits ih =>
      rw [List.length_cons] at short
      have room : (BitVec.ofBoolListLE bits).setWidth w <<< 1 >>> 1 =
          (BitVec.ofBoolListLE bits).setWidth w := by
        refine BitVec.eq_of_getLsbD_eq fun i inside => ?_
        by_cases fits : i < bits.length
        · simp [inside, show 1 + i < w by omega]
        · simp [inside, fits]
      have rest : bit poly ((BitVec.ofBoolListLE bits).setWidth w <<< 1) =
          (BitVec.ofBoolListLE bits).setWidth w := (bits_shiftLeft (k := 1) _).trans room
      calc serial poly r (b :: bits)
          = serial poly (serialBit poly r b) bits := rfl
        _ = (bit poly)^[bits.length]
              (serialBit poly r b ^^^ (BitVec.ofBoolListLE bits).setWidth w) := ih (by omega)
        _ = (bit poly)^[bits.length] (bit poly
              (r ^^^ (BitVec.ofBool b).setWidth w ^^^
                ((BitVec.ofBoolListLE bits).setWidth w <<< 1))) := by
              rw [bit_xor, rest, serialBit_eq (by omega)]
        _ = (bit poly)^[(b :: bits).length]
              (r ^^^ (BitVec.ofBoolListLE (b :: bits)).setWidth w) := by
              rw [ofBoolListLE_cons, BitVec.xor_assoc]
              rfl

theorem serial_bitsOf (byte : 8 ≤ w) (b : UInt8) :
    serial poly r (bitsOf b) = (bit poly)^[8] (r ^^^ ofByte w b) := by
  have same : (BitVec.ofBoolListLE (bitsOf b)).setWidth w = ofByte w b := by
    refine BitVec.eq_of_getLsbD_eq fun i inside => ?_
    rw [BitVec.getLsbD_setWidth, BitVec.getLsbD_ofBoolListLE]
    by_cases low : i < 8
    · simp [ofByte, bitsOf, low, inside]
    · simp [ofByte, bitsOf, low, inside, BitVec.getLsbD_of_ge b.toBitVec i (by omega)]
  rw [serial_eq (bitsOf b) byte, same]
  rfl

theorem feed_eq_serial (byte : 8 ≤ w) (bs : Bytes) :
    feed poly r bs = serial poly r (bs.flatMap bitsOf) := by
  induction bs generalizing r with
  | nil => rfl
  | cons b bs ih =>
      rw [feed_cons, ← serial_bitsOf byte, ih, List.flatMap_cons]
      exact (List.foldl_append ..).symm

def word (w : Nat) (bs : Bytes) : BitVec w := BitVec.ofNat w (leJoin bs)

theorem word_cons (b : UInt8) (bs : Bytes) :
    word w (b :: bs) = ofByte w b ^^^ (word w bs <<< 8) := by
  refine BitVec.eq_of_getLsbD_eq fun i inside => ?_
  have byte : b.toNat.testBit i = b.toBitVec.getLsbD i := rfl
  simp only [word, ofByte, leJoin, BitVec.getLsbD_ofNat, BitVec.getLsbD_xor,
    BitVec.getLsbD_setWidth, BitVec.getLsbD_shiftLeft, Nat.testBit_or, Nat.testBit_shiftLeft, byte]
  by_cases low : i < 8
  · simp [inside, low, Nat.not_le.mpr low]
  · simp [inside, low, Nat.le_of_not_lt low, show i - 8 < w by omega]

theorem word_shiftLeft (short : 8 * (bs.length + 1) ≤ w) : word w bs <<< 8 >>> 8 = word w bs := by
  have room : leJoin bs * 2 ^ 8 < 2 ^ w :=
    calc leJoin bs * 2 ^ 8 < 2 ^ (8 * bs.length) * 2 ^ 8 :=
          Nat.mul_lt_mul_of_pos_right (leJoin_lt bs) (by decide)
      _ = 2 ^ (8 * (bs.length + 1)) := (Nat.pow_add ..).symm
      _ ≤ 2 ^ w := Nat.pow_le_pow_right Nat.two_pos short
  have fits : leJoin bs < 2 ^ w := by omega
  refine BitVec.eq_of_toNat_eq ?_
  simp only [word, BitVec.toNat_ushiftRight, BitVec.toNat_shiftLeft, BitVec.toNat_ofNat,
    Nat.shiftLeft_eq, Nat.mod_eq_of_lt fits, Nat.mod_eq_of_lt room, Nat.shiftRight_eq_div_pow]
  omega

theorem word_injective (short : 8 * bs.length ≤ w) (lengths : bs.length = cs.length)
    (same : word w bs = word w cs) : bs = cs := by
  have fits : leJoin bs < 2 ^ w := (leJoin_lt bs).trans_le (Nat.pow_le_pow_right Nat.two_pos short)
  have fits' : leJoin cs < 2 ^ w :=
    (leJoin_lt cs).trans_le (Nat.pow_le_pow_right Nat.two_pos (lengths ▸ short))
  have joined : leJoin bs = leJoin cs := by
    simpa [word, Nat.mod_eq_of_lt fits, Nat.mod_eq_of_lt fits'] using congrArg BitVec.toNat same
  rw [← leSplit_leJoin bs, ← leSplit_leJoin cs, joined, lengths]

theorem feed_word (bs : Bytes) (short : 8 * bs.length ≤ w) :
    feed poly r bs = (bit poly)^[8 * bs.length] (r ^^^ word w bs) := by
  induction bs generalizing r with
  | nil => simp [word, leJoin]
  | cons b bs ih =>
      rw [List.length_cons] at short ⊢
      have rest : (bit poly)^[8] (word w bs <<< 8) = word w bs := by
        rw [bits_shiftLeft, word_shiftLeft short]
      rw [feed_cons, ih (by omega), word_cons, ← BitVec.xor_assoc, Nat.mul_add,
        Function.iterate_add_apply, bits_xor 8 (r ^^^ ofByte w b), rest]

theorem feed_injective (top : poly.msb = true) (bs : Bytes) :
    Function.Injective fun r => feed poly r bs := by
  induction bs with
  | nil => exact fun r r' same => same
  | cons b bs ih =>
      intro r r' same
      exact (BitVec.xor_left_inj _).mp ((bit_injective top).iterate 8 (ih same))

theorem feed_middle (top : poly.msb = true) (before after : Bytes) (short : 8 * bs.length ≤ w)
    (lengths : bs.length = cs.length)
    (same : feed poly r (before ++ (bs ++ after)) = feed poly r (before ++ (cs ++ after))) :
    bs = cs := by
  simp only [feed_append] at same
  have windows := feed_injective top after same
  rw [feed_word bs short, feed_word cs (lengths ▸ short), ← lengths] at windows
  exact word_injective short lengths
    ((BitVec.xor_right_inj _).mp ((bit_injective top).iterate _ windows))

/-- Two strings of one length that differ inside a window of the width of the register, and leave
the same register, are equal. -/
theorem eq_of_window (top : poly.msb = true) {start width : Nat} (short : 8 * width ≤ w)
    (lengths : bs.length = cs.length)
    (outside : ∀ i, ¬(start ≤ i ∧ i < start + width) → bs[i]? = cs[i]?)
    (same : feed poly r bs = feed poly r cs) : bs = cs := by
  have before : bs.take start = cs.take start := by
    refine List.ext_getElem? fun i => ?_
    by_cases below : i < start
    · simpa [List.getElem?_take, below] using outside i (by omega)
    · simp [below]
  have after : (bs.drop start).drop width = (cs.drop start).drop width := by
    refine List.ext_getElem? fun i => ?_
    simpa [List.getElem?_drop] using outside (start + width + i) (by omega)
  have parts (ds : Bytes) :
      ds = ds.take start ++ ((ds.drop start).take width ++ (ds.drop start).drop width) := by
    rw [List.take_append_drop, List.take_append_drop]
  have middle : (bs.drop start).take width = (cs.drop start).take width := by
    refine feed_middle top (bs.take start) ((bs.drop start).drop width) (r := r) ?_
      (by simp [lengths]) ?_
    · have := List.length_take_le width (bs.drop start)
      omega
    · rw [← parts, before, after, ← parts]
      exact same
  rw [parts bs, parts cs, before, middle, after]

theorem feed_residue {data stored : Bytes} (whole : 8 * stored.length = w)
    (same : word w stored = feed poly r data) : feed poly r (data ++ stored) = 0#w := by
  rw [feed_append, feed_word stored whole.le, same, BitVec.xor_self, bits_zero]

end Crc
