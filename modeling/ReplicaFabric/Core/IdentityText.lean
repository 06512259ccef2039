import ReplicaFabric.Core.Identity
import ReplicaFabric.Library.Digits

/-!
# Identities as texts

The text of an identity is a numeral of 32 hexadecimal digits. The parsers read it back, and texts
are in the order of the identities.
-/

namespace ReplicaFabric

/-- `kHex` -/
def hexChar (d : Nat) : UInt8 := (ascii "0123456789abcdef").getD d 0

def Uppercase (c : UInt8) : Prop := 0x41 ≤ c ∧ c ≤ 0x46

instance (c : UInt8) : Decidable (Uppercase c) := inferInstanceAs (Decidable (_ ∧ _))

theorem hexDigit_some {c : UInt8} {d : Nat} (digit : hexDigit c = some d) :
    d < 16 ∧ (hexChar d = c ↔ ¬Uppercase c) := by
  have all : ∀ n < 256, ∀ d ∈ hexDigit (UInt8.ofNat n),
      d < 16 ∧ (hexChar d = UInt8.ofNat n ↔ ¬Uppercase (UInt8.ofNat n)) := by decide +kernel
  have this_one := all c.toNat c.toNat_lt
  rw [UInt8.ofNat_toNat] at this_one
  exact this_one d digit

theorem hexDigit_hexChar : ∀ d < 16, hexDigit (hexChar d) = some d := by decide

theorem compare_hexChar : ∀ d < 16, ∀ e < 16, compare (hexChar d) (hexChar e) = compare d e := by
  decide

theorem nibble_eq (v : UInt64) {k : Nat} (inside : k < 16) :
    Id.nibble v k = v.toNat / 16 ^ k % 16 := by
  have shift : (UInt64.ofNat (k * 4)).toNat % 64 = k * 4 := by
    rw [UInt64.toNat_ofNat']
    omega
  have power : 2 ^ (k * 4) = 16 ^ k := by rw [Nat.mul_comm, Nat.pow_mul]
  rw [Id.nibble, UInt64.toNat_and, UInt64.toNat_shiftRight, shift, Nat.shiftRight_eq_div_pow,
    power]
  exact Nat.and_two_pow_sub_one_eq_mod _ 4

theorem writeHex_eq (v : UInt64) :
    Id.writeHex v = (Digits.ofValue 16 16 v.toNat).map hexChar := by
  have written : Id.writeHex v = (List.range 16).map fun i => hexChar (Id.nibble v (15 - i)) := rfl
  rw [written]
  refine List.ext_getElem (by simp) fun i inside _ => ?_
  simp [Digits.ofValue, nibble_eq v (show 15 - i < 16 by omega)]

theorem push_digit (x : Nat) {d : Nat} (digit : d < 16) :
    (UInt64.ofNat x <<< 4) ||| UInt64.ofNat d = UInt64.ofNat (x * 16 + d) := by
  refine UInt64.toNat_inj.mp ?_
  have moved : (x % 2 ^ 64) <<< 4 % 2 ^ 64 = (x % 2 ^ 60) <<< 4 := by
    rw [Nat.shiftLeft_eq, Nat.shiftLeft_eq]
    omega
  have small : d < 2 ^ 4 := digit
  rw [UInt64.toNat_or, UInt64.toNat_shiftLeft, UInt64.toNat_ofNat', UInt64.toNat_ofNat',
    UInt64.toNat_ofNat', show (4 : UInt64).toNat % 64 = 4 from rfl, moved,
    Nat.mod_eq_of_lt (show d < 2 ^ 64 by omega), ← Nat.shiftLeft_add_eq_or_of_lt small,
    Nat.shiftLeft_eq]
  omega

def Shows (s : Str) (ds : List Nat) : Prop := s.map hexDigit = ds.map some

theorem Shows.cons {c : UInt8} {s : Str} {ds : List Nat} (shows : Shows (c :: s) ds) :
    ∃ d rest, ds = d :: rest ∧ hexDigit c = some d ∧ Shows s rest := by
  obtain ⟨d, rest, rfl, digit, others⟩ := List.map_eq_cons_iff.mp shows.symm
  exact ⟨d, rest, rfl, digit.symm, others.symm⟩

theorem Shows.length {s : Str} {ds : List Nat} (shows : Shows s ds) : s.length = ds.length := by
  simpa using congrArg List.length shows

theorem Shows.digits {s : Str} {ds : List Nat} (shows : Shows s ds) : ∀ d ∈ ds, d < 16 := by
  intro d member
  have shown : some d ∈ s.map hexDigit := by
    rw [shows]
    exact List.mem_map_of_mem member
  obtain ⟨c, -, digit⟩ := List.mem_map.mp shown
  exact (hexDigit_some digit).1

def Hex (s : Str) : Prop := ∀ c ∈ s, (hexDigit c).isSome = true

instance (s : Str) : Decidable (Hex s) := inferInstanceAs (Decidable (∀ c ∈ s, _))

theorem Shows.hex {s : Str} {ds : List Nat} (shows : Shows s ds) : Hex s := by
  intro c member
  have shown : hexDigit c ∈ ds.map some := by
    rw [← shows]
    exact List.mem_map_of_mem member
  obtain ⟨d, -, digit⟩ := List.mem_map.mp shown
  rw [← digit]
  rfl

theorem Hex.noHyphen {s : Str} (hex : Hex s) : 0x2D ∉ s := by
  intro member
  cases hex _ member

theorem Hex.shows {s : Str} (hex : Hex s) : ∃ ds, Shows s ds := by
  induction s with
  | nil => exact ⟨[], rfl⟩
  | cons c s ih =>
      obtain ⟨first, rest⟩ := List.forall_mem_cons.mp hex
      obtain ⟨d, digit⟩ := Option.isSome_iff_exists.mp first
      obtain ⟨ds, shows⟩ := ih rest
      exact ⟨d :: ds, congrArg₂ List.cons digit shows⟩

theorem Shows.chars {s : Str} {ds : List Nat} (shows : Shows s ds)
    (lowercase : ∀ c ∈ s, ¬Uppercase c) : ds.map hexChar = s := by
  induction s generalizing ds with
  | nil =>
      obtain rfl : ds = [] := List.map_eq_nil_iff.mp shows.symm
      rfl
  | cons c s ih =>
      obtain ⟨d, ds, rfl, digit, rest⟩ := shows.cons
      obtain ⟨first, others⟩ := List.forall_mem_cons.mp lowercase
      rw [List.map_cons, (hexDigit_some digit).2.mpr first, ih rest others]

theorem shows_chars {ds : List Nat} (digits : ∀ d ∈ ds, d < 16) : Shows (ds.map hexChar) ds := by
  rw [Shows, List.map_map]
  exact List.map_congr_left fun d member => hexDigit_hexChar d (digits d member)

theorem parseHex_shows {s : Str} {ds : List Nat} (shows : Shows s ds) (length : s.length = 16) :
    parseHex s = some (UInt64.ofNat (Digits.value 16 ds)) := by
  have folds (x : Nat) : s.foldlM (fun (v : UInt64) c =>
      (hexDigit c).map fun d => (v <<< 4) ||| UInt64.ofNat d) (UInt64.ofNat x) =
        some (UInt64.ofNat (ds.foldl (fun v d => v * 16 + d) x)) := by
    have digits := shows.digits
    clear length
    induction s generalizing ds x with
    | nil =>
        obtain rfl : ds = [] := List.map_eq_nil_iff.mp shows.symm
        rfl
    | cons c s ih =>
        obtain ⟨d, ds, rfl, digit, rest⟩ := shows.cons
        obtain ⟨small, smaller⟩ := List.forall_mem_cons.mp digits
        rw [List.foldlM_cons, digit, Option.map_some, push_digit x small]
        exact ih rest _ smaller
  have taken := folds 0
  rw [Digits.foldl_digits, Nat.zero_mul, Nat.zero_add] at taken
  rw [parseHex, if_neg (not_not.mpr length)]
  exact taken

theorem shows_of_parseHex {s : Str} {v : UInt64} (parsed : parseHex s = some v) :
    s.length = 16 ∧ ∃ ds, Shows s ds := by
  unfold parseHex at parsed
  split_ifs at parsed with length
  refine ⟨not_not.mp length, ?_⟩
  clear length
  generalize (0 : UInt64) = x at parsed
  induction s generalizing x with
  | nil => exact ⟨[], rfl⟩
  | cons c s ih =>
      cases digit : hexDigit c with
      | none => simp [digit] at parsed
      | some d =>
          rw [List.foldlM_cons, digit] at parsed
          obtain ⟨ds, rest⟩ := ih _ parsed
          exact ⟨d :: ds, congrArg₂ List.cons digit rest⟩

namespace Id

variable {tag : IdTag}

def digits (id : Id tag) : List Nat :=
  Digits.ofValue 16 16 id.hi.toNat ++ Digits.ofValue 16 16 id.lo.toNat

def ofDigits (ds : List Nat) : Id tag :=
  ⟨UInt64.ofNat (Digits.value 16 (ds.take 16)), UInt64.ofNat (Digits.value 16 (ds.drop 16))⟩

@[simp] theorem length_digits (id : Id tag) : id.digits.length = 32 := by simp [digits]

theorem digits_lt (id : Id tag) : ∀ d ∈ id.digits, d < 16 := fun d member =>
  (List.mem_append.mp member).elim (Digits.ofValue_lt (by decide)) (Digits.ofValue_lt (by decide))

theorem str_eq (id : Id tag) : id.str = id.digits.map hexChar := by
  rw [str, writeHex_eq, writeHex_eq, digits, List.map_append]

theorem shows_str (id : Id tag) : Shows id.str id.digits := by
  rw [str_eq]
  exact shows_chars id.digits_lt

theorem ofDigits_digits (id : Id tag) : ofDigits id.digits = id := by
  have half (v : UInt64) : UInt64.ofNat (Digits.value 16 (Digits.ofValue 16 16 v.toNat)) = v := by
    rw [Digits.value_ofValue]
    exact UInt64.toNat_inj.mp (by simp)
  have front : (Digits.ofValue 16 16 id.hi.toNat).length = 16 := Digits.length_ofValue ..
  simp only [ofDigits, digits, List.take_left' front, List.drop_left' front, half]

theorem digits_ofDigits {ds : List Nat} (length : ds.length = 32) (small : ∀ d ∈ ds, d < 16) :
    (ofDigits ds : Id tag).digits = ds := by
  have half {es : List Nat} (sixteen : es.length = 16) (among : ∀ e ∈ es, e ∈ ds) :
      Digits.ofValue 16 16 (UInt64.ofNat (Digits.value 16 es)).toNat = es := by
    have less : ∀ e ∈ es, e < 16 := fun e member => small e (among e member)
    have fits := Digits.value_lt (by decide) less
    rw [sixteen] at fits
    rw [UInt64.toNat_ofNat_of_lt' fits]
    nth_rewrite 2 [← sixteen]
    exact Digits.ofValue_value (by decide) less
  rw [digits, ofDigits]
  dsimp only
  rw [half (by simp [length]) fun e => List.mem_of_mem_take,
    half (by simp [length]) fun e => List.mem_of_mem_drop, List.take_append_drop]

theorem parseHex_halves {s : Str} {ds : List Nat} (shows : Shows s ds) (length : s.length = 32) :
    parseHex (s.take 16) = some (ofDigits ds : Id tag).hi ∧
      parseHex (s.drop 16) = some (ofDigits ds : Id tag).lo := by
  have front : Shows (s.take 16) (ds.take 16) := by
    rw [Shows, List.map_take, List.map_take, shows]
  have back : Shows (s.drop 16) (ds.drop 16) := by
    rw [Shows, List.map_drop, List.map_drop, shows]
  exact ⟨parseHex_shows front (by simp [length]), parseHex_shows back (by simp [length])⟩

theorem tryParse_shows {s : Str} {ds : List Nat} (shows : Shows s ds) (length : s.length = 32) :
    tryParse s = some (ofDigits ds : Id tag) := by
  obtain ⟨high, low⟩ : _ = some (ofDigits ds : Id tag).hi ∧ _ := parseHex_halves shows length
  rw [tryParse, if_neg (not_not.mpr length), high, low]

theorem clean_shows {s : Str} {ds : List Nat} (shows : Shows s ds) : clean s = .ok s := by
  induction s generalizing ds with
  | nil => rfl
  | cons c s ih =>
      obtain ⟨d, ds, rfl, digit, rest⟩ := shows.cons
      have noHyphen : c ≠ 0x2D := by
        rintro rfl
        cases digit
      rw [clean, if_neg noHyphen, digit, ih rest]
      rfl

theorem fromString_shows {s : Str} {ds : List Nat} (shows : Shows s ds) (length : s.length = 32) :
    fromString s = .ok (ofDigits ds : Id tag) := by
  obtain ⟨high, low⟩ := parseHex_halves shows length
  rw [fromString, clean_shows shows]
  change (if s.length ≠ 32 then _ else _) = _
  rw [if_neg (not_not.mpr length), high, low]

theorem tryParse_str (id : Id tag) : tryParse id.str = some id := by
  rw [tryParse_shows id.shows_str id.length_str, ofDigits_digits]

theorem fromString_str (id : Id tag) : fromString id.str = .ok id := by
  rw [fromString_shows id.shows_str id.length_str, ofDigits_digits]

theorem str_injective {id other : Id tag} (same : id.str = other.str) : id = other := by
  have parsed := tryParse_str id
  rw [same, tryParse_str] at parsed
  exact (Option.some.inj parsed).symm

theorem compare_toNat (v w : UInt64) : compare v w = compare v.toNat w.toNat := by
  simp only [compare, compareOfLessAndEq, UInt64.lt_iff_toNat_lt, ← UInt64.toNat_inj]

theorem value_digits (id : Id tag) :
    Digits.value 16 id.digits = id.hi.toNat * 2 ^ 64 + id.lo.toNat := by
  have power : 16 ^ 16 = 2 ^ 64 := by decide
  rw [digits, Digits.value_append, Digits.value_ofValue, Digits.value_ofValue,
    Digits.length_ofValue, power, Nat.mod_eq_of_lt id.hi.toNat_lt, Nat.mod_eq_of_lt id.lo.toNat_lt]

theorem compare_str (a b : Id tag) : compare a.str b.str = compare a b := by
  have halves : compare a b = (compare a.hi b.hi).then (compare a.lo b.lo) := rfl
  rw [str_eq, str_eq, Digits.compare_map compare_hexChar a.digits_lt b.digits_lt,
    Digits.compare_value (by decide) (by simp) a.digits_lt b.digits_lt, value_digits, value_digits,
    Digits.compare_parts a.lo.toNat_lt b.lo.toNat_lt, halves, compare_toNat, compare_toNat]

theorem lt_iff_str (a b : Id tag) : a < b ↔ a.str < b.str := by
  have bytes (c d : UInt8) : compare c d = .lt ↔ c < d := compareOfLessAndEq_eq_lt
  rw [← Digits.compare_eq_lt bytes, compare_str]
  rfl

theorem sortedBy_str {ι : Type} (id : ι → Id tag) (items : List ι) :
    Table.sortedBy (fun item => (id item).str) items = Table.sortedBy id items := by
  simp only [Table.sortedBy, compare_str]

end Id

end ReplicaFabric
