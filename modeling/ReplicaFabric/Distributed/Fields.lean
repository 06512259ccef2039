import ReplicaFabric.Distributed.Coordinator

/-!
# The fields of a payload

A handler parses the fields of its message one after the other, and every parser throws on a text
that it does not take. This file says which texts each parser takes, and which fields each message
has.
-/

namespace ReplicaFabric

theorem isOk_bind {ε α β : Type} {parse : Except ε α} {rest : α → Except ε β} {p q : Bool}
    (first : parse.isOk = p) (after : ∀ v, (rest v).isOk = q) :
    (parse >>= rest).isOk = (p && q) := by
  subst first
  cases parse with
  | error e => rfl
  | ok v => exact after v

theorem isOk_bind_total {ε α β : Type} {parse : Except ε α} {rest : α → Except ε β}
    (total : ∀ v, (rest v).isOk = true) : (parse >>= rest).isOk = parse.isOk :=
  (isOk_bind rfl total).trans (Bool.and_true _)

@[simp] theorem isOk_map {ε α β : Type} (f : α → β) (parse : Except ε α) :
    (parse.map f).isOk = parse.isOk := by
  cases parse <;> rfl

namespace Id

def readable (s : Str) : Bool :=
  s.all (fun c => c = 0x2D || (hexDigit c).isSome) && s.countP (· ≠ 0x2D) = 32

theorem clean_isOk (s : Str) :
    (clean s).isOk = s.all (fun c => c = 0x2D || (hexDigit c).isSome) := by
  induction s with
  | nil => rfl
  | cons c rest ih =>
      rw [List.all_cons, clean, ← ih]
      by_cases hyphen : c = 0x2D
      · simp [hyphen]
      · cases digit : hexDigit c <;> simp [hyphen]

theorem clean_ok {s cleaned : Str} (ok : clean s = .ok cleaned) :
    cleaned.length = s.countP (· ≠ 0x2D) ∧ ∀ c ∈ cleaned, (hexDigit c).isSome = true := by
  induction s generalizing cleaned with
  | nil =>
      cases ok
      simp
  | cons c rest ih =>
      rw [clean] at ok
      split at ok
      · next hyphen => simpa [hyphen] using ih ok
      · next digit =>
          split at ok
          · cases ok
          · next hex =>
              cases cleanedRest : clean rest with
              | error e =>
                  rw [cleanedRest] at ok
                  cases ok
              | ok tail =>
                  rw [cleanedRest] at ok
                  cases ok
                  obtain ⟨length, digits⟩ := ih cleanedRest
                  have isDigit : (hexDigit c).isSome = true :=
                    Option.isSome_iff_ne_none.mpr (by simpa using hex)
                  exact ⟨by simp [digit, length], List.forall_mem_cons.mpr ⟨isDigit, digits⟩⟩

theorem parseHex_isSome {s : Str} (length : s.length = 16)
    (digits : ∀ c ∈ s, (hexDigit c).isSome = true) : (parseHex s).isSome = true := by
  have folds (v : UInt64) : (s.foldlM
      (fun (v : UInt64) c => (hexDigit c).map fun d => (v <<< 4) ||| UInt64.ofNat d)
      v).isSome = true := by
    clear length
    induction s generalizing v with
    | nil => rfl
    | cons c rest ih =>
        obtain ⟨d, digit⟩ := Option.isSome_iff_exists.mp (digits c List.mem_cons_self)
        simpa [digit] using ih (fun x member => digits x (List.mem_cons_of_mem c member)) _
  simpa [parseHex, length] using folds 0

theorem fromString_isOk {tag : IdTag} (s : Str) :
    (fromString s : Except Exception (Id tag)).isOk = readable s := by
  rw [readable, ← clean_isOk, fromString]
  cases cleaned : clean s with
  | error e => rfl
  | ok hex =>
      obtain ⟨length, digits⟩ := clean_ok cleaned
      simp only [bind, Except.bind, ← length]
      by_cases full : hex.length = 32
      · obtain ⟨hi, high⟩ := Option.isSome_iff_exists.mp (parseHex_isSome (s := hex.take 16)
          (by simp [full]) fun c member => digits c (List.mem_of_mem_take member))
        obtain ⟨lo, low⟩ := Option.isSome_iff_exists.mp (parseHex_isSome (s := hex.drop 16)
          (by simp [full]) fun c member => digits c (List.mem_of_mem_drop member))
        simp [full, high, low]
      · simp [full]

end Id

namespace Numeral

def digitsOf (base : Nat) (s : Str) : Str :=
  (afterPrefix base (sign (s.dropWhile isSpace)).2).takeWhile (isDigit base)

def readable (bits base : Nat) (s : Str) : Bool :=
  digitsOf base s ≠ [] && valueOf base (digitsOf base s) < 2 ^ bits

theorem parse_isOk (bits base : Nat) (s : Str) : (parse bits base s).isOk = readable bits base s := by
  unfold parse readable digitsOf
  split
  next negative rest signed =>
  by_cases empty : (afterPrefix base rest).takeWhile (isDigit base) = []
  · simp [signed, empty]
  · by_cases fits : valueOf base ((afterPrefix base rest).takeWhile (isDigit base)) < 2 ^ bits
    · simp [signed, empty, fits, Nat.not_le.mpr fits]
    · simp [signed, empty, fits, Nat.not_lt.mp fits]

end Numeral

inductive FieldForm
  | id
  | number (bits base : Nat)

def FieldForm.accepts : FieldForm → Str → Bool
  | id, s => Id.readable s
  | number bits base, s => Numeral.readable bits base s

structure Field where
  key : Str
  fallback : Str
  form : FieldForm

namespace Field

def readable (payload : Str) (f : Field) : Bool :=
  f.form.accepts (getPayload payload f.key f.fallback)

def ofId (key : String) : Field := ⟨key, "", .id⟩

def decimal (key fallback : String) : Field := ⟨key, fallback, .number 32 10⟩

def hex (bits : Nat) (key fallback : String) : Field := ⟨key, fallback, .number bits 16⟩

def ofSet : List Field :=
  [ofId "model", ofId "workload", ofId "tenant", decimal "desired" "2", decimal "min" "1",
    decimal "max" "2", ofId "artifact", ofId "agen", ofId "sgen", ofId "pgen",
    hex 32 "backend" "2", hex 32 "ccmaj" "8", hex 32 "ccmin" "0", hex 64 "mem" "0x1000000",
    decimal "accel" "1"]

def ofRegistration : List Field :=
  [ofId "node_hex", hex 32 "backend" "2", hex 64 "mem" "0x800000000", hex 32 "ccmaj" "c",
    hex 64 "devmem" "0x800000000"]

def ofControl : MessageKind → List Field
  | .createSet => ofSet
  | .provision =>
      [ofId "worker", hex 32 "ccmaj" "c", hex 64 "devmem" "0x800000000",
        hex 64 "capacity" "0x1000000"]
  | .promote => [hex 32 "target" "5"]
  | .failover => [ofId "failed"]
  | _ => []

def ofWorker : MessageKind → List Field
  | .warmDone => [hex 64 "steps" "0"]
  | .health => [hex 32 "state" "2"]
  | .readiness => [hex 64 "mask" "0"]
  | _ => []

end Field

variable {env : Surroundings} {m : Message} {payload : Str}

theorem parseId_isOk {tag : IdTag} (key : String) :
    (parseId (getPayload payload key "") : Except Exception (Id tag)).isOk =
      (Field.ofId key).readable payload :=
  Id.fromString_isOk _

theorem stoul_isOk (key fallback : String) :
    (stoul 10 (getPayload payload key fallback)).isOk =
      (Field.decimal key fallback).readable payload :=
  (isOk_map _ _).trans (Numeral.parse_isOk 32 10 _)

theorem hexi_isOk (key fallback : String) :
    (hexi (getPayload payload key fallback)).isOk = (Field.hex 32 key fallback).readable payload :=
  (isOk_map _ _).trans ((isOk_map _ _).trans (Numeral.parse_isOk 32 16 _))

theorem hexu_isOk (key fallback : String) :
    (hexu (getPayload payload key fallback)).isOk = (Field.hex 64 key fallback).readable payload :=
  (isOk_map _ _).trans (Numeral.parse_isOk 64 16 _)

theorem buildSet_isOk :
    (buildSet env m).isOk = Field.ofSet.all (·.readable m.payload) := by
  unfold buildSet
  refine isOk_bind (parseId_isOk "model") fun _ => ?_
  refine isOk_bind (parseId_isOk "workload") fun _ => ?_
  refine isOk_bind (parseId_isOk "tenant") fun _ => ?_
  refine isOk_bind (stoul_isOk "desired" "2") fun _ => ?_
  refine isOk_bind (stoul_isOk "min" "1") fun _ => ?_
  refine isOk_bind (stoul_isOk "max" "2") fun _ => ?_
  refine isOk_bind (parseId_isOk "artifact") fun _ => ?_
  refine isOk_bind (parseId_isOk "agen") fun _ => ?_
  refine isOk_bind (parseId_isOk "sgen") fun _ => ?_
  refine isOk_bind (parseId_isOk "pgen") fun _ => ?_
  refine isOk_bind (hexi_isOk "backend" "2") fun _ => ?_
  refine isOk_bind (hexi_isOk "ccmaj" "8") fun _ => ?_
  refine isOk_bind (hexi_isOk "ccmin" "0") fun _ => ?_
  refine isOk_bind (hexu_isOk "mem" "0x1000000") fun _ => ?_
  exact isOk_bind (stoul_isOk "accel" "1") fun _ => rfl

theorem buildWorkerReg_isOk :
    (buildWorkerReg env m).isOk = Field.ofRegistration.all (·.readable m.payload) := by
  unfold buildWorkerReg
  refine isOk_bind (parseId_isOk "node_hex") fun _ => ?_
  refine isOk_bind (hexi_isOk "backend" "2") fun _ => ?_
  refine isOk_bind (hexu_isOk "mem" "0x800000000") fun _ => ?_
  refine isOk_bind (hexi_isOk "ccmaj" "c") fun _ => ?_
  exact isOk_bind (hexu_isOk "devmem" "0x800000000") fun _ => rfl

namespace Coordinator

variable {c : Coordinator}

theorem handleControl_isOk :
    (c.handleControl env m).isOk = (Field.ofControl m.kind).all (·.readable m.payload) := by
  obtain ⟨kind, seq, epoch, worker, boot, replica, set, attempt, payload⟩ := m
  cases kind with
  | createSet => exact (isOk_bind_total fun _ => rfl).trans buildSet_isOk
  | provision =>
      refine isOk_bind (parseId_isOk "worker") fun _ => ?_
      refine isOk_bind (hexi_isOk "ccmaj" "c") fun _ => ?_
      refine isOk_bind (hexu_isOk "devmem" "0x800000000") fun _ => ?_
      exact isOk_bind (hexu_isOk "capacity" "0x1000000") fun _ => rfl
  | promote => exact isOk_bind (hexi_isOk "target" "5") fun _ => rfl
  | failover => exact isOk_bind (parseId_isOk "failed") fun _ => rfl
  | _ => rfl

theorem handleWorker_isOk :
    (c.handleWorker env m).isOk = (Field.ofWorker m.kind).all (·.readable m.payload) := by
  obtain ⟨kind, seq, epoch, worker, boot, replica, set, attempt, payload⟩ := m
  cases kind with
  | warmDone =>
      have warming : (warmingFrom payload).isOk = (Field.hex 64 "steps" "0").readable payload :=
        (isOk_bind_total fun _ => rfl).trans (hexu_isOk "steps" "0")
      exact isOk_bind warming fun _ => rfl
  | health =>
      refine isOk_bind (hexi_isOk "state" "2") fun v => ?_
      cases enumFromInt HealthState v.toInt <;> rfl
  | readiness => exact isOk_bind (hexu_isOk "mask" "0") fun _ => rfl
  | _ => rfl

end Coordinator

end ReplicaFabric
