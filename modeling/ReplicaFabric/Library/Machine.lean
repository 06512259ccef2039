import Mathlib.Data.List.Induction
import Mathlib.Tactic.Common

/-!
# Runs of a deterministic machine

A machine is a function `step : σ → ι → ο × σ`. This file has its runs, the events of a run,
the induction rules for properties of every state of a run, the rule for inputs that overwrite each
other, and the past-time operators that properties of whole histories are stated with.
-/

namespace Machine

variable {σ ι ο : Type*} (step : σ → ι → ο × σ)

structure Event (σ ι ο : Type*) where
  before : σ
  input : ι
  output : ο
  after : σ

def event (s : σ) (i : ι) : Event σ ι ο := ⟨s, i, (step s i).1, (step s i).2⟩

def run : σ → List ι → σ
  | s, [] => s
  | s, i :: is => run (step s i).2 is

def trace : σ → List ι → List (Event σ ι ο)
  | _, [] => []
  | s, i :: is => event step s i :: trace (step s i).2 is

/-- `P` holds in every state of the run, the first and the last included. -/
def Throughout (P : σ → Prop) : σ → List ι → Prop
  | s, [] => P s
  | s, i :: is => P s ∧ Throughout P (step s i).2 is

/-- Every step of the run is taken from a state and with an input that `C` allows. -/
def Admissible (C : σ → ι → Prop) : σ → List ι → Prop
  | _, [] => True
  | s, i :: is => C s i ∧ Admissible C (step s i).2 is

instance instDecidableAdmissible {C : σ → ι → Prop} [∀ s i, Decidable (C s i)] :
    (s : σ) → (is : List ι) → Decidable (Admissible step C s is)
  | _, [] => .isTrue trivial
  | s, i :: is =>
      have : Decidable (Admissible step C (step s i).2 is) :=
        instDecidableAdmissible (step s i).2 is
      inferInstanceAs (Decidable (C s i ∧ Admissible step C (step s i).2 is))

instance instDecidableThroughout {P : σ → Prop} [∀ s, Decidable (P s)] :
    (s : σ) → (is : List ι) → Decidable (Throughout step P s is)
  | s, [] => inferInstanceAs (Decidable (P s))
  | s, i :: is =>
      have : Decidable (Throughout step P (step s i).2 is) :=
        instDecidableThroughout (step s i).2 is
      inferInstanceAs (Decidable (P s ∧ Throughout step P (step s i).2 is))

variable {step}

@[simp] theorem run_nil (s : σ) : run step s [] = s := rfl

@[simp] theorem run_cons (s : σ) (i : ι) (is : List ι) :
    run step s (i :: is) = run step (step s i).2 is := rfl

theorem run_append (s : σ) (is js : List ι) :
    run step s (is ++ js) = run step (run step s is) js := by
  induction is generalizing s with
  | nil => rfl
  | cons i is ih => simp [ih]

theorem run_concat (s : σ) (is : List ι) (i : ι) :
    run step s (is ++ [i]) = (step (run step s is) i).2 := by
  simp [run_append]

theorem trace_append (s : σ) (is js : List ι) :
    trace step s (is ++ js) = trace step s is ++ trace step (run step s is) js := by
  induction is generalizing s with
  | nil => rfl
  | cons i is ih => simp [trace, ih]

theorem trace_concat (s : σ) (is : List ι) (i : ι) :
    trace step s (is ++ [i]) = trace step s is ++ [event step (run step s is) i] := by
  simp [trace_append, trace]

theorem mem_trace {s : σ} {is : List ι} {e : Event σ ι ο} :
    e ∈ trace step s is ↔
      ∃ front i back, is = front ++ i :: back ∧ e = event step (run step s front) i := by
  induction is generalizing s with
  | nil => simp [trace]
  | cons j is ih =>
      constructor
      · intro member
        rcases List.mem_cons.mp member with rfl | later
        · exact ⟨[], j, is, rfl, rfl⟩
        · obtain ⟨front, i, back, rfl, rfl⟩ := ih.mp later
          exact ⟨j :: front, i, back, rfl, rfl⟩
      · rintro ⟨front, i, back, split, rfl⟩
        cases front with
        | nil =>
            obtain ⟨rfl, rfl⟩ := List.cons.inj split
            exact List.mem_cons_self
        | cons k front =>
            obtain ⟨rfl, rest⟩ := List.cons.inj split
            exact List.mem_cons_of_mem _ (ih.mpr ⟨front, i, back, rest, rfl⟩)

theorem Throughout.last {P : σ → Prop} {s : σ} {is : List ι}
    (always : Throughout step P s is) : P (run step s is) := by
  induction is generalizing s with
  | nil => exact always
  | cons i is ih => exact ih always.2

theorem Throughout.first {P : σ → Prop} {s : σ} {is : List ι}
    (always : Throughout step P s is) : P s := by
  cases is with
  | nil => exact always
  | cons i is => exact always.1

theorem Throughout.later {P : σ → Prop} {s : σ} {is js : List ι}
    (always : Throughout step P s (is ++ js)) : Throughout step P (run step s is) js := by
  induction is generalizing s with
  | nil => exact always
  | cons i is ih => exact ih always.2

theorem Throughout.mono {P Q : σ → Prop} {s : σ} {is : List ι}
    (always : Throughout step P s is) (weaker : ∀ s, P s → Q s) : Throughout step Q s is := by
  induction is generalizing s with
  | nil => exact weaker _ always
  | cons i is ih => exact ⟨weaker _ always.1, ih always.2⟩

theorem Throughout.and {P Q : σ → Prop} {s : σ} {is : List ι}
    (left : Throughout step P s is) (right : Throughout step Q s is) :
    Throughout step (fun s => P s ∧ Q s) s is := by
  induction is generalizing s with
  | nil => exact ⟨left, right⟩
  | cons i is ih => exact ⟨⟨left.1, right.1⟩, ih left.2 right.2⟩

theorem Throughout.congr {P Q I : σ → Prop} {s : σ} {is : List ι}
    (known : Throughout step I s is) (same : ∀ s, I s → (P s ↔ Q s)) :
    Throughout step P s is ↔ Throughout step Q s is := by
  induction is generalizing s with
  | nil => exact same s known
  | cons i is ih => exact and_congr (same s known.1) (ih known.2)

theorem Throughout.admissible {P : σ → Prop} {C : σ → ι → Prop} {s : σ} {is : List ι}
    (always : Throughout step P s is) (allows : ∀ s i, P s → C s i) : Admissible step C s is := by
  induction is generalizing s with
  | nil => trivial
  | cons i is ih => exact ⟨allows _ _ always.1, ih always.2⟩

theorem Admissible.mono {C D : σ → ι → Prop} {s : σ} {is : List ι}
    (allowed : Admissible step C s is) (weaker : ∀ s i, C s i → D s i) :
    Admissible step D s is := by
  induction is generalizing s with
  | nil => trivial
  | cons i is ih => exact ⟨weaker _ _ allowed.1, ih allowed.2⟩

theorem Admissible.and {C D : σ → ι → Prop} {s : σ} {is : List ι}
    (left : Admissible step C s is) (right : Admissible step D s is) :
    Admissible step (fun s i => C s i ∧ D s i) s is := by
  induction is generalizing s with
  | nil => trivial
  | cons i is ih => exact ⟨⟨left.1, right.1⟩, ih left.2 right.2⟩

theorem admissible_congr {C D : σ → ι → Prop} {s : σ} {is : List ι}
    (same : ∀ s i, C s i ↔ D s i) : Admissible step C s is ↔ Admissible step D s is :=
  ⟨fun allowed => allowed.mono fun s i => (same s i).mp,
    fun allowed => allowed.mono fun s i => (same s i).mpr⟩

theorem admissible_of_forall {C : ι → Prop} {s : σ} {is : List ι} (all : ∀ i ∈ is, C i) :
    Admissible step (fun _ i => C i) s is := by
  induction is generalizing s with
  | nil => trivial
  | cons i is ih =>
      exact ⟨all i List.mem_cons_self, ih fun j member => all j (List.mem_cons_of_mem i member)⟩

theorem admissible_of_trace {C : Event σ ι ο → Prop} {s : σ} {is : List ι}
    (all : ∀ e ∈ trace step s is, C e) : Admissible step (fun s i => C (event step s i)) s is := by
  induction is generalizing s with
  | nil => trivial
  | cons i is ih =>
      exact ⟨all _ List.mem_cons_self, ih fun e member => all e (List.mem_cons_of_mem _ member)⟩

theorem admissible_append {C : σ → ι → Prop} {s : σ} {is js : List ι} :
    Admissible step C s (is ++ js) ↔
      Admissible step C s is ∧ Admissible step C (run step s is) js := by
  induction is generalizing s with
  | nil => simp [Admissible]
  | cons i is ih => simp [Admissible, ih, and_assoc]

/-- The invariant rule: what one allowed step preserves holds throughout an allowed run. -/
theorem throughout_of_admissible {P : σ → Prop} {C : σ → ι → Prop} {s : σ} {is : List ι}
    (preserved : ∀ s i, P s → C s i → P (step s i).2) (start : P s)
    (allowed : Admissible step C s is) : Throughout step P s is := by
  induction is generalizing s with
  | nil => exact start
  | cons i is ih =>
      exact ⟨start, ih (preserved s i start allowed.1) allowed.2⟩

theorem throughout_of_step {P : σ → Prop} {s : σ} (is : List ι)
    (preserved : ∀ s i, P s → P (step s i).2) (start : P s) : Throughout step P s is := by
  induction is generalizing s with
  | nil => exact start
  | cons i is ih => exact ⟨start, ih (preserved s i start)⟩

theorem throughout_toward {R : σ → σ → Prop} (before : ∀ s i t, R (step s i).2 t → R s t)
    (refl : ∀ s, R s s) {s : σ} (is : List ι) :
    Throughout step (fun now => R now (run step s is)) s is := by
  induction is generalizing s with
  | nil => exact refl s
  | cons i is ih => exact ⟨before s i _ ih.first, ih⟩

theorem throughout_of_invariant {P I : σ → Prop} {C : σ → ι → Prop} {s : σ} {is : List ι}
    (known : Throughout step I s is)
    (preserved : ∀ s i, I s → P s → C s i → P (step s i).2) (start : P s)
    (allowed : Admissible step C s is) : Throughout step P s is := by
  induction is generalizing s with
  | nil => exact start
  | cons i is ih =>
      exact ⟨start, ih known.2 (preserved s i known.1 start allowed.1) allowed.2⟩

/-- When `C` is exactly what a step needs to preserve `P`, the allowed runs are exactly the
runs that keep `P` in every state. -/
theorem throughout_iff_admissible {P I : σ → Prop} {C : σ → ι → Prop} {s : σ} {is : List ι}
    (known : Throughout step I s is)
    (exact : ∀ s i, I s → P s → (P (step s i).2 ↔ C s i)) (start : P s) :
    Throughout step P s is ↔ Admissible step C s is := by
  induction is generalizing s with
  | nil => simp [Throughout, Admissible, start]
  | cons i is ih =>
      constructor
      · rintro ⟨now, later⟩
        have allowed := (exact s i known.1 now).mp later.first
        exact ⟨allowed, (ih known.2 later.first).mp later⟩
      · rintro ⟨allowed, rest⟩
        have next := (exact s i known.1 start).mpr allowed
        exact ⟨start, (ih known.2 next).mpr rest⟩

theorem throughout_iff_of_step {P : σ → Prop} {C : σ → ι → Prop} {s : σ} (is : List ι)
    (exact : ∀ s i, P s → (P (step s i).2 ↔ C s i)) (start : P s) :
    Throughout step P s is ↔ Admissible step C s is := by
  have everywhere : Throughout step (fun _ => True) s is :=
    throughout_of_step is (fun _ _ _ => trivial) trivial
  exact throughout_iff_admissible everywhere (fun s i _ => exact s i) start

theorem trace_simulates {τ : Type*} {step' : τ → ι → ο × τ} {R : σ → τ → Prop} {Q : σ → Prop}
    (simulates : ∀ s t i, R s t → Q (step s i).2 →
      (step s i).1 = (step' t i).1 ∧ R (step s i).2 (step' t i).2)
    {s : σ} {t : τ} {is : List ι} (related : R s t) (holds : Throughout step Q s is) :
    (trace step s is).map Event.output = (trace step' t is).map Event.output ∧
      R (run step s is) (run step' t is) := by
  induction is generalizing s t with
  | nil => exact ⟨rfl, related⟩
  | cons i is ih =>
      have next : Q (step s i).2 := Throughout.first holds.2
      obtain ⟨answer, related⟩ := simulates s t i related next
      obtain ⟨answers, last⟩ := ih related holds.2
      exact ⟨congrArg₂ List.cons answer answers, last⟩

theorem trace_induction {P : List (Event σ ι ο) → σ → Prop} {s : σ} (start : P [] s)
    (preserved : ∀ past now i, P past now → P (past ++ [event step now i]) (step now i).2)
    (is : List ι) : P (trace step s is) (run step s is) := by
  induction is using List.reverseRecOn with
  | nil => exact start
  | append_singleton is i ih =>
      rw [trace_concat, run_concat]
      exact preserved _ _ i ih

/-- Values that only steps which draw them bring in: what a state of the run holds was held at the
start or drawn on the way. -/
theorem held_of_drawn {α : Type*} {Holds : σ → α → Prop} {draw : Event σ ι ο → Option α}
    (origin : ∀ s i a, Holds (step s i).2 a → Holds s a ∨ draw (event step s i) = some a)
    {s : σ} {is : List ι} {a : α} (holds : Holds (run step s is) a) :
    Holds s a ∨ a ∈ (trace step s is).filterMap draw := by
  induction is generalizing s with
  | nil => exact Or.inl holds
  | cons i is ih =>
      rw [trace, List.mem_filterMap]
      rcases ih holds with first | later
      · exact (origin s i a first).imp_right fun now => ⟨_, List.mem_cons_self, now⟩
      · obtain ⟨e, member, drawn⟩ := List.mem_filterMap.mp later
        exact Or.inr ⟨e, List.mem_cons_of_mem _ member, drawn⟩

section Overwriting

variable {β : Type*} {I : σ → Prop} {C : ι → Prop} {s : σ} {is : List ι}

theorem view_run_concat (view : σ → β) (written : ι → β)
    (overwrites : ∀ s i, I s → C i → I (step s i).2 ∧ view (step s i).2 = written i) (start : I s)
    (allowed : ∀ j ∈ is, C j) {i : ι} (last : C i) : view (run step s (is ++ [i])) = written i := by
  have known : Throughout step I s is :=
    throughout_of_admissible (fun s i now ok => (overwrites s i now ok).1) start
      (admissible_of_forall allowed)
  rw [run_concat]
  exact (overwrites _ i known.last last).2

theorem view_perm_iff (view : σ → β) (written : ι → β)
    (overwrites : ∀ s i, I s → C i → I (step s i).2 ∧ view (step s i).2 = written i) (start : I s)
    (allowed : ∀ j ∈ is, C j) (nonempty : is ≠ []) (b : β) :
    (∀ js, js.Perm is → view (run step s js) = b) ↔ ∀ i ∈ is, written i = b := by
  constructor
  · intro same i member
    obtain ⟨front, back, rfl⟩ := List.append_of_mem member
    have moved : (front ++ back ++ [i]).Perm (front ++ i :: back) :=
      (List.perm_append_singleton i (front ++ back)).trans List.perm_middle.symm
    rw [← same _ moved]
    refine (view_run_concat view written overwrites start (fun j before => allowed j ?_)
      (allowed i member)).symm
    exact moved.mem_iff.mp (List.mem_append_left _ before)
  · intro agree js order
    induction js using List.reverseRecOn with
    | nil => exact absurd order.nil_eq.symm nonempty
    | append_singleton front i _ =>
        have mem (j : ι) (member : j ∈ front ++ [i]) : j ∈ is := order.mem_iff.mp member
        have last : i ∈ is := mem i (List.mem_append_right _ List.mem_cons_self)
        rw [view_run_concat view written overwrites start
          (fun j before => allowed j (mem j (List.mem_append_left _ before))) (allowed i last)]
        exact agree i last

end Overwriting

end Machine

/-!
## Past-time operators

`l` lists what happened, oldest first.
-/

namespace History

variable {α : Type*}

/-- `p` happened, and from then on only `q`. -/
def Since (p q : α → Prop) (l : List α) : Prop :=
  ∃ old x new, l = old ++ x :: new ∧ p x ∧ ∀ y ∈ new, q y

def Once (p : α → Prop) (l : List α) : Prop := ∃ x ∈ l, p x

/-- `p` happened, and its last occurrence satisfies `q`. -/
def Latest (p q : α → Prop) : List α → Prop := Since (fun x => p x ∧ q x) (fun x => ¬ p x)

def sinceLast (reset : α → Bool) (l : List α) : List α :=
  l.foldl (fun recent x => if reset x then [] else recent ++ [x]) []

@[simp] theorem sinceLast_nil (reset : α → Bool) : sinceLast reset [] = [] := rfl

theorem sinceLast_concat (reset : α → Bool) (l : List α) (x : α) :
    sinceLast reset (l ++ [x]) = if reset x then [] else sinceLast reset l ++ [x] := by
  simp [sinceLast, List.foldl_append]

theorem once_concat {p : α → Prop} {l : List α} {x : α} :
    Once p (l ++ [x]) ↔ Once p l ∨ p x := by
  simp [Once, or_and_right, exists_or]

theorem since_concat {p q : α → Prop} {l : List α} {x : α} :
    Since p q (l ++ [x]) ↔ p x ∨ (q x ∧ Since p q l) := by
  constructor
  · rintro ⟨old, y, new, split, holds, after⟩
    rcases List.eq_nil_or_concat new with rfl | ⟨new, z, rfl⟩
    · obtain ⟨-, rest⟩ := List.append_inj' split rfl
      obtain rfl := List.singleton_inj.mp rest
      exact Or.inl holds
    · have reassociated : l ++ [x] = (old ++ y :: new) ++ [z] := by simpa using split
      obtain ⟨rfl, rest⟩ := List.append_inj' reassociated rfl
      obtain rfl := List.singleton_inj.mp rest
      exact Or.inr ⟨after _ (by simp), old, y, new, rfl, holds, fun w hw => after w (by simp [hw])⟩
  · rintro (holds | ⟨keeps, old, y, new, rfl, holds, after⟩)
    · exact ⟨l, x, [], rfl, holds, by simp⟩
    · refine ⟨old, y, new ++ [x], by simp, holds, ?_⟩
      intro w hw
      rcases List.mem_append.mp hw with earlier | last
      · exact after w earlier
      · obtain rfl := List.mem_singleton.mp last
        exact keeps

theorem latest_concat {p q : α → Prop} {l : List α} {x : α} :
    Latest p q (l ++ [x]) ↔ (p x ∧ q x) ∨ (¬ p x ∧ Latest p q l) := since_concat

end History
