import Mathlib.Data.List.MinMax

/-!
# The best so far

A loop that skips some elements of a list, and of the others keeps the best so far. No element that
it does not skip is better than the one it ends with.
-/

namespace Best

variable {α : Type} {admits : α → Bool} {better : α → α → Prop} [DecidableRel better] {l : List α}
  {b : α}

def keep (admits : α → Bool) (better : α → α → Prop) [DecidableRel better] (best : Option α)
    (c : α) : Option α :=
  if !admits c then best
  else
    match best with
    | none => some c
    | some b => if better c b then some c else some b

def ofList (admits : α → Bool) (better : α → α → Prop) [DecidableRel better] (l : List α) :
    Option α :=
  l.foldl (keep admits better) none

theorem ofList_eq_foldl_argAux :
    ofList admits better l = (l.filter admits).foldl (List.argAux better) none := by
  rw [ofList, List.foldl_filter]
  congr 1
  funext best c
  unfold keep
  cases admits c <;> cases best <;> rfl

theorem keep_cases {best : Option α} {c : α} (kept : keep admits better best c = some b) :
    best = some b ∨ (admits c = true ∧ c = b) := by
  unfold keep at kept
  split_ifs at kept with skipped
  · exact Or.inl kept
  · have admitted : admits c = true := by simpa using skipped
    cases best with
    | none => exact Or.inr ⟨admitted, Option.some.inj kept⟩
    | some old =>
        dsimp only at kept
        split_ifs at kept
        · exact Or.inr ⟨admitted, Option.some.inj kept⟩
        · exact Or.inl kept

theorem mem_of_foldl_keep {best : Option α} (kept : l.foldl (keep admits better) best = some b) :
    best = some b ∨ (b ∈ l ∧ admits b = true) := by
  induction l generalizing best with
  | nil => exact Or.inl kept
  | cons c l ih =>
      rcases ih kept with now | ⟨member, admitted⟩
      · rcases keep_cases now with before | ⟨admitted, rfl⟩
        · exact Or.inl before
        · exact Or.inr ⟨List.mem_cons_self, admitted⟩
      · exact Or.inr ⟨List.mem_cons_of_mem c member, admitted⟩

theorem ofList_eq_none : ofList admits better l = none ↔ ∀ c ∈ l, admits c = false := by
  simp [ofList_eq_foldl_argAux, List.filter_eq_nil_iff]

theorem ofList_spec (irrefl : Std.Irrefl better) (trans : IsTrans α better)
    (best : ofList admits better l = some b) :
    b ∈ l ∧ admits b = true ∧ ∀ c ∈ l, admits c = true → ¬better c b := by
  obtain ⟨member, admitted⟩ := (mem_of_foldl_keep best).resolve_left (by simp)
  rw [ofList_eq_foldl_argAux] at best
  refine ⟨member, admitted, fun c inside counts => ?_⟩
  exact List.not_of_mem_foldl_argAux better irrefl trans
    (List.mem_filter.mpr ⟨inside, counts⟩) best

theorem foldl_keep_unbeaten (unbeaten : ∀ c ∈ l, admits c = true → ¬better c b) :
    l.foldl (keep admits better) (some b) = some b := by
  induction l with
  | nil => rfl
  | cons c l ih =>
      have kept : keep admits better (some b) c = some b := by
        unfold keep
        split_ifs with skipped
        · rfl
        · exact if_neg (unbeaten c List.mem_cons_self (by simpa using skipped))
      rw [List.foldl_cons, kept]
      exact ih fun c member => unbeaten c (List.mem_cons_of_mem _ member)

theorem ofList_split {before after : List α} (admitted : admits b = true)
    (beats : ∀ c ∈ before, admits c = true → better b c)
    (unbeaten : ∀ c ∈ after, admits c = true → ¬better c b) :
    ofList admits better (before ++ b :: after) = some b := by
  have taken : keep admits better (ofList admits better before) b = some b := by
    unfold keep
    rw [admitted, Bool.not_true, if_neg (by decide)]
    cases best : ofList admits better before with
    | none => rfl
    | some c =>
        obtain ⟨member, counts⟩ := (mem_of_foldl_keep best).resolve_left (by simp)
        exact if_pos (beats c member counts)
  rw [ofList, List.foldl_append, List.foldl_cons, ← ofList, taken]
  exact foldl_keep_unbeaten unbeaten

end Best
