import ReplicaFabric.Library.Machine

/-!
# Inputs that each go to one cell

What a cell holds is a view of the state, and what is shared is read by the inputs but written by
none of them. If every input reads and writes nothing but the view of its own cell, then an
interleaving does to a cell, and answers to the inputs of that cell, what these inputs would have
done and been answered alone.
-/

namespace Cells

open Machine

variable {σ ι ο κ β γ : Type*}

structure Local (view : σ → κ → β) (shared : σ → γ) (cell : Option κ) (act : σ → ο × σ) :
    Prop where
  reads : ∀ s t k, cell = some k → view s k = view t k → shared s = shared t →
    (act s).1 = (act t).1 ∧ view (act s).2 k = view (act t).2 k
  others : ∀ s k, cell ≠ some k → view (act s).2 k = view s k
  keeps : ∀ s, shared (act s).2 = shared s

variable [DecidableEq κ] {view : σ → κ → β} {shared : σ → γ} {step : σ → ι → ο × σ}
  {cell : ι → Option κ}

def answersTo (cell : ι → Option κ) (k : κ) (es : List (Event σ ι ο)) : List ο :=
  (es.filter fun e => cell e.input = some k).map Event.output

theorem answersTo_cons (k : κ) (e : Event σ ι ο) (es : List (Event σ ι ο)) :
    answersTo cell k (e :: es) =
      (if cell e.input = some k then [e.output] else []) ++ answersTo cell k es := by
  unfold answersTo
  split_ifs with mine <;> simp [mine]

theorem run_alone {is : List ι} (locals : ∀ i ∈ is, Local view shared (cell i) (step · i)) {k : κ}
    {s t : σ} (here : view s k = view t k) (same : shared s = shared t) :
    view (run step s is) k = view (run step t (is.filter fun i => cell i = some k)) k ∧
      answersTo cell k (trace step s is) =
        (trace step t (is.filter fun i => cell i = some k)).map Event.output := by
  induction is generalizing s t with
  | nil => exact ⟨here, rfl⟩
  | cons i is ih =>
      have first := locals i List.mem_cons_self
      have later : ∀ j ∈ is, Local view shared (cell j) (step · j) := fun j member =>
        locals j (List.mem_cons_of_mem _ member)
      have mineOrNot : answersTo cell k (trace step s (i :: is)) =
          (if cell i = some k then [(step s i).1] else []) ++
            answersTo cell k (trace step (step s i).2 is) := answersTo_cons ..
      rw [mineOrNot, run_cons, List.filter_cons]
      by_cases mine : cell i = some k
      · obtain ⟨answer, next⟩ := first.reads s t k mine here same
        have kept : shared (step s i).2 = shared (step t i).2 :=
          (first.keeps s).trans (same.trans (first.keeps t).symm)
        obtain ⟨views, answers⟩ := ih later next kept
        rw [if_pos mine, if_pos (decide_eq_true mine), answers, answer]
        exact ⟨views, rfl⟩
      · have next : view (step s i).2 k = view t k := (first.others s k mine).trans here
        have kept : shared (step s i).2 = shared t := (first.keeps s).trans same
        rw [if_neg mine, if_neg fun goes => mine (of_decide_eq_true goes)]
        exact ih later next kept

end Cells
