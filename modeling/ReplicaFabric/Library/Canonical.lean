import ReplicaFabric.Library.ByteCodec

/-!
# Canonical encodings

A reader is canonical for a writer when every input that it accepts starts with the bytes that the
writer makes of the value read, so that it accepts no second encoding of a value. The rules below
prove it of a record field by field, in the order of the fields.
-/

namespace ByteCodec

variable {ε α β σ : Type}

def Emits (rd : Reader ε α) (P : Bytes → α → Prop) : Prop :=
  ∀ input x rest, rd input = .ok (x, rest) → ∃ w, P w x ∧ input = w ++ rest

def Canonical (rd : Reader ε α) (write : α → Bytes) : Prop := Emits rd fun w x => w = write x

theorem bind_ok {rd : Reader ε α} {f : α → Reader ε β} {input rest : Bytes} {y : β} :
    (rd >>= f) input = .ok (y, rest) ↔
      ∃ x mid, rd input = .ok (x, mid) ∧ f x mid = .ok (y, rest) := by
  change (rd input >>= fun p => f p.1 p.2) = .ok (y, rest) ↔ _
  cases rd input with
  | error e => simp [Bind.bind, Except.bind]
  | ok p => simp [Bind.bind, Except.bind, Prod.ext_iff, and_assoc]

theorem pure_ok {x y : α} {input rest : Bytes} :
    (pure x : Reader ε α) input = .ok (y, rest) ↔ x = y ∧ input = rest := by
  change (Except.ok (x, input) : Except ε (α × Bytes)) = .ok (y, rest) ↔ _
  simp

theorem lift_ok {e : Except ε α} {x : α} {input rest : Bytes} :
    (monadLift e : Reader ε α) input = .ok (x, rest) ↔ e = .ok x ∧ input = rest := by
  change (e >>= fun x => Except.ok (x, input)) = .ok (x, rest) ↔ _
  cases e <;> simp [Bind.bind, Except.bind]

theorem take_ok {n : Nat} {e : ε} {b input rest : Bytes} :
    take n e input = .ok (b, rest) ↔
      n ≤ input.length ∧ input.take n = b ∧ input.drop n = rest := by
  unfold take
  split
  · next short => simp [short]
  · next enough => simp [Nat.not_lt.mp enough]

theorem mapError_ok {rd : Reader ε α} {g : ε → ε} {x : α} {input rest : Bytes} :
    mapError g rd input = .ok (x, rest) ↔ rd input = .ok (x, rest) := by
  unfold mapError
  cases rd input <;> simp [Except.mapError]

namespace Emits

variable {rd : Reader ε α} {write : α → Bytes} {f : α → Reader ε β} {P : Bytes → β → Prop}
  {Q : Bytes → α → Prop} {x : β}

theorem pure (holds : P [] x) : Emits (pure x : Reader ε β) P := by
  intro input y rest accepted
  obtain ⟨rfl, rfl⟩ := pure_ok.mp accepted
  exact ⟨[], holds, rfl⟩

theorem fail (e : ε) : Emits (throw e : Reader ε β) P :=
  fun _ _ _ accepted => nomatch accepted

theorem bind (first : Emits rd Q)
    (second : ∀ a w, Q w a → Emits (f a) fun w' y => P (w ++ w') y) : Emits (rd >>= f) P := by
  intro input y rest accepted
  obtain ⟨a, mid, head, tail⟩ := bind_ok.mp accepted
  obtain ⟨w, related, rfl⟩ := first _ _ _ head
  obtain ⟨w', holds, rfl⟩ := second a w related _ _ _ tail
  exact ⟨w ++ w', holds, (List.append_assoc ..).symm⟩

theorem field (first : Canonical rd write)
    (second : ∀ a, Emits (f a) fun w y => P (write a ++ w) y) : Emits (rd >>= f) P := by
  refine first.bind fun a w same => ?_
  subst same
  exact second a

theorem mapError (emits : Emits rd Q) (g : ε → ε) : Emits (mapError g rd) Q := by
  intro input y rest accepted
  exact emits input y rest (mapError_ok.mp accepted)

theorem take (n : Nat) (e : ε) :
    Emits (take n e) fun w b => b = w ∧ w.length = n := by
  intro input b rest accepted
  unfold ByteCodec.take at accepted
  split at accepted
  · cases accepted
  · cases accepted
    exact ⟨_, ⟨rfl, List.length_take_of_le (by omega)⟩, (List.take_append_drop n input).symm⟩

end Emits

namespace Canonical

variable {rd : Reader ε α} {write : α → Bytes} {write' : β → Bytes}

theorem map {g : α → β} (reads : Canonical rd write) (converts : ∀ a, write a = write' (g a)) :
    Canonical (rd >>= fun a => pure (g a)) write' :=
  Emits.field reads fun a => .pure (by rw [List.append_nil, converts])

theorem ofTake {n : Nat} {e : ε} {g : Bytes → β} (writes : ∀ b, b.length = n → write' (g b) = b) :
    Canonical (take n e >>= fun b => pure (g b)) write' := by
  refine (Emits.take n e).bind fun b w read => .pure ?_
  obtain ⟨rfl, length⟩ := read
  rw [List.append_nil, writes b length]

theorem unique (reads : Canonical rd write) {s t : Bytes} {x : α} (first : rd s = .ok (x, []))
    (second : rd t = .ok (x, [])) : s = t := by
  obtain ⟨w, rfl, whole⟩ := reads s x [] first
  obtain ⟨w, rfl, whole'⟩ := reads t x [] second
  rw [whole, whole']

end Canonical

def times (rd : Reader ε α) : Nat → Reader ε (List α)
  | 0 => pure []
  | n + 1 => do
      let x ← rd
      let xs ← times rd n
      return x :: xs

theorem foldTimes_ok {rd : Reader ε α} {fold : σ → α → Except ε σ} {n : Nat} {s s' : σ}
    {input rest : Bytes} :
    foldTimes rd fold n s input = .ok (s', rest) ↔
      ∃ xs, times rd n input = .ok (xs, rest) ∧ xs.foldlM fold s = .ok s' := by
  induction n generalizing s input with
  | zero =>
      simp only [foldTimes, times, pure_ok]
      constructor
      · rintro ⟨rfl, rfl⟩
        exact ⟨[], ⟨rfl, rfl⟩, rfl⟩
      · rintro ⟨xs, ⟨rfl, rfl⟩, folds⟩
        cases folds
        exact ⟨rfl, rfl⟩
  | succ n ih =>
      simp only [foldTimes, times, bind_ok, pure_ok, lift_ok, ih]
      constructor
      · rintro ⟨x, mid, head, s1, _, ⟨step, rfl⟩, xs, tail, folds⟩
        refine ⟨x :: xs, ⟨x, mid, head, xs, rest, tail, rfl, rfl⟩, ?_⟩
        rw [List.foldlM_cons, step]
        exact folds
      · rintro ⟨_, ⟨x, mid, head, xs, _, tail, rfl, rfl⟩, folds⟩
        rw [List.foldlM_cons] at folds
        cases step : fold s x with
        | error e => simp [step, Bind.bind, Except.bind] at folds
        | ok s1 =>
            rw [step] at folds
            exact ⟨x, mid, head, s1, mid, ⟨step, rfl⟩, xs, tail, folds⟩

section counted

variable {readCount : Reader ε Nat} {tooMany : ε} {rd : Reader ε α} {fold : σ → α → Except ε σ}
  {s s' : σ} {xs : List α} {input rest : Bytes} {encCount : Nat → Bytes} {enc : α → Bytes}

theorem foldOf_ok :
    foldOf readCount tooMany rd fold s input = .ok (s', rest) ↔
      ∃ n mid, readCount input = .ok (n, mid) ∧ n ≤ mid.length ∧
        ∃ xs, times rd n mid = .ok (xs, rest) ∧ xs.foldlM fold s = .ok s' := by
  have counted (n : Nat) (mid : Bytes) :
      (remaining >>= fun left =>
        if n > left then throw tooMany else foldTimes rd fold n s : Reader ε σ) mid =
          .ok (s', rest) ↔
        n ≤ mid.length ∧ ∃ xs, times rd n mid = .ok (xs, rest) ∧ xs.foldlM fold s = .ok s' := by
    change (if n > mid.length then throw tooMany else foldTimes rd fold n s : Reader ε σ) mid =
      .ok (s', rest) ↔ _
    by_cases many : n > mid.length
    · rw [if_pos many]
      exact ⟨fun contra => (nomatch contra), fun few => absurd few.1 (by omega)⟩
    · rw [if_neg many, foldTimes_ok]
      exact (and_iff_right (by omega)).symm
  rw [foldOf, bind_ok]
  simp only [counted]

theorem listOf_ok :
    listOf readCount tooMany rd input = .ok (xs, rest) ↔
      ∃ n mid, readCount input = .ok (n, mid) ∧ n ≤ mid.length ∧
        times rd n mid = .ok (xs, rest) := by
  have collects (ys : List α) :
      ys.foldlM (fun xs x => (.ok (xs ++ [x]) : Except ε (List α))) [] = .ok xs ↔ ys = xs := by
    rw [Reads.foldlM_push, List.nil_append, Except.ok.injEq]
  simp only [listOf, foldOf_ok, collects, exists_eq_right]

theorem foldOf_iff_listOf :
    foldOf readCount tooMany rd fold s input = .ok (s', rest) ↔
      ∃ xs, listOf readCount tooMany rd input = .ok (xs, rest) ∧ xs.foldlM fold s = .ok s' := by
  rw [foldOf_ok]
  simp only [listOf_ok]
  grind

theorem Emits.times (items : Canonical rd enc) (n : Nat) :
    Emits (times rd n) fun w xs => xs.length = n ∧ w = xs.flatMap enc := by
  induction n with
  | zero => exact .pure ⟨rfl, rfl⟩
  | succ n ih =>
      refine Emits.field items fun x => ih.bind fun xs w read => .pure ?_
      obtain ⟨length, rfl⟩ := read
      exact ⟨congrArg Nat.succ length, by simp⟩

theorem Canonical.listOf (count : Canonical readCount encCount) (items : Canonical rd enc) :
    Canonical (listOf readCount tooMany rd) fun xs => encCount xs.length ++ xs.flatMap enc := by
  intro input xs rest accepted
  obtain ⟨n, mid, counted, -, read⟩ := listOf_ok.mp accepted
  obtain ⟨_, rfl, rfl⟩ := count _ _ _ counted
  obtain ⟨_, ⟨rfl, rfl⟩, rfl⟩ := Emits.times items n _ _ _ read
  exact ⟨_, rfl, (List.append_assoc ..).symm⟩

end counted

end ByteCodec
