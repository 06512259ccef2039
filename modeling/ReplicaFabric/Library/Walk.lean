import ReplicaFabric.Library.ByteCodec

/-!
# Readers that go by index

A walk reads a window of a memory by index, with the arithmetic of unsigned words of 64 bits, and
logs what it does. `Refines` relates a walk to a reader that consumes a list: they agree on the
result, and the walk stays inside the window. The rules below prove it of a record field by field.
-/

open ByteCodec

namespace Walk

structure Window where
  bytes : Bytes
  /-- What the memory behind the bytes happens to hold. -/
  beyond : Nat → UInt8
  base : Nat
  len : Nat

def Window.whole (bytes : Bytes) (beyond : Nat → UInt8) : Window := ⟨bytes, beyond, 0, bytes.length⟩

inductive Event
  | read (index : Nat)
  | moved (pos len : Nat)
  | turn
  deriving DecidableEq

structure State where
  pos : Nat := 0
  log : List Event := []

def Window.at (win : Window) (i : Nat) : UInt8 := win.bytes.getD i (win.beyond i)

end Walk

def Walk (ε α : Type) : Type := Walk.Window → Walk.State → Except ε α × Walk.State

namespace Walk

variable {ε α β σ : Type}

instance : Monad (Walk ε) where
  pure x := fun _ s => (.ok x, s)
  bind w f := fun win s =>
    match w win s with
    | (.error e, s) => (.error e, s)
    | (.ok x, s) => f x win s

def fail (e : ε) : Walk ε α := fun _ s => (.error e, s)

/-- Sums and differences of unsigned words wrap. -/
def wrap (n : Nat) : Nat := n % 2 ^ 64

def need (k : Nat) (e : ε) : Walk ε Unit := fun win s =>
  if wrap (s.pos + k) > win.len then (.error e, s) else (.ok (), s)

def left : Walk ε Nat := fun win s => (.ok (wrap (win.len + 2 ^ 64 - s.pos)), s)

def look (offset k : Nat) : Walk ε Bytes := fun win s =>
  let indices := List.range' (win.base + offset) k
  (.ok (indices.map win.at), { s with log := s.log ++ indices.map .read })

def peek (k : Nat) : Walk ε Bytes := fun win s => look s.pos k win s

def advance (k : Nat) : Walk ε Unit := fun win s =>
  let pos := wrap (s.pos + k)
  (.ok (), { pos := pos, log := s.log ++ [.moved pos win.len] })

def length : Walk ε Nat := fun win s => (.ok win.len, s)

def finished : Walk ε Bool := fun win s => (.ok (s.pos == win.len), s)

def turn : Walk ε Unit := fun _ s => (.ok (), { s with log := s.log ++ [.turn] })

def grab (k : Nat) : Walk ε Bytes := do
  let b ← peek k
  advance k
  return b

/-- `k` bytes, after the check that sums. -/
def word (k : Nat) (e : ε) : Walk ε Bytes := do
  need k e
  grab k

/-- `n` bytes, after the check that subtracts. -/
def chunk (n : Nat) (e : ε) : Walk ε Bytes := do
  let room ← left
  if n > room then fail e else grab n

def completed (w : Walk ε α) : Walk ε α := do
  let x ← w
  turn
  return x

/-- `for (i = 0; i < n; ++i)`, from a value of the counter on. -/
def loop (n : UInt64) (body : σ → Walk ε σ) (i : UInt64) (s : σ) : Walk ε σ :=
  if below : i < n then do
    let s ← completed (body s)
    loop n body (i + 1) s
  else return s
termination_by n.toNat - i.toNat
decreasing_by
  have := n.toNat_lt
  rw [UInt64.lt_iff_toNat_lt] at below
  rw [UInt64.toNat_add]
  simp only [UInt64.toNat_one]
  omega

def folding (item : Walk ε α) (f : σ → α → Except ε σ) (s : σ) : Walk ε σ := do
  let x ← item
  match f s x with
  | .error e => fail e
  | .ok s => return s

def foldOf (readCount : Walk ε UInt64) (tooMany : ε) (item : Walk ε α)
    (f : σ → α → Except ε σ) (s : σ) : Walk ε σ := do
  let n ← readCount
  let room ← left
  if n.toNat > room then fail tooMany else loop n (folding item f) 0 s

def listOf (readCount : Walk ε UInt64) (tooMany : ε) (item : Walk ε α) : Walk ε (List α) :=
  foldOf readCount tooMany item (fun xs x => .ok (xs ++ [x])) []

def mapError (g : ε → ε) (w : Walk ε α) : Walk ε α := fun win s =>
  let (result, s) := w win s
  (result.mapError g, s)

def within (base len : Nat) (w : Walk ε α) : Walk ε α := fun win s =>
  let (result, after) := w { win with base := base, len := len } { pos := 0, log := s.log }
  (result, { s with log := after.log })

/-! ## What a walk does to its window -/

structure Window.Sound (win : Window) : Prop where
  inside : win.base + win.len ≤ win.bytes.length
  /-- No array is longer than the differences of its indices. -/
  small : win.len < 2 ^ 63

theorem Window.whole_sound {bytes : Bytes} (small : bytes.length < 2 ^ 63)
    (beyond : Nat → UInt8) : (whole bytes beyond).Sound :=
  ⟨(Nat.zero_add _).le, small⟩

def Window.rest (win : Window) (pos : Nat) : Bytes :=
  (win.bytes.drop (win.base + pos)).take (win.len - pos)

def Event.Safe (n : Nat) : Event → Prop
  | read index => index < n
  | moved pos len => pos ≤ len
  | turn => True

structure Moves (win : Window) (slack : Nat) (s s' : State) : Prop where
  inside : s'.pos ≤ win.len
  logged : ∃ new, s'.log = s.log ++ new ∧ (∀ e ∈ new, e.Safe win.bytes.length) ∧
    s.pos + new.count .turn + slack ≤ s'.pos

variable {win : Window} {s s' s'' : State} {slack slack' : Nat}

theorem Moves.refl (inside : s.pos ≤ win.len) : Moves win 0 s s :=
  ⟨inside, [], by simp⟩

theorem Moves.mono (moves : Moves win slack s s') (less : slack' ≤ slack) :
    Moves win slack' s s' := by
  obtain ⟨inside, new, log, safe, count⟩ := moves
  exact ⟨inside, new, log, safe, by omega⟩

theorem Moves.trans (first : Moves win slack s s') (second : Moves win slack' s' s'') :
    Moves win (slack + slack') s s'' := by
  obtain ⟨-, new, log, safe, count⟩ := first
  obtain ⟨inside, new', log', safe', count'⟩ := second
  refine ⟨inside, new ++ new', by rw [log', log, List.append_assoc], ?_, ?_⟩
  · intro e member
    exact (List.mem_append.mp member).elim (safe e) (safe' e)
  · rw [List.count_append]
    omega

/-- The reader makes the same of the rest of the window, and the walk moves. -/
def Agrees (win : Window) (slack : Nat) (s : State) (rd : Reader ε α) :
    Except ε α × State → Prop
  | (.error e, s') => rd (win.rest s.pos) = .error e ∧ Moves win 0 s s'
  | (.ok x, s') => rd (win.rest s.pos) = .ok (x, win.rest s'.pos) ∧ Moves win slack s s'

def Refines (slack : Nat) (w : Walk ε α) (rd : Reader ε α) : Prop :=
  ∀ (win : Window) (s : State), win.Sound → s.pos ≤ win.len → Agrees win slack s rd (w win s)

theorem bind_run (w : Walk ε α) (f : α → Walk ε β) (win : Window) (s : State) :
    (w >>= f) win s =
      match w win s with
      | (.error e, s) => (.error e, s)
      | (.ok x, s) => f x win s := rfl

theorem bind_of_ok {w : Walk ε α} {x : α} (ok : w win s = (.ok x, s')) (f : α → Walk ε β) :
    (w >>= f) win s = f x win s' := by
  rw [bind_run, ok]

theorem bind_of_error {w : Walk ε α} {e : ε} (failed : w win s = (.error e, s'))
    (f : α → Walk ε β) : (w >>= f) win s = (.error e, s') := by
  rw [bind_run, failed]

theorem ite_run {p : Prop} [Decidable p] (v w : Walk ε α) (win : Window) (s : State) :
    (if p then v else w) win s = if p then v win s else w win s := by
  split <;> rfl

theorem pure_run (x : α) (win : Window) (s : State) :
    (pure x : Walk ε α) win s = (.ok x, s) := rfl

/-! ## Bytes -/

theorem Window.map_at (win : Window) {start k : Nat} (inside : start + k ≤ win.bytes.length) :
    (List.range' start k).map win.at = (win.bytes.drop start).take k := by
  refine List.ext_getElem (by simp; omega) fun i here there => ?_
  have below : i < k := by simpa using here
  simp [Window.at, List.getElem?_eq_getElem (show start + i < win.bytes.length by omega)]

@[simp] theorem Window.length_rest (sound : win.Sound) (pos : Nat) :
    (win.rest pos).length = win.len - pos := by
  have inside := sound.inside
  simp only [Window.rest, List.length_take, List.length_drop]
  omega

theorem Window.take_rest {pos k : Nat} (enough : pos + k ≤ win.len) :
    (win.rest pos).take k = (win.bytes.drop (win.base + pos)).take k := by
  rw [Window.rest, List.take_take, min_eq_left (by omega)]

theorem Window.drop_rest (pos k : Nat) : (win.rest pos).drop k = win.rest (pos + k) := by
  rw [Window.rest, Window.rest, List.drop_take, List.drop_drop, Nat.add_assoc, Nat.sub_sub]

theorem wrap_of_small {n : Nat} (small : n < 2 ^ 64) : wrap n = n := Nat.mod_eq_of_lt small

def Window.piece (win : Window) (pos k : Nat) : Bytes :=
  (List.range' (win.base + pos) k).map win.at

theorem Window.piece_eq (win : Window) {pos k : Nat}
    (inside : win.base + pos + k ≤ win.bytes.length) :
    win.piece pos k = (win.bytes.drop (win.base + pos)).take k :=
  win.map_at inside

def State.past (s : State) (win : Window) (k : Nat) : State where
  pos := s.pos + k
  log := s.log ++ (List.range' (win.base + s.pos) k).map .read ++ [.moved (s.pos + k) win.len]

@[simp] theorem State.past_pos (k : Nat) : (s.past win k).pos = s.pos + k := rfl

theorem State.mem_past {i k : Nat} : .read i ∈ (s.past win k).log ↔
    .read i ∈ s.log ∨ (win.base + s.pos ≤ i ∧ i < win.base + s.pos + k) := by
  simp [past]

theorem grab_eq {k : Nat} (small : s.pos + k < 2 ^ 64) :
    (grab k : Walk ε Bytes) win s = (.ok (win.piece s.pos k), s.past win k) := by
  have pos : wrap (s.pos + k) = s.pos + k := wrap_of_small small
  change (Except.ok _, State.mk (wrap (s.pos + k)) (_ ++ [.moved (wrap (s.pos + k)) _])) = _
  rw [pos]
  rfl

theorem word_eq {k : Nat} {e : ε} (small : s.pos + k < 2 ^ 64) (enough : s.pos + k ≤ win.len) :
    word k e win s = (.ok (win.piece s.pos k), s.past win k) := by
  have passes : need k e win s = (.ok (), s) := by
    rw [need, wrap_of_small small, if_neg (by omega)]
  rw [word, bind_of_ok passes, grab_eq small]

theorem word_short {k : Nat} {e : ε} (small : s.pos + k < 2 ^ 64) (short : win.len < s.pos + k) :
    word k e win s = (.error e, s) := by
  have fails : need k e win s = (.error e, s) := by
    rw [need, wrap_of_small small, if_pos short]
  rw [word, bind_of_error fails]

theorem past_moves {k : Nat} (sound : win.Sound) (enough : s.pos + k ≤ win.len) :
    Moves win k s (s.past win k) := by
  have inside := sound.inside
  let reads : List Event := (List.range' (win.base + s.pos) k).map .read
  have log : (s.past win k).log = s.log ++ (reads ++ [.moved (s.pos + k) win.len]) :=
    List.append_assoc ..
  refine ⟨enough, _, log, ?_, ?_⟩
  · intro e member
    rcases List.mem_append.mp member with read | moved
    · obtain ⟨i, range, rfl⟩ := List.mem_map.mp read
      have bound := List.mem_range'_1.mp range
      change i < win.bytes.length
      omega
    · obtain rfl := List.mem_singleton.mp moved
      exact enough
  · have silent : reads.count .turn = 0 := List.count_eq_zero.mpr (by simp [reads])
    simp [silent]

theorem grab_run {k : Nat} (sound : win.Sound) (enough : s.pos + k ≤ win.len) :
    (grab k : Walk ε Bytes) win s = (.ok ((win.rest s.pos).take k), s.past win k) := by
  have inside := sound.inside
  have small := sound.small
  rw [grab_eq (by omega), win.piece_eq (by omega), Window.take_rest enough]

namespace Refines

variable {γ : Type} {w : Walk ε α} {rd : Reader ε γ} {f : α → Walk ε β} {g : γ → Reader ε β}
  {φ : α → γ}

theorem pure (x : α) : Refines 0 (Pure.pure x : Walk ε α) (Pure.pure x) :=
  fun _ _ _ inside => ⟨rfl, .refl inside⟩

theorem fail (e : ε) : Refines 0 (Walk.fail e : Walk ε α) (throw e) :=
  fun _ _ _ inside => ⟨rfl, .refl inside⟩

theorem bind_map (first : Refines slack (w >>= fun x => Pure.pure (φ x)) rd)
    (second : ∀ x, Refines 0 (f x) (g (φ x))) : Refines slack (w >>= f) (rd >>= g) := by
  intro win s sound inside
  have one := first win s sound inside
  rw [bind_run] at one ⊢
  have run : (rd >>= g) (win.rest s.pos) = (rd (win.rest s.pos) >>= fun p => g p.1 p.2) := rfl
  generalize w win s = walked at one ⊢
  obtain ⟨result, s1⟩ := walked
  cases result with
  | error e =>
      obtain ⟨failed, moves⟩ := one
      exact ⟨by rw [run, failed]; rfl, moves⟩
  | ok x =>
      obtain ⟨read, moves⟩ := one
      have two := second x win s1 sound moves.inside
      dsimp only
      have rest : (rd >>= g) (win.rest s.pos) = g (φ x) (win.rest s1.pos) := by
        rw [run, read]
        rfl
      generalize f x win s1 = walked at two ⊢
      obtain ⟨result', s2⟩ := walked
      cases result' with
      | error e =>
          obtain ⟨failed, moves'⟩ := two
          exact ⟨rest.trans failed, (moves.trans moves').mono (by omega)⟩
      | ok y =>
          obtain ⟨read', moves'⟩ := two
          exact ⟨rest.trans read', moves.trans moves'⟩

theorem bind {rd : Reader ε α} {g : α → Reader ε β} (first : Refines slack w rd)
    (second : ∀ x, Refines 0 (f x) (g x)) : Refines slack (w >>= f) (rd >>= g) := by
  have same : (w >>= fun x => Pure.pure (id x)) = w := by
    funext win s
    rw [bind_run]
    rcases w win s with ⟨_ | _, _⟩ <;> rfl
  exact bind_map (same.symm ▸ first) second

theorem mapError {rd : Reader ε α} (refines : Refines slack w rd) (g : ε → ε) :
    Refines slack (Walk.mapError g w) (ByteCodec.mapError g rd) := by
  intro win s sound inside
  have one := refines win s sound inside
  unfold Walk.mapError
  generalize w win s = walked at one ⊢
  obtain ⟨result, s1⟩ := walked
  cases result with
  | error e =>
      obtain ⟨failed, moves⟩ := one
      exact ⟨by simp only [ByteCodec.mapError, failed, Except.mapError], moves⟩
  | ok x =>
      obtain ⟨read, moves⟩ := one
      exact ⟨by simp only [ByteCodec.mapError, read, Except.mapError], moves⟩

theorem of_grab {k : Nat} {e : ε} {w : Walk ε Bytes}
    (enough : ∀ win s, win.Sound → s.pos + k ≤ win.len → w win s = grab k win s)
    (short : ∀ win s, win.Sound → s.pos ≤ win.len → win.len < s.pos + k → w win s = (.error e, s)) :
    Refines k w (take k e) := by
  intro win s sound inside
  have length := Window.length_rest sound s.pos
  by_cases fits : s.pos + k ≤ win.len
  · rw [enough win s sound fits, grab_run sound fits]
    refine ⟨?_, past_moves sound fits⟩
    rw [ByteCodec.take, if_neg (by omega), Window.drop_rest, State.past_pos]
  · rw [short win s sound inside (by omega)]
    refine ⟨?_, .refl inside⟩
    rw [ByteCodec.take, if_pos (by omega)]

theorem word {k : Nat} (e : ε) (small : k < 2 ^ 63) : Refines k (word k e) (take k e) := by
  refine of_grab (fun win s sound fits => ?_) fun win s sound inside short => ?_
  · have room := sound.small
    rw [word_eq (by omega) fits, grab_eq (by omega)]
  · have room := sound.small
    exact word_short (by omega) short

theorem room_eq {win : Window} {s : State} (sound : win.Sound) (inside : s.pos ≤ win.len) :
    wrap (win.len + 2 ^ 64 - s.pos) = win.len - s.pos := by
  have small := sound.small
  rw [wrap, show win.len + 2 ^ 64 - s.pos = win.len - s.pos + 2 ^ 64 by omega, Nat.add_mod_right]
  exact Nat.mod_eq_of_lt (by omega)

theorem chunk (n : Nat) (e : ε) : Refines n (chunk n e) (take n e) := by
  refine of_grab (fun win s sound fits => ?_) fun win s sound inside short => ?_
  · have passes : ¬n > wrap (win.len + 2 ^ 64 - s.pos) := by
      rw [room_eq sound (by omega)]
      omega
    simp only [Walk.chunk, bind_run, left, if_neg passes]
  · have fails : n > wrap (win.len + 2 ^ 64 - s.pos) := by
      rw [room_eq sound inside]
      omega
    simp only [Walk.chunk, bind_run, left, if_pos fails]
    rfl

theorem mono {rd : Reader ε α} (refines : Refines slack w rd) (less : slack' ≤ slack) :
    Refines slack' w rd := by
  intro win s sound inside
  have one := refines win s sound inside
  generalize w win s = walked at one ⊢
  obtain ⟨result, s1⟩ := walked
  cases result with
  | error e => exact one
  | ok x => exact ⟨one.1, one.2.mono less⟩

theorem left : Refines 0 (left : Walk ε Nat) remaining := by
  intro win s sound inside
  refine ⟨?_, .refl inside⟩
  change (Except.ok ((win.rest s.pos).length, _) : Except ε (Nat × Bytes)) = _
  rw [Window.length_rest sound, room_eq sound inside]

theorem finished : Refines 0 (finished : Walk ε Bool) ended := by
  intro win s sound inside
  refine ⟨?_, .refl inside⟩
  have same : (win.rest s.pos).isEmpty = (s.pos == win.len) := by
    rw [Bool.eq_iff_iff, List.isEmpty_iff_length_eq_zero, Window.length_rest sound, beq_iff_eq]
    omega
  rw [ended, same]

/-! ### Loops -/

variable {body : σ → Walk ε σ} {item : Walk ε α} {readItem : Reader ε α}
  {fold : σ → α → Except ε σ}

theorem folding (items : Refines 1 item readItem) (fold : σ → α → Except ε σ) (s : σ) :
    Refines 1 (folding item fold s) (readItem >>= fun x => (monadLift (fold s x) : Reader ε σ)) := by
  refine items.bind fun x => ?_
  cases fold s x with
  | error e => exact fail e
  | ok s => exact pure s

theorem completed {rd : Reader ε α} (turns : Refines 1 w rd) : Refines 0 (completed w) rd := by
  intro win s sound inside
  have one := turns win s sound inside
  rw [Walk.completed, bind_run]
  generalize w win s = walked at one ⊢
  obtain ⟨result, s1⟩ := walked
  cases result with
  | error e => exact one
  | ok x =>
      obtain ⟨read, inside, new, log, safe, count⟩ := one
      refine ⟨read, inside, new ++ [.turn], ?_, ?_, ?_⟩
      · exact (congrArg (· ++ [Event.turn]) log).trans (List.append_assoc ..)
      · intro e member
        rcases List.mem_append.mp member with before | last
        · exact safe e before
        · obtain rfl := List.mem_singleton.mp last
          trivial
      · rw [List.count_append, List.count_singleton_self]
        exact count

theorem loop (items : Refines 1 item readItem) (n i : UInt64) (s : σ) :
    Refines 0 (loop n (Walk.folding item fold) i s)
      (foldTimes readItem fold (n.toNat - i.toNat) s) := by
  obtain ⟨turns, remaining⟩ : ∃ turns, n.toNat - i.toNat = turns := ⟨_, rfl⟩
  rw [remaining]
  induction turns generalizing i s with
  | zero =>
      have done : ¬i < n := by
        rw [UInt64.lt_iff_toNat_lt]
        omega
      rw [Walk.loop, dif_neg done]
      exact pure s
  | succ turns ih =>
      have bound := n.toNat_lt
      have below : i < n := by
        rw [UInt64.lt_iff_toNat_lt]
        omega
      have next : (i + 1).toNat = i.toNat + 1 := by
        rw [UInt64.toNat_add, UInt64.toNat_one]
        omega
      rw [Walk.loop, dif_pos below]
      have both := (completed (folding items fold s)).bind fun s' => ih (i + 1) s' (by omega)
      rwa [bind_assoc] at both

theorem foldOf {readCount : Walk ε UInt64} {count : Reader ε Nat} {tooMany : ε}
    (counts : Refines slack (readCount >>= fun n => Pure.pure n.toNat) count)
    (items : Refines 1 item readItem) (s : σ) :
    Refines slack (foldOf readCount tooMany item fold s)
      (ByteCodec.foldOf count tooMany readItem fold s) := by
  refine counts.bind_map fun n => left.bind fun room => ?_
  by_cases many : n.toNat > room
  · simp only [if_pos many]
    exact fail tooMany
  · simp only [if_neg many]
    exact loop items n 0 s

theorem listOf {readCount : Walk ε UInt64} {count : Reader ε Nat} {tooMany : ε}
    (counts : Refines slack (readCount >>= fun n => Pure.pure n.toNat) count)
    (items : Refines 1 item readItem) :
    Refines slack (listOf readCount tooMany item) (ByteCodec.listOf count tooMany readItem) :=
  foldOf counts items []

end Refines

/-! ## Whole walks -/

structure Stays (n turns : Nat) (log : List Event) : Prop where
  safe : ∀ e ∈ log, e.Safe n
  count : log.count .turn ≤ turns

theorem Stays.nil (n : Nat) : Stays n 0 [] := ⟨by simp, le_rfl⟩

theorem Stays.mono {n turns turns' : Nat} {log : List Event} (stays : Stays n turns log)
    (less : turns ≤ turns') : Stays n turns' log :=
  ⟨stays.safe, stays.count.trans less⟩

theorem Stays.append {n turns turns' : Nat} {log log' : List Event} (first : Stays n turns log)
    (second : Stays n turns' log') : Stays n (turns + turns') (log ++ log') where
  safe e member := (List.mem_append.mp member).elim (first.safe e) (second.safe e)
  count := by
    have := first.count
    have := second.count
    rw [List.count_append]
    omega

def Yields (win : Window) (turns : Nat) (w : Walk ε α) (result : Except ε α) : Prop :=
  ∀ s, ∃ new, w win s = (result, { s with log := s.log ++ new }) ∧
    Stays win.bytes.length turns new

namespace Yields

variable {turns turns' : Nat} {w : Walk ε α} {f : α → Walk ε β} {result : Except ε β}
  {bytes : Bytes} {beyond : Nat → UInt8}

theorem mono {result : Except ε α} (yields : Yields win turns w result) (less : turns ≤ turns') :
    Yields win turns' w result := by
  intro s
  obtain ⟨new, run, stays⟩ := yields s
  exact ⟨new, run, stays.mono less⟩

theorem pure (x : α) : Yields win 0 (Pure.pure x : Walk ε α) (.ok x) :=
  fun s => ⟨[], by rw [List.append_nil]; rfl, .nil _⟩

theorem fail (e : ε) : Yields win 0 (Walk.fail e : Walk ε α) (.error e) :=
  fun s => ⟨[], by rw [List.append_nil]; rfl, .nil _⟩

theorem length : Yields (.whole bytes beyond) 0 (length : Walk ε Nat) (.ok bytes.length) :=
  fun s => ⟨[], by rw [List.append_nil]; rfl, .nil _⟩

theorem look {offset k : Nat} (inside : offset + k ≤ bytes.length) :
    Yields (.whole bytes beyond) 0 (look offset k : Walk ε Bytes)
      (.ok ((bytes.drop offset).take k)) := by
  refine fun s => ⟨(List.range' offset k).map .read, ?_, ?_, ?_⟩
  · have piece := (Window.whole bytes beyond).map_at inside
    unfold Walk.look
    dsimp only [Window.whole] at piece ⊢
    rw [Nat.zero_add, piece]
  · intro e member
    obtain ⟨i, range, rfl⟩ := List.mem_map.mp member
    have bound := List.mem_range'_1.mp range
    change i < bytes.length
    omega
  · exact (List.count_eq_zero.mpr (by simp)).le

theorem bind {x : α} (first : Yields win turns w (.ok x)) (rest : Yields win turns' (f x) result) :
    Yields win (turns + turns') (w >>= f) result := by
  intro s
  obtain ⟨new, run, stays⟩ := first s
  obtain ⟨new', run', stays'⟩ := rest { s with log := s.log ++ new }
  exact ⟨new ++ new', by rw [bind_of_ok run, run', List.append_assoc], stays.append stays'⟩

theorem bind_error {e : ε} (first : Yields win turns w (.error e)) (f : α → Walk ε β) :
    Yields win turns (w >>= f) (.error e) := by
  intro s
  obtain ⟨new, run, stays⟩ := first s
  exact ⟨new, bind_of_error run f, stays⟩

theorem ite {p : Prop} [Decidable p] {w' : Walk ε α} {result result' : Except ε α}
    (yes : p → Yields win turns w result) (no : ¬p → Yields win turns w' result') :
    Yields win turns (if p then w else w') (if p then result else result') := by
  by_cases holds : p
  · rw [if_pos holds, if_pos holds]
    exact yes holds
  · rw [if_neg holds, if_neg holds]
    exact no holds

def spent (len : Nat) : Except ε (α × Bytes) → Nat
  | .error _ => len
  | .ok (_, left) => len - left.length

theorem spent_le (len : Nat) (result : Except ε (α × Bytes)) : spent len result ≤ len := by
  cases result with
  | error e => exact le_rfl
  | ok pair => exact Nat.sub_le _ _

theorem within {rd : Reader ε α} (refines : Refines slack w rd) (beyond : Nat → UInt8)
    {base len : Nat} (inside : base + len ≤ bytes.length) (small : len < 2 ^ 63) :
    Yields (.whole bytes beyond) (spent len (rd ((bytes.drop base).take len))) (within base len w)
      ((rd ((bytes.drop base).take len)).map Prod.fst) := by
  intro s
  let part : Window := { bytes := bytes, beyond := beyond, base := base, len := len }
  have sound : part.Sound := ⟨inside, small⟩
  have agrees := refines part { pos := 0, log := s.log } sound (Nat.zero_le _)
  have run : Walk.within base len w (.whole bytes beyond) s =
      ((w part { pos := 0, log := s.log }).1,
        { s with log := (w part { pos := 0, log := s.log }).2.log }) := rfl
  rw [run]
  generalize w part { pos := 0, log := s.log } = walked at agrees ⊢
  obtain ⟨outcome, s'⟩ := walked
  cases outcome with
  | error e =>
      obtain ⟨failed, bound, new, log, safe, count⟩ := agrees
      change rd ((bytes.drop base).take len) = _ at failed
      change s'.pos ≤ len at bound
      dsimp only at count
      rw [failed]
      exact ⟨new, by dsimp only; rw [log]; rfl, safe, show new.count .turn ≤ len by omega⟩
  | ok x =>
      obtain ⟨read, bound, new, log, safe, count⟩ := agrees
      change rd ((bytes.drop base).take len) = _ at read
      change s'.pos ≤ len at bound
      dsimp only at count
      rw [read]
      refine ⟨new, by dsimp only; rw [log]; rfl, safe, ?_⟩
      rw [spent, Window.length_rest sound]
      change new.count .turn ≤ len - (len - s'.pos)
      omega

end Yields

/-! ## Walks for readers -/

/-- A walk that refines the reader. The rules below make one for a record out of those for its
fields. -/
structure For (slack : Nat) (rd : Reader ε α) where
  walk : Walk ε α
  refines : Refines slack walk rd

structure ForCount (slack : Nat) (rd : Reader ε Nat) where
  walk : Walk ε UInt64
  refines : Refines slack (walk >>= fun n => pure n.toNat) rd

namespace For

variable {rd : Reader ε α} {rd' : Reader ε α} {g : α → Reader ε β} {count : Reader ε Nat}
  {tooMany : ε} {fold : σ → α → Except ε σ}

def pure (x : α) : For 0 (Pure.pure x : Reader ε α) := ⟨Pure.pure x, .pure x⟩

def fail (e : ε) : For 0 (throw e : Reader ε α) := ⟨Walk.fail e, .fail e⟩

def word {k : Nat} (e : ε) (small : k < 2 ^ 63) : For k (take k e) := ⟨Walk.word k e, .word e small⟩

def chunk (n : Nat) (e : ε) : For n (take n e) := ⟨Walk.chunk n e, .chunk n e⟩

def weaken (reader : For slack rd) (less : slack' ≤ slack) : For slack' rd :=
  ⟨reader.walk, reader.refines.mono less⟩

def first (reader : For slack rd) (rest : ∀ x, For 0 (g x)) : For slack (rd >>= g) :=
  ⟨reader.walk >>= fun x => (rest x).walk, reader.refines.bind fun x => (rest x).refines⟩

def field (reader : For slack rd) (rest : ∀ x, For 0 (g x)) : For 0 (rd >>= g) :=
  (reader.weaken (Nat.zero_le _)).first rest

def cond {p : Prop} [Decidable p] (yes : For slack rd) (no : For slack rd') :
    For slack (if p then rd else rd') where
  walk := if p then yes.walk else no.walk
  refines := by
    split
    · exact yes.refines
    · exact no.refines

def mapError (reader : For slack rd) (g : ε → ε) : For slack (ByteCodec.mapError g rd) :=
  ⟨Walk.mapError g reader.walk, reader.refines.mapError g⟩

def foldOf (counts : ForCount slack count) (item : For 1 rd) (s : σ) :
    For slack (ByteCodec.foldOf count tooMany rd fold s) :=
  ⟨Walk.foldOf counts.walk tooMany item.walk fold s, .foldOf counts.refines item.refines s⟩

def listOf (counts : ForCount slack count) (item : For 1 rd) :
    For slack (ByteCodec.listOf count tooMany rd) :=
  ⟨Walk.listOf counts.walk tooMany item.walk, .listOf counts.refines item.refines⟩

end For

def ForCount.mapError {count : Reader ε Nat} (counts : ForCount slack count) (g : ε → ε) :
    ForCount slack (ByteCodec.mapError g count) where
  walk := Walk.mapError g counts.walk
  refines := by
    have same : (Walk.mapError g counts.walk >>= fun n => pure n.toNat) =
        Walk.mapError g (counts.walk >>= fun n => pure n.toNat) := by
      funext win s
      rcases walked : counts.walk win s with ⟨_ | _, _⟩ <;>
        simp only [bind_run, Walk.mapError, walked, Except.mapError, pure_run]
    rw [same]
    exact counts.refines.mapError g

end Walk
