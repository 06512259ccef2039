import Mathlib.Algebra.BigOperators.Group.List.Basic
import Mathlib.Algebra.GroupWithZero.Nat
import Mathlib.Logic.Function.Basic
import ReplicaFabric.Library.Machine

/-!
# A server and its peers

Every peer has a connection of its own to the server, which keeps the order of the messages in each
direction; what is on its way on different connections moves in any order. The server has a thread
for each connection. A thread takes its next message, or does a section of its own work, when it has
written the answers it owes; a post goes out on another connection at once, and so may overtake an
answer that is still owed there.
-/

namespace Duplex

variable {σ π κ μ ι α β η : Type*}

/-! ## Messages on their way -/

section Queues

variable [DecidableEq κ]

def queue (l : List (κ × μ)) (conn : κ) : List μ :=
  (l.filter fun x => x.1 = conn).map Prod.snd

def take (conn : κ) : List (κ × μ) → Option (μ × List (κ × μ))
  | [] => none
  | x :: rest =>
      if x.1 = conn then some (x.2, rest)
      else (take conn rest).map fun (m, left) => (m, x :: left)

def put (conn : κ) (ms : List μ) : List (κ × μ) := ms.map (conn, ·)

variable {conn other : κ} {l left : List (κ × μ)} {m : μ}

@[simp] theorem queue_nil : queue ([] : List (κ × μ)) conn = [] := rfl

@[simp] theorem queue_append (l l' : List (κ × μ)) (conn : κ) :
    queue (l ++ l') conn = queue l conn ++ queue l' conn := by
  simp [queue]

@[simp] theorem queue_put (conn : κ) (ms : List μ) : queue (put conn ms) conn = ms := by
  induction ms with
  | nil => rfl
  | cons m ms ih =>
      rw [put, List.map_cons] at *
      simpa [queue] using ih

@[simp] theorem queue_put_ne (ms : List μ) (elsewhere : other ≠ conn) :
    queue (put other ms) conn = [] := by
  simp [queue, put, elsewhere]

theorem take_eq_none : take conn l = none ↔ queue l conn = [] := by
  induction l with
  | nil => simp [take]
  | cons x rest ih =>
      by_cases here : x.1 = conn
      · simp [take, queue, here]
      · simpa [take, queue, here] using ih

theorem queue_of_take (taken : take conn l = some (m, left)) :
    queue l conn = m :: queue left conn ∧
      ∀ other, other ≠ conn → queue l other = queue left other := by
  induction l generalizing left with
  | nil => cases taken
  | cons x rest ih =>
      rw [take] at taken
      split_ifs at taken with here
      · cases taken
        refine ⟨by simp [queue, here], fun other elsewhere => ?_⟩
        have skipped : x.1 ≠ other := fun same => elsewhere (same.symm.trans here)
        simp [queue, skipped]
      · obtain ⟨⟨m', left'⟩, later, same⟩ := Option.map_eq_some_iff.mp taken
        cases same
        obtain ⟨first, others⟩ := ih later
        refine ⟨by simpa [queue, here] using first, fun other elsewhere => ?_⟩
        have same := others other elsewhere
        by_cases mine : x.1 = other <;> simpa [queue, mine] using same

theorem perm_of_take (taken : take conn l = some (m, left)) : l.Perm ((conn, m) :: left) := by
  induction l generalizing left with
  | nil => cases taken
  | cons x rest ih =>
      rw [take] at taken
      split_ifs at taken with here
      · cases taken
        rw [← here]
      · obtain ⟨⟨m', left'⟩, later, same⟩ := Option.map_eq_some_iff.mp taken
        cases same
        exact ((ih later).cons x).trans (List.Perm.swap _ _ _)

end Queues

/-! ## The system -/

inductive Effect (κ μ : Type*)
  | answer (m : μ)
  | post (conn : κ) (m : μ)
  deriving DecidableEq

def answers (effects : List (Effect κ μ)) : List μ :=
  effects.filterMap fun
    | .answer m => some m
    | .post _ _ => none

def posts (effects : List (Effect κ μ)) : List (κ × μ) :=
  effects.filterMap fun
    | .answer _ => none
    | .post conn m => some (conn, m)

structure System (σ π κ μ ι α β η : Type*) where
  serve : σ → ι → List (Effect κ μ) × σ
  receive : κ → μ → α → ι
  /-- The thread of the connection does a section of its own work. -/
  own : κ → β → ι
  /-- The thread of the connection waits for a message. -/
  reads : σ → κ → Bool
  live : σ → Bool
  fits : μ → Bool
  start : η → List μ × π
  send : π → μ → Option π
  hear : π → μ → List μ × π
  hears : π → Bool
  cut : π → π

structure State (σ π κ μ : Type*) where
  server : σ
  peers : κ → Option π
  up : List (κ × μ)
  /-- What the threads of the server have still to write. -/
  owed : List (κ × μ)
  down : List (κ × μ)

def State.alone (s : σ) : State σ π κ μ := ⟨s, fun _ => none, [], [], []⟩

inductive Action (κ μ α β η : Type*)
  | join (conn : κ) (hello : η)
  | send (conn : κ) (m : μ)
  | deliver (conn : κ) (env : α)
  | own (conn : κ) (act : β)
  | write (conn : κ)
  | hear (conn : κ)
  | cut (conn : κ)

abbrev Served (σ κ μ ι : Type*) := Machine.Event σ ι (List (Effect κ μ))

namespace System

variable (sys : System σ π κ μ ι α β η) [DecidableEq κ]

def serveOn (s : State σ π κ μ) (conn : κ) (input : ι) :
    Option (Served σ κ μ ι) × State σ π κ μ :=
  let e := Machine.event sys.serve s.server input
  (some e, { s with
    server := e.after
    owed := s.owed ++ put conn (answers e.output)
    down := s.down ++ posts e.output })

def moveTo (s : State σ π κ μ) (conn : κ) (p : π) (ms : List μ) : State σ π κ μ :=
  { s with
    peers := Function.update s.peers conn (some p)
    up := s.up ++ put conn (ms.filter sys.fits) }

def idle (s : State σ π κ μ) (conn : κ) : Bool :=
  sys.live s.server && (take conn s.owed).isNone

def act (s : State σ π κ μ) :
    Action κ μ α β η → Option (Served σ κ μ ι) × State σ π κ μ
  | .join conn hello =>
      match s.peers conn with
      | some _ => (none, s)
      | none => (none, sys.moveTo s conn (sys.start hello).2 (sys.start hello).1)
  | .send conn m =>
      match (s.peers conn).bind (sys.send · m) with
      | none => (none, s)
      | some p => (none, sys.moveTo s conn p [m])
  | .deliver conn env =>
      if sys.idle s conn && sys.reads s.server conn then
        match take conn s.up with
        | none => (none, s)
        | some (m, up) => sys.serveOn { s with up := up } conn (sys.receive conn m env)
      else (none, s)
  | .own conn act =>
      if sys.idle s conn then sys.serveOn s conn (sys.own conn act) else (none, s)
  | .write conn =>
      if sys.live s.server then
        match take conn s.owed with
        | none => (none, s)
        | some (m, owed) =>
            (none, { s with owed := owed, down := s.down ++ put conn ([m].filter sys.fits) })
      else (none, s)
  | .hear conn =>
      match s.peers conn with
      | none => (none, s)
      | some p =>
          if sys.hears p then
            match take conn s.down with
            | none => (none, s)
            | some (m, down) =>
                (none, sys.moveTo { s with down := down } conn (sys.hear p m).2 (sys.hear p m).1)
          else (none, s)
  | .cut conn =>
      match s.peers conn with
      | none => (none, s)
      | some p => (none, sys.moveTo s conn (sys.cut p) [])

def moves (s : State σ π κ μ) : Action κ μ α β η → Bool
  | .deliver conn _ =>
      sys.idle s conn && sys.reads s.server conn && (take conn s.up).isSome
  | .write conn => sys.live s.server && (take conn s.owed).isSome
  | .hear conn => (s.peers conn).any sys.hears && (take conn s.down).isSome
  | _ => false

/-- What one action can do. -/
inductive Change (s : State σ π κ μ) :
    Action κ μ α β η → Option (Served σ κ μ ι) → State σ π κ μ → Prop
  | nothing {action} (still : sys.moves s action = false) : Change s action none s
  | joins {conn hello} (fresh : s.peers conn = none) :
      Change s (.join conn hello) none
        (sys.moveTo s conn (sys.start hello).2 (sys.start hello).1)
  | sends {conn m p p'} (peer : s.peers conn = some p) (sent : sys.send p m = some p') :
      Change s (.send conn m) none (sys.moveTo s conn p' [m])
  | delivers {conn env m up} (idle : sys.idle s conn = true)
      (reads : sys.reads s.server conn = true) (taken : take conn s.up = some (m, up)) :
      Change s (.deliver conn env)
        (sys.serveOn { s with up := up } conn (sys.receive conn m env)).1
        (sys.serveOn { s with up := up } conn (sys.receive conn m env)).2
  | works {conn act} (idle : sys.idle s conn = true) :
      Change s (.own conn act) (sys.serveOn s conn (sys.own conn act)).1
        (sys.serveOn s conn (sys.own conn act)).2
  | writes {conn m owed} (live : sys.live s.server = true)
      (taken : take conn s.owed = some (m, owed)) :
      Change s (.write conn) none
        { s with owed := owed, down := s.down ++ put conn ([m].filter sys.fits) }
  | hears {conn p m down} (peer : s.peers conn = some p) (hears : sys.hears p = true)
      (taken : take conn s.down = some (m, down)) :
      Change s (.hear conn) none
        (sys.moveTo { s with down := down } conn (sys.hear p m).2 (sys.hear p m).1)
  | cuts {conn p} (peer : s.peers conn = some p) :
      Change s (.cut conn) none (sys.moveTo s conn (sys.cut p) [])

theorem act_change (s : State σ π κ μ) (action : Action κ μ α β η) :
    sys.Change s action (sys.act s action).1 (sys.act s action).2 := by
  cases action with
  | join conn hello =>
      rw [act]
      split
      · exact .nothing rfl
      · next fresh => exact .joins fresh
  | send conn m =>
      rw [act]
      split
      · exact .nothing rfl
      · next sent =>
          obtain ⟨p, peer, sent⟩ := Option.bind_eq_some_iff.mp sent
          exact .sends peer sent
  | deliver conn env =>
      rw [act]
      split
      · next ready =>
          obtain ⟨idle, reads⟩ := Bool.and_eq_true_iff.mp ready
          split
          · next empty => exact .nothing (by simp [moves, empty])
          · next taken => exact .delivers idle reads taken
      · next busy => exact .nothing (by simp [moves, busy])
  | own conn act' =>
      rw [act]
      split
      · next idle => exact .works idle
      · exact .nothing rfl
  | write conn =>
      rw [act]
      split
      · next live =>
          split
          · next empty => exact .nothing (by simp [moves, empty])
          · next taken => exact .writes live taken
      · next dead => exact .nothing (by simp [moves, dead])
  | hear conn =>
      rw [act]
      split
      · next absent => exact .nothing (by simp [moves, absent])
      · next peer =>
          split
          · next hears =>
              split
              · next empty => exact .nothing (by simp [moves, empty])
              · next taken => exact .hears peer hears taken
          · next deaf => exact .nothing (by simp [moves, peer, deaf])
  | cut conn =>
      rw [act]
      split
      · exact .nothing rfl
      · next peer => exact .cuts peer

end System

/-! ## What a run keeps of one connection -/

structure Link (π μ : Type*) where
  peer : Option π
  up : List μ
  owed : List μ
  down : List μ

section Links

variable [DecidableEq κ]

def State.link (s : State σ π κ μ) (conn : κ) : Link π μ :=
  ⟨s.peers conn, queue s.up conn, queue s.owed conn, queue s.down conn⟩

def postsTo (effects : List (Effect κ μ)) (conn : κ) : List μ := queue (posts effects) conn

end Links

namespace Link

variable (l : Link π μ)

def serve [DecidableEq κ] (conn : κ) (up : List μ) (effects : List (Effect κ μ)) : Link π μ :=
  { l with
    up := up
    owed := answers effects
    down := l.down ++ postsTo effects conn }

def post [DecidableEq κ] (conn : κ) (effects : List (Effect κ μ)) : Link π μ :=
  { l with down := l.down ++ postsTo effects conn }

end Link

namespace System

variable (sys : System σ π κ μ ι α β η)

def move (l : Link π μ) (p : π) (ms : List μ) : Link π μ :=
  { l with peer := some p, up := l.up ++ ms.filter sys.fits }

variable [DecidableEq κ]

inductive Source (c : σ) (conn : κ) (l : Link π μ) : ι → List μ → Prop
  | received (m : μ) (up : List μ) (env : α) (first : l.up = m :: up)
      (reads : sys.reads c conn = true) : Source c conn l (sys.receive conn m env) up
  | own (act : β) : Source c conn l (sys.own conn act) l.up

/-- `J` relates what the server has done so far and its state to one connection. The peers send only
what `Sends` allows, and every connection is already known to be as `Known` has it. -/
structure Keeps (Sends : κ → μ → Prop) (Known : σ → κ → Link π μ → Prop)
    (J : List (Served σ κ μ ι) → σ → κ → Link π μ → Prop) : Prop where
  joins : ∀ past c conn l hello, Known c conn l → J past c conn l → l.peer = none →
    J past c conn (sys.move l (sys.start hello).2 (sys.start hello).1)
  sends : ∀ past c conn l p p' m, Known c conn l → J past c conn l → l.peer = some p →
    sys.send p m = some p' → Sends conn m → J past c conn (sys.move l p' [m])
  serves : ∀ past c conn l input up, Known c conn l → J past c conn l → l.owed = [] →
    sys.live c = true → sys.Source c conn l input up →
    let e := Machine.event sys.serve c input
    J (past ++ [e]) e.after conn (l.serve conn up e.output)
  elsewhere : ∀ past c conn l other l' input up, Known c conn l → J past c conn l →
    Known c other l' → J past c other l' → other ≠ conn → l'.owed = [] → sys.live c = true →
    sys.Source c other l' input up →
    let e := Machine.event sys.serve c input
    J (past ++ [e]) e.after conn (l.post conn e.output)
  writes : ∀ past c conn l m owed, Known c conn l → J past c conn l → l.owed = m :: owed →
    J past c conn { l with owed := owed, down := l.down ++ [m].filter sys.fits }
  hears : ∀ past c conn l p m down, Known c conn l → J past c conn l → l.peer = some p →
    sys.hears p = true → l.down = m :: down →
    J past c conn (sys.move { l with down := down } (sys.hear p m).2 (sys.hear p m).1)
  cuts : ∀ past c conn l p, Known c conn l → J past c conn l → l.peer = some p →
    J past c conn (sys.move l (sys.cut p) [])

def served (s : State σ π κ μ) (actions : List (Action κ μ α β η)) : List (Served σ κ μ ι) :=
  (Machine.trace sys.act s actions).filterMap Machine.Event.output

variable {sys} {s : State σ π κ μ} {conn other : κ}

theorem served_cons (s : State σ π κ μ) (action : Action κ μ α β η)
    (actions : List (Action κ μ α β η)) : sys.served s (action :: actions) =
      (sys.act s action).1.toList ++ sys.served (sys.act s action).2 actions := by
  rw [served, Machine.trace, List.filterMap_cons]
  cases output : (sys.act s action).1 <;> simp [Machine.event, output, served]

theorem link_moveTo (p : π) (ms : List μ) :
    (sys.moveTo s conn p ms).link conn = sys.move (s.link conn) p ms := by
  simp [moveTo, State.link, move]

theorem link_moveTo_ne (elsewhere : other ≠ conn) (p : π) (ms : List μ) :
    (sys.moveTo s other p ms).link conn = s.link conn := by
  simp [moveTo, State.link, elsewhere, elsewhere.symm]

theorem idle_iff : sys.idle s conn = true ↔
    sys.live s.server = true ∧ (s.link conn).owed = [] := by
  simp [idle, take_eq_none, State.link]

theorem link_serveOn {up : List (κ × μ)} (input : ι) (idle : (s.link conn).owed = []) :
    (sys.serveOn { s with up := up } conn input).2.link conn =
      (s.link conn).serve conn (queue up conn) (sys.serve s.server input).1 := by
  have nothing : queue s.owed conn = [] := idle
  simp [serveOn, State.link, Link.serve, postsTo, nothing, Machine.event]

theorem link_serveOn_ne {up : List (κ × μ)} (input : ι) (elsewhere : other ≠ conn)
    (same : queue up conn = queue s.up conn) :
    (sys.serveOn { s with up := up } other input).2.link conn =
      (s.link conn).post conn (sys.serve s.server input).1 := by
  simp [serveOn, State.link, Link.post, postsTo, elsewhere, same, Machine.event]

def Everywhere (Known : σ → κ → Link π μ → Prop) (s : State σ π κ μ) : Prop :=
  ∀ conn, Known s.server conn (s.link conn)

namespace Keeps

variable {Sends : κ → μ → Prop} {Known : σ → κ → Link π μ → Prop}
  {J : List (Served σ κ μ ι) → σ → κ → Link π μ → Prop} {past : List (Served σ κ μ ι)}
  {actions : List (Action κ μ α β η)}

section

variable (keeps : sys.Keeps Sends Known J)

include keeps

theorem serveOn_step (up : List (κ × μ)) {input : ι} (known : Everywhere Known s)
    (all : ∀ conn, J past s.server conn (s.link conn)) (idle : sys.idle s other = true)
    (source : sys.Source s.server other (s.link other) input (queue up other))
    (same : ∀ conn, conn ≠ other → queue up conn = queue s.up conn) (conn : κ) :
    J (past ++ [Machine.event sys.serve s.server input]) (sys.serve s.server input).2 conn
      ((sys.serveOn { s with up := up } other input).2.link conn) := by
  obtain ⟨live, settled⟩ := idle_iff.mp idle
  by_cases mine : other = conn
  · rw [← mine, link_serveOn _ settled]
    exact keeps.serves past s.server other _ input _ (known other) (all other) settled live source
  · rw [link_serveOn_ne input mine (same conn fun back => mine back.symm)]
    exact keeps.elsewhere past s.server conn _ other _ input _ (known conn) (all conn) (known other)
      (all other) mine settled live source

theorem step (past : List (Served σ κ μ ι)) (action : Action κ μ α β η)
    (known : Everywhere Known s)
    (all : ∀ conn, J past s.server conn (s.link conn))
    (allowed : ∀ conn m, action = .send conn m → Sends conn m) (conn : κ) :
    J (past ++ (sys.act s action).1.toList) (sys.act s action).2.server conn
      ((sys.act s action).2.link conn) := by
  have change := sys.act_change s action
  generalize (sys.act s action).1 = output at change ⊢
  generalize (sys.act s action).2 = next at change ⊢
  have moved {other : κ} {p : π} {ms : List μ} {t : State σ π κ μ} (server : t.server = s.server)
      (before : ∀ conn, conn ≠ other → t.link conn = s.link conn)
      (here : J past s.server other (sys.move (t.link other) p ms)) :
      J (past ++ (none : Option (Served σ κ μ ι)).toList) (sys.moveTo t other p ms).server conn
        ((sys.moveTo t other p ms).link conn) := by
    rw [Option.toList_none, List.append_nil]
    have same : (sys.moveTo t other p ms).server = s.server := server
    rw [same]
    by_cases mine : other = conn
    · rw [← mine, link_moveTo]
      exact here
    · rw [link_moveTo_ne mine, before conn fun back => mine back.symm]
      exact all conn
  cases change with
  | nothing still => simpa using all conn
  | @joins other hello fresh =>
      refine moved rfl (fun _ _ => rfl) ?_
      exact keeps.joins past s.server other _ hello (known other) (all other) fresh
  | @sends other m p p' peer sent =>
      refine moved rfl (fun _ _ => rfl) ?_
      exact keeps.sends past s.server other _ p p' m (known other) (all other) peer sent
        (allowed other m rfl)
  | @delivers other env m up idle reads taken =>
      obtain ⟨first, others⟩ := queue_of_take taken
      exact keeps.serveOn_step up known all idle (.received m _ env first reads)
        (fun conn elsewhere => (others conn elsewhere).symm) conn
  | @works other act idle =>
      exact keeps.serveOn_step s.up known all idle (.own act) (fun _ _ => rfl) conn
  | @writes other m owed live taken =>
      obtain ⟨first, others⟩ := queue_of_take taken
      rw [Option.toList_none, List.append_nil]
      by_cases mine : other = conn
      · subst mine
        have written := keeps.writes past s.server other _ m _ (known other) (all other) first
        simpa [State.link] using written
      · have same := all conn
        simpa [State.link, mine, others conn fun back => mine back.symm] using same
  | @hears other p m down peer hears taken =>
      obtain ⟨first, others⟩ := queue_of_take taken
      refine moved (t := { s with down := down }) rfl (fun conn elsewhere => ?_) ?_
      · simp [State.link, others conn elsewhere]
      · exact keeps.hears past s.server other _ p m _ (known other) (all other) peer hears first
  | @cuts other p peer =>
      refine moved rfl (fun _ _ => rfl) ?_
      exact keeps.cuts past s.server other _ p (known other) (all other) peer

theorem run_after (known : Machine.Throughout sys.act (Everywhere Known) s actions)
    (start : ∀ conn, J past s.server conn (s.link conn))
    (allowed : ∀ conn m, .send conn m ∈ actions → Sends conn m) (conn : κ) :
    J (past ++ sys.served s actions) (Machine.run sys.act s actions).server conn
      ((Machine.run sys.act s actions).link conn) := by
  induction actions generalizing past s with
  | nil => simpa [served, Machine.trace] using start conn
  | cons action actions ih =>
      have one := keeps.step past action known.1 start fun conn m sent =>
        allowed conn m (by simp [sent])
      rw [served_cons, ← List.append_assoc]
      exact ih known.2 one fun conn m member => allowed conn m (List.mem_cons_of_mem _ member)

theorem run (known : Machine.Throughout sys.act (Everywhere Known) s actions)
    (start : ∀ conn, J [] s.server conn (s.link conn))
    (allowed : ∀ conn m, .send conn m ∈ actions → Sends conn m) (conn : κ) :
    J (sys.served s actions) (Machine.run sys.act s actions).server conn
      ((Machine.run sys.act s actions).link conn) :=
  keeps.run_after known start allowed conn

end

theorem throughout {K : σ → κ → Link π μ → Prop} (keeps : sys.Keeps Sends Known fun _ => K)
    (known : Machine.Throughout sys.act (Everywhere Known) s actions)
    (start : Everywhere K s) (allowed : ∀ conn m, .send conn m ∈ actions → Sends conn m) :
    Machine.Throughout sys.act (Everywhere K) s actions := by
  let Allowed (action : Action κ μ α β η) : Prop := ∀ conn m, action = .send conn m → Sends conn m
  have all : ∀ action ∈ actions, Allowed action := by
    rintro action member conn m rfl
    exact allowed conn m member
  refine Machine.throughout_of_invariant known ?_ start (Machine.admissible_of_forall all)
  intro s action known now sent conn
  exact keeps.step [] action known now sent conn

end Keeps

variable (sys) in
theorem act_server (s : State σ π κ μ) (action : Action κ μ α β η) :
    (sys.act s action).2.server = s.server ∨
      ∃ input, (sys.act s action).2.server = (sys.serve s.server input).2 := by
  have change := sys.act_change s action
  generalize (sys.act s action).1 = output at change
  generalize (sys.act s action).2 = next at change ⊢
  cases change with
  | @delivers conn env m up idle reads taken => exact .inr ⟨sys.receive conn m env, rfl⟩
  | @works conn act idle => exact .inr ⟨sys.own conn act, rfl⟩
  | _ => exact .inl rfl

theorem throughout_server {I : σ → Prop} (preserved : ∀ c input, I c → I (sys.serve c input).2)
    (start : I s.server) (actions : List (Action κ μ α β η)) :
    Machine.Throughout sys.act (Everywhere fun c _ _ => I c) s actions := by
  have always : Machine.Throughout sys.act (fun s => I s.server) s actions := by
    refine Machine.throughout_of_step actions (fun s action now => ?_) start
    rcases sys.act_server s action with same | ⟨input, served⟩
    · rw [same]
      exact now
    · rw [served]
      exact preserved _ _ now
  exact always.mono fun s now _ => now

theorem served_all {Known : σ → κ → Link π μ → Prop} {E : Served σ κ μ ι → Prop}
    (each : ∀ c conn l input up, Known c conn l → l.owed = [] → sys.live c = true →
      sys.Source c conn l input up → E (Machine.event sys.serve c input))
    {actions : List (Action κ μ α β η)}
    (known : Machine.Throughout sys.act (Everywhere Known) s actions) :
    ∀ e ∈ sys.served s actions, E e := by
  induction actions generalizing s with
  | nil => nofun
  | cons action actions ih =>
      intro e member
      rw [served_cons, List.mem_append] at member
      rcases member with here | later
      · have change := sys.act_change s action
        generalize (sys.act s action).1 = output at change here
        generalize (sys.act s action).2 = next at change
        cases change with
        | @delivers conn env m up idle reads taken =>
            obtain ⟨live, settled⟩ := idle_iff.mp idle
            obtain rfl := Option.mem_some.mp (Option.mem_toList.mp here)
            exact each _ conn _ _ _ (known.1 conn) settled live
              (.received m _ env (queue_of_take taken).1 reads)
        | @works conn act idle =>
            obtain ⟨live, settled⟩ := idle_iff.mp idle
            obtain rfl := Option.mem_some.mp (Option.mem_toList.mp here)
            exact each _ conn _ _ _ (known.1 conn) settled live (.own act)
        | _ => cases here
      · exact ih known.2 e later

variable (sys) in
theorem served_eq_trace (s : State σ π κ μ) (actions : List (Action κ μ α β η)) :
    ∃ inputs, sys.served s actions = Machine.trace sys.serve s.server inputs ∧
      (Machine.run sys.act s actions).server = Machine.run sys.serve s.server inputs := by
  induction actions generalizing s with
  | nil => exact ⟨[], rfl, rfl⟩
  | cons action actions ih =>
      obtain ⟨inputs, served, server⟩ := ih (sys.act s action).2
      have change := sys.act_change s action
      rw [served_cons, served, Machine.run_cons, server]
      generalize (sys.act s action).1 = output at change ⊢
      generalize (sys.act s action).2 = next at change ⊢
      cases change with
      | @delivers conn env m up idle reads taken => exact ⟨_ :: inputs, rfl, rfl⟩
      | @works conn act idle => exact ⟨_ :: inputs, rfl, rfl⟩
      | _ => exact ⟨inputs, rfl, rfl⟩

end System

/-! ## What the messages on their way weigh -/

structure Weights (κ μ : Type*) where
  up : κ → μ → Nat
  owed : κ → μ → Nat
  down : κ → μ → Nat

def total (weight : κ → μ → Nat) (l : List (κ × μ)) : Nat := (l.map fun x => weight x.1 x.2).sum

@[simp] theorem total_nil (weight : κ → μ → Nat) : total weight [] = 0 := rfl

@[simp] theorem total_cons (weight : κ → μ → Nat) (x : κ × μ) (l : List (κ × μ)) :
    total weight (x :: l) = weight x.1 x.2 + total weight l := by
  simp [total]

@[simp] theorem total_append (weight : κ → μ → Nat) (l l' : List (κ × μ)) :
    total weight (l ++ l') = total weight l + total weight l' := by
  simp [total]

theorem total_put (weight : κ → μ → Nat) (conn : κ) (ms : List μ) :
    total weight (put conn ms) = (ms.map (weight conn)).sum := by
  simp [total, put, Function.comp_def]

theorem total_eq_zero {weight : κ → μ → Nat} {l : List (κ × μ)}
    (light : ∀ x ∈ l, weight x.1 x.2 = 0) : total weight l = 0 :=
  List.sum_eq_zero fun _ member => by
    obtain ⟨x, inside, rfl⟩ := List.mem_map.mp member
    exact light x inside

theorem total_put_filter_le (weight : κ → μ → Nat) (conn : κ) (q : μ → Bool) (ms : List μ) :
    total weight (put conn (ms.filter q)) ≤ total weight (put conn ms) := by
  rw [total_put, total_put]
  induction ms with
  | nil => exact Nat.le_refl _
  | cons m ms ih =>
      rw [List.filter_cons, List.map_cons, List.sum_cons]
      split_ifs
      · exact Nat.add_le_add_left ih _
      · exact Nat.le_trans ih (Nat.le_add_left _ _)

theorem total_take [DecidableEq κ] (weight : κ → μ → Nat) {conn : κ} {l left : List (κ × μ)} {m : μ}
    (taken : take conn l = some (m, left)) : total weight l = weight conn m + total weight left := by
  have same := ((perm_of_take taken).map fun x => weight x.1 x.2).sum_eq
  rw [total, same, List.map_cons, List.sum_cons, total]

def State.weight (w : Weights κ μ) (s : State σ π κ μ) : Nat :=
  total w.up s.up + total w.owed s.owed + total w.down s.down

namespace System

variable (sys : System σ π κ μ ι α β η) [DecidableEq κ]

/-- Each action pays for the messages that it brings on their way with the message that it takes and
with what it gains, and there is enough left for what it spends. -/
structure Pays (w : Weights κ μ) (I : State σ π κ μ → Prop)
    (spent gained : State σ π κ μ → Action κ μ α β η → Option (Served σ κ μ ι) → Nat) :
    Prop where
  nothing : ∀ s action, sys.moves s action = false → spent s action none ≤ gained s action none
  joins : ∀ s conn hello, I s → s.peers conn = none →
    total w.up (put conn ((sys.start hello).1.filter sys.fits)) + spent s (.join conn hello) none ≤
      gained s (.join conn hello) none
  sends : ∀ s conn m p, I s → (s.peers conn).bind (sys.send · m) = some p →
    total w.up (put conn ([m].filter sys.fits)) + spent s (.send conn m) none ≤
      gained s (.send conn m) none
  delivers : ∀ s conn env m up, I s → sys.reads s.server conn = true →
    sys.moves s (.deliver conn env) = true → take conn s.up = some (m, up) →
    let e := Machine.event sys.serve s.server (sys.receive conn m env)
    total w.owed (put conn (answers e.output)) + total w.down (posts e.output) +
        spent s (.deliver conn env) (some e) ≤
      w.up conn m + gained s (.deliver conn env) (some e)
  works : ∀ s conn act, I s → sys.live s.server = true →
    let e := Machine.event sys.serve s.server (sys.own conn act)
    total w.owed (put conn (answers e.output)) + total w.down (posts e.output) +
        spent s (.own conn act) (some e) ≤ gained s (.own conn act) (some e)
  writes : ∀ s conn m owed, I s → sys.moves s (.write conn) = true →
    take conn s.owed = some (m, owed) →
    total w.down (put conn ([m].filter sys.fits)) + spent s (.write conn) none ≤
      w.owed conn m + gained s (.write conn) none
  hears : ∀ s conn p m down, I s → s.peers conn = some p → sys.hears p = true →
    sys.moves s (.hear conn) = true → take conn s.down = some (m, down) →
    total w.up (put conn ((sys.hear p m).1.filter sys.fits)) + spent s (.hear conn) none ≤
      w.down conn m + gained s (.hear conn) none
  cuts : ∀ s conn, spent s (.cut conn) none ≤ gained s (.cut conn) none

def sumOver (amount : State σ π κ μ → Action κ μ α β η → Option (Served σ κ μ ι) → Nat)
    (s : State σ π κ μ) (actions : List (Action κ μ α β η)) : Nat :=
  ((Machine.trace sys.act s actions).map fun e => amount e.before e.input e.output).sum

variable {sys} {w : Weights κ μ} {I : State σ π κ μ → Prop}
  {spent gained : State σ π κ μ → Action κ μ α β η → Option (Served σ κ μ ι) → Nat}

theorem Pays.step (pays : sys.Pays w I spent gained) {s : State σ π κ μ} (invariant : I s)
    (action : Action κ μ α β η) :
    (sys.act s action).2.weight w + spent s action (sys.act s action).1 ≤
      s.weight w + gained s action (sys.act s action).1 := by
  have change := sys.act_change s action
  generalize (sys.act s action).1 = output at change ⊢
  generalize (sys.act s action).2 = next at change ⊢
  cases change with
  | nothing still => exact Nat.add_le_add_left (pays.nothing s action still) _
  | @joins conn hello fresh =>
      have enough := pays.joins s conn hello invariant fresh
      simp only [moveTo, State.weight, total_append]
      omega
  | @sends conn m p p' peer sent =>
      have enough := pays.sends s conn m p' invariant (by rw [peer]; exact sent)
      simp only [moveTo, State.weight, total_append]
      omega
  | @delivers conn env m up idle reads taken =>
      have enough := pays.delivers s conn env m up invariant reads
        (by simp [moves, idle, reads, taken]) taken
      have taken := total_take w.up taken
      simp only [serveOn, State.weight, total_append] at enough ⊢
      omega
  | @works conn act idle =>
      have enough := pays.works s conn act invariant (idle_iff.mp idle).1
      simp only [serveOn, State.weight, total_append] at enough ⊢
      omega
  | @writes conn m owed live taken =>
      have enough := pays.writes s conn m owed invariant (by simp [moves, live, taken]) taken
      have taken := total_take w.owed taken
      simp only [State.weight, total_append]
      omega
  | @hears conn p m down peer hears taken =>
      have enough := pays.hears s conn p m down invariant peer hears
        (by simp [moves, peer, hears, taken]) taken
      have taken := total_take w.down taken
      simp only [moveTo, State.weight, total_append]
      omega
  | @cuts conn p peer =>
      have enough := pays.cuts s conn
      simpa [moveTo, State.weight, put] using enough

theorem Pays.run (pays : sys.Pays w I spent gained) {s : State σ π κ μ}
    {actions : List (Action κ μ α β η)} (known : Machine.Throughout sys.act I s actions) :
    (Machine.run sys.act s actions).weight w + sys.sumOver spent s actions ≤
      s.weight w + sys.sumOver gained s actions := by
  induction actions generalizing s with
  | nil => exact Nat.le_refl _
  | cons action actions ih =>
      have first := pays.step known.1 action
      have rest := ih known.2
      simp only [sumOver, Machine.trace, Machine.run_cons, List.map_cons, List.sum_cons,
        Machine.event] at rest ⊢
      omega

/-! ## Settling -/

variable (sys) in
/-- Nothing on its way can move. -/
def Quiet (s : State σ π κ μ) : Prop := ∀ action : Action κ μ α β η, sys.moves s action = false

variable (sys) in
def counted (s : State σ π κ μ) (action : Action κ μ α β η) (_ : Option (Served σ κ μ ι)) : Nat :=
  if sys.moves s action then 1 else 0

variable (sys) in
def Moving (s : State σ π κ μ) (actions : List (Action κ μ α β η)) : Prop :=
  Machine.Admissible sys.act (fun s action => sys.moves s action = true) s actions

section

variable (pays : sys.Pays w (fun _ => True) sys.counted gained)
  (free : ∀ s action output, sys.moves s action = true → gained s action output = 0)

include pays free

theorem Pays.move {s : State σ π κ μ} {action : Action κ μ α β η}
    (moves : sys.moves s action = true) : (sys.act s action).2.weight w < s.weight w := by
  have enough := pays.step (s := s) trivial action
  rw [free s action _ moves, counted, if_pos moves] at enough
  omega

theorem Pays.length_le {s : State σ π κ μ} {actions : List (Action κ μ α β η)}
    (moving : sys.Moving s actions) : actions.length ≤ s.weight w := by
  induction actions generalizing s with
  | nil => exact Nat.zero_le _
  | cons action actions ih =>
      have first := pays.move free moving.1
      have rest := ih moving.2
      rw [List.length_cons]
      omega

end

theorem Quiet.owed {s : State σ π κ μ} {conn : κ} (quiet : sys.Quiet s)
    (live : sys.live s.server = true) : (s.link conn).owed = [] := by
  have still := quiet (.write conn)
  simpa [moves, live, take_eq_none, State.link] using still

theorem Quiet.up {s : State σ π κ μ} {conn : κ} (quiet : sys.Quiet s) (env : α)
    (live : sys.live s.server = true) (reads : sys.reads s.server conn = true) :
    (s.link conn).up = [] := by
  have idle : sys.idle s conn = true := idle_iff.mpr ⟨live, quiet.owed live⟩
  have still := quiet (.deliver conn env)
  simpa [moves, idle, reads, take_eq_none, State.link] using still

theorem Quiet.down {s : State σ π κ μ} {conn : κ} {p : π} (quiet : sys.Quiet s)
    (peer : s.peers conn = some p) (hears : sys.hears p = true) : (s.link conn).down = [] := by
  have still := quiet (.hear conn)
  simpa [moves, peer, hears, take_eq_none, State.link] using still

end System

end Duplex
