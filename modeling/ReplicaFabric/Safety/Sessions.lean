import ReplicaFabric.Cli.Scripts
import ReplicaFabric.Safety.Restorability

/-!
# Sessions over state files

The invocations of the command-line interface hand the controller over through snapshots in files.
They behave as if the controllers themselves were kept, each losing its authority when it is loaded.
-/

namespace ReplicaFabric

namespace ReplicaSetController

variable {ctrl : ReplicaSetController}

/-- A snapshot of the controller decodes to its state. -/
structure Recordable (ctrl : ReplicaSetController) : Prop where
  keyed : ctrl.Keyed
  finite : ctrl.FiniteDoubles

theorem recordable_empty : empty.Recordable :=
  ⟨wellFormed_empty.keyed, acceptable_empty.finite⟩

theorem Recordable.step (recordable : ctrl.Recordable) (op : Operation) (fresh : FreshIds)
    (finite : op.finite = true) : (op.apply fresh ctrl).2.Recordable where
  keyed := keyed_step recordable.keyed ⟨op, fresh⟩
  finite := by
    constructor
    · intro id s' found
      rcases set_origin found with ⟨s, before, lifecycle, rfl⟩ | ⟨-, -, -, epoch, rfl⟩
      · exact recordable.finite.thresholds id s before
      · exact of_decide_eq_true finite
    · intro id r' found
      rcases replica_origin found with
        ⟨r, before, -, same | ⟨-, ev, worker, boot, mono, rfl, reported⟩⟩ | ⟨-, -, -, -, zero, -⟩
      · rw [same]
        exact recordable.finite.confidences id r before
      · rw [reported]
        exact of_decide_eq_true finite
      · rw [zero]
        decide

theorem Recordable.restored (recordable : ctrl.Recordable) (epoch : CoordinatorEpoch) :
    (ctrl.restored epoch).Recordable :=
  ⟨restored_keyed recordable.keyed epoch, restored_finite recordable.finite epoch⟩

theorem finite_of_quiet (op : Operation) (quiet : op.quiet = true) : op.finite = true :=
  (Bool.and_eq_true_iff.mp quiet).1

theorem Recordable.quiet {next : ReplicaSetController} (recordable : ctrl.Recordable)
    (script : Scripted Operation.quiet ctrl next) : next.Recordable :=
  script.keeps (fun _ op fresh now quiet => now.step op fresh (finite_of_quiet op quiet)) recordable

end ReplicaSetController

namespace Cli

open ReplicaSetController

variable {host : Host} {ctrl : ReplicaSetController}

theorem relink_id (workers : Table WorkerId WorkerRegistration) (r : ReplicaState) :
    (relink workers r).id = r.id := by
  unfold relink
  split <;> rfl

theorem relink_confidence (workers : Table WorkerId WorkerRegistration) (r : ReplicaState) :
    (relink workers r).healthRecord = r.healthRecord := by
  unfold relink
  split <;> rfl

theorem relinkAuthority_eq (ctrl : ReplicaSetController) : ∃ epoch, relinkAuthority ctrl =
    { ctrl with
      replicas := ctrl.replicas.map fun _ r => relink ctrl.workers r
      epoch := epoch } := by
  unfold relinkAuthority
  dsimp only
  split
  · exact ⟨ctrl.epoch, rfl⟩
  · exact ⟨_, rfl⟩

theorem relinkAuthority_recordable (recordable : ctrl.Recordable) :
    (relinkAuthority ctrl).Recordable := by
  obtain ⟨epoch, same⟩ := relinkAuthority_eq ctrl
  rw [same]
  refine ⟨⟨recordable.keyed.sets, recordable.keyed.replicas.map fun r => relink_id _ r,
    recordable.keyed.workers⟩, recordable.finite.thresholds, fun id r' found => ?_⟩
  obtain ⟨r, before, rfl⟩ := Option.map_eq_some_iff.mp ((Table.get_map ..).symm.trans found)
  rw [relink_confidence]
  exact recordable.finite.confidences id r before

theorem demo_recordable (recordable : ctrl.Recordable) : (demo host ctrl).ctrl.Recordable := by
  obtain ⟨ready, standby, left, first, second, third, last, -⟩ := demo_calls host ctrl
  rw [last]
  exact ((((recordable.quiet first).step _ _ rfl).quiet second).quiet third).step _ _ rfl

theorem Ends.recordable {done : Done} (ends : Ends host ctrl done) (recordable : ctrl.Recordable) :
    done.ctrl.Recordable := by
  cases ends with
  | quiet script => exact recordable.quiet script
  | grants grants =>
      obtain ⟨next, script, op, finite, -, fresh, last⟩ := grants
      rw [last]
      exact (recordable.quiet script.quiet).step op fresh finite
  | demo => exact demo_recordable recordable

/-- What a saved controller is when it is loaded: recovery validates it and takes its authority. -/
def memory : Medium ReplicaSetController where
  recover saved ctrl :=
    match validateRecoveredState saved.recordedState with
    | some e => .error e
    | none => .ok (saved.restored ctrl.epoch)
  snapshot := id

structure Stored (ctrl : ReplicaSetController) : Prop where
  recordable : ctrl.Recordable
  addressable : ctrl.Addressable

theorem recover_stored (stored : Stored ctrl) (other : ReplicaSetController) :
    bytes.recover (makeSnapshot ctrl) other = memory.recover ctrl other := by
  have decoded : decodeSnapshot (makeSnapshot ctrl) = .ok ctrl.recordedState :=
    decodeSnapshot_makeSnapshot stored.recordable.keyed stored.addressable stored.recordable.finite
  simp only [bytes, memory, recoverInto, decoded]
  cases validateRecoveredState ctrl.recordedState with
  | some e => rfl
  | none =>
      exact congrArg Except.ok (installRecoveredState_recordedState stored.recordable.keyed other)

theorem memory_recordable (stored : Stored ctrl) {other loaded : ReplicaSetController}
    (recovers : memory.recover ctrl other = .ok loaded) : loaded.Recordable := by
  simp only [memory] at recovers
  split at recovers
  · cases recovers
  · cases recovers
    exact stored.recordable.restored other.epoch

structure Mirrors (files : Files Str) (saved : Files ReplicaSetController) : Prop where
  files : ∀ path, files path = (saved path).map makeSnapshot
  stored : ∀ path ctrl, saved path = some ctrl → Stored ctrl

def Addressable (files : Files Str) : Prop :=
  ∀ path content, files path = some content → content.length < sizeLimit

variable {files : Files Str} {saved : Files ReplicaSetController} {opts : Options}

theorem Mirrors.recover (mirrors : Mirrors files saved) (path : Str)
    (other : ReplicaSetController) :
    (files path).map (bytes.recover · other) = (saved path).map (memory.recover · other) := by
  rw [mirrors.files path]
  cases found : saved path with
  | none => rfl
  | some ctrl => exact congrArg some (recover_stored (mirrors.stored path ctrl found) other)

theorem Mirrors.update (mirrors : Mirrors files saved) (path : Str) (recordable : ctrl.Recordable)
    (small : Addressable (Function.update files path (some (makeSnapshot ctrl)))) :
    Mirrors (Function.update files path (some (makeSnapshot ctrl)))
      (Function.update saved path (some ctrl)) where
  files other := by
    by_cases here : other = path
    · rw [here, Function.update_self, Function.update_self]
      rfl
    · rw [Function.update_of_ne here, Function.update_of_ne here]
      exact mirrors.files other
  stored other kept found := by
    by_cases here : other = path
    · rw [here, Function.update_self] at found
      cases found
      exact ⟨recordable, small path _ (Function.update_self ..)⟩
    · rw [Function.update_of_ne here] at found
      exact mirrors.stored other kept found

theorem loadState_mirrors (mirrors : Mirrors files saved) (opts : Options) :
    loadState bytes files opts = loadState memory saved opts := by
  have same := mirrors.recover opts.stateIn .empty
  unfold loadState
  split_ifs
  · rfl
  · cases file : files opts.stateIn <;> cases store : saved opts.stateIn <;>
      simp [file, store] at same
    · rfl
    · dsimp only
      rw [same]

theorem loadState_recordable (mirrors : Mirrors files saved)
    (loads : loadState memory saved opts = .ok ctrl) : ctrl.Recordable := by
  unfold loadState at loads
  split_ifs at loads
  · cases loads
    exact recordable_empty
  · split at loads
    · cases loads
    · next store found =>
        split at loads
        · cases loads
        · next recovered recovers =>
            cases loads
            exact relinkAuthority_recordable
              (memory_recordable (mirrors.stored _ store found) recovers)

/-- The two programs print the same and leave files that mirror each other, unless a file is too
large for memory. -/
def Alike (files : Files Str) (saved : Files ReplicaSetController)
    (first : Except Abort (Ended Str)) (second : Except Abort (Ended ReplicaSetController)) :
    Prop :=
  match first, second with
  | .error a, .error b => a = b ∧ Mirrors files saved
  | .ok a, .ok b => a.printed = b.printed ∧ (Addressable a.files → Mirrors a.files b.files)
  | _, _ => False

theorem saveState_alike (opts : Options) (mirrors : Mirrors files saved)
    (recordable : ctrl.Recordable) :
    (saveState bytes host files opts ctrl).1 = (saveState memory host saved opts ctrl).1 ∧
      (Addressable (saveState bytes host files opts ctrl).2 →
        Mirrors (saveState bytes host files opts ctrl).2
          (saveState memory host saved opts ctrl).2) := by
  unfold saveState
  split_ifs
  · exact ⟨rfl, fun _ => mirrors⟩
  · exact ⟨rfl, fun _ => mirrors⟩
  · exact ⟨rfl, mirrors.update opts.stateOut recordable⟩

theorem snapshotSave_alike (mirrors : Mirrors files saved) (recordable : ctrl.Recordable)
    (args : List Str) : Alike files saved (snapshotSave bytes host files args ctrl)
      (snapshotSave memory host saved args ctrl) := by
  unfold snapshotSave
  cases arg args 1 with
  | error a => exact ⟨rfl, mirrors⟩
  | ok path =>
      simp only [Bind.bind, Except.bind]
      split_ifs
      · exact ⟨rfl, fun _ => mirrors⟩
      · exact ⟨rfl, mirrors.update path recordable⟩

theorem snapshotRecover_alike (mirrors : Mirrors files saved) (args : List Str) :
    Alike files saved (snapshotRecover bytes files args ctrl)
      (snapshotRecover memory saved args ctrl) := by
  unfold snapshotRecover
  cases arg args 1 with
  | error a => exact ⟨rfl, mirrors⟩
  | ok path =>
      have same := mirrors.recover path ctrl
      simp only [Bind.bind, Except.bind]
      cases file : files path <;> cases store : saved path <;> simp [file, store] at same
      · exact ⟨rfl, fun _ => mirrors⟩
      · dsimp only
        rw [same]
        split <;> exact ⟨rfl, fun _ => mirrors⟩

theorem main_alike (mirrors : Mirrors files saved) (host : Host) (argv : List Str) :
    Alike files saved (main bytes host files argv) (main memory host saved argv) := by
  unfold main
  dsimp only
  generalize Options.parse argv {} = opts
  cases opts.args with
  | nil => exact ⟨rfl, fun _ => mirrors⟩
  | cons cmd rest =>
      dsimp only
      rw [loadState_mirrors mirrors]
      cases loads : loadState memory saved opts with
      | error e => exact ⟨rfl, fun _ => mirrors⟩
      | ok ctrl =>
          have recordable := loadState_recordable mirrors loads
          dsimp only
          cases Word.of cmd with
          | snapshotSave => exact snapshotSave_alike mirrors recordable _
          | snapshotRecover => exact snapshotRecover_alike mirrors _
          | verb verb =>
              dsimp only
              cases ok : command host opts.json (cmd :: rest) ctrl verb with
              | error a => exact ⟨rfl, mirrors⟩
              | ok done =>
                  have kept := (command_ends ok).recordable recordable
                  simp only [Bind.bind, Except.bind]
                  split_ifs
                  · obtain ⟨errors, files⟩ := saveState_alike opts mirrors kept
                    exact ⟨congrArg _ errors, files⟩
                  · exact ⟨rfl, fun _ => mirrors⟩
          | unknown => exact ⟨rfl, fun _ => mirrors⟩

def targets (opts : Options) : List Str :=
  match opts.args with
  | [] => []
  | cmd :: rest =>
      match Word.of cmd with
      | .snapshotSave => rest.take 1
      | _ => if opts.stateOut = [] then [] else [opts.stateOut]

section writes

variable {β : Type} (medium : Medium β) {files : Files β} {ended : Ended β}

theorem saveState_files (files : Files β) (opts : Options) (ctrl : ReplicaSetController) :
    (saveState medium host files opts ctrl).2 = files ∨
      ∃ path ∈ if opts.stateOut = [] then [] else [opts.stateOut],
        (saveState medium host files opts ctrl).2 =
          Function.update files path (some (medium.snapshot ctrl)) := by
  unfold saveState
  split_ifs
  · exact .inl rfl
  · exact .inl rfl
  · exact .inr ⟨opts.stateOut, List.mem_singleton_self _, rfl⟩

theorem snapshotSave_files {cmd : Str} {rest : List Str}
    (ok : snapshotSave medium host files (cmd :: rest) ctrl = .ok ended) :
    ended.files = files ∨ ∃ path ∈ rest.take 1,
      ended.files = Function.update files path (some (medium.snapshot ended.ctrl)) := by
  cases rest with
  | nil => cases ok
  | cons target rest =>
      unfold snapshotSave at ok
      obtain ⟨path, here, ok⟩ := exists_of_bind_ok ok
      cases here
      split_ifs at ok <;> cases ok
      · exact .inl rfl
      · exact .inr ⟨target, List.mem_singleton_self _, rfl⟩

theorem snapshotRecover_files {args : List Str}
    (ok : snapshotRecover medium files args ctrl = .ok ended) : ended.files = files := by
  unfold snapshotRecover at ok
  obtain ⟨path, -, ok⟩ := exists_of_bind_ok ok
  dsimp only at ok
  split at ok
  · cases ok
    rfl
  · split at ok <;> cases ok <;> rfl

theorem main_files {argv : List Str} (ok : main medium host files argv = .ok ended) :
    ended.files = files ∨ ∃ path ∈ targets (Options.parse argv {}),
      ended.files = Function.update files path (some (medium.snapshot ended.ctrl)) := by
  unfold targets
  unfold main at ok
  dsimp only at ok
  generalize Options.parse argv {} = opts at ok ⊢
  cases words : opts.args with
  | nil =>
      rw [words] at ok
      cases ok
      exact .inl rfl
  | cons cmd rest =>
      rw [words] at ok
      dsimp only at ok ⊢
      cases loads : loadState medium files opts with
      | error e =>
          rw [loads] at ok
          cases ok
          exact .inl rfl
      | ok ctrl =>
          rw [loads] at ok
          cases word : Word.of cmd with
          | snapshotSave =>
              rw [word] at ok
              exact snapshotSave_files medium ok
          | snapshotRecover =>
              rw [word] at ok
              exact .inl (snapshotRecover_files medium ok)
          | verb verb =>
              rw [word] at ok
              obtain ⟨done, -, ok⟩ := exists_of_bind_ok ok
              split_ifs at ok <;> cases ok
              · exact saveState_files medium files opts done.ctrl
              · exact .inl rfl
          | unknown =>
              rw [word] at ok
              cases ok
              exact .inl rfl

theorem invoke_elsewhere (files : Files β) (inv : Invocation) {path : Str}
    (other : path ∉ targets (Options.parse inv.argv {})) :
    (invoke medium files inv).2 path = files path := by
  unfold invoke
  split
  · rfl
  · next ok =>
      rcases main_files medium ok with same | ⟨target, member, written⟩
      · exact congrFun same path
      · rw [written]
        exact Function.update_of_ne (fun here : path = target => other (here ▸ member)) ..

end writes

theorem Addressable.invoke (before : Addressable files) (inv : Invocation)
    (written : ∀ path ∈ targets (Options.parse inv.argv {}),
      ∀ content ∈ (invoke bytes files inv).2 path, content.length < sizeLimit) :
    Addressable (invoke bytes files inv).2 := by
  intro path content found
  by_cases target : path ∈ targets (Options.parse inv.argv {})
  · exact written path target content found
  · exact before path content ((invoke_elsewhere bytes files inv target).symm.trans found)

theorem sessions_refine (invs : List Invocation)
    (small : Machine.Throughout (invoke bytes) Addressable (fun _ => none) invs) :
    (Machine.trace (invoke bytes) (fun _ => none) invs).map Machine.Event.output =
        (Machine.trace (invoke memory) (fun _ => none) invs).map Machine.Event.output ∧
      ∀ path, Machine.run (invoke bytes) (fun _ => none) invs path =
        (Machine.run (invoke memory) (fun _ => none) invs path).map makeSnapshot := by
  have simulates (files : Files Str) (saved : Files ReplicaSetController) (inv : Invocation)
      (mirrors : Mirrors files saved) (small : Addressable (invoke bytes files inv).2) :
      (invoke bytes files inv).1 = (invoke memory saved inv).1 ∧
        Mirrors (invoke bytes files inv).2 (invoke memory saved inv).2 := by
    have alike := main_alike mirrors inv.host inv.argv
    unfold invoke at small ⊢
    cases first : main bytes inv.host files inv.argv <;>
      cases second : main memory inv.host saved inv.argv <;>
      simp only [first, second, Alike] at alike small ⊢
    · exact ⟨congrArg _ alike.1, alike.2⟩
    · exact ⟨congrArg _ alike.1, alike.2 small⟩
  have start : Mirrors (fun _ => none) fun _ => none := ⟨fun _ => rfl, nofun⟩
  obtain ⟨answers, mirrors⟩ := Machine.trace_simulates simulates start small
  exact ⟨answers, mirrors.files⟩

def Sample.platform : Host where
  draw k := (0, k.toUInt64 + 1)
  fresh k := Sample.freshAt k.toUInt64
  writable _ := true
  indeterminatePromotion := .notPromoted
  scores := .exact

def Sample.session : List Invocation :=
  [ ⟨Sample.platform, ["setup", "1", "--save", "a"]⟩,
    ⟨Sample.platform, ["list-sets", "--state", "a"]⟩ ]

theorem sessions_refine_saved :
    (Machine.trace (invoke bytes) (fun _ => none) Sample.session).map Machine.Event.output =
        (Machine.trace (invoke memory) (fun _ => none) Sample.session).map Machine.Event.output ∧
      ∀ path, Machine.run (invoke bytes) (fun _ => none) Sample.session path =
        (Machine.run (invoke memory) (fun _ => none) Sample.session path).map makeSnapshot := by
  have start : Addressable fun _ => none := by
    rintro path content ⟨⟩
  have saved := start.invoke ⟨Sample.platform, ["setup", "1", "--save", "a"]⟩
    (by decide +kernel)
  have loaded := saved.invoke ⟨Sample.platform, ["list-sets", "--state", "a"]⟩
    (by decide +kernel)
  exact sessions_refine Sample.session ⟨start, saved, loaded⟩

end Cli

end ReplicaFabric
