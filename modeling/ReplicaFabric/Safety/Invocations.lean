import ReplicaFabric.Safety.Recovery
import ReplicaFabric.Safety.Sessions
import ReplicaFabric.Safety.SinglePrimary
import ReplicaFabric.Safety.Validation

/-!
# Serving at the end of an invocation

A controller that is loaded from a file has no authority left, and a command that grants it twice
has taken the first away. No invocation ends with two replicas that may serve, whatever the file
holds, and a replica that was saved while it was `SERVING` does not serve again.
-/

namespace ReplicaFabric

theorem Operation.Grants.mayGrant {op : Operation} {next : ReplicaSetController} {id : ReplicaId}
    (grants : op.Grants next id) : op.mayGrant = true := by
  cases op with
  | promoteReplica => exact decide_eq_true grants.2
  | triggerFailover => rfl
  | _ => cases grants

theorem Operation.Grants.unique {op : Operation} {next : ReplicaSetController} {a b : ReplicaId}
    (grants : op.Grants next a) (also : op.Grants next b) : a = b := by
  cases op with
  | promoteReplica => exact grants.1.symm.trans also.1
  | triggerFailover =>
      obtain ⟨record, last, rfl⟩ := grants
      obtain ⟨record', last', rfl⟩ := also
      cases last.symm.trans last'
      rfl
  | _ => cases grants

theorem Operation.provisions_of_not_provisioning {op : Operation}
    (carried : op.provisioning = false) (id : ReplicaId) : op.provisions id = false := by
  cases op <;> first | rfl | cases carried

namespace ReplicaSetController

variable {ctrl next : ReplicaSetController} {holder : Option ReplicaId} {op : Operation}

/-- No other replica has the serving flag, in whichever set. -/
def Reserved (ctrl : ReplicaSetController) (holder : Option ReplicaId) : Prop :=
  ∀ setId id, ctrl.Holds setId id → holder = some id

theorem Reserved.holder_of_servable (reserved : ctrl.Reserved holder) {id : ReplicaId}
    (servable : ctrl.Servable id) : holder = some id := by
  obtain ⟨r, -, found, -⟩ := servable_iff.mp servable
  exact reserved r.setId id (holds_of_servable found servable)

theorem Reserved.step (reserved : ctrl.Reserved holder) (fresh : FreshIds)
    (grantless : op.mayGrant = false) : (op.apply fresh ctrl).2.Reserved holder := by
  intro setId id holds
  rcases holds_origin holds with before | ⟨-, grants⟩
  · exact reserved setId id before
  · cases grantless.symm.trans grants.mayGrant

theorem Reserved.quiet (reserved : ctrl.Reserved holder)
    (script : Scripted Operation.quiet ctrl next) : next.Reserved holder := by
  refine script.keeps (P := fun ctrl => ctrl.Reserved holder)
    (fun _ op fresh now quiet => now.step fresh ?_) reserved
  simpa using (Bool.and_eq_true_iff.mp quiet).2

theorem Reserved.granted (reserved : ctrl.Reserved none) (op : Operation) (fresh : FreshIds) :
    ∃ holder, (op.apply fresh ctrl).2.Reserved holder := by
  by_cases granted : ∃ id, op.Grants (op.apply fresh ctrl).2 id
  · obtain ⟨x, grants⟩ := granted
    refine ⟨some x, fun setId id holds => ?_⟩
    rcases holds_origin holds with before | ⟨-, also⟩
    · cases reserved setId id before
    · exact congrArg some (grants.unique also)
  · refine ⟨none, fun setId id holds => ?_⟩
    rcases holds_origin holds with before | ⟨-, grants⟩
    · exact reserved setId id before
    · exact absurd ⟨id, grants⟩ granted

theorem Reserved.promoted (reserved : ctrl.Reserved none) (fresh : FreshIds) (x : ReplicaId)
    (target : PromotionState) (worker : WorkerId) (boot : WorkerBootId) (mono : MonotonicNs)
    (wall : WallNs) :
    ((Operation.promoteReplica x target worker boot mono wall).apply fresh ctrl).2.Reserved
      (some x) := by
  intro setId id holds
  rcases holds_origin holds with before | ⟨-, grants⟩
  · cases reserved setId id before
  · exact congrArg some grants.1

/-- A failover takes the authority of the failed replica before it grants it to another. -/
theorem Reserved.failover {failed : ReplicaId} (reserved : ctrl.Reserved (some failed))
    (fresh : FreshIds) (set : ReplicaSetId) (reason : Str) (mono : MonotonicNs) (wall : WallNs) :
    ∃ holder, ((Operation.triggerFailover set failed reason mono wall).apply fresh
      ctrl).2.Reserved holder := by
  generalize same : Operation.triggerFailover set failed reason mono wall = op
  cases accepted : (op.apply fresh ctrl).1.isOk with
  | false =>
      refine ⟨some failed, fun setId id holds => ?_⟩
      rcases holds_origin holds with before | ⟨ok, -⟩
      · exact reserved setId id before
      · cases accepted.symm.trans ok
  | true =>
      have grants (setId : ReplicaSetId) (id : ReplicaId)
          (holds : (op.apply fresh ctrl).2.Holds setId id) :
          op.Grants (op.apply fresh ctrl).2 id := by
        obtain ⟨r', found, -, flagged⟩ := holds
        have change := ctrl.replicaStep op fresh id
        rw [found] at change
        obtain ⟨r, before, -, ⟨flag, keeps⟩ | ⟨-, grants⟩⟩ := change.flag flagged
        · have kept : failed ≠ id := by
            have := keeps accepted
            rwa [← same] at this
          cases reserved r.setId id ⟨r, before, rfl, flag⟩
          exact absurd rfl kept
        · exact grants
      by_cases holding : ∃ setId id, (op.apply fresh ctrl).2.Holds setId id
      · obtain ⟨setId, x, holds⟩ := holding
        exact ⟨some x, fun setId' id also =>
          congrArg some ((grants setId x holds).unique (grants setId' id also))⟩
      · exact ⟨none, fun setId id holds => absurd ⟨setId, id, holds⟩ holding⟩

theorem reserved_empty : empty.Reserved none := by
  rintro setId id ⟨r, found, -⟩
  cases found

theorem reserved_install (state : RecoveredState) :
    (installRecoveredState state ctrl).Reserved none := by
  rintro setId id ⟨r, found, -, flagged⟩
  obtain ⟨stored, -, rfl⟩ := install_get found
  cases flagged

/-! ## Replicas that do not serve again -/

/-- The replica is over, or `SERVING` without being warm, or not there. -/
def Spent (ctrl : ReplicaSetController) (id : ReplicaId) : Prop :=
  ∀ r, ctrl.replicas[id]? = some r →
    r.lifecycle.Terminal ∨ (r.lifecycle = .serving ∧ r.warmth ≠ .warm)

theorem Spent.not_servable {id : ReplicaId} (spent : ctrl.Spent id) : ¬ctrl.Servable id := by
  intro servable
  obtain ⟨r, set, found, -, authority⟩ := servable_iff.mp servable
  rcases spent r found with ended | ⟨-, cold⟩
  · rw [authority.lifecycle] at ended
    exact ended
  · exact cold authority.warmth

theorem spent_empty (id : ReplicaId) : empty.Spent id := by
  rintro r ⟨⟩

theorem Spent.step {id : ReplicaId} (spent : ctrl.Spent id) (fresh : FreshIds)
    (carried : op.provisioning = false) : (op.apply fresh ctrl).2.Spent id := by
  intro r' post
  have change := ctrl.replicaStep op fresh id
  have keeps := Operation.provisions_of_not_provisioning carried id
  rw [post] at change
  obtain ⟨r, found⟩ := change.exists_prior fun _ => keeps
  rw [found] at change
  rcases spent r found with ended | ⟨serving, cold⟩
  · exact .inl (change.terminal (fun _ => keeps) ended)
  · exact change.serving_cold (fun _ => keeps) serving cold

theorem Spent.run {id : ReplicaId} (spent : ctrl.Spent id)
    (script : Scripted (fun op => !op.provisioning) ctrl next) : next.Spent id :=
  script.keeps (P := fun ctrl => ctrl.Spent id)
    (fun _ op fresh now carried => now.step fresh (by simpa using carried)) spent

end ReplicaSetController

namespace Cli

open ReplicaSetController

variable {host : Host} {ctrl : ReplicaSetController} {files : Files Str} {opts : Options}
  {argv : List Str} {ended : Ended Str}

/-! ## How an invocation ends -/

/-- The controller of an invocation at its end: a new one, the one that was loaded, one that was
recovered in its place, or what the command has made of it. -/
inductive Held (host : Host) (files : Files Str) (argv : List Str) : ReplicaSetController → Prop
  | empty : Held host files argv .empty
  | loaded {ctrl : ReplicaSetController}
      (loads : loadState bytes files (Options.parse argv {}) = .ok ctrl) :
      Held host files argv ctrl
  | recovered {path content : Str} {loaded ctrl : ReplicaSetController}
      (file : files path = some content) (recovers : bytes.recover content loaded = .ok ctrl) :
      Held host files argv ctrl
  | ran {loaded : ReplicaSetController} {verb : Verb} {done : Done}
      (loads : loadState bytes files (Options.parse argv {}) = .ok loaded)
      (named : word argv = some (.verb verb))
      (ok : command host (Options.parse argv {}).json (Options.parse argv {}).args loaded verb =
        .ok done) : Held host files argv done.ctrl

theorem snapshotRecover_held {args : List Str}
    (loads : loadState bytes files (Options.parse argv {}) = .ok ctrl)
    (ok : snapshotRecover bytes files args ctrl = .ok ended) : Held host files argv ended.ctrl := by
  unfold snapshotRecover at ok
  obtain ⟨path, -, ok⟩ := exists_of_bind_ok ok
  dsimp only at ok
  split at ok
  · cases ok
    exact .loaded loads
  · next content file =>
      split at ok
      · cases ok
        exact .loaded loads
      · next recovers =>
          cases ok
          exact .recovered file recovers

theorem main_held (ok : main bytes host files argv = .ok ended) :
    Held host files argv ended.ctrl := by
  unfold main at ok
  dsimp only at ok
  cases words : (Options.parse argv {}).args with
  | nil =>
      rw [words] at ok
      cases ok
      exact .empty
  | cons cmd rest =>
      rw [words] at ok
      dsimp only at ok
      cases loads : loadState bytes files (Options.parse argv {}) with
      | error e =>
          rw [loads] at ok
          cases ok
          exact .empty
      | ok ctrl =>
          rw [loads] at ok
          dsimp only at ok
          have named : word argv = some (Word.of cmd) := by simp [word, words]
          cases given : Word.of cmd with
          | snapshotSave =>
              rw [given] at ok
              unfold snapshotSave at ok
              obtain ⟨path, -, ok⟩ := exists_of_bind_ok ok
              split_ifs at ok <;> cases ok <;> exact .loaded loads
          | snapshotRecover =>
              rw [given] at ok
              exact snapshotRecover_held loads ok
          | verb verb =>
              rw [given] at ok named
              obtain ⟨done, runs, ok⟩ := exists_of_bind_ok ok
              rw [← words] at runs
              cases ok
              exact .ran loads named runs
          | unknown =>
              rw [given] at ok
              cases ok
              exact .loaded loads

/-! ## At most one replica serves -/

theorem relink_flag (workers : Table WorkerId WorkerRegistration) (r : ReplicaState) :
    (relink workers r).servingEligible = r.servingEligible := by
  unfold relink
  split <;> rfl

theorem relinkAuthority_reserved (reserved : ctrl.Reserved none) :
    (relinkAuthority ctrl).Reserved none := by
  obtain ⟨epoch, same⟩ := relinkAuthority_eq ctrl
  rw [same]
  rintro setId id ⟨r', found, -, flagged⟩
  obtain ⟨r, before, rfl⟩ := Option.map_eq_some_iff.mp ((Table.get_map ..).symm.trans found)
  rw [relink_flag] at flagged
  exact reserved r.setId id ⟨r, before, rfl, flagged⟩

theorem recover_installs {saved : Str} {other : ReplicaSetController}
    (recovers : bytes.recover saved other = .ok ctrl) :
    ∃ state, decodeSnapshot saved = .ok state ∧ ctrl = installRecoveredState state other := by
  simp only [bytes] at recovers
  rcases other.recoverInto_cases saved with ⟨refused, -⟩ | ⟨state, decoded, -, installed⟩
  · split at recovers
    · cases recovers
    · next accepted =>
        rw [accepted] at refused
        cases refused
  · rw [installed] at recovers
    cases recovers
    exact ⟨state, decoded, rfl⟩

theorem loadState_cases (loads : loadState bytes files opts = .ok ctrl) :
    ctrl = .empty ∨ ∃ content recovered, files opts.stateIn = some content ∧
      bytes.recover content .empty = .ok recovered ∧ ctrl = relinkAuthority recovered := by
  unfold loadState at loads
  split_ifs at loads
  · cases loads
    exact .inl rfl
  · split at loads
    · cases loads
    · next content file =>
        split at loads
        · cases loads
        · next recovers =>
            cases loads
            exact .inr ⟨content, _, file, recovers, rfl⟩

theorem loadState_reserved (loads : loadState bytes files opts = .ok ctrl) :
    ctrl.Reserved none := by
  rcases loadState_cases loads with rfl | ⟨content, recovered, -, recovers, rfl⟩
  · exact reserved_empty
  · obtain ⟨state, -, rfl⟩ := recover_installs recovers
    exact relinkAuthority_reserved (reserved_install state)

theorem demo_standby_reserved {ready standby : ReplicaSetController}
    (reserved : ctrl.Reserved none) (first : Scripted Operation.quiet ctrl ready)
    (second : Scripted Operation.quiet ((Operation.promoteReplica (host.id (replicaDraws 0))
      .primary (host.id (replicaDraws 0 + 1)) (host.id (replicaDraws 0 + 2)) 0 0).apply
      (host.fresh 0) ready).2 standby) : standby.Reserved (some (host.id (replicaDraws 0))) :=
  ((reserved.quiet first).promoted (host.fresh 0) _ .primary _ _ 0 0).quiet second

theorem demo_reserved (reserved : ctrl.Reserved none) :
    ∃ holder, (demo host ctrl).ctrl.Reserved holder := by
  obtain ⟨ready, standby, left, first, second, third, last, -⟩ := demo_calls host ctrl
  rw [last]
  exact ((demo_standby_reserved reserved first second).quiet third).failover ..

theorem Ends.reserved {done : Done} (ends : Ends host ctrl done)
    (reserved : ctrl.Reserved none) : ∃ holder, done.ctrl.Reserved holder := by
  cases ends with
  | quiet script => exact ⟨none, reserved.quiet script⟩
  | grants grants =>
      obtain ⟨next, script, op, -, -, fresh, last⟩ := grants
      rw [last]
      exact (reserved.quiet script.quiet).granted op fresh
  | demo => exact demo_reserved reserved

theorem Held.reserved (held : Held host files argv ctrl) : ∃ holder, ctrl.Reserved holder := by
  cases held with
  | empty => exact ⟨none, reserved_empty⟩
  | loaded loads => exact ⟨none, loadState_reserved loads⟩
  | recovered file recovers =>
      obtain ⟨state, -, rfl⟩ := recover_installs recovers
      exact ⟨none, reserved_install state⟩
  | ran loads named ok => exact (command_ends ok).reserved (loadState_reserved loads)

theorem Held.unreserved (held : Held host files argv ctrl)
    (grantless : ∀ verb, word argv = some (.verb verb) → verb.mayGrant = false) :
    ctrl.Reserved none := by
  cases held with
  | empty => exact reserved_empty
  | loaded loads => exact loadState_reserved loads
  | recovered file recovers =>
      obtain ⟨state, -, rfl⟩ := recover_installs recovers
      exact reserved_install state
  | ran loads named ok =>
      exact (loadState_reserved loads).quiet (command_scripted ok (grantless _ named))

theorem one_serves (ok : main bytes host files argv = .ok ended) :
    (∀ a b, ended.ctrl.Servable a → ended.ctrl.Servable b → a = b) ∧
      ((∀ verb, word argv = some (.verb verb) → verb.mayGrant = false) →
        ∀ id, ¬ended.ctrl.Servable id) := by
  have held := main_held ok
  constructor
  · intro a b first second
    obtain ⟨holder, reserved⟩ := held.reserved
    exact Option.some.inj ((reserved.holder_of_servable first).symm.trans
      (reserved.holder_of_servable second))
  · intro grantless id servable
    cases (held.unreserved grantless).holder_of_servable servable

theorem one_serves_demo : ∃ ended, main bytes Sample.platform (fun _ => none) ["demo"] = .ok ended ∧
    ended.ctrl.Servable ⟨0, 16⟩ ∧
      ∀ a b, ended.ctrl.Servable a → ended.ctrl.Servable b → a = b := by
  have ok : main bytes Sample.platform (fun _ => none) ["demo"] = .ok
      { printed := { code := 0, text := (demo Sample.platform .empty).text }
        files := fun _ => none
        ctrl := (demo Sample.platform .empty).ctrl } := rfl
  exact ⟨_, ok, by decide +kernel, (one_serves ok).1⟩

/-! ## A loaded replica that was serving -/

theorem relink_stage (workers : Table WorkerId WorkerRegistration) (r : ReplicaState) :
    (relink workers r).lifecycle = r.lifecycle ∧ (relink workers r).warmth = r.warmth := by
  unfold relink
  split <;> exact ⟨rfl, rfl⟩

theorem relinkAuthority_spent {id : ReplicaId} (spent : ctrl.Spent id) :
    (relinkAuthority ctrl).Spent id := by
  obtain ⟨epoch, same⟩ := relinkAuthority_eq ctrl
  rw [same]
  intro r' found
  obtain ⟨r, before, rfl⟩ := Option.map_eq_some_iff.mp ((Table.get_map ..).symm.trans found)
  obtain ⟨lifecycle, warmth⟩ := relink_stage ctrl.workers r
  rw [lifecycle, warmth]
  exact spent r before

theorem relinkAuthority_keyed (keyed : ctrl.Keyed) : (relinkAuthority ctrl).Keyed := by
  obtain ⟨epoch, same⟩ := relinkAuthority_eq ctrl
  rw [same]
  exact ⟨keyed.sets, keyed.replicas.map fun r => relink_id _ r, keyed.workers⟩

/-- In every state that a file holds the replica is `SERVING`, or over, or not there. -/
def SpentIn (files : Files Str) (id : ReplicaId) : Prop :=
  ∀ path content state r, files path = some content → decodeSnapshot content = .ok state →
    state.replicas[id]? = some r → r.lifecycle.Terminal ∨ r.lifecycle = .serving

variable {id : ReplicaId} {path content : Str}

theorem SpentIn.recover (spent : SpentIn files id) {other : ReplicaSetController}
    (file : files path = some content) (recovers : bytes.recover content other = .ok ctrl) :
    ctrl.Keyed ∧ ctrl.Spent id := by
  obtain ⟨state, decoded, rfl⟩ := recover_installs recovers
  refine ⟨decoded_keyed decoded, fun r' found => ?_⟩
  obtain ⟨r, stored, rfl⟩ := install_get found
  have cold : r.recovered.warmth ≠ .warm := by
    rw [show r.recovered.warmth = .cold from rfl]
    decide
  exact (spent path content state r file decoded stored).imp_right fun serving => ⟨serving, cold⟩

theorem SpentIn.load (spent : SpentIn files id) (loads : loadState bytes files opts = .ok ctrl) :
    ctrl.Keyed ∧ ctrl.Spent id := by
  rcases loadState_cases loads with rfl | ⟨content, recovered, file, recovers, rfl⟩
  · exact ⟨recordable_empty.keyed, spent_empty id⟩
  · obtain ⟨keyed, idle⟩ := spent.recover file recovers
    exact ⟨relinkAuthority_keyed keyed, relinkAuthority_spent idle⟩

theorem SpentIn.held (spent : SpentIn files id) (held : Held host files argv ctrl)
    (carried : ∀ verb, word argv = some (.verb verb) → verb.provisions = false) :
    ctrl.Keyed ∧ ctrl.Spent id := by
  cases held with
  | empty => exact ⟨recordable_empty.keyed, spent_empty id⟩
  | loaded loads => exact spent.load loads
  | recovered file recovers => exact spent.recover file recovers
  | ran loads named ok =>
      obtain ⟨keyed, idle⟩ := spent.load loads
      have script := command_carries ok (carried _ named)
      exact ⟨script.keeps (fun _ op fresh now _ => keyed_step now ⟨op, fresh⟩) keyed,
        idle.run script⟩

/-- What a file holds when the controller has been saved to it. A controller that cannot be
recorded leaves a file that holds no state. -/
theorem decoded_spent {state : RecoveredState} {r : ReplicaState} (keyed : ctrl.Keyed)
    (addressable : ctrl.Addressable) (idle : ctrl.Spent id)
    (decoded : decodeSnapshot (makeSnapshot ctrl) = .ok state)
    (stored : state.replicas[id]? = some r) : r.lifecycle.Terminal ∨ r.lifecycle = .serving := by
  by_cases finite : ctrl.FiniteDoubles
  · cases (decodeSnapshot_makeSnapshot keyed addressable finite).symm.trans decoded
    exact (idle r stored).imp_right And.left
  · obtain ⟨e, failed⟩ := decodeSnapshot_rejects keyed addressable finite
    cases failed.symm.trans decoded

theorem SpentIn.save (spent : SpentIn files id) (keyed : ctrl.Keyed) (idle : ctrl.Spent id)
    (small : Addressable (Function.update files path (some (makeSnapshot ctrl)))) :
    SpentIn (Function.update files path (some (makeSnapshot ctrl))) id := by
  intro other content state r found decoded stored
  by_cases here : other = path
  · have fits := small path _ (Function.update_self ..)
    rw [here, Function.update_self] at found
    cases found
    exact decoded_spent keyed fits idle decoded stored
  · rw [Function.update_of_ne here] at found
    exact spent other content state r found decoded stored

theorem SpentIn.invoke (spent : SpentIn files id) (inv : Invocation)
    (carried : ∀ verb, word inv.argv = some (.verb verb) → verb.provisions = false)
    (small : Addressable (invoke bytes files inv).2) : SpentIn (invoke bytes files inv).2 id := by
  unfold Cli.invoke at small ⊢
  split at small
  · exact spent
  · next ended ok =>
      obtain ⟨keyed, idle⟩ := spent.held (main_held ok) carried
      rcases main_files bytes ok with same | ⟨path, -, written⟩
      · exact same ▸ spent
      · rw [written] at small ⊢
        exact spent.save keyed idle small

/-- A replica that no file holds but as `SERVING` or over does not serve in any invocation to come,
whichever of them promote it or fail over to it: only `setup` and `demo` provision. -/
theorem loaded_serving_spent {invs : List Invocation} (spent : SpentIn files id)
    (small : Machine.Throughout (invoke bytes) Addressable files invs)
    (carried : ∀ inv ∈ invs, ∀ verb, word inv.argv = some (.verb verb) → verb.provisions = false) :
    (∀ e ∈ Machine.trace (invoke bytes) files invs, ∀ ended,
        main bytes e.input.host e.before e.input.argv = .ok ended → ¬ended.ctrl.Servable id) ∧
      SpentIn (Machine.run (invoke bytes) files invs) id := by
  have known : Machine.Throughout (invoke bytes) (SpentIn · id) files invs := by
    have fitting := Machine.throughout_of_invariant
      (P := fun now => Addressable now → SpentIn now id) small (fun now inv fits keeps carried => (keeps fits).invoke inv carried) (fun _ => spent)
      (Machine.admissible_of_forall carried)
    exact (small.and fitting).mono fun now both => both.2 both.1
  refine ⟨fun e member ended ok => ?_, known.last⟩
  obtain ⟨front, inv, back, rfl, rfl⟩ := Machine.mem_trace.mp member
  have held := known.later.first.held (main_held ok)
  exact (held (carried inv (by simp))).2.not_servable

theorem loadState_recovered {content : Str} {recovered : ReplicaSetController}
    (given : opts.stateIn ≠ []) (file : files opts.stateIn = some content)
    (recovers : recoverInto content .empty = (.ok (), recovered)) :
    loadState bytes files opts = .ok (relinkAuthority recovered) := by
  simp [loadState, given, file, bytes, recovers]

theorem main_ran {verb : Verb} {done : Done}
    (loads : loadState bytes files (Options.parse argv {}) = .ok ctrl)
    (named : word argv = some (.verb verb))
    (runs : command host (Options.parse argv {}).json (Options.parse argv {}).args ctrl verb =
      .ok done) : ∃ ended, main bytes host files argv = .ok ended ∧
        ended.printed.code = done.code := by
  unfold main
  dsimp only
  cases words : (Options.parse argv {}).args with
  | nil => simp [word, words] at named
  | cons cmd rest =>
      have given : Word.of cmd = .verb verb := by simpa [word, words] using named
      rw [words] at runs
      simp only [loads, given, runs]
      exact ⟨_, rfl, rfl⟩

def Sample.saved : ReplicaSetController := Machine.run step .empty Sample.serving

def Sample.promoting : Invocation where
  host := Sample.platform
  argv := ["promote", "00000000000000000000000000000001", "00000000000000000000000000000001",
    "00000000000000000000000000000001", "5", "--state", "a"]

def Sample.savedFiles : Files Str := fun _ => some (makeSnapshot Sample.saved)

/-- The promotion is accepted all the same. -/
theorem loaded_serving_spent_promoting : ∃ ended,
    main bytes Sample.platform Sample.savedFiles Sample.promoting.argv = .ok ended ∧
      ended.printed.code = 0 ∧ ¬ended.ctrl.Servable ⟨0, 1⟩ := by
  have keyed : Sample.saved.Keyed := by decide
  have addressable : Sample.saved.Addressable := by decide +kernel
  have finite : Sample.saved.FiniteDoubles := by decide
  have valid : validateRecoveredState Sample.saved.recordedState = none := by decide
  have lifecycle : ∀ r, Sample.saved.replicas[(⟨0, 1⟩ : ReplicaId)]? = some r →
      r.lifecycle.Terminal ∨ r.lifecycle = .serving := by decide
  have spent : SpentIn Sample.savedFiles ⟨0, 1⟩ := by
    intro path content state r file decoded stored
    cases file
    cases (decodeSnapshot_makeSnapshot keyed addressable finite).symm.trans decoded
    exact lifecycle r stored
  have small : Addressable Sample.savedFiles := by
    intro path content file
    cases file
    exact addressable
  have session : Machine.Throughout (invoke bytes) Addressable Sample.savedFiles
      [Sample.promoting] := ⟨small, small.invoke Sample.promoting (by decide)⟩
  have carried : ∀ inv ∈ [Sample.promoting], ∀ verb,
      word inv.argv = some (.verb verb) → verb.provisions = false := by
    intro inv member verb named
    cases List.mem_singleton.mp member
    cases (show word Sample.promoting.argv = some (.verb .promote) from rfl).symm.trans named
    rfl
  let ctrl := relinkAuthority (Sample.saved.restored ReplicaSetController.empty.epoch)
  have loads : loadState bytes Sample.savedFiles (Options.parse Sample.promoting.argv {}) =
      .ok ctrl :=
    loadState_recovered (by decide) rfl
      (recoverInto_makeSnapshot keyed addressable finite valid .empty)
  have code : (command Sample.platform (Options.parse Sample.promoting.argv {}).json
      (Options.parse Sample.promoting.argv {}).args ctrl .promote).toOption.map Done.code =
        some 0 := by decide +kernel
  cases runs : command Sample.platform (Options.parse Sample.promoting.argv {}).json
      (Options.parse Sample.promoting.argv {}).args ctrl .promote with
  | error abort =>
      rw [runs] at code
      cases code
  | ok done =>
      rw [runs] at code
      obtain ⟨ended, ok, same⟩ := main_ran loads rfl runs
      have never := (loaded_serving_spent spent session carried).1
      exact ⟨ended, ok, same.trans (Option.some.inj code),
        never _ List.mem_cons_self ended ok⟩

/-! ## The warning of the demonstration -/

theorem demo_stands_by (loads : loadState bytes files opts = .ok ctrl)
    (distinct : (host.id (replicaDraws 0) : ReplicaId) ≠ host.id (replicaDraws 1)) :
    ∃ first ∈ [ascii "A serving as PRIMARY\n", ascii "A NOT serving\n"], ∃ rest,
      (demo host ctrl).text = first ++ "B standby (correct, not serving)\n" ++ rest := by
  obtain ⟨ready, standby, left, first, second, -, -, rest, text⟩ := demo_calls host ctrl
  have reserved := demo_standby_reserved (loadState_reserved loads) first second
  have waits : ¬standby.Servable (host.id (replicaDraws 1)) := fun serves =>
    distinct (Option.some.inj (reserved.holder_of_servable serves))
  rw [Servable] at waits
  rw [text, if_neg waits]
  refine ⟨_, ?_, rest, rfl⟩
  split_ifs <;> simp

theorem demo_stands_by_empty :
    ∃ first ∈ [ascii "A serving as PRIMARY\n", ascii "A NOT serving\n"], ∃ rest,
      (demo Sample.platform .empty).text =
        first ++ "B standby (correct, not serving)\n" ++ rest := by
  have loads : loadState bytes (fun _ => none) {} = .ok .empty := rfl
  exact demo_stands_by loads (by decide)

end Cli

end ReplicaFabric
