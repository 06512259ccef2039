import Mathlib.Logic.Function.Basic
import ReplicaFabric.Cli.Command
import ReplicaFabric.Library.Machine

/-!
# Invocations of the command-line interface

An invocation loads the controller from a file, runs one command and saves the controller to a file.
It is the same program over any medium that controllers are saved to: the files of the program hold
bytes, and a specification of it can hold the controllers themselves.
-/

namespace ReplicaFabric.Cli

structure Medium (β : Type) where
  /-- `recover_into`, with the error text or the controller that it leaves. -/
  recover : β → ReplicaSetController → Except Str ReplicaSetController
  /-- `make_snapshot` -/
  snapshot : ReplicaSetController → β

def bytes : Medium Str where
  recover saved ctrl :=
    match recoverInto saved ctrl with
    | (.error e, _) => .error e
    | (.ok (), ctrl) => .ok ctrl
  snapshot := makeSnapshot

abbrev Files (β : Type) := Str → Option β

structure Printed where
  code : Nat
  text : Str := []
  errors : Str := []
  deriving DecidableEq

def relink (workers : Table WorkerId WorkerRegistration) (r : ReplicaState) : ReplicaState :=
  match workers[r.workerId]? with
  | none => r
  | some reg => { r with bootId := reg.bootId }

def relinkAuthority (ctrl : ReplicaSetController) : ReplicaSetController :=
  let linked := { ctrl with replicas := ctrl.replicas.map fun _ r => relink ctrl.workers r }
  match ctrl.replicas.toList with
  | [] => linked
  | (_, r) :: _ => linked.setEpoch r.coordinatorEpoch

def usage : Str :=
  "Replica Fabric 1.0.0 CLI\n" ++
  "options: --json | --state <file> | --save <file>\n" ++
  "commands: version | create-set | setup | list-sets | list-replicas | inspect | " ++
  "warm | promote | drain | failover | explain-servable | explain-placement | " ++
  "snapshot-save | snapshot-recover | demo\n"

def version (json : Bool) : Str :=
  if json then "\x7b\"version\":\"1.0.0\"\x7d\n" else "Replica Fabric 1.0.0\n"

inductive Verb
  | version | createSet | setup | listSets | listReplicas | inspect | warm | promote | drain
  | failover | explainServable | explainPlacement | demo
  deriving DecidableEq

inductive Word
  | verb (verb : Verb)
  | snapshotSave
  | snapshotRecover
  | unknown
  deriving DecidableEq

def Word.table : List (Str × Word) :=
  [ ("version", .verb .version), ("create-set", .verb .createSet), ("setup", .verb .setup),
    ("list-sets", .verb .listSets), ("list-replicas", .verb .listReplicas),
    ("inspect", .verb .inspect), ("warm", .verb .warm), ("promote", .verb .promote),
    ("drain", .verb .drain), ("failover", .verb .failover),
    ("explain-servable", .verb .explainServable), ("explain-placement", .verb .explainPlacement),
    ("demo", .verb .demo), ("snapshot-save", .snapshotSave),
    ("snapshot-recover", .snapshotRecover) ]

/-- The chain of comparisons with the name of the command. -/
def Word.of (cmd : Str) : Word :=
  ((Word.table.find? fun e => e.1 = cmd).map Prod.snd).getD .unknown

def word (argv : List Str) : Option Word := (Options.parse argv {}).args.head?.map Word.of

def command (host : Host) (json : Bool) (args : List Str) (ctrl : ReplicaSetController) :
    Verb → Except Abort Done
  | .version => .ok { code := 0, text := version json, ctrl := ctrl }
  | .createSet => createSet host args ctrl
  | .setup => setup host json args ctrl
  | .listSets =>
      .ok { code := 0, text := listing json "sets" (ctrl.listSets.map Id.str), ctrl := ctrl }
  | .listReplicas => do
      let set ← pid args 1
      let text := listing json "replicas" ((ctrl.listReplicas set).map Id.str)
      return { code := 0, text := text, ctrl := ctrl }
  | .inspect => inspect json args ctrl
  | .warm => warmCommand args ctrl
  | .promote => promote host args ctrl
  | .drain => drain host args ctrl
  | .failover => failover host args ctrl
  | .explainServable => explainServable json args ctrl
  | .explainPlacement => explainPlacement host.scores json args ctrl
  | .demo => .ok (demo host ctrl)

section medium

variable {β : Type} (medium : Medium β)

def loadState (files : Files β) (opts : Options) : Except Str ReplicaSetController :=
  if opts.stateIn = [] then .ok .empty
  else
    match files opts.stateIn with
    | none => .error ("cannot open state file: " ++ opts.stateIn ++ "\n")
    | some saved =>
        match medium.recover saved .empty with
        | .error e => .error ("state load failed: " ++ e ++ "\n")
        | .ok ctrl => .ok (relinkAuthority ctrl)

/-- What is written to the standard error, and the files. -/
def saveState (host : Host) (files : Files β) (opts : Options) (ctrl : ReplicaSetController) :
    Str × Files β :=
  if opts.stateOut = [] then ([], files)
  else if !host.writable opts.stateOut then
    ("cannot open state file for write: " ++ opts.stateOut ++ "\n", files)
  else ([], Function.update files opts.stateOut (some (medium.snapshot ctrl)))

/-- How `main` returns: what it has printed, the files, and the controller that it holds then. -/
structure Ended (β : Type) where
  printed : Printed
  files : Files β
  ctrl : ReplicaSetController := .empty

def snapshotSave (host : Host) (files : Files β) (args : List Str) (ctrl : ReplicaSetController) :
    Except Abort (Ended β) := do
  let path ← arg args 1
  if !host.writable path then
    return { printed := { code := 1, text := "cannot open\n" }, files := files, ctrl := ctrl }
  let size := ascii (toString (makeSnapshot ctrl).length)
  return {
    printed := { code := 0, text := "saved " ++ size ++ " bytes to " ++ path ++ "\n" }
    files := Function.update files path (some (medium.snapshot ctrl))
    ctrl := ctrl }

/-- Nothing saves the controller that is recovered. -/
def snapshotRecover (files : Files β) (args : List Str) (ctrl : ReplicaSetController) :
    Except Abort (Ended β) := do
  let path ← arg args 1
  let ended (printed : Printed) (ctrl : ReplicaSetController) : Ended β := ⟨printed, files, ctrl⟩
  match files path with
  | none => return ended { code := 1, text := "cannot open\n" } ctrl
  | some saved =>
      match medium.recover saved ctrl with
      | .error e => return ended { code := 1, text := "recover failed: " ++ e ++ "\n" } ctrl
      | .ok recovered => return ended { code := 0, text := "recovered\n" } recovered

def main (host : Host) (files : Files β) (argv : List Str) : Except Abort (Ended β) :=
  let opts := Options.parse argv {}
  match opts.args with
  | [] => .ok { printed := { code := 0, text := usage }, files := files }
  | cmd :: _ =>
      match loadState medium files opts with
      | .error e => .ok { printed := { code := 1, errors := e }, files := files }
      | .ok ctrl =>
          match Word.of cmd with
          | .snapshotSave => snapshotSave medium host files opts.args ctrl
          | .snapshotRecover => snapshotRecover medium files opts.args ctrl
          | .verb verb => do
              let done ← command host opts.json opts.args ctrl verb
              let (errors, files) :=
                if done.saves then saveState medium host files opts done.ctrl else ([], files)
              let printed := { code := done.code, text := done.text, errors := errors }
              return { printed := printed, files := files, ctrl := done.ctrl }
          | .unknown =>
              let printed := { code := 1, text := "unknown command: " ++ cmd ++ "\n" }
              .ok { printed := printed, files := files, ctrl := ctrl }

structure Invocation where
  host : Host
  argv : List Str

/-- An invocation that aborts leaves the files as they are: saving comes last. -/
def invoke (files : Files β) (inv : Invocation) : Except Abort Printed × Files β :=
  match main medium inv.host files inv.argv with
  | .error abort => (.error abort, files)
  | .ok ended => (.ok ended.printed, ended.files)

end medium

end ReplicaFabric.Cli
