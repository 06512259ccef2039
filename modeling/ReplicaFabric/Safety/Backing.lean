import ReplicaFabric.Controller.Evidence
import ReplicaFabric.Safety.Representation

/-!
# Serving is backed by evidence

A replica that may serve has, since it was last provisioned or recovered, been warmed, reported
healthy and ready, and been made primary, each by its own worker under its own boot id, and it has
lost none of it again.
-/

namespace ReplicaFabric

/-- The registration is of the host's worker, under another boot id than the host's or than the
one that is registered. -/
def Operation.Reboots (ctrl : ReplicaSetController) (host : WorkerId × WorkerBootId) :
    Operation → Prop
  | registerWorker wr => wr.workerId = host.1 ∧ (wr.bootId ≠ host.2 ∨ ctrl.restarts wr = true)
  | _ => False

namespace ReplicaSetController

open History

abbrev CommandEvent := Machine.Event ReplicaSetController Command Reply

def Performs (p : Operation → Prop) (e : CommandEvent) : Prop :=
  e.output.accepted = true ∧ ∃ call, e.input = .call call ∧ p call.op

def renews (id : ReplicaId) (e : CommandEvent) : Bool :=
  e.output.accepted &&
    match e.input with
    | .call call => call.op.provisions id
    | .recoverInto _ => true

def Promotes (id : ReplicaId) (host : WorkerId × WorkerBootId) (e : CommandEvent) : Prop :=
  Performs (fun op => op.Grants e.after id ∧
    ∀ presented, op.credentials = some presented → presented = host) e

def Withdraws (id : ReplicaId) (host : WorkerId × WorkerBootId) (e : CommandEvent) : Prop :=
  Performs (fun op => op.Strips host.1 id ∨ op.Reboots e.before host) e

structure Backed (recent : List CommandEvent) (id : ReplicaId)
    (host : WorkerId × WorkerBootId) : Prop where
  warmed : Once (Performs fun op => op.Warms id ∧ op.credentials = some host) recent
  healthy : Latest (Performs (·.ReportsHealth id fun _ => True))
    (Performs fun op => op.ReportsHealth id HealthState.Serves ∧ op.credentials = some host) recent
  ready : Latest (Performs (·.ReportsReadiness id fun _ => True))
    (Performs fun op => op.ReportsReadiness id (·.allSet = true) ∧ op.credentials = some host)
    recent
  promoted : Since (Promotes id host) (fun e => ¬Withdraws id host e) recent

variable {ctrl : ReplicaSetController} {recent : List CommandEvent} {id : ReplicaId}
  {r r' : ReplicaState}

def Elsewhere (ctrl : ReplicaSetController) (host : WorkerId × WorkerBootId) : Prop :=
  ∃ reg, ctrl.workers[host.1]? = some reg ∧ reg.bootId ≠ host.2

def Strict (ctrl : ReplicaSetController) (r : ReplicaState) : Prop :=
  ∀ set, ctrl.sets[r.setId]? = some set → set.policies.promotion.requireHealthy = true

structure Evidenced (recent : List CommandEvent) (ctrl : ReplicaSetController) (id : ReplicaId)
    (r : ReplicaState) : Prop where
  known : ∃ set, ctrl.sets[r.setId]? = some set
  consistent : AuthorityConsistent r
  warmed : r.warmth = .warm →
    Once (Performs fun op => op.Warms id ∧ op.credentials = some r.host) recent
  healthy : Strict ctrl r → r.health.Serves →
    Latest (Performs (·.ReportsHealth id fun _ => True))
      (Performs fun op => op.ReportsHealth id HealthState.Serves ∧ op.credentials = some r.host)
      recent
  ready : r.readiness = .ready →
    Latest (Performs (·.ReportsReadiness id fun _ => True))
      (Performs fun op => op.ReportsReadiness id (·.allSet = true) ∧ op.credentials = some r.host)
      recent
  promoted : r.servingEligible = true →
    Elsewhere ctrl r.host ∨
      Since (Promotes id r.host) (fun e => ¬Withdraws id r.host e) recent

theorem Evidenced.fresh (known : ∃ set, ctrl.sets[r.setId]? = some set)
    (consistent : AuthorityConsistent r) (cold : r.warmth ≠ .warm) (unwell : ¬r.health.Serves)
    (unready : r.readiness ≠ .ready) (unflagged : r.servingEligible = false) :
    Evidenced recent ctrl id r where
  known := known
  consistent := consistent
  warmed warm := absurd warm cold
  healthy _ healthy := absurd healthy unwell
  ready ready := absurd ready unready
  promoted flagged := by rw [unflagged] at flagged; cases flagged

theorem performs_call {call : Call} {p : Operation → Prop} :
    Performs p (Machine.event command ctrl (.call call)) ↔
      (call.op.apply call.fresh ctrl).1.isOk = true ∧ p call.op := by
  simp [Performs, Machine.event, command, Reply.accepted, step]

theorem renews_call {call : Call} :
    renews id (Machine.event command ctrl (.call call)) = true ↔
      (call.op.apply call.fresh ctrl).1.isOk = true ∧ call.op.provisions id = true :=
  Bool.and_eq_true_iff

theorem latest_call {call : Call} {p q : Operation → Prop} (report : ∀ op, q op → p op)
    (origin : ((call.op.apply call.fresh ctrl).1.isOk = true ∧ q call.op) ∨
      (¬((call.op.apply call.fresh ctrl).1.isOk = true ∧ p call.op) ∧
        Latest (Performs p) (Performs q) recent)) :
    Latest (Performs p) (Performs q) (recent ++ [Machine.event command ctrl (.call call)]) := by
  rw [latest_concat, performs_call, performs_call]
  exact origin.imp_left fun ⟨accepted, holds⟩ => ⟨⟨accepted, report _ holds⟩, accepted, holds⟩

theorem Elsewhere.step {op : Operation} {fresh : FreshIds} {host : WorkerId × WorkerBootId}
    (elsewhere : ctrl.Elsewhere host)
    (keeps : (op.apply fresh ctrl).1.isOk = true → ¬op.Strips host.1 id)
    (stays : ¬op.Reboots ctrl host) : (op.apply fresh ctrl).2.Elsewhere host := by
  obtain ⟨reg, found, other⟩ := elsewhere
  refine ⟨reg, ?_, other⟩
  rw [workers_step]
  cases op with
  | registerWorker wr =>
      rw [Operation.workersAfter, Table.get_insert_ne, found]
      -- Registering it would be a reboot: under the host's boot id it replaces another one.
      intro here
      refine stays ⟨here, or_iff_not_imp_left.mpr fun same => ?_⟩
      rw [restarts, here, found]
      simpa [not_not.mp same] using other
  | unregisterWorker worker =>
      rw [Operation.workersAfter, Table.get_erase, if_neg, found]
      intro here
      refine keeps ?_ here
      simp only [Operation.apply, unregisterWorker, here, found]
      rfl
  | _ => exact found

theorem elsewhere_of_reboots {op : Operation} {fresh : FreshIds}
    (before : ctrl.replicas[id]? = some r) (consistent : AuthorityConsistent r)
    (flag : r.servingEligible = true)
    (found : (op.apply fresh ctrl).2.replicas[id]? = some r') (flagged : r'.servingEligible = true)
    (reboots : op.Reboots ctrl r.host) : (op.apply fresh ctrl).2.Elsewhere r.host := by
  cases op with
  | registerWorker wr =>
      obtain ⟨here, different⟩ := reboots
      have change := ctrl.replicaStep (.registerWorker wr) fresh id
      rw [before, found] at change
      refine ⟨wr, ?_, different.resolve_right fun restart => ?_⟩
      · rw [workers_step, Operation.workersAfter, ← here, Table.get_insert, if_pos rfl]
      · have failed : ¬(r.afterRestart wr.workerId).servingEligible = true := fun kept =>
          (ReplicaState.afterRestart_flagged.mp kept).2 ⟨here.symm, consistent.serving flag⟩
        have post : (Operation.registerWorker wr |>.apply fresh ctrl).2.replicas[id]? =
            some (r.afterRestart wr.workerId) := by
          simp [Operation.apply, registerWorker, restart, before]
        rw [found] at post
        exact failed (Option.some.inj post ▸ flagged)
  | _ => exact reboots.elim

theorem Evidenced.call (call : Call) (before : ctrl.replicas[id]? = some r)
    (evidence : Evidenced recent ctrl id r)
    (found : (ctrl.step call).2.replicas[id]? = some r')
    (carried : (ctrl.step call).1.isOk = true → call.op.provisions id = false) :
    Evidenced (recent ++ [Machine.event command ctrl (.call call)]) (ctrl.step call).2 id r' := by
  have change := ctrl.replicaStep call.op call.fresh id
  rw [show (call.op.apply call.fresh ctrl).2.replicas[id]? = some r' from found, before] at change
  have same := change.incarnation carried
  have sameHost : r'.host = r.host := ReplicaState.host_eq_of_incarnation same
  have sameSet : r'.setId = r.setId := congrArg Incarnation.setId same
  obtain ⟨set, member⟩ := evidence.known
  obtain ⟨lifecycle, persists⟩ : ∃ lifecycle,
      (ctrl.step call).2.sets[r'.setId]? = some { set with lifecycle := lifecycle } :=
    sameSet ▸ sets_persist call.op call.fresh member
  refine ⟨⟨_, persists⟩, ?_, fun warm => ?_, fun strict healthy => ?_, fun ready => ?_,
    fun flagged => ?_⟩
  · exact change.consistent fun r prior => Option.some.inj prior ▸ evidence.consistent
  · rw [sameHost]
    rcases change.warm warm with ⟨accepted, warms, presented⟩ | ⟨_, ⟨⟩, was⟩
    · exact once_concat.mpr (Or.inr (performs_call.mpr ⟨accepted, warms, sameHost ▸ presented⟩))
    · exact once_concat.mpr (Or.inl (evidence.warmed was))
  · have wasStrict : Strict ctrl r := fun s known => by
      obtain rfl : set = s := Option.some.inj (member.symm.trans known)
      have stillStrict := strict { set with lifecycle := lifecycle } persists
      exact stillStrict
    rw [sameHost]
    refine latest_call (fun op report => report.1.any) ?_
    rcases change.healthy (fun r s prior => Option.some.inj prior ▸ wasStrict s) healthy with
      ⟨accepted, reports, presented⟩ | ⟨silent, _, ⟨⟩, was⟩
    · exact Or.inl ⟨accepted, reports, sameHost ▸ presented⟩
    · exact Or.inr ⟨silent, evidence.healthy wasStrict was⟩
  · rw [sameHost]
    refine latest_call (fun op report => report.1.any) ?_
    rcases change.ready ready with ⟨accepted, reports, presented⟩ | ⟨silent, _, ⟨⟩, was⟩
    · exact Or.inl ⟨accepted, reports, sameHost ▸ presented⟩
    · exact Or.inr ⟨silent, evidence.ready was⟩
  · rw [sameHost]
    obtain ⟨_, ⟨⟩, -, ⟨flag, keeps⟩ | ⟨accepted, grants⟩⟩ := change.flag flagged
    · by_cases reboots : call.op.Reboots ctrl r.host
      · exact Or.inl (elsewhere_of_reboots before evidence.consistent flag found flagged reboots)
      · refine (evidence.promoted flag).imp (·.step keeps reboots) fun since => ?_
        refine since_concat.mpr (Or.inr ⟨fun withdraws => ?_, since⟩)
        obtain ⟨accepted, strips | rebooted⟩ := performs_call.mp withdraws
        · exact keeps accepted strips
        · exact reboots rebooted
    · refine Or.inr (since_concat.mpr (Or.inl (performs_call.mpr ⟨accepted, grants, ?_⟩)))
      intro presented credentials
      rw [← sameHost]
      exact change.granted accepted grants presented credentials

theorem Evidenced.append_silent {e : CommandEvent} (evidence : Evidenced recent ctrl id r)
    (silent : ∀ p, ¬Performs p e) : Evidenced (recent ++ [e]) ctrl id r where
  known := evidence.known
  consistent := evidence.consistent
  warmed warm := once_concat.mpr (Or.inl (evidence.warmed warm))
  healthy strict healthy :=
    latest_concat.mpr (Or.inr ⟨silent _, evidence.healthy strict healthy⟩)
  ready ready := latest_concat.mpr (Or.inr ⟨silent _, evidence.ready ready⟩)
  promoted flagged :=
    (evidence.promoted flagged).imp_right fun since => since_concat.mpr (Or.inr ⟨silent _, since⟩)

def AllEvidenced (past : List CommandEvent) (ctrl : ReplicaSetController) : Prop :=
  ∀ (id : ReplicaId) (r : ReplicaState), ctrl.replicas[id]? = some r →
    Evidenced (sinceLast (renews id) past) ctrl id r

theorem AllEvidenced.call {past : List CommandEvent} (evidenced : AllEvidenced past ctrl)
    (call : Call) :
    AllEvidenced (past ++ [Machine.event command ctrl (.call call)]) (ctrl.step call).2 := by
  intro id r' found
  have change := ctrl.replicaStep call.op call.fresh id
  rw [show (call.op.apply call.fresh ctrl).2.replicas[id]? = some r' from found] at change
  rw [sinceLast_concat]
  split_ifs with renewed
  · obtain ⟨accepted, provisions⟩ := renews_call.mp renewed
    obtain ⟨cold, unwell, unready, unflagged, set, known⟩ := change.renewed accepted provisions
    have persists := sets_persist call.op call.fresh known
    refine .fresh (persists.elim fun _ known => ⟨_, known⟩) ?_ ?_ ?_ ?_ unflagged
    · exact change.consistent fun r before => (evidenced id r before).consistent
    all_goals simp [cold, unwell, unready, HealthState.Serves]
  · have carried : (ctrl.step call).1.isOk = true → call.op.provisions id = false := by
      intro accepted
      by_contra provisions
      exact renewed (renews_call.mpr ⟨accepted, by simpa using provisions⟩)
    obtain ⟨r, before⟩ := change.exists_prior carried
    exact (evidenced id r before).call call before found carried

theorem AllEvidenced.recoverInto {past : List CommandEvent} (evidenced : AllEvidenced past ctrl)
    (bytes : Str) :
    AllEvidenced (past ++ [Machine.event command ctrl (.recoverInto bytes)])
      (ReplicaFabric.recoverInto bytes ctrl).2 := by
  intro id r found
  rw [sinceLast_concat]
  rcases ctrl.recoverInto_cases bytes with ⟨failed, unchanged⟩ | ⟨state, -, valid, installed⟩
  · rw [unchanged] at found ⊢
    have kept : ¬renews id (Machine.event command ctrl (.recoverInto bytes)) = true := by
      simp [renews, Machine.event, command, Reply.accepted, failed]
    rw [if_neg kept]
    exact (evidenced id r found).append_silent fun p ⟨_, call, input, _⟩ => nomatch input
  · have renewed : renews id (Machine.event command ctrl (.recoverInto bytes)) = true := by
      simp [renews, Machine.event, command, Reply.accepted, installed]
    rw [installed] at found ⊢
    obtain ⟨stored, before, rfl⟩ := install_get found
    have known : ∃ s, state.sets[stored.setId]? = some s := member_of_valid valid before
    exact .fresh known (.of_none rfl nofun nofun) nofun not_false nofun rfl

theorem allEvidenced (cmds : List Command) :
    AllEvidenced (Machine.trace command empty cmds) (Machine.run command empty cmds) := by
  refine Machine.trace_induction ?_ (fun past ctrl cmd evidenced => ?_) cmds
  · intro id r found
    simp [empty] at found
  · cases cmd with
    | call call => exact evidenced.call call
    | recoverInto bytes => exact evidenced.recoverInto bytes

theorem servable_backed (cmds : List Command) (id : ReplicaId) (r : ReplicaState)
    (set : ReplicaSetState)
    (found : (Machine.run command empty cmds).replicas[id]? = some r)
    (member : (Machine.run command empty cmds).sets[r.setId]? = some set)
    (strict : set.policies.promotion.requireHealthy = true)
    (servable : (Machine.run command empty cmds).Servable id) :
    Backed (sinceLast (renews id) (Machine.trace command empty cmds)) id r.host := by
  obtain ⟨r', set', found', -, authority⟩ := servable_iff.mp servable
  obtain rfl : r = r' := Option.some.inj (found.symm.trans found')
  have evidence := allEvidenced cmds id r found
  have isStrict : Strict (Machine.run command empty cmds) r := fun s known => by
    obtain rfl : set = s := Option.some.inj (member.symm.trans known)
    exact strict
  refine ⟨evidence.warmed authority.warmth,
    evidence.healthy isStrict (HealthState.serves_iff.mpr authority.health),
    evidence.ready authority.readiness,
    (evidence.promoted authority.servingFlag).resolve_left ?_⟩
  rintro ⟨reg, registered, other⟩
  have current : r.bootId = (Machine.run command empty cmds).workerBoot r.workerId :=
    authority.workerBoot
  rw [workerBoot, show (Machine.run command empty cmds).workers[r.workerId]? = some reg from
    registered] at current
  exact other current.symm

def servingAfterRecovery : List Command := .recoverInto [] :: Sample.serving.map .call

theorem servable_backed_serving :
    ∃ host, Backed (sinceLast (renews ⟨0, 1⟩) (Machine.trace command empty servingAfterRecovery))
      ⟨0, 1⟩ host := by
  have replica : ((Machine.run command empty servingAfterRecovery).replicas[(⟨0, 1⟩ :
      ReplicaId)]?).map ReplicaState.setId = some Sample.setId := by decide
  have strict : ((Machine.run command empty servingAfterRecovery).sets[Sample.setId]?).map
      (·.policies.promotion.requireHealthy) = some true := by decide
  obtain ⟨r, found, inSet⟩ := Option.map_eq_some_iff.mp replica
  obtain ⟨set, member, required⟩ := Option.map_eq_some_iff.mp strict
  exact ⟨r.host, servable_backed servingAfterRecovery ⟨0, 1⟩ r set found (inSet ▸ member) required
    (by decide)⟩

end ReplicaSetController

end ReplicaFabric
