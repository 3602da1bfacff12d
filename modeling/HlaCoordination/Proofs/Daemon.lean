import HlaCoordination.Proofs.Network.Succession

/-! What a daemon reports about its authority. It has attached when the daemon starts, and the first
shutdown, whatever led to it, reports that it has detached. A daemon that is dropped takes its
authority along as well, and if there was no shutdown before, that goes unreported. Runs are listed
newest first, reports oldest first. -/
namespace HlaCoordination

open Std

namespace Network

variable {n : Network} {a : RunningAuthority} {r : Registry}

/-- This authority is the one that is attached. -/
def Heads (n : Network) (a : RunningAuthority) : Prop :=
  n.exchange.authority.map Attachment.endpoint = some a.endpoint

instance (a : RunningAuthority) : Decidable (n.Heads a) :=
  inferInstanceAs (Decidable (_ = _))

theorem heads_of_served (hs : Served a n r) : n.Heads a := by
  rw [Heads, hs.attached, Option.map_some]

theorem not_heads_of_silent (h : Staffed n) (silent : n.isConnected a.endpoint = false) :
    ¬ n.Heads a := by
  intro heads
  rcases h with vacant | ⟨a', r, hs⟩
  · rw [Heads, vacant] at heads
    cases heads
  · rw [Heads, hs.attached] at heads
    have same : a'.endpoint = a.endpoint := Option.some.inj heads
    rw [isConnected, ← same, hs.listening] at silent
    cases silent

theorem isConnected_disconnectEndpoint (n : Network) (e : EndpointId) :
    (n.disconnectEndpoint e).isConnected e = false := by
  unfold disconnectEndpoint isConnected
  cases known : n.endpoints[e]? with
  | none => simp only [known, Option.bind_none, Option.isSome_none]
  | some endpoint =>
    simp only [ExtTreeMap.getElem?_insert_self, Option.bind_some, Option.isSome_none]

theorem not_heads_dropAuthority (h : Staffed n) (a : RunningAuthority) :
    ¬ (n.dropAuthority a).Heads a :=
  not_heads_of_silent (h.disconnectEndpoint a.endpoint)
    (isConnected_disconnectEndpoint n a.endpoint)

theorem not_heads_shutdownAuthority (h : Staffed n) (a : RunningAuthority) :
    ¬ (n.shutdownAuthority a).Heads a := by
  unfold shutdownAuthority
  split
  · exact not_heads_dropAuthority h a
  · rename_i silent
    exact not_heads_of_silent h (eq_false_of_ne_true silent)

end Network

namespace Daemon

open Network

inductive LifecycleStep where
  | shutdown
  | runUntil (signal : Except ShutdownError Unit)
  | meanwhile (e : Event)

/-- Whether the daemon is shut down. It makes no difference whether the signal fires. -/
def LifecycleStep.shutsDown : LifecycleStep → Bool
  | .shutdown | .runUntil _ => true
  | .meanwhile _ => false

/-- What was reported, and the network as the operation left it that made the report. -/
abbrev Report := HealthEvent × Network

structure Lifecycle where
  daemon : Daemon
  network : Network
  reports : List Report

namespace Lifecycle

def begin (d : Daemon) (n : Network) : Lifecycle :=
  ⟨d, n, (startEvents (.ok (d, n))).map (·, n)⟩

def note (t : Lifecycle) (outcome : List HealthEvent × Daemon × Network) : Lifecycle :=
  let (events, daemon, network) := outcome
  ⟨daemon, network, t.reports ++ events.map (·, network)⟩

def act (t : Lifecycle) : LifecycleStep → Lifecycle
  | .shutdown => t.note (t.daemon.shutdown t.network)
  | .runUntil signal => t.note (t.daemon.runUntil signal t.network).2
  | .meanwhile e => { t with network := t.network.happen e }

def after (t : Lifecycle) : List LifecycleStep → Lifecycle
  | [] => t
  | step :: earlier => (t.after earlier).act step

end Lifecycle

/-- It was reported once that the authority had attached, and then once that it had detached, when
it was attached no longer. -/
structure Balanced (a : RunningAuthority) (reports : List Report) : Prop where
  attached : (reports.map Prod.fst).count (.authorityAttached authorityName) = 1
  detached : (reports.map Prod.fst).count (.authorityDetached authorityName) = 1
  order : ∃ before n between n' later,
    reports = before ++ (.authorityAttached authorityName, n) :: between ++
      (.authorityDetached authorityName, n') :: later ∧ ¬ n'.Heads a

inductive LaterReports (a : RunningAuthority) : Bool → List Report → Prop where
  | nothing : LaterReports a false []
  | detached (n : Network) (gone : ¬ n.Heads a) :
      LaterReports a true [(.authorityDetached authorityName, n)]

variable {d : Daemon} {n n' : Network} {run : List LifecycleStep} {t : Lifecycle}

theorem shutdown_of_stopped (stopped : d.stopped = true) : d.shutdown n = ([], d, n) := by
  rw [shutdown, if_pos stopped]

theorem shutdown_of_serving (serving : d.stopped = false) :
    d.shutdown n = ([.authorityDetached authorityName], { d with stopped := true },
      n.shutdownAuthority d.authority) := by
  rw [shutdown, if_neg (by rw [serving]; exact Bool.false_ne_true)]

structure Serves (a : RunningAuthority) (opening : List Report) (run : List LifecycleStep)
    (t : Lifecycle) :
    Prop where
  staffed : Staffed t.network
  authority : t.daemon.authority = a
  stopped : t.daemon.stopped = run.any LifecycleStep.shutsDown
  reports : ∃ told, t.reports = opening ++ told ∧ LaterReports a t.daemon.stopped told

namespace Serves

variable {a : RunningAuthority} {opening : List Report}

/-- The first shutdown makes its report, and any other makes none. -/
theorem shutdown (h : Serves a opening run t) {step : LifecycleStep}
    (down : step.shutsDown = true) :
    Serves a opening (step :: run) (t.note (t.daemon.shutdown t.network)) := by
  obtain ⟨told, reports, tells⟩ := h.reports
  have ended : (step :: run).any LifecycleStep.shutsDown = true := by
    rw [List.any_cons, down, Bool.true_or]
  cases stopped : t.daemon.stopped with
  | true =>
    simp only [Lifecycle.note, shutdown_of_stopped stopped, List.map_nil, List.append_nil]
    exact ⟨h.staffed, h.authority, stopped.trans ended.symm, told, reports, tells⟩
  | false =>
    have gone := not_heads_shutdownAuthority h.staffed t.daemon.authority
    simp only [Lifecycle.note, shutdown_of_serving stopped]
    rw [stopped] at tells
    cases tells
    rw [h.authority] at gone ⊢
    refine ⟨h.staffed.happen (.stop a), rfl, ended.symm, _, ?_, .detached _ gone⟩
    rw [reports, List.append_nil]
    rfl

theorem act (h : Serves a opening run t) (step : LifecycleStep) :
    Serves a opening (step :: run) (t.act step) := by
  cases step with
  | shutdown => exact h.shutdown rfl
  | runUntil signal => exact h.shutdown rfl
  | meanwhile e => exact ⟨h.staffed.happen e, h.authority, h.stopped, h.reports⟩

end Serves

theorem start_served {loaded : Except LoadError Config}
    {logging : Config → Except TelemetryError Unit}
    (started : start loaded logging n = .ok (d, n')) :
    d.stopped = false ∧ ∃ r, Served d.authority n' r := by
  unfold start at started
  split at started
  · cases started
  · split at started
    · cases started
    · split at started
      · cases started
      · split at started
        · rename_i ok
          cases started
          exact ⟨rfl, _, (startAuthority_served ok).1⟩
        · cases started

theorem serves_after {r : Registry} (serving : d.stopped = false) (hs : Served d.authority n r)
    (run : List LifecycleStep) :
    Serves d.authority (Lifecycle.begin d n).reports run ((Lifecycle.begin d n).after run) := by
  induction run with
  | nil =>
    refine ⟨Or.inr ⟨_, r, hs⟩, rfl, serving, [], (List.append_nil _).symm, ?_⟩
    change LaterReports d.authority d.stopped []
    rw [serving]
    exact .nothing
  | cons step earlier ih => exact ih.act step

theorem LaterReports.balanced_iff {told : List Report} {ended : Bool}
    (tells : LaterReports d.authority ended told) (n : Network) :
    Balanced d.authority ((Lifecycle.begin d n).reports ++ told) ↔ ended = true := by
  cases tells with
  | nothing =>
    refine iff_of_false ?_ Bool.false_ne_true
    intro balanced
    cases balanced.detached
  | detached left gone =>
    refine iff_of_true ?_ rfl
    constructor
    · rfl
    · rfl
    · exact ⟨[(.bootstrapStarting, n), (.bootstrapSucceeded d.authority.config, n)], n, [], left,
        [], rfl, gone⟩

structure Accounts (d : Daemon) (n : Network) (run : List LifecycleStep) : Prop where
  attached : n.Heads d.authority
  /-- After the start there is one more report if the daemon was shut down, and no other. -/
  reports : ∃ told,
    ((Lifecycle.begin d n).after run).reports =
      [(.bootstrapStarting, n), (.bootstrapSucceeded d.authority.config, n),
        (.authorityAttached authorityName, n)] ++ told ∧
      LaterReports d.authority (run.any LifecycleStep.shutsDown) told
  balanced_iff : Balanced d.authority ((Lifecycle.begin d n).after run).reports ↔
    ∃ step ∈ run, step.shutsDown = true
  gone : ¬ (((Lifecycle.begin d n).after run).daemon.drop
    ((Lifecycle.begin d n).after run).network).Heads d.authority

/-- The reports are balanced just if the daemon was shut down before it was dropped. -/
theorem attachment_balanced_iff {loaded : Except LoadError Config}
    {logging : Config → Except TelemetryError Unit}
    (started : start loaded logging n = .ok (d, n')) (run : List LifecycleStep) :
    Accounts d n' run := by
  obtain ⟨serving, r, hs⟩ := start_served started
  have h := serves_after serving hs run
  obtain ⟨told, reports, tells⟩ := h.reports
  rw [h.stopped] at tells
  constructor
  · exact heads_of_served hs
  · exact ⟨told, reports, tells⟩
  · rw [reports, tells.balanced_iff, List.any_eq_true]
  · have gone :=
      not_heads_dropAuthority h.staffed ((Lifecycle.begin d n').after run).daemon.authority
    rw [h.authority] at gone
    rw [drop, h.authority]
    exact gone

def sample : Daemon := { authority := ⟨{}, 0, 1⟩ }

def manned : Network :=
  match start (.ok {}) (fun _ => .ok ()) {} with
  | .ok (_, n) => n
  | .error _ => {}

theorem interrupted_accounts :
    start (.ok {}) (fun _ => .ok ()) {} = .ok (sample, manned) ∧
      Accounts sample manned
        [.runUntil (.error ⟨"no handler"⟩), .meanwhile (.call (.connect {}))] := by
  have started : start (.ok {}) (fun _ => .ok ()) {} = .ok (sample, manned) := rfl
  exact ⟨started, attachment_balanced_iff started _⟩

/-- A daemon that is dropped without a shutdown. Its authority was attached and no longer is, and of
that there is no report. -/
theorem dropped_unbalanced :
    start (.ok {}) (fun _ => .ok ()) {} = .ok (sample, manned) ∧
      manned.Heads sample.authority ∧ ¬ (sample.drop manned).Heads sample.authority ∧
      ¬ Balanced sample.authority ((Lifecycle.begin sample manned).after []).reports := by
  refine ⟨rfl, rfl, by decide, ?_⟩
  intro balanced
  cases balanced.detached

end Daemon

end HlaCoordination
