import HlaCoordination.Proofs.Daemon
import HlaCoordination.Proofs.Network.Raising

/-! How a daemon starts. Either its authority is attached in the end, where there was none before,
or the first stage that fails ends the start, and then the exchange is as it was: an authority that
was there before answers what it is asked as if nobody had tried. Requests are listed newest
first. -/
namespace HlaCoordination

open Std

namespace Network

variable {n n' : Network} {a : RunningAuthority} {r : Registry} {config : Config}
  {inbox : Except String Unit} {e : RtiError}

/-- Two networks in which the same authority is at the same work. -/
structure Beside (a : RunningAuthority) (n n' : Network) : Prop where
  exchange : n'.exchange = n.exchange
  clock : n'.clock = n.clock
  served : ∃ r, Served a n r ∧ Served a n' r

theorem Abandoned.beside (h : Abandoned n config inbox n') (established : n.Established)
    (hs : Served a n r) : Beside a n n' := by
  obtain ⟨endpoint, registry⟩ := hs.issued established
  cases h with
  | unopened => exact ⟨rfl, rfl, r, hs, hs⟩
  | evicted cause vacant failed => cases vacant.symm.trans hs.attached
  | unbound =>
    refine ⟨rfl, rfl, r, hs, hs.attached, ?_, ?_⟩
    · simp only [readied, getElem?_insert_eq_ite, Nat.ne_of_gt endpoint, if_false]
      exact hs.listening
    · have other := Nat.ne_of_gt (Nat.lt_succ_of_lt registry)
      simp only [readied, getElem?_insert_eq_ite, other, if_false]
      exact hs.kept

theorem sendAll_exchange (same : n'.exchange = n.exchange) (outbox : List Broadcast) :
    (n'.sendAll outbox).exchange = (n.sendAll outbox).exchange := by
  induction outbox generalizing n n' with
  | nil => exact same
  | cons b rest ih =>
    simp only [sendAll, List.foldl_cons]
    apply ih
    unfold authorityBroadcast
    cases b.audience with
    | federation => exact same
    | sessions ids => exact congrArg (fun x => (x.deliver b.notice ids).2) same

theorem serveControl_exchange (hs : Served a n r) (hs' : Served a n' r)
    (same : n'.exchange = n.exchange) (clock : n'.clock = n.clock) (c : MessageContext) :
    (n'.serveControl a.endpoint c).2.exchange = (n.serveControl a.endpoint c).2.exchange := by
  rw [serveControl_eq hs, serveControl_eq hs', clock]
  apply sendAll_exchange
  exact same

variable (late : EndpointId → Network → RtiError × Network)

def inquire (n : Network) :
    List (SessionId × MessageContext) → List (Except RtiError MessageContext) × Network
  | [] => ([], n)
  | (id, c) :: earlier =>
    let (answers, n') := n.inquire earlier
    let (answer, n'') := submitWith late id c n'
    (answer :: answers, n'')

namespace Beside

variable {late}

theorem submit (h : Beside a n n') (id : SessionId) (c : MessageContext) :
    (submitWith late id c n').1 = (submitWith late id c n).1 ∧
      Beside a (submitWith late id c n).2 (submitWith late id c n').2 := by
  obtain ⟨r, hs, hs'⟩ := h.served
  cases there : n.exchange.attached.contains id with
  | false =>
    have there' : n'.exchange.attached.contains id = false := by rw [h.exchange, there]
    simp only [submitWith, there, there', Bool.false_eq_true, if_false]
    exact ⟨trivial, h⟩
  | true =>
    have there' : n'.exchange.attached.contains id = true := by rw [h.exchange, there]
    obtain ⟨mailboxes, served⟩ :=
      serveControl_of_served hs { c with message := c.message.submittedBy id }
    obtain ⟨mailboxes', served'⟩ :=
      serveControl_of_served hs' { c with message := c.message.submittedBy id }
    have exchange := serveControl_exchange hs hs' h.exchange h.clock
      { c with message := c.message.submittedBy id }
    rw [served, served'] at exchange
    simp only [submitWith, there, there', if_true, hs.attached, hs'.attached, served, served',
      h.clock]
    rw [h.clock] at exchange
    exact ⟨trivial, exchange, h.clock, _, hs.revised _ _, hs'.revised _ _⟩

theorem inquire (h : Beside a n n') (requests : List (SessionId × MessageContext)) :
    (n'.inquire late requests).1 = (n.inquire late requests).1 ∧
      Beside a (n.inquire late requests).2 (n'.inquire late requests).2 := by
  induction requests with
  | nil => exact ⟨rfl, h⟩
  | cons request earlier ih =>
    obtain ⟨id, c⟩ := request
    obtain ⟨answers, beside⟩ := ih
    obtain ⟨answer, beside'⟩ := beside.submit id c
    exact ⟨congrArg₂ List.cons answer answers, beside'⟩

end Beside

end Network

namespace Daemon

open Network

variable {loaded : Except LoadError Config} {logging : Config → Except TelemetryError Unit}
  {inbox : Except String Unit}
  {n n' : Network} {config : Config} {e : BootstrapError}

/-- The error of the first stage that fails: loading, validation, logging, the authority. -/
inductive FirstFailure (loaded : Except LoadError Config)
    (logging : Config → Except TelemetryError Unit) (inbox : Except String Unit) (n : Network) :
    BootstrapError → Prop where
  | configuration (e : LoadError) (unloaded : loaded = .error e) :
      FirstFailure loaded logging inbox n (.configuration e)
  | validation (config : Config) (fault : ConfigFault) (loads : loaded = .ok config)
      (invalid : config.fault? = some fault) :
      FirstFailure loaded logging inbox n (.validation fault)
  | telemetry (config : Config) (e : TelemetryError) (loads : loaded = .ok config)
      (valid : config.fault? = none) (mute : logging config = .error e) :
      FirstFailure loaded logging inbox n (.telemetry e)
  | authority (config : Config) (e : RtiError) (loads : loaded = .ok config)
      (valid : config.fault? = none) (logs : logging config = .ok ())
      (setback : Setback n config inbox e) : FirstFailure loaded logging inbox n (.authority e)

structure Clear (loaded : Except LoadError Config) (logging : Config → Except TelemetryError Unit)
    (inbox : Except String Unit) (n : Network) (config : Config) : Prop where
  loads : loaded = .ok config
  valid : config.fault? = none
  logs : logging config = .ok ()
  supported : config.connection.isSupported = true
  vacant : n.exchange.authority = none
  starts : inbox = .ok ()

theorem failure_or_clear (loaded : Except LoadError Config)
    (logging : Config → Except TelemetryError Unit) (inbox : Except String Unit) (n : Network) :
    (∃ e, FirstFailure loaded logging inbox n e) ∨
      ∃ config, Clear loaded logging inbox n config := by
  cases loads : loaded with
  | error e => exact Or.inl ⟨_, .configuration e rfl⟩
  | ok config =>
    cases valid : config.fault? with
    | some fault => exact Or.inl ⟨_, .validation config fault rfl valid⟩
    | none =>
      cases logs : logging config with
      | error e => exact Or.inl ⟨_, .telemetry config e rfl valid logs⟩
      | ok _ =>
        rcases setback_or_clear n config inbox with ⟨e, setback⟩ | ⟨supported, vacant, starts⟩
        · exact Or.inl ⟨_, .authority config e rfl valid logs setback⟩
        · exact Or.inr ⟨config, rfl, valid, logs, supported, vacant, starts⟩

/-- What a start that failed has left as it was. Where a thread cannot be started, this is said of
the networks that there can be. -/
structure Spared (inbox : Except String Unit) (n n' : Network) : Prop where
  exchange : inbox = .ok () ∨ n.Established → n'.exchange = n.exchange
  serving : n.Established → ∀ a r, Served a n r → ∀ late requests,
    (n'.inquire late requests).1 = (n.inquire late requests).1 ∧
      Beside a (n.inquire late requests).2 (n'.inquire late requests).2

theorem spared_self (inbox : Except String Unit) (n : Network) : Spared inbox n n where
  exchange _ := rfl
  serving _ _ r hs _ requests := Beside.inquire ⟨rfl, rfl, r, hs, hs⟩ requests

theorem spared_of_abandoned (h : Abandoned n config inbox n') : Spared inbox n n' where
  exchange := h.exchange
  serving established _ _ hs _ := (h.beside established hs).inquire

theorem bootstrap_of_failure (failure : FirstFailure loaded logging inbox n e) :
    ∃ n', bootstrap loaded logging inbox n =
        (.error e, ⟨n', [.bootstrapStarting, .bootstrapFailed e]⟩) ∧ Spared inbox n n' := by
  cases failure with
  | configuration e unloaded =>
    subst unloaded
    exact ⟨n, rfl, spared_self inbox n⟩
  | validation config fault loads invalid =>
    subst loads
    refine ⟨n, ?_, spared_self inbox n⟩
    simp only [bootstrap, invalid]
    rfl
  | telemetry config e loads valid mute =>
    subst loads
    refine ⟨n, ?_, spared_self inbox n⟩
    simp only [bootstrap, valid, mute]
    rfl
  | authority config e loads valid logs setback =>
    subst loads
    obtain ⟨n', failed, abandoned⟩ := raiseAuthority_of_setback setback
    refine ⟨n', ?_, spared_of_abandoned abandoned⟩
    simp only [bootstrap, valid, logs, Startup.report, failed]
    rfl

theorem bootstrap_of_clear (clear : Clear loaded logging inbox n config) :
    ∃ n', bootstrap loaded logging inbox n =
        (.ok { authority := n.newcomer config },
          ⟨n', [.bootstrapStarting, .bootstrapSucceeded config,
            .authorityAttached authorityName]⟩) ∧
      n'.exchange = { n.exchange with authority := some ⟨authorityName, n.issued⟩ } ∧
      Served (n.newcomer config) n' { policy := config.resignPolicy } := by
  obtain ⟨rfl, valid, logs, supported, vacant, rfl⟩ := clear
  obtain ⟨endpoints, raised, served⟩ := raiseAuthority_of_clear supported vacant
  refine ⟨_, ?_, rfl, served⟩
  simp only [bootstrap, valid, logs, Startup.report, raised]
  rfl

structure StartOutcome (loaded : Except LoadError Config)
    (logging : Config → Except TelemetryError Unit) (inbox : Except String Unit) (n : Network)
    (result : Except BootstrapError Daemon × Startup) : Prop where
  fails_iff : ∀ e, result.1 = .error e ↔ FirstFailure loaded logging inbox n e
  failed : ∀ e, result.1 = .error e →
    result.2.reports = [.bootstrapStarting, .bootstrapFailed e] ∧ Spared inbox n result.2.network
  /-- If it succeeds, its authority is attached, there was none before, and nothing else about the
  exchange has changed. -/
  succeeded : ∀ d, result.1 = .ok d → ∃ config, loaded = .ok config ∧
    d.authority.config = config ∧ d.stopped = false ∧
    result.2.reports =
      [.bootstrapStarting, .bootstrapSucceeded config, .authorityAttached authorityName] ∧
    n.exchange.authority = none ∧
    result.2.network.exchange =
      { n.exchange with authority := some ⟨authorityName, d.authority.endpoint⟩ } ∧
    Served d.authority result.2.network { policy := config.resignPolicy }

/-- A start succeeds in full, or it fails and leaves no trace. -/
theorem starts_or_spares (loaded : Except LoadError Config)
    (logging : Config → Except TelemetryError Unit) (inbox : Except String Unit) (n : Network) :
    StartOutcome loaded logging inbox n (bootstrap loaded logging inbox n) := by
  rcases failure_or_clear loaded logging inbox n with ⟨e, failure⟩ | ⟨config, clear⟩
  · obtain ⟨n', failed, spared⟩ := bootstrap_of_failure failure
    rw [failed]
    refine ⟨?_, ?_, nofun⟩
    · intro e'
      constructor
      · rintro ⟨⟩
        exact failure
      · intro failure'
        obtain ⟨left, failed', -⟩ := bootstrap_of_failure failure'
        cases failed.symm.trans failed'
        rfl
    · rintro _ ⟨⟩
      exact ⟨rfl, spared⟩
  · obtain ⟨n', done, exchange, served⟩ := bootstrap_of_clear clear
    rw [done]
    refine ⟨?_, nofun, ?_⟩
    · intro e
      refine iff_of_false nofun ?_
      intro failure
      obtain ⟨left, failed, -⟩ := bootstrap_of_failure failure
      cases done.symm.trans failed
    · rintro _ ⟨⟩
      exact ⟨config, clear.loads, rfl, rfl, rfl, clear.vacant, exchange, served⟩

/-- Another daemon on an exchange that has an authority already is turned away. The one that was
there before goes on. -/
theorem second_start_spares :
    manned.Established ∧ Served sample.authority manned {} ∧
      StartOutcome (.ok {}) (fun _ => .ok ()) (.ok ()) manned
        (.error (.authority (.internal (.authorityPresent authorityName authorityName))),
          ⟨manned.readied {} none,
            [.bootstrapStarting, .bootstrapFailed
              (.authority (.internal (.authorityPresent authorityName authorityName)))]⟩) := by
  refine ⟨established_course [.start {}], ⟨rfl, rfl, rfl⟩, ?_⟩
  exact starts_or_spares (.ok {}) (fun _ => .ok ()) (.ok ()) manned

/-- The stages are those of `start`, which leaves out what a failure leaves behind. -/
theorem start_eq_bootstrap (loaded : Except LoadError Config)
    (logging : Config → Except TelemetryError Unit) (n : Network) :
    start loaded logging n =
        (match bootstrap loaded logging (.ok ()) n with
          | (.ok d, s) => .ok (d, s.network)
          | (.error e, _) => .error e) ∧
      startEvents (start loaded logging n) = (bootstrap loaded logging (.ok ()) n).2.reports := by
  unfold start bootstrap
  cases loaded with
  | error e => exact ⟨rfl, rfl⟩
  | ok config =>
    simp only [startAuthority_eq_raise]
    cases config.fault? with
    | some fault => exact ⟨rfl, rfl⟩
    | none =>
      cases logging config with
      | error e => exact ⟨rfl, rfl⟩
      | ok _ =>
        simp only [Startup.report]
        rcases n.raiseAuthority config (.ok ()) with ⟨e | a, n'⟩ <;> exact ⟨rfl, rfl⟩

end Daemon

end HlaCoordination
