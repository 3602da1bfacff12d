import HlaCoordination.Proofs.Authority.Assembly
import HlaCoordination.Proofs.Network.Agreement

/-! What a rejected request leaves behind. A message that arrives without a response and is
answered with an error changes nothing on the network: no registry, and no mailbox. Every operation
on a table of points, a federation or a registry says what it leaves when it fails, so this looks at
all of their exits; those that only an authority with sinks of its own has are among them. -/
namespace HlaCoordination

open Std

/-- The registries there can be. An authority may be sent any message, also one that has a response
already; federations may be created and destroyed directly, and changed in any way that leaves them
their names, as by restoring their points. -/
inductive Registry.Reachable : Registry → Prop where
  | opened (policy : ResignPolicy) : Reachable { policy }
  | served (r : Registry) (clock : Clock) (c : MessageContext) (before : Reachable r) :
      Reachable (Authority.receiveControl clock r c).registry
  | created (r r' : Registry) (name : String) (schema : SchemaRef) (version : HlaVersion)
      (f : Federation) (before : Reachable r) (ok : r.create name schema version = (.ok f, r')) :
      Reachable r'
  | destroyed (r r' : Registry) (name : String) (before : Reachable r)
      (ok : r.destroy name = (.ok (), r')) : Reachable r'
  | changed (r : Registry) (name : String) (f g : Federation) (before : Reachable r)
      (found : r.lookup name = .ok f) (named : g.name = f.name) : Reachable (r.put g)

namespace Authority

variable {r r' : Registry}

theorem Answered.filed {m : ControlMessage} {response : Response}
    (answered : Answered r m response r') (filed : r.Filed) : r'.Filed := by
  cases answered with
  | refused | listed | pong => exact filed
  | created name schema version f r' asked ok => exact filed.create ok
  | destroyed name r' asked ok => exact filed.destroy ok
  | joined | resigned | synced => exact filed.put _

theorem receiveControl_filed (filed : r.Filed) (clock : Clock) (c : MessageContext) :
    (receiveControl clock r c).registry.Filed := by
  rw [receiveControl_registry]
  have settled := receiveControl_settled filed clock c.message
  generalize receiveControl clock r ⟨c.message, .pending⟩ = receipt at settled ⊢
  cases settled with
  | refused e cause => exact filed
  | done payload r' outbox answered => exact answered.filed filed

end Authority

theorem Registry.Reachable.filed {r : Registry} (reachable : r.Reachable) : r.Filed := by
  induction reachable with
  | opened policy =>
    intro name f hf
    simp at hf
  | served r clock c before ih => exact Authority.receiveControl_filed ih clock c
  | created r r' name schema version f before ok ih => exact ih.create ok
  | destroyed r r' name before ok ih => exact ih.destroy ok
  | changed r name f g before found named ih => exact ih.put g

namespace Network

variable {n : Network} {a : RunningAuthority} {r : Registry} {c : MessageContext} {e : RtiError}

/-- What is left of a network, and of an authority that was put together, when a message has been
answered with an error: all that was there before, but for the clock that was read. -/
structure Rejection (n : Network) (a : RunningAuthority) (r : Registry) (c : MessageContext)
    (e : RtiError) : Prop where
  receipt : Authority.receiveControl n.clock r c = ⟨⟨c.message, .failure e⟩, r, []⟩
  network : n.serveControl a.endpoint c = (.answered ⟨c.message, .failure e⟩, n)
  assembled : ∀ (policy : ResignPolicy) (b : Assembly) (run : List Assembly.Event),
    Assembly.assemble policy = .ok b → (b.after run).objects.registry = r →
      (b.after run).receive n.clock c =
        ((⟨c.message, .failure e⟩, []),
          { b.after run with objects := (b.after run).objects.timed n.clock })

/-- A request that is answered with an error leaves the authority's registry and the rest of the
network, every mailbox included, exactly as they were. -/
theorem rejected_unchanged (served : Served a n r) (reachable : r.Reachable)
    (arrives : c.response = .pending)
    (rejected : (Authority.receiveControl n.clock r c).context.response = .failure e) :
    Rejection n a r c e := by
  obtain ⟨m, response⟩ := c
  obtain rfl : response = .pending := arrives
  have kept : Authority.receiveControl n.clock r ⟨m, .pending⟩ = ⟨⟨m, .failure e⟩, r, []⟩ := by
    have settled := Authority.receiveControl_settled reachable.filed n.clock m
    generalize Authority.receiveControl n.clock r ⟨m, .pending⟩ = receipt at settled rejected ⊢
    cases settled with
    | refused e' cause =>
      cases rejected
      rfl
    | done payload r' outbox answered => cases rejected
  refine ⟨kept, ?_, fun policy b run made stands => ?_⟩
  · simp only [serveControl_eq served, kept, setRegistry, sendAll, List.foldl_nil,
      insert_eq_self served.kept]
  · obtain ⟨b', made', sturdy, -⟩ := Assembly.assemble_sturdy policy
    cases made.symm.trans made'
    refine Assembly.after_rejected made run ?_
    rw [((sturdy.after run).attentive.meant n.clock ⟨m, .pending⟩).1, stands]
    exact rejected

def rehearsal : List Call :=
  [.request 2 (.register "start" [7] ∅), .request 2 (.join "alpha" "red"),
    .request 2 (.create "alpha" ⟨[]⟩ .ieee1516e), .connect {}, .connect {}]

def rehearsed : List ControlMessage :=
  [{ request := .createFederation "alpha" ⟨[]⟩ .ieee1516e, origin := some ⟨1⟩ },
    { request := .joinFederation "alpha" "red", origin := some ⟨1⟩ },
    { request := .registerSyncPoint "start" [7] ∅, source := some ⟨1⟩, target := some ⟨1⟩,
      origin := some ⟨1⟩ }]

def staged : Registry :=
  rehearsed.foldl (fun r m => (Authority.receiveControl (some 0) r ⟨m, .pending⟩).registry) {}

/-- Another session asks for a name that differs from one in use by its case only. -/
def intrusion : MessageContext :=
  ⟨{ request := .joinFederation "alpha" "RED", origin := some ⟨2⟩ }, .pending⟩

/-- An authority with sinks of its own gets there as well. -/
theorem staged_assembled : ∃ b run, Assembly.assemble .prune = .ok b ∧
    (b.after run).objects.registry = staged := by
  refine ⟨{ global := Sink.built "authority-global" ObjectRegistry.global (),
            objects := { policy := .prune } },
    rehearsed.reverse.flatMap fun m => [.finish (some 0) 0, .arrive ⟨m, .pending⟩], ?_, ?_⟩
  · rw [Assembly.assemble, Sink.ofTable_of_sound global_sound]
  · decide +kernel

theorem intrusion_unchanged :
    Served ⟨{}, 0, 1⟩ (opened.after rehearsal) staged ∧ staged.Reachable ∧
      intrusion.response = .pending ∧
      (Authority.receiveControl (some 0) staged intrusion).context.response =
        .failure (.federateNameInUse "RED" "alpha") ∧
      Rejection (opened.after rehearsal) ⟨{}, 0, 1⟩ staged intrusion
        (.federateNameInUse "RED" "alpha") ∧
      ∃ b run, Assembly.assemble .prune = .ok b ∧ (b.after run).objects.registry = staged ∧
        (b.after run).receive (some 0) intrusion =
          ((⟨intrusion.message, .failure (.federateNameInUse "RED" "alpha")⟩, []),
            { b.after run with objects := (b.after run).objects.timed (some 0) }) := by
  have served : Served ⟨{}, 0, 1⟩ (opened.after rehearsal) staged :=
    ⟨by decide, by decide, by decide⟩
  have reachable : staged.Reachable :=
    .served _ (some 0) _ (.served _ (some 0) _ (.served _ (some 0) _ (.opened .prune)))
  have rejected : (Authority.receiveControl (opened.after rehearsal).clock staged
      intrusion).context.response = .failure (.federateNameInUse "RED" "alpha") := by decide
  have rejection := rejected_unchanged served reachable rfl rejected
  obtain ⟨b, run, made, stands⟩ := staged_assembled
  exact ⟨served, reachable, rfl, rejected, rejection, b, run, made, stands,
    rejection.assembled .prune b run made stands⟩

end Network

end HlaCoordination
