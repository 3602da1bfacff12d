import HlaCoordination.Proofs.Network.Turns
import HlaCoordination.Proofs.Network.Verdict

/-! How a call can fail. As long as the sessions and the authority agree, a session that is
attached gets a reply or one of the few errors that its operation is documented with; that the
authority does not know a member, or answers with something else, cannot be. -/
namespace HlaCoordination

open Std Session

inductive Session.Documented (membership : Option Membership) : Operation → RtiError → Prop where
  | titleTaken (name : String) (schema : SchemaRef) (version : HlaVersion) :
      Documented membership (.create name schema version) (.federationAlreadyExists name)
  | titleEmpty (schema : SchemaRef) (version : HlaVersion) :
      Documented membership (.create "" schema version) (.internal .emptyFederationName)
  | nothingToDestroy (name : String) :
      Documented membership (.destroy name) (.federationDoesNotExist name)
  | occupied (name : String) :
      Documented membership (.destroy name) (.federatesCurrentlyJoined name)
  | memberAlready (federation federate : String) (m : Membership) (held : membership = some m) :
      Documented membership (.join federation federate)
        (.alreadyMember m.federationName m.federateName)
  | nothingToJoin (federation federate : String) (free : membership = none) :
      Documented membership (.join federation federate) (.federationDoesNotExist federation)
  | nameTaken (federation federate : String) (free : membership = none) :
      Documented membership (.join federation federate) (.federateNameInUse federate federation)
  | nameEmpty (federation : String) (free : membership = none) :
      Documented membership (.join federation "") (.internal .emptyFederateName)
  | nothingToResign (free : membership = none) : Documented membership .resign .notJoined
  | nobodyRegisters (label : String) (tag : Octets) (targets : HandleSet)
      (free : membership = none) : Documented membership (.register label tag targets) .notJoined
  | labelEmpty (tag : Octets) (targets : HandleSet) :
      Documented membership (.register "" tag targets) (.internal .emptyLabel)
  | targetUnknown (label : String) (tag : Octets) (targets : HandleSet) (h : FederateHandle)
      (named : h ∈ targets) :
      Documented membership (.register label tag targets) (.invalidSyncSet label h)
  | labelTaken (label : String) (tag : Octets) (targets : HandleSet) :
      Documented membership (.register label tag targets) (.syncPointAlreadyExists label)
  | nobodyAchieves (label : String) (free : membership = none) :
      Documented membership (.achieve label) .notJoined
  | unlabelled : Documented membership (.achieve "") (.internal .emptyLabel)
  | nothingToAchieve (label : String) :
      Documented membership (.achieve label) (.syncPointDoesNotExist label)
  | outsider (label : String) (m : Membership) (held : membership = some m) :
      Documented membership (.achieve label) (.notInSyncSet label m.federate)

namespace Session

variable {membership : Option Membership} {op : Operation} {e : RtiError}

theorem Documented.internal {fault : Fault}
    (documented : Documented membership op (.internal fault)) :
    fault = .emptyFederationName ∨ fault = .emptyFederateName ∨ fault = .emptyLabel := by
  cases documented <;> simp

theorem refusal?_documented (refused : refusal? membership op = some e) :
    Documented membership op e := by
  cases op with
  | create name schema version =>
    obtain ⟨rfl, rfl⟩ : name = "" ∧ .internal .emptyFederationName = e := by
      simpa [refusal?] using refused
    exact .titleEmpty schema version
  | destroy | list | ping => cases refused
  | join federation federate =>
    cases membership with
    | some m =>
      cases refused
      exact .memberAlready federation federate m rfl
    | none =>
      simp only [refusal?, joinRefusal?] at refused
      split at refused
      · cases refused
        exact .nothingToJoin federation federate rfl
      · split at refused
        · rename_i empty
          subst empty
          cases refused
          exact .nameEmpty federation rfl
        · cases refused
  | resign =>
    cases membership with
    | some m => cases refused
    | none =>
      cases refused
      exact .nothingToResign rfl
  | register label tag targets =>
    cases membership with
    | none =>
      cases refused
      exact .nobodyRegisters label tag targets rfl
    | some m =>
      obtain ⟨rfl, rfl⟩ : label = "" ∧ .internal .emptyLabel = e := by
        simpa [refusal?] using refused
      exact .labelEmpty tag targets
  | achieve label =>
    cases membership with
    | none =>
      cases refused
      exact .nobodyAchieves label rfl
    | some m =>
      obtain ⟨rfl, rfl⟩ : label = "" ∧ .internal .emptyLabel = e := by
        simpa [refusal?] using refused
      exact .unlabelled

theorem replyOf_of_fits {m : ControlMessage} {payload : Payload}
    (sent : posted membership op = some m) (fit : Authority.fits m.request payload = true) :
    ∃ value, replyOf op payload = .ok value := by
  cases op with
  | destroy | resign | register | achieve => exact ⟨.done, rfl⟩
  | create | list | ping =>
    cases sent
    cases payload <;> first | exact ⟨_, rfl⟩ | cases fit
  | join =>
    cases membership with
    | some m => cases sent
    | none =>
      cases sent
      cases payload <;> first | exact ⟨_, rfl⟩ | cases fit

end Session

namespace Network

variable {n n' : Network} {a : RunningAuthority} {r : Registry} {membership : Option Membership}
  {op : Operation} {m : ControlMessage} {e : RtiError}

section Seated

variable (hr : r.Coherent) (seated : ∀ m ∈ membership, ∃ s, r.Seats m s)
include hr

theorem worked_of_unserved {held : Membership} {session : Option SessionId}
    (sits : r.Seats held session) (source : m.source = some held.federate)
    (target : m.target = some held.federation) (asked : Authority.concernsPoint m.request = true)
    {work : Federation → FederateHandle → Except RtiError (List Delivery) × Federation}
    (unserved : Authority.Unserved r m work e) :
    ∃ f : Federation, held.federate ∈ f.federates ∧ work f held.federate = (.error e, f) := by
  obtain ⟨f, hf, same, there⟩ := sits
  have member : held.federate ∈ f.federates := by
    rw [← ExtTreeMap.isSome_getElem?_iff_mem, there]
    rfl
  have found : Authority.addressedFederation r m = .ok f := by
    have lookup : r.lookupHandle held.federation = .ok f :=
      hr.lookupHandle_eq_ok_iff.mpr ⟨_, hf, same⟩
    cases request : m.request with
    | registerSyncPoint | achieveSyncPoint =>
      simp only [Authority.addressedFederation, request, target, lookup]
    | createFederation | destroyFederation | joinFederation | resignFederation | listFederations
    | ping => simp [Authority.concernsPoint, request] at asked
  cases unserved with
  | unaddressed _ lost => cases found.symm.trans lost
  | speechless speaker => cases source.symm.trans speaker
  | failed f' h _ found' speaker failed =>
    cases found.symm.trans found'
    cases source.symm.trans speaker
    exact ⟨f, member, failed⟩

include seated

theorem documented_of_refused {clock : Clock} (readable : clock.isSome) {id : SessionId}
    (sent : posted membership op = some m)
    (refused : Authority.Refused clock r (m.submittedBy id) e) : Documented membership op e := by
  cases op with
  | create name schema version =>
    cases sent
    rcases refused with ⟨rfl, rfl⟩ | failed
    · exact .titleEmpty schema version
    · rw [(Registry.create_error failed).2]
      exact .titleTaken name schema version
  | destroy name =>
    cases sent
    rcases Registry.Filed.destroy_error hr.named refused with ⟨-, rfl | rfl⟩
    · exact .nothingToDestroy name
    · exact .occupied name
  | join federation federate =>
    cases membership with
    | some m => cases sent
    | none =>
      cases sent
      rcases refused with lost | ⟨rfl, rfl⟩ | ⟨f, found, failed⟩
      · rw [Registry.lookup_error lost]
        exact .nothingToJoin federation federate rfl
      · exact .nameEmpty federation rfl
      · have named := hr.named federation f (Registry.lookup_eq_ok_iff.mp found)
        rcases Federation.join_error failed with ⟨-, rfl | rfl⟩
        · rw [named]
          exact .nothingToJoin federation federate rfl
        · rw [named]
          exact .nameTaken federation federate rfl
  | resign =>
    obtain ⟨held, rfl, rfl⟩ := Option.map_eq_some_iff.mp sent
    obtain ⟨s, f, hf, -⟩ := seated held rfl
    cases (Registry.lookup_eq_ok_iff.mpr hf).symm.trans refused
  | list =>
    cases sent
    exact refused.elim
  | ping =>
    cases sent
    obtain ⟨rfl, -⟩ := refused
    cases readable
  | register label tag targets =>
    obtain ⟨held, rfl, rfl⟩ := Option.map_eq_some_iff.mp sent
    obtain ⟨s, sits⟩ := seated held rfl
    obtain ⟨f, member, failed⟩ := worked_of_unserved hr sits rfl rfl rfl refused
    obtain ⟨-, ⟨stranger, -⟩ | ⟨-, worked⟩⟩ :=
      Federation.registerSyncPoint_eq_error_iff.mp failed
    · exact absurd member stranger
    rcases SyncTable.register_error worked with ⟨rfl, rfl⟩ | ⟨h, named, rfl⟩ | rfl
    · exact .labelEmpty tag targets
    · exact .targetUnknown label tag targets h named
    · exact .labelTaken label tag targets
  | achieve label =>
    obtain ⟨held, rfl, rfl⟩ := Option.map_eq_some_iff.mp sent
    obtain ⟨s, sits⟩ := seated held rfl
    obtain ⟨f, member, failed⟩ := worked_of_unserved hr sits rfl rfl rfl refused
    obtain ⟨-, ⟨stranger, -⟩ | ⟨-, worked⟩⟩ :=
      Federation.achieveSyncPoint_eq_error_iff.mp failed
    · exact absurd member stranger
    rcases SyncTable.achieve_error worked with rfl | rfl
    · exact .nothingToAchieve label
    · exact .outsider label held rfl

end Seated

variable {p : Participant} {id : SessionId}

theorem answerTo_of_served (hs : Served a n r) (linked : p.link.session = some id)
    (attached : id ∈ n.exchange.attached) (m : ControlMessage) :
    n.answerTo p.link m =
      (Authority.receiveControl n.clock r ⟨m.submittedBy id, .pending⟩).context.response := by
  obtain ⟨mailboxes, submitted⟩ :=
    submit_of_served hs attached (fun _ n => (.timeout p.link.timeoutMs, n)) m
  simp only [answerTo, linked, submitted]

theorem perform_documented (hs : Served a n r) (hr : r.Coherent)
    (seated : ∀ m ∈ p.membership, ∃ s, r.Seats m s) (readable : n.clock.isSome)
    (linked : p.link.session = some id) (attached : id ∈ n.exchange.attached)
    (key : ParticipantId) (op : Operation) :
    (∃ value, (n.perform key p op).1 = .ok value) ∨
      ∃ e, (n.perform key p op).1 = .error e ∧ Documented p.membership op e := by
  have ending := n.perform_ending key p op
  generalize (n.perform key p op).1 = reply at ending ⊢
  generalize (n.perform key p op).2.membershipOf key = membership at ending
  have answer (m : ControlMessage) := answerTo_of_served hs linked attached m
  have settled (m : ControlMessage) :=
    Authority.receiveControl_settled hr.named n.clock (m.submittedBy id)
  cases ending with
  | refused e invalid => exact Or.inr ⟨e, rfl, refusal?_documented invalid⟩
  | unanswered m fault sent silent =>
    have answered := settled m
    rw [answer m] at silent
    generalize Authority.receiveControl n.clock r ⟨m.submittedBy id, .pending⟩ = receipt
      at answered silent
    cases answered <;> cases silent
  | answered m response sent came resolved =>
    have answered := settled m
    rw [answer m] at came
    subst came
    generalize Authority.receiveControl n.clock r ⟨m.submittedBy id, .pending⟩ = receipt
      at answered ⊢
    cases answered with
    | refused e cause =>
      exact Or.inr ⟨e, rfl, documented_of_refused hr seated readable sent cause⟩
    | done payload r' outbox answered => exact Or.inl (replyOf_of_fits sent answered.fits)

/-- After every run of turns under one authority, an operation of a session that is attached gets a
reply or an error that it is documented with, if the clock can be read. -/
theorem failures_documented {config : Config} (empty : n.participants = ∅)
    (started : n.startAuthority config = .ok (a, n')) (run : List Turn)
    (few_creates : creates (n'.turnJournal a run) < 2 ^ 32)
    (few_joins : joins (n'.turnJournal a run) < 2 ^ 32) {key : ParticipantId}
    (readable : (n'.played a run).clock.isSome)
    (there : (n'.played a run).participants[key]? = some p) (linked : p.link.session = some id)
    (attached : id ∈ (n'.played a run).exchange.attached) (op : Operation) :
    (∃ value, ((n'.played a run).perform key p op).1 = .ok value) ∨
      ∃ e, ((n'.played a run).perform key p op).1 = .error e ∧ Documented p.membership op e := by
  obtain ⟨r, agrees⟩ := played_agrees empty started run few_creates few_joins
  have seated : ∀ m ∈ p.membership, ∃ s, r.Seats m s :=
    fun m held => ⟨_, (agrees.held key p there m held).2⟩
  exact perform_documented agrees.served agrees.counted.coherent seated readable linked attached
    key op

def relapse : List Turn :=
  [.finishRestore "alpha", .restore "alpha" [0x7b, 0x7d], .settle, .poll 2,
    .call (.request 2 (.register "start" [7] ∅)), .call (.request 2 (.join "alpha" "red")),
    .call (.request 2 (.create "alpha" ⟨[]⟩ .ieee1516e)), .call (.connect {})]

def survivor : Participant where
  link := ⟨5000, 1024, some ⟨1⟩⟩
  mailbox := ⟨1⟩
  membership := some ⟨"alpha", ⟨1⟩, "red", ⟨1⟩⟩

theorem relapse_documented :
    ({} : Network).participants = ∅ ∧
      ({} : Network).startAuthority {} = .ok (⟨{}, 0, 1⟩, opened) ∧
      creates (opened.turnJournal ⟨{}, 0, 1⟩ relapse) < 2 ^ 32 ∧
      joins (opened.turnJournal ⟨{}, 0, 1⟩ relapse) < 2 ^ 32 ∧
      (opened.played ⟨{}, 0, 1⟩ relapse).clock.isSome ∧
      (opened.played ⟨{}, 0, 1⟩ relapse).participants[2]? = some survivor ∧
      survivor.link.session = some ⟨1⟩ ∧
      ⟨1⟩ ∈ (opened.played ⟨{}, 0, 1⟩ relapse).exchange.attached ∧
      ((opened.played ⟨{}, 0, 1⟩ relapse).perform 2 survivor (.achieve "start")).1 =
        .error (.syncPointDoesNotExist "start") ∧
      Documented survivor.membership (.achieve "start") (.syncPointDoesNotExist "start") := by
  have started : ({} : Network).startAuthority {} = .ok (⟨{}, 0, 1⟩, opened) := rfl
  have few_creates : creates (opened.turnJournal ⟨{}, 0, 1⟩ relapse) < 2 ^ 32 := by decide
  have few_joins : joins (opened.turnJournal ⟨{}, 0, 1⟩ relapse) < 2 ^ 32 := by decide
  have readable : (opened.played ⟨{}, 0, 1⟩ relapse).clock.isSome := by decide
  have there : (opened.played ⟨{}, 0, 1⟩ relapse).participants[2]? = some survivor := by decide
  have attached : ⟨1⟩ ∈ (opened.played ⟨{}, 0, 1⟩ relapse).exchange.attached := by decide
  have failed : ((opened.played ⟨{}, 0, 1⟩ relapse).perform 2 survivor (.achieve "start")).1 =
      .error (.syncPointDoesNotExist "start") := by decide
  refine ⟨rfl, started, few_creates, few_joins, readable, there, rfl, attached, failed, ?_⟩
  rcases failures_documented rfl started relapse few_creates few_joins readable there rfl attached
    (.achieve "start") with ⟨value, done⟩ | ⟨e, failed', documented⟩
  · cases failed.symm.trans done
  · cases failed.symm.trans failed'
    exact documented

end Network

end HlaCoordination
