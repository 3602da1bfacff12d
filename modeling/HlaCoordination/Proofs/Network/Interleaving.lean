import HlaCoordination.Proofs.Network.Turns
import HlaCoordination.Proofs.Network.Verdict

/-! Callers that share a session. Requests of one session go out one at a time, but a resignation
reads the membership before its turn comes, and sends the request for what it has read. The
membership mirrors the authority's table exactly as long as no such request goes out for another
federate than the one that is held by then. Runs are listed newest first. -/
namespace HlaCoordination

open Std Session

namespace Network

variable {n n' : Network} {a : RunningAuthority} {r r' : Registry} {past : Journal}
  {key : ParticipantId} {p : Participant} {m : Membership}

/-- The second half of a resignation: the request for a membership that was read before. -/
def resignAs (n : Network) (key : ParticipantId) (p : Participant) (m : Membership) :
    Except RtiError Payload × Network :=
  let (answer, seat) := Session.request (transport p.link)
    (.resignFederation m.federationName m.federate) ⟨p.membership, n⟩
  (answer, seat.link.setParticipant key { p with membership := seat.membership })

theorem perform_resign (held : p.membership = some m) :
    n.perform key p .resign =
      ((n.resignAs key p m).1.bind (replyOf .resign), (n.resignAs key p m).2) := by
  simp only [perform, performWith, Session.perform, requestOf, held, resignAs]

/-- The authority acts on the request for what was read, while something is held: the session is
attached, and there is a federation of the name that was read. -/
structure Effective (r : Registry) (n : Network) (p : Participant) (m held : Membership) :
    Prop where
  member : p.membership = some held
  attached : ∃ id ∈ p.link.session, id ∈ n.exchange.attached
  found : ∃ f, r.lookup m.federationName = .ok f

/-- What comes of the request: nothing, or the federate that was read leaves its federation and the
session gives up whatever it holds. -/
inductive Resumption (r : Registry) (n : Network) (p : Participant) (m : Membership) :
    Registry → Option Membership → Prop where
  | idle (ineffective : ∀ held, ¬ Effective r n p m held) : Resumption r n p m r p.membership
  | released (held : Membership) (f : Federation) (effective : Effective r n p m held)
      (found : r.lookup m.federationName = .ok f) :
      Resumption r n p m (r.put (f.resign m.federate).2) none

def resignation (m held : Membership) : ControlMessage :=
  ControlMessage.fromFederate { request := .resignFederation m.federationName m.federate }
    held.federate held.federation

theorem resignAs_of_free (free : p.membership = none) :
    (n.resignAs key p m).2 = n.setParticipant key p := by
  obtain ⟨link, mailbox, membership, callbacks⟩ := p
  cases free
  simp only [resignAs, request_resign_of_free]

theorem resignAs_of_carried (key : ParticipantId) {held : Membership} {conduct : Conduct}
    {response : Response} (member : p.membership = some held)
    (carried : transport p.link ⟨resignation m held, .pending⟩ n = (conduct, n'))
    (conveys : Conveys conduct response) :
    (n.resignAs key p m).2 =
      n'.setParticipant key { p with membership := memberAfter p.membership .resign response } := by
  simp only [resignAs, member, request_resign carried conveys]

theorem resignAs_resumption (hs : Served a n r) (filed : r.Filed) (key : ParticipantId)
    (p : Participant) (m : Membership) :
    ∃ r' membership mailboxes,
      (n.resignAs key p m).2 =
        (n.revised a r' mailboxes).setParticipant key { p with membership } ∧
      Resumption r n p m r' membership := by
  cases member : p.membership with
  | none =>
    refine ⟨r, p.membership, n.exchange.mailboxes, ?_, .idle ?_⟩
    · rw [hs.revised_self]
      exact resignAs_of_free member
    · intro held effective
      cases member.symm.trans effective.member
  | some held =>
    by_cases there : ∃ id ∈ p.link.session, id ∈ n.exchange.attached
    · obtain ⟨id, linked, attached⟩ := there
      obtain ⟨mailboxes, carried⟩ := transport_of_attached hs linked attached (resignation m held)
      have settled := Authority.receiveControl_settled filed n.clock
        ((resignation m held).submittedBy id)
      have ended := resignAs_of_carried key member carried (conveys_answer settled.resolved)
      generalize Authority.receiveControl n.clock r _ = receipt at settled ended
      cases settled with
      | refused e lost =>
        refine ⟨r, p.membership, mailboxes, ended, .idle ?_⟩
        intro held' effective
        obtain ⟨f, found⟩ := effective.found
        cases found.symm.trans lost
      | done payload r' outbox answered =>
        cases answered with
        | resigned _ _ f asked found =>
          cases asked
          rw [member] at ended
          exact ⟨_, none, mailboxes, ended,
            .released held f ⟨member, ⟨id, linked, attached⟩, f, found⟩ found⟩
        | listed asked | pong _ asked | created _ _ _ _ _ asked | destroyed _ _ asked
        | joined _ _ _ _ _ _ asked | synced _ _ _ _ asked => cases asked
    · have detached : ∀ id ∈ p.link.session, id ∉ n.exchange.attached :=
        fun id linked attached => there ⟨id, linked, attached⟩
      obtain ⟨e, stopped⟩ := transport_of_detached detached ⟨resignation m held, .pending⟩
      refine ⟨r, p.membership, n.exchange.mailboxes, ?_, .idle ?_⟩
      · rw [hs.revised_self]
        exact resignAs_of_carried key member stopped (.failed e)
      · intro held' effective
        exact there effective.attached

/-- What the authority holds of a session: a federate that the session joined. -/
def Holds (a : RunningAuthority) (n : Network) (past : Journal) (key : ParticipantId)
    (m : Membership) : Prop :=
  .joined key m ∈ past ∧ ∃ r s, n.registries[a.registry]? = some r ∧ r.Seats m s

/-- Every session holds a membership if and only if the authority holds a federate of it, and that
one. -/
def Mirrors (a : RunningAuthority) (n : Network) (past : Journal) : Prop :=
  ∀ (key : ParticipantId) (p : Participant), n.participants[key]? = some p →
    ∀ m, p.membership = some m ↔ n.Holds a past key m

theorem Agrees.mirrors (h : Agrees a n past r) : Mirrors a n past := by
  intro key p hp m
  constructor
  · intro held
    obtain ⟨joined, sits⟩ := h.held key p hp m held
    exact ⟨joined, r, _, h.served.kept, sits⟩
  · rintro ⟨joined, r', s, kept, sits⟩
    cases kept.symm.trans h.served.kept
    obtain ⟨key', id, -, -, joined', holds⟩ := h.seated m s sits
    cases h.once key key' m m joined joined' rfl rfl
    exact holds p hp

def Names (m held : Membership) : Prop :=
  m.federationName = held.federationName ∧ m.federate = held.federate

theorem seats_resign_other {held : Membership} {f : Federation} {s : Option SessionId}
    (hr : r.Coherent) (found : r.lookup m.federationName = .ok f) (sits : r.Seats held s)
    (other : ¬ Names m held) : (r.put (f.resign m.federate).2).Seats held s := by
  have hf := Registry.lookup_eq_ok_iff.mp found
  by_cases member : m.federate ∈ f.federates
  · rw [Federation.resign_of_mem member]
    by_cases same : held.federationName = m.federationName
    · have apart : m.federate ≠ held.federate := fun federate => other ⟨same.symm, federate⟩
      obtain ⟨handle, there⟩ := (Registry.seats_iff_of_found hf same).mp sits
      refine (Registry.seats_put_self hr hf (by rfl) same).mpr ⟨handle, ?_⟩
      rw [getElem?_erase_eq_ite, if_neg apart, there]
    · exact (Registry.seats_put_other hr hf (by rfl) same).mpr sits
  · rw [Federation.resign_of_not_mem member, hr.put_self hf]
    exact sits

namespace Agrees

variable (h : Agrees a n past r) (hp : n.participants[key]? = some p)
include h hp

theorem resignAs (aimed : ∀ held, Effective r n p m held → Names m held)
    (few_creates : creates past < 2 ^ 32) (few_joins : joins past < 2 ^ 32) :
    ∃ r', Agrees a (n.resignAs key p m).2 past r' := by
  obtain ⟨r', membership, mailboxes, done, resumption⟩ :=
    resignAs_resumption h.served h.counted.coherent.named key p m
  rw [done]
  cases resumption with
  | idle => exact ⟨r, h.request hp (.failed .resign .notJoined) few_joins mailboxes few_creates⟩
  | released held f effective found =>
    obtain ⟨name, federate⟩ := aimed held effective
    rw [name] at found
    rw [federate]
    exact ⟨_, h.request hp (.resigned held f effective.member found) few_joins mailboxes
      few_creates⟩

/-- A request for another federate leaves the one that is held in its seat, and the session without
a membership. -/
theorem not_mirrors_resignAs {held : Membership} (effective : Effective r n p m held)
    (other : ¬ Names m held) : ¬ Mirrors a (n.resignAs key p m).2 past := by
  obtain ⟨joined, sits⟩ := h.held key p hp held effective.member
  obtain ⟨r', membership, mailboxes, done, resumption⟩ :=
    resignAs_resumption h.served h.counted.coherent.named key p m
  rw [done]
  cases resumption with
  | idle ineffective => exact absurd effective (ineffective held)
  | released held' f effective' found =>
    intro mirrors
    have stays := seats_resign_other h.counted.coherent found sits other
    have there := mirrors key { p with membership := none } ExtTreeMap.getElem?_insert_self held
    have kept : Holds a ((n.revised a (r.put (f.resign m.federate).2) mailboxes).setParticipant key
        { p with membership := none }) past key held :=
      ⟨joined, _, _, ExtTreeMap.getElem?_insert_self, stays⟩
    cases there.mpr kept

end Agrees

/-- The network of sessions that are shared, with the memberships that callers have read and not
acted on yet. -/
structure SharedSessions where
  network : Network
  captured : List (ParticipantId × Membership) := []

/-- What the callers do. A resignation is a capture and a resumption; every other call goes through
in one turn. -/
inductive Move where
  | turn (t : Turn)
  | capture (session : ParticipantId)
  | resume (session : ParticipantId) (membership : Membership)
  deriving DecidableEq

namespace SharedSessions

variable {w : SharedSessions}

def move (a : RunningAuthority) (w : SharedSessions) : Move → Option Entry × SharedSessions
  | .turn t =>
    let (entry, network) := Network.turn a w.network t
    (entry, { w with network })
  | .capture key =>
    match w.network.membershipOf key with
    | some m => (none, { w with captured := (key, m) :: w.captured })
    | none => (none, w)
  | .resume key m =>
    if (key, m) ∈ w.captured then
      let (entry, network) := w.network.onParticipant key fun p =>
        (none, (w.network.resignAs key p m).2)
      (entry, ⟨network, w.captured.erase (key, m)⟩)
    else (none, w)

def after (a : RunningAuthority) (w : SharedSessions) : List Move → SharedSessions
  | [] => w
  | move :: earlier => ((w.after a earlier).move a move).2

def journal (a : RunningAuthority) (w : SharedSessions) : List Move → Journal
  | [] => []
  | move :: earlier => ((w.after a earlier).move a move).1.toList ++ w.journal a earlier

/-- With nothing in between, the two halves are the call. -/
theorem resume_capture (there : w.network.participants[key]? = some p)
    (held : p.membership = some m) :
    (after a w [.resume key m, .capture key]).network =
      (w.move a (.turn (.call (.request key .resign)))).2.network := by
  have read : w.network.membershipOf key = some m := by simp [membershipOf, there, held]
  simp only [after, move, read, List.mem_cons_self, if_true, Network.turn, call, onParticipant,
    there, perform_resign held]

/-- The request for a membership that was read goes out while the session holds another federate,
and the authority acts on it. -/
structure Misdirected (a : RunningAuthority) (w : SharedSessions) (key : ParticipantId)
    (m : Membership) : Prop where
  pending : (key, m) ∈ w.captured
  effective : ∃ p held r, w.network.participants[key]? = some p ∧
    w.network.registries[a.registry]? = some r ∧ Effective r w.network p m held ∧ ¬ Names m held

theorem agrees_move (h : Agrees a w.network past r) (move : Move)
    (aimed : ∀ key m, move = .resume key m → ¬ Misdirected a w key m)
    (few_creates : creates ((w.move a move).1.toList ++ past) < 2 ^ 32)
    (few_joins : joins ((w.move a move).1.toList ++ past) < 2 ^ 32) :
    ∃ r', Agrees a (w.move a move).2.network ((w.move a move).1.toList ++ past) r' := by
  cases move with
  | turn t => exact h.turn t few_creates few_joins
  | capture key =>
    simp only [SharedSessions.move]
    split
    · exact ⟨r, h⟩
    · exact ⟨r, h⟩
  | resume key m =>
    by_cases pending : (key, m) ∈ w.captured
    · simp only [SharedSessions.move, pending, if_true, onParticipant] at few_creates few_joins ⊢
      cases hp : w.network.participants[key]? with
      | none => exact ⟨r, h⟩
      | some p =>
        simp only [hp] at few_creates few_joins
        refine h.resignAs hp ?_ few_creates few_joins
        intro held effective
        by_contra other
        exact aimed key m rfl ⟨pending, p, held, r, hp, h.served.kept, effective, other⟩
    · simp only [SharedSessions.move, pending, if_false]
      exact ⟨r, h⟩

theorem Misdirected.not_mirrors (misdirected : Misdirected a w key m)
    (h : Agrees a w.network past r) :
    ¬ Mirrors a (w.move a (.resume key m)).2.network
      ((w.move a (.resume key m)).1.toList ++ past) := by
  obtain ⟨pending, p, held, r', hp, kept, effective, other⟩ := misdirected
  cases kept.symm.trans h.served.kept
  simp only [SharedSessions.move, pending, if_true, onParticipant, hp]
  exact h.not_mirrors_resignAs hp effective other

section Runs

variable {config : Config} (empty : n.participants = ∅)
  (started : n.startAuthority config = .ok (a, n'))

def Aimed (a : RunningAuthority) (w : SharedSessions) (run : List Move) : Prop :=
  ∀ earlier key m, .resume key m :: earlier <:+ run → ¬ Misdirected a (w.after a earlier) key m

def Mirrored (a : RunningAuthority) (w : SharedSessions) (run : List Move) : Prop :=
  ∀ earlier, earlier <:+ run → Mirrors a (w.after a earlier).network (w.journal a earlier)

theorem Aimed.tail {move : Move} {earlier : List Move} (aimed : Aimed a w (move :: earlier)) :
    Aimed a w earlier :=
  fun rest key m before => aimed rest key m (before.trans (List.suffix_cons move earlier))

theorem Mirrored.tail {move : Move} {earlier : List Move}
    (mirrored : Mirrored a w (move :: earlier)) : Mirrored a w earlier :=
  fun rest before => mirrored rest (before.trans (List.suffix_cons move earlier))

include empty started

theorem aimed_agrees (run : List Move) (aimed : Aimed a ⟨n', []⟩ run)
    (few_creates : creates (journal a ⟨n', []⟩ run) < 2 ^ 32)
    (few_joins : joins (journal a ⟨n', []⟩ run) < 2 ^ 32) :
    ∃ r, Agrees a (after a ⟨n', []⟩ run).network (journal a ⟨n', []⟩ run) r := by
  induction run with
  | nil => exact ⟨_, Agrees.start empty started⟩
  | cons move earlier ih =>
    obtain ⟨r, h⟩ := ih aimed.tail (Nat.lt_of_le_of_lt (creates_tail _ _) few_creates)
      (Nat.lt_of_le_of_lt (joins_tail _ _) few_joins)
    refine agrees_move h move ?_ few_creates few_joins
    rintro key m rfl
    exact aimed earlier key m List.suffix_rfl

/-- Memberships mirror the authority's table throughout a run exactly if no resignation of it is
carried out for another federate than the one that is held by then. -/
theorem mirrored_iff_aimed (run : List Move)
    (few_creates : creates (journal a ⟨n', []⟩ run) < 2 ^ 32)
    (few_joins : joins (journal a ⟨n', []⟩ run) < 2 ^ 32) :
    Mirrored a ⟨n', []⟩ run ↔ Aimed a ⟨n', []⟩ run := by
  induction run with
  | nil =>
    refine iff_of_true ?_ ?_
    · intro earlier before
      cases List.suffix_nil.mp before
      exact (Agrees.start empty started).mirrors
    · intro earlier key m before
      cases List.suffix_nil.mp before
  | cons move earlier ih =>
    have few_creates' := Nat.lt_of_le_of_lt (creates_tail _ _) few_creates
    have few_joins' := Nat.lt_of_le_of_lt (joins_tail _ _) few_joins
    have hyp := ih few_creates' few_joins'
    constructor
    · intro mirrored rest key m before misdirected
      have aimed := hyp.mp mirrored.tail
      rcases List.suffix_cons_iff.mp before with same | before
      · -- Before the last move the run was aimed, so a last move that is not breaks the mirror.
        obtain ⟨rfl, rfl⟩ := List.cons.inj same
        obtain ⟨r, h⟩ := aimed_agrees empty started rest aimed few_creates' few_joins'
        exact misdirected.not_mirrors h (mirrored _ List.suffix_rfl)
      · exact aimed rest key m before misdirected
    · intro aimed rest before
      rcases List.suffix_cons_iff.mp before with rfl | before
      · obtain ⟨r, h⟩ := aimed_agrees empty started _ aimed few_creates few_joins
        exact h.mirrors
      · exact hyp.mpr aimed.tail rest before

end Runs

def orderly : List Move :=
  [.turn (.call (.request 2 (.join "alpha" "blue"))), .resume 2 ⟨"alpha", ⟨1⟩, "red", ⟨1⟩⟩,
    .capture 2, .turn (.call (.request 2 (.join "alpha" "red"))),
    .turn (.call (.request 2 (.create "alpha" ⟨[]⟩ .ieee1516e))), .turn (.call (.connect {}))]

theorem orderly_mirrored :
    ({} : Network).participants = ∅ ∧
      ({} : Network).startAuthority {} = .ok (⟨{}, 0, 1⟩, opened) ∧
      creates (journal ⟨{}, 0, 1⟩ ⟨opened, []⟩ orderly) < 2 ^ 32 ∧
      joins (journal ⟨{}, 0, 1⟩ ⟨opened, []⟩ orderly) < 2 ^ 32 ∧
      Mirrored ⟨{}, 0, 1⟩ ⟨opened, []⟩ orderly := by
  have started : ({} : Network).startAuthority {} = .ok (⟨{}, 0, 1⟩, opened) := rfl
  have few_creates : creates (journal ⟨{}, 0, 1⟩ ⟨opened, []⟩ orderly) < 2 ^ 32 := by decide
  have few_joins : joins (journal ⟨{}, 0, 1⟩ ⟨opened, []⟩ orderly) < 2 ^ 32 := by decide
  have aimed : Aimed ⟨{}, 0, 1⟩ ⟨opened, []⟩ orderly := by
    intro earlier key m before misdirected
    simp only [orderly, List.suffix_cons_iff, List.suffix_nil, List.cons.injEq, reduceCtorEq,
      false_and, false_or, or_false, Move.resume.injEq] at before
    obtain ⟨⟨rfl, rfl⟩, rfl⟩ := before
    obtain ⟨-, p, held, r, there, -, effective, other⟩ := misdirected
    have red : (after ⟨{}, 0, 1⟩ ⟨opened, []⟩ (orderly.drop 2)).network.membershipOf 2 =
        some ⟨"alpha", ⟨1⟩, "red", ⟨1⟩⟩ := by decide
    have member : some held = some ⟨"alpha", ⟨1⟩, "red", ⟨1⟩⟩ := by
      rw [← effective.member, ← red, membershipOf]
      exact (congrArg (·.bind Participant.membership) there).symm
    cases member
    exact other ⟨rfl, rfl⟩
  exact ⟨rfl, started, few_creates, few_joins,
    (mirrored_iff_aimed rfl started orderly few_creates few_joins).mpr aimed⟩

/-- One caller means to resign as red; before its request goes out, another resigns and joins as
blue. -/
def relay : List Move :=
  [.resume 2 ⟨"alpha", ⟨1⟩, "red", ⟨1⟩⟩, .turn (.call (.request 2 (.join "alpha" "blue"))),
    .turn (.call (.request 2 .resign)), .capture 2,
    .turn (.call (.request 2 (.join "alpha" "red"))),
    .turn (.call (.request 2 (.create "alpha" ⟨[]⟩ .ieee1516e))), .turn (.call (.connect {}))]

/-- Blue sits on, and the session holds no membership. -/
theorem relay_unmirrored :
    ({} : Network).startAuthority {} = .ok (⟨{}, 0, 1⟩, opened) ∧
      (after ⟨{}, 0, 1⟩ ⟨opened, []⟩ relay).network.membershipOf 2 = none ∧
      Holds ⟨{}, 0, 1⟩ (after ⟨{}, 0, 1⟩ ⟨opened, []⟩ relay).network
        (journal ⟨{}, 0, 1⟩ ⟨opened, []⟩ relay) 2 ⟨"alpha", ⟨1⟩, "blue", ⟨2⟩⟩ ∧
      ¬ Mirrors ⟨{}, 0, 1⟩ (after ⟨{}, 0, 1⟩ ⟨opened, []⟩ relay).network
        (journal ⟨{}, 0, 1⟩ ⟨opened, []⟩ relay) := by
  have given_up : (after ⟨{}, 0, 1⟩ ⟨opened, []⟩ relay).network.membershipOf 2 = none := by decide
  have joined : .joined 2 ⟨"alpha", ⟨1⟩, "blue", ⟨2⟩⟩ ∈
      journal ⟨{}, 0, 1⟩ ⟨opened, []⟩ relay := by decide
  have seat : (((after ⟨{}, 0, 1⟩ ⟨opened, []⟩ relay).network.registries[1]?.bind fun r =>
      r.federations["alpha"]?).map fun f => (f.handle, f.federates[(⟨2⟩ : FederateHandle)]?)) =
        some (⟨1⟩, some ⟨"blue", ⟨2⟩, some ⟨1⟩⟩) := by decide
  have holds : Holds ⟨{}, 0, 1⟩ (after ⟨{}, 0, 1⟩ ⟨opened, []⟩ relay).network
      (journal ⟨{}, 0, 1⟩ ⟨opened, []⟩ relay) 2 ⟨"alpha", ⟨1⟩, "blue", ⟨2⟩⟩ := by
    obtain ⟨f, found, same⟩ := Option.map_eq_some_iff.mp seat
    obtain ⟨r, kept, hf⟩ := Option.bind_eq_some_iff.mp found
    obtain ⟨handle, there⟩ := Prod.mk.inj same
    exact ⟨joined, r, some ⟨1⟩, kept, f, hf, handle, there⟩
  refine ⟨rfl, given_up, holds, ?_⟩
  intro mirrors
  cases hp : (after ⟨{}, 0, 1⟩ ⟨opened, []⟩ relay).network.participants[2]? with
  | none =>
    have present : (after ⟨{}, 0, 1⟩ ⟨opened, []⟩ relay).network.participants[2]?.isSome := by
      decide
    simp [hp] at present
  | some p =>
    have member := (mirrors 2 p hp _).mpr holds
    rw [membershipOf, hp] at given_up
    cases given_up.symm.trans member

end SharedSessions

end Network

end HlaCoordination
