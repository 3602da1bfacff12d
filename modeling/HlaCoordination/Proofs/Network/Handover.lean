import HlaCoordination.Proofs.Exchange.Queues
import HlaCoordination.Proofs.Network.Absence

/-! How the notices of one session are handed out. They are polled or pushed to whatever listener is
enabled, and the two may take turns at any time. After every step the dispatcher has taken what it
takes. Nothing is lost on the way, nothing comes twice, and the order stays. Runs are listed newest
first. -/
namespace HlaCoordination

open Std

namespace Callbacks

variable {c : Callbacks}

theorem dispatch_of_idle (idle : c.dispatcher ≠ some .running) (queue : List Notice) :
    c.dispatch queue = (c, queue) := by
  cases queue with
  | nil => rfl
  | cons notice rest =>
    unfold dispatch
    split
    · exact absurd ‹_› idle
    · rfl

/-- A dispatcher that has pushed runs on, unless its listener has failed or asked for polling. -/
def afterPush (l : Listener) : Option Dispatcher :=
  if l.failsAt = some l.received.length then some .failed
  else if l.stopsAt = some l.received.length then none
  else some .running

theorem dispatcher_push (running : c.dispatcher = some .running) (notice : Notice) :
    (c.push notice).dispatcher = afterPush (c.push notice).listener := by
  simp only [push, afterPush, running]

/-- What a dispatcher makes of a queue: it pushes the front of it and leaves the rest. -/
structure Dispatched (c : Callbacks) (queue pushed : List Notice) (c' : Callbacks)
    (left : List Notice) : Prop where
  parts : queue = pushed ++ left
  listener : c'.listener = { c.listener with received := c.listener.received ++ pushed }
  idle : pushed = [] → c'.dispatcher = c.dispatcher
  busy : pushed ≠ [] → c.dispatcher = some .running ∧ c'.dispatcher = afterPush c'.listener
  drained : c'.dispatcher = some .running → left = []

theorem dispatched (c : Callbacks) (queue : List Notice) :
    ∃ pushed, Dispatched c queue pushed (c.dispatch queue).1 (c.dispatch queue).2 := by
  induction queue generalizing c with
  | nil =>
    refine ⟨[], rfl, ?_, fun _ => rfl, ?_, fun _ => rfl⟩
    · rw [dispatch, List.append_nil]
    · intro some_pushed
      exact absurd rfl some_pushed
  | cons notice rest ih =>
    by_cases running : c.dispatcher = some .running
    · obtain ⟨pushed, h⟩ := ih (c.push notice)
      have later : c.dispatch (notice :: rest) = (c.push notice).dispatch rest := by
        rw [dispatch, running]
      rw [later]
      refine ⟨notice :: pushed, ?_, ?_, nofun, ?_, h.drained⟩
      · rw [List.cons_append, ← h.parts]
      · rw [h.listener]
        simp [push]
      · intro _
        refine ⟨running, ?_⟩
        by_cases last : pushed = []
        · have same := h.listener
          rw [last, List.append_nil] at same
          rw [h.idle last, same, dispatcher_push running]
        · exact (h.busy last).2
    · rw [dispatch_of_idle running]
      refine ⟨[], rfl, ?_, fun _ => rfl, ?_, ?_⟩
      · rw [List.append_nil]
      · intro some_pushed
        exact absurd rfl some_pushed
      · intro still
        exact absurd still running

/-- The state in which a listener that was enabled has been told these notices. -/
structure Follows (l : Listener) (told : List Notice) (c : Callbacks) : Prop where
  listener : c.listener = { l with received := l.received ++ told }
  untold : told = [] → c.isImmediate = true
  pushed : told ≠ [] → c.dispatcher = afterPush c.listener

theorem follows_enable (c : Callbacks) (l : Listener) : Follows l [] (c.enable l) := by
  refine ⟨?_, fun _ => rfl, fun some_told => absurd rfl some_told⟩
  rw [List.append_nil]
  rfl

section Dispatched

variable {queue pushed left : List Notice} {c' : Callbacks} (d : Dispatched c queue pushed c' left)
include d

theorem Follows.dispatched {l : Listener} {told : List Notice} (h : Follows l told c) :
    Follows l (told ++ pushed) c' := by
  by_cases nothing : pushed = []
  · have same : c'.listener = c.listener := by
      rw [d.listener, nothing, List.append_nil]
    rw [nothing, List.append_nil]
    refine ⟨same.trans h.listener, ?_, ?_⟩
    · intro untold
      rw [isImmediate, d.idle nothing]
      exact h.untold untold
    · intro some_told
      rw [d.idle nothing, same]
      exact h.pushed some_told
  · refine ⟨?_, ?_, fun _ => (d.busy nothing).2⟩
    · rw [d.listener, h.listener, List.append_assoc]
    · intro untold
      exact absurd (List.append_eq_nil_iff.mp untold).2 nothing

theorem Dispatched.off (off : c.dispatcher = none) : pushed = [] ∧ c'.dispatcher = none := by
  have nothing : pushed = [] := by
    by_contra some_pushed
    cases off.symm.trans (d.busy some_pushed).1
  exact ⟨nothing, (d.idle nothing).trans off⟩

end Dispatched

end Callbacks

namespace Network

variable {n : Network} {key : ParticipantId} {p : Participant}

inductive NoticeStep where
  | deliver (notice : Notice) (recipients : List SessionId)
  | poll
  | enable (listener : Listener)
  | disable
  deriving DecidableEq

def handle (n : Network) (key : ParticipantId) : NoticeStep → Option Notice × Network
  | .deliver notice recipients => (none, n.delivered notice recipients)
  | .poll =>
    match n.participants[key]? with
    | some p => n.poll p
    | none => (none, n)
  | .enable l => (none, n.happen (.listen key l))
  | .disable => (none, n.happen (.unlisten key))

/-- Gives the dispatcher of a session the time to take what is queued. -/
def attend (n : Network) (key : ParticipantId) : Network :=
  match n.participants[key]? with
  | some p => if p.callbacks.isImmediate then n.settleParticipant key p else n
  | none => n

def immediate (n : Network) (key : ParticipantId) : Bool :=
  n.participants[key]?.any fun p => p.callbacks.isImmediate

def heard (n : Network) (key : ParticipantId) : List Notice :=
  (n.participants[key]?.map fun p => p.callbacks.listener.received).getD []

def queued (n : Network) (key : ParticipantId) : List Notice :=
  (n.participants[key]?.map fun p => (n.exchange.mailbox p.mailbox).notices).getD []

def accepts (n : Network) (key : ParticipantId) : NoticeStep → List Notice
  | .deliver notice recipients =>
    (n.participants[key]?.map fun p =>
      Exchange.takenBy p.mailbox (n.exchange.offers notice recipients)).getD []
  | .poll | .enable _ | .disable => []

def yields (n : Network) (key : ParticipantId) (h : NoticeStep) : List Notice :=
  (n.handle key h).1.toList

def pushes (n : Network) (key : ParticipantId) (h : NoticeStep) : List Notice :=
  (((n.handle key h).2.attend key).heard key).drop ((n.handle key h).2.heard key).length

section Runs

variable (n : Network) (key : ParticipantId)

def handled : List NoticeStep → Network
  | [] => n
  | h :: earlier => ((handled earlier).handle key h).2.attend key

def accepted : List NoticeStep → List Notice
  | [] => []
  | h :: earlier => accepted earlier ++ (n.handled key earlier).accepts key h

def handed : List NoticeStep → List Notice
  | [] => []
  | h :: earlier =>
    handed earlier ++ ((n.handled key earlier).yields key h ++ (n.handled key earlier).pushes key h)

/-- The listener that is enabled, as it was when it was. -/
def enabled : List NoticeStep → Option Listener
  | [] => n.participants[key]?.bind fun p =>
    if p.callbacks.isImmediate then some p.callbacks.listener else none
  | .enable l :: _ => some l
  | .disable :: _ => none
  | .deliver .. :: earlier | .poll :: earlier => enabled earlier

/-- What has been pushed since the newest listener was enabled. -/
def told : List NoticeStep → List Notice
  | [] => []
  | .enable l :: earlier => (n.handled key earlier).pushes key (.enable l)
  | h :: earlier => told earlier ++ (n.handled key earlier).pushes key h

end Runs

def NoticeStep.change : NoticeStep → Callbacks → Callbacks
  | .enable l, c => c.enable l
  | .disable, c => c.disable
  | .deliver .., c | .poll, c => c

theorem handle_there (there : n.participants[key]? = some p) (h : NoticeStep) :
    (n.handle key h).2.participants[key]? = some { p with callbacks := h.change p.callbacks } := by
  cases h with
  | deliver notice recipients => exact there
  | poll =>
    simp only [handle, there, poll]
    split <;> exact there
  | enable l | disable =>
    simp only [handle, happen, onParticipant, there, setParticipant,
      ExtTreeMap.getElem?_insert_self]
    rfl

theorem queued_of_there (there : n.participants[key]? = some p) :
    n.queued key = (n.exchange.mailbox p.mailbox).notices := by
  simp only [queued, there, Option.map_some, Option.getD_some]

theorem heard_of_there (there : n.participants[key]? = some p) :
    n.heard key = p.callbacks.listener.received := by
  simp only [heard, there, Option.map_some, Option.getD_some]

theorem poll_parts (n : Network) (p : Participant) :
    (n.exchange.mailbox p.mailbox).notices =
      (n.poll p).1.toList ++ ((n.poll p).2.exchange.mailbox p.mailbox).notices := by
  unfold poll
  split
  · rfl
  · simp only [Exchange.take_fst, Exchange.mailbox_take, if_true, Exchange.next_append]

theorem handle_queued (there : n.participants[key]? = some p) (h : NoticeStep) :
    n.queued key ++ n.accepts key h = n.yields key h ++ (n.handle key h).2.queued key := by
  rw [queued_of_there there, queued_of_there (handle_there there h)]
  cases h with
  | deliver notice recipients =>
    simp only [accepts, yields, handle, there, delivered, Option.map_some, Option.getD_some,
      Exchange.notices_deliver]
    rfl
  | poll =>
    simp only [accepts, yields, handle, there, List.append_nil]
    exact poll_parts n p
  | enable l | disable =>
    simp only [accepts, yields, handle, happen, onParticipant, there, List.append_nil]
    rfl

theorem attend_dispatched (there : n.participants[key]? = some p) :
    ∃ pushed c, (n.attend key).participants[key]? = some { p with callbacks := c } ∧
      Callbacks.Dispatched p.callbacks (n.queued key) pushed c ((n.attend key).queued key) := by
  obtain ⟨pushed, made⟩ := p.callbacks.dispatched (n.queued key)
  refine ⟨pushed, (p.callbacks.dispatch (n.queued key)).1, ?_⟩
  have attended : (n.attend key).participants[key]? =
        some { p with callbacks := (p.callbacks.dispatch (n.queued key)).1 } ∧
      (n.attend key).queued key = (p.callbacks.dispatch (n.queued key)).2 := by
    cases installed : p.callbacks.isImmediate with
    | true =>
      have after : (n.attend key) = n.settleParticipant key p := by
        simp only [attend, there, installed, if_true]
      have there' : (n.attend key).participants[key]? =
          some { p with callbacks := (p.callbacks.dispatch (n.queued key)).1 } := by
        rw [after, queued_of_there there]
        exact ExtTreeMap.getElem?_insert_self
      refine ⟨there', ?_⟩
      rw [queued_of_there there', after, queued_of_there there]
      simp only [settleParticipant, setParticipant, Exchange.keep, Exchange.mailbox_insert, if_true]
    | false =>
      have idle : p.callbacks.dispatcher ≠ some .running := by
        intro running
        simp [Callbacks.isImmediate, running] at installed
      have after : n.attend key = n := by
        simp only [attend, there, installed, Bool.false_eq_true, if_false]
      rw [after, Callbacks.dispatch_of_idle idle]
      exact ⟨there, rfl⟩
  rw [attended.2]
  exact ⟨attended.1, made⟩

structure Stepped (n : Network) (key : ParticipantId) (p : Participant) (h : NoticeStep)
    (c : Callbacks) : Prop where
  there : ((n.handle key h).2.attend key).participants[key]? = some { p with callbacks := c }
  moved : n.queued key ++ n.accepts key h =
    n.yields key h ++ (n.pushes key h ++ ((n.handle key h).2.attend key).queued key)
  dispatched : Callbacks.Dispatched (h.change p.callbacks) ((n.handle key h).2.queued key)
    (n.pushes key h) c (((n.handle key h).2.attend key).queued key)

theorem stepped (there : n.participants[key]? = some p) (h : NoticeStep) :
    ∃ c, Stepped n key p h c := by
  have handled := handle_there there h
  obtain ⟨pushed, c, there', made⟩ := attend_dispatched handled
  have pushes : n.pushes key h = pushed := by
    rw [Network.pushes, heard_of_there there', heard_of_there handled, made.listener]
    exact List.drop_left
  refine ⟨c, there', ?_, ?_⟩
  · rw [handle_queued there h, pushes, ← made.parts]
  · rw [pushes]
    exact made

/-- How a session stands in a run, as far as its notices go. -/
structure Handed (n : Network) (key : ParticipantId) (p : Participant) (run : List NoticeStep)
    (c : Callbacks) : Prop where
  there : (n.handled key run).participants[key]? = some { p with callbacks := c }
  conserved : n.queued key ++ n.accepted key run =
    n.handed key run ++ (n.handled key run).queued key
  off : n.enabled key run = none → c.dispatcher = none
  on : ∀ l, n.enabled key run = some l → Callbacks.Follows l (n.told key run) c

theorem handed_start (there : n.participants[key]? = some p) :
    Handed n key p [] p.callbacks := by
  have start : n.enabled key [] =
      if p.callbacks.isImmediate then some p.callbacks.listener else none := by
    simp only [enabled, there, Option.bind_some]
  constructor
  · exact there
  · simp [accepted, handed, handled]
  · intro disabled
    rw [start] at disabled
    split at disabled
    · cases disabled
    · rename_i polling
      simpa [Callbacks.isImmediate] using polling
  · intro l on
    rw [start] at on
    split at on
    · rename_i installed
      cases on
      refine ⟨?_, fun _ => installed, fun some_told => absurd rfl some_told⟩
      rw [told, List.append_nil]
    · cases on

namespace Handed

variable {run : List NoticeStep} {c c' : Callbacks} (before : Handed n key p run c)
include before

theorem change_off (h : NoticeStep) (off : n.enabled key (h :: run) = none) :
    (h.change c).dispatcher = none := by
  cases h with
  | deliver | poll => exact before.off off
  | enable l => cases off
  | disable => rfl

theorem change_on (h : NoticeStep) {l : Listener} (on : n.enabled key (h :: run) = some l) :
    ∃ told, Callbacks.Follows l told (h.change c) ∧
      n.told key (h :: run) = told ++ (n.handled key run).pushes key h := by
  cases h with
  | deliver | poll => exact ⟨n.told key run, before.on l on, rfl⟩
  | enable l' =>
    cases on
    exact ⟨[], Callbacks.follows_enable c l, rfl⟩
  | disable => cases on

theorem step {h : NoticeStep} (s : Stepped (n.handled key run) key { p with callbacks := c } h c') :
    Handed n key p (h :: run) c' := by
  refine ⟨s.there, ?_, ?_, ?_⟩
  · calc n.queued key ++ n.accepted key (h :: run)
        = (n.queued key ++ n.accepted key run) ++ (n.handled key run).accepts key h := by
          rw [accepted, List.append_assoc]
      _ = n.handed key run ++ ((n.handled key run).yields key h ++
            ((n.handled key run).pushes key h ++ (n.handled key (h :: run)).queued key)) := by
          rw [before.conserved, List.append_assoc, s.moved]
          rfl
      _ = n.handed key (h :: run) ++ (n.handled key (h :: run)).queued key := by
          simp only [handed, List.append_assoc]
  · intro off
    exact (s.dispatched.off (before.change_off h off)).2
  · intro l on
    obtain ⟨told, follows, grown⟩ := before.change_on h on
    rw [grown]
    exact follows.dispatched s.dispatched

end Handed

theorem handed_handled (there : n.participants[key]? = some p) (run : List NoticeStep) :
    ∃ c, Handed n key p run c := by
  induction run with
  | nil => exact ⟨p.callbacks, handed_start there⟩
  | cons h earlier ih =>
    obtain ⟨c, before⟩ := ih
    obtain ⟨c', s⟩ := stepped before.there h
    exact ⟨c', before.step s⟩

/-- The listener has asked for polling, by the last of the notices that it has been told. When a
dispatcher sees the request late, its listener counts as one that asks at a later notice. -/
def Asks (l : Listener) (told : List Notice) : Prop :=
  told ≠ [] ∧ Callbacks.afterPush { l with received := l.received ++ told } = none

theorem immediate_iff {l : Listener} {told : List Notice} {c : Callbacks}
    (h : Callbacks.Follows l told c) : c.isImmediate = true ↔ ¬ Asks l told := by
  by_cases untold : told = []
  · simp [Asks, untold, h.untold untold]
  · have state : c.dispatcher = Callbacks.afterPush { l with received := l.received ++ told } := by
      rw [h.pushed untold, h.listener]
    rw [Callbacks.isImmediate, Option.isSome_iff_ne_none, state, Asks]
    exact ⟨fun installed asks => installed asks.2, fun unasked none => unasked ⟨untold, none⟩⟩

structure HandedOut (n : Network) (key : ParticipantId) (run : List NoticeStep) : Prop where
  /-- What was polled and pushed, and after it what is still queued, is what was queued at first and
  what has been accepted since. -/
  conserved : n.handed key run ++ (n.handled key run).queued key =
    n.queued key ++ n.accepted key run
  heard : ∀ l, n.enabled key run = some l →
    (n.handled key run).heard key = l.received ++ n.told key run
  audience : ∀ h, (n.handled key run).pushes key h ≠ [] →
    (∃ l, n.enabled key (h :: run) = some l) ∧
      ((n.handled key run).handle key h).2.immediate key = true
  installed : (n.handled key run).immediate key = true ↔
    ∃ l, n.enabled key run = some l ∧ ¬ Asks l (n.told key run)
  silent : (n.handled key run).immediate key = true → (n.handled key run).yields key .poll = []
  drained : ∀ h (p : Participant), (n.handled key (h :: run)).participants[key]? = some p →
    p.callbacks.dispatcher = some .running → (n.handled key (h :: run)).queued key = []

/-- However polls and listeners take turns, and whatever the listeners do. -/
theorem notices_handed_out (there : n.participants[key]? = some p) (run : List NoticeStep) :
    HandedOut n key run := by
  obtain ⟨c, h⟩ := handed_handled there run
  have immediate : (n.handled key run).immediate key = c.isImmediate := by
    simp only [Network.immediate, h.there, Option.any_some]
  constructor
  · exact h.conserved.symm
  · intro l on
    rw [heard_of_there h.there]
    exact congrArg Listener.received (h.on l on).listener
  · intro s some_pushed
    obtain ⟨c', next⟩ := stepped h.there s
    have running := (next.dispatched.busy some_pushed).1
    constructor
    · by_contra nobody
      have off := h.change_off s (Option.eq_none_iff_forall_not_mem.mpr (not_exists.mp nobody))
      cases running.symm.trans off
    · simp only [Network.immediate, handle_there h.there s, Option.any_some,
        Callbacks.isImmediate, running, Option.isSome_some]
  · rw [immediate]
    cases on : n.enabled key run with
    | none => simp [Callbacks.isImmediate, h.off on]
    | some l => simp [immediate_iff (h.on l on)]
  · intro installed
    rw [immediate] at installed
    simp only [yields, handle, h.there, poll, installed, if_true, Option.toList_none]
  · intro s p' there' running
    obtain ⟨c', next⟩ := stepped h.there s
    cases there'.symm.trans next.there
    exact next.dispatched.drained running

/-- A session has a backlog when its first listener is enabled, which fails at once; it is replaced
by one that asks for polling at its second notice. -/
def shift : List NoticeStep :=
  [.disable, .deliver (.disconnected "d") [⟨1⟩, ⟨1⟩], .enable { stopsAt := some 2 }, .poll,
    .enable { failsAt := some 1 }, .poll, .deliver (.disconnected "c") [⟨1⟩],
    .deliver (.disconnected "b") [⟨1⟩], .deliver (.disconnected "a") [⟨1⟩]]

def visited : Network := ({} : Network).course [.call (.connect {}), .start {}]

theorem shift_handed_out :
    visited.participants[2]? = some ⟨⟨5000, 1024, some ⟨1⟩⟩, ⟨1⟩, none, {}⟩ ∧
      HandedOut visited 2 shift ∧
      visited.handed 2 shift =
        [.disconnected "a", .disconnected "b", .disconnected "c", .disconnected "d"] ∧
      (visited.handled 2 shift).queued 2 = [.disconnected "d"] := by
  have there : visited.participants[2]? = some ⟨⟨5000, 1024, some ⟨1⟩⟩, ⟨1⟩, none, {}⟩ := by decide
  exact ⟨there, notices_handed_out there shift, by decide, by decide⟩

end Network

end HlaCoordination
