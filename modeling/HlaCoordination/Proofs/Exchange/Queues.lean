import HlaCoordination.Proofs.Exchange

/-! The queues of an exchange. Sessions attach, each with a capacity of its own, notices are
delivered to lists of recipients, and sessions poll and are detached, in any order. From the records
that a run leaves it can be told what a session has obtained and what still waits for it: a queue
loses a notice only when it is full, and nobody else's queue matters to it. Runs and records are
listed newest first. -/
namespace HlaCoordination.Exchange

open Std

/-- A notice that is offered to one recipient, and how it finds things there. -/
structure Offer where
  recipient : SessionId
  notice : Notice
  attached : Bool
  room : Bool
  deriving DecidableEq

def Offer.taken (o : Offer) : Bool := o.attached && o.room

def offerTo (x : Exchange) (notice : Notice) (id : SessionId) : Offer :=
  ⟨id, notice, x.attached.contains id, (x.mailbox id).hasRoom⟩

/-- The offers that a delivery consists of, each as the ones before have left the exchange. -/
def offers (x : Exchange) (notice : Notice) : List SessionId → List Offer
  | [] => []
  | id :: rest => x.offerTo notice id :: (x.deliverTo notice id).2.offers notice rest

inductive Dealing where
  | attach (capacity : Nat)
  | deliver (notice : Notice) (recipients : List SessionId)
  | poll (session : SessionId)
  | detach (session : SessionId)
  deriving DecidableEq

inductive Record where
  | attached (session : SessionId) (capacity : Nat)
  | offered (offer : Offer)
  | polled (session : SessionId) (notice : Option Notice)
  | detached (session : SessionId)
  deriving DecidableEq

def Record.session : Record → SessionId
  | .attached session _ | .polled session _ | .detached session => session
  | .offered o => o.recipient

/-- A session can only attach while there is an authority. -/
def deal (x : Exchange) : Dealing → List Record × Exchange
  | .attach capacity =>
    match x.attachSession capacity with
    | .ok (id, x') => ([.attached id capacity], x')
    | .error _ => ([], x)
  | .deliver notice recipients =>
    (((x.offers notice recipients).map .offered).reverse, (x.deliver notice recipients).2)
  | .poll id =>
    let (notice, x') := x.take id
    ([.polled id notice], x')
  | .detach id => ([.detached id], x.detachSession id)

def dealt (x : Exchange) : List Dealing → Exchange
  | [] => x
  | d :: earlier => ((x.dealt earlier).deal d).2

def records (x : Exchange) : List Dealing → List Record
  | [] => []
  | d :: earlier => ((x.dealt earlier).deal d).1 ++ x.records earlier

section Histories

variable (id : SessionId)

/-- The session has attached and not been detached since. -/
def present : List Record → Bool
  | [] => false
  | .attached session _ :: past => session = id || present past
  | .detached session :: past => session ≠ id && present past
  | .offered _ :: past | .polled .. :: past => present past

def granted : List Record → Nat
  | [] => 0
  | .attached session capacity :: past => if session = id then capacity else granted past
  | .offered _ :: past | .polled .. :: past | .detached _ :: past => granted past

/-- What was addressed to the session while it was attached, in order. -/
def addressed : List Record → List Offer
  | [] => []
  | .attached session _ :: past => if session = id then [] else addressed past
  | .offered o :: past =>
    if o.recipient = id ∧ present id past then addressed past ++ [o] else addressed past
  | .polled .. :: past | .detached _ :: past => addressed past

def obtained : List Record → List Notice
  | [] => []
  | .attached session _ :: past => if session = id then [] else obtained past
  | .polled session notice :: past =>
    if session = id then obtained past ++ notice.toList else obtained past
  | .offered _ :: past | .detached _ :: past => obtained past

end Histories

inductive Experience where
  | attached (capacity : Nat)
  | addressed (notice : Notice)
  | polled
  | detached
  deriving DecidableEq

/-- What has befallen a session since it attached. Who else was addressed is not part of it. -/
def experience (id : SessionId) : List Record → List Experience
  | [] => []
  | .attached session capacity :: past =>
    if session = id then [.attached capacity] else experience id past
  | .offered o :: past =>
    if o.recipient = id then .addressed o.notice :: experience id past else experience id past
  | .polled session _ :: past =>
    if session = id then .polled :: experience id past else experience id past
  | .detached session :: past =>
    if session = id then .detached :: experience id past else experience id past

/-- A session by itself: its queue, and what it has taken out of it. -/
structure SessionView where
  attached : Bool := false
  mailbox : Mailbox := { capacity := 0 }
  obtained : List Notice := []
  deriving DecidableEq

def SessionView.after : List Experience → SessionView
  | [] => {}
  | .attached capacity :: _ => { attached := true, mailbox := { capacity } }
  | .addressed notice :: past =>
    let l := after past
    if l.attached then { l with mailbox := l.mailbox.offer notice } else l
  | .polled :: past =>
    let l := after past
    { l with mailbox := l.mailbox.next.2, obtained := l.obtained ++ l.mailbox.next.1.toList }
  | .detached :: past => { after past with attached := false }

def sessionView (x : Exchange) (past : List Record) (id : SessionId) : SessionView :=
  ⟨x.attached.contains id, x.mailbox id, obtained id past⟩

variable {x : Exchange} {past : List Record} {notice : Notice}

theorem length_offer_le {m : Mailbox} (within : m.notices.length ≤ m.capacity) (notice : Notice) :
    (m.offer notice).notices.length ≤ (m.offer notice).capacity := by
  unfold Mailbox.offer
  split
  · rename_i room
    rw [Mailbox.hasRoom, decide_eq_true_eq] at room
    rw [List.length_append]
    exact room
  · exact within

theorem capacity_offer (m : Mailbox) (notice : Notice) :
    (m.offer notice).capacity = m.capacity := by
  unfold Mailbox.offer
  split <;> rfl

theorem next_fst (m : Mailbox) : m.next.1 = m.notices.head? := by
  obtain ⟨capacity, notices⟩ := m
  cases notices <;> rfl

theorem notices_next (m : Mailbox) : m.next.2.notices = m.notices.tail := by
  obtain ⟨capacity, notices⟩ := m
  cases notices <;> rfl

theorem next_append (m : Mailbox) : m.next.1.toList ++ m.next.2.notices = m.notices := by
  obtain ⟨capacity, notices⟩ := m
  cases notices <;> rfl

theorem capacity_next (m : Mailbox) : m.next.2.capacity = m.capacity := by
  obtain ⟨capacity, notices⟩ := m
  cases notices <;> rfl

theorem length_next_le {m : Mailbox} (within : m.notices.length ≤ m.capacity) :
    m.next.2.notices.length ≤ m.next.2.capacity := by
  obtain ⟨capacity, notices⟩ := m
  cases notices with
  | nil => exact within
  | cons first rest => exact Nat.le_of_succ_le within

theorem take_fst (x : Exchange) (id : SessionId) : (x.take id).1 = (x.mailbox id).next.1 := by
  unfold take
  split <;> simp_all

theorem mailbox_take (x : Exchange) (id id' : SessionId) :
    (x.take id).2.mailbox id' =
      if id = id' then (x.mailbox id').next.2 else x.mailbox id' := by
  unfold take
  split
  · rename_i nothing
    have empty : (x.mailbox id).notices = [] := by
      unfold Mailbox.next at nothing
      split at nothing
      · assumption
      · cases nothing
    split
    · subst id'
      simp [Mailbox.next, empty]
    · rfl
  · rename_i some_notice
    rw [mailbox_insert]
    split
    · subst id'
      rw [some_notice]
    · rfl

theorem attached_take (x : Exchange) (id : SessionId) : (x.take id).2.attached = x.attached := by
  unfold take
  split <;> rfl

theorem attached_deliverTo (x : Exchange) (notice : Notice) (id : SessionId) :
    (x.deliverTo notice id).2.attached = x.attached := by
  unfold deliverTo
  split <;> rfl

theorem mailbox_deliverTo (x : Exchange) (notice : Notice) (id id' : SessionId) :
    (x.deliverTo notice id).2.mailbox id' =
      if id = id' ∧ x.attached.contains id' = true then (x.mailbox id').offer notice
      else x.mailbox id' := by
  unfold deliverTo
  split
  · rename_i accepts
    obtain ⟨attached, room⟩ := Bool.and_eq_true_iff.mp accepts
    rw [mailbox_insert]
    by_cases here : id = id'
    · subst id'
      simp [attached]
    · simp [here]
  · rename_i refuses
    split
    · rename_i here
      obtain ⟨rfl, attached⟩ := here
      have full : ¬ (x.mailbox id).hasRoom = true := by simpa [attached] using refuses
      rw [Mailbox.offer, if_neg full]
    · rfl

theorem deliver_fst (x : Exchange) (notice : Notice) (recipients : List SessionId) :
    (x.deliver notice recipients).1 = ((x.offers notice recipients).filter Offer.taken).length := by
  induction recipients generalizing x with
  | nil => rfl
  | cons id rest ih =>
    have taken : (x.deliverTo notice id).1 = (x.offerTo notice id).taken := by
      unfold deliverTo
      split <;> simp_all [offerTo, Offer.taken]
    simp only [deliver, offers, ih, taken]
    cases h : (x.offerTo notice id).taken <;> simp [h, Nat.add_comm]

def takenBy (id : SessionId) (os : List Offer) : List Notice :=
  (os.filter fun o => o.recipient = id ∧ o.taken = true).map Offer.notice

theorem notices_deliverTo (x : Exchange) (notice : Notice) (recipient id : SessionId) :
    ((x.deliverTo notice recipient).2.mailbox id).notices =
      (x.mailbox id).notices ++ takenBy id [x.offerTo notice recipient] := by
  rw [mailbox_deliverTo]
  by_cases here : recipient = id
  · subst recipient
    cases attached : x.attached.contains id with
    | true =>
      cases room : (x.mailbox id).hasRoom with
      | true => simp [offer_of_room room, takenBy, offerTo, Offer.taken, attached, room]
      | false => simp [Mailbox.offer, takenBy, offerTo, Offer.taken, attached, room]
    | false => simp [takenBy, offerTo, Offer.taken, attached]
  · simp [takenBy, offerTo, here]

theorem notices_deliver (x : Exchange) (notice : Notice) (recipients : List SessionId)
    (id : SessionId) :
    ((x.deliver notice recipients).2.mailbox id).notices =
      (x.mailbox id).notices ++ takenBy id (x.offers notice recipients) := by
  induction recipients generalizing x with
  | nil => simp [deliver, offers, takenBy]
  | cons first rest ih =>
    calc ((x.deliver notice (first :: rest)).2.mailbox id).notices
        = (((x.deliverTo notice first).2.deliver notice rest).2.mailbox id).notices := rfl
      _ = (x.mailbox id).notices ++ (takenBy id [x.offerTo notice first] ++
            takenBy id ((x.deliverTo notice first).2.offers notice rest)) := by
          rw [ih, notices_deliverTo, List.append_assoc]
      _ = (x.mailbox id).notices ++ takenBy id (x.offers notice (first :: rest)) := by
          rw [takenBy, takenBy, ← List.map_append, ← List.filter_append]
          rfl

theorem elsewhere {r : Record} {id : SessionId} (other : r.session ≠ id) (past : List Record) :
    present id (r :: past) = present id past ∧ granted id (r :: past) = granted id past ∧
      addressed id (r :: past) = addressed id past ∧ obtained id (r :: past) = obtained id past ∧
      experience id (r :: past) = experience id past := by
  cases r <;>
    simp_all [Record.session, present, granted, addressed, obtained, experience]

/-- What the records of a run say of one session and its queue. -/
structure Kept (x : Exchange) (past : List Record) (id : SessionId) : Prop where
  present : x.attached.contains id = present id past
  granted : (x.mailbox id).capacity = granted id past
  within : (x.mailbox id).notices.length ≤ (x.mailbox id).capacity
  order : obtained id past ++ (x.mailbox id).notices =
    ((addressed id past).filter Offer.room).map Offer.notice
  alone : x.sessionView past id = .after (experience id past)

namespace Kept

variable {x' : Exchange} {id : SessionId}

theorem other (h : Kept x past id) {r : Record} (other : r.session ≠ id)
    (mailbox : x'.mailbox id = x.mailbox id)
    (attached : x'.attached.contains id = x.attached.contains id) : Kept x' (r :: past) id := by
  obtain ⟨present, granted, addressed, obtained, experience⟩ := elsewhere other past
  constructor
  · rw [attached, present, h.present]
  · rw [mailbox, granted, h.granted]
  · rw [mailbox]
    exact h.within
  · rw [mailbox, obtained, addressed, h.order]
  · rw [experience, ← h.alone, sessionView, sessionView, mailbox, attached, obtained]

theorem attach (h : Kept x past id) {capacity : Nat} {newcomer : SessionId}
    (ok : x.attachSession capacity = .ok (newcomer, x')) :
    Kept x' (.attached newcomer capacity :: past) id := by
  obtain ⟨-, -, rfl⟩ := attachSession_eq_ok_iff.mp ok
  have mailbox := x.mailbox_insert newcomer id { capacity }
  by_cases here : newcomer = id
  · subst newcomer
    rw [if_pos rfl] at mailbox
    have opened : Exchange.mailbox { x with
        counter := ⟨x.counter.issued + 1⟩
        attached := x.attached.insert id
        mailboxes := x.mailboxes.insert id { capacity } } id = { capacity } := mailbox
    constructor
    · simp [Exchange.present]
    · rw [opened]
      simp [Exchange.granted]
    · rw [opened]
      exact Nat.zero_le _
    · rw [opened]
      simp [obtained, addressed]
    · rw [sessionView, opened]
      simp [experience, SessionView.after, obtained]
  · apply h.other
    · exact here
    · exact mailbox.trans (if_neg here)
    · simp [here]

theorem poll (h : Kept x past id) (session : SessionId) :
    Kept (x.take session).2 (.polled session (x.take session).1 :: past) id := by
  have mailbox := x.mailbox_take session id
  by_cases here : session = id
  · subst session
    rw [if_pos rfl] at mailbox
    have recorded : obtained id (.polled id (x.take id).1 :: past) =
        obtained id past ++ (x.mailbox id).next.1.toList := by
      simp only [obtained, if_true, take_fst]
    constructor
    · rw [attached_take]
      exact h.present
    · rw [mailbox, capacity_next]
      exact h.granted
    · rw [mailbox]
      exact length_next_le h.within
    · rw [mailbox, recorded, List.append_assoc, next_append]
      exact h.order
    · rw [sessionView, attached_take, mailbox, recorded]
      simp only [experience, if_true, SessionView.after, ← h.alone]
      rfl
  · apply h.other
    · exact here
    · rw [mailbox, if_neg here]
    · rw [attached_take]

theorem detach (h : Kept x past id) (session : SessionId) :
    Kept (x.detachSession session) (.detached session :: past) id := by
  by_cases here : session = id
  · subst session
    have gone : (x.detachSession id).attached.contains id = false := by simp [detachSession]
    constructor
    · rw [gone]
      simp [Exchange.present]
    · exact h.granted
    · exact h.within
    · exact h.order
    · rw [sessionView, gone]
      simp only [experience, if_true, SessionView.after, ← h.alone]
      rfl
  · apply h.other
    · exact here
    · rfl
    · simp [detachSession, here]

theorem offer_attached (h : Kept x past id) (notice : Notice)
    (attached : x.attached.contains id = true) :
    Kept (x.deliverTo notice id).2 (.offered (x.offerTo notice id) :: past) id := by
  have mailbox : (x.deliverTo notice id).2.mailbox id = (x.mailbox id).offer notice := by
    rw [mailbox_deliverTo, if_pos ⟨rfl, attached⟩]
  have here : Exchange.present id past = true := h.present.symm.trans attached
  have told : addressed id (.offered (x.offerTo notice id) :: past) =
      addressed id past ++ [x.offerTo notice id] := if_pos ⟨rfl, here⟩
  constructor
  · rw [attached_deliverTo]
    exact h.present
  · rw [mailbox, capacity_offer]
    exact h.granted
  · rw [mailbox]
    exact length_offer_le h.within notice
  · rw [mailbox, told, List.filter_append, List.map_append, ← h.order]
    cases room : (x.mailbox id).hasRoom with
    | true => simp [obtained, offer_of_room room, offerTo, room]
    | false => simp [obtained, Mailbox.offer, offerTo, room]
  · rw [sessionView, attached_deliverTo, mailbox]
    simp only [experience, offerTo, if_true, SessionView.after, ← h.alone, sessionView, attached]
    rfl

theorem offer_absent (h : Kept x past id) (notice : Notice)
    (absent : x.attached.contains id = false) :
    Kept (x.deliverTo notice id).2 (.offered (x.offerTo notice id) :: past) id := by
  have refused : (x.deliverTo notice id).2 = x := by
    simp only [deliverTo, absent, Bool.false_and, Bool.false_eq_true, if_false]
  have untold : addressed id (.offered (x.offerTo notice id) :: past) = addressed id past := by
    refine if_neg ?_
    rw [← h.present, absent]
    simp
  rw [refused]
  constructor
  · exact h.present
  · exact h.granted
  · exact h.within
  · rw [untold]
    exact h.order
  · simp only [experience, offerTo, if_true, SessionView.after, ← h.alone, sessionView, absent]
    rfl

theorem offer (h : Kept x past id) (notice : Notice) (recipient : SessionId) :
    Kept (x.deliverTo notice recipient).2 (.offered (x.offerTo notice recipient) :: past) id := by
  by_cases here : recipient = id
  · subst recipient
    cases attached : x.attached.contains id with
    | true => exact h.offer_attached notice attached
    | false => exact h.offer_absent notice attached
  · apply h.other
    · exact here
    · rw [mailbox_deliverTo, if_neg fun both => here both.1]
    · rw [attached_deliverTo]

theorem deliver (h : Kept x past id) (notice : Notice) (recipients : List SessionId) :
    Kept (x.deliver notice recipients).2
      (((x.offers notice recipients).map .offered).reverse ++ past) id := by
  induction recipients generalizing x past with
  | nil => exact h
  | cons first rest ih =>
    have later := ih (h.offer notice first)
    simp only [offers, List.map_cons, List.reverse_cons, List.append_assoc, List.singleton_append]
    exact later

theorem deal (h : Kept x past id) (d : Dealing) :
    Kept (x.deal d).2 ((x.deal d).1 ++ past) id := by
  cases d with
  | attach capacity =>
    simp only [Exchange.deal]
    split
    · exact h.attach ‹_›
    · exact h
  | deliver notice recipients => exact h.deliver notice recipients
  | poll session => exact h.poll session
  | detach session => exact h.detach session

end Kept

theorem kept_dealt (authority : Option Attachment) (run : List Dealing) (id : SessionId) :
    Kept (dealt { authority } run) (records { authority } run) id := by
  induction run with
  | nil =>
    constructor
    · rfl
    · rfl
    · exact Nat.zero_le _
    · rfl
    · rfl
  | cons d earlier ih => exact ih.deal d

structure Conserved (authority : Option Attachment) (run : List Dealing) : Prop where
  attached : ∀ id, id ∈ (dealt { authority } run).attached ↔
    present id (records { authority } run) = true
  within : ∀ id, ((dealt { authority } run).mailbox id).notices.length ≤
    granted id (records { authority } run)
  /-- What a session has polled, and then what is queued for it, is what was addressed to it while
  it was attached, but for what found its queue full. -/
  order : ∀ id,
    obtained id (records { authority } run) ++ ((dealt { authority } run).mailbox id).notices =
      ((addressed id (records { authority } run)).filter Offer.room).map Offer.notice
  polled : ∀ id, ((dealt { authority } run).take id).1 =
      ((dealt { authority } run).mailbox id).notices.head? ∧
    ∀ id', (((dealt { authority } run).take id).2.mailbox id').notices =
      if id = id' then ((dealt { authority } run).mailbox id').notices.tail
      else ((dealt { authority } run).mailbox id').notices
  counted : ∀ notice recipients, ((dealt { authority } run).deliver notice recipients).1 =
    (((dealt { authority } run).offers notice recipients).filter Offer.taken).length
  /-- Whatever run a session is part of, what befalls it decides what it receives. -/
  alone : ∀ (authority' : Option Attachment) (run' : List Dealing) (id id' : SessionId),
    experience id (records { authority } run) =
        experience id' (records { authority := authority' } run') →
      obtained id (records { authority } run) =
          obtained id' (records { authority := authority' } run') ∧
        (dealt { authority } run).mailbox id =
          (dealt { authority := authority' } run').mailbox id'

/-- In every run, whoever is addressed, however often and whether known or not. -/
theorem notices_conserved (authority : Option Attachment) (run : List Dealing) :
    Conserved authority run := by
  have kept := kept_dealt authority run
  constructor
  · intro id
    rw [← ExtTreeSet.contains_iff_mem, (kept id).present]
  · intro id
    rw [← (kept id).granted]
    exact (kept id).within
  · intro id
    exact (kept id).order
  · intro id
    refine ⟨(take_fst _ id).trans (next_fst _), fun id' => ?_⟩
    rw [mailbox_take, apply_ite Mailbox.notices, notices_next]
  · intro notice recipients
    exact deliver_fst _ notice recipients
  · intro authority' run' id id' same
    have alike := (kept id).alone.trans
      ((congrArg SessionView.after same).trans (kept_dealt authority' run' id').alone.symm)
    exact ⟨congrArg SessionView.obtained alike, congrArg SessionView.mailbox alike⟩

/-- The second session is full, the ninth unknown, and the first named more often than it has
room. -/
example :
    let run : List Dealing :=
      [.deliver (.disconnected "b") [⟨2⟩, ⟨1⟩, ⟨9⟩, ⟨1⟩], .deliver (.disconnected "a") [⟨1⟩, ⟨2⟩],
        .attach 1, .attach 2]
    let x := dealt { authority := some ⟨"rti", 0⟩ } run
    (x.mailbox ⟨1⟩).notices = [.disconnected "a", .disconnected "b"] ∧
      (x.mailbox ⟨2⟩).notices = [.disconnected "a"] := by decide

end HlaCoordination.Exchange
