import HlaCoordination.Proofs.Federation.Sessions
import Mathlib.Logic.Function.Basic

/-! Request workers of one federation. Every session has at most one request outstanding, and a
worker of its own serves it: first the update, in one piece, then the notices, one at a time, then
the answer. Between any two of these turns other workers may have theirs, so notices of one update
may be overtaken by those of a later one. Turns are listed newest first. -/
namespace HlaCoordination.Federation

open Std History

/-- A notice, with the round of its label: how often the label had been registered by then. -/
structure Note where
  notice : Notice
  round : Nat
  deriving DecidableEq

structure Posting where
  session : SessionId
  note : Note
  deriving DecidableEq

inductive Work where
  | idle
  | asked (a : Action)
  | telling (postings : List Posting)

/-- The updates made so far, what every session's worker is at, the notes each queue has taken, in
that order, and the queues that are closed. An open queue has room for every note. -/
structure Workers where
  run : List Action := []
  work : SessionId → Work := fun _ => .idle
  queue : SessionId → List Note := fun _ => []
  closed : SessionId → Bool := fun _ => false

inductive WorkerTurn where
  | submit (s : SessionId) (a : Action)
  | update (s : SessionId)
  | post (s : SessionId)
  | answer (s : SessionId)
  | close (s : SessionId)

def noticeLabel : Notice → String
  | .announced _ label _ | .synchronized _ label => label
  | .reflected .. | .disconnected _ => ""

def postings (past : History) (deliveries : List Delivery) : List Posting :=
  deliveries.flatMap fun d =>
    d.sessions.map fun id => ⟨id, ⟨d.notice, roundOf (noticeLabel d.notice) past⟩⟩

variable {c : Constants} {label : String} {tag : Octets} {k : Nat} {s s' id : SessionId}

def called (c : Constants) (label : String) (tag : Octets) (k : Nat) : Note :=
  ⟨.announced c.handle label tag, k⟩

def reported (c : Constants) (label : String) (k : Nat) : Note := ⟨.synchronized c.handle label, k⟩

theorem noticeLabel_notice (e : SyncEvent) : noticeLabel (notice c.handle e) = e.label := by
  cases e <;> rfl

theorem mem_sessionsAt {past : History} {recipients : HandleSet} :
    id ∈ sessionsAt past recipients ↔
      ∃ h ∈ recipients, ∃ m, federate? h past = some m ∧ m.session = some id := by
  simp only [sessionsAt, List.mem_filterMap, ExtTreeSet.mem_toList, Option.bind_eq_some_iff]

section Postings

variable {run : List Action} {a : Action} (few : joins (c.initial.history (a :: run)) < 2 ^ 32)
include few

theorem mem_postings_iff {n : Note} :
    ⟨id, n⟩ ∈ postings (c.initial.history (a :: run)) ((c.initial.after run).act a).deliveries ↔
      ∃ e ∈ ((c.initial.after run).act a).events,
        n = ⟨notice c.handle e, roundOf e.label (c.initial.history (a :: run))⟩ ∧
        ∃ h ∈ e.recipients, ∃ m, federate? h (c.initial.history (a :: run)) = some m ∧
          m.session = some id := by
  have reflects := after_reflects c (a :: run) few
  have addressed (e : SyncEvent) : ((c.initial.after run).act a).federation.delivery e =
      ⟨notice c.handle e, sessionsAt (c.initial.history (a :: run)) e.recipients⟩ :=
    reflects.delivery_eq e
  simp only [act_deliveries, deliveries, postings, List.mem_flatMap, List.mem_map, addressed,
    exists_exists_and_eq_and, Posting.mk.injEq, noticeLabel_notice, ← mem_sessionsAt]
  constructor
  · rintro ⟨e, told, id', among, rfl, rfl⟩
    exact ⟨e, told, rfl, among⟩
  · rintro ⟨e, told, rfl, among⟩
    exact ⟨e, told, id, among, rfl, rfl⟩

theorem called_mem_postings_iff :
    ⟨id, called c label tag k⟩ ∈
        postings (c.initial.history (a :: run)) ((c.initial.after run).act a).deliveries ↔
      k = roundOf label (c.initial.history (a :: run)) ∧ ∃ recipients,
        .announced label tag recipients ∈
          ((c.initial.after run).act a).events.filter (·.label = label) ∧
        ∃ h ∈ recipients, ∃ m, federate? h (c.initial.history (a :: run)) = some m ∧
          m.session = some id := by
  rw [mem_postings_iff few]
  constructor
  · rintro ⟨e, told, same, recipient⟩
    cases e with
    | announced l tag' recipients =>
      cases same
      exact ⟨rfl, recipients, mem_filter_label told, recipient⟩
    | synchronized => cases same
  · rintro ⟨rfl, recipients, told, recipient⟩
    exact ⟨_, List.mem_of_mem_filter told, rfl, recipient⟩

theorem reported_mem_postings_iff :
    ⟨id, reported c label k⟩ ∈
        postings (c.initial.history (a :: run)) ((c.initial.after run).act a).deliveries ↔
      k = roundOf label (c.initial.history (a :: run)) ∧ ∃ recipients,
        .synchronized label recipients ∈
          ((c.initial.after run).act a).events.filter (·.label = label) ∧
        ∃ h ∈ recipients, ∃ m, federate? h (c.initial.history (a :: run)) = some m ∧
          m.session = some id := by
  rw [mem_postings_iff few]
  constructor
  · rintro ⟨e, told, same, recipient⟩
    cases e with
    | synchronized l recipients =>
      cases same
      exact ⟨rfl, recipients, mem_filter_label told, recipient⟩
    | announced => cases same
  · rintro ⟨rfl, recipients, told, recipient⟩
    exact ⟨_, List.mem_of_mem_filter told, rfl, recipient⟩

end Postings

namespace Workers

def past (c : Constants) (w : Workers) : History := c.initial.history w.run

def assign (w : Workers) (s : SessionId) (v : Work) : Workers :=
  { w with work := Function.update w.work s v }

def push (w : Workers) (id : SessionId) (n : Note) : Workers :=
  if w.closed id then w else { w with queue := Function.update w.queue id (w.queue id ++ [n]) }

def step (c : Constants) (w : Workers) : WorkerTurn → Workers
  | .submit s a =>
    match w.work s with
    | .idle => if speaksFor s (w.past c) a then w.assign s (.asked a) else w
    | .asked _ | .telling _ => w
  | .update s =>
    match w.work s with
    | .asked a =>
      { w with run := a :: w.run }.assign s <| .telling <|
        postings (c.initial.history (a :: w.run)) ((c.initial.after w.run).act a).deliveries
    | .idle | .telling _ => w
  | .post s =>
    match w.work s with
    | .telling (e :: rest) => (w.push e.session e.note).assign s (.telling rest)
    | .idle | .asked _ | .telling [] => w
  | .answer s =>
    match w.work s with
    | .telling [] => w.assign s .idle
    | .idle | .asked _ | .telling (_ :: _) => w
  | .close s => { w with closed := Function.update w.closed s true }

def after (c : Constants) : List WorkerTurn → Workers
  | [] => {}
  | turn :: earlier => (after c earlier).step c turn

/-- The worker of `s` has yet to put this note into the queue of `id`. -/
def Telling (w : Workers) (s id : SessionId) (n : Note) : Prop :=
  ∃ postings, w.work s = .telling postings ∧ ⟨id, n⟩ ∈ postings

def AllTold (c : Constants) (w : Workers) (id : SessionId) (label : String) (k : Nat) : Prop :=
  ∀ s tag, ¬ w.Telling s id (called c label tag k)

/-- What any turn but an update does: it takes no note up that was not being told, and none gets
lost as long as the queue it is meant for is open. -/
structure Carried (c : Constants) (w w' : Workers) : Prop where
  run : w'.run = w.run
  asked : ∀ s a, w'.work s = .asked a → w.work s = .asked a ∨ speaksFor s (w.past c) a = true
  telling : ∀ s id n, w'.Telling s id n → w.Telling s id n
  closed : ∀ id, w'.closed id = false → w.closed id = false
  queue : ∀ id, w'.queue id = w.queue id ∨
    ∃ s n, w.Telling s id n ∧ w.closed id = false ∧ w'.queue id = w.queue id ++ [n]
  kept : ∀ s id n, w.Telling s id n → w'.closed id = false →
    w'.Telling s id n ∨ n ∈ w'.queue id

structure Updated (c : Constants) (w w' : Workers) (s : SessionId) (a : Action) : Prop where
  due : w.work s = .asked a
  run : w'.run = a :: w.run
  asked : ∀ s' b, w'.work s' = .asked b → w.work s' = .asked b
  telling : ∀ s' id n, w'.Telling s' id n ↔
    s' ≠ s ∧ w.Telling s' id n ∨ s' = s ∧ ⟨id, n⟩ ∈
      postings (c.initial.history (a :: w.run)) ((c.initial.after w.run).act a).deliveries
  queue : w'.queue = w.queue
  closed : w'.closed = w.closed

section Step

variable {c : Constants} {w : Workers} {s s' id : SessionId} {v : Work} {n : Note}

theorem work_assign : (w.assign s v).work s' = if s' = s then v else w.work s' :=
  Function.update_apply w.work s v s'

theorem push_work (w : Workers) (id : SessionId) (n : Note) : (w.push id n).work = w.work := by
  unfold push
  split <;> rfl

theorem push_closed (w : Workers) (id : SessionId) (n : Note) :
    (w.push id n).closed = w.closed := by
  unfold push
  split <;> rfl

theorem push_run (w : Workers) (id : SessionId) (n : Note) : (w.push id n).run = w.run := by
  unfold push
  split <;> rfl

theorem queue_push (w : Workers) (id id' : SessionId) (n : Note) :
    (w.push id n).queue id' =
      if id' = id ∧ w.closed id = false then w.queue id ++ [n] else w.queue id' := by
  unfold push
  by_cases shut : w.closed id = true
  · simp [shut]
  · by_cases here : id' = id <;> simp [shut, here]

theorem telling_assign : (w.assign s v).Telling s' id n ↔
    s' ≠ s ∧ w.Telling s' id n ∨
      s' = s ∧ ∃ postings, v = .telling postings ∧ ⟨id, n⟩ ∈ postings := by
  unfold Telling
  rw [work_assign]
  by_cases same : s' = s <;> simp [same]

theorem Carried.past {w' : Workers} (carried : Carried c w w') : w'.past c = w.past c := by
  rw [Workers.past, Workers.past, carried.run]

theorem Carried.mem_queue {w' : Workers} (carried : Carried c w w') (taken : n ∈ w.queue id) :
    n ∈ w'.queue id := by
  rcases carried.queue id with still | ⟨s, m, -, -, more⟩
  · rwa [still]
  · rw [more]
    exact List.mem_append_left _ taken

theorem Carried.allTold {w' : Workers} {label : String} {k : Nat} (carried : Carried c w w')
    (told : w.AllTold c id label k) : w'.AllTold c id label k := by
  intro s tag telling
  exact told s tag (carried.telling s id _ telling)

theorem Carried.refl (c : Constants) (w : Workers) : Carried c w w where
  run := rfl
  asked := fun _ _ asked => Or.inl asked
  telling := fun _ _ _ told => told
  closed := fun _ unclosed => unclosed
  queue := fun _ => Or.inl rfl
  kept := fun _ _ _ told _ => Or.inl told

theorem carried_assign (before : ∀ e rest, w.work s ≠ .telling (e :: rest))
    (after : ∀ postings, v ≠ .telling postings)
    (entitled : ∀ a, v = .asked a → speaksFor s (w.past c) a = true) :
    Carried c w (w.assign s v) where
  run := rfl
  asked := by
    intro s' a asked
    rw [work_assign] at asked
    split at asked
    case isTrue same => exact Or.inr (same ▸ entitled a asked)
    case isFalse => exact Or.inl asked
  telling := by
    intro s' id n told
    rcases telling_assign.mp told with ⟨-, told⟩ | ⟨-, postings, due, -⟩
    · exact told
    · exact absurd due (after postings)
  closed := fun _ unclosed => unclosed
  queue := fun _ => Or.inl rfl
  kept := by
    rintro s' id n ⟨postings, due, among⟩ -
    refine Or.inl (telling_assign.mpr (Or.inl ⟨?_, postings, due, among⟩))
    rintro rfl
    cases postings with
    | nil => cases among
    | cons e rest => exact before e rest due

theorem carried_post {e : Posting} {rest : List Posting} (due : w.work s = .telling (e :: rest)) :
    Carried c w ((w.push e.session e.note).assign s (.telling rest)) where
  run := push_run w e.session e.note
  asked := by
    intro s' a asked
    rw [work_assign, push_work] at asked
    split at asked
    · cases asked
    · exact Or.inl asked
  telling := by
    intro s' id n told
    rcases telling_assign.mp told with ⟨-, told⟩ | ⟨rfl, _, ⟨⟩, among⟩
    · simpa only [Telling, push_work] using told
    · exact ⟨_, due, List.mem_cons_of_mem e among⟩
  closed := by
    intro id unclosed
    rwa [assign, push_closed] at unclosed
  queue := by
    intro id
    have posted : ((w.push e.session e.note).assign s (.telling rest)).queue id =
        if id = e.session ∧ w.closed e.session = false then w.queue e.session ++ [e.note]
        else w.queue id := queue_push w e.session id e.note
    rw [posted]
    split
    case isTrue here =>
      obtain ⟨rfl, unclosed⟩ := here
      exact Or.inr ⟨s, e.note, ⟨_, due, List.mem_cons_self⟩, unclosed, rfl⟩
    case isFalse => exact Or.inl rfl
  kept := by
    rintro s' id n ⟨postings, telling, among⟩ unclosed
    rw [assign, push_closed] at unclosed
    by_cases same : s' = s
    · subst same
      cases due.symm.trans telling
      rcases List.mem_cons.mp among with rfl | later
      · refine Or.inr ?_
        have posted := queue_push w id id n
        rw [if_pos ⟨rfl, unclosed⟩] at posted
        rw [assign, posted]
        exact List.mem_append_right _ List.mem_cons_self
      · exact Or.inl (telling_assign.mpr (Or.inr ⟨rfl, rest, rfl, later⟩))
    · refine Or.inl (telling_assign.mpr (Or.inl ⟨same, postings, ?_, among⟩))
      rw [push_work, telling]

theorem carried_close (c : Constants) (w : Workers) (s : SessionId) :
    Carried c w { w with closed := Function.update w.closed s true } where
  run := rfl
  asked := fun _ _ asked => Or.inl asked
  telling := fun _ _ _ told => told
  closed := by
    intro id unclosed
    have now : (if id = s then true else w.closed id) = false :=
      (Function.update_apply w.closed s true id).symm.trans unclosed
    split at now
    · cases now
    · exact now
  queue := fun _ => Or.inl rfl
  kept := fun _ _ _ told _ => Or.inl told

theorem updated {a : Action} (due : w.work s = .asked a) :
    Updated c w ({ w with run := a :: w.run }.assign s <| .telling <|
      postings (c.initial.history (a :: w.run))
        ((c.initial.after w.run).act a).deliveries) s a where
  due := due
  run := rfl
  asked := by
    intro s' b asked
    rw [work_assign] at asked
    split at asked
    · cases asked
    · exact asked
  telling := by
    intro s' id n
    rw [telling_assign]
    simp [Telling]
  queue := rfl
  closed := rfl

end Step

theorem step_cases (c : Constants) (w : Workers) (turn : WorkerTurn) :
    Carried c w (w.step c turn) ∨ ∃ s a, turn = .update s ∧ Updated c w (w.step c turn) s a := by
  cases turn with
  | submit s a =>
    refine Or.inl ?_
    cases stage : w.work s with
    | idle =>
      by_cases entitled : speaksFor s (w.past c) a = true
      · simp only [step, stage, entitled, if_true]
        refine carried_assign (by simp [stage]) nofun ?_
        rintro _ ⟨⟩
        exact entitled
      · simpa only [step, stage, entitled, Bool.false_eq_true, if_false] using Carried.refl c w
    | asked | telling => simpa only [step, stage] using Carried.refl c w
  | update s =>
    cases stage : w.work s with
    | asked a =>
      refine Or.inr ⟨s, a, rfl, ?_⟩
      simpa only [step, stage] using updated stage
    | idle | telling => exact Or.inl (by simpa only [step, stage] using Carried.refl c w)
  | post s =>
    refine Or.inl ?_
    cases stage : w.work s with
    | telling postings =>
      cases postings with
      | nil => simpa only [step, stage] using Carried.refl c w
      | cons e rest => simpa only [step, stage] using carried_post stage
    | idle | asked => simpa only [step, stage] using Carried.refl c w
  | answer s =>
    refine Or.inl ?_
    cases stage : w.work s with
    | telling postings =>
      cases postings with
      | nil =>
        simp only [step, stage]
        exact carried_assign (by simp [stage]) nofun nofun
      | cons e rest => simpa only [step, stage] using Carried.refl c w
    | idle | asked => simpa only [step, stage] using Carried.refl c w
  | close s => exact Or.inl (carried_close c w s)

end Workers

end HlaCoordination.Federation
