import HlaCoordination.Federation.Incoming
import HlaCoordination.Proofs.Federation.Run

/-! Who is admitted to a federation. Requests of any kind reach it, and it may be retired at any
time: requests that were on their way still reach it then. Runs are listed newest first. -/
namespace HlaCoordination.Federation

open Std

inductive Visit where
  | request (m : ControlMessage)
  | retire

def serve (f : Federation) (m : ControlMessage) : Response × Federation :=
  let (_, context, desk) := FederationDesk.incoming.process ⟨m, .pending⟩ ⟨f, []⟩
  (context.response, desk.federation)

def visit (f : Federation) : Visit → Federation
  | .request m => (f.serve m).2
  | .retire => f.retire.2

/-- The federate that a visit makes a member: it goes by the name it asked for, through the session
it came by, and under the handle it is told. -/
def admitted? (f : Federation) : Visit → Option Federate
  | .request m =>
    match m.request, (f.serve m).1 with
    | .joinFederation _ name, .success (.joined h _) => some ⟨name, h, m.origin⟩
    | _, _ => none
  | .retire => none

def visited (f : Federation) : List Visit → Federation
  | [] => f
  | v :: earlier => (f.visited earlier).visit v

def admitted (f : Federation) : List Visit → List Federate
  | [] => []
  | v :: earlier => ((f.visited earlier).admitted? v).toList ++ f.admitted earlier

variable {f g : Federation} {m : ControlMessage} {v : Visit} {federation name : String}

theorem nameInUse_eq_false_iff : f.nameInUse name = false ↔
    ∀ (h : FederateHandle) (e : Federate), f.federates[h]? = some e →
      foldCase e.name ≠ foldCase name := by
  unfold nameInUse
  rw [List.any_eq_false]
  constructor
  · intro free h e there same
    exact free e (mem_values_iff.mpr ⟨h, there⟩) (namesCollide_iff.mpr same)
  · intro free e listed collide
    obtain ⟨h, there⟩ := mem_values_iff.mp listed
    exact free h e there (namesCollide_iff.mp collide)

theorem serve_join (asked : m.request = .joinFederation federation name) (named : name ≠ "") :
    f.serve m = match f.join name m.origin with
      | (.ok (h, _), g) => (.success (.joined h g.handle), g)
      | (.error e, g) => (.failure e, g) := by
  obtain ⟨request, source, target, origin⟩ := m
  cases asked
  simp only [serve, Sink.process, FederationDesk.incoming, ControlMessage.messageType,
    MessageContext.messageType, Request.messageType, FederationDesk.joinFederation, named, if_false]
  obtain ⟨_ | _, g⟩ := f.join name origin <;> rfl

theorem serve_unnamed (asked : m.request = .joinFederation federation "") :
    f.serve m = (.failure (.internal .emptyFederateName), f) := by
  obtain ⟨request, source, target, origin⟩ := m
  cases asked
  rfl

theorem serve_resign {h : FederateHandle} (asked : m.request = .resignFederation federation h) :
    f.serve m = (.success .empty, (f.resign h).2) := by
  obtain ⟨request, source, target, origin⟩ := m
  cases asked
  rfl

inductive VisitEffect (f : Federation) : Option Federate → Federation → Prop where
  | kept : VisitEffect f none f
  | admitted (name : String) (session : Option SessionId) (alive : f.destroyed = false)
      (free : f.nameInUse name = false) :
      VisitEffect f (some ⟨name, ⟨f.counter.issued + 1⟩, session⟩)
        { f with
          counter := ⟨f.counter.issued + 1⟩
          federates :=
            f.federates.insert ⟨f.counter.issued + 1⟩ ⟨name, ⟨f.counter.issued + 1⟩, session⟩ }
  | left (h : FederateHandle) (sync : SyncTable) (member : h ∈ f.federates) :
      VisitEffect f none { f with federates := f.federates.erase h, sync }
  | resynced (sync : SyncTable) : VisitEffect f none { f with sync }
  | retired (empty : f.isOccupied = false) : VisitEffect f none { f with destroyed := true }

theorem acknowledge_point (f : Federation) (h : FederateHandle)
    (work : SyncTable → Except RtiError (List SyncEvent) × SyncTable) :
    ∃ sync, ((FederationDesk.mk f []).acknowledge (f.workOnPoints h work)).2.federation =
      { f with sync } := by
  unfold workOnPoints
  cases f.requireMember h with
  | error e => exact ⟨f.sync, rfl⟩
  | ok member => obtain ⟨_ | _, sync⟩ := work f.sync <;> exact ⟨sync, rfl⟩

theorem serve_register {label : String} {tag : Octets} {targets : HandleSet}
    (asked : m.request = .registerSyncPoint label tag targets) :
    ∃ sync, (f.serve m).2 = { f with sync } := by
  obtain ⟨request, source, target, origin⟩ := m
  cases asked
  cases source with
  | none => exact ⟨f.sync, rfl⟩
  | some h => exact f.acknowledge_point h _

theorem serve_achieve {label : String} (asked : m.request = .achieveSyncPoint label) :
    ∃ sync, (f.serve m).2 = { f with sync } := by
  obtain ⟨request, source, target, origin⟩ := m
  cases asked
  cases source with
  | none => exact ⟨f.sync, rfl⟩
  | some h => exact f.acknowledge_point h _

theorem visit_effect (f : Federation) (v : Visit) : VisitEffect f (f.admitted? v) (f.visit v) := by
  cases v with
  | retire =>
    change VisitEffect f none f.retire.2
    unfold retire
    cases occupied : f.isOccupied with
    | true => exact .kept
    | false => exact .retired occupied
  | request m =>
    cases asked : m.request with
    | createFederation | destroyFederation | listFederations | ping =>
      obtain ⟨request, source, target, origin⟩ := m
      cases asked
      exact .kept
    | joinFederation federation name =>
      by_cases unnamed : name = ""
      · subst unnamed
        simp only [admitted?, visit, asked, serve_unnamed asked]
        exact .kept
      · simp only [admitted?, visit, asked, serve_join asked unnamed]
        rcases joined : f.join name m.origin with ⟨e | ⟨h, owed⟩, g⟩
        · obtain ⟨rfl, -⟩ := join_error joined
          exact .kept
        · obtain ⟨alive, free, rfl, rfl, -⟩ := join_eq_ok_iff.mp joined
          exact .admitted name m.origin alive free
    | resignFederation federation h =>
      simp only [admitted?, visit, asked, serve_resign asked]
      by_cases member : h ∈ f.federates
      · rw [resign_of_mem member]
        exact .left h _ member
      · rw [resign_of_not_mem member]
        exact .kept
    | registerSyncPoint label tag targets =>
      obtain ⟨sync, same⟩ := serve_register (f := f) asked
      simp only [admitted?, visit, asked, same]
      exact .resynced sync
    | achieveSyncPoint label =>
      obtain ⟨sync, same⟩ := serve_achieve (f := f) asked
      simp only [admitted?, visit, asked, same]
      exact .resynced sync

/-- Who has been admitted, and who of them is joined: handles and names tell the members apart. -/
structure Roll (f : Federation) (out : List Federate) : Prop where
  level : f.counter.issued.toNat = out.length
  numbered : Numbered (out.map (·.handle.value))
  listed : ∀ (h : FederateHandle) (e : Federate), f.federates[h]? = some e → e.handle = h ∧ e ∈ out
  apart : ∀ (h k : FederateHandle) (e d : Federate), f.federates[h]? = some e →
    f.federates[k]? = some d → foldCase e.name = foldCase d.name → h = k

theorem Roll.next {out : List Federate} (roll : Roll f out) (few : out.length + 1 < 2 ^ 32) :
    (f.counter.issued + 1).toNat = out.length + 1 := by
  rw [← roll.level] at few ⊢
  exact toNat_succ_of_lt few

theorem Roll.admit {out : List Federate} {h : FederateHandle} {session : Option SessionId}
    (roll : Roll f out) (next : h = ⟨f.counter.issued + 1⟩) (free : f.nameInUse name = false)
    (few : out.length + 1 < 2 ^ 32) :
    Roll
      { f with
        counter := ⟨f.counter.issued + 1⟩
        federates := f.federates.insert h ⟨name, h, session⟩ }
      (⟨name, h, session⟩ :: out) where
  level := roll.next few
  numbered := by
    refine roll.numbered.cons ?_
    rw [List.length_map, next]
    exact roll.next few
  listed := by
    intro k e there
    rcases getElem?_insert_eq_some_iff.mp there with ⟨rfl, rfl⟩ | ⟨-, old⟩
    · exact ⟨rfl, List.mem_cons_self⟩
    · obtain ⟨own, before⟩ := roll.listed k e old
      exact ⟨own, List.mem_cons_of_mem _ before⟩
  apart := by
    intro k l e d at_k at_l same
    have unused := nameInUse_eq_false_iff.mp free
    rcases getElem?_insert_eq_some_iff.mp at_k, getElem?_insert_eq_some_iff.mp at_l with
      ⟨⟨rfl, rfl⟩ | ⟨-, old_k⟩, ⟨rfl, rfl⟩ | ⟨-, old_l⟩⟩
    · rfl
    · exact absurd same.symm (unused l d old_l)
    · exact absurd same (unused k e old_k)
    · exact roll.apart k l e d old_k old_l same

theorem Roll.leave {out : List Federate} (roll : Roll f out) (h : FederateHandle)
    (sync : SyncTable) : Roll { f with federates := f.federates.erase h, sync } out where
  level := roll.level
  numbered := roll.numbered
  listed := by
    intro k e there
    exact roll.listed k e (getElem?_erase_eq_some_iff.mp there).2
  apart := by
    intro k l e d at_k at_l same
    have old_k := (getElem?_erase_eq_some_iff.mp at_k).2
    have old_l := (getElem?_erase_eq_some_iff.mp at_l).2
    exact roll.apart k l e d old_k old_l same

theorem Roll.effect {out : List Federate} {e : Option Federate} (roll : Roll f out)
    (effect : VisitEffect f e g) (few : (e.toList ++ out).length < 2 ^ 32) :
    Roll g (e.toList ++ out) := by
  cases effect with
  | kept => exact roll
  | admitted name session alive free =>
    refine roll.admit rfl free ?_
    rwa [Option.toList_some, List.length_append, List.length_singleton, Nat.add_comm] at few
  | left h sync member => exact roll.leave h sync
  | resynced sync => exact ⟨roll.level, roll.numbered, roll.listed, roll.apart⟩
  | retired empty => exact ⟨roll.level, roll.numbered, roll.listed, roll.apart⟩

theorem admitted_suffix {earlier run : List Visit} (past : earlier <:+ run) :
    f.admitted earlier <:+ f.admitted run := by
  obtain ⟨later, rfl⟩ := past
  induction later with
  | nil => exact List.suffix_refl _
  | cons v later ih => exact ih.trans (List.suffix_append _ _)

theorem found_roll (c : Constants) : Roll c.initial [] :=
  ⟨rfl, rfl, by simp [Constants.initial], by simp [Constants.initial]⟩

theorem visited_roll (c : Constants) (run : List Visit)
    (few : (c.initial.admitted run).length < 2 ^ 32) :
    Roll (c.initial.visited run) (c.initial.admitted run) := by
  induction run with
  | nil => exact found_roll c
  | cons v earlier ih =>
    have before := (admitted_suffix (f := c.initial) (List.suffix_cons v earlier)).length_le
    exact (ih (Nat.lt_of_le_of_lt before few)).effect (visit_effect _ v) few

/-- What becomes of a request to join, when so many federates have been admitted. -/
structure Joining (f : Federation) (out : List Federate) (m : ControlMessage) (name : String) :
    Prop where
  accepted : (∃ e, f.admitted? (.request m) = some e) ↔
    f.destroyed = false ∧ ∀ (h : FederateHandle) (e : Federate), f.federates[h]? = some e →
      foldCase e.name ≠ foldCase name
  admitted : ∀ e, f.admitted? (.request m) = some e →
    e.name = name ∧ e.handle.value.toNat = out.length + 1 ∧
      (f.serve m).1 = .success (.joined e.handle f.handle) ∧
      (f.serve m).2.federates = f.federates.insert e.handle e
  /-- A join that fails takes up neither a name nor a handle. -/
  refused : f.admitted? (.request m) = none → (f.serve m).2 = f ∧
    (f.serve m).1 =
      .failure (if f.destroyed then .federationDoesNotExist f.name
        else .federateNameInUse name f.name)

theorem join_refused {session : Option SessionId} {e : RtiError}
    (failed : f.join name session = (.error e, g)) :
    g = f ∧ (f.destroyed = true ∨ f.nameInUse name = true) ∧
      e = if f.destroyed then .federationDoesNotExist f.name
        else .federateNameInUse name f.name := by
  unfold join at failed
  by_cases dead : f.destroyed = true
  · rw [if_pos dead] at failed ⊢
    cases failed
    exact ⟨rfl, Or.inl dead, rfl⟩
  · rw [if_neg dead] at failed ⊢
    by_cases used : f.nameInUse name = true
    · rw [if_pos used] at failed
      cases failed
      exact ⟨rfl, Or.inr used, rfl⟩
    · rw [if_neg used] at failed
      cases failed

theorem Roll.joining {out : List Federate} (roll : Roll f out)
    (asked : m.request = .joinFederation federation name) (named : name ≠ "")
    (few : ((f.admitted? (.request m)).toList ++ out).length < 2 ^ 32) : Joining f out m name := by
  have served := serve_join (f := f) asked named
  rcases joined : f.join name m.origin with ⟨e | ⟨h, owed⟩, g⟩
  · obtain ⟨kept, cause, rfl⟩ := join_refused joined
    rw [joined, kept] at served
    have missed : f.admitted? (.request m) = none := by simp only [admitted?, asked, served]
    refine ⟨?_, ?_, ?_⟩
    · rw [missed, ← nameInUse_eq_false_iff]
      constructor
      · rintro ⟨e, entered⟩
        cases entered
      · rintro ⟨alive, free⟩
        rw [alive, free] at cause
        simp at cause
    · intro e entered
      rw [missed] at entered
      cases entered
    · intro _
      rw [served]
      exact ⟨rfl, rfl⟩
  · rw [joined] at served
    obtain ⟨alive, free, rfl, rfl, -⟩ := join_eq_ok_iff.mp joined
    have entered : f.admitted? (.request m) =
        some ⟨name, ⟨f.counter.issued + 1⟩, m.origin⟩ := by
      simp only [admitted?, asked, served]
    refine ⟨?_, ?_, ?_⟩
    · rw [entered, ← nameInUse_eq_false_iff]
      exact ⟨fun _ => ⟨alive, free⟩, fun _ => ⟨_, rfl⟩⟩
    · intro e found
      rw [entered] at few found
      cases found
      rw [Option.toList_some, List.length_append, List.length_singleton, Nat.add_comm] at few
      rw [served]
      exact ⟨rfl, roll.next few, rfl, rfl⟩
    · intro missed
      rw [entered] at missed
      cases missed

theorem Roll.eq_of_handle {out : List Federate} {e d : Federate} (roll : Roll f out) (he : e ∈ out)
    (hd : d ∈ out) (same : e.handle = d.handle) : e = d :=
  List.inj_on_of_nodup_map roll.numbered.nodup he hd (congrArg FederateHandle.value same)

structure Admission (c : Constants) (run : List Visit) : Prop where
  keyed : ∀ earlier, earlier <:+ run → ∀ (h : FederateHandle) (e : Federate),
    (c.initial.visited earlier).federates[h]? = some e → e.handle = h
  apart : ∀ earlier, earlier <:+ run → ∀ (h k : FederateHandle) (e d : Federate),
    (c.initial.visited earlier).federates[h]? = some e →
    (c.initial.visited earlier).federates[k]? = some d → foldCase e.name = foldCase d.name → h = k
  joins : ∀ later m earlier federation name, run = later ++ .request m :: earlier →
    m.request = .joinFederation federation name → name ≠ "" →
    Joining (c.initial.visited earlier) (c.initial.admitted earlier) m name
  unnamed : ∀ later m earlier federation, run = later ++ .request m :: earlier →
    m.request = .joinFederation federation "" →
    (c.initial.visited earlier).admitted? (.request m) = none ∧
      ((c.initial.visited earlier).serve m).2 = c.initial.visited earlier
  resigns : ∀ later m earlier federation h, run = later ++ .request m :: earlier →
    m.request = .resignFederation federation h →
    (h ∈ (c.initial.visited earlier).federates →
      ((c.initial.visited earlier).serve m).2.federates =
        (c.initial.visited earlier).federates.erase h) ∧
    (h ∉ (c.initial.visited earlier).federates →
      ((c.initial.visited earlier).serve m).2 = c.initial.visited earlier)
  numbered : Numbered ((c.initial.admitted run).map (·.handle.value))
  denoted : ∀ earlier past, earlier <:+ run → past <:+ run →
    ∀ (h : FederateHandle) (e d : Federate), (c.initial.visited earlier).federates[h]? = some e →
    (c.initial.visited past).federates[h]? = some d → e = d

/-- As long as fewer than 2^32 federates have joined, names are free when nobody uses them and
handles are given out in order. -/
theorem federates_admitted (c : Constants) (run : List Visit)
    (few : (c.initial.admitted run).length < 2 ^ 32) : Admission c run := by
  have roll : ∀ earlier, earlier <:+ run →
      Roll (c.initial.visited earlier) (c.initial.admitted earlier) := by
    intro earlier past
    exact visited_roll c earlier (Nat.lt_of_le_of_lt (admitted_suffix past).length_le few)
  constructor
  case keyed =>
    intro earlier past h e there
    exact ((roll earlier past).listed h e there).1
  case apart =>
    intro earlier past
    exact (roll earlier past).apart
  case joins =>
    rintro later m earlier federation name rfl asked named
    have now : .request m :: earlier <:+ later ++ .request m :: earlier := ⟨later, rfl⟩
    have before := roll earlier ((List.suffix_cons _ _).trans now)
    have room := Nat.lt_of_le_of_lt (admitted_suffix (f := c.initial) now).length_le few
    exact before.joining asked named room
  case unnamed =>
    rintro later m earlier federation rfl asked
    have served := serve_unnamed (f := c.initial.visited earlier) asked
    refine ⟨?_, by rw [served]⟩
    simp only [admitted?, asked, served]
  case resigns =>
    rintro later m earlier federation h rfl asked
    rw [serve_resign asked]
    constructor
    · intro member
      rw [resign_of_mem member]
    · intro absent
      rw [resign_of_not_mem absent]
  case numbered => exact (roll run (List.suffix_refl run)).numbered
  case denoted =>
    intro earlier past hearlier hpast h e d at_earlier at_past
    obtain ⟨own_e, out_e⟩ := (roll earlier hearlier).listed h e at_earlier
    obtain ⟨own_d, out_d⟩ := (roll past hpast).listed h d at_past
    -- Neither moment needs to come first: both federates are among those of the whole run, whose
    -- handles are all different.
    have all_e := (admitted_suffix hearlier).subset out_e
    have all_d := (admitted_suffix hpast).subset out_d
    have whole := roll run (List.suffix_refl run)
    exact whole.eq_of_handle all_e all_d (own_e.trans own_d.symm)

/-- Two names that differ in case only are in use by turns: a capital of one character is the same
as two small ones. In the end nobody is left, and the federation retires. -/
def comings : List Visit :=
  [.request { request := .joinFederation "alpha" "red" },
    .retire,
    .request { request := .resignFederation "alpha" ⟨2⟩ },
    .retire,
    .request { request := .joinFederation "alpha" "i\u0307", origin := some ⟨2⟩ },
    .request { request := .resignFederation "alpha" ⟨1⟩ },
    .request { request := .resignFederation "alpha" ⟨1⟩ },
    .request { request := .joinFederation "alpha" "i\u0307", origin := some ⟨2⟩ },
    .request { request := .joinFederation "alpha" "" },
    .request { request := .joinFederation "alpha" "İ", origin := some ⟨1⟩ }]

def solitude : Constants := ⟨"alpha", ⟨1⟩, ⟨[]⟩, .ieee1516e, .prune⟩

theorem comings_admitted :
    (solitude.initial.admitted comings).length < 2 ^ 32 ∧ Admission solitude comings ∧
      solitude.initial.admitted comings = [⟨"i\u0307", ⟨2⟩, some ⟨2⟩⟩, ⟨"İ", ⟨1⟩, some ⟨1⟩⟩] := by
  have admitted : solitude.initial.admitted comings =
      [⟨"i\u0307", ⟨2⟩, some ⟨2⟩⟩, ⟨"İ", ⟨1⟩, some ⟨1⟩⟩] := by decide +kernel
  have few : (solitude.initial.admitted comings).length < 2 ^ 32 := by
    rw [admitted]
    decide
  exact ⟨few, federates_admitted solitude comings few, admitted⟩

end HlaCoordination.Federation
