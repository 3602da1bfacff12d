import HlaCoordination.Proofs.Network.Roster

/-! Who is attached to an exchange. Authority connections and session connections are opened, bound,
connected and disconnected in any order. A run leaves marks, one for each time that somebody was
attached or detached, and from them it can be told who is attached. Runs and marks are listed newest
first. -/
namespace HlaCoordination

open Std

namespace Network

open Roster

inductive Switching where
  | openEndpoint (name : String) (config : Config)
  | bind (e : EndpointId) (inbox : Inbox)
  | connect (e : EndpointId)
  /-- The inbox thread fails to start. -/
  | connectInVain (e : EndpointId) (cause : String)
  | disconnect (e : EndpointId)
  | start (config : Config)
  | stop (authority : RunningAuthority)
  | release (authority : RunningAuthority)
  | openSession (config : Config)
  | connectLink (session : ParticipantId)
  | disconnectLink (session : ParticipantId)
  | disconnectSession (session : ParticipantId)
  | dropSession (session : ParticipantId)
  deriving DecidableEq

abbrev Marks := List Mark

def ofSession (n : Network) (key : ParticipantId)
    (act : Participant → Except RtiError (Option Mark) × Network) :
    Except RtiError (Option Mark) × Network :=
  match n.participants[key]? with
  | some p => act p
  | none => (.ok none, n)

def switch (n : Network) : Switching → Except RtiError (Option Mark) × Network
  | .openEndpoint name config =>
    match n.openEndpoint name config with
    | .ok (_, n') => (.ok none, n')
    | .error e => (.error e, n)
  | .bind e inbox => (.ok none, n.bindInbox e inbox)
  | .connect e =>
    match n.connectEndpoint e with
    | .ok n' => (.ok (some (.attached e)), n')
    | .error e => (.error e, n)
  | .connectInVain e cause =>
    let (error, n') := n.connectInVain e cause
    (.error error, n')
  | .disconnect e => (.ok (n.parting e), n.disconnectEndpoint e)
  | .start config =>
    match n.startAuthority config with
    | .ok (a, n') => (.ok (some (.attached a.endpoint)), n')
    | .error e => (.error e, n)
  | .stop a => (.ok (n.parting a.endpoint), n.shutdownAuthority a)
  | .release a => (.ok (n.parting a.endpoint), n.dropAuthority a)
  | .openSession config =>
    match n.connectSession config with
    | .ok (key, n') => (.ok (n'.arrival key), n')
    | .error e => (.error e, n)
  | .connectLink key => n.ofSession key fun p =>
    match n.connectLink key p with
    | .ok n' => (.ok (n'.arrival key), n')
    | .error e => (.error e, n)
  | .disconnectLink key => n.ofSession key fun p => (.ok (n.departure key), n.disconnectLink key p)
  | .disconnectSession key =>
    n.ofSession key fun p => (.ok (n.departure key), n.disconnectSession key p)
  | .dropSession key => n.ofSession key fun p => (.ok (n.departure key), n.dropSession key p)

def markOf : Except RtiError (Option Mark) → Option Mark
  | .ok mark => mark
  | .error _ => none

def switched (n : Network) : List Switching → Network
  | [] => n
  | m :: earlier => ((n.switched earlier).switch m).2

def marks (n : Network) : List Switching → Marks
  | [] => []
  | m :: earlier => (markOf ((n.switched earlier).switch m).1).toList ++ n.marks earlier

def presiding : Marks → Option EndpointId
  | [] => none
  | .attached e :: _ => some e
  | .detached _ :: _ => none
  | .connected .. :: past | .disconnected .. :: past => presiding past

def handedOut : Marks → List SessionId
  | [] => []
  | .connected _ id :: past => id :: handedOut past
  | .attached _ :: past | .detached _ :: past | .disconnected .. :: past => handedOut past

/-- The session that has this id has disconnected, or the authority has come or gone. -/
def Ends (id : SessionId) : Mark → Prop
  | .attached _ | .detached _ => True
  | .connected .. => False
  | .disconnected _ id' => id' = id

/-- Some session connected under this id while an authority was attached, and nothing has ended that
since. -/
def Stays (past : Marks) (id : SessionId) : Prop :=
  ∃ (later earlier : Marks) (key : ParticipantId) (e : EndpointId),
    past = later ++ .connected key id :: earlier ∧ presiding earlier = some e ∧
      ∀ mark ∈ later, ¬ Ends id mark

theorem stays_cons {mark : Mark} {past : Marks} {id : SessionId} :
    Stays (mark :: past) id ↔
      (∃ key e, mark = .connected key id ∧ presiding past = some e) ∨
        ¬ Ends id mark ∧ Stays past id := by
  constructor
  · rintro ⟨_ | ⟨first, later⟩, earlier, key, e, same, present, unended⟩
    · obtain ⟨rfl, rfl⟩ := List.cons.inj same
      exact Or.inl ⟨key, e, rfl, present⟩
    · obtain ⟨rfl, rfl⟩ := List.cons.inj same
      obtain ⟨head, tail⟩ := List.forall_mem_cons.mp unended
      exact Or.inr ⟨head, later, earlier, key, e, rfl, present, tail⟩
  · rintro (⟨key, e, rfl, present⟩ | ⟨head, later, earlier, key, e, rfl, present, tail⟩)
    · exact ⟨[], past, key, e, rfl, present, nofun⟩
    · exact ⟨mark :: later, earlier, key, e, rfl, present, List.forall_mem_cons.mpr ⟨head, tail⟩⟩

theorem mem_handedOut_iff {past : Marks} {id : SessionId} :
    id ∈ handedOut past ↔ ∃ key, .connected key id ∈ past := by
  induction past with
  | nil => simp [handedOut]
  | cons mark past ih => cases mark <;> simp [handedOut, ih, exists_or]

theorem session_unique {past : Marks} (once : (handedOut past).Nodup) {key key' : ParticipantId}
    {id : SessionId} (h : .connected key id ∈ past) (h' : .connected key' id ∈ past) :
    key = key' := by
  induction past with
  | nil => cases h
  | cons mark past ih =>
    cases mark with
    | connected k i =>
      obtain ⟨new, once⟩ := List.nodup_cons.mp once
      rw [List.mem_cons, Mark.connected.injEq] at h h'
      rcases h with ⟨rfl, rfl⟩ | h <;> rcases h' with ⟨rfl, same⟩ | h'
      · rfl
      · exact absurd (mem_handedOut_iff.mpr ⟨_, h'⟩) new
      · exact absurd (mem_handedOut_iff.mpr ⟨_, same ▸ h⟩) new
      · exact ih once h h'
    | attached | detached | disconnected =>
      simp only [List.mem_cons, reduceCtorEq, false_or] at h h'
      exact ih once h h'

variable {n n' : Network} {s s' : Roster} {past : Marks}

theorem switch_change (fresh : FreshEndpoints n)
    (empty : n.exchange.authority = none → n.exchange.attached = ∅) (m : Switching) :
    Change n.roster (markOf (n.switch m).1) (n.switch m).2.roster ∧
      FreshEndpoints (n.switch m).2 := by
  have idle : Change n.roster none n.roster ∧ FreshEndpoints n := ⟨.none, fresh⟩
  have ofSession (key : ParticipantId)
      {act : Participant → Except RtiError (Option Mark) × Network}
      (acts : ∀ p, n.participants[key]? = some p →
        Change n.roster (markOf (act p).1) (act p).2.roster ∧ FreshEndpoints (act p).2) :
      Change n.roster (markOf (n.ofSession key act).1) (n.ofSession key act).2.roster ∧
        FreshEndpoints (n.ofSession key act).2 := by
    unfold Network.ofSession
    split
    · exact acts _ ‹_›
    · exact idle
  cases m with
  | openEndpoint name config =>
    simp only [switch]
    split
    · obtain ⟨same, fresh'⟩ := openEndpoint_roster fresh ‹_›
      rw [same]
      exact ⟨.none, fresh'⟩
    · exact idle
  | bind e inbox =>
    obtain ⟨same, fresh'⟩ := bindInbox_roster fresh e inbox
    simp only [switch, same]
    exact ⟨.none, fresh'⟩
  | connect e =>
    simp only [switch]
    split
    · exact connectEndpoint_change fresh ‹_›
    · exact idle
  | connectInVain e cause =>
    simp only [switch, connectInVain_roster empty]
    refine ⟨.none, ?_⟩
    unfold connectInVain
    split <;> exact fresh
  | disconnect e => exact disconnectEndpoint_change fresh e
  | start config =>
    simp only [switch]
    split
    · exact startAuthority_change fresh ‹_›
    · exact idle
  | stop a =>
    simp only [switch, shutdownAuthority]
    split
    · exact disconnectEndpoint_change fresh a.endpoint
    · rename_i silent
      simpa [markOf, parting, silent] using idle
  | release a => exact disconnectEndpoint_change fresh a.endpoint
  | openSession config =>
    simp only [switch]
    split
    · exact connectSession_change fresh ‹_›
    · exact idle
  | connectLink key =>
    apply ofSession key
    intro p there
    split
    · exact connectLink_change fresh ‹_›
    · exact idle
  | disconnectLink key =>
    apply ofSession key
    intro p there
    exact disconnectLink_change fresh (linked_of_there there)
  | disconnectSession key =>
    apply ofSession key
    intro p there
    exact disconnectSession_change fresh there
  | dropSession key =>
    apply ofSession key
    intro p there
    obtain ⟨change, fresh'⟩ := disconnectSession_change fresh there
    rw [dropSession_roster]
    exact ⟨change, fresh'⟩

def Consecutive : List SessionId → Prop
  | [] => True
  | id :: earlier => id.value = UInt64.ofNat (earlier.length + 1) ∧ Consecutive earlier

theorem ofNat_succ_length {ids : List SessionId} {w : UInt64}
    (counted : w = UInt64.ofNat ids.length) : w + 1 = UInt64.ofNat (ids.length + 1) := by
  rw [counted]
  exact (UInt64.ofNat_add _ _).symm

theorem Consecutive.place {ids : List SessionId} (h : Consecutive ids) {id : SessionId}
    (among : id ∈ ids) : ∃ k < ids.length, id.value = UInt64.ofNat (k + 1) := by
  induction ids with
  | nil => cases among
  | cons first earlier ih =>
    rcases List.mem_cons.mp among with rfl | among
    · exact ⟨earlier.length, Nat.lt_succ_self _, h.1⟩
    · obtain ⟨k, lt, value⟩ := ih h.2 among
      exact ⟨k, Nat.lt_succ_of_lt lt, value⟩

theorem Consecutive.nodup {ids : List SessionId} (h : Consecutive ids)
    (few : ids.length < 2 ^ 64) : ids.Nodup := by
  induction ids with
  | nil => exact List.nodup_nil
  | cons first earlier ih =>
    rw [List.length_cons] at few
    refine List.nodup_cons.mpr ⟨?_, ih h.2 (by omega)⟩
    intro among
    obtain ⟨k, lt, value⟩ := h.2.place among
    have same := congrArg UInt64.toNat (h.1.symm.trans value)
    rw [UInt64.toNat_ofNat', UInt64.toNat_ofNat', Nat.mod_eq_of_lt few,
      Nat.mod_eq_of_lt (by omega)] at same
    omega

/-- The exchange's tables, the connections' records and the marks of a run agree. -/
structure Tallied (s : Roster) (past : Marks) : Prop where
  seated : ∀ e, s.endpoints e = true ↔ ∃ name, s.exchange.authority = some ⟨name, e⟩
  presiding : presiding past = s.exchange.authority.map Attachment.endpoint
  vacant : s.exchange.authority = none → s.exchange.attached = ∅
  stays : ∀ id, id ∈ s.exchange.attached ↔ Stays past id
  linked : ∀ key id, s.sessions key = some id → .connected key id ∈ past
  left : ∀ key id, .disconnected key id ∈ past → .connected key id ∈ past
  ids : Consecutive (handedOut past)
  counter : s.exchange.counter.issued = UInt64.ofNat (handedOut past).length

namespace Tallied

theorem authority_of_connected (h : Tallied s past) {e : EndpointId}
    (connected : s.endpoints e = true) : s.exchange.authority.isSome = true := by
  obtain ⟨name, present⟩ := (h.seated e).mp connected
  rw [present]
  rfl

theorem left_cons (h : Tallied s past) {mark : Mark}
    (other : ∀ key id, .disconnected key id ≠ mark) (key : ParticipantId) (id : SessionId)
    (left : .disconnected key id ∈ mark :: past) : .connected key id ∈ mark :: past := by
  rcases List.mem_cons.mp left with same | left
  · exact absurd same (other key id)
  · exact List.mem_cons_of_mem mark (h.left key id left)

theorem attached (h : Tallied s past) (name : String) (e : EndpointId)
    (vacant : s.exchange.authority = none) :
    Tallied (s.seat { s.exchange with authority := some ⟨name, e⟩ } e true)
      (.attached e :: past) := by
  refine ⟨?_, rfl, nofun, ?_, ?_, h.left_cons nofun, h.ids, h.counter⟩
  · intro e'
    have silent : s.endpoints e' = false := by simpa [vacant] using h.seated e'
    simp [seat, silent]
  · intro id
    rw [stays_cons]
    simp [seat, h.vacant vacant, Ends]
  · intro key id linked
    exact List.mem_cons_of_mem _ (h.linked key id linked)

theorem detached (h : Tallied s past) (e : EndpointId) (reason : String)
    (connected : s.endpoints e = true) :
    Tallied (s.seat (s.exchange.detachAuthority reason) e false) (.detached e :: past) := by
  obtain ⟨name, present⟩ := (h.seated e).mp connected
  obtain ⟨mailboxes, gone⟩ :=
    s.exchange.detachAuthority_eq (h.authority_of_connected connected) reason
  rw [gone]
  refine ⟨?_, rfl, fun _ => rfl, ?_, ?_, h.left_cons nofun, h.ids, h.counter⟩
  · intro e'
    by_cases here : e = e'
    · simp [seat, here]
    · have elsewhere := h.seated e'
      simpa [seat, present, here] using elsewhere
  · intro id
    rw [stays_cons]
    simp [seat, Ends]
  · intro key id linked
    exact List.mem_cons_of_mem _ (h.linked key id linked)

theorem connected (h : Tallied s past) (key : ParticipantId) {id : SessionId} {capacity : Nat}
    {exchange : Exchange} (ok : s.exchange.attachSession capacity = .ok (id, exchange)) :
    Tallied (s.link exchange key (some id)) (.connected key id :: past) := by
  obtain ⟨present, rfl, rfl⟩ := Exchange.attachSession_eq_ok_iff.mp ok
  obtain ⟨authority, there⟩ := Option.isSome_iff_exists.mp present
  have next := ofNat_succ_length h.counter
  refine ⟨h.seated, h.presiding, ?_, ?_, ?_, h.left_cons nofun, ⟨next, h.ids⟩, next⟩
  · intro vacant
    cases there.symm.trans vacant
  · intro id'
    rw [stays_cons, ← h.stays id']
    simp [link, Ends, h.presiding, there]
  · intro key' id' linked
    simp only [link] at linked
    split at linked
    · cases linked
      subst key'
      exact List.mem_cons_self
    · exact List.mem_cons_of_mem _ (h.linked key' id' linked)

theorem disconnected (h : Tallied s past) (key : ParticipantId) (id : SessionId)
    (linked : s.sessions key = some id) :
    Tallied (s.link (s.exchange.detachSession id) key none) (.disconnected key id :: past) := by
  refine ⟨h.seated, h.presiding, ?_, ?_, ?_, ?_, h.ids, h.counter⟩
  · intro vacant
    simp only [link, Exchange.detachSession] at vacant ⊢
    rw [h.vacant vacant]
    exact ExtTreeSet.erase_empty
  · intro id'
    rw [stays_cons, ← h.stays id']
    simp [link, Exchange.detachSession, Ends]
  · intro key' id' still
    simp only [link] at still
    split at still
    · cases still
    · exact List.mem_cons_of_mem _ (h.linked key' id' still)
  · intro key' id' left
    rcases List.mem_cons.mp left with same | left
    · cases same
      exact List.mem_cons_of_mem _ (h.linked key id linked)
    · exact List.mem_cons_of_mem _ (h.left key' id' left)

theorem change {mark : Option Mark} (h : Tallied s past) (change : Change s mark s') :
    Tallied s' (mark.toList ++ past) := by
  cases change with
  | none => exact h
  | attached name e vacant => exact h.attached name e vacant
  | detached e reason connected => exact h.detached e reason connected
  | connected key id capacity exchange ok => exact h.connected key ok
  | disconnected key id linked => exact h.disconnected key id linked

end Tallied

theorem tallied_switched (run : List Switching) :
    Tallied (({} : Network).switched run).roster (({} : Network).marks run) ∧
      FreshEndpoints (({} : Network).switched run) := by
  induction run with
  | nil =>
    refine ⟨⟨?_, rfl, fun _ => rfl, ?_, nofun, nofun, trivial, rfl⟩, fun _ _ => rfl⟩
    · intro e
      simp [switched, roster, isConnected]
    · intro id
      simp [switched, roster, marks, Stays]
  | cons m earlier ih =>
    obtain ⟨tallied, fresh⟩ := ih
    obtain ⟨change, fresh'⟩ := switch_change fresh tallied.vacant m
    exact ⟨tallied.change change, fresh'⟩

/-- The connection that this move would disconnect is not connected. -/
def Idle (n : Network) : Switching → Prop
  | .disconnect e => n.isConnected e = false
  | .stop a | .release a => n.isConnected a.endpoint = false
  | .disconnectLink key | .disconnectSession key | .dropSession key => n.linked key = none
  | _ => False

theorem markOf_idle {m : Switching} (idle : n.Idle m) : markOf (n.switch m).1 = none := by
  cases m with
  | disconnect e | stop a | release a =>
    simp only [Idle] at idle
    simp [switch, markOf, parting, idle]
  | disconnectLink key | disconnectSession key | dropSession key =>
    simp only [Idle] at idle
    simp only [switch, ofSession, departure, idle, Option.map_none]
    split <;> rfl
  | openEndpoint | bind | connect | connectInVain | start | openSession | connectLink => cases idle

/-- What a mark says of the network right after it has been left. -/
def Stands (n : Network) : Mark → Prop
  | .attached e => n.isConnected e = true ∧ ∃ name, n.exchange.authority = some ⟨name, e⟩
  | .detached e => n.isConnected e = false ∧ n.exchange.authority = none
  | .connected key id => n.linked key = some id ∧ id ∈ n.exchange.attached
  | .disconnected key id => n.linked key = none ∧ id ∉ n.exchange.attached

theorem stands_of_change {mark : Mark} (change : Change n.roster (some mark) n'.roster) :
    n'.Stands mark := by
  have exchange {s : Roster} (same : n'.roster = s) : n'.exchange = s.exchange :=
    congrArg Roster.exchange same
  have endpoints {s : Roster} (same : n'.roster = s) (e : EndpointId) :
      n'.isConnected e = s.endpoints e := congrFun (congrArg Roster.endpoints same) e
  have sessions {s : Roster} (same : n'.roster = s) (key : ParticipantId) :
      n'.linked key = s.sessions key := congrFun (congrArg Roster.sessions same) key
  generalize roster : n'.roster = s' at change
  cases change with
  | attached name e vacant =>
    simp only [Stands, exchange roster, endpoints roster, seat, if_true]
    exact ⟨trivial, name, rfl⟩
  | detached e reason connected =>
    have gone : (n.exchange.detachAuthority reason).authority = none := by
      cases present : n.exchange.authority with
      | none => simp [Exchange.detachAuthority, Exchange.hasAuthority, present]
      | some _ =>
        obtain ⟨mailboxes, left⟩ := n.exchange.detachAuthority_eq (by rw [present]; rfl) reason
        rw [left]
    simp only [Stands, exchange roster, endpoints roster, seat, if_true]
    exact ⟨trivial, gone⟩
  | connected key id capacity x ok =>
    obtain ⟨-, rfl, rfl⟩ := Exchange.attachSession_eq_ok_iff.mp ok
    simp only [Stands, exchange roster, sessions roster, link, if_true]
    exact ⟨trivial, by simp⟩
  | disconnected key id linked =>
    simp only [Stands, exchange roster, sessions roster, link, if_true, Exchange.detachSession]
    exact ⟨trivial, by simp⟩

theorem roster_of_unmarked (fresh : FreshEndpoints n) (h : Tallied n.roster past) (m : Switching)
    (unmarked : markOf (n.switch m).1 = none) : (n.switch m).2.roster = n.roster := by
  have change := (switch_change fresh h.vacant m).1
  rw [unmarked] at change
  generalize (n.switch m).2.roster = s at change
  cases change
  rfl

theorem mark_of_connect {e : EndpointId} {mark : Option Mark}
    (done : (n.switch (.connect e)).1 = .ok mark) : mark = some (.attached e) := by
  simp only [switch] at done
  split at done
  · cases done
    rfl
  · cases done

theorem mark_of_openSession {config : Config} {mark : Option Mark}
    (done : (n.switch (.openSession config)).1 = .ok mark) :
    ∃ key id, mark = some (.connected key id) := by
  simp only [switch] at done
  split at done
  · rename_i key n' ok
    obtain ⟨id, exchange, link, -, linked, -, rfl⟩ := connectSession_eq ok
    cases done
    refine ⟨key, id, ?_⟩
    simp only [arrival, Network.linked, ExtTreeMap.getElem?_insert_self, Option.bind_some, linked,
      Option.map_some]
  · cases done

/-- Who is attached to an exchange, in the light of the marks that have been left. -/
structure Orderly (n : Network) (past : Marks) : Prop where
  one : ∀ e e', n.isConnected e = true → n.isConnected e' = true → e = e'
  authority : n.exchange.hasAuthority = true ↔ ∃ e, n.isConnected e = true
  vacant : n.exchange.hasAuthority = false → n.exchange.sessionCount = 0
  failed : ∀ m error, (n.switch m).1 = .error error → (n.switch m).2.roster = n.roster
  idle : ∀ m, n.Idle m → (n.switch m).2.roster = n.roster
  stands : ∀ m mark, (n.switch m).1 = .ok (some mark) → (n.switch m).2.Stands mark
  attaches : ∀ e mark, (n.switch (.connect e)).1 = .ok mark → mark = some (.attached e)
  connects : ∀ config mark, (n.switch (.openSession config)).1 = .ok mark →
    ∃ key id, mark = some (.connected key id)
  sessions : ∀ id, id ∈ n.exchange.attached ↔ Stays past id
  once : (handedOut past).length < 2 ^ 64 → (handedOut past).Nodup
  own : (handedOut past).length < 2 ^ 64 → ∀ key key' id,
    .connected key id ∈ past → .disconnected key' id ∈ past → key = key'

/-- A session that is left over from the first authority disconnects under the second. -/
example :
    ({} : Network).marks
        [.disconnectLink 2, .openSession {}, .start {}, .stop ⟨{}, 0, 1⟩, .openSession {},
          .start {}] =
      [.disconnected 2 ⟨1⟩, .connected 5 ⟨2⟩, .attached 3, .detached 0, .connected 2 ⟨1⟩,
        .attached 0] := by decide

end Network

end HlaCoordination
