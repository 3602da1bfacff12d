import HlaCoordination.Proofs.Federation.Trace

/-! Sessions and their federates. A session joins federates for itself and speaks for those it has
joined, so as long as it keeps still, its federates neither achieve a point nor leave; and while a
federate that has to achieve a point keeps still, the point stays open. -/
namespace HlaCoordination.Federation

open Std History

namespace History

def roundOf (label : String) (past : History) : Nat := past.countP (registers label)

def OwnedBy (s : SessionId) (h : FederateHandle) (past : History) : Prop :=
  ∃ m, .joined m ∈ past ∧ m.handle = h ∧ m.session = some s

def joinedBy (s : SessionId) (h : FederateHandle) : Update → Bool
  | .joined m => m.handle = h && m.session = some s
  | .resigned _ | .registered .. | .achieved .. => false

/-- A session joins federates for itself and speaks for those it has joined. -/
def speaksFor (s : SessionId) (past : History) : Action → Bool
  | .join _ session => session = some s
  | .resign h | .register h .. | .achieve h _ => past.any (joinedBy s h)

variable {s s' : SessionId} {h : FederateHandle} {d : Update} {past : History} {label : String}
  {policy : ResignPolicy} {r : Registration}

theorem federate?_joined {m : Federate} (held : federate? h past = some m) :
    .joined m ∈ past ∧ m.handle = h := by
  induction past with
  | nil => cases held
  | cons d past ih =>
    cases d with
    | joined m' =>
      by_cases named : m'.handle = h
      · rw [federate?, if_pos named] at held
        cases held
        exact ⟨List.mem_cons_self, named⟩
      · rw [federate?, if_neg named] at held
        exact ⟨List.mem_cons_of_mem _ (ih held).1, (ih held).2⟩
    | resigned k =>
      by_cases named : k = h
      · rw [federate?, if_pos named] at held
        cases held
      · rw [federate?, if_neg named] at held
        exact ⟨List.mem_cons_of_mem _ (ih held).1, (ih held).2⟩
    | registered | achieved => exact ⟨List.mem_cons_of_mem _ (ih held).1, (ih held).2⟩

theorem ownedBy_of_federate? {m : Federate} (held : federate? h past = some m)
    (through : m.session = some s) : OwnedBy s h past :=
  ⟨m, (federate?_joined held).1, (federate?_joined held).2, through⟩

theorem OwnedBy.append (owned : OwnedBy s h past) (later : History) :
    OwnedBy s h (later ++ past) := by
  obtain ⟨m, listed, named, through⟩ := owned
  exact ⟨m, List.mem_append_right later listed, named, through⟩

theorem Legal.owner_unique (legal : Legal past) (owned : OwnedBy s h past)
    (owned' : OwnedBy s' h past) : s = s' := by
  induction past with
  | nil =>
    obtain ⟨m, listed, -⟩ := owned
    cases listed
  | cons d past ih =>
    obtain ⟨m, listed, named, through⟩ := owned
    obtain ⟨m', listed', named', through'⟩ := owned'
    rcases List.mem_cons.mp listed with rfl | before
    · rcases List.mem_cons.mp listed' with same | before'
      · cases same
        exact Option.some.inj (through.symm.trans through')
      · exact absurd ⟨m', before', named'.trans named.symm⟩ legal.1
    · rcases List.mem_cons.mp listed' with rfl | before'
      · exact absurd ⟨m, before, named.trans named'.symm⟩ legal.1
      · exact ih legal.2 ⟨m, before, named, through⟩ ⟨m', before', named', through'⟩

/-- The update is one of this session: its own join, or done to or by a federate it has joined. -/
def MadeBy (s : SessionId) (past : History) : Update → Prop
  | .joined m => m.session = some s
  | .resigned h | .registered h .. | .achieved h _ => OwnedBy s h past

theorem any_joinedBy_iff : past.any (joinedBy s h) = true ↔ OwnedBy s h past := by
  rw [List.any_eq_true]
  constructor
  · rintro ⟨d, listed, by_s⟩
    cases d with
    | joined m =>
      simp only [joinedBy, Bool.and_eq_true, decide_eq_true_eq] at by_s
      exact ⟨m, listed, by_s⟩
    | resigned | registered | achieved => cases by_s
  · rintro ⟨m, listed, named, through⟩
    exact ⟨.joined m, listed, by simp [joinedBy, named, through]⟩

theorem speaksFor_append {a : Action} (speaks : speaksFor s past a = true) (later : History) :
    speaksFor s (later ++ past) a = true := by
  cases a with
  | join => exact speaks
  | resign | register | achieve =>
    simp only [speaksFor, any_joinedBy_iff] at speaks ⊢
    exact speaks.append later

theorem madeBy_of_speaksFor {f : Federation} {a : Action} (speaks : speaksFor s past a = true)
    (done : (f.act a).update = some d) : MadeBy s past d := by
  cases a with
  | join name session =>
    have through : session = some s := of_decide_eq_true speaks
    rcases outcome : f.join name session with ⟨e | ⟨h, owed⟩, g⟩
    · simp [act, outcome] at done
    · simp only [act, outcome, Option.some.injEq] at done
      subst done
      exact through
  | resign h =>
    by_cases member : f.federates.contains h = true
    · simp only [act, member, if_true, Option.some.injEq] at done
      subst done
      exact any_joinedBy_iff.mp speaks
    · simp [act, member] at done
  | register g label tag targets =>
    rcases outcome : f.registerSyncPoint g label tag targets with ⟨e | owed, g'⟩
    · simp [act, outcome] at done
    · simp only [act, outcome, Option.some.injEq] at done
      subst done
      exact any_joinedBy_iff.mp speaks
  | achieve h label =>
    rcases outcome : f.achieveSyncPoint h label with ⟨e | owed, g⟩
    · simp [act, outcome] at done
    · simp only [act, outcome, Option.some.injEq] at done
      subst done
      exact any_joinedBy_iff.mp speaks

theorem round_cons (label : String) (d : Update) (past : History) :
    roundOf label (d :: past) = roundOf label past + if registers label d then 1 else 0 :=
  List.countP_cons

/-- Everybody has to achieve the point, or the registrant has to as well. -/
def Inclusive (r : Registration) : Prop := r.targets = ∅ ∨ r.registrant ∈ r.targets

instance (r : Registration) : Decidable (Inclusive r) := inferInstanceAs (Decidable (_ ∨ _))

def Awaits (policy : ResignPolicy) (label : String) (r : Registration) (s : SessionId)
    (past : History) : Prop :=
  ∃ h, h ∈ scope policy r past ∧ h ∉ achievers label past ∧ OwnedBy s h past

theorem Awaits.not_covered (awaits : Awaits policy label r s past)
    (registered : registration? label past = some r) : ¬ Covered policy label past := by
  rintro ⟨r', registered', -, all⟩
  cases registered.symm.trans registered'
  obtain ⟨h, member, missing, -⟩ := awaits
  exact missing (ExtTreeSet.mem_inter_iff.mp (all h member)).1

theorem mem_scope_iff : h ∈ scope policy r past ↔
    r.targets = ∅ ∧ h ∈ joined past ∨
      r.targets ≠ ∅ ∧ h ∈ r.targets ∧ (policy = .prune → h ∈ joined past) := by
  by_cases everybody : r.targets = ∅
  · simp [scope, everybody]
  · cases policy <;> simp [scope, everybody]

theorem mem_joined_cons (stays : d ≠ .resigned h) (member : h ∈ joined past) :
    h ∈ joined (d :: past) := by
  cases d with
  | joined m => exact HandleSet.mem_insert_iff.mpr (Or.inr member)
  | resigned k =>
    refine HandleSet.mem_erase_iff.mpr ⟨?_, member⟩
    rintro rfl
    exact stays rfl
  | registered | achieved => exact member

theorem mem_scope_cons (stays : d ≠ .resigned h) (member : h ∈ scope policy r past) :
    h ∈ scope policy r (d :: past) := by
  rcases mem_scope_iff.mp member with ⟨everybody, present⟩ | ⟨some_, target, present⟩
  · exact mem_scope_iff.mpr (Or.inl ⟨everybody, mem_joined_cons stays present⟩)
  · refine mem_scope_iff.mpr (Or.inr ⟨some_, target, ?_⟩)
    exact fun prunes => mem_joined_cons stays (present prunes)

theorem mem_achievers_cons (achieved : h ∈ achievers label (d :: past)) :
    d = .achieved h label ∨ registers label d = false ∧ h ∈ achievers label past := by
  cases d with
  | achieved k l =>
    by_cases same : l = label
    · simp only [achievers, same, if_true] at achieved
      rcases HandleSet.mem_insert_iff.mp achieved with rfl | before
      · exact Or.inl (same ▸ rfl)
      · exact Or.inr ⟨rfl, before⟩
    · simp only [achievers, same, if_false] at achieved
      exact Or.inr ⟨rfl, achieved⟩
  | registered g l tag targets =>
    by_cases same : l = label
    · simp [achievers, same] at achieved
    · simp only [achievers, same, if_false] at achieved
      exact Or.inr ⟨decide_eq_false same, achieved⟩
  | joined | resigned => exact Or.inr ⟨rfl, achieved⟩

theorem Awaits.cons (awaits : Awaits policy label r s past) (legal : Legal past)
    (made : MadeBy s' past d) (other : s ≠ s') : Awaits policy label r s (d :: past) := by
  obtain ⟨h, member, missing, owned⟩ := awaits
  have apart {k : FederateHandle} (made : OwnedBy s' k past) : k ≠ h := by
    rintro rfl
    exact other (legal.owner_unique owned made)
  refine ⟨h, mem_scope_cons ?_ member, ?_, owned.append [d]⟩
  · rintro rfl
    exact apart made rfl
  · intro achieved
    rcases mem_achievers_cons achieved with rfl | ⟨-, before⟩
    · exact apart made rfl
    · exact missing before

theorem Awaits.still_pending (awaits : Awaits policy label r s past)
    (pending : ¬ EverCovered policy label past) (registered : registration? label past = some r)
    (later : registers label d = false) (legal : Legal past) (made : MadeBy s' past d)
    (other : s ≠ s') :
    Awaits policy label r s (d :: past) ∧ ¬ EverCovered policy label (d :: past) := by
  have quiet : ∀ d' ∈ [d], registers label d' = false := by simpa using later
  have registered' : registration? label (d :: past) = some r :=
    (registration?_append quiet past).trans registered
  have awaits' := awaits.cons legal made other
  refine ⟨awaits', ?_⟩
  intro covered
  rcases (everCovered_cons_iff later).mp covered with now | ever
  · exact awaits'.not_covered registered' now
  · exact pending ever

/-- Whoever joins or registers has yet to achieve the label that the join or the registration is
announced for. -/
theorem Tells.awaits {events : List SyncEvent} {tag : Octets} {recipients : HandleSet}
    (told : Tells policy label past (some d) events)
    (called : .announced label tag recipients ∈ events) (legal : Legal (d :: past))
    (made : MadeBy s past d) (registered : registration? label (d :: past) = some r)
    (inclusive : Inclusive r) :
    Awaits policy label r s (d :: past) ∧ ¬ EverCovered policy label (d :: past) := by
  cases told with
  | announced g tag targets =>
    rw [registration?, if_pos rfl] at registered
    cases registered
    refine ⟨⟨g, ?_, by simp [achievers], made.append [_]⟩, not_everCovered_registered⟩
    rcases inclusive with everybody | among
    · exact mem_scope_iff.mpr (Or.inl ⟨everybody, legal.1.1⟩)
    · by_cases everybody : targets = ∅
      · exact mem_scope_iff.mpr (Or.inl ⟨everybody, legal.1.1⟩)
      · exact mem_scope_iff.mpr (Or.inr ⟨everybody, among, fun _ => legal.1.1⟩)
  | invited m r' registered' everybody pending still =>
    cases registered'.symm.trans registered
    refine ⟨⟨m.handle, ?_, ?_, m, List.mem_cons_self, rfl, made⟩, still⟩
    · exact mem_scope_iff.mpr (Or.inl ⟨everybody, HandleSet.mem_insert_iff.mpr (Or.inl rfl)⟩)
    · intro achieved
      exact legal.1 (legal.2.issued_of_achiever achieved)
  | synchronized => simp at called
  | silent => cases called

theorem round_append {later : History} (quiet : ∀ d ∈ later, registers label d = false)
    (past : History) : roundOf label (later ++ past) = roundOf label past := by
  rw [roundOf, List.countP_append, List.countP_eq_zero.mpr, Nat.zero_add, roundOf]
  intro d listed
  rw [quiet d listed]
  exact Bool.false_ne_true

theorem Tells.nothing {events : List SyncEvent} (told : Tells policy label past none events) :
    events = [] := by
  cases told
  rfl

theorem Tells.quiet_of_covered {update : Option Update} {events : List SyncEvent}
    (told : Tells policy label past update events) (covered : EverCovered policy label past) :
    ∀ d ∈ update.toList, registers label d = false := by
  intro d done
  rw [Option.mem_toList] at done
  cases told with
  | announced g tag targets pending => exact absurd covered pending
  | invited m r registered =>
    cases done
    rfl
  | synchronized d' r registered later =>
    cases done
    exact later
  | silent _ later => exact later d done

theorem Tells.completes {update : Option Update} {events : List SyncEvent} {recipients : HandleSet}
    (told : Tells policy label past update events)
    (now : .synchronized label recipients ∈ events) :
    ∃ d r, update = some d ∧ registration? label past = some r ∧ registers label d = false ∧
      (∀ m, d ≠ .joined m) ∧ ¬ EverCovered policy label past ∧ Covered policy label (d :: past) ∧
      recipients = scope policy r (d :: past) := by
  cases told with
  | announced | invited | silent => simp at now
  | synchronized d r registered later moved pending covered =>
    simp only [List.mem_singleton, SyncEvent.synchronized.injEq, true_and] at now
    exact ⟨d, r, rfl, registered, later, moved, pending, covered, now⟩

theorem Tells.invites {m : Federate} {events : List SyncEvent}
    (told : Tells policy label past (some (.joined m)) events)
    (registered : registration? label past = some r) (everybody : r.targets = ∅)
    (pending : ¬ EverCovered policy label past) :
    .announced label r.tag (.ofList [m.handle]) ∈ events := by
  cases told with
  | invited _ r' registered' =>
    cases registered.symm.trans registered'
    exact List.mem_singleton_self _
  | synchronized _ _ _ _ moved => exact absurd rfl (moved m)
  | silent _ _ uninvited => exact absurd (uninvited m r rfl registered everybody) pending

theorem Tells.calls_newcomer {m : Federate} {events : List SyncEvent}
    (told : Tells policy label past (some (.joined m)) events) (legal : Legal (.joined m :: past))
    (registered : registration? label past = some r) (pending : ¬ EverCovered policy label past)
    (member : m.handle ∈ scope policy r (.joined m :: past)) :
    ∃ recipients, m.handle ∈ recipients ∧ .announced label r.tag recipients ∈ events := by
  have everybody : r.targets = ∅ := by
    rcases mem_scope_iff.mp member with ⟨everybody, -⟩ | ⟨-, target, -⟩
    · exact everybody
    · exact absurd (legal.2.issued_of_target registered target) legal.1
  have among : m.handle ∈ HandleSet.ofList [m.handle] := by simp [HandleSet.mem_ofList]
  exact ⟨_, among, told.invites registered everybody pending⟩

theorem Tells.calls_members {events : List SyncEvent}
    (told : Tells policy label past (some d) events) (anew : registers label d = true)
    (registered : registration? label (d :: past) = some r)
    (member : h ∈ scope policy r (d :: past)) :
    ∃ recipients, h ∈ recipients ∧ .announced label r.tag recipients ∈ events := by
  cases d with
  | registered g l tag targets =>
    obtain rfl : l = label := of_decide_eq_true anew
    rw [registration?, if_pos rfl] at registered
    cases registered
    refine ⟨_, ?_, told.of_registered ▸ List.mem_singleton_self _⟩
    rcases mem_scope_iff.mp member with ⟨everybody, present⟩ | ⟨some_, target, -⟩
    · exact (if_pos everybody).symm ▸ present
    · exact (if_neg some_).symm ▸ target
  | joined | resigned | achieved => cases anew

/-- After its registration, only a point for everybody is announced to anyone, and only while it is
open. -/
theorem Tells.calls_nobody {update : Option Update} {events : List SyncEvent}
    (told : Tells policy label past update events)
    (quiet : ∀ d ∈ update.toList, registers label d = false)
    (registered : registration? label past = some r)
    (ended : r.targets ≠ ∅ ∨ EverCovered policy label past) {tag : Octets}
    {recipients : HandleSet} :
    .announced label tag recipients ∉ events := by
  intro now
  cases told with
  | announced g tag' targets =>
    have anew := quiet (.registered g label tag' targets) (by simp)
    simp [registers] at anew
  | invited m r' registered' everybody pending =>
    cases registered.symm.trans registered'
    rcases ended with some_ | covered
    · exact some_ everybody
    · exact pending covered
  | synchronized => simp at now
  | silent => cases now

theorem federate?_update {update : Option Update} {m : Federate}
    (held : federate? h (update.toList ++ past) = some m) :
    update = some (.joined m) ∧ m.handle = h ∨ federate? h past = some m := by
  cases update with
  | none => exact Or.inr held
  | some d =>
    cases d with
    | joined m' =>
      by_cases named : m'.handle = h
      · rw [Option.toList_some, List.singleton_append, federate?, if_pos named] at held
        cases held
        exact Or.inl ⟨rfl, named⟩
      · rw [Option.toList_some, List.singleton_append, federate?, if_neg named] at held
        exact Or.inr held
    | resigned k =>
      by_cases named : k = h
      · rw [Option.toList_some, List.singleton_append, federate?, if_pos named] at held
        cases held
      · rw [Option.toList_some, List.singleton_append, federate?, if_neg named] at held
        exact Or.inr held
    | registered | achieved => exact Or.inr held

theorem mem_scope_of_held {past' : History} {m : Federate} (held : federate? h past = some m)
    (member : h ∈ scope policy r past') : h ∈ scope policy r past := by
  have present : h ∈ joined past := mem_joined_iff.mpr (by rw [held]; rfl)
  rcases mem_scope_iff.mp member with ⟨everybody, -⟩ | ⟨some_, target, -⟩
  · exact mem_scope_iff.mpr (Or.inl ⟨everybody, present⟩)
  · exact mem_scope_iff.mpr (Or.inr ⟨some_, target, fun _ => present⟩)

end History

end HlaCoordination.Federation
