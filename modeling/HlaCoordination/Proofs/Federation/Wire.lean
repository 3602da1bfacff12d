import HlaCoordination.Proofs.Federation.Workers

/-! In which order a session's queue takes the announcement of a synchronization point and the
report that it is synchronized. The worker that has yet to announce a point serves a session whose
own federate has yet to achieve it, if the point is for everybody or for its registrant too: as long
as that session waits for its answer, the point cannot be complete, so nothing is overtaken. A point
that leaves its registrant out can be, but only by a session that did not wait to be told. -/
namespace HlaCoordination.Federation

open Std History

variable {c : Constants} {label : String} {k : Nat} {s : SessionId}

theorem eq_of_concat_eq_append_cons {taken before after : List Note} {n m : Note}
    (grown : taken ++ [n] = before ++ m :: after) :
    after = [] ∧ taken = before ∧ n = m ∨
      ∃ rest, after = rest ++ [n] ∧ taken = before ++ m :: rest := by
  rcases List.eq_nil_or_concat after with rfl | ⟨rest, last, rfl⟩
  · obtain ⟨same, now⟩ := List.append_inj' grown rfl
    exact Or.inl ⟨rfl, same, List.singleton_inj.mp now⟩
  · rw [List.concat_eq_append, ← List.cons_append, ← List.append_assoc] at grown
    obtain ⟨same, now⟩ := List.append_inj' grown rfl
    cases List.singleton_inj.mp now
    exact Or.inr ⟨rest, List.concat_eq_append, same⟩

/-- What holds between any two turns. The last three say which announcements may be overtaken: only
those of a registration that is not inclusive, on their way to a session that has been hasty. -/
structure WireInvariant (c : Constants) (w : Workers) (hasty : SessionId → String → Nat → Prop) :
    Prop where
  entitled : ∀ s a, w.work s = .asked a → speaksFor s (w.past c) a = true
  numbered : ∀ s id label tag k, w.Telling s id (called c label tag k) →
    k ≤ roundOf label (w.past c)
  awaited : ∀ s id label tag r, w.Telling s id (called c label tag (roundOf label (w.past c))) →
    registration? label (w.past c) = some r → Inclusive r →
      Awaits c.policy label r s (w.past c) ∧ ¬ EverCovered c.policy label (w.past c)
  announced : ∀ label r h m id, registration? label (w.past c) = some r →
    ¬ EverCovered c.policy label (w.past c) → h ∈ scope c.policy r (w.past c) →
    federate? h (w.past c) = some m → m.session = some id → w.closed id = false →
      called c label r.tag (roundOf label (w.past c)) ∈ w.queue id ∨
        ∃ s, w.Telling s id (called c label r.tag (roundOf label (w.past c)))
  covered : ∀ id label k,
    (reported c label k ∈ w.queue id ∨ ∃ s, w.Telling s id (reported c label k)) →
      EverCovered c.policy label (w.past c) ∧ k = roundOf label (w.past c)
  patient : ∀ label r h id, registration? label (w.past c) = some r → ¬ Inclusive r →
    h ∈ achievers label (w.past c) → OwnedBy id h (w.past c) →
      w.AllTold c id label (roundOf label (w.past c)) ∨ hasty id label (roundOf label (w.past c))
  informed : ∀ s id label k r, w.Telling s id (reported c label k) → w.closed id = false →
    registration? label (w.past c) = some r →
      called c label r.tag k ∈ w.queue id ∧ w.AllTold c id label k ∨
        ¬ Inclusive r ∧ hasty id label k
  ordered : ∀ id before after label k r, w.queue id = before ++ reported c label k :: after →
    registration? label (w.past c) = some r →
      called c label r.tag k ∈ before ∧ (∀ tag, called c label tag k ∉ after) ∧
          w.AllTold c id label k ∨
        ¬ Inclusive r ∧ hasty id label k

namespace WireInvariant

variable {w w' : Workers} {hasty hasty' : SessionId → String → Nat → Prop}

theorem initial (c : Constants) (hasty : SessionId → String → Nat → Prop) :
    WireInvariant c {} hasty where
  entitled := nofun
  numbered := by
    rintro s id label tag k ⟨_, ⟨⟩, -⟩
  awaited := by
    rintro s id label tag r ⟨_, ⟨⟩, -⟩
  announced := nofun
  covered := by
    rintro id label k (⟨⟨⟩⟩ | ⟨s, _, ⟨⟩, -⟩)
  patient := nofun
  informed := nofun
  ordered := by
    intro id before after label k r taken
    simp at taken

theorem carried (inv : WireInvariant c w hasty) (turn : Workers.Carried c w w') :
    WireInvariant c w' hasty := by
  have same := turn.past
  constructor
  case entitled =>
    intro s a asked
    rw [same]
    rcases turn.asked s a asked with before | entitled
    · exact inv.entitled s a before
    · exact entitled
  case numbered =>
    intro s id label tag k told
    rw [same]
    exact inv.numbered s id label tag k (turn.telling s id _ told)
  case awaited =>
    rw [same]
    intro s id label tag r told
    exact inv.awaited s id label tag r (turn.telling s id _ told)
  case announced =>
    rw [same]
    intro label r h m id registered pending member held through unclosed
    rcases inv.announced label r h m id registered pending member held through
      (turn.closed id unclosed) with taken | ⟨s, told⟩
    · exact Or.inl (turn.mem_queue taken)
    · rcases turn.kept s id _ told unclosed with still | taken
      · exact Or.inr ⟨s, still⟩
      · exact Or.inl taken
  case covered =>
    rw [same]
    rintro id label k (taken | ⟨s, told⟩)
    · rcases turn.queue id with still | ⟨s, n, told, -, more⟩
      · rw [still] at taken
        exact inv.covered id label k (Or.inl taken)
      · rw [more] at taken
        rcases List.mem_append.mp taken with before | now
        · exact inv.covered id label k (Or.inl before)
        · cases List.mem_singleton.mp now
          exact inv.covered id label k (Or.inr ⟨s, told⟩)
    · exact inv.covered id label k (Or.inr ⟨s, turn.telling s id _ told⟩)
  case patient =>
    rw [same]
    intro label r h id registered exclusive achieved owned
    exact (inv.patient label r h id registered exclusive achieved owned).imp_left
      turn.allTold
  case informed =>
    rw [same]
    intro s id label k r told unclosed registered
    refine (inv.informed s id label k r (turn.telling s id _ told) (turn.closed id unclosed)
      registered).imp_left ?_
    rintro ⟨taken, told⟩
    exact ⟨turn.mem_queue taken, turn.allTold told⟩
  case ordered =>
    rw [same]
    intro id before after label k r taken registered
    rcases turn.queue id with still | ⟨s, n, telling, unclosed, more⟩
    · rw [still] at taken
      refine (inv.ordered id before after label k r taken registered).imp_left ?_
      rintro ⟨first, never, told⟩
      exact ⟨first, never, turn.allTold told⟩
    · rw [more] at taken
      rcases eq_of_concat_eq_append_cons taken with ⟨rfl, rfl, now⟩ | ⟨rest, rfl, earlier⟩
      · -- The report is the note just taken.
        refine (inv.informed s id label k r (now ▸ telling) unclosed registered).imp_left ?_
        rintro ⟨first, told⟩
        exact ⟨first, fun _ => List.not_mem_nil, turn.allTold told⟩
      · refine (inv.ordered id before rest label k r earlier registered).imp_left ?_
        rintro ⟨first, never, told⟩
        refine ⟨first, fun tag late => ?_, turn.allTold told⟩
        rcases List.mem_append.mp late with late | now
        · exact never tag late
        · cases List.mem_singleton.mp now
          exact told s tag telling

section Update

variable {s : SessionId} {a : Action} (turn : Workers.Updated c w w' s a)
  (few : joins (w'.past c) < 2 ^ 32)

include turn in
theorem past_update : w'.past c = ((c.initial.after w.run).act a).update.toList ++ w.past c := by
  rw [Workers.past, turn.run]
  rfl

include turn few

theorem tells_update (label : String) : Tells c.policy label (w.past c)
    ((c.initial.after w.run).act a).update
    (((c.initial.after w.run).act a).events.filter (·.label = label)) := by
  rw [Workers.past, turn.run] at few
  exact tells_after c a w.run label few

theorem legal_update : Legal (((c.initial.after w.run).act a).update.toList ++ w.past c) := by
  rw [← past_update turn]
  exact (after_reflects c w'.run few).legal

theorem called_update {s' id : SessionId} {tag : Octets} {k : Nat} :
    w'.Telling s' id (called c label tag k) ↔
      s' ≠ s ∧ w.Telling s' id (called c label tag k) ∨
        s' = s ∧ k = roundOf label (w'.past c) ∧ ∃ recipients,
          .announced label tag recipients ∈
            ((c.initial.after w.run).act a).events.filter (·.label = label) ∧
          ∃ h ∈ recipients, ∃ m, federate? h (w'.past c) = some m ∧ m.session = some id := by
  rw [Workers.past, turn.run] at few ⊢
  rw [turn.telling, called_mem_postings_iff few]

theorem reported_update {s' id : SessionId} {k : Nat} :
    w'.Telling s' id (reported c label k) ↔
      s' ≠ s ∧ w.Telling s' id (reported c label k) ∨
        s' = s ∧ k = roundOf label (w'.past c) ∧ ∃ recipients,
          .synchronized label recipients ∈
            ((c.initial.after w.run).act a).events.filter (·.label = label) ∧
          ∃ h ∈ recipients, ∃ m, federate? h (w'.past c) = some m ∧ m.session = some id := by
  rw [Workers.past, turn.run] at few ⊢
  rw [turn.telling, reported_mem_postings_iff few]

omit few in
theorem registration?_update
    (quiet : ∀ d ∈ ((c.initial.after w.run).act a).update.toList, registers label d = false) :
    registration? label (w'.past c) = registration? label (w.past c) := by
  rw [past_update turn, registration?_append quiet]

omit few in
theorem round_update
    (quiet : ∀ d ∈ ((c.initial.after w.run).act a).update.toList, registers label d = false) :
    roundOf label (w'.past c) = roundOf label (w.past c) := by
  rw [past_update turn, round_append quiet]

variable (inv : WireInvariant c w hasty)
include inv

omit few in
theorem made_update {d : Update} (done : ((c.initial.after w.run).act a).update = some d) :
    MadeBy s (w.past c) d :=
  madeBy_of_speaksFor (inv.entitled s a turn.due) done

theorem awaited_update {s' id : SessionId} {tag : Octets} {r : Registration}
    (told : w'.Telling s' id (called c label tag (roundOf label (w'.past c))))
    (registered : registration? label (w'.past c) = some r) (inclusive : Inclusive r) :
    Awaits c.policy label r s' (w'.past c) ∧ ¬ EverCovered c.policy label (w'.past c) := by
  have tells := tells_update turn few label
  have legal := legal_update turn few
  have made {d : Update} := made_update turn inv (d := d)
  rcases (called_update turn few).mp told with ⟨other, before⟩ | ⟨rfl, -, recipients, now, -⟩
  · -- A new registration would have raised the round above that of the announcement.
    have numbered := inv.numbered s' id label tag _ before
    have quiet :
        ∀ d ∈ ((c.initial.after w.run).act a).update.toList, registers label d = false := by
      intro d done
      by_contra anew
      rw [Bool.not_eq_false] at anew
      have more := round_cons label d (w.past c)
      rw [if_pos anew] at more
      rw [past_update turn, Option.mem_toList.mp done] at numbered
      have bound : roundOf label (d :: w.past c) ≤ roundOf label (w.past c) := numbered
      omega
    rw [round_update turn quiet] at before
    rw [registration?_update turn quiet] at registered
    obtain ⟨awaits, pending⟩ := inv.awaited s' id label tag r before registered inclusive
    rw [past_update turn]
    cases done : ((c.initial.after w.run).act a).update with
    | none => exact ⟨awaits, pending⟩
    | some d =>
      rw [done] at legal quiet
      exact awaits.still_pending pending registered (quiet d (by simp)) legal.2 (made done) other
  · rw [past_update turn] at registered ⊢
    cases done : ((c.initial.after w.run).act a).update with
    | none =>
      rw [done] at tells
      rw [tells.nothing] at now
      cases now
    | some d =>
      rw [done] at tells registered legal
      exact tells.awaits now legal (made done) registered inclusive

omit few inv in
theorem telling_of_asked {s' id : SessionId} {n : Note} (told : w.Telling s' id n) : s' ≠ s := by
  rintro rfl
  obtain ⟨postings, telling, -⟩ := told
  cases turn.due.symm.trans telling

theorem announced_update {r : Registration} {h : FederateHandle} {m : Federate} {id : SessionId}
    (registered : registration? label (w'.past c) = some r)
    (pending : ¬ EverCovered c.policy label (w'.past c)) (member : h ∈ scope c.policy r (w'.past c))
    (held : federate? h (w'.past c) = some m) (through : m.session = some id)
    (unclosed : w'.closed id = false) :
    called c label r.tag (roundOf label (w'.past c)) ∈ w'.queue id ∨
      ∃ s, w'.Telling s id (called c label r.tag (roundOf label (w'.past c))) := by
  have tells := tells_update turn few label
  have legal := legal_update turn few
  have told (now : ∃ recipients, h ∈ recipients ∧ .announced label r.tag recipients ∈
      ((c.initial.after w.run).act a).events.filter (·.label = label)) :
      w'.Telling s id (called c label r.tag (roundOf label (w'.past c))) := by
    obtain ⟨recipients, among, now⟩ := now
    exact (called_update turn few).mpr
      (Or.inr ⟨rfl, rfl, recipients, now, h, among, m, held, through⟩)
  rw [past_update turn] at registered member held pending
  by_cases quiet : ∀ d ∈ ((c.initial.after w.run).act a).update.toList, registers label d = false
  · have registered' : registration? label (w.past c) = some r :=
      (registration?_append quiet (w.past c)).symm.trans registered
    have pending' : ¬ EverCovered c.policy label (w.past c) :=
      fun covered => pending (covered.append quiet)
    rcases federate?_update held with ⟨joins, rfl⟩ | before
    · rw [joins] at tells legal member
      exact Or.inr ⟨s, told (tells.calls_newcomer legal registered' pending' member)⟩
    · rw [turn.closed] at unclosed
      rw [turn.queue, round_update turn quiet]
      refine (inv.announced label r h m id registered' pending'
        (mem_scope_of_held before member) before through unclosed).imp_right ?_
      rintro ⟨s', telling⟩
      exact ⟨s', (called_update turn few).mpr (Or.inl ⟨telling_of_asked turn telling, telling⟩)⟩
  · simp only [Option.mem_toList, not_forall, Bool.not_eq_false] at quiet
    obtain ⟨d, done, anew⟩ := quiet
    rw [done] at tells registered member
    exact Or.inr ⟨s, told (tells.calls_members anew registered member)⟩

theorem covered_update {id : SessionId} {k : Nat}
    (mentioned : reported c label k ∈ w'.queue id ∨ ∃ s, w'.Telling s id (reported c label k)) :
    EverCovered c.policy label (w'.past c) ∧ k = roundOf label (w'.past c) := by
  have tells := tells_update turn few label
  have before (mentioned : reported c label k ∈ w.queue id ∨
      ∃ s, w.Telling s id (reported c label k)) :
      EverCovered c.policy label (w'.past c) ∧ k = roundOf label (w'.past c) := by
    obtain ⟨covered, rfl⟩ := inv.covered id label k mentioned
    have quiet := tells.quiet_of_covered covered
    rw [past_update turn]
    exact ⟨covered.append quiet, (round_append quiet _).symm⟩
  rcases mentioned with taken | ⟨s', told⟩
  · rw [turn.queue] at taken
    exact before (Or.inl taken)
  · rcases (reported_update turn few).mp told with ⟨-, telling⟩ | ⟨-, rfl, recipients, now, -⟩
    · exact before (Or.inr ⟨s', telling⟩)
    · rcases tells.cases_covered with ⟨calls, -⟩ | ⟨-, -, covered⟩
      · exact absurd rfl (calls _ now recipients)
      · rw [past_update turn]
        exact ⟨covered, rfl⟩

omit inv in
theorem allTold_update {r : Registration} {id : SessionId} {k : Nat}
    (told : w.AllTold c id label k)
    (quiet : ∀ d ∈ ((c.initial.after w.run).act a).update.toList, registers label d = false)
    (registered : registration? label (w.past c) = some r)
    (ended : r.targets ≠ ∅ ∨ EverCovered c.policy label (w.past c)) : w'.AllTold c id label k := by
  intro s' tag telling
  rcases (called_update turn few).mp telling with ⟨-, before⟩ | ⟨-, -, recipients, now, -⟩
  · exact told s' tag before
  · exact (tells_update turn few label).calls_nobody quiet registered ended now

section Hasty

variable (lasting : ∀ id label k, hasty id label k → hasty' id label k)
include lasting

theorem patient_update {r : Registration} {h : FederateHandle} {id : SessionId}
    (rash : ∀ h s' tag, ((c.initial.after w.run).act a).update = some (.achieved h label) →
      w.Telling s' s (called c label tag (roundOf label (w.past c))) →
        hasty' s label (roundOf label (w.past c)))
    (registered : registration? label (w'.past c) = some r) (exclusive : ¬ Inclusive r)
    (achieved : h ∈ achievers label (w'.past c)) (owned : OwnedBy id h (w'.past c)) :
    w'.AllTold c id label (roundOf label (w'.past c)) ∨
      hasty' id label (roundOf label (w'.past c)) := by
  have legal := legal_update turn few
  have some_ : r.targets ≠ ∅ := fun everybody => exclusive (Or.inl everybody)
  have quiet : ∀ d ∈ ((c.initial.after w.run).act a).update.toList, registers label d = false := by
    intro d done
    rw [past_update turn, Option.mem_toList.mp done] at achieved
    rcases mem_achievers_cons achieved with rfl | ⟨later, -⟩
    · rfl
    · exact later
  rw [registration?_update turn quiet] at registered
  rw [round_update turn quiet]
  have still (told : w.AllTold c id label (roundOf label (w.past c))) :=
    allTold_update turn few told quiet registered (Or.inl some_)
  have earlier (achieved : h ∈ achievers label (w.past c)) (owned : OwnedBy id h (w.past c)) :
      w'.AllTold c id label (roundOf label (w.past c)) ∨
        hasty' id label (roundOf label (w.past c)) :=
    (inv.patient label r h id registered exclusive achieved owned).imp still
      (lasting id label _)
  rw [past_update turn] at achieved owned
  cases done : ((c.initial.after w.run).act a).update with
  | none =>
    rw [done] at achieved owned
    exact earlier achieved owned
  | some d =>
    rw [done] at achieved owned legal
    rcases mem_achievers_cons achieved with rfl | ⟨-, before⟩
    · -- The update is the achievement, so its session is the one that may be hasty.
      obtain rfl : id = s :=
        legal.owner_unique owned ((made_update turn inv done).append [_])
      by_cases told : w.AllTold c id label (roundOf label (w.past c))
      · exact Or.inl (still told)
      · simp only [Workers.AllTold, not_forall, not_not] at told
        obtain ⟨s', tag, telling⟩ := told
        exact Or.inr (rash h s' tag done telling)
    · refine earlier before ?_
      obtain ⟨m, listed, named, through⟩ := owned
      rcases List.mem_cons.mp listed with rfl | listed
      · exact absurd (legal.2.issued_of_achiever before) (named ▸ legal.1)
      · exact ⟨m, listed, named, through⟩

omit lasting in
/-- A point that becomes complete has been announced to all who had to achieve it, unless an
announcement is still on its way to them. -/
theorem called_of_completed {r : Registration} {d : Update} {h : FederateHandle} {m : Federate}
    {id : SessionId} (done : ((c.initial.after w.run).act a).update = some d)
    (registered : registration? label (w.past c) = some r)
    (moved : ∀ m, d ≠ .joined m) (pending : ¬ EverCovered c.policy label (w.past c))
    (member : h ∈ scope c.policy r (w'.past c)) (held : federate? h (w'.past c) = some m)
    (through : m.session = some id) (unclosed : w'.closed id = false)
    (told : w'.AllTold c id label (roundOf label (w.past c))) :
    called c label r.tag (roundOf label (w.past c)) ∈ w'.queue id := by
  have before : federate? h (w.past c) = some m := by
    rw [past_update turn, done] at held
    rcases federate?_update held with ⟨joins, -⟩ | before
    · exact absurd (Option.some.inj joins) (moved m)
    · exact before
  rw [turn.closed] at unclosed
  rw [turn.queue]
  rcases inv.announced label r h m id registered pending (mem_scope_of_held before member)
    before through unclosed with taken | ⟨s', telling⟩
  · exact taken
  · have still := (called_update turn few).mpr (Or.inl ⟨telling_of_asked turn telling, telling⟩)
    exact absurd still (told s' r.tag)

theorem informed_update {s' id : SessionId} {k : Nat} {r : Registration}
    (patient : ∀ h, ¬ Inclusive r → h ∈ achievers label (w'.past c) → OwnedBy id h (w'.past c) →
      w'.AllTold c id label (roundOf label (w'.past c)) ∨
        hasty' id label (roundOf label (w'.past c)))
    (told : w'.Telling s' id (reported c label k)) (unclosed : w'.closed id = false)
    (registered : registration? label (w'.past c) = some r) :
    called c label r.tag k ∈ w'.queue id ∧ w'.AllTold c id label k ∨
      ¬ Inclusive r ∧ hasty' id label k := by
  have tells := tells_update turn few label
  rcases (reported_update turn few).mp told with
    ⟨-, before⟩ | ⟨-, rfl, recipients, now, h, among, m, held, through⟩
  · obtain ⟨covered, -⟩ := inv.covered id label k (Or.inr ⟨s', before⟩)
    have quiet := tells.quiet_of_covered covered
    rw [registration?_update turn quiet] at registered
    rw [turn.closed] at unclosed
    rw [turn.queue]
    refine (inv.informed s' id label k r before unclosed registered).imp ?_
      (And.imp_right (lasting id label k))
    rintro ⟨taken, all⟩
    exact ⟨taken, allTold_update turn few all quiet registered (Or.inr covered)⟩
  · obtain ⟨d, r', done, registered', later, moved, pending, covered, rfl⟩ := tells.completes now
    have quiet :
        ∀ d ∈ ((c.initial.after w.run).act a).update.toList, registers label d = false := by
      simpa [done] using later
    have grown : w'.past c = d :: w.past c := by
      rw [past_update turn, done]
      rfl
    obtain rfl : r' = r := Option.some.inj
      (registered'.symm.trans ((registration?_update turn quiet).symm.trans registered))
    rw [← grown] at among covered
    -- The update completes the point, and its announcement to `id` may still be on its way.
    by_cases all : w'.AllTold c id label (roundOf label (w'.past c))
    · refine Or.inl ⟨?_, all⟩
      rw [round_update turn quiet] at all ⊢
      exact called_of_completed turn few inv done registered' moved pending among held through
        unclosed all
    · have achieved : h ∈ achievers label (w'.past c) := by
        obtain ⟨_, registered'', -, everyone⟩ := covered
        cases registered.symm.trans registered''
        exact (ExtTreeSet.mem_inter_iff.mp (everyone h among)).1
      have exclusive : ¬ Inclusive r' := by
        simp only [Workers.AllTold, not_forall, not_not] at all
        obtain ⟨s'', tag, telling⟩ := all
        intro inclusive
        exact (awaited_update turn few inv telling registered inclusive).2 covered.ever
      refine Or.inr ⟨exclusive, ?_⟩
      exact (patient h exclusive achieved (ownedBy_of_federate? held through)).resolve_left all

theorem ordered_update {id : SessionId} {before after : List Note} {k : Nat} {r : Registration}
    (taken : w'.queue id = before ++ reported c label k :: after)
    (registered : registration? label (w'.past c) = some r) :
    called c label r.tag k ∈ before ∧ (∀ tag, called c label tag k ∉ after) ∧
        w'.AllTold c id label k ∨
      ¬ Inclusive r ∧ hasty' id label k := by
  rw [turn.queue] at taken
  have mentioned : reported c label k ∈ w.queue id := by simp [taken]
  obtain ⟨covered, -⟩ := inv.covered id label k (Or.inl mentioned)
  have quiet := (tells_update turn few label).quiet_of_covered covered
  rw [registration?_update turn quiet] at registered
  refine (inv.ordered id before after label k r taken registered).imp ?_
    (And.imp_right (lasting id label k))
  rintro ⟨first, never, all⟩
  exact ⟨first, never, allTold_update turn few all quiet registered (Or.inr covered)⟩

theorem updated
    (rash : ∀ label h s' tag, ((c.initial.after w.run).act a).update = some (.achieved h label) →
      w.Telling s' s (called c label tag (roundOf label (w.past c))) →
        hasty' s label (roundOf label (w.past c))) :
    WireInvariant c w' hasty' where
  entitled := by
    intro s' b asked
    rw [past_update turn]
    exact speaksFor_append (inv.entitled s' b (turn.asked s' b asked)) _
  numbered := by
    intro s' id label tag k told
    rcases (called_update turn few).mp told with ⟨-, before⟩ | ⟨-, rfl, -⟩
    · have numbered := inv.numbered s' id label tag k before
      rw [past_update turn, roundOf, List.countP_append]
      exact Nat.le_add_left_of_le numbered
    · exact Nat.le_refl _
  awaited := fun _ _ _ _ _ => awaited_update turn few inv
  announced := fun _ _ _ _ _ => announced_update turn few inv
  covered := fun _ _ _ => covered_update turn few inv
  patient := fun label _ _ _ => patient_update turn few inv lasting (rash label)
  informed := by
    intro s' id label k r told unclosed registered
    refine informed_update turn few inv lasting ?_ told unclosed registered
    exact fun h => patient_update turn few inv lasting (rash label) registered
  ordered := fun _ _ _ _ _ _ => ordered_update turn few inv lasting

end Hasty

end Update

theorem mono (inv : WireInvariant c w hasty)
    (lasting : ∀ id label k, hasty id label k → hasty' id label k) : WireInvariant c w hasty' where
  entitled := inv.entitled
  numbered := inv.numbered
  awaited := inv.awaited
  announced := inv.announced
  covered := inv.covered
  patient := fun label r h id registered exclusive achieved owned =>
    (inv.patient label r h id registered exclusive achieved owned).imp_right
      (lasting id label _)
  informed := fun s id label k r told unclosed registered =>
    (inv.informed s id label k r told unclosed registered).imp_right
      (And.imp_right (lasting id label k))
  ordered := fun id before after label k r taken registered =>
    (inv.ordered id before after label k r taken registered).imp_right
      (And.imp_right (lasting id label k))

end WireInvariant

/-- The session has had a federate achieve a label while an announcement of its current registration
was still on its way to the session's own queue. -/
def Hasty (c : Constants) (turns : List WorkerTurn) (s : SessionId) (label : String) (k : Nat) :
    Prop :=
  ∃ later earlier a h, turns = later ++ .update s :: earlier ∧
    (Workers.after c earlier).work s = .asked a ∧
    ((c.initial.after (Workers.after c earlier).run).act a).update = some (.achieved h label) ∧
    k = roundOf label ((Workers.after c earlier).past c) ∧
    ∃ s' tag, (Workers.after c earlier).Telling s' s (called c label tag k)

theorem Hasty.cons {turns : List WorkerTurn} (hasty : Hasty c turns s label k) (turn : WorkerTurn) :
    Hasty c (turn :: turns) s label k := by
  obtain ⟨later, earlier, a, h, rfl, early⟩ := hasty
  exact ⟨turn :: later, earlier, a, h, rfl, early⟩

theorem joins_step (c : Constants) (w : Workers) (turn : WorkerTurn) :
    joins (w.past c) ≤ joins ((w.step c turn).past c) := by
  rcases w.step_cases c turn with carried | ⟨s, a, -, updated⟩
  · exact Nat.le_of_eq (by rw [carried.past])
  · rw [WireInvariant.past_update updated]
    exact joins_tail _ _

theorem after_wireInvariant (c : Constants) (turns : List WorkerTurn)
    (few : joins ((Workers.after c turns).past c) < 2 ^ 32) :
    WireInvariant c (Workers.after c turns) (Hasty c turns) := by
  induction turns with
  | nil => exact WireInvariant.initial c (Hasty c [])
  | cons turn turns ih =>
    have inv := ih (Nat.lt_of_le_of_lt (joins_step c _ turn) few)
    have lasting (id : SessionId) (label : String) (k : Nat) (hasty : Hasty c turns id label k) :
        Hasty c (turn :: turns) id label k := hasty.cons turn
    rcases (Workers.after c turns).step_cases c turn with carried | ⟨s, a, rfl, updated⟩
    · exact (inv.mono lasting).carried carried
    · refine inv.updated updated few lasting ?_
      intro label h s' tag done telling
      exact ⟨[], turns, a, h, rfl, updated.due, done, rfl, s', tag, telling⟩

/-- A queue that takes the report of a registration has taken its announcement before, and takes
none of it afterwards. It may be otherwise only for a registration that is not inclusive, and only
in the queue of a session that has been hasty. -/
theorem announced_before_reported (c : Constants) (turns : List WorkerTurn)
    (few : joins ((Workers.after c turns).past c) < 2 ^ 32) (id : SessionId)
    (before after : List Note) (label : String) (k : Nat)
    (taken : (Workers.after c turns).queue id = before ++ reported c label k :: after) :
    ∃ r, registration? label ((Workers.after c turns).past c) = some r ∧
      k = roundOf label ((Workers.after c turns).past c) ∧
      (called c label r.tag k ∈ before ∧ (∀ tag, called c label tag k ∉ after) ∨
        ¬ Inclusive r ∧ Hasty c turns id label k) := by
  have inv := after_wireInvariant c turns few
  have mentioned : reported c label k ∈ (Workers.after c turns).queue id := by simp [taken]
  obtain ⟨covered, round_eq⟩ := inv.covered id label k (Or.inl mentioned)
  obtain ⟨r, registered⟩ := covered.registered
  refine ⟨r, registered, round_eq, ?_⟩
  refine (inv.ordered id before after label k r taken registered).imp_left ?_
  rintro ⟨first, never, -⟩
  exact ⟨first, never⟩

def seated : List WorkerTurn :=
  [.answer ⟨2⟩, .update ⟨2⟩, .submit ⟨2⟩ (.join "beta" (some ⟨2⟩)),
    .answer ⟨1⟩, .update ⟨1⟩, .submit ⟨1⟩ (.join "alpha" (some ⟨1⟩))]

/-- A point for both; the second federate achieves it before it is told of it. -/
def met : List WorkerTurn :=
  [.answer ⟨1⟩, .post ⟨1⟩, .post ⟨1⟩, .update ⟨1⟩, .submit ⟨1⟩ (.achieve ⟨1⟩ "gate"),
    .answer ⟨1⟩, .post ⟨1⟩, .post ⟨1⟩, .answer ⟨2⟩, .update ⟨2⟩,
    .submit ⟨2⟩ (.achieve ⟨2⟩ "gate"), .update ⟨1⟩, .submit ⟨1⟩ (.register ⟨1⟩ "gate" [7] ∅)] ++
  seated

theorem met_announced_before_reported :
    joins ((Workers.after relay met).past relay) < 2 ^ 32 ∧
      (Workers.after relay met).queue ⟨2⟩ =
        [called relay "gate" [7] 1] ++ reported relay "gate" 1 :: [] ∧
      ∃ r, registration? "gate" ((Workers.after relay met).past relay) = some r ∧
        1 = roundOf "gate" ((Workers.after relay met).past relay) ∧
        (called relay "gate" r.tag 1 ∈ [called relay "gate" [7] 1] ∧
            (∀ tag, called relay "gate" tag 1 ∉ ([] : List Note)) ∨
          ¬ Inclusive r ∧ Hasty relay met ⟨2⟩ "gate" 1) := by
  have few : joins ((Workers.after relay met).past relay) < 2 ^ 32 := by decide +kernel
  have taken : (Workers.after relay met).queue ⟨2⟩ =
      [called relay "gate" [7] 1] ++ reported relay "gate" 1 :: [] := by decide +kernel
  exact ⟨few, taken, announced_before_reported relay met few ⟨2⟩ _ _ "gate" 1 taken⟩

def AnnouncedFirst (c : Constants) (turns : List WorkerTurn) : Prop :=
  ∀ id before after label k,
    (Workers.after c turns).queue id = before ++ reported c label k :: after →
      ∀ tag, called c label tag k ∉ after

/-- A point for the second federate alone, which achieves it and is told so while the worker that
registered it has yet to announce it. -/
def overtaken : List WorkerTurn :=
  [.post ⟨1⟩, .post ⟨2⟩, .update ⟨2⟩, .submit ⟨2⟩ (.achieve ⟨2⟩ "gate"), .update ⟨1⟩,
    .submit ⟨1⟩ (.register ⟨1⟩ "gate" [7] (.ofList [⟨2⟩]))] ++ seated

theorem overtaken_late : ¬ AnnouncedFirst relay overtaken := by
  intro first
  have taken : (Workers.after relay overtaken).queue ⟨2⟩ =
      [] ++ reported relay "gate" 1 :: [called relay "gate" [7] 1] := by decide +kernel
  exact first ⟨2⟩ [] _ "gate" 1 taken [7] (List.mem_singleton_self _)

end HlaCoordination.Federation
