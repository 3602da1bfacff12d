import HlaCoordination.Proofs.Federation.Notices

/-! What is told along a run. Of each registration everybody who is due an announcement gets one;
a synchronization is reported once, by the action that brings it about, to federates that had been
told of the point; and after it the label is never named again. -/
namespace HlaCoordination.Federation

open Std History

variable {c : Constants} {f g : Federation} {past : History} {label : String}

section Status

variable {run : List Action} (few : joins (c.initial.history run) < 2 ^ 32)
include few

theorem status?_eq_synchronized_iff : (c.initial.after run).status? label = some .synchronized ↔
    EverCovered c.policy label (c.initial.history run) := by
  have hh := after_tableEntry c run label few
  unfold status?
  cases hp : (c.initial.after run).sync.points[label]? with
  | some p =>
    rw [hp] at hh
    simpa using hh.status
  | none =>
    rw [hp] at hh
    simp only [Option.map_none, reduceCtorEq, false_iff]
    cases hh with
    | unregistered never => exact not_everCovered_of_none never
    | dropped r registered pending deserted => exact pending

theorem status?_eq_announced_iff : (c.initial.after run).status? label = some .announced ↔
    ∃ r ∈ registration? label (c.initial.history run),
      ¬ EverCovered c.policy label (c.initial.history run) ∧
        ¬ Deserted c.policy r (c.initial.history run) := by
  have hh := after_tableEntry c run label few
  unfold status?
  cases hp : (c.initial.after run).sync.points[label]? with
  | some p =>
    rw [hp] at hh
    cases hh with
    | announced r registered pending kept => simp [opened, registered, pending, kept]
    | synchronized r p registered covered status => simp [registered, covered, status]
  | none =>
    rw [hp] at hh
    cases hh with
    | unregistered never => simp [never]
    | dropped r registered pending deserted => simp [registered, deserted]

end Status

/-- Who is due an announcement of a point: its targets, or if it has none, whoever was joined when
it was registered or joined while it was open. The registration is the last action of `start`. -/
def Due (c : Constants) (label : String) (targets : HandleSet) (start later : List Action)
    (h : FederateHandle) : Prop :=
  h ∈ targets ∨ targets = ∅ ∧
    (h ∈ (c.initial.after start).joined ∨
      ∃ rest b before m, later = rest ++ b :: before ∧
        ((c.initial.after (before ++ start)).act b).update = some (.joined m) ∧ m.handle = h ∧
        (c.initial.after (before ++ start)).status? label = some .announced)

theorem due_nil_iff {targets : HandleSet} {start : List Action} {h : FederateHandle} :
    Due c label targets start [] h ↔
      h ∈ if targets = ∅ then (c.initial.after start).joined else targets := by
  by_cases ht : targets = ∅ <;> simp [Due, ht]

theorem due_cons_iff {targets : HandleSet} {start later : List Action} {b : Action}
    {h : FederateHandle} :
    Due c label targets start (b :: later) h ↔ Due c label targets start later h ∨
      targets = ∅ ∧ ∃ m, ((c.initial.after (later ++ start)).act b).update = some (.joined m) ∧
        m.handle = h ∧ (c.initial.after (later ++ start)).status? label = some .announced := by
  constructor
  · rintro (ht | ⟨ht, hj | ⟨rest, b', before, m, hl, hm⟩⟩)
    · exact Or.inl (Or.inl ht)
    · exact Or.inl (Or.inr ⟨ht, Or.inl hj⟩)
    · cases rest with
      | nil =>
        cases hl
        exact Or.inr ⟨ht, m, hm⟩
      | cons b'' rest =>
        cases hl
        exact Or.inl (Or.inr ⟨ht, Or.inr ⟨rest, b', before, m, rfl, hm⟩⟩)
  · rintro ((ht | ⟨ht, hj | ⟨rest, b', before, m, rfl, hm⟩⟩) | ⟨ht, m, hm⟩)
    · exact Or.inl ht
    · exact Or.inr ⟨ht, Or.inl hj⟩
    · exact Or.inr ⟨ht, Or.inr ⟨b :: rest, b', before, m, rfl, hm⟩⟩
    · exact Or.inr ⟨ht, Or.inr ⟨[], b, later, m, rfl, hm⟩⟩

def Quiet (c : Constants) (label : String) (start later : List Action) : Prop :=
  ∀ d ∈ (c.initial.after start).history later, registers label d = false

theorem quiet_nil {start : List Action} : Quiet c label start [] := by simp [Quiet, history]

theorem quiet_cons_iff {start later : List Action} {b : Action} :
    Quiet c label start (b :: later) ↔
      (∀ d ∈ ((c.initial.after (later ++ start)).act b).update, registers label d = false) ∧
        Quiet c label start later := by
  simp only [Quiet, history, after_append, List.mem_append, Option.mem_toList, or_imp,
    forall_and]
  rfl

section Registered

variable {a : Action} {earlier : List Action} {g : FederateHandle} {tag : Octets}
  {targets : HandleSet}
  (registered : ((c.initial.after earlier).act a).update = some (.registered g label tag targets))
include registered

theorem registration?_since {later : List Action} (quiet : Quiet c label (a :: earlier) later) :
    registration? label (c.initial.history (later ++ a :: earlier)) = some ⟨g, tag, targets⟩ := by
  rw [history_append, registration?_append quiet]
  simp [history, registered, registration?]

theorem Due.issued {later : List Action} {h : FederateHandle}
    (few : joins (c.initial.history (later ++ a :: earlier)) < 2 ^ 32)
    (due : Due c label targets (a :: earlier) later h) :
    Issued h (c.initial.history (later ++ a :: earlier)) := by
  induction later with
  | nil =>
    have hf := after_reflects c (a :: earlier) few
    have hr : registration? label (c.initial.history (a :: earlier)) = some ⟨g, tag, targets⟩ := by
      simp [history, registered, registration?]
    rcases due with ht | ⟨-, hj | ⟨rest, b, before, m, hl, -⟩⟩
    · exact hf.legal.issued_of_target hr ht
    · exact issued_of_mem_joined (hf.joined_eq ▸ hj)
    · simp at hl
  | cons b later ih =>
    have few' := Nat.lt_of_le_of_lt (joins_tail _ _) few
    rcases due_cons_iff.mp due with due | ⟨-, m, hm, rfl, -⟩
    · obtain ⟨m, hm, rfl⟩ := ih few' due
      exact ⟨m, List.mem_append_right _ hm, rfl⟩
    · have hd : .joined m ∈ ((c.initial.after (later ++ a :: earlier)).act b).update.toList := by
        simp [hm]
      exact ⟨m, List.mem_append_left _ hd, rfl⟩

theorem welcomes_iff {later : List Action} {h : FederateHandle} {update : Option Update}
    (few : joins (c.initial.history (later ++ a :: earlier)) < 2 ^ 32)
    (quiet : Quiet c label (a :: earlier) later) :
    Welcomes c.policy label h (c.initial.history (later ++ a :: earlier)) update ↔
      targets = ∅ ∧ ∃ m, update = some (.joined m) ∧ m.handle = h ∧
        (c.initial.after (later ++ a :: earlier)).status? label = some .announced := by
  have hr := registration?_since registered quiet
  rw [status?_eq_announced_iff few, hr]
  constructor
  · rintro ⟨m, r, hd, hm, hr', everybody, pending⟩
    cases hr.symm.trans hr'
    exact ⟨everybody, m, hd, hm, _, rfl, pending, fun hdes => hdes.2.1 everybody⟩
  · rintro ⟨everybody, m, hd, hm, r, ⟨⟩, pending, -⟩
    exact ⟨m, _, hd, hm, hr, everybody, pending⟩

/-- Whoever is due an announcement gets one, and nobody else gets any. -/
theorem announced_as_due {later : List Action} (h : FederateHandle)
    (few : joins (c.initial.history (later ++ a :: earlier)) < 2 ^ 32)
    (quiet : Quiet c label (a :: earlier) later) :
    Due c label targets (a :: earlier) later h ∧
        ((c.initial.after earlier).trace (later ++ [a])).countP (announces label h) = 1 ∨
      ¬ Due c label targets (a :: earlier) later h ∧
        ((c.initial.after earlier).trace (later ++ [a])).countP (announces label h) = 0 := by
  induction later with
  | nil =>
    have ht := tells_after c a earlier label few
    rw [registered] at ht
    have hj :
        History.joined (c.initial.history earlier) = (c.initial.after (a :: earlier)).joined := by
      rw [(after_reflects c (a :: earlier) few).joined_eq]
      simp [history, registered, History.joined]
    have hc : ((c.initial.after earlier).trace ([] ++ [a])).countP (announces label h) =
        [SyncEvent.announced label tag (if targets = ∅ then (c.initial.after (a :: earlier)).joined
          else targets)].countP (announces label h) := by
      rw [← hj, ← ht.of_registered, countP_announces_filter]
      rfl
    rw [hc, due_nil_iff]
    by_cases hm : h ∈ if targets = ∅ then (c.initial.after (a :: earlier)).joined else targets
    · exact Or.inl ⟨hm, by simp [announces, hm]⟩
    · exact Or.inr ⟨hm, by simp [announces, hm]⟩
  | cons b later ih =>
    have few' := Nat.lt_of_le_of_lt (joins_tail _ _) few
    obtain ⟨quiet_b, quiet'⟩ := quiet_cons_iff.mp quiet
    have hb := (tells_after c b (later ++ a :: earlier) label few).countP_announces quiet_b h
    rw [countP_announces_filter, welcomes_iff registered few' quiet'] at hb
    rw [segment_cons, List.countP_append, due_cons_iff]
    rcases ih few' quiet', hb with
      ⟨⟨due, once⟩ | ⟨not_due, never⟩, ⟨welcome, one⟩ | ⟨not_welcome, zero⟩⟩
    · -- a federate that was called before cannot be the one that joins now
      obtain ⟨-, m, hm, rfl, -⟩ := welcome
      have hg := after_reflects c (b :: (later ++ a :: earlier)) few
      have legal := hg.legal
      rw [history, hm] at legal
      exact absurd (due.issued registered few') legal.1
    · exact Or.inl ⟨Or.inl due, by omega⟩
    · exact Or.inl ⟨Or.inr welcome, by omega⟩
    · exact Or.inr ⟨not_or.mpr ⟨not_due, not_welcome⟩, by omega⟩

theorem announced_tag {later : List Action} {tag' : Octets} {recipients : HandleSet}
    (few : joins (c.initial.history (later ++ a :: earlier)) < 2 ^ 32)
    (quiet : Quiet c label (a :: earlier) later)
    (he : .announced label tag' recipients ∈ (c.initial.after earlier).trace (later ++ [a])) :
    tag' = tag := by
  induction later with
  | nil =>
    have ht := tells_after c a earlier label few
    rw [registered] at ht
    have he' : .announced label tag' recipients ∈ ((c.initial.after earlier).act a).events := he
    have hm := mem_filter_label he'
    rw [SyncEvent.label, ht.of_registered, List.mem_singleton, SyncEvent.announced.injEq] at hm
    exact hm.2.1
  | cons b later ih =>
    have few' := Nat.lt_of_le_of_lt (joins_tail _ _) few
    obtain ⟨quiet_b, quiet'⟩ := quiet_cons_iff.mp quiet
    rw [segment_cons, List.mem_append] at he
    rcases he with he | he
    · exact ih few' quiet' he
    · have ht := tells_after c b (later ++ a :: earlier) label few
      exact ht.tag_eq quiet_b (registration?_since registered quiet') (mem_filter_label he)

end Registered

theorem filter_trace_cons (a : Action) (earlier : List Action) :
    (c.initial.trace (a :: earlier)).filter (·.label = label) =
      (c.initial.trace earlier).filter (·.label = label) ++
        ((c.initial.after earlier).act a).events.filter (·.label = label) :=
  List.filter_append _ _

theorem unregistered_unnamed {run : List Action} (few : joins (c.initial.history run) < 2 ^ 32)
    (never : registration? label (c.initial.history run) = none) :
    (c.initial.trace run).filter (·.label = label) = [] := by
  induction run with
  | nil => rfl
  | cons a earlier ih =>
    have few' := Nat.lt_of_le_of_lt (joins_tail _ _) few
    obtain ⟨before, nothing⟩ := (tells_after c a earlier label few).of_never never
    rw [filter_trace_cons, ih few' before, nothing]
    rfl

/-- The label has been synchronized, and that was the last thing told about it. -/
def SynchronizedLast (label : String) (told : List SyncEvent) : Prop :=
  ∃ calls recipients, told = calls ++ [.synchronized label recipients] ∧
    ∀ e ∈ calls, ∀ recipients, e ≠ .synchronized label recipients

/-- What is told about a label, in order: announcements, and once it is synchronized, that it is. -/
theorem trace_shape {run : List Action} (label : String)
    (few : joins (c.initial.history run) < 2 ^ 32) :
    EverCovered c.policy label (c.initial.history run) ∧
        SynchronizedLast label ((c.initial.trace run).filter (·.label = label)) ∨
      ¬ EverCovered c.policy label (c.initial.history run) ∧
        ∀ e ∈ (c.initial.trace run).filter (·.label = label),
          ∀ recipients, e ≠ .synchronized label recipients := by
  induction run with
  | nil => exact Or.inr ⟨not_everCovered_of_none rfl, by simp [trace]⟩
  | cons a earlier ih =>
    have few' := Nat.lt_of_le_of_lt (joins_tail _ _) few
    rw [filter_trace_cons]
    rcases (tells_after c a earlier label few).cases_covered with
      ⟨calls, unchanged, nothing⟩ | ⟨⟨recipients, report⟩, pending, covered⟩
    · rcases ih few' with ⟨covered, settled⟩ | ⟨pending, before⟩
      · refine Or.inl ⟨unchanged.mpr covered, ?_⟩
        rwa [nothing covered, List.append_nil]
      · refine Or.inr ⟨mt unchanged.mp pending, ?_⟩
        intro e he
        rcases List.mem_append.mp he with he | he
        · exact before e he
        · exact calls e he
    · rcases ih few' with ⟨before, -⟩ | ⟨-, before⟩
      · exact absurd before pending
      · exact Or.inl ⟨covered, _, recipients, by rw [report], before⟩

theorem SynchronizedLast.last {before rest : List SyncEvent} {recipients : HandleSet}
    (settled : SynchronizedLast label (before ++ .synchronized label recipients :: rest)) :
    rest = [] := by
  obtain ⟨calls, recipients', split, none_before⟩ := settled
  rcases List.eq_nil_or_concat rest with rfl | ⟨rest, e, rfl⟩
  · rfl
  · have hc : (before ++ .synchronized label recipients :: rest) ++ [e] =
        calls ++ [.synchronized label recipients'] := by simpa using split
    have he := (List.append_inj' hc rfl).1
    exact absurd rfl (none_before (.synchronized label recipients) (by simp [← he]) recipients)

theorem nothing_after_report {run : List Action} (few : joins (c.initial.history run) < 2 ^ 32)
    {before rest : List SyncEvent} {recipients : HandleSet}
    (split : c.initial.trace run = before ++ .synchronized label recipients :: rest) :
    ∀ e ∈ rest, e.label ≠ label := by
  have hf : (c.initial.trace run).filter (·.label = label) =
      before.filter (·.label = label) ++
        .synchronized label recipients :: rest.filter (·.label = label) := by
    rw [split, List.filter_append, List.filter_cons_of_pos (by simp [SyncEvent.label])]
  have nil : rest.filter (·.label = label) = [] := by
    rcases trace_shape label few with ⟨-, settled⟩ | ⟨-, none_told⟩
    · rw [hf] at settled
      exact settled.last
    · refine absurd rfl (none_told (.synchronized label recipients) ?_ recipients)
      rw [hf]
      exact List.mem_append_right _ List.mem_cons_self
  simpa using nil

theorem reported_iff {a : Action} {earlier : List Action}
    (few : joins (c.initial.history (a :: earlier)) < 2 ^ 32) :
    (∃ recipients, .synchronized label recipients ∈ ((c.initial.after earlier).act a).events) ↔
      (c.initial.after earlier).status? label ≠ some .synchronized ∧
        (c.initial.after (a :: earlier)).status? label = some .synchronized := by
  have few' := Nat.lt_of_le_of_lt (joins_tail _ _) few
  rw [ne_eq, status?_eq_synchronized_iff few', status?_eq_synchronized_iff few]
  constructor
  · rintro ⟨recipients, he⟩
    have hm := mem_filter_label he
    rcases (tells_after c a earlier label few).cases_covered with
      ⟨calls, -⟩ | ⟨-, pending, covered⟩
    · exact absurd rfl (calls _ hm recipients)
    · exact ⟨pending, covered⟩
  · rintro ⟨pending, covered⟩
    rcases (tells_after c a earlier label few).cases_covered with
      ⟨-, unchanged, -⟩ | ⟨⟨recipients, report⟩, -⟩
    · exact absurd (unchanged.mp covered) pending
    · have hm : .synchronized label recipients ∈
          ((c.initial.after earlier).act a).events.filter (·.label = label) := by simp [report]
      exact ⟨recipients, List.mem_of_mem_filter hm⟩

theorem exists_registration {run : List Action} {r : Registration}
    (hr : registration? label (c.initial.history run) = some r) :
    ∃ later a earlier, run = later ++ a :: earlier ∧
      ((c.initial.after earlier).act a).update =
        some (.registered r.registrant label r.tag r.targets) ∧
      Quiet c label (a :: earlier) later := by
  induction run with
  | nil => simp [history, registration?] at hr
  | cons a earlier ih =>
    by_cases later : ∀ d ∈ ((c.initial.after earlier).act a).update, registers label d = false
    · rw [history, registration?_append fun d hd => later d (Option.mem_toList.mp hd)] at hr
      obtain ⟨rest, b, before, rfl, registered, quiet⟩ := ih hr
      exact ⟨a :: rest, b, before, rfl, registered, quiet_cons_iff.mpr ⟨later, quiet⟩⟩
    · simp only [Option.mem_def, not_forall, Bool.not_eq_false] at later
      obtain ⟨d, hd, registers⟩ := later
      cases d with
      | registered g l tag targets =>
        have hl : l = label := of_decide_eq_true registers
        subst hl
        simp only [history, hd, Option.toList_some, List.cons_append, registration?, if_true,
          Option.some.injEq] at hr
        subst hr
        exact ⟨[], a, earlier, rfl, hd, quiet_nil⟩
      | joined | resigned | achieved => cases registers

theorem due_of_joined {a : Action} {earlier later : List Action} {g : FederateHandle}
    {tag : Octets} {h : FederateHandle}
    (registered : ((c.initial.after earlier).act a).update = some (.registered g label tag ∅))
    (quiet : Quiet c label (a :: earlier) later)
    (few : joins (c.initial.history (later ++ a :: earlier)) < 2 ^ 32)
    (pending : ¬ EverCovered c.policy label (c.initial.history (later ++ a :: earlier)))
    (hj : h ∈ History.joined (c.initial.history (later ++ a :: earlier))) :
    Due c label ∅ (a :: earlier) later h := by
  induction later with
  | nil =>
    rw [due_nil_iff, if_pos rfl, (after_reflects c (a :: earlier) few).joined_eq]
    exact hj
  | cons b later ih =>
    have few' := Nat.lt_of_le_of_lt (joins_tail _ _) few
    obtain ⟨quiet_b, quiet'⟩ := quiet_cons_iff.mp quiet
    have pending' : ¬ EverCovered c.policy label (c.initial.history (later ++ a :: earlier)) :=
      fun hc => pending (hc.append fun d hd => quiet_b d (Option.mem_toList.mp hd))
    rw [due_cons_iff]
    rcases mem_joined_update hj with hj | ⟨m, hm, hmh⟩
    · exact Or.inl (ih quiet' few' pending' hj)
    · refine Or.inr ⟨rfl, m, hm, hmh, (status?_eq_announced_iff few').mpr ?_⟩
      exact ⟨_, registration?_since registered quiet', pending', fun hd => hd.2.1 rfl⟩

/-- Whoever is told that a point is synchronized is joined, has achieved it, and was told that it
was announced by an earlier action. -/
theorem report_recipients {a : Action} {run : List Action} {recipients : HandleSet}
    (few : joins (c.initial.history (a :: run)) < 2 ^ 32)
    (he : .synchronized label recipients ∈ ((c.initial.after run).act a).events) :
    recipients ≠ ∅ ∧ ∃ later b earlier g tag targets, run = later ++ b :: earlier ∧
      ((c.initial.after earlier).act b).update = some (.registered g label tag targets) ∧
      Quiet c label (b :: earlier) later ∧
      ∀ h ∈ recipients,
        h ∈ (c.initial.after (a :: run)).joined ∧
        h ∈ achievers label (c.initial.history (a :: run)) ∧
        ∃ told, .announced label tag told ∈ (c.initial.after earlier).trace (later ++ [b]) ∧
          h ∈ told := by
  have few' := Nat.lt_of_le_of_lt (joins_tail _ _) few
  have ht := tells_after c a run label few
  obtain ⟨d, r, hd, hr, moved, pending, rfl, some_left, all⟩ :=
    ht.of_synchronized (mem_filter_label he)
  obtain ⟨later, b, earlier, rfl, registered, quiet⟩ := exists_registration hr
  have hp : c.initial.history (a :: (later ++ b :: earlier)) =
      d :: c.initial.history (later ++ b :: earlier) := by
    simp [history, hd]
  refine ⟨some_left, later, b, earlier, _, _, _, rfl, registered, quiet, ?_⟩
  intro h hh
  obtain ⟨achieved, joined⟩ := ExtTreeSet.mem_inter_iff.mp (all h hh)
  rw [(after_reflects c _ few).joined_eq, hp]
  refine ⟨joined, achieved, ?_⟩
  have due : Due c label r.targets (b :: earlier) later h := by
    by_cases everybody : r.targets = ∅
    · rw [everybody] at registered ⊢
      have hj : h ∈ History.joined ((some d).toList ++ c.initial.history (later ++ b :: earlier)) :=
        joined
      rcases mem_joined_update hj with hj | ⟨m, hm, -⟩
      · exact due_of_joined registered quiet few' pending hj
      · exact absurd (Option.some.inj hm) (moved m)
    · refine Or.inl ?_
      unfold scope at hh
      rw [if_neg everybody] at hh
      split at hh
      · exact (ExtTreeSet.mem_inter_iff.mp hh).1
      · exact hh
  rcases announced_as_due registered h few' quiet with ⟨-, once⟩ | ⟨not_due, -⟩
  · obtain ⟨e, called, announced⟩ := List.countP_pos_iff.mp (by rw [once]; exact Nat.one_pos)
    cases e with
    | synchronized => cases announced
    | announced l tag told =>
      simp only [announces, Bool.and_eq_true, decide_eq_true_eq] at announced
      obtain ⟨rfl, hh⟩ := announced
      cases announced_tag registered few' quiet called
      exact ⟨told, called, ExtTreeSet.contains_iff_mem.mp hh⟩
  · exact absurd due not_due

def notice (federation : FederationHandle) : SyncEvent → Notice
  | .announced label tag _ => .announced federation label tag
  | .synchronized label _ => .synchronized federation label

def sessionsAt (past : History) (recipients : HandleSet) : List SessionId :=
  recipients.toList.filterMap fun h => (federate? h past).bind Federate.session

theorem Reflects.delivery_eq (hf : Reflects c f past) (e : SyncEvent) :
    f.delivery e = ⟨notice c.handle e, sessionsAt past e.recipients⟩ := by
  cases e <;> simp only [delivery, notice, sessionsOf, sessionsAt, SyncEvent.recipients, hf.handle,
    hf.federates]

theorem recipients_joined {a : Action} {earlier : List Action} {e : SyncEvent}
    (few : joins (c.initial.history (a :: earlier)) < 2 ^ 32)
    (he : e ∈ ((c.initial.after earlier).act a).events) {h : FederateHandle}
    (hh : h ∈ e.recipients) : h ∈ (c.initial.after (a :: earlier)).joined := by
  have hg := after_reflects c (a :: earlier) few
  rw [hg.joined_eq]
  exact (tells_after c a earlier e.label few).recipients_joined hg.legal (mem_filter_label he) hh

theorem few_of_append {later earlier : List Action}
    (few : joins (c.initial.history (later ++ earlier)) < 2 ^ 32) :
    joins (c.initial.history earlier) < 2 ^ 32 := by
  induction later with
  | nil => exact few
  | cons a later ih => exact ih (Nat.lt_of_le_of_lt (joins_tail _ _) few)

structure TraceLaw (c : Constants) (run : List Action) : Prop where
  /-- Of every registration, until the next one of its label: everybody who is due an announcement
  gets exactly one, with the tag, and nobody else gets any. -/
  announced : ∀ later a earlier g label tag targets, run = later ++ a :: earlier →
    ((c.initial.after earlier).act a).update = some (.registered g label tag targets) →
    Quiet c label (a :: earlier) later →
      (∀ tag' told, .announced label tag' told ∈ (c.initial.after earlier).trace (later ++ [a]) →
        tag' = tag) ∧
      ∀ h, (Due c label targets (a :: earlier) later h →
          ((c.initial.after earlier).trace (later ++ [a])).countP (announces label h) = 1) ∧
        (¬ Due c label targets (a :: earlier) later h →
          ((c.initial.after earlier).trace (later ++ [a])).countP (announces label h) = 0)
  unregistered : ∀ label, registration? label (c.initial.history run) = none →
    ∀ e ∈ c.initial.trace run, e.label ≠ label
  reported : ∀ later a earlier label, run = later ++ a :: earlier →
    ((∃ recipients, .synchronized label recipients ∈ ((c.initial.after earlier).act a).events) ↔
      (c.initial.after earlier).status? label ≠ some .synchronized ∧
        (c.initial.after (a :: earlier)).status? label = some .synchronized)
  last : ∀ label before recipients rest,
    c.initial.trace run = before ++ .synchronized label recipients :: rest →
      ∀ e ∈ rest, e.label ≠ label
  /-- A synchronization is reported to some who are joined, have achieved the point since it was
  registered, and were told of it then. -/
  recipients : ∀ later a earlier label recipients, run = later ++ a :: earlier →
    .synchronized label recipients ∈ ((c.initial.after earlier).act a).events →
      recipients ≠ ∅ ∧ ∃ middle b before g tag targets, earlier = middle ++ b :: before ∧
        ((c.initial.after before).act b).update = some (.registered g label tag targets) ∧
        Quiet c label (b :: before) middle ∧
        ∀ h ∈ recipients,
          h ∈ (c.initial.after (a :: earlier)).joined ∧
          h ∈ achievers label (c.initial.history (a :: earlier)) ∧
          ∃ told, .announced label tag told ∈ (c.initial.after before).trace (middle ++ [b]) ∧
            h ∈ told
  deliveries : ∀ later a earlier, run = later ++ a :: earlier →
    ((c.initial.after earlier).act a).deliveries =
        ((c.initial.after earlier).act a).events.map (fun e =>
          ⟨notice c.handle e, sessionsAt (c.initial.history (a :: earlier)) e.recipients⟩) ∧
      ∀ e ∈ ((c.initial.after earlier).act a).events, ∀ h ∈ e.recipients,
        h ∈ (c.initial.after (a :: earlier)).joined

theorem trace_law (c : Constants) (run : List Action)
    (few : joins (c.initial.history run) < 2 ^ 32) : TraceLaw c run where
  announced := by
    rintro later a earlier g label tag targets rfl registered quiet
    refine ⟨fun tag' told he => announced_tag registered few quiet he, ?_⟩
    intro h
    rcases announced_as_due registered h few quiet with ⟨due, once⟩ | ⟨not_due, never⟩
    · exact ⟨fun _ => once, fun not_due => absurd due not_due⟩
    · exact ⟨fun due => absurd due not_due, fun _ => never⟩
  unregistered := by
    intro label never
    simpa using unregistered_unnamed few never
  reported := by
    rintro later a earlier label rfl
    exact reported_iff (few_of_append few)
  last := fun label before recipients rest split => nothing_after_report few split
  recipients := by
    rintro later a earlier label recipients rfl he
    exact report_recipients (few_of_append few) he
  deliveries := by
    rintro later a earlier rfl
    have few' := few_of_append few
    refine ⟨?_, fun e he h hh => recipients_joined few' he hh⟩
    rw [act_deliveries, Federation.deliveries]
    exact List.map_congr_left fun e _ => (after_reflects c (a :: earlier) few').delivery_eq e

theorem drill_traced :
    joins (relay.initial.history drill) < 2 ^ 32 ∧ TraceLaw relay drill :=
  have few : joins (relay.initial.history drill) < 2 ^ 32 := by decide
  ⟨few, trace_law relay drill few⟩

end HlaCoordination.Federation
