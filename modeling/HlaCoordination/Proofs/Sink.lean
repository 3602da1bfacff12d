import HlaCoordination.Sink
import Mathlib.Data.List.Induction
import Mathlib.Data.List.Nodup

/-! What a sink does with its handlers, whatever they do themselves. Each type of message keeps the
first handler that was registered for it with success, and of all the answers that a message might
get, the first there is counts. -/
namespace HlaCoordination

def Conduct.error? (c : Conduct) : Option RtiError :=
  match c.outcome with
  | .ok () => none
  | .error e => some e

theorem Response.resolution?_resolveAll (r : Response) (resolutions : List Resolution) :
    (r.resolveAll resolutions).resolution? = r.resolution?.or resolutions.head? := by
  induction resolutions generalizing r with
  | nil => exact Option.or_none.symm
  | cons first later ih =>
    rw [resolveAll, List.foldl_cons]
    refine (ih (r.resolve first)).trans ?_
    cases r with
    | pending => cases first <;> rfl
    | success payload => rfl
    | failure e => rfl

theorem Response.resolve_eq (r : Response) (resolution : Resolution) :
    r.resolve resolution = .ofResolution (r.resolution?.getD resolution) := by
  cases r <;> rfl

namespace Sink

variable {κ σ : Type}

/-- What a message is answered with: the first there is of the response it arrived with, the
handler's first resolution, the error that the handler returned, and a complaint. -/
def answer (h : Handler σ) (t : MessageType) (arrived : Response) (c : Conduct) : Resolution :=
  ((arrived.resolution?.or c.resolutions.head?).or (c.error?.map .error)).getD
    (.error (.internal (.leftUnresolved h.name t)))

theorem settle_eq (h : Handler σ) (t : MessageType) (arrived : Response) (c : Conduct) :
    settle h t arrived c = .ofResolution (answer h t arrived c) := by
  rw [settle, Response.resolve_eq, Conduct.responseFrom, Response.resolution?_resolveAll, answer,
    Conduct.error?]
  cases arrived.resolution?.or c.resolutions.head? with
  | some first => rfl
  | none => cases c.outcome <;> rfl

section Register

variable {s s' : Sink σ} {t : MessageType} {w : Wiring κ σ} {shared : κ} {e : RtiError}

theorem handles_eq_false_iff : s.handles t = false ↔ s.handler? t = none := by
  rw [handles, Option.isSome_eq_false_iff, Option.isNone_iff_eq_none]

theorem register_eq_error_iff : s.register t w shared = .error e ↔
    s.handles t = true ∧ e = .internal (.duplicateHandler s.name t) ∨
      s.handles t = false ∧ w.configure shared = .error e := by
  unfold register
  cases s.handles t with
  | true => simp [eq_comm]
  | false => cases configured : w.configure shared <;> simp [Wiring.connect, configured]

theorem register_eq_ok_iff : s.register t w shared = .ok s' ↔
    s.handles t = false ∧ w.configure shared = .ok () ∧
      s' = s.insert t ⟨w.name, w.process shared⟩ := by
  unfold register
  cases s.handles t with
  | true => simp
  | false => cases configured : w.configure shared <;> simp [Wiring.connect, configured, eq_comm]

end Register

structure Registration (κ σ : Type) where
  type : MessageType
  wiring : Wiring κ σ
  shared : κ

def Registration.handler? (r : Registration κ σ) : Option (Handler σ) :=
  (r.wiring.connect r.shared).toOption

def Registration.offer? (t : MessageType) (r : Registration κ σ) : Option (Handler σ) :=
  if r.type = t then r.handler? else none

namespace Registration

variable {r : Registration κ σ}

theorem handler?_of_ok (configured : r.wiring.configure r.shared = .ok ()) :
    r.handler? = some ⟨r.wiring.name, r.wiring.process r.shared⟩ := by
  rw [handler?, Wiring.connect, configured]
  rfl

theorem handler?_of_error {e : RtiError} (failed : r.wiring.configure r.shared = .error e) :
    r.handler? = none := by
  rw [handler?, Wiring.connect, failed]
  rfl

theorem offer?_self (r : Registration κ σ) : r.offer? r.type = r.handler? := if_pos rfl

theorem offer?_of_ne {t : MessageType} (other : r.type ≠ t) : r.offer? t = none := if_neg other

end Registration

def attempt (s : Sink σ) (r : Registration κ σ) : Except RtiError (Sink σ) :=
  s.register r.type r.wiring r.shared

def enrol (s : Sink σ) (r : Registration κ σ) : Sink σ :=
  match s.attempt r with
  | .ok s' => s'
  | .error _ => s

def enrolAll (s : Sink σ) (calls : List (Registration κ σ)) : Sink σ := calls.foldl enrol s

def callsOf (rows : List (MessageType × Wiring κ σ)) (shared : κ) : List (Registration κ σ) :=
  rows.map fun row => ⟨row.1, row.2, shared⟩

section Calls

variable {s : Sink σ} {r : Registration κ σ}

theorem attempt_fails_iff : (∃ e, s.attempt r = .error e) ↔
    s.handles r.type = true ∨ ∃ e, r.wiring.configure r.shared = .error e := by
  simp only [attempt, register_eq_error_iff]
  cases s.handles r.type <;> simp

theorem enrol_of_error {e : RtiError} (failed : s.attempt r = .error e) : s.enrol r = s := by
  rw [enrol, failed]

theorem enrol_name (s : Sink σ) (r : Registration κ σ) : (s.enrol r).name = s.name := by
  unfold enrol
  split
  · rename_i ok
    obtain ⟨-, -, rfl⟩ := register_eq_ok_iff.mp ok
    rfl
  · rfl

theorem handler?_enrol (s : Sink σ) (r : Registration κ σ) (t : MessageType) :
    (s.enrol r).handler? t = (s.handler? t).or (r.offer? t) := by
  cases tried : s.attempt r with
  | ok s' =>
    obtain ⟨free, configured, rfl⟩ := register_eq_ok_iff.mp tried
    rw [enrol, tried]
    by_cases here : r.type = t
    · subst here
      rw [r.offer?_self, Registration.handler?_of_ok configured, handles_eq_false_iff.mp free]
      exact if_pos rfl
    · rw [Registration.offer?_of_ne here, Option.or_none]
      exact if_neg (Ne.symm here)
  | error e =>
    rw [enrol_of_error tried]
    rcases register_eq_error_iff.mp tried with ⟨taken, -⟩ | ⟨-, failed⟩
    · by_cases here : r.type = t
      · obtain ⟨h, there⟩ := Option.isSome_iff_exists.mp taken
        rw [← here, there, Option.some_or]
      · rw [Registration.offer?_of_ne here, Option.or_none]
    · rw [Registration.offer?, Registration.handler?_of_error failed, ite_self, Option.or_none]

theorem enrolAll_name (s : Sink σ) (calls : List (Registration κ σ)) :
    (s.enrolAll calls).name = s.name := by
  induction calls generalizing s with
  | nil => rfl
  | cons r later ih => exact (ih (s.enrol r)).trans (enrol_name s r)

/-- After the handlers that are there already, the first call that has one counts. -/
theorem handler?_enrolAll (s : Sink σ) (calls : List (Registration κ σ)) (t : MessageType) :
    (s.enrolAll calls).handler? t = (s.handler? t).or (calls.findSome? (·.offer? t)) := by
  induction calls generalizing s with
  | nil => exact Option.or_none.symm
  | cons r later ih =>
    refine (ih (s.enrol r)).trans ?_
    rw [handler?_enrol, Option.or_assoc, List.findSome?_cons]
    cases r.offer? t <;> rfl

end Calls

section Tables

variable {rows before after : List (MessageType × Wiring κ σ)} {shared : κ} {name : String}
  {t : MessageType} {w : Wiring κ σ} {e : RtiError}

/-- The rows are for different types, and all of them can be configured. -/
structure Sound (rows : List (MessageType × Wiring κ σ)) (shared : κ) : Prop where
  distinct : (rows.map Prod.fst).Nodup
  configured : ∀ row ∈ rows, row.2.configure shared = .ok ()

inductive Obstacle (name : String) (shared : κ) (before : List (MessageType × Wiring κ σ))
    (t : MessageType) (w : Wiring κ σ) : RtiError → Prop where
  | taken (there : t ∈ before.map Prod.fst) :
      Obstacle name shared before t w (.internal (.duplicateHandler name t))
  | unconfigured (e : RtiError) (free : t ∉ before.map Prod.fst)
      (failed : w.configure shared = .error e) : Obstacle name shared before t w e

def FirstFailure (name : String) (shared : κ) (rows : List (MessageType × Wiring κ σ))
    (e : RtiError) : Prop :=
  ∃ before t w after, rows = before ++ (t, w) :: after ∧ Sound before shared ∧
    Obstacle name shared before t w e

theorem sound_concat_iff : Sound (before ++ [(t, w)]) shared ↔
    Sound before shared ∧ t ∉ before.map Prod.fst ∧ w.configure shared = .ok () := by
  constructor
  · rintro ⟨distinct, configured⟩
    rw [List.map_append, List.nodup_append] at distinct
    refine ⟨⟨distinct.1, fun row hr => configured row (List.mem_append_left _ hr)⟩, ?_, ?_⟩
    · exact fun taken => distinct.2.2 t taken t List.mem_cons_self rfl
    · exact configured (t, w) (List.mem_append_right _ List.mem_cons_self)
  · rintro ⟨⟨distinct, configured⟩, free, last⟩
    constructor
    · rw [List.map_append, List.nodup_append]
      refine ⟨distinct, List.nodup_singleton t, ?_⟩
      intro u hu v hv same
      obtain rfl : v = t := List.mem_singleton.mp hv
      exact free (same ▸ hu)
    · intro row hr
      rcases List.mem_append.mp hr with hr | hr
      · exact configured row hr
      · rw [List.mem_singleton.mp hr]
        exact last

theorem sound_or_firstFailure (name : String) (rows : List (MessageType × Wiring κ σ))
    (shared : κ) : Sound rows shared ∨ ∃ e, FirstFailure name shared rows e := by
  induction rows using List.reverseRecOn with
  | nil => exact Or.inl ⟨List.nodup_nil, nofun⟩
  | append_singleton before row ih =>
    obtain ⟨t, w⟩ := row
    rcases ih with sound | ⟨e, before', t', w', after, split, sound, obstacle⟩
    · by_cases taken : t ∈ before.map Prod.fst
      · exact Or.inr ⟨_, before, t, w, [], rfl, sound, .taken taken⟩
      · cases configured : w.configure shared with
        | ok => exact Or.inl (sound_concat_iff.mpr ⟨sound, taken, configured⟩)
        | error e =>
          exact Or.inr ⟨e, before, t, w, [], rfl, sound, .unconfigured e taken configured⟩
    · refine Or.inr ⟨e, before', t', w', after ++ [(t, w)], ?_, sound, obstacle⟩
      rw [split, List.append_assoc, List.cons_append]

def built (name : String) (rows : List (MessageType × Wiring κ σ)) (shared : κ) : Sink σ :=
  (empty name).enrolAll (callsOf rows shared)

theorem built_name (name : String) (rows : List (MessageType × Wiring κ σ)) (shared : κ) :
    (built name rows shared).name = name :=
  enrolAll_name (empty name) (callsOf rows shared)

theorem built_concat (name : String) (before : List (MessageType × Wiring κ σ)) (t : MessageType)
    (w : Wiring κ σ) (shared : κ) :
    built name (before ++ [(t, w)]) shared = (built name before shared).enrol ⟨t, w, shared⟩ := by
  rw [built, callsOf, List.map_append, enrolAll, List.foldl_append]
  rfl

theorem handles_built_iff (sound : Sound rows shared) :
    (built name rows shared).handles t = true ↔ t ∈ rows.map Prod.fst := by
  rw [handles, built, handler?_enrolAll, empty, Option.none_or, List.findSome?_isSome_iff]
  constructor
  · rintro ⟨r, hr, offers⟩
    obtain ⟨row, hrow, rfl⟩ := List.mem_map.mp hr
    by_cases here : row.1 = t
    · exact List.mem_map.mpr ⟨row, hrow, here⟩
    · rw [Registration.offer?_of_ne here] at offers
      cases offers
  · intro ht
    obtain ⟨row, hrow, rfl⟩ := List.mem_map.mp ht
    refine ⟨⟨row.1, row.2, shared⟩, List.mem_map.mpr ⟨row, hrow, rfl⟩, ?_⟩
    have offers := Registration.offer?_self ⟨row.1, row.2, shared⟩
    rw [offers, Registration.handler?_of_ok (sound.configured row hrow)]
    rfl

theorem register_built_of_sound (sound : Sound (before ++ [(t, w)]) shared) :
    (built name before shared).register t w shared =
      .ok (built name (before ++ [(t, w)]) shared) := by
  obtain ⟨earlier, free, configured⟩ := sound_concat_iff.mp sound
  have vacant : (built name before shared).handles t = false := by
    rw [← Bool.not_eq_true, handles_built_iff earlier]
    exact free
  have done := register_eq_ok_iff.mpr ⟨vacant, configured, rfl⟩
  rw [built_concat, enrol, attempt, done]

theorem register_built_of_obstacle (sound : Sound before shared)
    (obstacle : Obstacle name shared before t w e) :
    (built name before shared).register t w shared = .error e := by
  rw [register_eq_error_iff, built_name]
  cases obstacle with
  | taken there => exact Or.inl ⟨(handles_built_iff sound).mpr there, rfl⟩
  | unconfigured e free failed =>
    refine Or.inr ⟨?_, failed⟩
    rw [← Bool.not_eq_true, handles_built_iff sound]
    exact free

theorem ofTable_append (sound : Sound before shared) (rows : List (MessageType × Wiring κ σ)) :
    ofTable name (before ++ rows) shared = (built name before shared).registerAll shared rows := by
  induction before using List.reverseRecOn generalizing rows with
  | nil => rfl
  | append_singleton before row ih =>
    obtain ⟨t, w⟩ := row
    rw [List.append_assoc, List.singleton_append, ih (sound_concat_iff.mp sound).1, registerAll,
      register_built_of_sound sound]

theorem ofTable_of_sound (sound : Sound rows shared) :
    ofTable name rows shared = .ok (built name rows shared) := by
  have all : ofTable name (rows ++ []) shared = (built name rows shared).registerAll shared [] :=
    ofTable_append sound []
  rw [List.append_nil] at all
  exact all

theorem ofTable_of_firstFailure (failure : FirstFailure name shared rows e) :
    ofTable name rows shared = .error e := by
  obtain ⟨before, t, w, after, rfl, sound, obstacle⟩ := failure
  rw [ofTable_append sound, registerAll, register_built_of_obstacle sound obstacle]

theorem ofTable_eq_ok_iff {s : Sink σ} :
    ofTable name rows shared = .ok s ↔ Sound rows shared ∧ s = built name rows shared := by
  rcases sound_or_firstFailure name rows shared with sound | ⟨e, failure⟩
  · simp [ofTable_of_sound sound, sound, eq_comm]
  · refine iff_of_false ?_ ?_
    · rw [ofTable_of_firstFailure failure]
      exact nofun
    · rintro ⟨sound, -⟩
      cases (ofTable_of_sound sound).symm.trans (ofTable_of_firstFailure failure)

theorem ofTable_eq_error_iff :
    ofTable name rows shared = .error e ↔ FirstFailure name shared rows e := by
  refine ⟨fun failed => ?_, ofTable_of_firstFailure⟩
  rcases sound_or_firstFailure name rows shared with sound | ⟨e', failure⟩
  · cases failed.symm.trans (ofTable_of_sound sound)
  · cases failed.symm.trans (ofTable_of_firstFailure failure)
    exact failure

end Tables

/-- What holds of a sink after calls that were made to register handlers, the earliest first. -/
structure Lawful (s : Sink σ) (calls : List (Registration κ σ)) : Prop where
  first : ∀ t, s.handler? t = calls.findSome? (·.offer? t)
  fails_iff : ∀ r : Registration κ σ, (∃ e, s.attempt r = .error e) ↔
    s.handles r.type = true ∨ ∃ e, r.wiring.configure r.shared = .error e
  kept : ∀ (r : Registration κ σ) (e : RtiError), s.attempt r = .error e → s.enrol r = s
  added : ∀ (r : Registration κ σ) (s' : Sink σ), s.attempt r = .ok s' → s.enrol r = s' ∧
    s'.handler? r.type = r.handler? ∧ ∀ t, t ≠ r.type → s'.handler? t = s.handler? t
  stays : ∀ t h, s.handler? t = some h → ∀ later : List (Registration κ σ),
    (s.enrolAll later).handler? t = some h
  unhandled : ∀ c state, s.handler? c.messageType = none →
    s.process c state = (.unhandled, c, state)
  handled : ∀ c state h, s.handler? c.messageType = some h →
    s.process c state = (.handled,
      ⟨c.message, .ofResolution (answer h c.messageType c.response (h.process c state).1)⟩,
      (h.process c state).2)

theorem lawful_enrolAll (name : String) (calls : List (Registration κ σ)) :
    Lawful ((empty name : Sink σ).enrolAll calls) calls where
  first t := by rw [handler?_enrolAll, empty, Option.none_or]
  fails_iff r := attempt_fails_iff
  kept r e := enrol_of_error
  added r s' done := by
    obtain ⟨free, configured, rfl⟩ := register_eq_ok_iff.mp done
    refine ⟨by rw [enrol, done], ?_, ?_⟩
    · rw [Registration.handler?_of_ok configured]
      exact if_pos rfl
    · exact fun t other => if_neg other
  stays t h there later := by rw [handler?_enrolAll, there, Option.some_or]
  unhandled c state absent := by rw [process, absent]
  handled c state h there := by
    rw [process, there]
    simp only [settle_eq]

structure TableOutcome (name : String) (rows : List (MessageType × Wiring κ σ)) (shared : κ)
    (calls : List (Registration κ σ)) : Prop where
  fails_iff : ∀ e, ofTable name rows shared = .error e ↔ FirstFailure name shared rows e
  makes_iff : (∃ s, ofTable name rows shared = .ok s) ↔ Sound rows shared
  lawful : ∀ s, ofTable name rows shared = .ok s →
    Lawful (s.enrolAll calls) (callsOf rows shared ++ calls)

/-- A table makes a sink, or it fails with the error of its first row that cannot be registered. The
sink it makes is lawful, whatever is registered with it later. -/
theorem tables_dispatch (name : String) (rows : List (MessageType × Wiring κ σ)) (shared : κ)
    (calls : List (Registration κ σ)) : TableOutcome name rows shared calls where
  fails_iff e := ofTable_eq_error_iff
  makes_iff := by simp only [ofTable_eq_ok_iff, exists_and_left, exists_eq, and_true]
  lawful s made := by
    obtain ⟨sound, rfl⟩ := ofTable_eq_ok_iff.mp made
    have lawful := lawful_enrolAll name (callsOf rows shared ++ calls)
    rw [enrolAll, List.foldl_append] at lawful
    exact lawful

end Sink

end HlaCoordination
