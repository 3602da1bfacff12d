import HlaCoordination.Proofs.Json.Values
import HlaCoordination.Proofs.OrderedTables
import HlaCoordination.SyncPoint.Table

/-! Stored values are read back as they were. Each stored form is undone by its own reader, and
the text between them by the reader of JSON. -/
namespace HlaCoordination

open Std

theorem ofList_toList {α β : Type} [Ord α] [TransOrd α] [LawfulEqOrd α] [DecidableEq α]
    (m : ExtTreeMap α β) : ExtTreeMap.ofList m.toList = m := by
  apply ExtTreeMap.ext_getElem?
  intro k
  cases held : m[k]? with
  | some v =>
    have listed : (k, v) ∈ m.toList := ExtTreeMap.mem_toList_iff_getElem?_eq_some.mpr held
    exact ExtTreeMap.getElem?_ofList_of_mem Std.compare_self ExtTreeMap.distinct_keys_toList listed
  | none =>
    apply ExtTreeMap.getElem?_ofList_of_contains_eq_false
    have absent : k ∉ m.keys := by
      rw [ExtTreeMap.mem_keys, ← ExtTreeMap.isSome_getElem?_iff_mem, held]
      exact Bool.false_ne_true
    rw [ExtTreeMap.map_fst_toList_eq_keys]
    simpa using absent

theorem HandleSet.ofList_toList (s : HandleSet) : HandleSet.ofList s.toList = s := by
  apply ExtTreeSet.ext_mem
  intro h
  rw [HandleSet.mem_ofList, ExtTreeSet.mem_toList]

theorem mapM_map_of_undone {α β : Type} {write : α → β} {read? : β → Option α}
    (undone : ∀ a, read? (write a) = some a) (as : List α) :
    (as.map write).mapM read? = some as := by
  induction as with
  | nil => rfl
  | cons a as ih =>
    rw [List.map_cons, List.mapM_cons, undone, ih]
    rfl

namespace Json

variable {fields : List (String × Json)} {name : String} {value : Json}

theorem member?_of_nodup (nodup : (fields.map Prod.fst).Nodup) (present : (name, value) ∈ fields) :
    member? name (fields.map fun f => (some f.1, f.2)) = some value := by
  suffices alone : (fields.map fun f => (some f.1, f.2)).filter (·.1 == some name) =
      [(some name, value)] by
    rw [member?, alone]
  induction fields with
  | nil => cases present
  | cons f fields ih =>
    obtain ⟨fresh, nodup⟩ := List.nodup_cons.mp nodup
    rcases List.mem_cons.mp present with rfl | later
    · have others : (fields.map fun f => (some f.1, f.2)).filter (·.1 == some name) = [] := by
        rw [List.filter_eq_nil_iff]
        intro m listed same
        obtain ⟨f, held, rfl⟩ := List.mem_map.mp listed
        have named : f.1 = name := Option.some.inj (beq_iff_eq.mp same)
        exact fresh (List.mem_map.mpr ⟨f, held, named⟩)
      simp only [List.map_cons, List.filter_cons, others, beq_self_eq_true, if_true]
    · have different : f.1 ≠ name := by
        rintro rfl
        exact fresh (List.mem_map.mpr ⟨(f.1, value), later, rfl⟩)
      rw [← ih nodup later]
      simp [different]

theorem fields?_record (nodup : (fields.map Prod.fst).Nodup) :
    (record fields).fields? (fields.map Prod.fst) = some (fields.map Prod.snd) := by
  have named : (fields.map fun f => (some f.1, f.2)).all (·.1.isSome) = true := by simp
  have each : ∀ part : List (String × Json), part ⊆ fields →
      (part.map Prod.fst).mapM (member? · (fields.map fun f => (some f.1, f.2))) =
        some (part.map Prod.snd) := by
    intro part within
    induction part with
    | nil => rfl
    | cons f part ih =>
      have first := member?_of_nodup nodup (within List.mem_cons_self)
      have rest := ih fun g hg => within (List.mem_cons_of_mem f hg)
      rw [List.map_cons, List.mapM_cons, first, rest]
      rfl
  rw [record, fields?, if_pos named]
  exact each fields fun _ listed => listed

theorem list?_array {α : Type} {write : α → Json} {item? : Json → Option α}
    (undone : ∀ a, item? (write a) = some a) (as : List α) :
    list? item? (.array (as.map write)) = some as :=
  mapM_map_of_undone undone as

theorem octet?_nat (b : UInt8) : octet? (.nat b.toNat) = some b := by
  simp [octet?, nat, nat?, b.toNat_lt]

theorem word32?_nat (w : UInt32) : word32? (.nat w.toNat) = some w := by
  simp [word32?, nat, nat?, w.toNat_lt]

theorem word64?_nat (w : UInt64) : word64? (.nat w.toNat) = some w := by
  simp [word64?, nat, nat?, w.toNat_lt]

end Json

/-- Every member of a vocabulary is what its own word names. -/
def Vocabulary.Faithful (α : Type) [Vocabulary α] : Prop :=
  ∀ a : α, Vocabulary.member? (Vocabulary.word a) = some a

theorem statuses_faithful : Vocabulary.Faithful SyncStatus := by
  intro s
  cases s <;> rfl

theorem versions_faithful : Vocabulary.Faithful HlaVersion := by
  intro v
  cases v <;> rfl

theorem connections_faithful : Vocabulary.Faithful ConnectionType := by
  intro c
  cases c <;> rfl

theorem logFormats_faithful : Vocabulary.Faithful LogFormat := by
  intro f
  cases f <;> rfl

theorem resignPolicies_faithful : Vocabulary.Faithful ResignPolicy := by
  intro p
  cases p <;> rfl

theorem Json.word?_ofWord {α : Type} [Vocabulary α] (faithful : Vocabulary.Faithful α) (a : α) :
    Json.word? (Json.ofWord a) = some a :=
  faithful a

theorem Json.text?_text (s : String) : Json.text? (.text s) = some s := rfl

theorem FederateHandle.ofJson?_toJson (h : FederateHandle) :
    FederateHandle.ofJson? h.toJson = some h := by
  rw [ofJson?, toJson, Json.word32?_nat]
  rfl

theorem FederationHandle.ofJson?_toJson (h : FederationHandle) :
    FederationHandle.ofJson? h.toJson = some h := by
  rw [ofJson?, toJson, Json.word32?_nat]
  rfl

theorem SessionId.ofJson?_toJson (s : SessionId) : SessionId.ofJson? s.toJson = some s := by
  rw [ofJson?, toJson, Json.word64?_nat]
  rfl

theorem HandleSet.ofJson?_toJson (s : HandleSet) :
    HandleSet.ofJson? (HandleSet.toJson s) = some s := by
  rw [ofJson?, toJson, Json.list?_array FederateHandle.ofJson?_toJson, Option.map_some,
    ofList_toList]

theorem SyncScope.ofJson?_toJson (s : SyncScope) : SyncScope.ofJson? s.toJson = some s := by
  cases s with
  | federationWide => rfl
  | restricted targets =>
    change (HandleSet.ofJson? (HandleSet.toJson targets)).map SyncScope.restricted = _
    rw [HandleSet.ofJson?_toJson]
    rfl

theorem octetsOfJson?_octetsToJson (bs : Octets) : octetsOfJson? (octetsToJson bs) = some bs :=
  Json.list?_array Json.octet?_nat bs

theorem SyncPoint.ofJson?_toJson (p : SyncPoint) : SyncPoint.ofJson? p.toJson = some p := by
  have read : p.toJson.fields? ["label", "tag", "scope", "status", "registrant", "achieved"] =
      some [.text p.label, octetsToJson p.tag, p.scope.toJson, .ofWord p.status,
        p.registrant.toJson, HandleSet.toJson p.achieved] :=
    Json.fields?_record (by simp)
  rw [ofJson?, read]
  simp [Json.text?_text, octetsOfJson?_octetsToJson, SyncScope.ofJson?_toJson,
    Json.word?_ofWord statuses_faithful, FederateHandle.ofJson?_toJson, HandleSet.ofJson?_toJson]

theorem PointMap.ofJson?_toJson (m : PointMap) : PointMap.ofJson? m.toJson = some m := by
  have entry (e : String × SyncPoint) : pointEntry? (some e.1, e.2.toJson) = some e := by
    simp [ pointEntry?, SyncPoint.ofJson?_toJson]
  have entries := mapM_map_of_undone entry m.toList
  rw [toJson, Json.record, List.map_map, ofJson?]
  simp only [Function.comp_def, entries, Option.map_some, PointMap.ofList, ofList_toList]

theorem SchemaRef.ofJson?_toJson (s : SchemaRef) : SchemaRef.ofJson? s.toJson = some s := by
  have read : s.toJson.fields? ["modules"] = some [.array (s.modules.map Json.text)] :=
    Json.fields?_record (by simp)
  rw [ofJson?, read]
  simp [Json.list?_array Json.text?_text]

theorem FederationSummary.ofJson?_toJson (s : FederationSummary) :
    FederationSummary.ofJson? s.toJson = some s := by
  have read : s.toJson.fields? ["name", "handle", "federate_count", "version"] =
      some [.text s.name, s.handle.toJson, .nat s.federateCount.toNat, .ofWord s.version] :=
    Json.fields?_record (by simp)
  rw [ofJson?, read]
  simp [Json.text?_text, FederationHandle.ofJson?_toJson, Json.word64?_nat,
    Json.word?_ofWord versions_faithful]

theorem Config.ofJson?_toJson (c : Config) : Config.ofJson? c.toJson = some c := by
  have read : c.toJson.fields? Config.fieldNames =
      some [.ofWord c.connection, .text c.logFilter, .ofWord c.logFormat,
        .nat c.requestTimeoutMs.toNat, .nat c.noticeQueueCapacity.toNat,
        .ofWord c.resignPolicy] :=
    Json.fields?_record (by simp)
  rw [ofJson?, read]
  simp [Json.text?_text, Json.word64?_nat, Json.word?_ofWord connections_faithful,
    Json.word?_ofWord logFormats_faithful, Json.word?_ofWord resignPolicies_faithful]

def RoundTrips {α : Type} (toJson : α → Json) (ofJson? : Json → Option α) : Prop :=
  ∀ a : α, (Json.parse? (toJson a).render).bind ofJson? = some a

theorem roundTrips_of_undone {α : Type} {toJson : α → Json} {ofJson? : Json → Option α}
    (undone : ∀ a, ofJson? (toJson a) = some a) : RoundTrips toJson ofJson? := by
  intro a
  rw [Json.parse?_render, Option.bind_some, undone]

namespace SyncTable

theorem tryRestore_snapshot (t u : SyncTable) :
    u.tryRestore t.snapshot = (.ok (), { u with points := t.points, restoring := true }) := by
  rw [tryRestore, snapshot, roundTrips_of_undone PointMap.ofJson?_toJson]

theorem restore_snapshot (t u : SyncTable) :
    u.restore t.snapshot = .ok { u with points := t.points, restoring := true } := by
  rw [restore, tryRestore_snapshot]
  rfl

theorem restoring_of_restore {t t' : SyncTable} {s : Snapshot} (accepted : t.restore s = .ok t') :
    t'.restoring = true := by
  unfold restore tryRestore at accepted
  split at accepted
  · cases accepted
    rfl
  · cases accepted

end SyncTable

/-- The stored forms are faithful: of handles, of points and of tables of them, of what a
federation is made from and listed as, and of settings. -/
structure StoredFaithfully : Prop where
  federates : RoundTrips FederateHandle.toJson FederateHandle.ofJson?
  federations : RoundTrips FederationHandle.toJson FederationHandle.ofJson?
  sessions : RoundTrips SessionId.toJson SessionId.ofJson?
  scopes : RoundTrips SyncScope.toJson SyncScope.ofJson?
  statuses : RoundTrips (Json.ofWord (α := SyncStatus)) Json.word?
  points : RoundTrips SyncPoint.toJson SyncPoint.ofJson?
  tables : RoundTrips PointMap.toJson PointMap.ofJson?
  versions : RoundTrips (Json.ofWord (α := HlaVersion)) Json.word?
  schemas : RoundTrips SchemaRef.toJson SchemaRef.ofJson?
  summaries : RoundTrips FederationSummary.toJson FederationSummary.ofJson?
  connections : RoundTrips (Json.ofWord (α := ConnectionType)) Json.word?
  logFormats : RoundTrips (Json.ofWord (α := LogFormat)) Json.word?
  resignPolicies : RoundTrips (Json.ofWord (α := ResignPolicy)) Json.word?
  configs : RoundTrips Config.toJson Config.ofJson?
  carried : ∀ t u : SyncTable,
    u.restore t.snapshot = .ok { u with points := t.points, restoring := true }
  /-- Whatever text a table was restored from, its own snapshot changes nothing. -/
  settled : ∀ (t t' : SyncTable) (s : Snapshot), t.restore s = .ok t' →
    t'.restore t'.snapshot = .ok t'

theorem stored_faithfully : StoredFaithfully where
  federates := roundTrips_of_undone FederateHandle.ofJson?_toJson
  federations := roundTrips_of_undone FederationHandle.ofJson?_toJson
  sessions := roundTrips_of_undone SessionId.ofJson?_toJson
  scopes := roundTrips_of_undone SyncScope.ofJson?_toJson
  statuses := roundTrips_of_undone (Json.word?_ofWord statuses_faithful)
  points := roundTrips_of_undone SyncPoint.ofJson?_toJson
  tables := roundTrips_of_undone PointMap.ofJson?_toJson
  versions := roundTrips_of_undone (Json.word?_ofWord versions_faithful)
  schemas := roundTrips_of_undone SchemaRef.ofJson?_toJson
  summaries := roundTrips_of_undone FederationSummary.ofJson?_toJson
  connections := roundTrips_of_undone (Json.word?_ofWord connections_faithful)
  logFormats := roundTrips_of_undone (Json.word?_ofWord logFormats_faithful)
  resignPolicies := roundTrips_of_undone (Json.word?_ofWord resignPolicies_faithful)
  configs := roundTrips_of_undone Config.ofJson?_toJson
  carried := SyncTable.restore_snapshot
  settled := by
    intro t t' s accepted
    have restoring := SyncTable.restoring_of_restore accepted
    rw [SyncTable.restore_snapshot, ← restoring]

/-- A text no snapshot has: with blanks, an escape, fields out of order and one too many, and a key
that is not the label. -/
def looseText : Snapshot :=
  octets "\x7b \"key\":\x7b\"tag\":[0, 255],\"label\":\"\\u00e9\",\"more\":-1.5,"
    ++ octets "\"scope\":\x7b\"restricted\":[7,7,3]\x7d,\"status\":\"announced\","
    ++ octets "\"registrant\":1,\"achieved\":[]\x7d\x7d\n"

theorem stored_faithfully_of_loose_text : ∃ t : SyncTable,
    ({} : SyncTable).restore looseText = .ok t ∧ t.restore t.snapshot = .ok t := by
  have readable : ((Json.parse? looseText).bind PointMap.ofJson?).isSome = true := by
    decide +kernel
  obtain ⟨points, read⟩ := Option.isSome_iff_exists.mp readable
  have accepted : ({} : SyncTable).restore looseText = .ok { points, restoring := true } := by
    rw [SyncTable.restore, SyncTable.tryRestore, read]
    rfl
  exact ⟨_, accepted, stored_faithfully.settled _ _ _ accepted⟩

end HlaCoordination
