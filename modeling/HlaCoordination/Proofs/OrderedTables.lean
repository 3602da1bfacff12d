import HlaCoordination.Handle
import Mathlib.Algebra.Group.Nat.Defs
import Mathlib.Data.List.Nodup

/-! Ordered tables and sets of handles, where the library is silent: what the values of a table
are, and when one set of handles lies in another; and what it is to hand out numbers in order. -/
namespace HlaCoordination

open Std
open DTreeMap.Internal (Impl)

section Values

variable {α β : Type} [Ord α] [TransOrd α]

theorem values_eq_map_snd (m : ExtTreeMap α β) : m.values = m.toList.map Prod.snd := by
  obtain ⟨⟨q⟩⟩ := m
  induction q using Quotient.ind with
  | _ t =>
    change t.inner.values = (Impl.Const.toList t.inner).map Prod.snd
    simp [Impl.values_eq_map_snd, Impl.Const.toList_eq_toListModel_map]

theorem mem_values_iff [LawfulEqOrd α] {m : ExtTreeMap α β} {v : β} :
    v ∈ m.values ↔ ∃ k : α, m[k]? = some v := by
  simp [values_eq_map_snd, ExtTreeMap.mem_toList_iff_getElem?_eq_some]

theorem getElem?_insert_eq_ite [LawfulEqOrd α] [DecidableEq α] (m : ExtTreeMap α β) (k k' : α)
    (v : β) : (m.insert k v)[k']? = if k = k' then some v else m[k']? := by
  simp only [ExtTreeMap.getElem?_insert, Std.compare_eq_iff_eq]

theorem getElem?_erase_eq_ite [LawfulEqOrd α] [DecidableEq α] (m : ExtTreeMap α β) (k k' : α) :
    (m.erase k)[k']? = if k = k' then none else m[k']? := by
  simp only [ExtTreeMap.getElem?_erase, Std.compare_eq_iff_eq]

theorem getElem?_filter_keys [LawfulEqOrd α] (m : ExtTreeMap α β) (q : α → Bool) (k : α) :
    (m.filter fun k _ => q k)[k]? = if q k then m[k]? else none := by
  rw [ExtTreeMap.getElem?_filter']
  cases m[k]? with
  | none => rw [Option.filter_none, ite_self]
  | some v => exact Option.filter_some

theorem insert_eq_self [LawfulEqOrd α] {m : ExtTreeMap α β} {k : α} {v : β} (hk : m[k]? = some v) :
    m.insert k v = m := by
  apply ExtTreeMap.ext_getElem?
  intro k'
  rw [ExtTreeMap.getElem?_insert]
  by_cases same : k = k'
  · rw [if_pos (Std.compare_eq_iff_eq.mpr same), ← same, hk]
  · rw [if_neg (mt Std.compare_eq_iff_eq.mp same)]

theorem insert_insert [LawfulEqOrd α] [DecidableEq α] (m : ExtTreeMap α β) (k : α) (v w : β) :
    (m.insert k v).insert k w = m.insert k w := by
  apply ExtTreeMap.ext_getElem?
  intro k'
  simp only [getElem?_insert_eq_ite]
  split <;> rfl

theorem modify_eq_insert [LawfulEqOrd α] [DecidableEq α] {m : ExtTreeMap α β} {k : α} {v : β}
    (there : m[k]? = some v) (f : β → β) : m.modify k f = m.insert k (f v) := by
  apply ExtTreeMap.ext_getElem?
  intro k'
  rw [ExtTreeMap.getElem?_modify, getElem?_insert_eq_ite]
  by_cases here : k = k'
  · subst here
    simp [there]
  · simp [here]

theorem erase_insert [LawfulEqOrd α] [DecidableEq α] (m : ExtTreeMap α β) (k : α) (v : β) :
    (m.insert k v).erase k = m.erase k := by
  apply ExtTreeMap.ext_getElem?
  intro k'
  simp only [getElem?_erase_eq_ite, getElem?_insert_eq_ite]
  split <;> rfl

theorem getElem?_insert_eq_some_iff [LawfulEqOrd α] {m : ExtTreeMap α β} {k k' : α} {v w : β} :
    (m.insert k v)[k']? = some w ↔ k = k' ∧ w = v ∨ k ≠ k' ∧ m[k']? = some w := by
  rw [ExtTreeMap.getElem?_insert]
  by_cases hk : k = k'
  · simp [hk, eq_comm]
  · simp [hk]

theorem getElem?_erase_eq_some_iff [LawfulEqOrd α] {m : ExtTreeMap α β} {k k' : α} {w : β} :
    (m.erase k)[k']? = some w ↔ k ≠ k' ∧ m[k']? = some w := by
  rw [ExtTreeMap.getElem?_erase]
  by_cases hk : k = k' <;> simp [hk]

theorem nodup_toList (s : ExtTreeSet α) : s.toList.Nodup := by
  refine ExtTreeSet.distinct_toList.imp ?_
  rintro a _ apart rfl
  exact apart Std.compare_self

theorem all_eq_all_toList (s : ExtTreeSet α) (p : α → Bool) : s.all p = s.toList.all p := by
  obtain ⟨⟨⟨q⟩⟩⟩ := s
  induction q using Quotient.ind with
  | _ t =>
    change t.inner.all (fun a _ => p a) = t.inner.keys.all p
    simp [Impl.all_eq_all_toListModel, Impl.keys_eq_keys, Std.Internal.List.keys_eq_map,
      List.all_map, Function.comp_def]

theorem filter_toList_eq [LawfulEqOrd α] [DecidableEq α] (m : ExtTreeMap α β) (k : α) :
    m.toList.filter (·.1 = k) = (m[k]?.map (k, ·)).toList := by
  have nodup : (m.toList.map Prod.fst).Nodup := by
    rw [ExtTreeMap.map_fst_toList_eq_keys]
    exact ExtTreeMap.nodup_keys
  have at_key (v : β) : (k, v) ∈ m.toList ↔ m[k]? = some v :=
    ExtTreeMap.mem_toList_iff_getElem?_eq_some
  have none_left {l : List (α × β)} (hk : k ∉ l.map Prod.fst) : l.filter (·.1 = k) = [] := by
    rw [List.filter_eq_nil_iff]
    intro e he hek
    exact hk (List.mem_map.mpr ⟨e, he, of_decide_eq_true hek⟩)
  cases hk : m[k]? with
  | none =>
    apply none_left
    intro hmem
    obtain ⟨⟨k', v⟩, hv, rfl⟩ := List.mem_map.mp hmem
    simp [(at_key v).mp hv] at hk
  | some v =>
    obtain ⟨l, r, hs⟩ := List.append_of_mem ((at_key v).mpr hk)
    rw [hs, List.map_append, List.map_cons, List.nodup_middle, List.nodup_cons, List.mem_append,
      not_or] at nodup
    obtain ⟨⟨hl, hr⟩, -⟩ := nodup
    rw [hs, List.filter_append, none_left hl, List.filter_cons_of_pos (by simp), none_left hr]
    rfl

theorem filter_filterMap_values [LawfulEqOrd α] [DecidableEq α] {γ : Type} {m : ExtTreeMap α β}
    {φ : β → Option γ} {name : γ → α} (named : ∀ k v e, m[k]? = some v → φ v = some e → name e = k)
    (k : α) : (m.values.filterMap φ).filter (name · = k) = (m[k]?.bind φ).toList := by
  have hφ : ∀ e ∈ m.toList, (φ e.2).filter (name · = k) = if e.1 = k then φ e.2 else none := by
    rintro ⟨k', v⟩ he
    have hv := ExtTreeMap.mem_toList_iff_getElem?_eq_some.mp he
    cases hp : φ v with
    | none => simp
    | some e => simp [named k' v e hv hp, Option.filter_some]
  calc (m.values.filterMap φ).filter (name · = k)
      = m.toList.filterMap fun e => (φ e.2).filter (name · = k) := by
        rw [values_eq_map_snd, List.filterMap_map, List.filter_filterMap]; rfl
    _ = m.toList.filterMap fun e => if e.1 = k then φ e.2 else none := List.filterMap_congr hφ
    _ = (m.toList.filter (·.1 = k)).filterMap fun e => φ e.2 := by
        rw [List.filterMap_filter]; simp
    _ = (m[k]?.bind φ).toList := by
        rw [filter_toList_eq]
        cases m[k]? with
        | none => rfl
        | some v => cases hv : φ v <;> simp [hv]

end Values

namespace HandleSet

theorem mem_ofList {h : FederateHandle} {hs : List FederateHandle} : h ∈ ofList hs ↔ h ∈ hs := by
  simp [ofList]

theorem isSubset_iff {s t : HandleSet} : s.isSubset t = true ↔ ∀ h ∈ s, h ∈ t := by
  simp [isSubset, all_eq_all_toList]

theorem mem_insert_iff {s : HandleSet} {h k : FederateHandle} :
    k ∈ s.insert h ↔ k = h ∨ k ∈ s := by
  rw [ExtTreeSet.mem_insert, Std.compare_eq_iff_eq, eq_comm]

theorem mem_erase_iff {s : HandleSet} {h k : FederateHandle} :
    k ∈ s.erase h ↔ k ≠ h ∧ k ∈ s := by
  rw [ExtTreeSet.mem_erase, ne_eq, Std.compare_eq_iff_eq, eq_comm]

end HandleSet

theorem toNat_succ_of_lt {w : UInt32} (few : w.toNat + 1 < 2 ^ 32) :
    (w + 1).toNat = w.toNat + 1 := by
  rw [UInt32.toNat_add]
  exact Nat.mod_eq_of_lt few

/-- Words listed newest first that have counted up from one. -/
def Numbered (words : List UInt32) : Prop :=
  words.reverse.map UInt32.toNat = List.range' 1 words.length

theorem Numbered.cons {words : List UInt32} {w : UInt32} (counted : Numbered words)
    (next : w.toNat = words.length + 1) : Numbered (w :: words) := by
  unfold Numbered at counted ⊢
  rw [List.reverse_cons, List.map_append, counted, List.length_cons, List.range'_1_concat,
    List.map_singleton, next, Nat.add_comm 1]

theorem Numbered.le_length {words : List UInt32} {w : UInt32} (counted : Numbered words)
    (listed : w ∈ words) : w.toNat ≤ words.length := by
  have mapped : w.toNat ∈ words.reverse.map UInt32.toNat :=
    List.mem_map.mpr ⟨w, List.mem_reverse.mpr listed, rfl⟩
  rw [counted, List.mem_range'_1] at mapped
  omega

theorem Numbered.nodup {words : List UInt32} (counted : Numbered words) : words.Nodup := by
  have mapped : (words.reverse.map UInt32.toNat).Nodup := by
    rw [counted]
    exact List.nodup_range'
  exact List.nodup_reverse.mp (List.Nodup.of_map UInt32.toNat mapped)

end HlaCoordination
