import HlaCoordination.Json.Reader
import HlaCoordination.Proofs.Json.Tokens

/-! The reader undoes the writer: from the tokens of a value the builder makes that value again,
whatever it stands in. -/
namespace HlaCoordination.Json

section Building

variable {frames : List Frame} {ts : List Token}

theorem Build.run_cons {b b' : Build} {t : Token} (step : b.step t = some b') :
    b.run (t :: ts) = b'.run ts := by
  simp [Build.run, step]

theorem run_firstItem (item : Json) (rest : List Json) :
    (Build.firstItem frames).run (itemTokens (item :: rest) ++ ts) =
      (Build.value (.array [] :: frames)).run (itemTokens (item :: rest) ++ ts) := by
  have begun (ts : List Token) : (Build.firstItem frames).run (item.tokens ++ ts) =
      (Build.value (.array [] :: frames)).run (item.tokens ++ ts) := by
    cases item <;> rfl
  cases rest with
  | nil => exact begun ts
  | cons next rest =>
    rw [itemTokens_cons, List.append_assoc, List.append_assoc]
    exact begun _

theorem run_afterItem (items : List Json) :
    (Build.afterItem items frames).run (.closeArray :: ts) =
      (put (.array items.reverse) frames).run ts :=
  Build.run_cons rfl

theorem run_afterMember (members : List (Option String × Json)) :
    (Build.afterMember members frames).run (.closeObject :: ts) =
      (put (.object members.reverse) frames).run ts :=
  Build.run_cons rfl

theorem run_nextKey (done : List (Option String × Json)) (key : Option String) :
    (Build.nextKey done frames).run (.string key :: .colon :: ts) =
      (Build.value (.object done key :: frames)).run ts := rfl

theorem run_firstKey (member : Option String × Json) (rest : List (Option String × Json)) :
    (Build.firstKey frames).run (memberTokens (member :: rest) ++ ts) =
      (Build.nextKey [] frames).run (memberTokens (member :: rest) ++ ts) := by
  obtain ⟨key, value⟩ := member
  cases rest with
  | nil => rfl
  | cons next rest =>
    rw [memberTokens_cons]
    rfl

mutual

theorem run_tokens : ∀ (j : Json) (frames : List Frame) (ts : List Token),
    (Build.value frames).run (j.tokens ++ ts) = (put j frames).run ts
  | .null, _, _ => rfl
  | .bool _, _, _ => rfl
  | .number _, _, _ => rfl
  | .string _, _, _ => rfl
  | .array [], _, _ => rfl
  | .array (item :: rest), frames, ts => by
    have opened : (Build.value frames).step .openArray = some (.firstItem frames) := rfl
    rw [tokens, List.cons_append, List.append_assoc, Build.run_cons opened, run_firstItem]
    exact run_itemTokens (item :: rest) (List.cons_ne_nil _ _) [] frames ts
  | .object [], _, _ => rfl
  | .object (member :: rest), frames, ts => by
    have opened : (Build.value frames).step .openObject = some (.firstKey frames) := rfl
    rw [tokens, List.cons_append, List.append_assoc, Build.run_cons opened, run_firstKey]
    exact run_memberTokens (member :: rest) (List.cons_ne_nil _ _) [] frames ts

theorem run_itemTokens : ∀ items : List Json, items ≠ [] → ∀ (done : List Json)
    (frames : List Frame) (ts : List Token),
    (Build.value (.array done :: frames)).run (itemTokens items ++ .closeArray :: ts) =
      (put (.array (done.reverse ++ items)) frames).run ts
  | [], nonempty, _, _, _ => absurd rfl nonempty
  | [item], _, done, frames, ts => by
    rw [itemTokens, run_tokens item, ← List.reverse_cons]
    exact run_afterItem (item :: done)
  | item :: next :: rest, _, done, frames, ts => by
    have onward := run_itemTokens (next :: rest) (List.cons_ne_nil _ _) (item :: done) frames ts
    have further : (Build.afterItem (item :: done) frames).step .comma =
        some (.value (.array (item :: done) :: frames)) := rfl
    rw [List.reverse_cons, List.append_assoc] at onward
    rw [itemTokens_cons, List.append_assoc, List.append_assoc, run_tokens item]
    exact (Build.run_cons further).trans onward

theorem run_memberTokens : ∀ members : List (Option String × Json), members ≠ [] →
    ∀ (done : List (Option String × Json)) (frames : List Frame) (ts : List Token),
    (Build.nextKey done frames).run (memberTokens members ++ .closeObject :: ts) =
      (put (.object (done.reverse ++ members)) frames).run ts
  | [], nonempty, _, _, _ => absurd rfl nonempty
  | [(key, value)], _, done, frames, ts => by
    rw [memberTokens, ← List.reverse_cons]
    rw [List.cons_append, List.cons_append, run_nextKey, run_tokens value]
    exact run_afterMember ((key, value) :: done)
  | (key, value) :: next :: rest, _, done, frames, ts => by
    have onward := run_memberTokens (next :: rest) (List.cons_ne_nil _ _) ((key, value) :: done)
      frames ts
    have further : (Build.afterMember ((key, value) :: done) frames).step .comma =
        some (.nextKey ((key, value) :: done) frames) := rfl
    rw [List.reverse_cons, List.append_assoc] at onward
    rw [memberTokens_cons, List.append_assoc, List.append_assoc, List.cons_append, List.cons_append,
      run_nextKey, run_tokens value]
    exact (Build.run_cons further).trans onward

end

end Building

/-- Every value is read back from its written form, and nothing of the text is left over. -/
theorem parse?_render (j : Json) : parse? j.render = some j := by
  have built := run_tokens j [] []
  rw [List.append_nil] at built
  rw [parse?, (reads_render j).tokens?, Option.bind_some, built]
  rfl

end HlaCoordination.Json
