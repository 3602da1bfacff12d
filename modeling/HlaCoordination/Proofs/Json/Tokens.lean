import HlaCoordination.Json.Token

/-! What the scanner finds in the written form of a value: exactly the tokens of that value. A
number is complete only when the octet after it is seen, so the scanner may stop with a token
still due; whatever may follow a value brings it out. -/
namespace HlaCoordination.Json

def Scan.run (s : Scan) : Octets → Option (Scan × List Token)
  | [] => some (s, [])
  | b :: rest => (s.step b).bind fun r => (r.1.run rest).map fun q => (q.1, r.2 ++ q.2)

variable {s s' s'' : Scan} {bs bs' : Octets} {ts ts' : List Token}

theorem run_cons {b : UInt8} (first : s.step b = some (s', ts))
    (rest : s'.run bs = some (s'', ts')) : s.run (b :: bs) = some (s'', ts ++ ts') := by
  simp only [Scan.run, first, Option.bind_some, rest, Option.map_some]

theorem run_append (first : s.run bs = some (s', ts)) (rest : s'.run bs' = some (s'', ts')) :
    s.run (bs ++ bs') = some (s'', ts ++ ts') := by
  induction bs generalizing s ts with
  | nil =>
    cases first
    exact rest
  | cons b bs ih =>
    simp only [Scan.run, Option.bind_eq_some_iff, Option.map_eq_some_iff] at first
    obtain ⟨⟨m, given⟩, step, ⟨m', given'⟩, onward, same⟩ := first
    cases same
    rw [List.append_assoc]
    exact run_cons step (ih onward)

theorem scan_of_run (through : s.run bs = some (s', ts)) (done : s'.finish = some ts') :
    scan s bs = some (ts ++ ts') := by
  induction bs generalizing s ts with
  | nil =>
    cases through
    exact done
  | cons b bs ih =>
    simp only [Scan.run, Option.bind_eq_some_iff, Option.map_eq_some_iff] at through
    obtain ⟨⟨m, given⟩, step, ⟨m', given'⟩, onward, same⟩ := through
    cases same
    simp only [scan, step, Option.bind_some, ih onward, Option.map_some, List.append_assoc]

def closers : List (UInt8 × Token) :=
  [(','.toUInt8, .comma), (']'.toUInt8, .closeArray), ('}'.toUInt8, .closeObject)]

/-- The scanner may stop here: these tokens are due, and they come out with the end of the text or
before the token that closes the value. -/
structure Scan.Rests (s : Scan) (due : List Token) : Prop where
  finish : s.finish = some due
  step : ∀ e ∈ closers, s.step e.1 = some (.gap, due ++ [e.2])

theorem rests_gap : Scan.gap.Rests [] := ⟨rfl, by decide⟩

theorem rests_zero : (Scan.zero false).Rests [.number (some 0)] := ⟨rfl, by decide⟩

theorem rests_digits (negative : Bool) (n : Nat) :
    (Scan.digits negative n).Rests [.number (if negative then none else some n)] := by
  refine ⟨rfl, ?_⟩
  intro e he
  simp only [closers, List.mem_cons, List.not_mem_nil, or_false] at he
  rcases he with rfl | rfl | rfl
  · rfl
  · rfl
  · rfl

theorem hexDigit?_hexDigit : ∀ n, n < 16 → hexDigit? (hexDigit n) = some n := by decide

theorem encodeCode_control : ∀ n, n < 32 → encodeCode n = [n.toUInt8] := by decide

theorem digit?_digitChar : ∀ d, d < 10 → digit? d.digitChar.toUInt8 = some d := by decide

def lettered : Octets := [8, 9, 10, 12, 13]

/-- What the escape of an octet is read as: only a control without a letter of its own is written
as a code unit. -/
def Piece.of (b : UInt8) : Piece :=
  if b < 32 ∧ b ∉ lettered then .codeUnit b.toNat else .octet b

def short : Octets :=
  ['"'.toUInt8, '\\'.toUInt8, 8, 12, '\n'.toUInt8, '\r'.toUInt8, '\t'.toUInt8]

theorem short_of_lettered : ∀ b ∈ lettered, b ∈ short := by decide +kernel

theorem escapeOctet_of_plain {b : UInt8} (plain : b ∉ short) :
    escapeOctet b = if b < 32 then
      octets "\\u00" ++ [hexDigit (b.toNat / 16), hexDigit (b.toNat % 16)] else [b] := by
  simp only [short, List.mem_cons, List.not_mem_nil, or_false, not_or] at plain
  obtain ⟨quote, backslash, backspace, feed, newline, back, tab⟩ := plain
  simp only [escapeOctet, quote, backslash, backspace, feed, newline, back, tab, if_false]

theorem run_control (pieces : List Piece) {b : UInt8} (control : b < 32) :
    Scan.run (.text pieces) (octets "\\u00" ++ [hexDigit (b.toNat / 16), hexDigit (b.toNat % 16)]) =
      some (.text (.codeUnit b.toNat :: pieces), []) := by
  have small : b.toNat < 32 := control
  have opened : Scan.run (.text pieces) (octets "\\u00") = some (.hex pieces 2 0, []) := rfl
  have high : (Scan.hex pieces 2 0).step (hexDigit (b.toNat / 16)) =
      some (.hex pieces 1 (b.toNat / 16), []) := by
    simp [Scan.step, hexDigit?_hexDigit _ (show b.toNat / 16 < 16 by omega)]
  have low : (Scan.hex pieces 1 (b.toNat / 16)).step (hexDigit (b.toNat % 16)) =
      some (.text (.codeUnit b.toNat :: pieces), []) := by
    have value : 16 * (b.toNat / 16) + b.toNat % 16 = b.toNat := by omega
    simp [Scan.step, hexDigit?_hexDigit _ (show b.toNat % 16 < 16 by omega), value]
  exact run_append opened (run_cons high (run_cons low rfl))

theorem run_escapeOctet (pieces : List Piece) (b : UInt8) :
    Scan.run (.text pieces) (escapeOctet b) = some (.text (.of b :: pieces), []) := by
  by_cases plain : b ∉ short
  · have unlettered : b ∉ lettered := fun among => plain (short_of_lettered b among)
    rw [escapeOctet_of_plain plain, Piece.of]
    by_cases control : b < 32
    · rw [if_pos control, if_pos ⟨control, unlettered⟩]
      exact run_control pieces control
    · rw [if_neg control, if_neg (fun h => control h.1)]
      simp only [short, List.mem_cons, List.not_mem_nil, or_false, not_or] at plain
      simp only [Scan.run, Scan.step, plain, control, if_false, Option.bind_some, Option.map_some,
        List.append_nil]
  · simp only [short, List.mem_cons, List.not_mem_nil, or_false, Classical.not_not] at plain
    rcases plain with rfl | rfl | rfl | rfl | rfl | rfl | rfl <;> rfl

theorem joinPieces_of (bs : Octets) : joinPieces (bs.map .of) = some bs := by
  induction bs with
  | nil => rfl
  | cons b bs ih =>
    rw [List.map_cons, Piece.of]
    split
    case isTrue control =>
      have small : b.toNat < 32 := control.1
      have lead : ¬ isLead b.toNat := by grind [isLead]
      have trail : ¬ isTrail b.toNat := by grind [isTrail]
      unfold joinPieces
      rw [if_neg lead, if_neg trail, ih, encodeCode_control _ small]
      simp
    case isFalse => simp only [joinPieces, ih, Option.map_some]

theorem text?_octets (s : String) : HlaCoordination.text? (octets s) = some s := by
  have whole : (⟨(octets s).toArray⟩ : ByteArray) = s.toByteArray := rfl
  rw [HlaCoordination.text?, whole]
  exact dif_pos s.isValidUTF8

theorem run_digit : ∀ d, d < 10 → Scan.run .gap [d.digitChar.toUInt8] =
    some (if d = 0 then .zero false else .digits false d, []) := by
  decide

/-- The last digit is the one the scanner takes last, so the induction is on the number without
it. -/
theorem run_number (n : Nat) : Scan.run .gap (renderNumber (some n)) =
    some (if n = 0 then .zero false else .digits false n, []) := by
  induction n using Nat.strongRecOn with
  | ind n ih =>
  by_cases small : n < 10
  · rw [renderNumber, Nat.toDigits_of_lt_base small]
    exact run_digit n small
  · have large : 10 ≤ n := by omega
    have before := ih (n / 10) (by omega)
    rw [if_neg (by omega)] at before
    have last : Scan.run (.digits false (n / 10)) [(n % 10).digitChar.toUInt8] =
        some (.digits false n, []) := by
      have value : 10 * (n / 10) + n % 10 = n := by omega
      have digit := digit?_digitChar (n % 10) (by omega)
      simp [Scan.run, Scan.step, Scan.continueNumber, digit, value]
    rw [renderNumber, Nat.toDigits_of_base_le (by omega) large, List.map_append,
      if_neg (by omega)]
    exact run_append before last

theorem run_escaped (pieces : List Piece) (bs : Octets) :
    Scan.run (.text pieces) (bs.flatMap escapeOctet) =
      some (.text ((bs.map .of).reverse ++ pieces), []) := by
  induction bs generalizing pieces with
  | nil => rfl
  | cons b bs ih =>
    rw [List.flatMap_cons, List.map_cons, List.reverse_cons, List.append_assoc,
      List.singleton_append]
    exact run_append (run_escapeOctet pieces b) (ih (.of b :: pieces))

theorem decodePieces_octets (s : String) : decodePieces ((octets s).map .of) = some s := by
  rw [decodePieces, joinPieces_of, Option.bind_some, text?_octets]

theorem run_renderText (s : String) :
    Scan.run .gap (renderText s) = some (.gap, [.string (some s)]) := by
  have opened : Scan.run .gap (octets "\"") = some (.text [], []) := rfl
  have closed : Scan.run (.text ((octets s).map .of).reverse) (octets "\"") =
      some (.gap, [.string (some s)]) := by
    have stop : octets "\"" = ['"'.toUInt8] := rfl
    rw [stop]
    simp only [Scan.run, Scan.step, if_true, List.reverse_reverse, decodePieces_octets,
      Option.bind_some, Option.map_some, List.append_nil]
  have inner := run_escaped [] (octets s)
  rw [List.append_nil] at inner
  exact run_append (run_append opened inner) closed

theorem run_renderString : ∀ s : Option String,
    Scan.run .gap (renderString s) = some (.gap, [.string s])
  | some s => run_renderText s
  | none => rfl

/-- Read from a gap, these octets are these tokens, the last of them perhaps only when the text
ends or goes on. -/
def Reads (bs : Octets) (ts : List Token) : Prop :=
  ∃ s done due, Scan.run .gap bs = some (s, done) ∧ s.Rests due ∧ done ++ due = ts

theorem reads_of_run (through : Scan.run .gap bs = some (.gap, ts)) : Reads bs ts :=
  ⟨.gap, ts, [], through, rests_gap, List.append_nil ts⟩

theorem Reads.followed {e : UInt8 × Token} (read : Reads bs ts) (closing : e ∈ closers) :
    Scan.run .gap (bs ++ [e.1]) = some (.gap, ts ++ [e.2]) := by
  obtain ⟨s, done, due, through, rests, rfl⟩ := read
  have last : s.run [e.1] = some (.gap, due ++ [e.2] ++ []) := run_cons (rests.step e closing) rfl
  rw [List.append_nil] at last
  rw [List.append_assoc]
  exact run_append through last

theorem Reads.tokens? (read : Reads bs ts) : tokens? bs = some ts := by
  obtain ⟨s, done, due, through, rests, rfl⟩ := read
  exact scan_of_run through rests.finish

theorem reads_number : ∀ n : Option Nat, Reads (renderNumber n) [.number n]
  | some n => by
    by_cases zero : n = 0
    · subst zero
      exact ⟨.zero false, [], _, run_number 0, rests_zero, rfl⟩
    · have through := run_number n
      rw [if_neg zero] at through
      exact ⟨.digits false n, [], _, through, rests_digits false n, rfl⟩
  | none => ⟨.digits true 1, [], _, rfl, rests_digits true 1, rfl⟩

mutual

def tokens : Json → List Token
  | .null => [.null]
  | .bool b => [.bool b]
  | .number n => [.number n]
  | .string s => [.string s]
  | .array items => .openArray :: (itemTokens items ++ [.closeArray])
  | .object members => .openObject :: (memberTokens members ++ [.closeObject])

def itemTokens : List Json → List Token
  | [] => []
  | [item] => item.tokens
  | item :: rest => item.tokens ++ [.comma] ++ itemTokens rest

def memberTokens : List (Option String × Json) → List Token
  | [] => []
  | [(key, value)] => .string key :: .colon :: value.tokens
  | (key, value) :: rest => .string key :: .colon :: (value.tokens ++ [.comma] ++ memberTokens rest)

end

theorem renderItems_cons (item next : Json) (rest : List Json) :
    renderItems (item :: next :: rest) =
      item.render ++ octets "," ++ renderItems (next :: rest) := rfl

theorem itemTokens_cons (item next : Json) (rest : List Json) :
    itemTokens (item :: next :: rest) = item.tokens ++ [.comma] ++ itemTokens (next :: rest) := rfl

theorem renderMembers_cons (key : Option String) (value : Json) (next : Option String × Json)
    (rest : List (Option String × Json)) :
    renderMembers ((key, value) :: next :: rest) =
      renderString key ++ octets ":" ++ value.render ++ octets "," ++
        renderMembers (next :: rest) := rfl

theorem memberTokens_cons (key : Option String) (value : Json) (next : Option String × Json)
    (rest : List (Option String × Json)) :
    memberTokens ((key, value) :: next :: rest) =
      (.string key :: .colon :: value.tokens) ++ [.comma] ++ memberTokens (next :: rest) := by
  simp [memberTokens]

theorem reads_member (key : Option String) {j : Json} (value : Reads j.render j.tokens) :
    Reads (renderString key ++ octets ":" ++ j.render) (.string key :: .colon :: j.tokens) := by
  obtain ⟨s, done, due, through, rests, written⟩ := value
  have colon : Scan.run .gap (octets ":") = some (.gap, [.colon]) := rfl
  refine ⟨s, .string key :: .colon :: done, due, ?_, rests, by rw [← written]; rfl⟩
  exact run_append (run_append (run_renderString key) colon) through

mutual

theorem reads_render : ∀ j : Json, Reads j.render j.tokens
  | .null => reads_of_run rfl
  | .bool b => reads_of_run (by cases b <;> rfl)
  | .number n => by
    rw [render, tokens]
    exact reads_number n
  | .string s => by
    rw [render, tokens]
    exact reads_of_run (run_renderString s)
  | .array items => by
    rw [render, tokens]
    have opened : Scan.run .gap (octets "[") = some (.gap, [.openArray]) := rfl
    exact reads_of_run (run_append opened (run_renderItems items))
  | .object members => by
    rw [render, tokens]
    have opened : Scan.run .gap (octets "\x7b") = some (.gap, [.openObject]) := rfl
    exact reads_of_run (run_append opened (run_renderMembers members))

theorem run_renderItems : ∀ items : List Json,
    Scan.run .gap (renderItems items ++ octets "]") =
      some (.gap, itemTokens items ++ [.closeArray])
  | [] => rfl
  | [item] => by
    rw [renderItems, itemTokens]
    exact (reads_render item).followed (e := (']'.toUInt8, .closeArray)) (by decide)
  | item :: next :: rest => by
    have first := (reads_render item).followed (e := (','.toUInt8, .comma)) (by decide)
    have others := run_renderItems (next :: rest)
    rw [renderItems_cons, itemTokens_cons, List.append_assoc _ _ (octets "]"),
      List.append_assoc _ _ [Token.closeArray]]
    exact run_append first others

theorem run_renderMembers : ∀ members : List (Option String × Json),
    Scan.run .gap (renderMembers members ++ octets "\x7d") =
      some (.gap, memberTokens members ++ [.closeObject])
  | [] => rfl
  | [(key, value)] =>
    (reads_member key (reads_render value)).followed (e := ('}'.toUInt8, .closeObject)) (by decide)
  | (key, value) :: next :: rest => by
    have first := (reads_member key (reads_render value)).followed (e := (','.toUInt8, .comma))
      (by decide)
    have others := run_renderMembers (next :: rest)
    rw [renderMembers_cons, memberTokens_cons, List.append_assoc _ _ (octets "\x7d"),
      List.append_assoc _ _ [Token.closeObject]]
    exact run_append first others

end

end HlaCoordination.Json
