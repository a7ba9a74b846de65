import Workflow.Proofs.Json.Numeral
import Workflow.Proofs.Json.Seen
import Workflow.Proofs.Json.StringLiteral

/-!
# Written values are scanned

The pretty layout of a value is scanned to what is seen of the value by a reader that goes into
at most 127 containers, and what stands after it is left over. Containers below that are only
skipped, by the walk that keeps the open brackets in a list.

Both walks are bounded by a count. How many steps the skipping walk takes for a value is counted
here, and it is at most twice as many as the value has characters, so that the count taken from
the length of the text suffices.

## Main results

* `skip_prettyAt`: a written value is skipped in as many steps as were counted.
* `scanValue_prettyAt`: a written value is scanned to what is seen of it.
* `scan_toPretty`: **a whole written text is scanned to what is seen of its value.**
-/

namespace Workflow.Json

/-! ### White space -/

/-- A line break and an indent do not count. -/
theorem dropBlank_newline (level : Nat) (cs : List Char) :
    dropBlank (newline level cs) = dropBlank cs := by
  have indent : ∀ n, dropBlank (List.replicate n ' ' ++ cs) = dropBlank cs := by
    intro n
    induction n with
    | zero => rfl
    | succ n ih =>
      rw [List.replicate_succ, List.cons_append, dropBlank_cons _ _ rfl]
      exact ih
  rw [newline, dropBlank_cons _ _ rfl]
  exact indent _

/-- A text that starts with something else has no white space in front. -/
theorem dropBlank_of_not_isSpace {c : Char} (visible : isSpace c = false) (cs : List Char) :
    dropBlank (c :: cs) = c :: cs := by
  rw [dropBlank, List.dropWhile_cons_of_neg (by simp [visible])]

/-- What a value may start with: no white space and no closing bracket. -/
def StartsValue (cs : List Char) : Prop :=
  ∃ c more, cs = c :: more ∧ isSpace c = false ∧ c ≠ ']' ∧ c ≠ '\x7d'

/-- The text of a value has no white space in front. -/
theorem StartsValue.dropBlank {cs : List Char} (starts : StartsValue cs) :
    dropBlank cs = cs := by
  obtain ⟨c, more, rfl, visible, -⟩ := starts
  exact dropBlank_of_not_isSpace visible more

/-- A minus sign or a digit starts a value. -/
theorem startsValue_of_isDigit {c : Char} (number : c = '-' ∨ c.isDigit = true)
    (more : List Char) : StartsValue (c :: more) := by
  refine ⟨c, more, rfl, ?_⟩
  rcases number with rfl | digit
  · decide
  · have other : ∀ d : Char, d.isDigit = false → c ≠ d := by
      rintro d no_digit rfl
      rw [digit] at no_digit
      cases no_digit
    refine ⟨?_, other _ rfl, other _ rfl⟩
    simp [isSpace, other ' ' rfl, other '\n' rfl, other '\t' rfl, other '\r' rfl]

/-- A written value starts like one. -/
theorem startsValue_prettyAt (level : Nat) (v : Value) (rest : List Char) :
    StartsValue (v.prettyAt level rest) := by
  cases v with
  | null => exact ⟨_, _, rfl, rfl, by decide, by decide⟩
  | bool b => cases b <;> exact ⟨_, _, rfl, rfl, by decide, by decide⟩
  | num n =>
    obtain ⟨c, more, written, number⟩ := n.exists_chars_eq_cons
    rw [Value.prettyAt, written]
    exact startsValue_of_isDigit number _
  | str s => exact ⟨_, _, rfl, rfl, by decide, by decide⟩
  | arr items => cases items <;> exact ⟨_, _, rfl, rfl, by decide, by decide⟩
  | obj fields => cases fields <;> exact ⟨_, _, rfl, rfl, by decide, by decide⟩

/-- So do written items. -/
theorem startsValue_prettyItems (level : Nat) (v : Value) (items : List Value)
    (rest : List Char) : StartsValue (Value.prettyItems level (v :: items) rest) := by
  cases items with
  | nil => exact startsValue_prettyAt level v rest
  | cons w more => exact startsValue_prettyAt level v _

/-- Written entries start with a quote, and so like a value. -/
theorem startsValue_prettyEntries (level : Nat) (e : String × Value)
    (fields : List (String × Value)) (rest : List Char) :
    StartsValue (Value.prettyEntries level (e :: fields) rest) := by
  cases fields <;> exact ⟨_, _, rfl, rfl, by decide, by decide⟩

/-- A comma does not go on with a number. -/
theorem endsNumber_comma (cs : List Char) : EndsNumber (',' :: cs) := by
  rintro c ⟨rfl⟩
  decide

/-- Nor does a line break. -/
theorem endsNumber_newline (level : Nat) (cs : List Char) : EndsNumber (newline level cs) := by
  rintro c ⟨rfl⟩
  decide

/-! ### Steps -/

namespace Value

mutual

/-- How many steps the skipping walk takes for a value. -/
def steps : Value → Nat
  | .arr items => stepsItems items + 1
  | .obj fields => stepsEntries fields + 1
  | _ => 1

/-- How many steps it takes for items, each with the comma or bracket behind it. -/
def stepsItems : List Value → Nat
  | [] => 0
  | v :: rest => stepsItems rest + 1 + steps v

/-- How many steps it takes for entries, each with its key and the comma or bracket behind
it. -/
def stepsEntries : List (String × Value) → Nat
  | [] => 0
  | (_, v) :: rest => stepsEntries rest + 1 + steps v + 1

end

end Value

/-- A string has at least its two quotes. -/
theorem length_stringLiteral (s : String) (rest : List Char) :
    rest.length + 2 ≤ (stringLiteral s rest).length := by
  have inside : ∀ cs : List Char,
      rest.length + 1 ≤ (StringLiteral.inside cs rest).length := by
    intro cs
    induction cs with
    | nil => exact Nat.le_refl _
    | cons c cs ih =>
      rw [StringLiteral.inside, List.foldr_cons, List.length_append]
      exact Nat.le_trans ih (Nat.le_add_left _ _)
  rw [stringLiteral_eq, List.length_cons]
  exact Nat.succ_le_succ (inside _)

/-- A line break and an indent make a text longer. -/
theorem length_newline (level : Nat) (rest : List Char) :
    rest.length + 1 ≤ (newline level rest).length := by
  simp [newline]

mutual

/-- **A value takes at most twice as many steps as it has characters.** -/
theorem steps_le_length (level : Nat) (rest : List Char) : ∀ v : Value,
    v.steps + 2 * rest.length ≤ 2 * (v.prettyAt level rest).length
  | .null => by simp [Value.steps, Value.prettyAt]; omega
  | .bool b => by cases b <;> simp [Value.steps, Value.prettyAt, boolChars] <;> omega
  | .num n => by
    obtain ⟨c, more, written, -⟩ := n.exists_chars_eq_cons
    simp [Value.steps, Value.prettyAt, written]
    omega
  | .str s => by
    have long := length_stringLiteral s rest
    simp only [Value.steps, Value.prettyAt]
    omega
  | .arr [] => by simp [Value.steps, Value.stepsItems, Value.prettyAt]; omega
  | .arr (v :: more) => by
    have inner := stepsItems_le_length (level + 1) (newline level (']' :: rest)) (v :: more)
    have before := length_newline (level + 1)
      (Value.prettyItems (level + 1) (v :: more) (newline level (']' :: rest)))
    have behind := length_newline level (']' :: rest)
    simp only [Value.steps, Value.prettyAt, List.length_cons] at inner before behind ⊢
    omega
  | .obj [] => by simp [Value.steps, Value.stepsEntries, Value.prettyAt]; omega
  | .obj (e :: more) => by
    have inner := stepsEntries_le_length (level + 1) (newline level ('\x7d' :: rest)) (e :: more)
    have before := length_newline (level + 1)
      (Value.prettyEntries (level + 1) (e :: more) (newline level ('\x7d' :: rest)))
    have behind := length_newline level ('\x7d' :: rest)
    simp only [Value.steps, Value.prettyAt, List.length_cons] at inner before behind ⊢
    omega

/-- Items take at most two steps for each character and one more. -/
theorem stepsItems_le_length (level : Nat) (rest : List Char) : ∀ items : List Value,
    Value.stepsItems items + 2 * rest.length
      ≤ 2 * (Value.prettyItems level items rest).length + 1
  | [] => by simp [Value.stepsItems, Value.prettyItems]
  | [v] => by
    have single := steps_le_length level rest v
    simp only [Value.stepsItems, Value.prettyItems]
    omega
  | v :: w :: more => by
    have others := stepsItems_le_length level rest (w :: more)
    have break_ := length_newline level (Value.prettyItems level (w :: more) rest)
    have first := steps_le_length level
      (',' :: newline level (Value.prettyItems level (w :: more) rest)) v
    rw [Value.stepsItems, Value.prettyItems]
    · rw [List.length_cons] at first
      omega
    · simp

/-- Entries take at most two steps for each character and one more. -/
theorem stepsEntries_le_length (level : Nat) (rest : List Char) :
    ∀ fields : List (String × Value), Value.stepsEntries fields + 2 * rest.length
      ≤ 2 * (Value.prettyEntries level fields rest).length + 1
  | [] => by simp [Value.stepsEntries, Value.prettyEntries]
  | [(k, v)] => by
    have single := steps_le_length level rest v
    have key := length_stringLiteral k (':' :: ' ' :: v.prettyAt level rest)
    simp only [Value.stepsEntries, Value.prettyEntries, List.length_cons] at key ⊢
    omega
  | (k, v) :: e :: more => by
    have others := stepsEntries_le_length level rest (e :: more)
    have break_ := length_newline level (Value.prettyEntries level (e :: more) rest)
    have first := steps_le_length level
      (',' :: newline level (Value.prettyEntries level (e :: more) rest)) v
    have key := length_stringLiteral k (':' :: ' ' :: v.prettyAt level
      (',' :: newline level (Value.prettyEntries level (e :: more) rest)))
    rw [Value.stepsEntries, Value.prettyEntries]
    · simp only [List.length_cons] at first key
      omega
    · simp

end

/-! ### Skipping -/

variable {fuel : Nat} {stack : List Bracket}

/-- A number is no other token. -/
theorem not_token_of_isDigit {c : Char} (number : c = '-' ∨ c.isDigit = true) :
    ∀ d ∈ ['n', 't', 'f', '"', '[', '\x7b'], c ≠ d := by
  rintro d token rfl
  simp only [List.mem_cons, List.not_mem_nil, or_false] at token
  rcases token with rfl | rfl | rfl | rfl | rfl | rfl <;> exact absurd number (by decide)

/-- A number is passed over. -/
theorem skipAtom_number (n : Number) {rest : List Char} (ends : EndsNumber rest) :
    skipAtom (n.chars ++ rest) = .ok rest := by
  obtain ⟨literal, -, found⟩ := n.scan_chars
  obtain ⟨c, more, written, number⟩ := n.exists_chars_eq_cons
  have scanned := found rest ends
  have other := not_token_of_isDigit number
  rw [written, List.cons_append] at scanned ⊢
  rw [skipAtom, if_pos number, scanned]
  all_goals exact other _ (by decide)

/-- A value without parts is passed over in one step. -/
theorem skip_of_skipAtom {cs rest : List Char} (front : dropBlank cs = cs)
    (square : ∀ more, cs ≠ '[' :: more) (curly : ∀ more, cs ≠ '\x7b' :: more)
    (passed : skipAtom cs = .ok rest) :
    skip (fuel + 1) .value stack cs = skip fuel .next stack rest := by
  rw [skip, front]
  split
  · next more => exact absurd rfl (square more)
  · next more => exact absurd rfl (curly more)
  · rw [passed]

/-- White space in front of a value, a key or a comma does not count. -/
theorem skip_congr {expect : Expect} (inside : expect ≠ .next ∨ stack ≠ []) {cs cs' : List Char}
    (same : dropBlank cs = dropBlank cs') :
    skip fuel expect stack cs = skip fuel expect stack cs' := by
  cases fuel with
  | zero => rfl
  | succ fuel =>
    cases expect with
    | value => simp only [skip, same]
    | key => simp only [skip, same]
    | next =>
      cases stack with
      | nil => simp at inside
      | cons bracket stack => simp only [skip, same]

/-- A container that is not empty is entered. -/
theorem skip_enter (bracket : Bracket) {cs : List Char} (starts : StartsValue cs) (level : Nat) :
    skip (fuel + 1) .value stack
        ((match bracket with | .square => '[' | .curly => '\x7b') :: newline level cs)
      = skip fuel bracket.entry (bracket :: stack) cs := by
  obtain ⟨c, more, rfl, visible, square, curly⟩ := starts
  have front := (dropBlank_newline level (c :: more)).trans (dropBlank_of_not_isSpace visible more)
  cases bracket with
  | square =>
    rw [skip, dropBlank_of_not_isSpace (by decide)]
    simp only [front, Bracket.closing, square, if_false]
  | curly =>
    rw [skip, dropBlank_of_not_isSpace (by decide)]
    simp only [front, Bracket.closing, curly, if_false]

/-- A bracket closes the container that it belongs to. -/
theorem skip_close (bracket : Bracket) (level : Nat) (rest : List Char) :
    skip (fuel + 1) .next (bracket :: stack) (newline level (bracket.closing :: rest))
      = skip fuel .next stack rest := by
  cases bracket <;>
    (rw [skip, dropBlank_newline, dropBlank_of_not_isSpace (by decide)]; rfl)

/-- A comma goes on to the next entry. -/
theorem skip_comma (bracket : Bracket) {cs : List Char} (level : Nat) :
    skip (fuel + 1) .next (bracket :: stack) (',' :: newline level cs)
      = skip fuel bracket.entry (bracket :: stack) cs := by
  rw [skip, dropBlank_of_not_isSpace (by decide)]
  refine (if_pos rfl).trans (skip_congr (.inr (by simp)) (dropBlank_newline level cs))

/-- A key is passed over with its colon. -/
theorem skip_key (k : String) {cs : List Char} :
    skip (fuel + 1) .key stack (stringLiteral k (':' :: ' ' :: cs))
      = skip fuel .value stack cs := by
  rw [stringLiteral_eq, skip, dropBlank_of_not_isSpace (by decide)]
  simp only [StringLiteral.skip_inside,
    dropBlank_of_not_isSpace (show isSpace ':' = false from rfl)]
  exact skip_congr (.inl (by simp)) (dropBlank_cons _ _ rfl)

mutual

/-- **A written value is skipped** in as many steps as were counted. -/
theorem skip_prettyAt (fuel level : Nat) (stack : List Bracket) {rest : List Char}
    (ends : EndsNumber rest) : ∀ v : Value,
      skip (fuel + v.steps) .value stack (v.prettyAt level rest) = skip fuel .next stack rest
  | .null => skip_of_skipAtom rfl (by rintro _ ⟨⟩) (by rintro _ ⟨⟩) rfl
  | .bool true => skip_of_skipAtom rfl (by rintro _ ⟨⟩) (by rintro _ ⟨⟩) rfl
  | .bool false => skip_of_skipAtom rfl (by rintro _ ⟨⟩) (by rintro _ ⟨⟩) rfl
  | .num n => by
    obtain ⟨c, more, written, number⟩ := n.exists_chars_eq_cons
    have other := not_token_of_isDigit number
    refine skip_of_skipAtom (startsValue_prettyAt level (.num n) rest).dropBlank ?_ ?_
      (skipAtom_number n ends)
    · rw [Value.prettyAt, written]
      rintro _ ⟨⟩
      exact other '[' (by decide) rfl
    · rw [Value.prettyAt, written]
      rintro _ ⟨⟩
      exact other '\x7b' (by decide) rfl
  | .str s =>
    skip_of_skipAtom rfl (by rintro _ ⟨⟩) (by rintro _ ⟨⟩) (StringLiteral.skip_inside s rest)
  | .arr [] => rfl
  | .arr (v :: more) => by
    rw [Value.steps, Value.prettyAt]
    · exact (skip_enter .square (startsValue_prettyItems _ v more _) _).trans
        (skip_prettyItems fuel (level + 1) level stack (v :: more) (by simp))
    · simp
  | .obj [] => rfl
  | .obj (e :: more) => by
    rw [Value.steps, Value.prettyAt]
    · exact (skip_enter .curly (startsValue_prettyEntries _ e more _) _).trans
        (skip_prettyEntries fuel (level + 1) level stack (e :: more) (by simp))
    · simp

/-- Written items are skipped with the bracket behind them. -/
theorem skip_prettyItems (fuel level below : Nat) (stack : List Bracket) {rest : List Char} :
    ∀ items : List Value, items ≠ [] →
      skip (fuel + Value.stepsItems items) .value (.square :: stack)
          (Value.prettyItems level items (newline below (']' :: rest)))
        = skip fuel .next stack rest
  | [v], _ => by
    rw [Value.prettyItems, Value.stepsItems, Value.stepsItems, ← Nat.add_assoc,
      skip_prettyAt _ level _ (endsNumber_newline _ _) v]
    exact skip_close .square below rest
  | v :: w :: more, _ => by
    rw [Value.prettyItems, Value.stepsItems, ← Nat.add_assoc, ← Nat.add_assoc,
      skip_prettyAt _ level _ (endsNumber_comma _) v, skip_comma .square]
    · exact skip_prettyItems fuel level below stack (w :: more) (by simp)
    · simp

/-- Written entries are skipped with the bracket behind them. -/
theorem skip_prettyEntries (fuel level below : Nat) (stack : List Bracket) {rest : List Char} :
    ∀ fields : List (String × Value), fields ≠ [] →
      skip (fuel + Value.stepsEntries fields) .key (.curly :: stack)
          (Value.prettyEntries level fields (newline below ('\x7d' :: rest)))
        = skip fuel .next stack rest
  | [(k, v)], _ => by
    rw [Value.prettyEntries, Value.stepsEntries, Value.stepsEntries, ← Nat.add_assoc, skip_key,
      ← Nat.add_assoc, skip_prettyAt _ level _ (endsNumber_newline _ _) v]
    exact skip_close .curly below rest
  | (k, v) :: e :: more, _ => by
    rw [Value.prettyEntries, Value.stepsEntries, ← Nat.add_assoc, skip_key, ← Nat.add_assoc,
      ← Nat.add_assoc, skip_prettyAt _ level _ (endsNumber_comma _) v, skip_comma .curly]
    · exact skip_prettyEntries fuel level below stack (e :: more) (by simp)
    · simp

end

/-! ### Scanning -/

variable {depth room : Nat}

/-- White space in front of a value does not count. -/
theorem scanValue_congr {cs cs' : List Char} (same : dropBlank cs = dropBlank cs') :
    scanValue fuel depth cs = scanValue fuel depth cs' := by
  cases fuel with
  | zero => rfl
  | succ fuel => simp only [scanValue, same]

/-- Nor in front of items. -/
theorem scanItems_congr {cs cs' : List Char} (same : dropBlank cs = dropBlank cs') :
    scanItems fuel depth cs = scanItems fuel depth cs' := by
  cases fuel with
  | zero => rfl
  | succ fuel => simp only [scanItems, scanValue_congr same]

/-- Nor in front of entries. -/
theorem scanFields_congr {cs cs' : List Char} (same : dropBlank cs = dropBlank cs') :
    scanFields fuel depth cs = scanFields fuel depth cs' := by
  cases fuel with
  | zero => rfl
  | succ fuel => simp only [scanFields, same]

/-- A written number is scanned to what is seen of it. -/
theorem number_chars (n : Number) {rest : List Char} (ends : EndsNumber rest) :
    number (n.chars ++ rest) = (Value.seenNumber n.reread?, some rest) := by
  obtain ⟨literal, value, found⟩ := n.scan_chars
  rw [← value]
  simp only [number, found rest ends]
  cases literal.value? <;> rfl

/-- A written string is scanned to itself. -/
theorem quoted_inside (s : String) (rest : List Char) :
    quoted (StringLiteral.inside s.toList rest) = (.str s, some rest) := by
  rw [quoted, StringLiteral.read_inside, StringLiteral.skip_inside]

/-- A written key is scanned to itself. -/
theorem scanKey_inside (k : String) (rest : List Char) :
    scanKey (StringLiteral.inside k.toList rest) = (Scanned.key k, some rest) := by
  rw [scanKey, StringLiteral.skip_inside, StringLiteral.read_inside]
  rfl

/-- A container below the nesting limit that can be skipped is only seen to be one. -/
theorem tooDeep_of_skip (bracket : Bracket) {body rest : List Char} (starts : StartsValue body)
    (level : Nat) (skipped : skip fuel bracket.entry [bracket] body = .ok rest) :
    tooDeep fuel bracket (newline level body) = (.deep bracket none, some rest) := by
  obtain ⟨c, more, rfl, visible, square, curly⟩ := starts
  have opened : c ≠ bracket.closing := by cases bracket <;> assumption
  have through : skipContainer fuel bracket (newline level (c :: more)) = .ok rest := by
    rw [skipContainer, dropBlank_newline, dropBlank_of_not_isSpace visible]
    exact (if_neg opened).trans skipped
  rw [tooDeep, through]

/-- An array below the nesting limit is only seen to be one. -/
theorem tooDeep_prettyItems (level below : Nat) (rest : List Char) (v : Value)
    (more : List Value) (enough : Value.stepsItems (v :: more) < fuel) :
    tooDeep fuel .square
        (newline level (Value.prettyItems level (v :: more) (newline below (']' :: rest))))
      = (.deep .square none, some rest) := by
  obtain ⟨left, rfl⟩ : ∃ left, fuel = left + 1 + Value.stepsItems (v :: more) :=
    ⟨fuel - 1 - Value.stepsItems (v :: more), by omega⟩
  refine tooDeep_of_skip .square (startsValue_prettyItems level v more _) level ?_
  exact skip_prettyItems (left + 1) level below [] (v :: more) (by simp)

/-- An object below the nesting limit is only seen to be one. -/
theorem tooDeep_prettyEntries (level below : Nat) (rest : List Char) (e : String × Value)
    (more : List (String × Value)) (enough : Value.stepsEntries (e :: more) < fuel) :
    tooDeep fuel .curly
        (newline level (Value.prettyEntries level (e :: more) (newline below ('\x7d' :: rest))))
      = (.deep .curly none, some rest) := by
  obtain ⟨left, rfl⟩ : ∃ left, fuel = left + 1 + Value.stepsEntries (e :: more) :=
    ⟨fuel - 1 - Value.stepsEntries (e :: more), by omega⟩
  refine tooDeep_of_skip .curly (startsValue_prettyEntries level e more _) level ?_
  exact skip_prettyEntries (left + 1) level below [] (e :: more) (by simp)

/-- What starts with a minus sign or a digit is a number. -/
theorem scanValue_of_isDigit {c : Char} (isNumber : c = '-' ∨ c.isDigit = true) (cs : List Char) :
    scanValue (fuel + 1) depth (c :: cs) = number (c :: cs) := by
  have other := not_token_of_isDigit isNumber
  rw [scanValue, (startsValue_of_isDigit isNumber cs).dropBlank]
  split
  case h_7 c' cs' _ _ _ _ _ _ same =>
    cases same
    exact if_pos isNumber
  all_goals simp_all

/-- An array below the nesting limit is not gone into. -/
theorem scanValue_square_deep (deep : maxNesting ≤ depth) (cs : List Char) :
    scanValue (fuel + 1) depth ('[' :: cs) = tooDeep fuel .square cs := by
  rw [scanValue, dropBlank_of_not_isSpace (by decide)]
  exact if_pos deep

/-- An object below the nesting limit is not gone into. -/
theorem scanValue_curly_deep (deep : maxNesting ≤ depth) (cs : List Char) :
    scanValue (fuel + 1) depth ('\x7b' :: cs) = tooDeep fuel .curly cs := by
  rw [scanValue, dropBlank_of_not_isSpace (by decide)]
  exact if_pos deep

/-- An empty array has no items. -/
theorem scanValue_square_nil (shallow : depth < maxNesting) (cs : List Char) :
    scanValue (fuel + 1) depth ('[' :: ']' :: cs) = (.arr [] none, some cs) := by
  rw [scanValue, dropBlank_of_not_isSpace (by decide)]
  exact if_neg (Nat.not_le.2 shallow)

/-- An empty object has no entries. -/
theorem scanValue_curly_nil (shallow : depth < maxNesting) (cs : List Char) :
    scanValue (fuel + 1) depth ('\x7b' :: '\x7d' :: cs) = (.obj [] none, some cs) := by
  rw [scanValue, dropBlank_of_not_isSpace (by decide)]
  exact if_neg (Nat.not_le.2 shallow)

/-- An array that is not empty is gone into. -/
theorem scanValue_square {cs : List Char} (starts : StartsValue cs) (shallow : depth < maxNesting)
    (level : Nat) {items : List Scanned} {unclosed : Option Fault} {rest : Option (List Char)}
    (inside : scanItems fuel (depth + 1) cs = ((items, unclosed), rest)) :
    scanValue (fuel + 1) depth ('[' :: newline level cs) = (.arr items unclosed, rest) := by
  obtain ⟨c, more, rfl, visible, square, -⟩ := starts
  rw [scanValue, dropBlank_of_not_isSpace (by decide)]
  simp only [if_neg (Nat.not_le.2 shallow), dropBlank_newline, dropBlank_of_not_isSpace visible]
  split
  · next none_left => cases none_left
  · next same => exact absurd (List.cons.inj same).1 square
  · rw [inside]

/-- An object that is not empty is gone into. -/
theorem scanValue_curly {cs : List Char} (starts : StartsValue cs) (shallow : depth < maxNesting)
    (level : Nat) {fields : List (Key × Scanned)} {unclosed : Option Fault}
    {rest : Option (List Char)}
    (inside : scanFields fuel (depth + 1) cs = ((fields, unclosed), rest)) :
    scanValue (fuel + 1) depth ('\x7b' :: newline level cs) = (.obj fields unclosed, rest) := by
  obtain ⟨c, more, rfl, visible, -, curly⟩ := starts
  rw [scanValue, dropBlank_of_not_isSpace (by decide)]
  simp only [if_neg (Nat.not_le.2 shallow), dropBlank_newline, dropBlank_of_not_isSpace visible]
  split
  · next none_left => cases none_left
  · next same => exact absurd (List.cons.inj same).1 curly
  · rw [inside]

/-- A blank before a value does not count. -/
theorem scanValue_blank (cs : List Char) :
    scanValue fuel depth (' ' :: cs) = scanValue fuel depth cs :=
  scanValue_congr (dropBlank_cons _ _ rfl)

/-- After its last key and value an object ends. -/
theorem scanFields_last (k : String) {cs rest after : List Char} {v : Scanned}
    (value : scanValue fuel depth cs = (v, some rest)) (ends : dropBlank rest = '\x7d' :: after) :
    scanFields (fuel + 1) depth (stringLiteral k (':' :: ' ' :: cs))
      = (([(Scanned.key k, v)], none), some after) := by
  rw [stringLiteral_eq, scanFields, dropBlank_of_not_isSpace (by decide)]
  simp only [scanKey_inside, dropBlank_of_not_isSpace (show isSpace ':' = false from rfl),
    scanValue_blank, value, ends]

/-- After a key, a value and a comma an object goes on. -/
theorem scanFields_more (k : String) {cs rest : List Char} {v : Scanned}
    (value : scanValue fuel depth cs = (v, some (',' :: rest)))
    {fields : List (Key × Scanned)} {unclosed : Option Fault} {after : Option (List Char)}
    (others : scanFields fuel depth rest = ((fields, unclosed), after)) :
    scanFields (fuel + 1) depth (stringLiteral k (':' :: ' ' :: cs))
      = (((Scanned.key k, v) :: fields, unclosed), after) := by
  rw [stringLiteral_eq, scanFields, dropBlank_of_not_isSpace (by decide)]
  simp only [scanKey_inside, dropBlank_of_not_isSpace (show isSpace ':' = false from rfl),
    dropBlank_of_not_isSpace (show isSpace ',' = false from rfl), scanValue_blank, value, others]

mutual

/-- **A written value is scanned** to what is seen of it with the room that is left. -/
theorem scanValue_prettyAt (fuel level : Nat) {depth room : Nat}
    (left : depth + room = maxNesting) {rest : List Char} (ends : EndsNumber rest) :
    ∀ v : Value, v.steps ≤ fuel →
      scanValue (fuel + 1) depth (v.prettyAt level rest) = (v.seen Number.reread? room, some rest)
  | .null, _ => rfl
  | .bool true, _ => rfl
  | .bool false, _ => rfl
  | .num n, _ => by
    obtain ⟨c, more, written, isNumber⟩ := n.exists_chars_eq_cons
    have scanned := number_chars n ends
    rw [written, List.cons_append] at scanned
    rw [Value.prettyAt, written, List.cons_append, scanValue_of_isDigit isNumber, scanned]
    rfl
  | .str s, _ => quoted_inside s rest
  | .arr [], _ => by
    cases room with
    | zero => exact scanValue_square_deep (by omega) _
    | succ room => exact scanValue_square_nil (by omega) _
  | .arr (v :: more), enough => by
    rw [Value.steps] at enough
    have starts := startsValue_prettyItems (level + 1) v more (newline level (']' :: rest))
    rw [Value.prettyAt]
    · cases room with
      | zero =>
        rw [scanValue_square_deep (by omega), tooDeep_prettyItems _ _ _ _ _ (by omega)]
        rfl
      | succ room =>
        obtain ⟨n, rfl⟩ : ∃ n, fuel = n + 1 := ⟨fuel - 1, by omega⟩
        have inside := scanItems_prettyItems n (level + 1) level rest
          (show (depth + 1) + room = maxNesting by omega) (v :: more) (by simp) (by omega)
        exact scanValue_square starts (by omega) (level + 1) inside
    · simp
  | .obj [], _ => by
    cases room with
    | zero => exact scanValue_curly_deep (by omega) _
    | succ room => exact scanValue_curly_nil (by omega) _
  | .obj (e :: more), enough => by
    rw [Value.steps] at enough
    have starts := startsValue_prettyEntries (level + 1) e more (newline level ('\x7d' :: rest))
    rw [Value.prettyAt]
    · cases room with
      | zero =>
        rw [scanValue_curly_deep (by omega), tooDeep_prettyEntries _ _ _ _ _ (by omega)]
        rfl
      | succ room =>
        obtain ⟨n, rfl⟩ : ∃ n, fuel = n + 1 := ⟨fuel - 1, by omega⟩
        have inside := scanFields_prettyEntries n (level + 1) level rest
          (show (depth + 1) + room = maxNesting by omega) (e :: more) (by simp) (by omega)
        exact scanValue_curly starts (by omega) (level + 1) inside
    · simp

/-- Written items are scanned with the bracket behind them. -/
theorem scanItems_prettyItems (fuel level below : Nat) (rest : List Char) {depth room : Nat}
    (left : depth + room = maxNesting) :
    ∀ items : List Value, items ≠ [] → Value.stepsItems items ≤ fuel →
      scanItems (fuel + 1) depth (Value.prettyItems level items (newline below (']' :: rest)))
        = ((Value.seenItems Number.reread? room items, none), some rest)
  | [v], _, enough => by
    rw [Value.stepsItems, Value.stepsItems] at enough
    obtain ⟨n, rfl⟩ : ∃ n, fuel = n + 1 := ⟨fuel - 1, by omega⟩
    have first := scanValue_prettyAt n level left (endsNumber_newline below (']' :: rest)) v
      (by omega)
    rw [Value.prettyItems, scanItems, first]
    simp only [dropBlank_newline, dropBlank_of_not_isSpace (show isSpace ']' = false from rfl)]
    rfl
  | v :: w :: more, _, enough => by
    rw [Value.stepsItems] at enough
    obtain ⟨n, rfl⟩ : ∃ n, fuel = n + 1 := ⟨fuel - 1, by omega⟩
    have first := scanValue_prettyAt n level left (endsNumber_comma
      (newline level (Value.prettyItems level (w :: more) (newline below (']' :: rest))))) v
      (by omega)
    have others := scanItems_prettyItems n level below rest left (w :: more) (by simp) (by omega)
    rw [Value.prettyItems, scanItems, first]
    · simp only [dropBlank_of_not_isSpace (show isSpace ',' = false from rfl)]
      rw [scanItems_congr (dropBlank_newline _ _), others]
      rfl
    · simp

/-- Written entries are scanned with the bracket behind them. -/
theorem scanFields_prettyEntries (fuel level below : Nat) (rest : List Char) {depth room : Nat}
    (left : depth + room = maxNesting) :
    ∀ fields : List (String × Value), fields ≠ [] → Value.stepsEntries fields ≤ fuel →
      scanFields (fuel + 1) depth
          (Value.prettyEntries level fields (newline below ('\x7d' :: rest)))
        = ((Value.seenFields Number.reread? room fields, none), some rest)
  | [(k, v)], _, enough => by
    rw [Value.stepsEntries, Value.stepsEntries] at enough
    obtain ⟨n, rfl⟩ : ∃ n, fuel = n + 1 := ⟨fuel - 1, by omega⟩
    have value := scanValue_prettyAt n level left (endsNumber_newline below ('\x7d' :: rest)) v
      (by omega)
    have ends : dropBlank (newline below ('\x7d' :: rest)) = '\x7d' :: rest := by
      rw [dropBlank_newline, dropBlank_of_not_isSpace (by decide)]
    exact scanFields_last k value ends
  | (k, v) :: e :: more, _, enough => by
    rw [Value.stepsEntries] at enough
    obtain ⟨n, rfl⟩ : ∃ n, fuel = n + 1 := ⟨fuel - 1, by omega⟩
    have value := scanValue_prettyAt n level left (endsNumber_comma
      (newline level (Value.prettyEntries level (e :: more) (newline below ('\x7d' :: rest))))) v
      (by omega)
    have others := scanFields_prettyEntries n level below rest left (e :: more) (by simp)
      (by omega)
    rw [← scanFields_congr (dropBlank_newline level _)] at others
    rw [Value.prettyEntries]
    · exact scanFields_more k value others
    · simp

end

/-! ### Whole texts -/

/-- **A whole written text is scanned** to what is seen of its value, and nothing stands after
it. -/
theorem scan_toPretty (v : Value) :
    scan v.toPretty = { root := v.seen Number.reread? maxNesting, trailing := false } := by
  have enough := steps_le_length 0 [] v
  rw [List.length_nil, Nat.mul_zero, Nat.add_zero] at enough
  have whole := scanValue_prettyAt (2 * (v.prettyAt 0 []).length + 1) 0 (Nat.zero_add maxNesting)
    endsNumber_nil v (by omega)
  rw [scan, Value.toPretty, String.toList_ofList]
  simp only [whole]
  rfl

end Workflow.Json
