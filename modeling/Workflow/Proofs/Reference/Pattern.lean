import Workflow.Proofs.Reference

/-!
# References as a pattern finds them

References are also described by a pattern that is matched with backtracking. Written as a regular
expression it is

`\$\{\s*([^.{}]+?)\s*\.\s*([^{}]+?)\s*\}`

White space is matched greedily, label and path are matched lazily: a greedy piece first takes as
many characters as it can and gives them back one by one while the rest does not match, a lazy one
first takes as few as it can. How much each piece takes in the end is decided by all the pieces
behind it. It turns out that the first dot and the next brace decide alone, so that a reader that
never goes back finds the same.

The pattern is two **segments** behind its opening: white space, the captured text, white space and
a closing character that the captured text must not contain.

## Main results

* `match?_segment`: what a segment captures of the text before its closing character.
* `front?_eq_match?`: the reader at the front of a text is the pattern.
* `scan_eq_find`: **scanning finds what the pattern finds**, from left to right.
-/

namespace Workflow

/-! ### White space around a part -/

/-- A part that is read stands between white space. It has none at either end, or is the last
character of nothing but white space. -/
theorem Reference.exists_of_part?_eq_some {side part : List Char} (read : part? side = some part) :
    ∃ lead trail, side = lead ++ part ++ trail ∧ (∀ c ∈ lead, Text.isBlankChar c = true)
      ∧ (∀ c ∈ trail, Text.isBlankChar c = true) ∧ part ≠ []
      ∧ (Text.IsTight part ∨ trail = [] ∧ part.length = 1) := by
  rw [part?] at read
  split at read
  · next blank =>
    obtain ⟨c, last, rfl⟩ := Option.map_eq_some_iff.1 read
    obtain ⟨lead, rfl⟩ := List.getLast?_eq_some_iff.1 last
    have all := (Text.trimChars_eq_nil_iff _).1 blank
    refine ⟨lead, [], by simp, fun c hc => all c (List.mem_append_left _ hc), by simp, by simp,
      .inr ⟨rfl, rfl⟩⟩
  · next ink =>
    cases read
    obtain ⟨lead, trail, split, before, behind, tight⟩ := Text.exists_trimChars side
    exact ⟨lead, trail, split, before, behind, ink, .inl tight⟩

namespace Pattern

/-! ### Patterns -/

/-- A piece of a pattern: characters of a class, and how many of them. -/
inductive Piece where
  /-- One character. -/
  | one (p : Char → Bool)
  /-- Any number of characters, rather more than fewer. -/
  | most (p : Char → Bool)
  /-- At least one character, rather fewer than more. -/
  | least (p : Char → Bool)

/-- The numbers of characters that a piece can take from the front of a text, in the order in which
they are tried. -/
def Piece.lengths : Piece → List Char → List Nat
  | one _, [] => []
  | one p, c :: _ => if p c then [1] else []
  | most p, cs => (List.range ((cs.takeWhile p).length + 1)).reverse
  | least p, cs => List.range' 1 (cs.takeWhile p).length

/-- Matches pieces one after the other at the front of a text and gives what each of them takes. A
piece takes the first number of characters with which the pieces behind it match. -/
def match? : List Piece → List Char → Option (List (List Char))
  | [], _ => some []
  | piece :: pieces, cs =>
    (piece.lengths cs).findSome? fun k => (match? pieces (cs.drop k)).map (cs.take k :: ·)

/-- The matches in a text of which the first `skip` characters are passed over. Each match begins
as soon as one is possible, behind the one before. -/
def findFrom (pieces : List Piece) : Nat → List Char → List (List (List Char))
  | _, [] => []
  | skip + 1, _ :: cs => findFrom pieces skip cs
  | 0, c :: cs =>
    match match? pieces (c :: cs) with
    | none => findFrom pieces 0 cs
    | some parts => parts :: findFrom pieces (parts.flatten.length - 1) cs

/-- The matches in a text, from left to right. -/
def find (pieces : List Piece) (cs : List Char) : List (List (List Char)) :=
  findFrom pieces 0 cs

/-! ### What is taken -/

/-- A piece may take this. -/
def Piece.Takes : Piece → List Char → Prop
  | one p, taken => ∃ c, taken = [c] ∧ p c = true
  | most p, taken => ∀ c ∈ taken, p c = true
  | least p, taken => taken ≠ [] ∧ ∀ c ∈ taken, p c = true

/-- Of the characters of a class at the front of a text one can take some. -/
theorem mem_take_of_le {p : Char → Bool} {cs : List Char} {k : Nat}
    (fits : k ≤ (cs.takeWhile p).length) : ∀ c ∈ cs.take k, p c = true := by
  intro c hc
  have part : cs.take k <+: cs.takeWhile p :=
    List.prefix_of_prefix_length_le (List.take_prefix k cs) (List.takeWhile_prefix p)
      (Nat.le_trans (List.length_take_le k cs) fits)
  exact List.mem_takeWhile_imp (part.subset hc)

/-- What a piece takes by one of its lengths it may take. -/
theorem Piece.takes_of_mem_lengths {piece : Piece} {cs : List Char} {k : Nat}
    (tried : k ∈ piece.lengths cs) : piece.Takes (cs.take k) := by
  cases piece with
  | one p =>
    cases cs with
    | nil => simp [lengths] at tried
    | cons c cs =>
      rw [lengths, List.mem_ite_nil_right, List.mem_singleton] at tried
      obtain ⟨fits, rfl⟩ := tried
      exact ⟨c, rfl, fits⟩
  | most p =>
    simp only [lengths, List.mem_reverse, List.mem_range, Nat.lt_succ_iff] at tried
    exact mem_take_of_le tried
  | least p =>
    simp only [lengths, List.mem_range'_1] at tried
    have fits : k ≤ (cs.takeWhile p).length := by omega
    refine ⟨?_, mem_take_of_le fits⟩
    have inside : (cs.takeWhile p).length ≤ cs.length := (List.takeWhile_sublist p).length_le
    intro none
    rw [List.take_eq_nil_iff] at none
    rcases none with rfl | rfl
    · omega
    · simp at fits
      omega

/-- Pieces that match take the front of the text, each what it may. -/
theorem exists_of_match?_cons {piece : Piece} {pieces : List Piece} {cs : List Char}
    {parts : List (List Char)} (matched : match? (piece :: pieces) cs = some parts) :
    ∃ taken rest later, cs = taken ++ rest ∧ piece.Takes taken
      ∧ match? pieces rest = some later ∧ parts = taken :: later := by
  rw [match?] at matched
  obtain ⟨k, tried, found⟩ := List.exists_of_findSome?_eq_some matched
  obtain ⟨later, behind, rfl⟩ := Option.map_eq_some_iff.1 found
  exact ⟨cs.take k, cs.drop k, later, (List.take_append_drop k cs).symm,
    Piece.takes_of_mem_lengths tried, behind, rfl⟩

/-! ### Which number is preferred -/

/-- Trying from the greatest number down finds the greatest one that does. -/
theorem findSome?_reverse_range {β : Type} {f : Nat → Option β} {b : β} {k n : Nat}
    (here : f k = some b) (le : k ≤ n) (greater : ∀ j, k < j → j ≤ n → f j = none) :
    (List.range (n + 1)).reverse.findSome? f = some b := by
  induction n with
  | zero =>
    obtain rfl : k = 0 := Nat.le_zero.1 le
    simp [here]
  | succ n ih =>
    rw [List.range_succ, List.reverse_append, List.reverse_singleton, List.singleton_append,
      List.findSome?_cons]
    rcases Nat.lt_or_eq_of_le le with less | rfl
    · rw [greater _ less (Nat.le_refl _)]
      exact ih (Nat.lt_succ_iff.1 less) fun j above fits => greater j above (Nat.le_succ_of_le fits)
    · rw [here]

/-- Trying from the least number up finds the least one that does. -/
theorem findSome?_range' {β : Type} {f : Nat → Option β} {b : β} {k n start : Nat}
    (here : f k = some b) (le : start ≤ k) (lt : k < start + n)
    (smaller : ∀ j, start ≤ j → j < k → f j = none) :
    (List.range' start n).findSome? f = some b := by
  induction n generalizing start with
  | zero => omega
  | succ n ih =>
    rw [List.range'_succ, List.findSome?_cons]
    rcases Nat.lt_or_eq_of_le le with less | rfl
    · rw [smaller _ (Nat.le_refl _) less]
      exact ih less (by omega) fun j above => smaller j (Nat.le_of_succ_le above)
    · rw [here]

section Preference

variable {p : Char → Bool} {pieces : List Piece} {taken rest : List Char}
  {later : List (List Char)}

/-- The length of what could be taken is at most that of all characters of the class. -/
theorem length_le_length_takeWhile (fits : ∀ c ∈ taken, p c = true) :
    taken.length ≤ ((taken ++ rest).takeWhile p).length := by
  rw [List.takeWhile_append_of_pos fits, List.length_append]
  exact Nat.le_add_right _ _

/-- One character is taken if it is of the class. -/
theorem match?_one {c : Char} (fits : p c = true) (behind : match? pieces rest = some later) :
    match? (.one p :: pieces) (c :: rest) = some ([c] :: later) := by
  simp [match?, Piece.lengths, fits, behind]

/-- **A greedy piece takes as much as it can** while the pieces behind it still match. -/
theorem match?_most (fits : ∀ c ∈ taken, p c = true) (behind : match? pieces rest = some later)
    (longer : ∀ more rest', rest = more ++ rest' → more ≠ [] → (∀ c ∈ more, p c = true) →
      match? pieces rest' = none) :
    match? (.most p :: pieces) (taken ++ rest) = some (taken :: later) := by
  rw [match?, Piece.lengths]
  refine findSome?_reverse_range (k := taken.length) ?_ (length_le_length_takeWhile fits) ?_
  · rw [List.drop_left, List.take_left, behind]
    rfl
  · intro j more fits'
    have all := mem_take_of_le fits'
    rw [List.take_append, List.take_of_length_le (Nat.le_of_lt more)] at all
    rw [List.drop_append, List.drop_of_length_le (Nat.le_of_lt more), List.nil_append,
      longer (rest.take (j - taken.length)) _ (List.take_append_drop _ _).symm, Option.map_none]
    · intro none
      have long := Nat.le_trans fits' (List.takeWhile_sublist p).length_le
      rw [List.length_append] at long
      rcases List.take_eq_nil_iff.1 none with none | rfl
      · omega
      · simp at long
        omega
    · exact fun c hc => all c (List.mem_append_right _ hc)

/-- **A lazy piece takes as little as it can** while the pieces behind it still match. -/
theorem match?_least (some_taken : taken ≠ []) (fits : ∀ c ∈ taken, p c = true)
    (behind : match? pieces rest = some later)
    (shorter : ∀ less more, taken = less ++ more → less ≠ [] → more ≠ [] →
      match? pieces (more ++ rest) = none) :
    match? (.least p :: pieces) (taken ++ rest) = some (taken :: later) := by
  have positive := List.length_pos_iff.2 some_taken
  have bound : taken.length ≤ ((taken ++ rest).takeWhile p).length :=
    length_le_length_takeWhile fits
  rw [match?, Piece.lengths]
  refine findSome?_range' (k := taken.length) ?_ positive (by omega) ?_
  · rw [List.drop_left, List.take_left, behind]
    rfl
  · intro j one_taken less
    rw [List.drop_append_of_le_length (Nat.le_of_lt less),
      shorter (taken.take j) _ (List.take_append_drop _ _).symm, Option.map_none]
    · intro none
      rcases List.take_eq_nil_iff.1 none with none | none
      · omega
      · exact some_taken none
    · intro none
      rw [List.drop_eq_nil_iff] at none
      omega

end Preference

/-! ### Segments -/

open Text (isBlankChar)

/-- What is captured up to a closing character, with white space around it that is not. -/
def segment (inner : Char → Bool) (closing : Char) : List Piece :=
  [.most isBlankChar, .least inner, .most isBlankChar, .one (· == closing)]

section Segment

variable {inner : Char → Bool} {closing : Char} {pieces : List Piece} {rest : List Char}
  {later : List (List Char)}

/-- White space in front of the closing character is taken. -/
theorem match?_closing {trail : List Char} (blank : ∀ c ∈ trail, isBlankChar c = true)
    (ink : isBlankChar closing = false) (behind : match? pieces rest = some later) :
    match? (.most isBlankChar :: .one (· == closing) :: pieces) (trail ++ closing :: rest)
      = some (trail :: [closing] :: later) := by
  refine match?_most blank (match?_one (beq_self_eq_true closing) behind) ?_
  intro more rest' split some_more all
  obtain ⟨c, more, rfl⟩ := List.exists_cons_of_ne_nil some_more
  obtain ⟨rfl, -⟩ := List.cons.inj split
  rw [all _ List.mem_cons_self] at ink
  cases ink

/-- In front of the closing character nothing but white space is passed over. -/
theorem match?_closing_eq_none {trail : List Char} (before : ∀ c ∈ trail, c ≠ closing)
    (ink : isBlankChar closing = false) {c : Char} (hc : c ∈ trail)
    (visible : isBlankChar c = false) :
    match? (.most isBlankChar :: .one (· == closing) :: pieces) (trail ++ closing :: rest)
      = none := by
  rw [Option.eq_none_iff_forall_ne_some]
  intro parts matched
  obtain ⟨taken, rest', later, split, blank, matched, -⟩ := exists_of_match?_cons matched
  obtain ⟨_, rest', -, rfl, ⟨d, rfl, closes⟩, -, -⟩ := exists_of_match?_cons matched
  obtain rfl := eq_of_beq closes
  -- there is one closing character up to here, so that all in front of it was taken
  have same : trail = taken := by
    have apart : ∀ c ∈ taken, c ≠ d := by
      rintro c hc rfl
      rw [blank c hc] at ink
      cases ink
    have sides := congrArg (List.takeWhile (· ≠ d)) split
    rw [List.takeWhile_append_of_pos fun c hc => decide_eq_true (before c hc),
      List.takeWhile_append_of_pos fun c hc => decide_eq_true (apart c hc)] at sides
    simpa using sides
  rw [same] at hc
  rw [blank c hc] at visible
  cases visible

/-- Nothing is captured in front of the closing character. -/
theorem match?_least_closing (ends : inner closing = false) :
    match? (.least inner :: pieces) (closing :: rest) = none := by
  rw [Option.eq_none_iff_forall_ne_some]
  intro parts matched
  obtain ⟨taken, _, _, split, ⟨some_taken, fits⟩, -, -⟩ := exists_of_match?_cons matched
  obtain ⟨c, taken, rfl⟩ := List.exists_cons_of_ne_nil some_taken
  rw [List.cons_append, List.cons.injEq] at split
  obtain ⟨rfl, -⟩ := split
  rw [fits _ List.mem_cons_self] at ends
  cases ends

variable (ends : inner closing = false) (loose : ∀ c, isBlankChar c = true → inner c = true)

include ends loose

/-- The closing character is not white space. -/
theorem isBlankChar_closing : isBlankChar closing = false := by
  rw [← Bool.not_eq_true]
  intro blank
  rw [loose _ blank] at ends
  cases ends

/-- A part with no white space at its end, or of one character, is captured whole. -/
theorem match?_capture {part trail : List Char} (some_part : part ≠ [])
    (all : ∀ c ∈ part ++ trail, inner c = true) (blank : ∀ c ∈ trail, isBlankChar c = true)
    (shape : (∀ c, part.getLast? = some c → isBlankChar c = false) ∨ part.length = 1)
    (behind : match? pieces rest = some later) :
    match? (.least inner :: .most isBlankChar :: .one (· == closing) :: pieces)
      (part ++ (trail ++ closing :: rest)) = some (part :: trail :: [closing] :: later) := by
  have ink := isBlankChar_closing ends loose
  have apart : ∀ c ∈ part ++ trail, c ≠ closing := by
    rintro c hc rfl
    rw [all c hc] at ends
    cases ends
  refine match?_least some_part (fun c hc => all c (List.mem_append_left _ hc))
    (match?_closing blank ink behind) fun less more split some_less some_more => ?_
  rcases shape with last | single
  · -- the last character of the part cannot be left to the white space behind it
    obtain ⟨c, hc⟩ : ∃ c, more.getLast? = some c := ⟨_, List.getLast?_eq_some_getLast some_more⟩
    have visible : isBlankChar c = false := by
      refine last c ?_
      rw [split, List.getLast?_append, hc]
      rfl
    rw [split, List.append_assoc] at apart
    rw [← List.append_assoc]
    exact match?_closing_eq_none (fun c hc => apart c (List.mem_append_right _ hc)) ink
      (List.mem_append_left _ (List.mem_of_getLast? hc)) visible
  · have one_less := List.length_pos_iff.2 some_less
    have one_more := List.length_pos_iff.2 some_more
    rw [split, List.length_append] at single
    omega

/-- **What a segment captures** of the text before its closing character is the part that is read of
it, whatever the pieces behind it match. -/
theorem match?_segment {body part : List Char} (all : ∀ c ∈ body, inner c = true)
    (read : Reference.part? body = some part) (behind : match? pieces rest = some later) :
    ∃ lead trail, body = lead ++ part ++ trail
      ∧ match? (segment inner closing ++ pieces) (body ++ closing :: rest)
        = some (lead :: part :: trail :: [closing] :: later) := by
  obtain ⟨lead, trail, rfl, before, after, some_part, shape⟩ :=
    Reference.exists_of_part?_eq_some read
  refine ⟨lead, trail, rfl, ?_⟩
  rw [List.append_assoc] at all
  have captured := match?_capture ends loose some_part
    (fun c hc => all c (List.mem_append_right lead hc)) after
    (shape.imp And.right And.right) behind
  rw [List.append_assoc, List.append_assoc]
  refine match?_most before captured fun more rest' split some_more blank => ?_
  obtain ⟨c, more, rfl⟩ := List.exists_cons_of_ne_nil some_more
  obtain ⟨d, part, rfl⟩ := List.exists_cons_of_ne_nil some_part
  rw [List.cons_append, List.cons_append, List.cons.injEq] at split
  obtain ⟨rfl, split⟩ := split
  rcases shape with ⟨first, -⟩ | ⟨rfl, single⟩
  · -- the part does not begin with white space
    have visible := first d rfl
    rw [blank d List.mem_cons_self] at visible
    cases visible
  · -- of white space alone all is taken but the last character, since nothing would be left
    obtain rfl : part = [] := by simpa using single
    rw [List.nil_append, List.nil_append] at split
    cases more with
    | nil =>
      rw [List.nil_append] at split
      rw [← split]
      exact match?_least_closing ends
    | cons e more =>
      rw [List.cons_append, List.cons.injEq] at split
      have ink := isBlankChar_closing ends loose
      rw [split.1, blank _ (List.mem_cons_of_mem _ List.mem_cons_self)] at ink
      cases ink

omit ends in
/-- A segment only matches a text with a closing character, in front of which stand only characters
that may be captured, and at least one. -/
theorem exists_of_match?_segment {cs : List Char} {parts : List (List Char)}
    (matched : match? (segment inner closing ++ pieces) cs = some parts) :
    ∃ body rest later, cs = body ++ closing :: rest ∧ (∀ c ∈ body, inner c = true) ∧ body ≠ []
      ∧ match? pieces rest = some later := by
  obtain ⟨lead, _, _, rfl, before, matched, -⟩ := exists_of_match?_cons matched
  obtain ⟨part, _, _, rfl, ⟨some_part, captured⟩, matched, -⟩ := exists_of_match?_cons matched
  obtain ⟨trail, _, _, rfl, after, matched, -⟩ := exists_of_match?_cons matched
  obtain ⟨_, rest, later, rfl, ⟨c, rfl, closes⟩, behind, -⟩ := exists_of_match?_cons matched
  obtain rfl := eq_of_beq closes
  refine ⟨lead ++ (part ++ trail), rest, later, by simp, ?_, ?_, behind⟩
  · intro c hc
    rcases List.mem_append.1 hc with hc | hc
    · exact loose c (before c hc)
    · rcases List.mem_append.1 hc with hc | hc
      · exact captured c hc
      · exact loose c (after c hc)
  · exact List.append_ne_nil_of_right_ne_nil _ (List.append_ne_nil_of_left_ne_nil some_part _)

end Segment

end Pattern

namespace Reference

open Pattern

/-! ### The pattern of references -/

/-- A character that may stand in a label. -/
def isLabelChar (c : Char) : Bool :=
  c != '.' && c != '\x7b' && c != '\x7d'

/-- A character that may stand in a path. -/
def isPathChar (c : Char) : Bool :=
  c != '\x7b' && c != '\x7d'

/-- The pattern of references: the opening, a label up to the first dot, and a path up to the
closing brace. -/
def pattern : List Piece :=
  [.one (· == '$'), .one (· == '\x7b')] ++ (segment isLabelChar '.' ++ segment isPathChar '\x7d')

/-- The reference of a match: the label and the path are what the lazy pieces have taken. -/
def ofParts (parts : List (List Char)) : Reference :=
  { label := String.ofList (parts.getD 3 [])
    path := String.ofList (parts.getD 7 [])
    raw := String.ofList parts.flatten }

/-- A path may hold what stands between braces. -/
theorem isPathChar_iff {c : Char} : isPathChar c = true ↔ IsInner c := by
  simp [isPathChar, IsInner]

/-- A label may hold the same, but for the dot. -/
theorem isLabelChar_iff {c : Char} : isLabelChar c = true ↔ c ≠ '.' ∧ IsInner c := by
  simp [isLabelChar, IsInner, and_assoc]

/-- White space may stand in a label. -/
theorem isLabelChar_of_isBlankChar (c : Char) (blank : Text.isBlankChar c = true) :
    isLabelChar c = true := by
  have other : ∀ d : Char, Text.isBlankChar d = false → c ≠ d := by
    rintro d ink rfl
    rw [blank] at ink
    cases ink
  exact isLabelChar_iff.2 ⟨other '.' (by decide), other _ (by decide), other _ (by decide)⟩

/-- White space may stand in a path. -/
theorem isPathChar_of_isBlankChar (c : Char) (blank : Text.isBlankChar c = true) :
    isPathChar c = true :=
  isPathChar_iff.2 (isLabelChar_iff.1 (isLabelChar_of_isBlankChar c blank)).2

/-- Where something stands on both sides of a dot, the sides are told by the dot. -/
theorem exists_sides {body : List Char} (behind : (sides body).2 ≠ []) :
    ∃ left right, body = left ++ '.' :: right ∧ '.' ∉ left ∧ sides body = (left, right) := by
  have dot : '.' ∈ body := by
    by_contra none
    have all : body.dropWhile (· ≠ '.') = [] := by
      refine List.dropWhile_eq_nil_iff.2 fun c hc => decide_eq_true ?_
      rintro rfl
      exact none hc
    rw [sides, all] at behind
    exact behind rfl
  obtain ⟨left, right, rfl, noDot⟩ := List.eq_append_cons_of_mem dot
  exact ⟨left, right, rfl, noDot, sides_of_not_mem noDot right⟩

/-- A reference at the front of a text is found by the pattern. -/
theorem HasBody.match?_eq {ref : Reference} {body : List Char} (holds : ref.HasBody body)
    (rest : List Char) :
    ∃ parts, match? pattern (wrap body ++ rest) = some parts ∧ ofParts parts = ref := by
  obtain ⟨left, right, rfl, noDot, split⟩ := exists_sides holds.behind
  have label := holds.label
  have path := holds.path
  rw [split] at label path
  have inner_left : ∀ c ∈ left, isLabelChar c = true := by
    refine fun c hc => isLabelChar_iff.2 ⟨?_, holds.inner c (List.mem_append_left _ hc)⟩
    rintro rfl
    exact noDot hc
  have inner_right : ∀ c ∈ right, isPathChar c = true := fun c hc =>
    isPathChar_iff.2 (holds.inner c (List.mem_append_right _ (List.mem_cons_of_mem _ hc)))
  have behind : match? [] rest = some [] := rfl
  obtain ⟨lead', trail', split_right, closed⟩ := match?_segment
    (by decide : isPathChar '\x7d' = false) isPathChar_of_isBlankChar inner_right path behind
  obtain ⟨lead, trail, split_left, dotted⟩ := match?_segment (by decide : isLabelChar '.' = false)
    isLabelChar_of_isBlankChar inner_left label closed
  have text : wrap (left ++ '.' :: right) ++ rest
      = '$' :: '\x7b' :: (left ++ '.' :: (right ++ '\x7d' :: rest)) := by
    simp [wrap]
  rw [List.append_nil] at dotted
  refine ⟨[['$'], ['\x7b'], lead, ref.label.toList, trail, ['.'], lead', ref.path.toList, trail',
    ['\x7d']], ?_, ?_⟩
  · rw [text]
    exact match?_one rfl (match?_one rfl dotted)
  · obtain ⟨label, path, raw⟩ := ref
    have same : raw = String.ofList (wrap (left ++ '.' :: right)) := by
      rw [← String.toList_inj, String.toList_ofList]
      exact holds.raw
    simp [ofParts, same, wrap, split_left, split_right]

/-- Between braces, something on both sides of a dot makes a reference. -/
theorem exists_hasBody {left right : List Char} (inner : ∀ c ∈ left ++ '.' :: right, IsInner c)
    (noDot : '.' ∉ left) (some_left : left ≠ []) (some_right : right ≠ []) :
    ∃ ref : Reference, ref.HasBody (left ++ '.' :: right) := by
  obtain ⟨label, label_read⟩ :=
    Option.ne_none_iff_exists'.1 (mt (part?_eq_none_iff left).1 some_left)
  obtain ⟨path, path_read⟩ :=
    Option.ne_none_iff_exists'.1 (mt (part?_eq_none_iff right).1 some_right)
  refine ⟨⟨String.ofList label, String.ofList path, String.ofList (wrap _)⟩, inner, ?_, ?_,
    String.toList_ofList⟩
  · rw [sides_of_not_mem noDot, String.toList_ofList, label_read]
  · rw [sides_of_not_mem noDot, String.toList_ofList, path_read]

/-- What the pattern matches begins with a reference. -/
theorem exists_hasBody_of_match? {cs : List Char} {parts : List (List Char)}
    (matched : match? pattern cs = some parts) :
    ∃ (ref : Reference) (body rest : List Char), cs = wrap body ++ rest ∧ ref.HasBody body := by
  obtain ⟨_, _, _, rfl, ⟨dollar, rfl, opens⟩, matched, -⟩ := exists_of_match?_cons matched
  obtain ⟨_, _, _, rfl, ⟨brace, rfl, opens'⟩, matched', -⟩ := exists_of_match?_cons matched
  obtain rfl := eq_of_beq opens
  obtain rfl := eq_of_beq opens'
  obtain ⟨left, _, _, rfl, inner_left, some_left, closed⟩ :=
    exists_of_match?_segment isLabelChar_of_isBlankChar matched'
  rw [← List.append_nil (segment isPathChar _)] at closed
  obtain ⟨right, rest, -, rfl, inner_right, some_right, -⟩ :=
    exists_of_match?_segment isPathChar_of_isBlankChar closed
  have inner : ∀ c ∈ left ++ '.' :: right, IsInner c := by
    intro c hc
    rcases List.mem_append.1 hc with hc | hc
    · exact (isLabelChar_iff.1 (inner_left c hc)).2
    · rcases List.mem_cons.1 hc with rfl | hc
      · exact ⟨by decide, by decide⟩
      · exact isPathChar_iff.1 (inner_right c hc)
  have noDot : '.' ∉ left := fun dot => (isLabelChar_iff.1 (inner_left _ dot)).1 rfl
  obtain ⟨ref, holds⟩ := exists_hasBody inner noDot some_left some_right
  exact ⟨ref, _, rest, by simp [wrap], holds⟩

/-- **The reader at the front of a text is the pattern.** -/
theorem front?_eq_match? (cs : List Char) : front? cs = (match? pattern cs).map ofParts := by
  cases read : front? cs with
  | some ref =>
    obtain ⟨body, rest, rfl, holds⟩ := front?_eq_some_iff.1 read
    obtain ⟨parts, matched, same⟩ := holds.match?_eq rest
    rw [matched, Option.map_some, same]
  | none =>
    cases matched : match? pattern cs with
    | none => rfl
    | some parts =>
      obtain ⟨ref, body, rest, whole, holds⟩ := exists_hasBody_of_match? matched
      rw [front?_eq_some_iff.2 ⟨body, rest, whole, holds⟩] at read
      cases read

/-- What is found of a text from some place on is what the pattern finds there. -/
theorem scanFrom_eq_findFrom (skip : Nat) (cs : List Char) :
    scanFrom skip cs = (findFrom pattern skip cs).map ofParts := by
  induction skip, cs using scanFrom.induct with
  | case1 skip => cases skip <;> rfl
  | case2 skip c cs ih => exact ih
  | case3 c cs none ih =>
    have unmatched : match? pattern (c :: cs) = Option.none := by
      rw [front?_eq_match?, Option.map_eq_none_iff] at none
      exact none
    rw [scanFrom, none, findFrom, unmatched]
    exact ih
  | case4 c cs ref here ih =>
    obtain ⟨parts, matched, rfl⟩ := Option.map_eq_some_iff.1 (front?_eq_match? _ ▸ here)
    have length : (ofParts parts).raw.length = parts.flatten.length := by
      rw [ofParts, String.length_ofList]
    rw [scanFrom, here, findFrom, matched]
    rw [length] at ih
    simp only [length, ih, List.map_cons]

/-- **Scanning finds what the pattern finds**, from left to right. -/
theorem scan_eq_find (text : String) : scan text = (find pattern text.toList).map ofParts :=
  scanFrom_eq_findFrom 0 text.toList

end Reference

end Workflow
