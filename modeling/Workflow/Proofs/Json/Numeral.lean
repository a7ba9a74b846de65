import Mathlib.Data.List.Basic
import Workflow.Json.Scanner
import Workflow.Proofs.Decimal.Shortest

/-!
# Written numbers are read

Whatever number is written, the text is one literal by the grammar, and what stands after it does
not change how it is read as long as it cannot be part of it. What it is read as is the value of
that literal, which for a double may differ in the last bit.

## Main results

* `Spelling.scanUnsigned_chars`: digits, perhaps a fraction and perhaps an exponent are a
  literal.
* `Number.exists_spelling`: every number is written in this way, perhaps behind a sign.
* `Number.scan_chars`: **a written number is a literal**, whatever follows.
-/

namespace Workflow.Json

open Workflow.Decimal

/-! ### Digits -/

/-- One or more decimal digits. -/
def IsDigits (cs : List Char) : Prop :=
  cs ≠ [] ∧ ∀ c ∈ cs, c.isDigit = true

/-- The value of a decimal digit. -/
def digitValue (c : Char) : Nat :=
  c.toNat - '0'.toNat

/-- Only the digit zero has the value zero. -/
theorem eq_zero_of_digitValue {c : Char} (digit : c.isDigit = true) (none_left : digitValue c = 0) :
    c = '0' := by
  have least : '0'.toNat ≤ c.toNat := by
    simp only [Char.isDigit, Bool.and_eq_true, decide_eq_true_eq] at digit
    exact digit.1
  have equal : c.toNat = '0'.toNat := by
    rw [digitValue] at none_left
    omega
  rw [← Char.ofNat_toNat c, equal]
  rfl

/-- A text that does not go on with a digit. -/
def EndsDigits (rest : List Char) : Prop :=
  ∀ c ∈ rest.head?, c.isDigit = false

/-- A text that does not go on with what can be part of a number. -/
def EndsNumber (rest : List Char) : Prop :=
  ∀ c ∈ rest.head?, c.isDigit = false ∧ c ≠ '.' ∧ c ≠ 'e' ∧ c ≠ 'E'

/-- A number ends with the text. -/
theorem endsNumber_nil : EndsNumber [] := by
  simp [EndsNumber]

/-- What cannot be part of a number is no digit. -/
theorem EndsNumber.endsDigits {rest : List Char} (ends : EndsNumber rest) : EndsDigits rest :=
  fun c hc => (ends c hc).1

/-- Digits are taken up to the first other character. -/
theorem takeDigits_append {cs rest : List Char} (digits : ∀ c ∈ cs, c.isDigit = true)
    (ends : EndsDigits rest) : takeDigits (cs ++ rest) = (cs.map digitValue, rest) := by
  induction cs with
  | nil =>
    cases rest with
    | nil => rfl
    | cons c rest => simp [takeDigits, digit?, ends c rfl]
  | cons c cs ih =>
    obtain ⟨first, others⟩ := List.forall_mem_cons.1 digits
    simp [takeDigits, digit?, first, ih others, digitValue]

/-- There are some digits where digits stand. -/
theorem someDigits_append {cs rest : List Char} (digits : IsDigits cs) (ends : EndsDigits rest) :
    someDigits (cs ++ rest) = .ok (cs.map digitValue, rest) := by
  obtain ⟨c, more, rfl⟩ := List.exists_cons_of_ne_nil digits.1
  rw [someDigits, takeDigits_append digits.2 ends]
  rfl

/-- A natural number is written in digits. -/
theorem isDigits_natChars (n : Nat) : IsDigits (natChars n) :=
  ⟨natChars_ne_nil n, fun _ hc => Nat.isDigit_of_mem_toDigits (by decide) (by decide) hc⟩

/-- A zero is a digit. -/
theorem isDigits_zero : IsDigits ['0'] :=
  ⟨List.cons_ne_nil _ _, List.forall_mem_singleton.2 rfl⟩

/-- Zeros are digits. -/
theorem isDigit_of_mem_replicate {n : Nat} {c : Char} (hc : c ∈ List.replicate n '0') :
    c.isDigit = true := by
  rw [List.eq_of_mem_replicate hc]
  rfl

/-- **No positive number is written with a zero in front.** The induction is on the number, which
loses its last digit. -/
theorem head?_natChars {n : Nat} (positive : 0 < n) : (natChars n).head? ≠ some '0' := by
  induction n using Nat.strongRecOn with
  | _ n ih =>
    rw [natChars, Nat.toDigits_eq_if (by decide)]
    split
    · rw [List.head?_cons, ne_eq, Option.some.injEq, Nat.digitChar_eq_zero]
      exact Nat.ne_of_gt positive
    · rw [List.head?_append_of_ne_nil _ Nat.toDigits_ne_nil]
      exact ih (n / 10) (by omega) (by omega)

/-! ### Spellings -/

/-- How a number without its sign is spelt: digits, perhaps a point and digits after it, perhaps
an exponent with its sign. -/
structure Spelling where
  /-- The digits before the point. -/
  whole : List Char
  /-- The digits after the point, if there is one. -/
  fraction : Option (List Char)
  /-- The exponent, if there is one: whether it is negative, and its digits. -/
  exponent : Option (Bool × List Char)
  /-- The whole part consists of digits. -/
  whole_isDigits : IsDigits whole
  /-- It has no zero in front of other digits. -/
  noLeadingZero : ∀ more, whole = '0' :: more → more = []
  /-- The fraction consists of digits. -/
  fraction_isDigits : ∀ ds ∈ fraction, IsDigits ds
  /-- The exponent consists of digits. -/
  exponent_isDigits : ∀ e ∈ exponent, IsDigits e.2

namespace Spelling

/-- The fraction with its point. -/
def fractionChars : Option (List Char) → List Char
  | none => []
  | some ds => '.' :: ds

/-- The sign of an exponent, which is always written. -/
def signChar (negative : Bool) : Char :=
  if negative then '-' else '+'

/-- The exponent with its letter and its sign. -/
def exponentPartChars : Option (Bool × List Char) → List Char
  | none => []
  | some (negative, ds) => 'e' :: signChar negative :: ds

/-- The characters of a spelling. -/
def chars (s : Spelling) : List Char :=
  s.whole ++ (fractionChars s.fraction ++ exponentPartChars s.exponent)

/-- The literal that is spelt. -/
def numeral (negative : Bool) (s : Spelling) : Numeral :=
  { negative, whole := s.whole.map digitValue,
    fraction := s.fraction.map fun ds => ds.map digitValue,
    exponent := s.exponent.map fun e => (e.1, e.2.map digitValue) }

/-- An exponent is no digit and no point. -/
theorem endsFraction {exponent : Option (Bool × List Char)} {rest : List Char}
    (ends : EndsNumber rest) :
    ∀ c ∈ (exponentPartChars exponent ++ rest).head?, c.isDigit = false ∧ c ≠ '.' := by
  cases exponent with
  | none => exact fun c hc => ⟨(ends c hc).1, (ends c hc).2.1⟩
  | some e =>
    rintro c ⟨rfl⟩
    exact ⟨rfl, by decide⟩

/-- The whole part is found where it stands. -/
theorem wholeDigits_append (s : Spelling) {rest : List Char} (ends : EndsDigits rest) :
    wholeDigits (s.whole ++ rest) = .ok (s.whole.map digitValue, rest) := by
  rw [wholeDigits, someDigits_append s.whole_isDigits ends]
  split
  · -- a zero in front of other digits is refused, but a spelling has none
    next d more rest' same =>
    exfalso
    simp only [Except.ok.injEq, Prod.mk.injEq] at same
    obtain ⟨first, others, whole⟩ := List.exists_cons_of_ne_nil s.whole_isDigits.1
    have digit := s.whole_isDigits.2 first (by rw [whole]; exact List.mem_cons_self)
    rw [whole, List.map_cons, List.cons.injEq] at same
    have alone := s.noLeadingZero others (by rw [whole, eq_zero_of_digitValue digit same.1.1])
    rw [alone] at same
    cases same.1.2
  · rfl

/-- The exponent is found where it stands. -/
theorem exponentPart_append (s : Spelling) {rest : List Char} (ends : EndsNumber rest) :
    exponentPart (exponentPartChars s.exponent ++ rest)
      = .ok (s.exponent.map fun e => (e.1, e.2.map digitValue), rest) := by
  cases given : s.exponent with
  | none =>
    cases rest with
    | nil => rfl
    | cons c rest =>
      obtain ⟨-, -, lower, upper⟩ := ends c rfl
      simp [exponentPartChars, exponentPart, lower, upper]
  | some e =>
    obtain ⟨negative, ds⟩ := e
    have digits := s.exponent_isDigits _ given
    have sign : exponentSign (signChar negative :: (ds ++ rest)) = (negative, ds ++ rest) := by
      cases negative <;> rfl
    simp only [exponentPartChars, exponentPart, List.cons_append, true_or, if_true, sign,
      someDigits_append digits ends.endsDigits]
    rfl

/-- The fraction is found where it stands. -/
theorem fractionPart_append (s : Spelling) {rest : List Char}
    (ends : ∀ c ∈ rest.head?, c.isDigit = false ∧ c ≠ '.') :
    fractionPart (fractionChars s.fraction ++ rest)
      = .ok (s.fraction.map fun ds => ds.map digitValue, rest) := by
  cases given : s.fraction with
  | none =>
    cases rest with
    | nil => rfl
    | cons c rest =>
      have point := (ends c rfl).2
      rw [fractionChars, List.nil_append, fractionPart]
      · rfl
      · rintro cs ⟨rfl, -⟩
        exact point rfl
  | some ds =>
    have digits := s.fraction_isDigits _ given
    simp only [fractionChars, fractionPart, List.cons_append,
      someDigits_append digits fun c hc => (ends c hc).1]
    rfl

/-- **What is spelt is a literal**, whatever follows. -/
theorem scanUnsigned_chars (s : Spelling) (negative : Bool) {rest : List Char}
    (ends : EndsNumber rest) :
    scanUnsigned negative (s.chars ++ rest) = .ok (s.numeral negative, rest) := by
  have whole : EndsDigits (fractionChars s.fraction ++ (exponentPartChars s.exponent ++ rest)) := by
    cases s.fraction with
    | none => exact fun c hc => (endsFraction ends c hc).1
    | some ds =>
      rintro c ⟨rfl⟩
      rfl
  rw [chars, List.append_assoc, List.append_assoc, scanUnsigned, s.wholeDigits_append whole]
  simp only [bind, Except.bind, s.fractionPart_append (endsFraction ends),
    s.exponentPart_append ends]
  rfl

/-- A spelling starts with a digit. -/
theorem exists_chars_eq_cons (s : Spelling) : ∃ c more, s.chars = c :: more ∧ c.isDigit = true := by
  obtain ⟨c, more, whole⟩ := List.exists_cons_of_ne_nil s.whole_isDigits.1
  refine ⟨c, _, by rw [chars, whole, List.cons_append], ?_⟩
  exact s.whole_isDigits.2 c (by rw [whole]; exact List.mem_cons_self)

end Spelling

/-! ### How numbers are spelt -/

/-- A single digit in front of others is no leading zero. -/
theorem noLeadingZero_singleton {c : Char} : ∀ more, [c] = '0' :: more → more = [] := by
  rintro more ⟨⟩
  rfl

/-- A natural number is spelt without a leading zero. -/
theorem noLeadingZero_natChars (n : Nat) : ∀ more, natChars n = '0' :: more → more = [] := by
  intro more same
  rcases Nat.eq_zero_or_pos n with rfl | positive
  · cases same
    rfl
  · exact absurd (by rw [same]; rfl) (head?_natChars positive)

/-- What starts like a positive number has no leading zero. -/
theorem noLeadingZero_of_prefix {n : Nat} (positive : 0 < n) {cs tail : List Char}
    (front : cs <+: natChars n ++ tail) : ∀ more, cs = '0' :: more → more = [] := by
  rintro more rfl
  obtain ⟨behind, same⟩ := front
  have first := head?_natChars positive
  rw [← List.head?_append_of_ne_nil _ (natChars_ne_nil n), ← same] at first
  exact absurd rfl first

/-- Digits on either side of a point are a spelling. -/
theorem exists_spelling_point {whole fraction : List Char} (wholeDigits : IsDigits whole)
    (noLeadingZero : ∀ more, whole = '0' :: more → more = []) (fractionDigits : IsDigits fraction) :
    ∃ s : Spelling, s.chars = whole ++ '.' :: fraction := by
  refine ⟨⟨whole, some fraction, none, wholeDigits, noLeadingZero, ?_, by simp⟩, ?_⟩
  · rintro ds ⟨rfl⟩
    exact fractionDigits
  · rw [Spelling.chars, Spelling.fractionChars, Spelling.exponentPartChars, List.append_nil]

/-- Digits and then zeros are digits. -/
theorem IsDigits.append_replicate {cs : List Char} (digits : IsDigits cs) (n : Nat) :
    IsDigits (cs ++ List.replicate n '0') := by
  refine ⟨List.append_ne_nil_of_left_ne_nil digits.1 _, fun c hc => ?_⟩
  rcases List.mem_append.1 hc with h | h
  · exact digits.2 c h
  · exact isDigit_of_mem_replicate h

/-- Zeros and then digits are digits. -/
theorem IsDigits.replicate_append {cs : List Char} (digits : IsDigits cs) (n : Nat) :
    IsDigits (List.replicate n '0' ++ cs) := by
  refine ⟨List.append_ne_nil_of_right_ne_nil _ digits.1, fun c hc => ?_⟩
  rcases List.mem_append.1 hc with h | h
  · exact isDigit_of_mem_replicate h
  · exact digits.2 c h

/-- **Positional notation is a spelling.** -/
theorem exists_spelling_positional {d : Digits} (positive : 0 < d.digits) :
    ∃ s : Spelling, s.chars = d.positional := by
  have digits := isDigits_natChars d.digits
  have some_digit := List.length_pos_iff.2 digits.1
  by_cases large : 0 ≤ d.scale
  · have front := noLeadingZero_of_prefix positive
      (List.prefix_refl (natChars d.digits ++ List.replicate d.scale.toNat '0'))
    simp only [Digits.positional, large, if_true]
    exact exists_spelling_point (digits.append_replicate _) front isDigits_zero
  by_cases inner : (-d.scale).toNat < (natChars d.digits).length
  · -- the point stands between digits, and at least one of them is behind it
    have initial : (natChars d.digits).take ((natChars d.digits).length - (-d.scale).toNat)
        <+: natChars d.digits ++ [] := by
      rw [List.append_nil]
      exact List.take_prefix _ _
    have front := noLeadingZero_of_prefix positive initial
    simp only [Digits.positional, large, inner, if_true, if_false]
    refine exists_spelling_point ⟨?_, fun c hc => digits.2 c (List.mem_of_mem_take hc)⟩ front
      ⟨?_, fun c hc => digits.2 c (List.mem_of_mem_drop hc)⟩
    · rw [← List.length_pos_iff, List.length_take]
      omega
    · rw [← List.length_pos_iff, List.length_drop]
      omega
  · simp only [Digits.positional, large, inner, if_false, List.cons_append]
    exact exists_spelling_point isDigits_zero noLeadingZero_singleton (digits.replicate_append _)

/-- **Scientific notation is a spelling.** -/
theorem exists_spelling_scientific (d : Digits) (exponent : Int) :
    ∃ s : Spelling, s.chars = d.scientific exponent := by
  have digits := isDigits_natChars d.digits
  have exponentChars_eq : ∀ e : Int, 'e' :: exponentChars e
      = Spelling.exponentPartChars (some (decide (e < 0), natChars e.natAbs)) := by
    intro e
    by_cases negative : e < 0 <;>
      simp [exponentChars, Spelling.exponentPartChars, Spelling.signChar, negative]
  unfold Digits.scientific
  split
  · next none_written => exact absurd none_written digits.1
  · next first written =>
    rw [written] at digits
    refine ⟨⟨[first], none, some (decide (exponent < 0), natChars exponent.natAbs), digits,
      noLeadingZero_singleton, by simp, ?_⟩, ?_⟩
    · rintro e ⟨rfl⟩
      exact isDigits_natChars _
    · rw [exponentChars_eq]
      rfl
  · next first more some_more written =>
    rw [written] at digits
    obtain ⟨-, isDigit⟩ := digits
    obtain ⟨isDigit, others⟩ := List.forall_mem_cons.1 isDigit
    refine ⟨⟨[first], some more, some (decide (exponent < 0), natChars exponent.natAbs),
      ⟨by simp, by simpa using isDigit⟩, noLeadingZero_singleton, ?_, ?_⟩, ?_⟩
    · rintro ds ⟨rfl⟩
      exact ⟨some_more, others⟩
    · rintro e ⟨rfl⟩
      exact isDigits_natChars _
    · rw [exponentChars_eq]
      rfl

/-- Digits are a spelling, whichever of the two ways they are written in. -/
theorem exists_spelling_chars {d : Digits} (positive : 0 < d.digits) :
    ∃ s : Spelling, s.chars = d.chars jsonStyle := by
  simp only [Digits.chars]
  split
  · exact exists_spelling_positional positive
  · exact exists_spelling_scientific _ _

/-- The digits of a natural number are a spelling. -/
def natSpelling (n : Nat) : Spelling where
  whole := natChars n
  fraction := none
  exponent := none
  whole_isDigits := isDigits_natChars n
  noLeadingZero := noLeadingZero_natChars n
  fraction_isDigits := by simp
  exponent_isDigits := by simp

/-- A natural number is written as it is spelt. -/
theorem natSpelling_chars (n : Nat) : (natSpelling n).chars = natChars n :=
  List.append_nil _

/-! ### Numbers -/

/-- A spelling, perhaps behind a minus sign. -/
def signedChars (negative : Bool) (s : Spelling) : List Char :=
  if negative then '-' :: s.chars else s.chars

namespace Number

/-- **Every number is written as a spelling**, perhaps behind a minus sign. -/
theorem exists_spelling (n : Number) : ∃ negative s, n.chars = signedChars negative s := by
  cases n with
  | int i =>
    cases i with
    | ofNat n => exact ⟨false, natSpelling n, (natSpelling_chars n).symm⟩
    | negSucc n => exact ⟨true, natSpelling (n + 1), by rw [signedChars, natSpelling_chars]; rfl⟩
  | float x =>
    cases parts : split x with
    | mk negative magnitude =>
      cases magnitude with
      | none =>
        obtain ⟨s, body⟩ :=
          exists_spelling_point isDigits_zero noLeadingZero_singleton isDigits_zero
        exact ⟨negative, s, by rw [signedChars, body, Number.chars, floatChars, parts]; rfl⟩
      | some b =>
        have positive := Binary.shortest_digits_pos (split_mantissa_pos (congrArg Prod.snd parts))
        obtain ⟨s, body⟩ := exists_spelling_chars positive
        exact ⟨negative, s, by rw [signedChars, body, Number.chars, floatChars, parts]⟩

/-- A written number starts with a minus sign or a digit. -/
theorem exists_chars_eq_cons (n : Number) :
    ∃ c more, n.chars = c :: more ∧ (c = '-' ∨ c.isDigit = true) := by
  obtain ⟨negative, s, written⟩ := n.exists_spelling
  cases negative with
  | true => exact ⟨'-', s.chars, written, .inl rfl⟩
  | false =>
    obtain ⟨c, more, first, digit⟩ := s.exists_chars_eq_cons
    exact ⟨c, more, written.trans first, .inr digit⟩

end Number

/-- A signed spelling is a literal, whatever follows. -/
theorem scan_signedChars (negative : Bool) (s : Spelling) {rest : List Char}
    (ends : EndsNumber rest) :
    Numeral.scan (signedChars negative s ++ rest) = .ok (s.numeral negative, rest) := by
  have unsigned := s.scanUnsigned_chars negative ends
  cases negative with
  | true => exact unsigned
  | false =>
    obtain ⟨c, more, first, digit⟩ := s.exists_chars_eq_cons
    have written : signedChars false s = c :: more := first
    rw [first, List.cons_append] at unsigned
    rw [written, List.cons_append, ← unsigned]
    unfold Numeral.scan
    split
    · next same =>
      cases same
      cases digit
    · rfl

namespace Number

/-- The number that a reader takes a written number for, or nothing if it refuses it as too
large. -/
def reread? (n : Number) : Option Number :=
  match Numeral.scan n.chars with
  | .ok (literal, _) => literal.value?
  | .error _ => none

/-- A number that is written as a spelling is read as the value of its literal. -/
theorem reread?_eq {n : Number} {negative : Bool} {s : Spelling}
    (written : n.chars = signedChars negative s) : n.reread? = (s.numeral negative).value? := by
  have whole := scan_signedChars negative s endsNumber_nil
  rw [List.append_nil, ← written] at whole
  simp only [reread?, whole]

/-- **A written number is one literal**, whatever follows, and its value is what it is read
as. -/
theorem scan_chars (n : Number) : ∃ literal : Numeral, literal.value? = n.reread?
    ∧ ∀ rest, EndsNumber rest → Numeral.scan (n.chars ++ rest) = .ok (literal, rest) := by
  obtain ⟨negative, s, written⟩ := n.exists_spelling
  refine ⟨s.numeral negative, (reread?_eq written).symm, fun rest ends => ?_⟩
  rw [written]
  exact scan_signedChars negative s ends

end Number

end Workflow.Json
