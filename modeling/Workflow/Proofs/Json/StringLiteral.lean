import Mathlib.Tactic.SplitIfs
import Workflow.Json.Printer
import Workflow.Json.StringLiteral

/-!
# Written strings are read back

What is written for a character is the character itself or one escape. Either way the reader
takes it for that character, and the walk that only looks for the end passes over it.

## Main results

* `escapeChar_cases`: what is written for a character, and what its escape is taken for.
* `read_inside`, `skip_inside`: a written string is read back, and what stands after it is found.
-/

namespace Workflow.Json

namespace StringLiteral

/-! ### Escapes -/

/-- The digit characters have the values they are written for. -/
theorem hexDigit?_digitChar : ∀ d < 16, hexDigit? (Nat.digitChar d) = some d := by
  decide

/-- The digit characters take one byte each. -/
theorem utf8Size_digitChar : ∀ d < 16, (Nat.digitChar d).utf8Size = 1 := by
  decide

/-- Two zeros and a pair of digits give the code unit of the pair. -/
theorem codeUnit_hexPair {n : Nat} (small : n < 0x20) (tail : List Char) :
    codeUnit ('0' :: '0' :: (hexPair n ++ tail)) = .ok n := by
  have high : n / 16 < 16 := by omega
  have low : n % 16 < 16 := Nat.mod_lt n (by decide)
  rw [show hexPair n ++ tail = Nat.digitChar (n / 16) :: Nat.digitChar (n % 16) :: tail from rfl]
  have value : ((0 * 16 + 0) * 16 + n / 16) * 16 + n % 16 = n := by omega
  have bytes : byteCount ['0', '0', Nat.digitChar (n / 16), Nat.digitChar (n % 16)] = 4 := by
    simp [byteCount, utf8Size_digitChar _ high, utf8Size_digitChar _ low,
      show '0'.utf8Size = 1 by decide]
  rw [codeUnit, List.take, List.take, List.take, List.take, List.take, bytes]
  simp only [hexDigit?_digitChar _ high, hexDigit?_digitChar _ low,
    show hexDigit? '0' = some 0 by decide, value, Nat.lt_irrefl, if_false]

/-- The escape of a control character is taken for it. -/
theorem escape_control {c : Char} (control : c.toNat < 0x20) (tail : List Char) :
    escape ('u' :: '0' :: '0' :: (hexPair c.toNat ++ tail)) = .ok (c, 5)
      ∧ escapeSize ('u' :: '0' :: '0' :: (hexPair c.toNat ++ tail)) = .ok 5 := by
  have unit := codeUnit_hexPair control tail
  have high : isHigh c.toNat = false := by
    simp only [isHigh, Bool.and_eq_false_iff, decide_eq_false_iff_not]
    omega
  have low : isLow c.toNat = false := by
    simp only [isLow, Bool.and_eq_false_iff, decide_eq_false_iff_not]
    omega
  constructor
  · simp only [escape, numericEscape, unit, low, high, bind, Except.bind, Bool.false_eq_true,
      if_false, Char.ofNat_toNat, pure, Except.pure]
  · simp only [escapeSize, unit, Except.map]

/-- **What is written for a character**: the character itself, or one escape that is taken for
the character whatever follows. -/
theorem escapeChar_cases (c : Char) :
    (0x20 ≤ c.toNat ∧ c ≠ '"' ∧ c ≠ '\\' ∧ escapeChar c = [c])
      ∨ ∃ e, escapeChar c = '\\' :: e ∧ ∀ tail, escape (e ++ tail) = .ok (c, e.length)
        ∧ escapeSize (e ++ tail) = .ok e.length := by
  unfold escapeChar
  split_ifs with quote slash newline return_ tab back feed control
  · exact .inr ⟨['"'], rfl, fun tail => by subst quote; exact ⟨rfl, rfl⟩⟩
  · exact .inr ⟨['\\'], rfl, fun tail => by subst slash; exact ⟨rfl, rfl⟩⟩
  · exact .inr ⟨['n'], rfl, fun tail => by subst newline; exact ⟨rfl, rfl⟩⟩
  · exact .inr ⟨['r'], rfl, fun tail => by subst return_; exact ⟨rfl, rfl⟩⟩
  · exact .inr ⟨['t'], rfl, fun tail => by subst tab; exact ⟨rfl, rfl⟩⟩
  · exact .inr ⟨['b'], rfl, fun tail => by subst back; exact ⟨rfl, rfl⟩⟩
  · exact .inr ⟨['f'], rfl, fun tail => by subst feed; exact ⟨rfl, rfl⟩⟩
  · exact .inr ⟨_, rfl, fun tail => escape_control control tail⟩
  · exact .inl ⟨Nat.not_lt.1 control, quote, slash, rfl⟩

/-! ### Literals -/

/-- The characters of an escape are passed over by the reader. -/
theorem readFrom_pass (taken e tail : List Char) :
    readFrom e.length taken (e ++ tail) = readFrom 0 taken tail := by
  induction e with
  | nil => rfl
  | cons _ _ ih => exact ih

/-- The characters of an escape are passed over by the walk to the end. -/
theorem skipFrom_pass (e tail : List Char) : skipFrom e.length (e ++ tail) = skipFrom 0 tail := by
  induction e with
  | nil => rfl
  | cons _ _ ih => exact ih

/-- What is written for a character is read as it. -/
theorem readFrom_escapeChar (taken tail : List Char) (c : Char) :
    readFrom 0 taken (escapeChar c ++ tail) = readFrom 0 (c :: taken) tail := by
  rcases escapeChar_cases c with ⟨visible, quote, slash, plain⟩ | ⟨e, escaped, taken_for⟩
  · rw [plain]
    exact readFrom_plain taken tail c visible quote slash
  · rw [escaped, List.cons_append, readFrom]
    simp only [(taken_for tail).1, show ('\\' : Char) ≠ '"' by decide, if_false, if_true]
    exact readFrom_pass _ e tail

/-- What is written for a character is passed over. -/
theorem skipFrom_escapeChar (tail : List Char) (c : Char) :
    skipFrom 0 (escapeChar c ++ tail) = skipFrom 0 tail := by
  rcases escapeChar_cases c with ⟨visible, quote, slash, plain⟩ | ⟨e, escaped, taken_for⟩
  · rw [plain, List.cons_append, skipFrom]
    simp only [quote, slash, Nat.not_lt.2 visible, if_false, List.nil_append]
  · rw [escaped, List.cons_append, skipFrom]
    simp only [(taken_for tail).2, show ('\\' : Char) ≠ '"' by decide, if_false, if_true]
    exact skipFrom_pass e tail

/-- The inside of a written string, with its closing quote, and then `rest`. -/
def inside (cs rest : List Char) : List Char :=
  cs.foldr (fun c tail => escapeChar c ++ tail) ('"' :: rest)

/-- The inside of a written string is read as its characters. -/
theorem readFrom_inside (cs taken rest : List Char) :
    readFrom 0 taken (inside cs rest) = .ok (taken.reverse ++ cs) := by
  induction cs generalizing taken with
  | nil => simp [inside, readFrom]
  | cons c cs ih =>
    have first := readFrom_escapeChar taken (inside cs rest) c
    rw [ih, List.reverse_cons, List.append_assoc] at first
    exact first

/-- The inside of a written string is passed over. -/
theorem skipFrom_inside (cs rest : List Char) : skipFrom 0 (inside cs rest) = .ok rest := by
  induction cs with
  | nil => simp [inside, skipFrom]
  | cons c cs ih => exact (skipFrom_escapeChar (inside cs rest) c).trans ih

/-- **A written string is read back.** -/
theorem read_inside (s : String) (rest : List Char) : read (inside s.toList rest) = .ok s := by
  rw [read, readFrom_inside, Except.map, List.reverse_nil, List.nil_append, String.ofList_toList]

/-- What stands after a written string is found. -/
theorem skip_inside (s : String) (rest : List Char) : skip (inside s.toList rest) = .ok rest :=
  skipFrom_inside s.toList rest

end StringLiteral

/-- A written string is a quote and the inside. -/
theorem stringLiteral_eq (s : String) (rest : List Char) :
    stringLiteral s rest = '"' :: StringLiteral.inside s.toList rest := rfl

end Workflow.Json
