import Mathlib.Data.List.Nodup
import Mathlib.Data.List.Perm.Subperm
import Workflow.Proofs.Json.Place
import Workflow.Proofs.Json.Seen

/-!
# Equal values

Values are equal as maps are: whatever the order of the entries, and two zeros are one number. This
is no equality of what is stored, so that what it is good for has to be shown. It is transitive. To
turn it round takes an object that repeats no key: else one entry is compared twice, and another
one never.

## Main results

* `float_beq_iff`: what equal doubles are.
* `sameEntries_iff`: an object equals one with as many entries that holds an equal value under every
  key.
* `Value.same_trans`, `Value.same_symm`: **equality is transitive, and symmetric between values that
  repeat no key.**
-/

namespace Workflow.Json

/-! ### Numbers -/

/-- Two exponents and then two mantissas compare as equal if both are. -/
theorem compare_then_eq_iff {e e' : Int} {m m' : Nat} :
    (compare e e').then (compare m m') = .eq ↔ e = e' ∧ m = m' := by
  rw [Ordering.then_eq_eq, Std.compare_eq_iff_eq, Std.compare_eq_iff_eq]

/-- Unpacked doubles are equal if they are the same and a number, or two zeros. -/
theorem unpacked_beq_iff {a b : Float.Model.UnpackedFloat} :
    a.beq b = true ↔ a ≠ .notANumber ∧ (a = b ∨ ∃ s t, a = .zero s ∧ b = .zero t) := by
  have compared : a.beq b = true ↔ a.compare b = some .eq := beq_iff_eq
  rw [compared]
  constructor
  · -- doubles of two kinds or two signs are ordered, zeros apart
    intro equal
    match a, b, equal with
    | .infinity .positive, .infinity .positive, _ => exact ⟨nofun, .inl rfl⟩
    | .infinity .negative, .infinity .negative, _ => exact ⟨nofun, .inl rfl⟩
    | .zero s, .zero t, _ => exact ⟨nofun, .inr ⟨s, t, rfl, rfl⟩⟩
    | .finite .positive m e _, .finite .positive m' e' _, equal =>
      obtain ⟨rfl, rfl⟩ := compare_then_eq_iff.1 (Option.some.inj equal)
      exact ⟨nofun, .inl rfl⟩
    | .finite .negative m e _, .finite .negative m' e' _, equal =>
      obtain ⟨rfl, rfl⟩ := compare_then_eq_iff.1 (Ordering.swap_eq_eq.1 (Option.some.inj equal))
      exact ⟨nofun, .inl rfl⟩
  · rintro ⟨number, rfl | ⟨s, t, rfl, rfl⟩⟩
    · match a with
      | .notANumber => exact absurd rfl number
      | .infinity .positive => rfl
      | .infinity .negative => rfl
      | .zero _ => rfl
      | .finite .positive m e _ => exact congrArg some (compare_then_eq_iff.2 ⟨rfl, rfl⟩)
      | .finite .negative m e _ =>
        exact congrArg some (Ordering.swap_eq_eq.2 (compare_then_eq_iff.2 ⟨rfl, rfl⟩))
    · rfl

/-- **Doubles are equal** if they are the same and a number, or two zeros. -/
theorem float_beq_iff {x y : Float} :
    (x == y) = true ↔ x.toModel.unpack ≠ .notANumber
      ∧ (x.toModel.unpack = y.toModel.unpack
        ∨ ∃ s t, x.toModel.unpack = .zero s ∧ y.toModel.unpack = .zero t) :=
  unpacked_beq_iff

/-- Equal numbers are equal the other way round. -/
theorem Number.same_symm {a b : Number} (h : a.same b = true) : b.same a = true := by
  match a, b, h with
  | .int _, .int _, h => exact BEq.symm h
  | .float _, .float _, h =>
    have equal := float_beq_iff.1 h
    exact float_beq_iff.2 (by grind)

/-- Numbers equal to the same number are equal. -/
theorem Number.same_trans {a b c : Number} (h : a.same b = true) (h' : b.same c = true) :
    a.same c = true := by
  match a, b, c, h, h' with
  | .int _, .int _, .int _, h, h' => exact BEq.trans h h'
  | .float _, .float _, .float _, h, h' =>
    have first := float_beq_iff.1 h
    have second := float_beq_iff.1 h'
    exact float_beq_iff.2 (by grind)

/-! ### Reading maps -/

/-- What is found under a key is an entry. -/
theorem Fields.mem_of_get?_eq_some {fields : Fields} {key : String} {v : Value}
    (found : fields.get? key = some v) : (key, v) ∈ fields := by
  induction fields with
  | nil => cases found
  | cons e rest ih =>
    rw [Fields.get?] at found
    split at found
    · next same =>
      cases found
      exact same ▸ List.mem_cons_self
    · exact List.mem_cons_of_mem e (ih found)

/-- Where no key is repeated, every entry is found under its key. -/
theorem Fields.get?_eq_some_iff {fields : Fields} (distinct : fields.keys.Nodup) {key : String}
    {v : Value} : fields.get? key = some v ↔ (key, v) ∈ fields := by
  refine ⟨mem_of_get?_eq_some, fun listed => ?_⟩
  have known : (fields.get? key).isSome = true :=
    (fields.get?_isSome_iff key).2 (List.mem_map_of_mem listed)
  obtain ⟨w, found⟩ := Option.isSome_iff_exists.1 known
  have same : (key, w) = (key, v) :=
    List.inj_on_of_nodup_map distinct (mem_of_get?_eq_some found) listed rfl
  exact found.trans (congrArg (fun e => some e.2) same)

/-! ### Values -/

namespace Value

/-- Items are equal one by one. -/
theorem sameItems_iff {xs ys : List Value} :
    sameItems xs ys = true ↔ List.Forall₂ (fun v w => v.same w = true) xs ys := by
  induction xs generalizing ys with
  | nil => cases ys <;> simp [sameItems]
  | cons x xs ih => cases ys <;> simp [sameItems, ih]

/-- **Entries are equal** if there is an equal value under every key. -/
theorem sameEntries_iff {xs : List (String × Value)} {ys : Fields} :
    sameEntries xs ys = true ↔
      ∀ e ∈ xs, ∃ w, Fields.get? e.1 ys = some w ∧ e.2.same w = true := by
  induction xs with
  | nil => simp [sameEntries]
  | cons e rest ih =>
    rw [sameEntries, Bool.and_eq_true, ih, List.forall_mem_cons]
    refine and_congr_left fun _ => ?_
    cases Fields.get? e.1 ys <;> simp

/-- Objects are equal if they have as many entries and there is an equal value under every key. -/
theorem same_obj_iff {xs ys : Fields} :
    (obj xs).same (obj ys) = true ↔ xs.length = ys.length
      ∧ ∀ e ∈ xs, ∃ w, Fields.get? e.1 ys = some w ∧ e.2.same w = true := by
  rw [same, Bool.and_eq_true, beq_iff_eq, sameEntries_iff]

/-- **What equal values are**: the same value, or numbers, arrays or objects that are equal. -/
theorem same_cases {v w : Value} (h : v.same w = true) :
    v = w ∨ (∃ a b, v = .num a ∧ w = .num b ∧ a.same b = true)
      ∨ (∃ xs ys, v = .arr xs ∧ w = .arr ys ∧ List.Forall₂ (fun v w => v.same w = true) xs ys)
      ∨ ∃ xs ys, v = .obj xs ∧ w = .obj ys := by
  cases v <;> cases w <;> simp_all [same, sameItems_iff]

/-- **Values equal to the same value are equal.** The induction is on what stands inside the first
of them. -/
theorem same_trans {u v w : Value} (h : u.same v = true) (h' : v.same w = true) :
    u.same w = true := by
  induction u using childInduction generalizing v w with
  | step u ih =>
    rcases same_cases h with rfl | ⟨a, b, rfl, rfl, eq⟩ | ⟨xs, ys, rfl, rfl, eq⟩ |
      ⟨xs, ys, rfl, rfl⟩
    · exact h'
    · cases w with
      | num c => exact Number.same_trans eq h'
      | _ => cases h'
    · cases w with
      | arr zs =>
        have eq' := sameItems_iff.1 h'
        exact sameItems_iff.2 (forall₂_trans_of_mem eq eq' fun x hx _ _ => ih x hx)
      | _ => cases h'
    · cases w with
      | obj zs =>
        obtain ⟨length, held⟩ := same_obj_iff.1 h
        obtain ⟨length', held'⟩ := same_obj_iff.1 h'
        refine same_obj_iff.2 ⟨length.trans length', fun e he => ?_⟩
        obtain ⟨v, found, eq⟩ := held e he
        obtain ⟨w, found', eq'⟩ := held' _ (Fields.mem_of_get?_eq_some found)
        exact ⟨w, found', ih e.2 (List.mem_map_of_mem he) eq eq'⟩
      | _ => cases h'

/-- If one object repeats no key and equals another one, both have the same keys. -/
theorem keys_perm_of_same {xs ys : Fields} (distinct : xs.keys.Nodup)
    (h : (obj xs).same (obj ys) = true) : xs.keys.Perm ys.keys := by
  obtain ⟨length, held⟩ := same_obj_iff.1 h
  have known : xs.keys ⊆ ys.keys := by
    intro key listed
    obtain ⟨e, he, rfl⟩ := List.mem_map.1 listed
    obtain ⟨w, found, -⟩ := held e he
    exact List.mem_map.2 ⟨_, Fields.mem_of_get?_eq_some found, rfl⟩
  have as_many : ys.keys.length ≤ xs.keys.length := by simp [Fields.keys, length]
  exact (List.Nodup.subperm distinct known).perm_of_length_le as_many

/-- **Equal values are equal the other way round**, if the first repeats no key. -/
theorem same_symm {v w : Value} (keyed : v.WellKeyed) (h : v.same w = true) : w.same v = true := by
  induction v using childInduction generalizing w with
  | step v ih =>
    rcases same_cases h with rfl | ⟨a, b, rfl, rfl, eq⟩ | ⟨xs, ys, rfl, rfl, eq⟩ |
      ⟨xs, ys, rfl, rfl⟩
    · exact h
    · exact Number.same_symm eq
    · rw [WellKeyed, wellKeyedItems_iff] at keyed
      have turned := forall₂_imp_of_mem eq fun x hx _ => ih x hx (keyed x hx)
      exact sameItems_iff.2 turned.flip
    · rw [WellKeyed, wellKeyedEntries_iff] at keyed
      obtain ⟨distinct, keyed⟩ := keyed
      obtain ⟨length, held⟩ := same_obj_iff.1 h
      have perm := keys_perm_of_same distinct h
      refine same_obj_iff.2 ⟨length.symm, fun f hf => ?_⟩
      obtain ⟨e, he, same_key⟩ := List.mem_map.1 (perm.mem_iff.2 (List.mem_map_of_mem hf))
      obtain ⟨w, found, eq⟩ := held e he
      have own : Fields.get? f.1 ys = some f.2 :=
        (Fields.get?_eq_some_iff (perm.nodup distinct)).2 hf
      obtain rfl : f.2 = w := by
        rw [← same_key, found] at own
        exact (Option.some.inj own).symm
      refine ⟨e.2, ?_, ih e.2 (List.mem_map_of_mem he) (keyed e he) eq⟩
      exact (Fields.get?_eq_some_iff distinct).2 (same_key ▸ he)

/-- Equal values are equal to the same values. -/
theorem same_congr_right {v w : Value} (keyed : v.WellKeyed) (h : v.same w = true) (u : Value) :
    u.same v = u.same w := by
  rw [Bool.eq_iff_iff]
  exact ⟨fun same => same_trans same h, fun same => same_trans same (same_symm keyed h)⟩

end Value

end Workflow.Json
