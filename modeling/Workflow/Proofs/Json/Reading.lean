import Workflow.Json.Decoder
import Workflow.Proofs.Json.Seen

/-!
# Reading what is seen

A reader settles what it is shown: it gives a result if the value fits, and whatever else has to
hold holds, and fails if not. What a record gives is put together from what its fields give, so
that the condition of the whole is that of all its parts.

Which values a field may take is said of the entries themselves: those under one of its names.

## Main results

* `ReadsFrom`: what a reader makes of a written value, with as little or as much room as there
  is.
* `Record.Reads.field`, `Record.Reads.seq`: what a record makes of written entries, field by
  field.
* `Record.settles_read`: a record is read from the object of its entries.
-/

namespace Workflow.Json

variable {read? : NumberReading} {room : Nat} {α β : Type}

/-! ### Readers -/

/-- A reader makes `a` of a written value if the value fits and `q` holds, and fails if not. -/
def ReadsFrom (read? : NumberReading) (item : Decoder α) (v : Value) (q : Prop) (a : α) : Prop :=
  ∀ room, Settles (item (v.seen read? room)) (v.Fits read? room ∧ q) a

/-- A text is read from a string. -/
theorem ReadsFrom.text (s : String) : ReadsFrom read? Decoder.text (.str s) True s :=
  fun _ => (Settles.ok s).congr (by simp)

/-- A double is read from a number, as what the reader makes of it. -/
theorem ReadsFrom.float (n : Number) :
    ReadsFrom read? Decoder.float (.num n) True ((read? n).getD n).toFloat := by
  intro room
  rw [Value.seen]
  cases read : read? n with
  | none => exact (Settles.error _ _).congr (by simp [read])
  | some m => exact (Settles.ok _).congr (by simp [read])

/-- No double is read from `null`. -/
theorem ReadsFrom.float_null (x : Float) : ReadsFrom read? Decoder.float .null False x :=
  fun _ => (Settles.error _ x).congr (by simp)

/-- A well-keyed value is read as a value. -/
theorem ReadsFrom.value {v : Value} (keyed : v.WellKeyed) :
    ReadsFrom read? Decoder.value v True (v.reread read?) :=
  fun room => (Scanned.value_seen room v keyed).congr (and_iff_left trivial).symm

/-- What is read may be changed afterwards. -/
theorem ReadsFrom.map {item : Decoder α} {v : Value} {q : Prop} {a : α}
    (reads : ReadsFrom read? item v q a) (f : α → β) :
    ReadsFrom read? (fun s => (item s).map f) v q (f a) :=
  fun room => (reads room).map f

/-- Only the truth of the condition counts. -/
theorem ReadsFrom.congr {item : Decoder α} {v : Value} {q q' : Prop} {a : α}
    (reads : ReadsFrom read? item v q a) (same : q ↔ q') : ReadsFrom read? item v q' a :=
  fun room => (reads room).congr (and_congr_right' same)

/-- Only `null` is seen as `null`. -/
theorem ReadsFrom.nullable {item : Decoder α} {v : Value} {q : Prop} {a : α}
    (reads : ReadsFrom read? item v q a) (notNull : v ≠ .null) :
    ReadsFrom read? (Decoder.nullable item) v q (some a) := by
  intro room
  have seen : Decoder.nullable item (v.seen read? room)
      = (item (v.seen read? room)).map some := by
    cases v with
    | null => exact absurd rfl notNull
    | num n =>
      rw [Value.seen]
      cases read? n <;> rfl
    | arr items => cases room <;> rfl
    | obj fields => cases room <;> rfl
    | _ => rfl
  rw [seen]
  exact (reads room).map some

/-- A name is read as the alternative of this name. -/
theorem ReadsFrom.oneOf {alternatives : List (String × α)} {name : String} {a : α}
    (found : alternatives.find? (·.1 == name) = some (name, a)) :
    ReadsFrom read? (Decoder.oneOf alternatives) (.str name) True a := by
  intro room
  rw [Value.seen, Decoder.oneOf, Decoder.nameOf, found]
  exact (Settles.ok a).congr (by simp)

/-- Items are read one by one. -/
theorem settles_each {item : Decoder α} {write : β → Value} {q : β → Prop} {f : β → α}
    (bs : List β) (reads : ∀ b ∈ bs,
      Settles (item ((write b).seen read? room)) ((write b).Fits read? room ∧ q b) (f b)) :
    Settles (Decoder.each item ((bs.map write).map (Value.seen read? room)))
      (∀ b ∈ bs, (write b).Fits read? room ∧ q b) (bs.map f) := by
  induction bs with
  | nil => exact (Settles.ok _).congr (by simp)
  | cons b rest ih =>
    obtain ⟨first, others⟩ := List.forall_mem_cons.1 reads
    rw [List.map_cons, List.map_cons, List.map_cons, Decoder.each]
    refine Settles.congr (Settles.bind first (Settles.bind (ih others) (Settles.ok _))) ?_
    simp

/-- A list is read from an array if every item is, with the room that the array leaves. -/
theorem settles_list {item : Decoder α} {write : β → Value} {q : β → Prop} {f : β → α}
    (bs : List β) (reads : ∀ inner, room = inner + 1 → ∀ b ∈ bs,
      Settles (item ((write b).seen read? inner)) ((write b).Fits read? inner ∧ q b) (f b)) :
    Settles (Decoder.list item ((Value.arr (bs.map write)).seen read? room))
      ((Value.arr (bs.map write)).Fits read? room ∧ ∀ b ∈ bs, q b) (bs.map f) := by
  cases room with
  | zero => exact (Settles.error _ _).congr (by simp)
  | succ room =>
    rw [Value.seen, Value.seenItems_eq_map]
    refine Settles.congr (Settles.bind (settles_each bs (reads room rfl)) (Settles.ok _)) ?_
    simp only [Value.fits_arr_succ, List.forall_mem_map, forall_and, and_true]

/-- **A list is read** from an array if every item is. -/
theorem ReadsFrom.list {item : Decoder α} {write : β → Value} {q : β → Prop} {f : β → α}
    (bs : List β) (reads : ∀ b ∈ bs, ReadsFrom read? item (write b) (q b) (f b)) :
    ReadsFrom read? (Decoder.list item) (.arr (bs.map write)) (∀ b ∈ bs, q b) (bs.map f) :=
  fun _ => settles_list bs fun inner _ b hb => reads b hb inner

/-- Entries are read one by one. -/
theorem settles_eachEntry {item : Decoder α} {write : β → Value} {q : β → Prop} {f : β → α}
    (entries : List (String × β))
    (reads : ∀ e ∈ entries, ReadsFrom read? item (write e.2) (q e.2) (f e.2)) :
    Settles
      (Decoder.eachEntry item
        (Value.seenFields read? room (entries.map fun e => (e.1, write e.2))))
      (∀ e ∈ entries, (write e.2).Fits read? room ∧ q e.2)
      (entries.map fun e => (e.1, f e.2)) := by
  induction entries with
  | nil => exact (Settles.ok _).congr (by simp)
  | cons e rest ih =>
    obtain ⟨first, others⟩ := List.forall_mem_cons.1 reads
    rw [List.map_cons, List.map_cons, Value.seenFields, Decoder.eachEntry]
    refine Settles.congr (Settles.bind (Settles.ok e.1) (Settles.bind (first room)
      (Settles.bind (ih others) (Settles.ok _)))) ?_
    simp

/-- **Entries are read** from an object if every value is. -/
theorem ReadsFrom.entries {item : Decoder α} (write : β → Value) (q : β → Prop) (f : β → α)
    (es : List (String × β))
    (reads : ∀ e ∈ es, ReadsFrom read? item (write e.2) (q e.2) (f e.2)) :
    ReadsFrom read? (Decoder.entries item) (.obj (es.map fun e => (e.1, write e.2)))
      (∀ e ∈ es, q e.2) (es.map fun e => (e.1, f e.2)) := by
  intro room
  cases room with
  | zero => exact (Settles.error _ _).congr (by simp)
  | succ room =>
    rw [Value.seen]
    refine Settles.congr (Settles.bind (settles_eachEntry es reads) (Settles.ok _)) ?_
    simp only [Value.fits_obj_succ, List.forall_mem_map, forall_and, and_true]

/-- A well-keyed object is read as a map. -/
theorem ReadsFrom.fields {config : Fields} (keyed : (Value.obj config).WellKeyed) :
    ReadsFrom read? Decoder.fields (.obj config) True (Value.rereadFields read? config) := by
  rw [Value.WellKeyed] at keyed
  obtain ⟨distinct, values⟩ := keyed
  have inside := ReadsFrom.entries id (fun _ => True) (Value.reread read?) config fun e he =>
    ReadsFrom.value (Value.wellKeyedEntries_iff.1 values e he)
  have same : Fields.ofEntries (config.map fun e => (e.1, e.2.reread read?))
      = Value.rereadFields read? config := by
    rw [← Value.rereadFields_eq_map, Fields.ofEntries_eq_self]
    rwa [Scanned.keys_rereadFields]
  have mapped : ReadsFrom read? Decoder.fields (.obj (config.map fun e => (e.1, e.2)))
      (∀ e ∈ config, True) (Value.rereadFields read? config) :=
    same ▸ inside.map Fields.ofEntries
  rw [List.map_id'] at mapped
  exact mapped.congr (by simp)

/-! ### Entries under a name -/

/-- The values of the entries under one of `names`, in order. -/
def under (names : List String) (fields : List (String × Value)) : List Value :=
  (fields.filter fun e => names.contains e.1).map (·.2)

/-- Nothing stands in no entries. -/
@[simp] theorem under_nil (names : List String) : under names [] = [] := rfl

/-- The first entry counts if its key is one of the names. -/
@[simp] theorem under_cons (names : List String) (e : String × Value)
    (fields : List (String × Value)) :
    under names (e :: fields)
      = if names.contains e.1 then e.2 :: under names fields else under names fields := by
  rw [under, List.filter_cons]
  split <;> rfl

/-- The entries of two lists count one after the other. -/
@[simp] theorem under_append (names : List String) (fields more : List (String × Value)) :
    under names (fields ++ more) = under names fields ++ under names more := by
  simp [under]

/-- An entry that may be left out counts if it is there. -/
@[simp] theorem under_entryIf (names : List String) (key : String) (v? : Option Value) :
    under names (entryIf key v?) = if names.contains key then v?.toList else [] := by
  cases v? <;> simp [entryIf]

/-- The value of every entry fits. -/
def AllFit (read? : NumberReading) (room : Nat) (fields : List (String × Value)) : Prop :=
  ∀ e ∈ fields, e.2.Fits read? room

/-- An object fits if its entries do in what room it leaves. -/
theorem fits_obj_iff_allFit {fields : List (String × Value)} :
    (Value.obj fields).Fits read? (room + 1) ↔ AllFit read? room fields :=
  Value.fits_obj_succ

/-- No entries fit anyway. -/
@[simp] theorem allFit_nil : AllFit read? room [] := by
  simp [AllFit]

/-- Entries fit if the first one does and the others do. -/
@[simp] theorem allFit_cons {e : String × Value} {fields : List (String × Value)} :
    AllFit read? room (e :: fields) ↔ e.2.Fits read? room ∧ AllFit read? room fields :=
  List.forall_mem_cons

/-- The entries of two lists fit if those of each do. -/
@[simp] theorem allFit_append {fields more : List (String × Value)} :
    AllFit read? room (fields ++ more) ↔ AllFit read? room fields ∧ AllFit read? room more :=
  List.forall_mem_append

/-- An entry that may be left out fits if it does when it is there. -/
@[simp] theorem allFit_entryIf {key : String} {v? : Option Value} :
    AllFit read? room (entryIf key v?) ↔ ∀ v, v? = some v → v.Fits read? room := by
  cases v? <;> simp [AllFit, entryIf]

/-- A text that may be left out always fits. -/
@[simp] theorem allFit_entryIf_str {key : String} {s? : Option String} :
    AllFit read? room (entryIf key (s?.map Value.str)) := by
  cases s? <;> simp [AllFit, entryIf]

/-! ### Records -/

namespace Reading

/-- Both results are there under both conditions. -/
theorem settles_both {x : Reading α} {y : Reading β} {p q : Prop} {a : α} {b : β}
    (first : Settles x p a) (second : Settles y q b) :
    Settles (x.both y) (p ∧ q) (a, b) := by
  by_cases hp : p <;> by_cases hq : q
  · rw [first.1 hp, second.1 hq]
    exact (Settles.ok _).congr (by simp [hp, hq])
  · obtain ⟨e, failed⟩ := second.2 hq
    rw [first.1 hp, failed]
    exact (Settles.error e _).congr (by simp [hq])
  · obtain ⟨e, failed⟩ := first.2 hp
    rw [failed, second.1 hq]
    exact (Settles.error e _).congr (by simp [hp])
  · obtain ⟨e, failed⟩ := first.2 hp
    obtain ⟨e', failed'⟩ := second.2 hq
    rw [failed, failed', both]
    split <;> exact (Settles.error _ _).congr (by simp [hp])

end Reading

namespace Record

/-- A reading that is settled without its place is there under the same condition. -/
theorem settles_settle {x : Reading α} {p : Prop} {a : α} (settles : Settles x p a) :
    Settles (settle x) p a := by
  refine ⟨fun hp => by rw [settles.1 hp]; rfl, fun hp => ?_⟩
  obtain ⟨e, failed⟩ := settles.2 hp
  exact ⟨e.2, by rw [failed]; rfl⟩

/-- A record makes `a` of written entries if `p` holds, and fails if not. -/
def Reads (read? : NumberReading) (room : Nat) (r : Record α) (fields : List (String × Value))
    (p : Prop) (a : α) : Prop :=
  ∀ short start,
    Settles (r.build short start (.named (Value.seenFields read? room fields) none)) p a

variable {fields : List (String × Value)} {p q : Prop}

/-- What a record gives may be changed. -/
theorem Reads.map {r : Record α} {a : α} (reads : Reads read? room r fields p a) (f : α → β) :
    Reads read? room (f <$> r) fields p (f a) :=
  fun short start => (reads short start).map f

/-- **Fields are read one after the other**, and the conditions of all must hold. -/
theorem Reads.seq {r : Record (α → β)} {s : Record α} {f : α → β} {a : α}
    (first : Reads read? room r fields p f) (second : Reads read? room s fields q a) :
    Reads read? room (r <*> s) fields (p ∧ q) (f a) := by
  intro short start
  have both := Reading.settles_both (first short start) (second short (start + r.names.length))
  exact both.map fun x => x.1 x.2

/-- The values found under names are seen as the values under them. -/
theorem map_snd_occurrences (names : List String) (i : Nat) (fields : List (String × Value)) :
    (occurrences names i (Value.seenFields read? room fields)).map (·.2)
      = (under names fields).map (Value.seen read? room) := by
  induction fields generalizing i with
  | nil => rfl
  | cons e rest ih =>
    obtain ⟨k, v⟩ := e
    rw [Value.seenFields, occurrences, isOneOf_key, under_cons]
    split
    · rw [List.map_cons, List.map_cons, ih]
    · exact ih (i + 1)

/-- **A field is read** from the entry under its names, or has its default if there is none. -/
theorem Reads.field {name : String} {others : List String} {item : Decoder α}
    {default : Option α} (v? : Option Value) {a : α}
    (found : under (name :: others) fields = v?.toList)
    (present : ∀ v, v? = some v → Settles (item (v.seen read? room)) p a)
    (absent : v? = none → p ∧ default = some a) :
    Reads read? room (field name others item default) fields p a := by
  intro short start
  have seen : (occurrences (name :: others) 0 (Value.seenFields read? room fields)).map (·.2)
      = (under (name :: others) fields).map (Value.seen read? room) :=
    map_snd_occurrences _ 0 fields
  rw [found] at seen
  simp only [Record.field, fromNamed]
  cases v? with
  | none =>
    obtain ⟨hp, rfl⟩ := absent rfl
    have none_found := List.map_eq_nil_iff.1 seen
    rw [none_found]
    exact (Settles.ok a).congr (by simp [hp])
  | some v =>
    obtain ⟨⟨i, s⟩, one_found, same⟩ := List.map_eq_singleton_iff.1 seen
    rw [one_found]
    have same : s = v.seen read? room := same
    subst same
    have settles := present v rfl
    by_cases hp : p
    · simp only [settles.1 hp]
      exact (Settles.ok a).congr (by simp [hp])
    · obtain ⟨fault, failed⟩ := settles.2 hp
      simp only [failed]
      exact (Settles.error _ _).congr (by simp [hp])

/-- A text that must be there is read. -/
theorem Reads.text {name : String} {s : String} (found : under [name] fields = [.str s]) :
    Reads read? room (required name Decoder.text) fields True s :=
  .field (some (.str s)) found
    (by rintro v ⟨rfl⟩; exact ((ReadsFrom.text s) room).congr (by simp)) (by simp)

/-- What is written as a text and may be left out is read, or nothing, under whichever of its names
it is written. -/
theorem Reads.named? {name : String} {others : List String} {item : Decoder α}
    {write : α → String} {a? : Option α}
    (found : under (name :: others) fields = (a?.map fun a => Value.str (write a)).toList)
    (reads : ∀ a, ReadsFrom read? item (.str (write a)) True a) :
    Reads read? room (Record.field name others (Decoder.nullable item) (some none)) fields True
      a? := by
  refine .field _ found (fun v given => ?_) fun left_out => ?_
  · obtain ⟨a, rfl, rfl⟩ := Option.map_eq_some_iff.1 given
    exact ((reads a).nullable (by simp) room).congr (by simp)
  · rw [Option.map_eq_none_iff.1 left_out]
    exact ⟨trivial, rfl⟩

/-- A text that may be left out is read, or nothing. -/
theorem Reads.text? {name : String} {others : List String} {s? : Option String}
    (found : under (name :: others) fields = (s?.map Value.str).toList) :
    Reads read? room (Record.field name others (Decoder.nullable Decoder.text) (some none)) fields
      True s? :=
  .named? found ReadsFrom.text

/-- A value that is there is read, whether or not it may be left out. -/
theorem Reads.present {name : String} {others : List String} {item : Decoder α}
    {default : Option α} {v : Value} {a : α} (found : under (name :: others) fields = [v])
    (settles : Settles (item (v.seen read? room)) p a) :
    Reads read? room (Record.field name others item default) fields p a :=
  .field (some v) found (by rintro v ⟨rfl⟩; exact settles) (by simp)

/-- What may be left out is read, or has its default. -/
theorem Reads.optional {name : String} {item : Decoder α} {default : α} (v? : Option Value)
    {a : α} (found : under [name] fields = v?.toList)
    (present : ∀ v, v? = some v →
      Settles (item (v.seen read? room)) (v.Fits read? room ∧ q) a)
    (absent : v? = none → q ∧ default = a) :
    Reads read? room (optional name item default) fields
      ((∀ v, v? = some v → v.Fits read? room) ∧ q) a := by
  refine .field v? found ?_ ?_
  · rintro v rfl
    exact (present v rfl).congr (by simp)
  · rintro rfl
    exact ⟨⟨by simp, (absent rfl).1⟩, congrArg some (absent rfl).2⟩

/-- An array that is only written if it has items. -/
def array? (items : List Value) : Option Value :=
  if items.isEmpty then none else some (.arr items)

/-- A list that is left out if it is empty is read if every item is. -/
theorem Reads.list {name : String} {item : Decoder α} {write : β → Value} {q : β → Prop}
    {f : β → α} (bs : List β) (found : under [name] fields = (array? (bs.map write)).toList)
    (reads : ∀ inner, room = inner + 1 → ∀ b ∈ bs,
      Settles (item ((write b).seen read? inner)) ((write b).Fits read? inner ∧ q b) (f b)) :
    Reads read? room (Record.optional name (Decoder.list item) []) fields
      ((∀ v, array? (bs.map write) = some v → v.Fits read? room) ∧ ∀ b ∈ bs, q b)
      (bs.map f) := by
  refine .optional _ found (fun v given => ?_) fun left_out => ?_
  · have written : v = .arr (bs.map write) := by
      rw [array?] at given
      split at given <;> simp_all
    rw [written]
    exact settles_list bs reads
  · have empty : bs = [] := by
      rw [array?] at left_out
      simpa using left_out
    subst empty
    simp

/-- What is seen of entries is not stray. -/
theorem stray_seenFields (names : List String) (i : Nat) (fields : List (String × Value)) :
    stray names i (Value.seenFields read? room fields) none = .ok () := by
  induction fields generalizing i with
  | nil => rfl
  | cons e rest ih =>
    obtain ⟨k, v⟩ := e
    simp [Value.seenFields, Scanned.key, stray, Scanned.skipFault_seen room v, ih]

/-- **A record is read** from the object of its entries, with the room that the object leaves:
its condition is that every entry fits, and whatever else its fields ask for. -/
theorem settles_read {title : String} {r : Record α} {a : α} {p : Nat → Prop}
    (reads : ∀ inner, room = inner + 1 → Reads read? inner r fields (p inner) a)
    (same : ∀ inner, p inner ↔ AllFit read? inner fields ∧ q) :
    Settles (r.read title ((Value.obj fields).seen read? room))
      ((Value.obj fields).Fits read? room ∧ q) a := by
  cases room with
  | zero => exact (Settles.error _ _).congr (by simp)
  | succ room =>
    rw [Value.seen]
    simp only [read, readGiven, stray_seenFields]
    have both := Reading.settles_both
      (reads room rfl (title ++ " with " ++ sizeWords r.names.length) 0) (Settles.ok ())
    refine (settles_settle (both.map (·.1))).congr ?_
    rw [and_true, same, fits_obj_iff_allFit]

/-- A record that is read from its entries however much room there is. -/
theorem readsFrom_read {title : String} {r : Record α} {a : α} {p : Nat → Prop}
    (reads : ∀ inner, Reads read? inner r fields (p inner) a)
    (same : ∀ inner, p inner ↔ AllFit read? inner fields ∧ q) :
    ReadsFrom read? (r.read title) (.obj fields) q a :=
  fun _ => settles_read (fun inner _ => reads inner) same

end Record

end Workflow.Json
