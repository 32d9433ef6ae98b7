import OpenApiClient.Document.Dump
import OpenApiClient.Document.Read

set_option autoImplicit false

namespace OpenApiClient

namespace Entries

variable {κ α : Type} [DecidableEq κ]

@[simp] theorem get?_nil (key : κ) : get? ([] : Entries κ α) key = none := rfl

@[simp] theorem get?_cons (entry : κ × α) (rest : Entries κ α) (key : κ) :
    get? (entry :: rest) key = if entry.1 = key then some entry.2 else get? rest key := rfl

@[simp] theorem get?_append (first rest : Entries κ α) (key : κ) :
    get? (first ++ rest) key = (get? first key).or (get? rest key) := by
  induction first with
  | nil => simp
  | cons entry first ih =>
    by_cases here : entry.1 = key <;> simp [here, ih]

@[simp] theorem get?_ite {condition : Prop} [Decidable condition] (entries : Entries κ α)
    (key : κ) :
    get? (if condition then [] else entries) key =
      if condition then none else get? entries key := by
  split <;> rfl

theorem get?_flatMap_eq_none {β : Type} {items : List β} {f : β → Entries κ α} {key : κ}
    (absent : ∀ item ∈ items, get? (f item) key = none) : get? (items.flatMap f) key = none := by
  induction items with
  | nil => rfl
  | cons item rest ih =>
    obtain ⟨here, behind⟩ := List.forall_mem_cons.mp absent
    rw [List.flatMap_cons, get?_append, here, ih behind, Option.none_or]

theorem nodup_keys_ofPairs (pairs : List (κ × α)) : (keys (ofPairs pairs)).Nodup := by
  rw [ofPairs, ← List.foldr_reverse]
  induction pairs.reverse with
  | nil => exact List.nodup_nil
  | cons pair rest ih => exact nodup_keys_put ih pair.1 pair.2

theorem foldl_put {pairs earlier : Entries κ α} (distinct : (keys (earlier ++ pairs)).Nodup) :
    pairs.foldl (fun entries pair => entries.put pair.1 pair.2) earlier = earlier ++ pairs := by
  induction pairs generalizing earlier with
  | nil => exact (List.append_nil _).symm
  | cons pair rest ih =>
    have fresh : pair.1 ∉ keys earlier := by
      rw [keys, List.map_append, List.nodup_append] at distinct
      exact fun member => distinct.2.2 _ member _ List.mem_cons_self rfl
    rw [List.foldl_cons, put_of_not_mem _ _ _ fresh, ih (by simpa using distinct)]
    simp

theorem ofPairs_of_nodup {pairs : List (κ × α)} (distinct : (keys pairs).Nodup) :
    ofPairs pairs = pairs :=
  (foldl_put distinct : _ = [] ++ pairs)

end Entries

section Lookup

variable {α : Type} (name key : String)

@[simp] theorem get?_setField (value : Option α) (write : α → Value) :
    Entries.get? (setField name value write) key =
      if name = key then value.map write else none := by
  cases value <;> simp [setField]

@[simp] theorem get?_filledField (items : List α) (write : List α → Value) :
    Entries.get? (filledField name items write) key =
      if name = key then (if items = [] then none else some (write items)) else none := by
  by_cases empty : items = [] <;> simp [filledField, empty]

@[simp] theorem get?_trueField (flag : Bool) :
    Entries.get? (trueField name flag) key =
      if name = key then (if flag then some (.bool true) else none) else none := by
  cases flag <;> simp [trueField]

end Lookup

theorem Value.field?_written (fields : List (String × Value)) (name : String) :
    Value.field? (fields.map fun field => (.text field.1, field.2)) name =
      Entries.get? fields name := by
  induction fields with
  | nil => rfl
  | cons field rest ih => simp [Value.field?, ih]

@[simp] theorem Value.get?_record (fields : List (String × Value)) (name : String) :
    (Value.record fields).get? name = Entries.get? fields name :=
  Value.field?_written fields name

namespace Checked

variable {α β : Type}

theorem map_eq_valid {f : α → β} {checked : Checked α} {result : β} :
    f <$> checked = .valid result ↔ ∃ a, checked = .valid a ∧ f a = result := by
  cases checked <;> simp [map]

theorem seq_eq_valid {f : Checked (α → β)} {checked : Checked α} {result : β} :
    f <*> checked = .valid result ↔
      ∃ g, f = .valid g ∧ ∃ a, checked = .valid a ∧ g a = result := by
  cases f <;> cases checked <;> simp [ap]

theorem map_valid {f : α → β} {checked : Checked α} {a : α} (valid : checked = .valid a) :
    f <$> checked = .valid (f a) :=
  map_eq_valid.mpr ⟨a, valid, rfl⟩

theorem seq_valid {f : Checked (α → β)} {g : α → β} {checked : Checked α} {a : α}
    (function : f = .valid g) (valid : checked = .valid a) : f <*> checked = .valid (g a) :=
  seq_eq_valid.mpr ⟨g, function, a, valid, rfl⟩

theorem within_eq_valid {step : Step} {checked : Checked α} {a : α} :
    within step checked = .valid a ↔ checked = .valid a := by
  cases checked <;> simp [within]

theorem firstOf_valid {tag : String} {attempt : Checked α} {rest : List (String × Checked α)}
    {a : α} (valid : attempt = .valid a) : firstOf ((tag, attempt) :: rest) = .valid a := by
  rw [valid]
  rfl

theorem firstOf_faulty {tag : String} {attempt : Checked α} {rest : List (String × Checked α)}
    {faults : List Fault} {a : α} (faulty : attempt = .faulty faults)
    (valid : firstOf rest = .valid a) : firstOf ((tag, attempt) :: rest) = .valid a := by
  rw [faulty, firstOf.eq_def]
  simp only [valid]

def Recorded (found : Option Value) (absent : α) (read : Value → Checked α) (a : α) : Prop :=
  match found with
  | none => absent = a
  | some value => read value = .valid a

theorem fieldOr_written {fields : List (String × Value)} {written plain : String} {absent a : α}
    {read : Value → Checked α}
    (recorded :
      Recorded ((Entries.get? fields written).or (Entries.get? fields plain)) absent read a) :
    fieldOr absent (fields.map fun field => (.text field.1, field.2)) written plain read =
      .valid a := by
  rw [fieldOr, located?, Value.field?_written, Value.field?_written]
  cases found : Entries.get? fields written with
  | some value => exact within_eq_valid.mpr (by simpa [Recorded, found] using recorded)
  | none =>
    cases other : Entries.get? fields plain with
    | some value => exact within_eq_valid.mpr (by simpa [Recorded, found, other] using recorded)
    | none => exact congrArg valid (by simpa [Recorded, found, other] using recorded)

theorem field_written {fields : List (String × Value)} {written plain : String} {a : α}
    {read : Value → Checked α}
    (valid : (Entries.get? fields written).map read = some (.valid a)) :
    field (fields.map fun field => (.text field.1, field.2)) written plain read = .valid a := by
  obtain ⟨value, found, valueRead⟩ := Option.map_eq_some_iff.mp valid
  rw [field, located?, Value.field?_written, found]
  exact within_eq_valid.mpr valueRead

section Recorded

variable {read : Value → Checked α}

/-- No entity is written as the value that stands for an absent one. -/
def Plain (write : α → Value) : Prop := ∀ a, (write a).isNull = false

theorem text_plain : Plain Value.text := fun _ => rfl

theorem array_plain : Plain Value.array := fun _ => rfl

theorem dumpEntries_plain (write : α → Value) : Plain (dumpEntries write) := fun _ => rfl

theorem optional_written {write : α → Value} {a : α} (plain : Plain write)
    (undone : read (write a) = .valid a) : optional read (write a) = .valid (some a) := by
  rw [optional, plain a, undone]
  rfl

theorem Recorded.set {write : α → Value} (plain : Plain write) {value : Option α}
    (undone : ∀ a ∈ value, read (write a) = .valid a) :
    Recorded (value.map write) none (optional read) value := by
  cases value with
  | none => rfl
  | some a => exact optional_written plain (undone a rfl)

theorem Recorded.text (value : Option String) :
    Recorded (value.map .text) none (optional Checked.text) value :=
  .set text_plain fun _ _ => rfl

theorem Recorded.unless {absent a : α} {value : Value} {condition : Prop} [Decidable condition]
    (same : condition → absent = a) (undone : read value = .valid a) :
    Recorded (if condition then none else some value) absent read a := by
  by_cases holds : condition
  · simpa [Recorded, holds] using same holds
  · simpa [Recorded, holds] using undone

theorem Recorded.standard [DecidableEq α] {absent a : α} {value : Value}
    (undone : read value = .valid a) :
    Recorded (if a = absent then none else some value) absent read a :=
  .unless Eq.symm undone

theorem Recorded.standardText (absent a : String) :
    Recorded (if a = absent then none else some (.text a)) absent Checked.text a :=
  .standard rfl

theorem Recorded.filled {readAll : Value → Checked (List α)} {value : Value} {items : List α}
    (undone : readAll value = .valid items) :
    Recorded (if items = [] then none else some value) [] readAll items :=
  .unless Eq.symm undone

theorem Recorded.flag (set : Bool) :
    Recorded (if set then some (.bool true) else none) false Checked.flag set := by
  cases set <;> rfl

end Recorded

theorem listFrom_written {read : Value → Checked α} {write : α → Value} {items : List α}
    (undone : ∀ a ∈ items, read (write a) = .valid a) (position : Nat) :
    listFrom read position (items.map write) = .valid items := by
  induction items generalizing position with
  | nil => rfl
  | cons item rest ih =>
    obtain ⟨here, behind⟩ := List.forall_mem_cons.mp undone
    exact seq_valid (map_valid (within_eq_valid.mpr here)) (ih behind (position + 1))

theorem list_written {read : Value → Checked α} {write : α → Value} {items : List α}
    (undone : ∀ a ∈ items, read (write a) = .valid a) :
    list read (.array (items.map write)) = .valid items :=
  listFrom_written undone 0

theorem list_texts (texts : List String) : list text (.texts texts) = .valid texts :=
  list_written fun _ _ => rfl

theorem list_any (values : List Value) : list any (.array values) = .valid values := by
  -- Values are written as they are.
  have whole : list any (.array (values.map id)) = .valid values := list_written fun _ _ => rfl
  rwa [List.map_id] at whole

theorem entries_written {read : Value → Checked α} {write : α → Value}
    {items : List (String × α)} (undone : ∀ item ∈ items, read (write item.2) = .valid item.2) :
    entries read (items.map fun item => (.text item.1, write item.2)) = .valid items := by
  induction items with
  | nil => rfl
  | cons item rest ih =>
    obtain ⟨here, behind⟩ := List.forall_mem_cons.mp undone
    exact seq_valid (seq_valid (map_valid rfl) (within_eq_valid.mpr here)) (ih behind)

theorem mapping_written {read : Value → Checked α} {write : α → Value}
    {items : List (String × α)} (undone : ∀ item ∈ items, read (write item.2) = .valid item.2) :
    mapping read (dumpEntries write items) = .valid items := by
  rw [dumpEntries, Value.record, List.map_map]
  exact entries_written undone

def Always (P : α → Prop) (checked : Checked α) : Prop := ∀ a, checked = .valid a → P a

section Always

variable {P : α → Prop} {read : Value → Checked α}

theorem Always.map {γ : Type} {f : γ → α} {checked : Checked γ} (always : ∀ c, P (f c)) :
    Always P (f <$> checked) := by
  intro a valid
  obtain ⟨c, _, rfl⟩ := map_eq_valid.mp valid
  exact always c

theorem Always.seq {γ : Type} {Q : γ → Prop} {f : Checked (γ → α)} {checked : Checked γ}
    (function : Always (fun g => ∀ c, Q c → P (g c)) f) (argument : Always Q checked) :
    Always P (f <*> checked) := by
  intro a valid
  obtain ⟨g, made, c, found, rfl⟩ := seq_eq_valid.mp valid
  exact function g made c (argument c found)

theorem Always.seqAny {γ : Type} {f : Checked (γ → α)} {checked : Checked γ}
    (function : Always (fun g => ∀ c, P (g c)) f) : Always P (f <*> checked) :=
  .seq (Q := fun _ => True) (fun g made c _ => function g made c) fun _ _ => trivial

theorem Always.fieldOr {fields : List (Scalar × Value)} {written plain : String} {absent : α}
    (holds : P absent) (always : ∀ value, Always P (read value)) :
    Always P (fieldOr absent fields written plain read) := by
  intro a valid
  rw [Checked.fieldOr] at valid
  split at valid
  next name value _ => exact always value a (within_eq_valid.mp valid)
  next =>
    obtain rfl := Checked.valid.inj valid
    exact holds

theorem Always.optional (always : ∀ value, Always P (read value)) (value : Value) :
    Always (fun set => ∀ a ∈ set, P a) (optional read value) := by
  intro set valid a member
  rw [Checked.optional] at valid
  split at valid
  next =>
    obtain rfl := Checked.valid.inj valid
    cases member
  next =>
    obtain ⟨other, found, rfl⟩ := map_eq_valid.mp valid
    exact Option.some.inj member ▸ always value other found

theorem Always.object {read : List (Scalar × Value) → Checked α}
    (always : ∀ fields, Always P (read fields)) (value : Value) :
    Always P (object read value) := by
  cases value with
  | scalar | array => exact fun _ valid => nomatch valid
  | object fields => exact always fields

theorem entries_cons_eq_valid {field : Scalar × Value} {rest : List (Scalar × Value)}
    {items : List (String × α)} (valid : entries read (field :: rest) = .valid items) :
    ∃ name a more, textKey field.1 = .valid name ∧ read field.2 = .valid a ∧
      entries read rest = .valid more ∧ items = (name, a) :: more := by
  obtain ⟨_, entry, more, behind, rfl⟩ := seq_eq_valid.mp valid
  obtain ⟨_, key, a, valueRead, rfl⟩ := seq_eq_valid.mp entry
  obtain ⟨name, keyRead, rfl⟩ := map_eq_valid.mp key
  exact ⟨name, a, more, keyRead, within_eq_valid.mp valueRead, behind, rfl⟩

theorem Always.entries (always : ∀ value, Always P (read value))
    (fields : List (Scalar × Value)) :
    Always (fun items => ∀ item ∈ items, P item.2) (entries read fields) := by
  induction fields with
  | nil =>
    intro items valid
    obtain rfl := Checked.valid.inj valid
    exact fun _ absent => nomatch absent
  | cons field rest ih =>
    intro items valid
    obtain ⟨name, a, more, _, here, behind, rfl⟩ := entries_cons_eq_valid valid
    exact List.forall_mem_cons.mpr ⟨always field.2 a here, ih more behind⟩

theorem Always.mapping (always : ∀ value, Always P (read value)) (value : Value) :
    Always (fun items => ∀ item ∈ items, P item.2) (mapping read value) := by
  cases value with
  | scalar | array => exact fun _ valid => nomatch valid
  | object fields => exact Always.entries always fields

theorem always_keys (fields : List (String × Value)) :
    Always (fun items : List (String × α) => Entries.keys items = Entries.keys fields)
      (mapping read (.record fields)) := by
  induction fields with
  | nil =>
    intro items valid
    obtain rfl := Checked.valid.inj valid
    rfl
  | cons field rest ih =>
    intro items valid
    have first : Checked.entries read ((.text field.1, field.2) :: _) = .valid items := valid
    obtain ⟨name, a, more, named, _, behind, rfl⟩ := entries_cons_eq_valid first
    obtain rfl := Checked.valid.inj named
    exact congrArg (field.1 :: ·) (ih more behind)

end Always

end Checked
end OpenApiClient
