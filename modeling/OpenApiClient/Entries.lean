set_option autoImplicit false

namespace OpenApiClient

abbrev Entries (κ α : Type) := List (κ × α)

namespace Entries

variable {κ α : Type} [DecidableEq κ]

def get? (entries : Entries κ α) (key : κ) : Option α :=
  match entries with
  | [] => none
  | (k, v) :: rest => if k = key then some v else get? rest key

def contains (entries : Entries κ α) (key : κ) : Bool :=
  (entries.get? key).isSome

omit [DecidableEq κ] in
def keys (entries : Entries κ α) : List κ :=
  entries.map Prod.fst

omit [DecidableEq κ] in
def values (entries : Entries κ α) : List α :=
  entries.map Prod.snd

def put (entries : Entries κ α) (key : κ) (value : α) : Entries κ α :=
  match entries with
  | [] => [(key, value)]
  | (k, v) :: rest => if k = key then (key, value) :: rest else (k, v) :: put rest key value

def ofPairs (pairs : List (κ × α)) : Entries κ α :=
  pairs.foldl (fun entries pair => entries.put pair.1 pair.2) []

theorem get?_put_self (entries : Entries κ α) (key : κ) (value : α) :
    (entries.put key value).get? key = some value := by
  induction entries with
  | nil => simp [put, get?]
  | cons entry rest ih =>
    by_cases h : entry.1 = key <;> simp [put, get?, h, ih]

theorem get?_put_of_ne (entries : Entries κ α) {key other : κ} (value : α) (h : other ≠ key) :
    (entries.put key value).get? other = entries.get? other := by
  induction entries with
  | nil => simp [put, get?, h.symm]
  | cons entry rest ih =>
    by_cases hk : entry.1 = key
    · simp [put, get?, hk, h.symm]
    · simp [put, get?, hk, ih]

theorem keys_put_of_mem (entries : Entries κ α) (key : κ) (value : α)
    (h : key ∈ entries.keys) : (entries.put key value).keys = entries.keys := by
  induction entries with
  | nil => simp [keys] at h
  | cons entry rest ih =>
    by_cases hk : entry.1 = key
    · simp [put, keys, hk]
    · have : key ∈ keys rest := by
        rcases List.mem_cons.mp h with h | h
        · exact absurd h.symm hk
        · exact h
      simpa [put, keys, hk] using ih this

theorem put_of_not_mem (entries : Entries κ α) (key : κ) (value : α)
    (h : key ∉ entries.keys) : entries.put key value = entries ++ [(key, value)] := by
  induction entries with
  | nil => rfl
  | cons entry rest ih =>
    simp only [keys, List.map_cons, List.mem_cons, not_or] at h
    simpa [put, Ne.symm h.1] using ih h.2

theorem keys_put_of_not_mem (entries : Entries κ α) (key : κ) (value : α)
    (h : key ∉ entries.keys) : (entries.put key value).keys = entries.keys ++ [key] := by
  rw [put_of_not_mem entries key value h]
  simp [keys]

theorem get?_eq_none_iff (entries : Entries κ α) (key : κ) :
    entries.get? key = none ↔ key ∉ entries.keys := by
  induction entries with
  | nil => simp [get?, keys]
  | cons entry rest ih =>
    by_cases h : entry.1 = key
    · simp [get?, keys, h]
    · simpa [get?, keys, h, Ne.symm h] using ih

theorem nodup_keys_put {entries : Entries κ α} (distinct : entries.keys.Nodup) (key : κ)
    (value : α) : (entries.put key value).keys.Nodup := by
  by_cases present : key ∈ entries.keys
  · rw [keys_put_of_mem entries key value present]
    exact distinct
  · rw [keys_put_of_not_mem entries key value present]
    refine List.nodup_append.mpr ⟨distinct, by simp, ?_⟩
    intro other member same single equal
    simp_all

theorem mem_put {entries : Entries κ α} {key : κ} {value : α} {entry : κ × α}
    (member : entry ∈ entries.put key value) : entry = (key, value) ∨ entry ∈ entries := by
  induction entries with
  | nil => exact .inl (List.mem_singleton.mp member)
  | cons first rest ih =>
    by_cases same : first.1 = key
    · simp only [put, same, if_true, List.mem_cons] at member
      rcases member with new | old
      · exact .inl new
      · exact .inr (List.mem_cons_of_mem _ old)
    · simp only [put, same, if_false, List.mem_cons] at member
      rcases member with here | behind
      · exact .inr (here ▸ List.mem_cons_self)
      · exact (ih behind).imp_right (List.mem_cons_of_mem _)

theorem get?_of_mem {entries : Entries κ α} {entry : κ × α}
    (distinct : entries.keys.Nodup) (member : entry ∈ entries) :
    entries.get? entry.1 = some entry.2 := by
  induction entries with
  | nil => cases member
  | cons first rest ih =>
    obtain ⟨new, later⟩ := List.nodup_cons.mp distinct
    rcases List.mem_cons.mp member with rfl | behind
    · simp [get?]
    · have other : first.1 ≠ entry.1 := fun same => new (same ▸ List.mem_map_of_mem behind)
      simpa [get?, other] using ih later behind

theorem mem_of_get? {entries : Entries κ α} {key : κ} {value : α}
    (found : entries.get? key = some value) : (key, value) ∈ entries := by
  induction entries with
  | nil => cases found
  | cons entry rest ih =>
    rw [get?] at found
    split at found
    next same =>
      obtain rfl := Option.some.inj found
      exact same ▸ List.mem_cons_self
    next => exact List.mem_cons_of_mem _ (ih found)

theorem get?_map {β : Type} (entries : Entries κ α) (f : α → β) (key : κ) :
    get? (entries.map fun entry => (entry.1, f entry.2)) key = (entries.get? key).map f := by
  induction entries with
  | nil => rfl
  | cons entry rest ih =>
    by_cases h : entry.1 = key <;> simp [get?, h, ih]

theorem get?_filter (entries : Entries κ α) (kept : κ → Bool) (key : κ) :
    get? (entries.filter fun entry => kept entry.1) key =
      if kept key then entries.get? key else none := by
  induction entries with
  | nil => simp [get?]
  | cons entry rest ih =>
    by_cases h : entry.1 = key
    · subst h
      by_cases here : kept entry.1 <;> simp [get?, here, ih]
    · by_cases here : kept entry.1 <;> simp [get?, here, h, ih]

end Entries
end OpenApiClient
