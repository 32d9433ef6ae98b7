import OpenApiClient.Text.Blank

set_option autoImplicit false

namespace OpenApiClient.Text

inductive Part where
  | one (accepts : Char → Bool)
  | many (accepts : Char → Bool)

def Part.readings : Part → List Char → List (List Char × List Char)
  | _, [] => []
  | .one accepts, c :: rest => if accepts c then [([c], rest)] else []
  | .many accepts, c :: rest =>
      if accepts c then
        ((Part.many accepts).readings rest).map (fun reading => (c :: reading.1, reading.2)) ++
          [([c], rest)]
      else []

def readings : List Part → List Char → List (List Char × List Char)
  | [], cs => [([], cs)]
  | part :: parts, cs =>
      (part.readings cs).flatMap fun reading =>
        (readings parts reading.2).map fun further => (reading.1 ++ further.1, further.2)

structure Pattern where
  before : List Part
  behind : List Part

structure Match where
  before : List Char
  behind : List Char
  rest : List Char

namespace Pattern

def match? (pattern : Pattern) (cs : List Char) : Option Match :=
  ((readings pattern.before cs).flatMap fun first =>
    (readings pattern.behind first.2).map fun second => ⟨first.1, second.1, second.2⟩).head?

/-- A text and what a pattern makes of it: an underscore between the halves of each match. -/
inductive Separates (pattern : Pattern) : List Char → List Char → Prop
  | done : Separates pattern [] []
  | found {cs out : List Char} {found : Match} : pattern.match? cs = some found →
      Separates pattern found.rest out →
        Separates pattern cs (found.before ++ '_' :: found.behind ++ out)
  | skipped {c : Char} {rest out : List Char} : pattern.match? (c :: rest) = none →
      Separates pattern rest out → Separates pattern (c :: rest) (c :: out)

end Pattern

theorem readings_one (accepts : Char → Bool) (parts : List Part) (c : Char) (rest : List Char) :
    readings (.one accepts :: parts) (c :: rest) =
      if accepts c then
        (readings parts rest).map fun further => (c :: further.1, further.2)
      else [] := by
  by_cases accepted : accepts c = true <;> simp [readings, Part.readings, accepted]

theorem readings_many (accepts : Char → Bool) (cs : List Char) :
    readings [.many accepts] cs = (Part.many accepts).readings cs := by
  simp [readings]

@[simp] theorem readings_nil (cs : List Char) : readings [] cs = [([], cs)] := rfl

@[simp] theorem readings_cons_nil (part : Part) (parts : List Part) :
    readings (part :: parts) [] = [] := by
  cases part <;> rfl

theorem head?_readings_many (accepts : Char → Bool) (cs : List Char) :
    ((Part.many accepts).readings cs).head? =
      if cs.head?.any accepts then some (cs.takeWhile accepts, cs.dropWhile accepts) else none := by
  induction cs with
  | nil => rfl
  | cons c rest ih =>
    by_cases accepted : accepts c = true
    · simp only [Part.readings, accepted, if_true, List.head?_append, List.head?_map, ih]
      cases rest with
      | nil => simp [accepted]
      | cons d more => by_cases next : accepts d = true <;> simp [accepted, next]
    · simp [Part.readings, accepted]

theorem Part.length_of_mem_readings {part : Part} {cs : List Char}
    {reading : List Char × List Char} (member : reading ∈ part.readings cs) :
    reading.2.length < cs.length := by
  induction cs generalizing reading with
  | nil => cases part <;> cases member
  | cons c rest ih =>
    cases part with
    | one accepts =>
      simp only [Part.readings] at member
      split at member <;> simp_all
    | many accepts =>
      simp only [Part.readings] at member
      split at member
      next =>
        rcases List.mem_append.mp member with longer | short
        · obtain ⟨inner, inside, rfl⟩ := List.mem_map.mp longer
          have shorter := ih inside
          simp only [List.length_cons]
          omega
        · simp_all
      next => cases member

theorem length_of_mem_readings {parts : List Part} {cs : List Char}
    {reading : List Char × List Char} (member : reading ∈ readings parts cs) :
    reading.2.length + parts.length ≤ cs.length := by
  induction parts generalizing cs reading with
  | nil => simp_all
  | cons part parts ih =>
    obtain ⟨first, here, later⟩ := List.mem_flatMap.mp member
    obtain ⟨further, inside, rfl⟩ := List.mem_map.mp later
    have shorter := Part.length_of_mem_readings here
    have rest := ih inside
    simp only [List.length_cons]
    omega

namespace Pattern

variable {pattern : Pattern}

theorem length_of_match? (filled : 0 < pattern.before.length) {cs : List Char} {found : Match}
    (here : pattern.match? cs = some found) : found.rest.length < cs.length := by
  obtain ⟨first, before, later⟩ := List.mem_flatMap.mp (List.mem_of_mem_head? here)
  obtain ⟨second, behind, rfl⟩ := List.mem_map.mp later
  have left := length_of_mem_readings before
  have rest := length_of_mem_readings behind
  simp only
  omega

theorem match?_many_cons {accepts : Char → Bool} {c : Char} (accepted : accepts c = true)
    (behind : List Part) (rest : List Char) :
    (Pattern.mk [.many accepts] behind).match? (c :: rest) =
      (((Pattern.mk [.many accepts] behind).match? rest).map fun found =>
          { found with before := c :: found.before }).or
        ((readings behind rest).head?.map fun second => ⟨[c], second.1, second.2⟩) := by
  -- The readings with a longer run stand before the one that ends at this character.
  simp only [match?, readings_many, Part.readings, accepted, if_true, List.flatMap_append,
    List.head?_append, List.flatMap_map, List.flatMap_singleton, ← List.head?_map,
    List.map_flatMap, List.map_map]
  rfl

theorem Separates.unique (filled : 0 < pattern.before.length) {cs first second : List Char}
    (left : pattern.Separates cs first) (right : pattern.Separates cs second) :
    first = second := by
  have ended {found : Match} (here : pattern.match? [] = some found) : False :=
    Nat.not_lt_zero _ (length_of_match? filled here)
  induction left generalizing second with
  | done =>
    cases right with
    | done => rfl
    | found here => exact (ended here).elim
  | found here _ ih =>
    cases right with
    | done => exact (ended here).elim
    | found there later =>
      obtain rfl := Option.some.inj (here.symm.trans there)
      rw [ih later]
    | skipped none => simp [none] at here
  | skipped none _ ih =>
    cases right with
    | found there => simp [none] at there
    | skipped _ later => rw [ih later]

theorem Separates.iff (filled : 0 < pattern.before.length) {cs split : List Char}
    (separates : pattern.Separates cs split) (out : List Char) :
    pattern.Separates cs out ↔ out = split :=
  ⟨fun other => other.unique filled separates, fun same => same ▸ separates⟩

end Pattern
end OpenApiClient.Text
