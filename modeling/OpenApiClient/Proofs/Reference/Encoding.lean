import OpenApiClient.Proofs.Text.Replaced
import OpenApiClient.Reference.Resolve

set_option autoImplicit false

namespace OpenApiClient

open Text

namespace Pointer

def escape (cs : List Char) : List Char :=
  replaceChar '/' ['~', '1'] (replaceChar '~' ['~', '0'] cs)

def Target.write (target : Target) : String :=
  "#/components/" ++ target.category ++ "/" ++ String.ofList (escape target.name.toList)

theorem escape_cons (c : Char) (rest : List Char) :
    escape (c :: rest) =
      (if c = '~' then ['~', '0'] else if c = '/' then ['~', '1'] else [c]) ++ escape rest := by
  have split (first more : List Char) :
      replaceChar '/' ['~', '1'] (first ++ more) =
        replaceChar '/' ['~', '1'] first ++ replaceChar '/' ['~', '1'] more :=
    List.flatMap_append
  rw [escape, replaceChar_cons, split, escape]
  by_cases tilde : c = '~' <;> simp [tilde, replaceChar]

theorem slash_not_mem_escape (cs : List Char) : '/' ∉ escape cs :=
  not_mem_replaceChar (by decide) _

theorem escape_ne_nil {cs : List Char} (filled : cs ≠ []) : escape cs ≠ [] := by
  obtain ⟨c, rest, rfl⟩ := List.exists_cons_of_ne_nil filled
  rw [escape_cons]
  refine List.append_ne_nil_of_left_ne_nil ?_ _
  split
  next => exact List.cons_ne_nil _ _
  next => split <;> exact List.cons_ne_nil _ _

theorem replaceSlashes_escape (cs : List Char) :
    replacePair '~' '1' ['/'] (escape cs) = replaceChar '~' ['~', '0'] cs := by
  induction cs with
  | nil => rfl
  | cons c rest ih =>
    rw [escape_cons, replaceChar_cons, ← ih]
    by_cases tilde : c = '~'
    · have zero : '0' = '~' → (escape rest).head? ≠ some '1' := fun same => absurd same (by decide)
      rw [if_pos tilde, if_pos tilde, List.cons_append, List.singleton_append,
        replacePair_cons (by simp), replacePair_cons_of_apart zero]
      rfl
    · by_cases slash : c = '/'
      · rw [if_neg tilde, if_neg tilde, if_pos slash, slash]
        exact replacePair_pair '~' '1' ['/'] (escape rest)
      · rw [if_neg tilde, if_neg tilde, if_neg slash]
        exact replacePair_cons_of_apart fun same => absurd same tilde

theorem replaceTildes_written (cs : List Char) :
    replacePair '~' '0' ['~'] (replaceChar '~' ['~', '0'] cs) = cs := by
  induction cs with
  | nil => rfl
  | cons c rest ih =>
    rw [replaceChar_cons]
    by_cases tilde : c = '~'
    · rw [if_pos tilde, tilde]
      exact (replacePair_pair '~' '0' ['~'] _).trans (congrArg ('~' :: ·) ih)
    · rw [if_neg tilde, List.singleton_append,
        replacePair_cons_of_apart fun same => absurd same tilde, ih]

theorem unescape_escape (cs : List Char) : unescape (escape cs) = cs := by
  rw [unescape, replaceSlashes_escape, replaceTildes_written]

theorem toList_write (target : Target) :
    target.write.toList = "#/components/".toList ++
      (target.category.toList ++ '/' :: escape target.name.toList) := by
  have chars (category : String) (name : List Char) :
      ("#/components/" ++ category ++ "/" ++ String.ofList name).toList =
        "#/components/".toList ++ (category.toList ++ '/' :: name) := by
    rw [String.toList_append, String.toList_append, String.toList_append,
      @String.toList_ofList name, List.append_assoc, List.append_assoc]
    rfl
  exact chars _ _

theorem separated_opening (rest : List Char) :
    separated '/' ("#/components/".toList ++ rest) =
      "#".toList :: "components".toList :: separated '/' rest := rfl

theorem separated_write {target : Target} (plain : '/' ∉ target.category.toList) :
    (separated '/' target.write.toList).drop 2 =
      [target.category.toList, escape target.name.toList] := by
  rw [toList_write, separated_opening, separated_append _ plain,
    separated_of_not_mem (slash_not_mem_escape _)]
  rfl

theorem parse_of_written {target : Target} (category : target.category ≠ "")
    (plain : '/' ∉ target.category.toList) (name : target.name ≠ "") :
    parse target.write = .ok target := by
  have named := escape_ne_nil (mt String.toList_eq_nil_iff.mp name)
  have filled := mt String.toList_eq_nil_iff.mp category
  simp only [parse, separated_write plain, List.isEmpty_iff, filled, named, if_false,
    unescape_escape, String.ofList_toList]

theorem write_injective {category first second : String}
    (same : Target.write ⟨category, first⟩ = Target.write ⟨category, second⟩) :
    first = second := by
  have names := String.ofList_inj.mp ((String.append_right_inj _).mp same)
  rw [← String.toList_inj, ← unescape_escape first.toList, names, unescape_escape]

end Pointer

namespace Reference

theorem resolve_of_found {components : Components} {pointer : String} {target : Pointer.Target}
    {kind : Kind} {handle : Handle Entity} (read : Pointer.parse pointer = .ok target)
    (known : Kind.ofCategory? target.category = some kind)
    (found : components.find? kind target.name = some handle) (plain : handle.pointer? = none) :
    ∃ entity, handle = .inline entity ∧
      resolve components pointer = pure (some ⟨kind, entity, false⟩) := by
  cases handle with
  | reference next => cases plain
  | inline entity =>
    refine ⟨entity, rfl, ?_⟩
    rw [resolve, follow]
    simp only [read, known]
    split
    next absent => rw [found] at absent; cases absent
    next other here =>
      obtain rfl := Option.some.inj (found.symm.trans here)
      split
      next next held => rw [plain] at held; cases held
      next => rfl

end Reference

namespace Pointer

/-- A pointer written from a category and a name, whatever the name holds, is read as these two. No
other name of the category has this pointer, and a component of this name that is no pointer itself
is what the pointer leads to. -/
theorem parse_write (category name : String) (filled : category ≠ "")
    (plain : '/' ∉ category.toList) (named : name ≠ "") :
    parse (Target.write ⟨category, name⟩) = .ok ⟨category, name⟩ ∧
      (∀ other, Target.write ⟨category, other⟩ = Target.write ⟨category, name⟩ → other = name) ∧
      ∀ (components : Components) (kind : Kind) (handle : Handle Entity),
        Kind.ofCategory? category = some kind → components.find? kind name = some handle →
          handle.pointer? = none →
            ∃ entity, handle = .inline entity ∧
              Reference.resolve components (Target.write ⟨category, name⟩) =
                pure (some ⟨kind, entity, false⟩) := by
  have read : parse (Target.write ⟨category, name⟩) = .ok ⟨category, name⟩ :=
    parse_of_written filled plain named
  refine ⟨read, fun other same => write_injective same, ?_⟩
  intro components kind handle known found own
  exact Reference.resolve_of_found read known found own

def spelledRegistry : Components :=
  let schema (format : String) : Schema :=
    ⟨some format, some (.one .string), none, none, none, [], none, none, none⟩
  { Components.empty with
    schemas := [("a//", schema "date"), ("a/~1", schema "byte"), ("a~1~01", schema "password")] }

theorem parse_write_spelled :
    Target.write ⟨"schemas", "a/~1"⟩ = "#/components/schemas/a~1~01" ∧
      parse "#/components/schemas/a~1~01" = .ok ⟨"schemas", "a/~1"⟩ ∧
      ∃ entity, spelledRegistry.find? .schema "a/~1" = some (.inline entity) ∧
        Reference.resolve spelledRegistry "#/components/schemas/a~1~01" =
          pure (some ⟨.schema, entity, false⟩) := by
  have written : Target.write ⟨"schemas", "a/~1"⟩ = "#/components/schemas/a~1~01" := by
    decide +kernel
  obtain ⟨read, -, leads⟩ := parse_write "schemas" "a/~1" (by decide) (by decide) (by decide)
  obtain ⟨entity, same, resolved⟩ := leads spelledRegistry .schema _ rfl rfl rfl
  rw [written] at read resolved
  exact ⟨written, read, entity, congrArg some same, resolved⟩

end Pointer
end OpenApiClient
