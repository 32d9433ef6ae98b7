import OpenApiClient.Client.Route.Statement
import OpenApiClient.Code.File
import OpenApiClient.Proofs.Text.Blanks
import OpenApiClient.Proofs.Text.Replaced

set_option autoImplicit false

namespace OpenApiClient

namespace Text

/-- A text has a last character, and it is not a line feed. -/
def Closed (text : String) : Prop := ∃ c, c ≠ '\n' ∧ text.toList.getLast? = some c

namespace Closed

variable {text : String}

theorem ne_empty (closed : Closed text) : text ≠ "" := by
  rintro rfl
  obtain ⟨c, _, last⟩ := closed
  cases last

theorem append (before : String) (closed : Closed text) : Closed (before ++ text) := by
  obtain ⟨c, other, last⟩ := closed
  refine ⟨c, other, ?_⟩
  rw [String.toList_append, List.getLast?_append, last, Option.some_or]

theorem intercalate (separator : String) {texts : List String} (filled : texts ≠ [])
    (closed : Closed (texts.getLast filled)) : Closed (String.intercalate separator texts) := by
  induction texts with
  | nil => exact absurd rfl filled
  | cons first rest ih =>
    cases rest with
    | nil => simpa using closed
    | cons second more =>
      rw [List.getLast_cons (List.cons_ne_nil _ _)] at closed
      rw [String.intercalate_cons_cons]
      exact (ih _ closed).append _

end Closed

theorem getLast?_flatMap_congr {α β : Type} {f g : α → List β} {xs : List α}
    (same : ∀ x, (f x).getLast? = (g x).getLast?) :
    (xs.flatMap f).getLast? = (xs.flatMap g).getLast? := by
  induction xs with
  | nil => rfl
  | cons x rest ih => simp only [List.flatMap_cons, List.getLast?_append, ih, same]

theorem getLast?_indentChars (pad cs : List Char) :
    (indentChars pad cs).getLast? = cs.getLast? := by
  refine (getLast?_flatMap_congr fun line => ?_).trans (congrArg List.getLast? (flatMap_lines cs))
  split
  next => rfl
  next visible =>
    have filled : line.body ≠ [] := by
      rintro blank
      simp [blank] at visible
    cases line.ending <;> simp [List.getLast?_append, List.getLast?_eq_some_getLast filled]

theorem Closed.indent {text : String} (closed : Closed text) (pad : String) :
    Closed (indent pad text) := by
  obtain ⟨c, other, last⟩ := closed
  refine ⟨c, other, ?_⟩
  rw [Text.indent, String.toList_ofList, getLast?_indentChars, last]

theorem trimTrailing_of_closed {text : String} (closed : Closed text) :
    trimTrailing '\n' text.toList = text.toList := by
  obtain ⟨c, other, last⟩ := closed
  obtain ⟨front, text_eq⟩ := List.getLast?_eq_some_iff.mp last
  rw [trimTrailing, text_eq, List.reverse_concat, List.dropWhile_cons_of_neg (by simpa using other),
    List.reverse_cons, List.reverse_reverse]

end Text

namespace Code

open Text

structure Settled (text : String) : Prop where
  closed : Closed text
  noTab : '\t' ∉ text.toList

theorem noTab_expandTabs (text : String) : '\t' ∉ (expandTabs text).toList := by
  rw [expandTabs, String.toList_ofList]
  exact not_mem_replaceChar (by decide) _

theorem expandTabs_of_noTab {text : String} (noTab : '\t' ∉ text.toList) :
    expandTabs text = text := by
  rw [expandTabs, replaceChar_of_not_mem noTab, String.ofList_toList]

theorem expandTabs_append (first second : String) :
    expandTabs (first ++ second) = expandTabs first ++ expandTabs second := by
  rw [expandTabs, String.toList_append, replaceChar, List.flatMap_append, String.ofList_append]
  rfl

theorem settled_expandTabs {text : String} (closed : Closed text) : Settled (expandTabs text) where
  noTab := noTab_expandTabs text
  closed := by
    obtain ⟨c, other, last⟩ := closed
    obtain ⟨front, text_eq⟩ := List.getLast?_eq_some_iff.mp last
    rw [expandTabs, text_eq, replaceChar, List.flatMap_append, List.flatMap_singleton]
    split
    next => exact ⟨' ', by decide, by rw [String.toList_ofList, List.getLast?_append]; rfl⟩
    next => exact ⟨c, other, by simp⟩

theorem noTab_intercalate {separator : String} (plain : '\t' ∉ separator.toList)
    {texts : List String} (noTab : ∀ text ∈ texts, '\t' ∉ text.toList) :
    '\t' ∉ (String.intercalate separator texts).toList := by
  intro member
  obtain between | ⟨text, inside, held⟩ := mem_intercalate member
  · exact plain between
  · exact noTab text inside held

theorem joinFilled_of_settled (separator : String) {texts : List String}
    (settled : ∀ text ∈ texts, Settled text) :
    joinFilled separator texts = String.intercalate separator texts := by
  rw [joinFilled, List.filter_eq_self.mpr]
  exact fun text inside => decide_eq_true (settled text inside).closed.ne_empty

theorem descending_of_pairwise {α : Type} {order : α → Int} {sections : List α}
    (falling : sections.Pairwise fun a b => order b ≤ order a) :
    descending order sections = sections :=
  List.mergeSort_of_pairwise (falling.imp fun le => decide_eq_true le)

theorem intercalate_cons (separator first : String) (rest : List String) :
    String.intercalate separator (first :: rest) =
      first ++ String.join (rest.map fun text => separator ++ text) := by
  induction rest generalizing first with
  | nil => simp
  | cons second more ih =>
    rw [String.intercalate_cons_cons, ih, List.map_cons, String.join_cons]
    simp only [String.append_assoc]

namespace Function

theorem sortedParameters_perm (parameters : List Parameter) :
    (sortedParameters parameters).Perm parameters := by
  have order := List.filter_append_perm
    (fun parameter : Parameter => parameter.default.isNone) parameters
  simpa [sortedParameters, Option.not_isNone] using order

theorem sortedParameters_defaultsLast (parameters : List Parameter) :
    (sortedParameters parameters).Pairwise fun earlier later =>
      earlier.default.isSome → later.default.isSome := by
  refine List.pairwise_append.mpr ⟨?_, ?_, ?_⟩
  · refine List.pairwise_filter.mpr (List.pairwise_of_forall fun earlier later bare _ filled => ?_)
    rw [Option.isNone_iff_eq_none.mp bare] at filled
    cases filled
  · exact List.pairwise_filter.mpr (List.pairwise_of_forall fun _ _ _ filled _ => filled)
  · intro earlier _ later member _
    exact (List.mem_filter.mp member).2

theorem head?_sortedParameters (first : Parameter) (rest : List Parameter)
    (bare : first.default = none) :
    (sortedParameters (first :: rest)).head? = some first := by
  simp [sortedParameters, bare]

end Function

theorem Function.settled_render {function : Function} (closed : Closed function.code.code) :
    Settled function.render := by
  have code : Closed function.code.render := (settled_expandTabs closed).closed
  have kept (texts : List String) : texts.filter (fun part => part ≠ "") ++ [function.code.render] =
      (texts ++ [function.code.render]).filter fun part => part ≠ "" := by
    simp [List.filter_append, code.ne_empty]
  have body : Closed function.body := by
    rw [Function.body, joinFilled, ← List.singleton_append, ← kept]
    exact Closed.intercalate _ (by simp) (by simpa using code)
  exact settled_expandTabs ((body.indent _).append _)

namespace File

theorem render_of_functions {file : File} (blocks : file.blocks = []) (classes : file.classes = [])
    (falling : file.functions.values.Pairwise fun first second => second.order ≤ first.order)
    (imports : Settled (String.intercalate "\n" file.imports))
    (functions : ∀ function ∈ file.functions.values, Settled function.render) :
    file.render = String.intercalate "\n" file.imports ++
      String.join (file.functions.values.map fun function => "\n\n\n" ++ function.render) ++
        "\n" := by
  have sorted : (file.functions.values.map fun function =>
      (function.order, function.render)).Pairwise fun a b => b.1 ≤ a.1 :=
    List.pairwise_map.mpr falling
  have noClass : Entries.values ([] : Entries String Class) = [] := rfl
  have sections : file.sections.map Prod.snd = file.functions.values.map Function.render := by
    simp only [File.sections, blocks, classes, noClass, List.map_nil, List.nil_append,
      List.append_nil, descending_of_pairwise sorted, List.map_map, Function.comp_def]
  have settled : ∀ text ∈ String.intercalate "\n" file.imports ::
      file.functions.values.map Function.render, Settled text :=
    List.forall_mem_cons.mpr ⟨imports, List.forall_mem_map.mpr functions⟩
  have closed := Closed.intercalate "\n\n\n" (List.cons_ne_nil _ _)
    (settled _ (List.getLast_mem (List.cons_ne_nil _ _))).closed
  have noTab := noTab_intercalate (show '\t' ∉ "\n\n\n".toList by decide) fun text inside =>
    (settled text inside).noTab
  rw [File.render, sections, joinFilled_of_settled _ settled, expandTabs_of_noTab noTab,
    trimTrailing_of_closed closed, String.ofList_toList, intercalate_cons, List.map_map]
  rfl

end File
end Code
end OpenApiClient
