import OpenApiClient.Proofs.Code.Documentation
import OpenApiClient.Proofs.Code.Sections
import OpenApiClient.Proofs.Text.Printable

set_option autoImplicit false

namespace OpenApiClient

namespace Text

theorem lines_ne_nil {cs : List Char} (filled : cs ≠ []) : lines cs ≠ [] := by
  intro none
  have whole := flatMap_lines cs
  rw [none, List.flatMap_nil] at whole
  exact filled whole.symm

theorem consLine_append (c : Char) {first : List Line} (filled : first ≠ []) (rest : List Line) :
    consLine c (first ++ rest) = consLine c first ++ rest := by
  cases first with
  | nil => exact absurd rfl filled
  | cons line more => rfl

theorem lines_feed (cs rest : List Char) :
    lines (cs ++ '\n' :: rest) = lines (cs ++ ['\n']) ++ lines rest := by
  have inLine {c : Char} {more : List Char} (visible : ¬ isLineBreak c = true)
      (ih : lines (more ++ '\n' :: rest) = lines (more ++ ['\n']) ++ lines rest) :
      lines (c :: more ++ '\n' :: rest) = lines (c :: more ++ ['\n']) ++ lines rest := by
    have shown := Bool.eq_false_iff.mpr visible
    rw [List.cons_append, List.cons_append, lines_cons_of_visible shown,
      lines_cons_of_visible shown, ih, consLine_append c (lines_ne_nil (by simp))]
  induction cs using lines.induct with
  | case1 => exact lines_of_break (by decide) (fun same => absurd same (by decide))
  | case2 more ih => exact congrArg (⟨[], ['\r', '\n']⟩ :: ·) ih
  | case3 c more pair breaks ih =>
    -- A return at the end and the line feed behind it end one line together.
    by_cases ended : c = '\r' ∧ more = []
    · obtain ⟨rfl, rfl⟩ := ended
      rfl
    · have alone (behind : List Char) : c = '\r' → (more ++ '\n' :: behind).head? ≠ some '\n' := by
        rintro rfl head
        cases more with
        | nil => exact ended ⟨rfl, rfl⟩
        | cons d others => exact pair others rfl (by simpa using head)
      rw [List.cons_append, List.cons_append, lines_of_break breaks (alone _),
        lines_of_break breaks (alone _), ih, List.cons_append]
  | case4 c more _ visible _ ih => exact inLine visible ih
  | case5 c more _ visible _ _ _ ih => exact inLine visible ih

theorem indentChars_feed (pad cs rest : List Char) :
    indentChars pad (cs ++ '\n' :: rest) =
      indentChars pad (cs ++ ['\n']) ++ indentChars pad rest := by
  rw [indentChars, lines_feed, List.flatMap_append]
  rfl

theorem indent_feed (pad before rest : String) :
    indent pad (before ++ "\n" ++ rest) = indent pad (before ++ "\n") ++ indent pad rest := by
  have ended : "\n".toList = ['\n'] := rfl
  simp only [indent, String.toList_append, ended, List.append_assoc, List.singleton_append]
  rw [indentChars_feed, String.ofList_append]

structure IsLine (cs : List Char) : Prop where
  printable : Printable cs
  visible : cs.all isBlank = false

instance (cs : List Char) : Decidable (IsLine cs) :=
  decidable_of_iff (Printable cs ∧ cs.all isBlank = false)
    ⟨fun both => ⟨both.1, both.2⟩, fun isLine => ⟨isLine.printable, isLine.visible⟩⟩

namespace IsLine

variable {cs : List Char}

theorem followed {text : String} (isLine : IsLine text.toList) {behind : String}
    (printable : Printable behind.toList) : IsLine (text ++ behind).toList where
  printable := by
    rw [String.toList_append]
    exact printable_append.mpr ⟨isLine.printable, printable⟩
  visible := by
    rw [String.toList_append, List.all_append, isLine.visible, Bool.false_and]

theorem append {before : List Char} (printable : Printable before) (isLine : IsLine cs) :
    IsLine (before ++ cs) where
  printable := printable_append.mpr ⟨printable, isLine.printable⟩
  visible := by
    rw [List.all_append, isLine.visible, Bool.and_false]

theorem unbroken (isLine : IsLine cs) : ∀ c ∈ cs, isLineBreak c = false :=
  fun c member => isLineBreak_of_isPrintable (isLine.printable c member)

theorem not_mem {c : Char} (isLine : IsLine cs) (hidden : isPrintable c = false) : c ∉ cs :=
  fun member => Bool.false_ne_true (hidden.symm.trans (isLine.printable c member))

theorem ne_nil (isLine : IsLine cs) : cs ≠ [] := by
  rintro rfl
  exact absurd isLine.visible (by decide)

theorem closed {text : String} (isLine : IsLine text.toList) : Closed text := by
  obtain ⟨front, last, split⟩ := List.eq_nil_or_concat text.toList |>.resolve_left isLine.ne_nil
  refine ⟨last, ?_, by rw [split, List.concat_eq_append, List.getLast?_concat]⟩
  rintro rfl
  have member : '\n' ∈ text.toList := by simp [split]
  exact isLine.not_mem (by decide) member

theorem indent {text : String} (isLine : IsLine text.toList) (pad : String) :
    Text.indent pad text = pad ++ text ∧ Text.indent pad (text ++ "\n") = pad ++ text ++ "\n" := by
  have alone : lines text.toList = [⟨text.toList, []⟩] :=
    lines_of_unbroken isLine.ne_nil isLine.unbroken
  have ended : lines (text ++ "\n").toList = [⟨text.toList, ['\n']⟩] := by
    rw [String.toList_append]
    exact lines_append isLine.unbroken rfl
  have padded (ending : List Char) :
      String.ofList ([⟨text.toList, ending⟩].flatMap fun line : Line =>
        (if line.body.all isBlank then [] else pad.toList) ++ line.body ++ line.ending) =
          pad ++ text ++ String.ofList ending := by
    rw [List.flatMap_singleton, if_neg (Bool.eq_false_iff.mp isLine.visible),
      String.ofList_append, String.ofList_append, String.ofList_toList, String.ofList_toList]
  constructor
  · rw [Text.indent, indentChars, alone, padded]
    exact String.append_empty
  · rw [Text.indent, indentChars, ended, padded]

end IsLine

theorem indent_intercalate (pad : String) {texts : List String}
    (areLines : ∀ text ∈ texts, IsLine text.toList) :
    indent pad (String.intercalate "\n" texts) =
      String.intercalate "\n" (texts.map fun text => pad ++ text) := by
  induction texts with
  | nil => rfl
  | cons text rest ih =>
    obtain ⟨here, behind⟩ := List.forall_mem_cons.mp areLines
    cases rest with
    | nil =>
      simp only [String.intercalate_singleton, List.map_cons, List.map_nil]
      exact (here.indent pad).1
    | cons next more =>
      rw [String.intercalate_cons_cons, indent_feed, (here.indent pad).2, ih behind]
      exact (String.intercalate_cons_cons ..).symm

end Text

namespace Code

open Text

theorem expandTabs_intercalate {separator : String} (plain : '\t' ∉ separator.toList)
    (texts : List String) :
    expandTabs (String.intercalate separator texts) =
      String.intercalate separator (texts.map expandTabs) := by
  induction texts with
  | nil => rfl
  | cons first rest ih =>
    cases rest with
    | nil => simp
    | cons second more =>
      rw [String.intercalate_cons_cons, expandTabs_append, expandTabs_append, ih,
        expandTabs_of_noTab plain]
      exact (String.intercalate_cons_cons ..).symm

/-- A line of code at a level of indentation inside of its function. -/
structure SourceLine where
  level : Nat
  text : String

namespace SourceLine

/-- The line as a statement has it, with a tab for each level. -/
def tabbed (line : SourceLine) : String :=
  String.ofList (List.replicate line.level '\t') ++ line.text

/-- The line as its function has it, one level deeper and without tabs. -/
def indented (line : SourceLine) : String :=
  String.join (List.replicate (line.level + 1) indentation) ++ line.text

@[simp] theorem tabbed_zero (text : String) : tabbed ⟨0, text⟩ = text := String.empty_append

@[simp] theorem tabbed_one (text : String) : tabbed ⟨1, text⟩ = "\t" ++ text := rfl

theorem intercalate_guarded (question text : String) :
    String.intercalate "\n" ([⟨0, question⟩, ⟨1, text⟩].map tabbed) =
      question ++ "\n\t" ++ text := by
  have feed : "\n\t" = "\n" ++ "\t" := rfl
  rw [feed, List.map_cons, List.map_singleton, tabbed_zero, tabbed_one,
    String.intercalate_cons_cons, String.intercalate_singleton]
  simp only [String.append_assoc]

theorem intercalate_statements {α : Type} {render : α → String} {lines : α → List SourceLine}
    (filled : ∀ statement, lines statement ≠ [])
    (each : ∀ statement,
      render statement = String.intercalate "\n" ((lines statement).map tabbed))
    (statements : List α) :
    String.intercalate "\n" (statements.map render) =
      String.intercalate "\n" ((statements.flatMap lines).map tabbed) := by
  induction statements with
  | nil => rfl
  | cons statement rest ih =>
    cases rest with
    | nil => simpa using each statement
    | cons next more =>
      have here : (lines statement).map tabbed ≠ [] := by simpa using filled statement
      have below : ((next :: more).flatMap lines).map tabbed ≠ [] := by simp [filled next]
      rw [List.flatMap_cons, List.map_append, String.intercalate_append_of_ne_nil here below, ← ih,
        ← each]
      exact String.intercalate_cons_cons ..

theorem expandTabs_replicate (level : Nat) :
    expandTabs (String.ofList (List.replicate level '\t')) =
      String.join (List.replicate level indentation) := by
  induction level with
  | zero => rfl
  | succ level ih =>
    rw [List.replicate_succ, List.replicate_succ, String.join_cons, ← ih,
      ← List.singleton_append, String.ofList_append, expandTabs_append]
    rfl

theorem printable_levels (level : Nat) :
    Printable (String.join (List.replicate level indentation)).toList := by
  induction level with
  | zero => exact List.forall_mem_nil _
  | succ level ih =>
    have pad : Printable indentation.toList := by decide
    rw [List.replicate_succ, String.join_cons, String.toList_append]
    exact printable_append.mpr ⟨pad, ih⟩

variable {line : SourceLine}

theorem expandTabs_tabbed (isLine : IsLine line.text.toList) :
    expandTabs line.tabbed = String.join (List.replicate line.level indentation) ++ line.text := by
  rw [tabbed, expandTabs_append, expandTabs_replicate,
    expandTabs_of_noTab (isLine.not_mem (by decide))]

theorem isLine_indented (isLine : IsLine line.text.toList) : IsLine line.indented.toList := by
  rw [indented, String.toList_append]
  exact isLine.append (printable_levels _)

theorem separated_indented {lines : List SourceLine} (filled : lines ≠ [])
    (areLines : ∀ line ∈ lines, IsLine line.text.toList) :
    separated '\n' (String.intercalate "\n" (lines.map indented)).toList =
      lines.map fun line => line.indented.toList := by
  induction lines with
  | nil => exact absurd rfl filled
  | cons line rest ih =>
    obtain ⟨here, behind⟩ := List.forall_mem_cons.mp areLines
    have inside : '\n' ∉ line.indented.toList := (isLine_indented here).not_mem (by decide)
    cases rest with
    | nil => simpa using separated_of_not_mem inside
    | cons next more =>
      have feed : "\n".toList = ['\n'] := rfl
      have later := ih (List.cons_ne_nil _ _) behind
      rw [List.map_cons, List.map_cons, String.intercalate_cons_cons, ← List.map_cons,
        String.toList_append, String.toList_append, feed, List.append_assoc,
        List.singleton_append, separated_append _ inside, later]
      rfl

theorem closed_tabbed {lines : List SourceLine} (filled : lines ≠ [])
    (areLines : ∀ line ∈ lines, IsLine line.text.toList) :
    Closed (String.intercalate "\n" (lines.map tabbed)) := by
  have present : lines.map tabbed ≠ [] := by simpa using filled
  refine Closed.intercalate _ present ?_
  obtain ⟨line, member, same⟩ := List.mem_map.mp (List.getLast_mem present)
  rw [← same, tabbed]
  exact (areLines line member).closed.append _

end SourceLine

namespace Function

/-- The header and the documentation of a function as they are rendered. -/
def preamble (function : Function) : String :=
  expandTabs (function.header ++
    if function.documentation = "" then ""
    else indent indentation (function.documentation ++ "\n\n"))

theorem append_feeds (text : String) : text ++ "\n\n" = text ++ "\n" ++ "\n" := by
  rw [String.append_assoc]
  rfl

theorem preamble_ends (function : Function) : ∃ front, function.preamble = front ++ "\n" := by
  have feed : expandTabs "\n" = "\n" := expandTabs_of_noTab (by decide)
  have ended (text : String) : expandTabs (text ++ "\n") = expandTabs text ++ "\n" := by
    rw [expandTabs_append, feed]
  rw [preamble]
  split
  -- Without a documentation the header is the last line, otherwise it is an empty line.
  next =>
    have header : ∃ front, function.header = front ++ "\n" :=
      ⟨_, (@String.append_assoc _ ":" "\n").symm⟩
    obtain ⟨front, header⟩ := header
    exact ⟨_, by rw [String.append_empty, header, ended]⟩
  next =>
    have blank : indent indentation "\n" = "\n" := rfl
    have shown : indent indentation (function.documentation ++ "\n\n") =
        indent indentation (function.documentation ++ "\n") ++ "\n" := by
      rw [append_feeds, indent_feed, blank]
    exact ⟨_, by rw [shown, ← String.append_assoc, ended]⟩

theorem body_of_code {function : Function} (filled : function.code.render ≠ "") :
    indent indentation function.body =
      (if function.documentation = "" then ""
        else indent indentation (function.documentation ++ "\n\n")) ++
        indent indentation function.code.render := by
  rw [body_eq]
  by_cases silent : function.documentation = ""
  · simp [joinFilled, silent, filled]
  · have body : joinFilled "\n\n" [function.documentation, function.code.render] =
        function.documentation ++ "\n\n" ++ function.code.render := by
      simp [joinFilled, silent, filled]
    rw [body, if_neg silent, append_feeds, indent_feed]

theorem render_of_lines {function : Function} {lines : List SourceLine} (filled : lines ≠ [])
    (areLines : ∀ line ∈ lines, IsLine line.text.toList)
    (code : function.code.code = String.intercalate "\n" (lines.map SourceLine.tabbed)) :
    function.render =
      function.preamble ++ String.intercalate "\n" (lines.map SourceLine.indented) := by
  have expanded : function.code.render = String.intercalate "\n" (lines.map fun line =>
      String.join (List.replicate line.level indentation) ++ line.text) := by
    rw [Block.render, code, expandTabs_intercalate (by decide), List.map_map]
    exact congrArg _ (List.map_congr_left fun line member =>
      SourceLine.expandTabs_tabbed (areLines line member))
  have written : indent indentation function.code.render =
      String.intercalate "\n" (lines.map SourceLine.indented) := by
    rw [expanded, indent_intercalate, List.map_map]
    · refine congrArg _ (List.map_congr_left fun line _ => ?_)
      rw [SourceLine.indented, List.replicate_succ, String.join_cons, String.append_assoc]
      rfl
    · refine List.forall_mem_map.mpr fun line member => ?_
      rw [String.toList_append]
      exact (areLines line member).append (SourceLine.printable_levels _)
  -- The whole function is expanded once more, and nothing is left of the tabs in its code.
  have noTab : '\t' ∉ (String.intercalate "\n" (lines.map SourceLine.indented)).toList :=
    noTab_intercalate (by decide) (List.forall_mem_map.mpr fun line member =>
      (SourceLine.isLine_indented (areLines line member)).not_mem (by decide))
  have present : function.code.render ≠ "" :=
    (settled_expandTabs (code ▸ SourceLine.closed_tabbed filled areLines)).closed.ne_empty
  rw [render, body_of_code present, written, ← String.append_assoc, expandTabs_append,
    expandTabs_of_noTab noTab]
  rfl

theorem settled_of_lines {function : Function} {lines : List SourceLine} (filled : lines ≠ [])
    (areLines : ∀ line ∈ lines, IsLine line.text.toList)
    (code : function.code.code = String.intercalate "\n" (lines.map SourceLine.tabbed)) :
    Settled function.render :=
  settled_render (code ▸ SourceLine.closed_tabbed filled areLines)

end Function

/-- The part stands in the text as it is, and begins and ends lines there. -/
def StandsIn (part text : String) : Prop :=
  ∃ before after, text = before ++ part ++ "\n" ++ after ∧
    (before = "" ∨ ∃ front, before = front ++ "\n")

theorem trimTrailing_append {part : String} (closed : Closed part) (before after : List Char) :
    trimTrailing '\n' (before ++ part.toList ++ after) =
      before ++ part.toList ++ trimTrailing '\n' after := by
  obtain ⟨last, other, ends⟩ := closed
  obtain ⟨front, chars⟩ := List.getLast?_eq_some_iff.mp ends
  -- From behind, the trimming gets no further than the last character of the part.
  have kept : (part.toList.reverse ++ before.reverse).dropWhile (· == '\n') =
      part.toList.reverse ++ before.reverse := by
    rw [chars, List.reverse_concat, List.cons_append,
      List.dropWhile_cons_of_neg (by simpa using other)]
  rw [trimTrailing, trimTrailing, List.reverse_append, List.reverse_append,
    List.dropWhile_append, kept]
  split
  next trimmed =>
    rw [List.isEmpty_iff.mp trimmed, List.reverse_append, List.reverse_reverse,
      List.reverse_reverse, List.reverse_nil, List.append_nil]
  next =>
    rw [List.reverse_append, List.reverse_append, List.reverse_reverse, List.reverse_reverse]

theorem trimTrailing_feeds {after : List Char}
    (begins : after = [] ∨ ∃ more, after = '\n' :: more) :
    ∃ rest, trimTrailing '\n' after ++ ['\n'] = '\n' :: rest := by
  rcases begins with rfl | ⟨more, rfl⟩
  · exact ⟨[], rfl⟩
  · have shorter : trimTrailing '\n' ('\n' :: more) <+: '\n' :: more := by
      rw [trimTrailing, ← List.reverse_suffix, List.reverse_reverse]
      exact List.dropWhile_suffix _
    cases trimmed : trimTrailing '\n' ('\n' :: more) with
    | nil => exact ⟨[], rfl⟩
    | cons c rest =>
      rw [trimmed, List.cons_prefix_cons] at shorter
      exact ⟨rest ++ ['\n'], by rw [shorter.1, List.cons_append]⟩

theorem intercalate_around (separator part : String) (front back : List String) :
    ∃ before after, String.intercalate separator (front ++ part :: back) =
        before ++ part ++ after ∧
      (before = "" ∨ ∃ first, before = first ++ separator) ∧
      (after = "" ∨ ∃ rest, after = separator ++ rest) := by
  have behind : ∃ after, String.intercalate separator (part :: back) = part ++ after ∧
      (after = "" ∨ ∃ rest, after = separator ++ rest) := by
    cases back with
    | nil => exact ⟨"", by simp, .inl rfl⟩
    | cons next more =>
      exact ⟨separator ++ String.intercalate separator (next :: more),
        by rw [String.intercalate_cons_cons, String.append_assoc], .inr ⟨_, rfl⟩⟩
  obtain ⟨after, split, ended⟩ := behind
  by_cases first : front = []
  · exact ⟨"", after, by rw [first, List.nil_append, split, String.empty_append], .inl rfl, ended⟩
  · refine ⟨String.intercalate separator front ++ separator, after, ?_, .inr ⟨_, rfl⟩, ended⟩
    rw [String.intercalate_append_of_ne_nil first (List.cons_ne_nil _ _), split]
    exact (@String.append_assoc _ part after).symm

namespace File

theorem mem_sections {file : File} {function : Function}
    (member : function ∈ file.functions.values) :
    function.render ∈ file.sections.map Prod.snd := by
  refine List.mem_map.mpr ⟨(function.order, function.render), ?_, rfl⟩
  rw [sections, descending, List.mem_mergeSort]
  exact List.mem_append_left _ (List.mem_append_right _ (List.mem_map_of_mem member))

theorem stands_render {file : File} {function : Function}
    (member : function ∈ file.functions.values) (settled : Settled function.render) :
    StandsIn function.render file.render := by
  have inside : function.render ∈ (String.intercalate "\n" file.imports ::
      file.sections.map Prod.snd).filter fun part => part ≠ "" :=
    List.mem_filter.mpr ⟨List.mem_cons_of_mem _ (mem_sections member),
      decide_eq_true settled.closed.ne_empty⟩
  obtain ⟨front, back, parts⟩ := List.append_of_mem inside
  obtain ⟨before, after, whole, begun, ended⟩ :=
    intercalate_around "\n\n\n" function.render front back
  -- What stands around the part is expanded and trimmed, and both leave its line feeds there.
  have gap : expandTabs "\n\n\n" = "\n\n\n" := expandTabs_of_noTab (by decide)
  have begun' : expandTabs before = "" ∨ ∃ first, expandTabs before = first ++ "\n" := by
    rcases begun with rfl | ⟨first, rfl⟩
    · exact .inl rfl
    · refine .inr ⟨expandTabs first ++ "\n\n", ?_⟩
      rw [expandTabs_append, gap, String.append_assoc]
      rfl
  have ended' : (expandTabs after).toList = [] ∨
      ∃ more, (expandTabs after).toList = '\n' :: more := by
    rcases ended with rfl | ⟨rest, rfl⟩
    · exact .inl rfl
    · refine .inr ⟨'\n' :: '\n' :: (expandTabs rest).toList, ?_⟩
      rw [expandTabs_append, gap, String.toList_append]
      rfl
  obtain ⟨rest, feeds⟩ := trimTrailing_feeds ended'
  refine ⟨expandTabs before, String.ofList rest, ?_, begun'⟩
  rw [File.render, joinFilled, parts, whole, expandTabs_append, expandTabs_append,
    expandTabs_of_noTab settled.noTab, String.toList_append, String.toList_append,
    trimTrailing_append settled.closed]
  have tail : String.ofList (trimTrailing '\n' (expandTabs after).toList) ++ "\n" =
      "\n" ++ String.ofList rest := by
    have feed : "\n" = String.ofList ['\n'] := rfl
    rw [feed, ← String.ofList_append, feeds, ← String.ofList_append]
    rfl
  rw [String.ofList_append, String.ofList_append, String.ofList_toList, String.ofList_toList,
    @String.append_assoc _ _ "\n", tail, ← String.append_assoc]

end File

end Code
end OpenApiClient
