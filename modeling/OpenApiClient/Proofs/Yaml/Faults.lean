import OpenApiClient.Proofs.Yaml.Scalars
import OpenApiClient.Yaml.Built

set_option autoImplicit false

namespace OpenApiClient.Yaml

section Text

variable {p : String → Prop}

mutual

theorem Node.Scalars.text? {node : Node} {text : String} (scalars : node.Scalars p)
    (found : node.text? = some text) : p text := by
  cases scalars with
  | scalar tag known =>
    rw [Node.text?] at found
    exact Option.some.inj found ▸ known
  | sequence => cases found
  | mapping tag entries =>
    rw [Node.text?] at found
    exact entries.text? found
  | loop => cases found

theorem Node.EntryScalars.text? {entries : List (Node × Node)} {text : String}
    (scalars : EntryScalars p entries) (found : Node.defaultText? entries = some text) :
    p text := by
  cases scalars with
  | nil => cases found
  | cons key value rest =>
    rw [Node.defaultText?] at found
    split at found
    · exact value.text? found
    · exact rest.text? found

end

end Text

def IsValueFault (p : String → Prop) (error : ReadError) : Prop :=
  error = .malformed ∨ ∃ text form, p text ∧ scalarValue form text = .error error

namespace Built

mutual

inductive Faults (q : ReadError → Prop) : Built → Prop
  | scalar (s : Scalar) : Faults q (.scalar s)
  | faulty {error : ReadError} : q error → Faults q (.faulty error)
  | late {error : ReadError} : q error → Faults q (.late error)
  | list {items : List Built} : ItemFaults q items → Faults q (.list items)
  | mapping {entries : List (Built × Built)} : EntryFaults q entries → Faults q (.mapping entries)
  | set {entries : List (Built × Built)} : EntryFaults q entries → Faults q (.set entries)
  | pairs {entries : List (Built × Built)} : EntryFaults q entries → Faults q (.pairs entries)
  | loop : Faults q .loop

inductive ItemFaults (q : ReadError → Prop) : List Built → Prop
  | nil : ItemFaults q []
  | cons {item : Built} {rest : List Built} :
      Faults q item → ItemFaults q rest → ItemFaults q (item :: rest)

inductive EntryFaults (q : ReadError → Prop) : List (Built × Built) → Prop
  | nil : EntryFaults q []
  | cons {key value : Built} {rest : List (Built × Built)} :
      Faults q key → Faults q value → EntryFaults q rest → EntryFaults q ((key, value) :: rest)

end

section Faults

variable {q : ReadError → Prop}

theorem EntryFaults.append {first second : List (Built × Built)} (here : EntryFaults q first)
    (behind : EntryFaults q second) : EntryFaults q (first ++ second) := by
  induction first with
  | nil => exact behind
  | cons entry rest ih =>
    cases here with
    | cons key value rest => exact .cons key value (ih rest)

theorem Faults.fault? {built : Built} {error : ReadError} (faults : Faults q built)
    (found : built.fault? = some error) : q error := by
  cases faults with
  | faulty known => exact Option.some.inj found ▸ known
  | _ => cases found

theorem Faults.keyFault? {built : Built} {error : ReadError} (faults : Faults q built)
    (malformed : q .malformed) (found : built.keyFault? = some error) : q error := by
  cases faults with
  | scalar => cases found
  | faulty known => exact Option.some.inj found ▸ known
  | _ => exact Option.some.inj found ▸ malformed

theorem ItemFaults.here {items : List Built} {error : ReadError} (faults : ItemFaults q items)
    (found : error ∈ items.filterMap Built.fault?) : q error := by
  induction items with
  | nil => cases found
  | cons item rest ih =>
    cases faults with
    | cons first behind =>
      obtain ⟨_, member, fault⟩ := List.mem_filterMap.mp found
      rcases List.mem_cons.mp member with rfl | later
      · exact first.fault? fault
      · exact ih behind (List.mem_filterMap.mpr ⟨_, later, fault⟩)

theorem EntryFaults.here {entries : List (Built × Built)} {error : ReadError}
    {keyFault : Built → Option ReadError} (faults : EntryFaults q entries)
    (known : ∀ {built error}, Faults q built → keyFault built = some error → q error)
    (found : error ∈ entries.flatMap fun entry =>
      (keyFault entry.1).toList ++ entry.2.fault?.toList) : q error := by
  induction entries with
  | nil => cases found
  | cons entry rest ih =>
    cases faults with
    | cons key value behind =>
      rw [List.flatMap_cons, List.append_assoc] at found
      rcases List.mem_append.mp found with first | found
      · exact known key (Option.mem_toList.mp first)
      rcases List.mem_append.mp found with second | later
      · exact value.fault? (Option.mem_toList.mp second)
      · exact ih behind later

mutual

theorem Faults.levels {built : Built} {error : ReadError} (faults : Faults q built)
    (malformed : q .malformed) (found : error ∈ built.levels.flatten) : q error := by
  cases faults with
  | scalar => cases found
  | faulty => cases found
  | late known =>
    rw [Built.levels] at found
    simp only [List.flatten_cons, List.flatten_nil, List.append_nil, List.mem_singleton] at found
    exact found ▸ known
  | list items =>
    rw [Built.levels, List.flatten_cons, List.mem_append] at found
    exact found.elim items.here (items.levels malformed)
  | mapping entries =>
    rw [Built.levels, List.flatten_cons, List.mem_append] at found
    exact found.elim (entries.here fun key => key.keyFault? malformed) (entries.levels malformed)
  | set entries =>
    rw [Built.levels, List.flatten_cons, List.mem_append] at found
    exact found.elim (entries.here fun key => key.keyFault? malformed) (entries.levels malformed)
  | pairs entries =>
    rw [Built.levels, List.flatten_cons, List.mem_append] at found
    exact found.elim (entries.here Faults.fault?) (entries.levels malformed)
  | loop => cases found

theorem ItemFaults.levels {items : List Built} {error : ReadError} (faults : ItemFaults q items)
    (malformed : q .malformed) (found : error ∈ (levelsOfItems items).flatten) : q error := by
  cases faults with
  | nil => cases found
  | cons item rest =>
    rw [levelsOfItems, mem_flatten_mergeLevels] at found
    exact found.elim (item.levels malformed) (rest.levels malformed)

theorem EntryFaults.levels {entries : List (Built × Built)} {error : ReadError}
    (faults : EntryFaults q entries) (malformed : q .malformed)
    (found : error ∈ (levelsOfEntries entries).flatten) : q error := by
  cases faults with
  | nil => cases found
  | cons key value rest =>
    rw [levelsOfEntries, mem_flatten_mergeLevels, mem_flatten_mergeLevels] at found
    exact found.elim (Or.rec (key.levels malformed) (value.levels malformed))
      (rest.levels malformed)

end

theorem Faults.firstFault? {built : Built} {error : ReadError} (faults : Faults q built)
    (malformed : q .malformed) (found : built.firstFault? = some error) : q error := by
  rw [Built.firstFault?] at found
  split at found
  next shown =>
    obtain rfl := Option.some.inj found
    exact faults.fault? shown
  next => exact faults.levels malformed (List.mem_of_mem_head? found)

end Faults

section OfNode

variable {p : String → Prop}

theorem binaryValue_error {text : String} {error : ReadError}
    (failed : binaryValue text = .error error) : error = .malformed := by
  rw [binaryValue] at failed
  split at failed
  next => exact (Except.error.inj failed).symm
  next =>
    split at failed
    next => cases failed
    next => exact (Except.error.inj failed).symm

theorem faults_malformed : Faults (IsValueFault p) (.faulty .malformed) := .faulty (.inl rfl)

theorem faults_ofScalar {read : String → Except ReadError Scalar} {node : Node}
    (scalars : node.Scalars p)
    (known : ∀ text error, p text → read text = .error error → IsValueFault p error) :
    Faults (IsValueFault p) (ofScalar read node) := by
  rw [ofScalar]
  split
  next text found =>
    cases result : read text with
    | ok s => exact .scalar s
    | error error => exact .faulty (known text error (scalars.text? found) result)
  next => exact faults_malformed

theorem faults_scalarValue {node : Node} (form : Form) (scalars : node.Scalars p) :
    Faults (IsValueFault p) (ofScalar (scalarValue form) node) :=
  faults_ofScalar scalars fun text _ has failed => .inr ⟨text, form, has, failed⟩

theorem faults_binaryValue {node : Node} (scalars : node.Scalars p) :
    Faults (IsValueFault p) (ofScalar binaryValue node) :=
  faults_ofScalar scalars fun _ _ _ failed => .inl (binaryValue_error failed)

theorem faults_key {node : Node} {built : Built} (faults : Faults (IsValueFault p) built) :
    Faults (IsValueFault p) (key node built) := by
  rw [key.eq_def]
  split
  next => exact .scalar _
  next => exact faults

inductive Entered (p : String → Prop) :
    Except ReadError (List (Built × Built) × List (Built × Built)) → Prop
  | ok {merged own : List (Built × Built)} :
      EntryFaults (IsValueFault p) merged → EntryFaults (IsValueFault p) own →
        Entered p (.ok (merged, own))
  | error {error : ReadError} : IsValueFault p error → Entered p (.error error)

inductive Merged (p : String → Prop) : Except ReadError (List (Built × Built)) → Prop
  | ok {merged : List (Built × Built)} :
      EntryFaults (IsValueFault p) merged → Merged p (.ok merged)
  | error {error : ReadError} : IsValueFault p error → Merged p (.error error)

theorem Entered.collection {collect : List (Built × Built) → Built}
    (faults : ∀ {entries}, EntryFaults (IsValueFault p) entries →
      Faults (IsValueFault p) (collect entries))
    {entered : Except ReadError (List (Built × Built) × List (Built × Built))} :
    Entered p entered → Faults (IsValueFault p)
      (match entered with
      | .ok (merged, own) => collect (merged ++ own)
      | .error e => .late e)
  | .ok merged own => faults (merged.append own)
  | .error fault => .late fault

theorem faults_endlessEntries : EntryFaults (IsValueFault p) endlessEntries :=
  .cons (.scalar .null) .loop .nil

def merging : Node → Except ReadError (List (Built × Built))
  | .mapping _ inner =>
      match ofEntries inner with
      | .ok (merged, own) => .ok (merged ++ own)
      | .error e => .error e
  | .sequence _ items => ofMerged items
  | .scalar .. => .error .malformed
  | .loop => .ok endlessEntries

-- The recursion goes into the value, so the equation holds only once its form is known.
theorem ofEntries_unfold (keyNode valueNode : Node) (rest : List (Node × Node)) :
    ofEntries ((keyNode, valueNode) :: rest) =
      if keyNode.isMerge then
        match merging valueNode, ofEntries rest with
        | .ok given, .ok (merged, own) => .ok (given ++ merged, own)
        | .error e, _ | _, .error e => .error e
      else
        match ofEntries rest with
        | .ok (merged, own) =>
            .ok (merged, (key keyNode (ofNode keyNode), ofNode valueNode) :: own)
        | .error e => .error e := by
  cases valueNode <;> rfl

theorem ofEntries_cons (keyNode valueNode : Node) (rest : List (Node × Node)) :
    ofEntries ((keyNode, valueNode) :: rest) =
      if keyNode.isMerge then
        (merging valueNode).bind fun given =>
          (ofEntries rest).map fun found => (given ++ found.1, found.2)
      else
        (ofEntries rest).map fun found =>
          (found.1, (key keyNode (ofNode keyNode), ofNode valueNode) :: found.2) := by
  rw [ofEntries_unfold]
  cases merging valueNode <;> cases ofEntries rest <;> rfl

mutual

theorem faults_ofNode {node : Node} (scalars : node.Scalars p) :
    Faults (IsValueFault p) (ofNode node) := by
  cases scalars with
  | scalar tag known =>
    have scalars := Node.Scalars.scalar tag known
    rw [ofNode]
    split
    next form _ => exact faults_scalarValue form scalars
    next => exact faults_binaryValue scalars
    next => exact faults_malformed
    next => exact .late (.inl rfl)
  | sequence tag items =>
    rw [ofNode]
    split
    next => exact .list (faults_ofNodes items)
    next => exact .pairs (faults_ofPairs items)
    next => exact .late (.inl rfl)
    next => exact .late (.inl rfl)
    next => exact faults_malformed
  | mapping tag entries =>
    have scalars := Node.Scalars.mapping tag entries
    have entered := faults_ofEntries entries
    rw [ofNode]
    split
    next => exact Entered.collection .mapping entered
    next => exact Entered.collection .set entered
    next => exact .late (.inl rfl)
    next => exact .late (.inl rfl)
    next form _ => exact faults_scalarValue form scalars
    next => exact faults_binaryValue scalars
    next => exact faults_malformed
  | loop => exact .loop

theorem faults_ofNodes {items : List Node} (scalars : Node.ItemScalars p items) :
    ItemFaults (IsValueFault p) (ofNodes items) := by
  cases scalars with
  | nil => exact .nil
  | cons item rest =>
    rw [ofNodes]
    exact .cons (faults_ofNode item) (faults_ofNodes rest)

theorem faults_ofPairs {items : List Node} (scalars : Node.ItemScalars p items) :
    EntryFaults (IsValueFault p) (ofPairs items) := by
  cases scalars with
  | nil => exact .nil
  | cons item rest =>
    have behind := faults_ofPairs rest
    rw [ofPairs.eq_def]
    simp only
    split
    next =>
      cases item with
      | mapping tag entries =>
        cases entries with
        | cons key value _ => exact .cons (faults_ofNode key) (faults_ofNode value) behind
    next => exact .cons .loop .loop behind
    next => exact .cons faults_malformed faults_malformed behind

theorem faults_ofEntries {entries : List (Node × Node)} (scalars : Node.EntryScalars p entries) :
    Entered p (ofEntries entries) := by
  cases scalars with
  | nil => exact .ok .nil .nil
  | @cons _ valueNode rest key value behind =>
    -- The value of a merging key is read as entries of its own.
    have later := faults_ofEntries behind
    have given := faults_merging value
    rw [ofEntries_cons]
    generalize ofEntries rest = found at later ⊢
    generalize merging valueNode = merged at given ⊢
    split
    next =>
      cases given with
      | error fault => exact .error fault
      | ok given =>
        cases later with
        | error fault => exact .error fault
        | ok merged own => exact .ok (given.append merged) own
    next =>
      cases later with
      | error fault => exact .error fault
      | ok merged own =>
        exact .ok merged (.cons (faults_key (faults_ofNode key)) (faults_ofNode value) own)

theorem faults_merging {node : Node} (scalars : node.Scalars p) : Merged p (merging node) := by
  cases scalars with
  | scalar => exact .error (.inl rfl)
  | sequence tag items => exact faults_ofMerged items
  | @mapping _ inner entries =>
    have entered := faults_ofEntries entries
    rw [merging]
    generalize ofEntries inner = found at entered ⊢
    cases entered with
    | error fault => exact .error fault
    | ok merged own => exact .ok (merged.append own)
  | loop => exact .ok faults_endlessEntries

theorem faults_ofMerged {items : List Node} (scalars : Node.ItemScalars p items) :
    Merged p (ofMerged items) := by
  cases scalars with
  | nil => exact .ok .nil
  | @cons _ rest item behind =>
    have later := faults_ofMerged behind
    cases item with
    | scalar => exact .error (.inl rfl)
    | sequence => exact .error (.inl rfl)
    | @mapping _ inner entries =>
      have entered := faults_ofEntries entries
      rw [ofMerged.eq_def]
      simp only
      generalize ofEntries inner = found at entered ⊢
      generalize ofMerged rest = more at later ⊢
      cases entered with
      | error fault => exact .error fault
      | ok merged own =>
        cases later with
        | error fault => exact .error fault
        | ok more => exact .ok (more.append (merged.append own))
    | loop =>
      rw [ofMerged.eq_def]
      simp only
      generalize ofMerged rest = more at later ⊢
      cases later with
      | error fault => exact .error fault
      | ok more => exact .ok (more.append faults_endlessEntries)

end

end OfNode

end Built

def IsCulprit (text : String) (error : ReadError) : Prop :=
  .unreadable error ∈ tokens text.toList ∨
    ∃ scalar form, Node.IsScalarOf (tokens text.toList) scalar ∧
      scalarValue form scalar = .error error

theorem isCulprit_of_read {text : String} {error : ReadError} (failed : read text = .error error)
    (other : error ≠ .malformed) (finite : error ≠ .endless) : IsCulprit text error := by
  have rooted := Node.rooted_ofTokens (tokens text.toList)
  rw [read] at failed
  generalize Node.ofTokens (tokens text.toList) = root at rooted failed
  cases rooted with
  | nothing => cases failed
  | error fault =>
    obtain rfl := Except.error.inj failed
    exact .inl (fault.resolve_left other)
  | @node node scalars =>
    have faults := Built.faults_ofNode scalars
    simp only [bind, Except.bind] at failed
    split at failed
    next found =>
      obtain rfl := Except.error.inj failed
      exact .inr ((faults.firstFault? (.inl rfl) found).resolve_left other)
    next =>
      split at failed
      next => exact absurd (Except.error.inj failed).symm finite
      next => cases failed

end OpenApiClient.Yaml
