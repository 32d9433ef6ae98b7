import OpenApiClient.Yaml.Node

set_option autoImplicit false

namespace OpenApiClient.Yaml.Node

mutual

inductive Scalars (p : String → Prop) : Node → Prop
  | scalar (tag : NodeTag) {text : String} : p text → Scalars p (.scalar tag text)
  | sequence (tag : NodeTag) {items : List Node} :
      ItemScalars p items → Scalars p (.sequence tag items)
  | mapping (tag : NodeTag) {entries : List (Node × Node)} :
      EntryScalars p entries → Scalars p (.mapping tag entries)
  | loop : Scalars p .loop

inductive ItemScalars (p : String → Prop) : List Node → Prop
  | nil : ItemScalars p []
  | cons {item : Node} {rest : List Node} :
      Scalars p item → ItemScalars p rest → ItemScalars p (item :: rest)

inductive EntryScalars (p : String → Prop) : List (Node × Node) → Prop
  | nil : EntryScalars p []
  | cons {key value : Node} {rest : List (Node × Node)} :
      Scalars p key → Scalars p value → EntryScalars p rest → EntryScalars p ((key, value) :: rest)

end

def IsScalarOf (tokens : List Token) (text : String) : Prop :=
  text = "" ∨ ∃ plain, .scalar text plain ∈ tokens

def IsTokenFault (tokens : List Token) (error : ReadError) : Prop :=
  error = .malformed ∨ .unreadable error ∈ tokens

section Parse

variable {all : List Token}

theorem scalars_absent : absent.Scalars (IsScalarOf all) := .scalar _ (.inl rfl)

theorem isTokenFault_misplaced {tokens : List Token} (part : tokens <:+ all) :
    IsTokenFault all (misplaced tokens) := by
  rw [misplaced.eq_def]
  split
  next => exact .inr (part.subset List.mem_cons_self)
  next => exact .inl rfl

structure State.Within (all : List Token) (state : State) : Prop where
  tokens : state.tokens <:+ all
  anchors : ∀ entry ∈ state.anchors, entry.2.Scalars (IsScalarOf all)

theorem State.Within.rest {state : State} {token : Token} {rest : List Token}
    (within : state.Within all) (first : state.tokens = token :: rest) :
    State.Within all { state with tokens := rest } where
  tokens := (List.suffix_cons token rest).trans (first ▸ within.tokens)
  anchors := within.anchors

inductive Good {α : Type} (all : List Token) (holds : α → Prop) :
    Except ReadError (α × State) → Prop
  | ok {part : α} {state : State} :
      holds part → state.Within all → Good all holds (.ok (part, state))
  | error {error : ReadError} : IsTokenFault all error → Good all holds (.error error)

theorem Good.bind {α β : Type} {holds : α → Prop} {next : β → Prop}
    {computed : Except ReadError (α × State)} {f : α × State → Except ReadError (β × State)}
    (good : Good all holds computed)
    (rest : ∀ part state, holds part → State.Within all state → Good all next (f (part, state))) :
    Good all next (computed >>= f) := by
  cases good with
  | ok part within => exact rest _ _ part within
  | error fault => exact .error fault

theorem Good.malformed {α : Type} {holds : α → Prop} : Good all holds (.error .malformed) :=
  .error (.inl rfl)

theorem Good.unless {α : Type} {next : α → Prop} {state : State} {leftOut : Bool}
    {computed : Except ReadError (Node × State)} {f : Node × State → Except ReadError (α × State)}
    (within : state.Within all) (good : Good all (Scalars (IsScalarOf all)) computed)
    (rest : ∀ part state, Scalars (IsScalarOf all) part → State.Within all state →
      Good all next (f (part, state))) :
    Good all next (if leftOut then pure (absent, state) >>= f else computed >>= f) := by
  split
  next => exact rest _ _ scalars_absent within
  next => exact good.bind rest

theorem Good.behindComma {α : Type} {next : α → Prop} {state : State} {first : Bool}
    {f : List Token → Except ReadError (α × State)} (within : state.Within all)
    (rest : ∀ tokens, State.Within all { state with tokens := tokens } → Good all next (f tokens)) :
    Good all next
      (if first then pure state.tokens >>= f
      else
        match state.tokens with
        | .flowEntry :: rest => pure rest >>= f
        | tokens => .error (misplaced tokens) >>= f) := by
  split
  next => exact rest _ within
  next =>
    split
    next comma => exact rest _ (within.rest comma)
    next => exact .error (isTokenFault_misplaced within.tokens)

theorem within_readAnchor {state : State} (within : state.Within all) :
    (readAnchor state).2.Within all := by
  rw [readAnchor]
  split
  next first => exact within.rest first
  next => exact within

theorem within_readTag {state : State} (within : state.Within all) :
    (readTag state).2.Within all := by
  rw [readTag]
  split
  next first => exact within.rest first
  next => exact within

theorem within_properties {state : State} (within : state.Within all) :
    (properties state).2.Within all := by
  rw [properties]
  -- An anchor is looked for once more behind a tag.
  have tagged := within_readTag (within_readAnchor within)
  simp only
  split
  next => exact tagged
  next =>
    split
    next => exact within_readAnchor tagged
    next => exact tagged

theorem nodeTag_error {handles : List (String × String)} {tag : Option WrittenTag}
    {error : ReadError} (failed : nodeTag handles tag = .error error) : error = .malformed := by
  rw [nodeTag.eq_def] at failed
  split at failed
  next => cases failed
  next =>
    rw [tagName.eq_def] at failed
    split at failed
    next => cases failed
    next => split at failed <;> cases failed; rfl

theorem within_keep {node : Node} {state : State} (anchor : Option String)
    (scalars : node.Scalars (IsScalarOf all)) (within : state.Within all) :
    (keep anchor node state).Within all := by
  rw [keep.eq_def]
  split
  next => exact within
  next => exact ⟨within.tokens, List.forall_mem_cons.mpr ⟨scalars, within.anchors⟩⟩

theorem announce_error {anchor : Option String} {state : State} {error : ReadError}
    (failed : announce anchor state = .error error) : error = .malformed := by
  rw [announce.eq_def] at failed
  split at failed
  next => cases failed
  next => split at failed <;> cases failed; rfl

theorem within_announce {anchor : Option String} {state next : State}
    (announced : announce anchor state = .ok next) (within : state.Within all) :
    next.Within all := by
  rw [announce.eq_def] at announced
  split at announced
  next => exact Except.ok.inj announced ▸ within
  next =>
    split at announced
    next => cases announced
    next => exact Except.ok.inj announced ▸ within_keep _ .loop within

theorem good_parseNothing {state : State} (given : Properties) (tag : NodeTag)
    (within : state.Within all) :
    Good all (Scalars (IsScalarOf all)) (parseNothing given tag state) := by
  rw [parseNothing]
  split
  next => exact .ok (.scalar _ (.inl rfl)) within
  next => exact .error (isTokenFault_misplaced within.tokens)

structure Reads (all : List Token) (fuel : Nat) : Prop where
  node {state : State} (place : Place) : state.Within all →
    Good all (Scalars (IsScalarOf all)) (parse place fuel state)
  content {state : State} (place : Place) (given : Properties) (tag : NodeTag) :
    state.Within all → Good all (Scalars (IsScalarOf all)) (parseContent place given tag fuel state)
  blockItems {state : State} : state.Within all →
    Good all (ItemScalars (IsScalarOf all)) (parseBlockItems fuel state)
  indentless {state : State} : state.Within all →
    Good all (ItemScalars (IsScalarOf all)) (parseIndentless fuel state)
  blockEntries {state : State} : state.Within all →
    Good all (EntryScalars (IsScalarOf all)) (parseBlockEntries fuel state)
  blockValue {state : State} : state.Within all →
    Good all (Scalars (IsScalarOf all)) (parseBlockValue fuel state)
  flowItems {state : State} (first : Bool) : state.Within all →
    Good all (ItemScalars (IsScalarOf all)) (parseFlowItems first fuel state)
  flowEntries {state : State} (first : Bool) : state.Within all →
    Good all (EntryScalars (IsScalarOf all)) (parseFlowEntries first fuel state)
  flowValue {state : State} (closing : Token → Bool) : state.Within all →
    Good all (Scalars (IsScalarOf all)) (parseFlowValue closing fuel state)

section Step

variable {fuel : Nat} {state : State}

theorem Reads.parse (reads : Reads all fuel) (place : Place) (within : state.Within all) :
    Good all (Scalars (IsScalarOf all)) (parse place (fuel + 1) state) := by
  rw [Node.parse.eq_def]
  simp only
  split
  next name rest first =>
    split
    next found =>
      exact .ok (within.anchors _ (List.mem_of_find?_eq_some found)) (within.rest first)
    next => exact .malformed
  next =>
    have inner := within_properties within
    split
    next first => exact .error (.inr (inner.tokens.subset (first ▸ List.mem_cons_self)))
    next =>
      cases tagged : nodeTag (properties state).2.handles (properties state).1.tag with
      | error error =>
        obtain rfl := nodeTag_error tagged
        exact .malformed
      | ok tag =>
        cases announced : announce (properties state).1.anchor (properties state).2 with
        | error error =>
          obtain rfl := announce_error announced
          exact .malformed
        | ok named =>
          have content := reads.content place (properties state).1 tag
            (within_announce announced inner)
          exact content.bind fun _ _ scalars later => .ok scalars (within_keep _ scalars later)

theorem Reads.parseContent (reads : Reads all fuel) (place : Place) (given : Properties)
    (tag : NodeTag) (within : state.Within all) :
    Good all (Scalars (IsScalarOf all)) (parseContent place given tag (fuel + 1) state) := by
  have nothing := good_parseNothing given tag within
  rw [Node.parseContent.eq_def]
  simp only
  -- By the token that the content begins with; any other token leaves it empty.
  split
  next =>
    split
    next =>
      exact (reads.indentless within).bind fun _ _ items later => .ok (.sequence _ items) later
    next => exact nothing
  next text plain rest first =>
    have known : IsScalarOf all text :=
      .inr ⟨plain, within.tokens.subset (first ▸ List.mem_cons_self)⟩
    exact .ok (.scalar _ known) (within.rest first)
  next rest first =>
    exact (reads.flowItems true (within.rest first)).bind fun _ _ items later =>
      .ok (.sequence _ items) later
  next rest first =>
    exact (reads.flowEntries true (within.rest first)).bind fun _ _ entries later =>
      .ok (.mapping _ entries) later
  next rest first =>
    split
    next => exact nothing
    next =>
      exact (reads.blockItems (within.rest first)).bind fun _ _ items later =>
        .ok (.sequence _ items) later
  next rest first =>
    split
    next => exact nothing
    next =>
      exact (reads.blockEntries (within.rest first)).bind fun _ _ entries later =>
        .ok (.mapping _ entries) later
  next => exact nothing

theorem Reads.parseBlockItems (reads : Reads all fuel) (within : state.Within all) :
    Good all (ItemScalars (IsScalarOf all)) (parseBlockItems (fuel + 1) state) := by
  rw [Node.parseBlockItems.eq_def]
  simp only
  split
  next rest first =>
    have inner := within.rest first
    refine Good.unless inner (reads.node .block inner) fun _ _ item later => ?_
    exact (reads.blockItems later).bind fun _ _ more last => .ok (.cons item more) last
  next rest first => exact .ok .nil (within.rest first)
  next => exact .error (isTokenFault_misplaced within.tokens)

theorem Reads.parseIndentless (reads : Reads all fuel) (within : state.Within all) :
    Good all (ItemScalars (IsScalarOf all)) (parseIndentless (fuel + 1) state) := by
  rw [Node.parseIndentless.eq_def]
  simp only
  split
  next rest first =>
    have inner := within.rest first
    refine Good.unless inner (reads.node .block inner) fun _ _ item later => ?_
    exact (reads.indentless later).bind fun _ _ more last => .ok (.cons item more) last
  next => exact .ok .nil within

theorem Reads.parseBlockEntries (reads : Reads all fuel) (within : state.Within all) :
    Good all (EntryScalars (IsScalarOf all)) (parseBlockEntries (fuel + 1) state) := by
  rw [Node.parseBlockEntries.eq_def]
  simp only
  split
  next rest first =>
    have inner := within.rest first
    refine Good.unless inner (reads.node .indentless inner) fun _ _ key behind => ?_
    refine (reads.blockValue behind).bind fun _ _ value later => ?_
    exact (reads.blockEntries later).bind fun _ _ more last => .ok (.cons key value more) last
  next rest first => exact .ok .nil (within.rest first)
  next => exact .error (isTokenFault_misplaced within.tokens)

theorem Reads.parseBlockValue (reads : Reads all fuel) (within : state.Within all) :
    Good all (Scalars (IsScalarOf all)) (parseBlockValue (fuel + 1) state) := by
  rw [Node.parseBlockValue.eq_def]
  simp only
  split
  next rest first =>
    split
    next => exact .ok scalars_absent (within.rest first)
    next => exact reads.node .indentless (within.rest first)
  next => exact .ok scalars_absent within

theorem Reads.parseFlowValue (reads : Reads all fuel) (closing : Token → Bool)
    (within : state.Within all) :
    Good all (Scalars (IsScalarOf all)) (parseFlowValue closing (fuel + 1) state) := by
  rw [Node.parseFlowValue.eq_def]
  simp only
  split
  next rest first =>
    split
    next => exact .ok scalars_absent (within.rest first)
    next => exact reads.node .flow (within.rest first)
  next => exact .ok scalars_absent within

theorem Reads.parseFlowItems (reads : Reads all fuel) (first : Bool) (within : state.Within all) :
    Good all (ItemScalars (IsScalarOf all)) (parseFlowItems first (fuel + 1) state) := by
  rw [Node.parseFlowItems.eq_def]
  simp only
  split
  next rest first => exact .ok .nil (within.rest first)
  next =>
    refine Good.behindComma within fun tokens here => ?_
    split
    next => exact .ok .nil (here.rest rfl)
    next rest =>
      have inner := here.rest rfl
      refine Good.unless inner (reads.node .flow inner) fun _ _ key behind => ?_
      refine (reads.flowValue closesSequence behind).bind fun _ _ value later => ?_
      exact (reads.flowItems false later).bind fun _ _ more last =>
        .ok (.cons (.mapping _ (.cons key value .nil)) more) last
    next =>
      refine (reads.node .flow here).bind fun _ _ item later => ?_
      exact (reads.flowItems false later).bind fun _ _ more last => .ok (.cons item more) last

theorem Reads.parseFlowEntries (reads : Reads all fuel) (first : Bool)
    (within : state.Within all) :
    Good all (EntryScalars (IsScalarOf all)) (parseFlowEntries first (fuel + 1) state) := by
  rw [Node.parseFlowEntries.eq_def]
  simp only
  split
  next rest first => exact .ok .nil (within.rest first)
  next =>
    refine Good.behindComma within fun tokens here => ?_
    split
    next => exact .ok .nil (here.rest rfl)
    next rest =>
      have inner := here.rest rfl
      refine Good.unless inner (reads.node .flow inner) fun _ _ key behind => ?_
      refine (reads.flowValue closesMapping behind).bind fun _ _ value later => ?_
      exact (reads.flowEntries false later).bind fun _ _ more last =>
        .ok (.cons key value more) last
    next =>
      refine (reads.node .flow here).bind fun _ _ key later => ?_
      exact (reads.flowEntries false later).bind fun _ _ more last =>
        .ok (.cons key scalars_absent more) last

end Step

theorem reads (all : List Token) (fuel : Nat) : Reads all fuel := by
  -- The readers call each other, so the induction is for all of them at once.
  induction fuel with
  | zero => constructor <;> intros <;> exact .malformed
  | succ fuel reads =>
    exact ⟨reads.parse, reads.parseContent, reads.parseBlockItems, reads.parseIndentless,
      reads.parseBlockEntries, reads.parseBlockValue, reads.parseFlowItems, reads.parseFlowEntries,
      reads.parseFlowValue⟩

theorem directives_ok {versioned : Bool} {handles given : List (String × String)}
    {tokens rest : List Token} (read : directives versioned handles tokens = .ok (given, rest)) :
    rest <:+ tokens := by
  fun_induction directives versioned handles tokens with
  | case1 => cases read
  | case2 _ _ _ _ ih => exact (ih read).trans (List.suffix_cons _ _)
  | case3 => cases read
  | case4 _ _ _ _ _ _ ih => exact (ih read).trans (List.suffix_cons _ _)
  | case5 _ _ _ ih => exact (ih read).trans (List.suffix_cons _ _)
  | case6 =>
    cases read
    exact List.suffix_rfl

theorem directives_error {versioned : Bool} {handles : List (String × String)}
    {tokens : List Token} {error : ReadError}
    (failed : directives versioned handles tokens = .error error) : error = .malformed := by
  fun_induction directives versioned handles tokens with
  | case1 => exact (Except.error.inj failed).symm
  | case2 _ _ _ _ ih => exact ih failed
  | case3 => exact (Except.error.inj failed).symm
  | case4 _ _ _ _ _ _ ih => exact ih failed
  | case5 _ _ _ ih => exact ih failed
  | case6 => cases failed

theorem suffix_dropDocumentEnds (tokens : List Token) : dropDocumentEnds tokens <:+ tokens := by
  fun_induction dropDocumentEnds tokens with
  | case1 rest ih => exact ih.trans (List.suffix_cons _ _)
  | case2 => exact List.suffix_rfl

inductive Rooted (all : List Token) : Except ReadError (Option Node) → Prop
  | nothing : Rooted all (.ok none)
  | node {node : Node} : node.Scalars (IsScalarOf all) → Rooted all (.ok (some node))
  | error {error : ReadError} : IsTokenFault all error → Rooted all (.error error)

theorem rooted_end {node : Node} {tokens : List Token}
    (scalars : node.Scalars (IsScalarOf all)) (part : tokens <:+ all) :
    Rooted all
      (match dropDocumentEnds tokens with
      | [] => .ok (some node)
      | tokens => .error (misplaced tokens)) := by
  have left := (suffix_dropDocumentEnds tokens).trans part
  split
  next => exact .node scalars
  next => exact .error (isTokenFault_misplaced left)

theorem rooted_parse {tokens : List Token} (handles : List (String × String))
    (part : tokens <:+ all) :
    Rooted all (do
      let parsed ← parse .block (4 * tokens.length + 4) ⟨tokens, [], handles⟩
      match dropDocumentEnds parsed.2.tokens with
      | [] => .ok (some parsed.1)
      | tokens => .error (misplaced tokens)) := by
  have within : State.Within all ⟨tokens, [], handles⟩ := ⟨part, List.forall_mem_nil _⟩
  have good := (reads all (4 * tokens.length + 4)).node .block within
  generalize parse .block _ _ = parsed at good ⊢
  cases good with
  | ok scalars later => exact rooted_end scalars later.tokens
  | error fault => exact .error fault

theorem rooted_ofTokens (tokens : List Token) : Rooted tokens (ofTokens tokens) := by
  rw [ofTokens.eq_def]
  simp only
  split
  case h_1 => exact .nothing
  case h_4 => exact rooted_parse _ List.suffix_rfl
  -- A document starts here, behind directives or without them.
  all_goals
    generalize directed : directives false [] _ = found
    cases found with
    | error error =>
      obtain rfl := directives_error directed
      exact .error (.inl rfl)
    | ok found =>
      obtain ⟨handles, left⟩ := found
      have part := directives_ok directed
      simp only [bind, Except.bind]
      split
      next rest =>
        have inner := (List.suffix_cons _ rest).trans part
        split
        next => exact rooted_end scalars_absent inner
        next => exact rooted_parse _ inner
      next => exact .error (isTokenFault_misplaced part)

end Parse

end OpenApiClient.Yaml.Node
