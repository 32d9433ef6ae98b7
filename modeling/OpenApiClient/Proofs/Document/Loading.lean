import OpenApiClient.Client.Package
import OpenApiClient.Document.Load
import OpenApiClient.Proofs.Json.LongNumbers
import OpenApiClient.Proofs.Yaml.Faults

set_option autoImplicit false

namespace OpenApiClient

-- How far the stack lasts. The validation of a description has a limit of its own and reports what
-- lies deeper.
structure Stack where
  reads : Format → String → Bool
  refuses : Value → Option Failure
  generates : Value → Bool

def Stack.unlimited : Stack := ⟨fun _ _ => true, fun _ => none, fun _ => true⟩

inductive ClientError where
  | load (error : LoadError)
  | package (error : PackageError)
  | exhausted

def LoadError.IsReported : LoadError → Prop
  | .failure _ => True
  | .file stopped => stopped.fault ≠ .endedName
  | _ => False

instance (error : LoadError) : Decidable error.IsReported :=
  match error with
  | .failure _ => .isTrue trivial
  | .file stopped => inferInstanceAs (Decidable (stopped.fault ≠ .endedName))
  | .undecodable | .longInteger | .value _ | .badAddress | .badContentType | .charset _ =>
    .isFalse id

/-- The error is one of the generator, or of the file system. -/
def ClientError.IsReported : ClientError → Prop
  | .load error => error.IsReported
  | .package (.failure _) => True
  | .package _ | .exhausted => False

instance (error : ClientError) : Decidable error.IsReported :=
  match error with
  | .load error => inferInstanceAs (Decidable error.IsReported)
  | .package (.failure _) => .isTrue trivial
  | .package (.unknownOption _) | .package (.manifest _) | .exhausted => .isFalse id

namespace Load

variable {stack : Stack}

def readWithin (stack : Stack) (format : Format) (source text : String) :
    Except ClientError Value :=
  if stack.reads format text then (ofText format source text).mapError .load
  else .error .exhausted

/-- Loads a description as far as the stack lasts. -/
def within (stack : Stack) (fetch : String → Web.Answer) (tree : FileTree) (source : String) :
    Except ClientError Value :=
  match textOfSource fetch tree source with
  | .ok (format, text) => readWithin stack format source text
  | .error error => .error (.load error)

theorem within_unlimited (fetch : String → Web.Answer) (tree : FileTree) (source : String) :
    within .unlimited fetch tree source = (ofSource fetch tree source).mapError .load := by
  rw [within, ofSource]
  cases textOfSource fetch tree source <;> rfl

/-- What the file at a path holds, and how its name says that it is to be read. -/
structure Found (tree : FileTree) (path : String) (format : Format) (content : FileContent) :
    Prop where
  isFile : tree.isFile path = true
  format_eq : formatOfExtension? (Path.extension path) = some format
  holds : ∃ place, tree.locate path = .ok place ∧ tree.stored.get? place = some (.file content)

def readable (text : String) : String := String.ofList (Text.unifyBreaks text.toList)

/-- No collection in the content holds itself. -/
def IsFinite : Format → FileContent → Prop
  | .yaml, .text text => Yaml.read (readable text) ≠ .error .endless
  | _, _ => True

/-- How the content of a file keeps it from being loaded without a report. -/
inductive Unreported (stack : Stack) : Format → FileContent → ClientError → Prop
  | bytes (format : Format) : Unreported stack format .bytes (.load .undecodable)
  | deep {format : Format} {text : String} : stack.reads format (readable text) = false →
      Unreported stack format (.text text) .exhausted
  | longNumber {text : String} : stack.reads .json (readable text) = true →
      Json.MeetsLongNumber (readable text) → Json.HasLongNumber (readable text).toList →
        Unreported stack .json (.text text) (.load .longInteger)
  | value {text : String} {error : Yaml.ReadError} : stack.reads .yaml (readable text) = true →
      Yaml.read (readable text) = .error error → error ≠ .malformed →
        Yaml.IsCulprit (readable text) error →
          Unreported stack .yaml (.text text) (.load (.value error))

theorem checkObject_reported {source : String} {value : Value} {error : LoadError}
    (failed : checkObject source value = .error error) : error.IsReported := by
  rw [checkObject.eq_def] at failed
  split at failed
  next => cases failed
  next =>
    obtain rfl := Except.error.inj failed
    trivial

def ofContent (stack : Stack) (format : Format) (source : String) :
    FileContent → Except ClientError Value
  | .text text => readWithin stack format source (readable text)
  | .bytes => .error (.load .undecodable)

theorem unreported_of_readText {format : Format} {source text : String} {error : LoadError}
    (finite : IsFinite format (.text text)) (lasts : stack.reads format (readable text) = true)
    (stopped : readText format source (readable text) = .error error)
    (unreported : ¬ error.IsReported) : Unreported stack format (.text text) (.load error) := by
  rw [readText.eq_def] at stopped
  cases format with
  | json =>
    simp only at stopped
    split at stopped
    next => cases stopped
    next =>
      obtain rfl := Except.error.inj stopped
      exact absurd trivial unreported
    next long =>
      obtain rfl := Except.error.inj stopped
      have meets := (Json.read_longInteger_iff _).mp long
      exact .longNumber lasts meets meets.hasLongNumber
  | yaml =>
    simp only at stopped
    split at stopped
    next => cases stopped
    next =>
      obtain rfl := Except.error.inj stopped
      exact absurd trivial unreported
    next fault other lacking =>
      obtain rfl := Except.error.inj stopped
      have apart : fault ≠ .malformed := fun same => other same
      have ends : fault ≠ .endless := fun same => finite (same ▸ lacking)
      exact .value lasts lacking apart (Yaml.isCulprit_of_read lacking apart ends)

theorem unreported_of_ofText {format : Format} {source text : String} {error : LoadError}
    (finite : IsFinite format (.text text)) (lasts : stack.reads format (readable text) = true)
    (failed : ofText format source (readable text) = .error error)
    (unreported : ¬ error.IsReported) : Unreported stack format (.text text) (.load error) := by
  rw [ofText] at failed
  split at failed
  next => exact absurd (checkObject_reported failed) unreported
  next stopped =>
    obtain rfl := Except.error.inj failed
    exact unreported_of_readText finite lasts stopped unreported

theorem ofText_of_unreported {format : Format} {source text : String} {error : LoadError}
    (unreported : Unreported stack format (.text text) (.load error)) :
    ofText format source (readable text) = .error error ∧ ¬ error.IsReported := by
  rw [ofText, readText.eq_def]
  cases unreported with
  | longNumber _ meets _ =>
    simp only [(Json.read_longInteger_iff _).mpr meets]
    exact ⟨trivial, id⟩
  | value _ lacking apart _ =>
    simp only [lacking]
    exact ⟨trivial, id⟩

theorem unreported_of_readWithin {format : Format} {source text : String} {error : ClientError}
    (finite : IsFinite format (.text text))
    (failed : readWithin stack format source (readable text) = .error error)
    (unreported : ¬ error.IsReported) : Unreported stack format (.text text) error := by
  rw [readWithin] at failed
  cases lasts : stack.reads format (readable text) with
  | false =>
    rw [lasts, if_neg Bool.false_ne_true] at failed
    exact Except.error.inj failed ▸ .deep lasts
  | true =>
    rw [lasts, if_pos rfl] at failed
    cases read : ofText format source (readable text) with
    | ok value =>
      rw [read] at failed
      cases failed
    | error stopped =>
      rw [read] at failed
      obtain rfl := Except.error.inj failed
      exact unreported_of_ofText finite lasts read unreported

theorem readWithin_of_unreported {format : Format} {source text : String} {error : ClientError}
    (unreported : Unreported stack format (.text text) error) :
    readWithin stack format source (readable text) = .error error ∧ ¬ error.IsReported := by
  have lasting {stopped : LoadError} (lasts : stack.reads format (readable text) = true)
      (kept : Unreported stack format (.text text) (.load stopped)) :
      readWithin stack format source (readable text) = .error (.load stopped) ∧
        ¬ (ClientError.load stopped).IsReported := by
    obtain ⟨failed, silent⟩ := ofText_of_unreported kept
    rw [readWithin, if_pos lasts, failed]
    exact ⟨rfl, silent⟩
  cases unreported with
  | deep gone =>
    rw [readWithin, gone, if_neg Bool.false_ne_true]
    exact ⟨rfl, id⟩
  | longNumber lasts meets holds => exact lasting lasts (.longNumber lasts meets holds)
  | value lasts lacking apart culprit => exact lasting lasts (.value lasts lacking apart culprit)

theorem ofContent_unreported_iff {format : Format} {source : String} {content : FileContent}
    {error : ClientError} (finite : IsFinite format content) :
    ofContent stack format source content = .error error ∧ ¬ error.IsReported ↔
      Unreported stack format content error := by
  cases content with
  | bytes =>
    constructor
    · rintro ⟨failed, -⟩
      exact Except.error.inj failed ▸ .bytes format
    · rintro ⟨⟩
      exact ⟨rfl, id⟩
  | text text =>
    exact ⟨fun ⟨failed, unreported⟩ => unreported_of_readWithin finite failed unreported,
      readWithin_of_unreported⟩

section File

variable {fetch : String → Web.Answer} {tree : FileTree} {path : String}

theorem within_of_file (isFile : isAddress path = false) :
    within stack fetch tree path =
      match textOfFile tree path with
      | .ok (format, text) => readWithin stack format path text
      | .error error => .error (.load error) := by
  rw [within, textOfSource, isFile]
  rfl

theorem within_of_found {format : Format} {content : FileContent}
    (isFile : isAddress path = false) (found : Found tree path format content) :
    within stack fetch tree path = ofContent stack format path content := by
  obtain ⟨place, located, stored⟩ := found.holds
  rw [within_of_file isFile, textOfFile, found.isFile, if_neg (by simp), found.format_eq]
  simp only [FileTree.read.eq_def, located, stored]
  cases content <;> rfl

theorem textOfFile_of_missing (missing : ∀ format content, ¬ Found tree path format content) :
    ∃ error, textOfFile tree path = .error error ∧ error.IsReported := by
  rw [textOfFile]
  split
  next => exact ⟨_, rfl, trivial⟩
  next file =>
    split
    next => exact ⟨_, rfl, trivial⟩
    next format known =>
      have isFile : tree.isFile path = true := by simpa using file
      cases located : tree.locate path with
      | error fault =>
        rw [FileTree.isFile, located] at isFile
        cases isFile
      | ok place =>
        -- A place that is no folder and holds no file has nothing to read.
        have unread (content : FileContent) :
            tree.stored.get? place ≠ some (.file content) := fun stored =>
          missing format content ⟨isFile, known, place, located, stored⟩
        have folder : tree.read path = .error (.file ⟨.isFolder, path⟩) := by
          rw [FileTree.read.eq_def, located]
          simp only
          split
          next stored => exact absurd stored (unread _)
          next stored => exact absurd stored (unread _)
          next => rfl
        rw [folder]
        exact ⟨_, rfl, nofun⟩

theorem within_unreported_iff (isFile : isAddress path = false)
    (finite : ∀ format content, Found tree path format content → IsFinite format content)
    {error : ClientError} :
    within stack fetch tree path = .error error ∧ ¬ error.IsReported ↔
      ∃ format content, Found tree path format content ∧
        Unreported stack format content error := by
  constructor
  · rintro ⟨failed, unreported⟩
    by_cases missing : ∀ format content, ¬ Found tree path format content
    · obtain ⟨reported, stopped, known⟩ := textOfFile_of_missing missing
      rw [within_of_file isFile, stopped] at failed
      obtain rfl := Except.error.inj failed
      exact absurd known unreported
    · simp only [not_forall, not_not] at missing
      obtain ⟨format, content, found⟩ := missing
      rw [within_of_found isFile found] at failed
      exact ⟨format, content, found,
        (ofContent_unreported_iff (finite _ _ found)).mp ⟨failed, unreported⟩⟩
  · rintro ⟨format, content, found, unreported⟩
    rw [within_of_found isFile found]
    exact (ofContent_unreported_iff (finite _ _ found)).mpr unreported

theorem within_reported_iff (isFile : isAddress path = false)
    (finite : ∀ format content, Found tree path format content → IsFinite format content) :
    (∀ error, within stack fetch tree path = .error error → error.IsReported) ↔
      ∀ format content error, Found tree path format content →
        ¬ Unreported stack format content error := by
  constructor
  · intro reported format content error found kept
    obtain ⟨failed, unreported⟩ :=
      (within_unreported_iff isFile finite).mpr ⟨format, content, found, kept⟩
    exact unreported (reported error failed)
  · intro reported error failed
    by_contra unreported
    obtain ⟨format, content, found, kept⟩ :=
      (within_unreported_iff isFile finite).mp ⟨failed, unreported⟩
    exact reported format content error found kept

end File

end Load
end OpenApiClient
