import OpenApiClient.Client.Package
import OpenApiClient.CommandLine.Arguments
import OpenApiClient.Document.Load
import OpenApiClient.Settings

set_option autoImplicit false

namespace OpenApiClient.CommandLine

inductive Crash where
  | undecodable
  | badValue
  | value (error : Yaml.ReadError)
  | badAddress
  | badContentType
  | charset (error : Web.CharsetError)
  | reading (error : Toml.ReadError)
  | writing (error : Toml.WriteError)
  | sourceNotText
  | folderNotPath
  | faulty (faults : List Fault)
  deriving DecidableEq

def Crash.nameNotText : Crash := .faulty [⟨[.key "name"], .notText⟩]

inductive Ending where
  | exit (status : Nat)
  | crash (crash : Crash)
  deriving DecidableEq

structure Session where
  tree : FileTree
  output : String
  log : List LogEntry

structure Outcome where
  session : Session
  ending : Ending
  verbose : Bool
  usage : Bool

structure World where
  folder : String
  fetch : String → Web.Answer

namespace Session

def print (session : Session) (line : String) : Session :=
  { session with output := session.output ++ line ++ "\n" }

def printFailure (session : Session) (message : String) : Session :=
  let text := "❌ Ошибка генерации: " ++ message
  let ends := detailMark.toList.reverse.isPrefixOf message.toList.reverse
  { session with output := session.output ++ text ++ if ends then "" else "\n" }

def addLog (session : Session) (log : List LogEntry) : Session :=
  { session with log := session.log ++ log }

def fail (session : Session) (message : String) : Session × Ending :=
  (session.printFailure message, .exit 1)

def failAt (session : Session) (failure : FileFailure) : Session × Ending :=
  if failure.fault = .endedName then (session, .crash .badValue)
  else session.fail failure.message

end Session

def standardFolder : String := "api_client"

def shownText : Value → String
  | .scalar s => plainText s
  | value => (Shown.ofValue value).toText

def argumentValues (arguments : Arguments) : List (String × Value) :=
  let entry (name : String) (value : Option String) : Option (String × Value) :=
    value.map fun text => (name, .text text)
  [entry "file" arguments.file, entry "output" arguments.output,
    entry "package_name" arguments.packageName, entry "package_version" arguments.packageVersion,
    entry "license" arguments.license, entry "description" arguments.description,
    entry "readme" arguments.readme, entry "documentation" arguments.documentation,
    entry "repository" arguments.repository,
    arguments.models.map fun models => ("models", .texts models)].filterMap id

def packageNameFor (folder : String) : String :=
  Name.identifier (Path.baseName (Path.normal folder)) []

inductive ResolveError where
  | failed (message : String)
  | crashed (crash : Crash)

def withDefaults (settings : Settings) : Except ResolveError Settings :=
  let settings :=
    if settings.folder.isFilled then settings
    else { settings with folder := .text standardFolder }
  if settings.packageName.isFilled then .ok settings
  else
    match settings.folder with
    | .scalar (.text folder) => .ok { settings with packageName := .text (packageNameFor folder) }
    | _ => .error (.crashed .folderNotPath)

def resolve (tree : FileTree) (arguments : Arguments) : Except ResolveError Settings :=
  match Settings.load tree Settings.fileName none with
  | .error (.failure failure) => .error (.failed failure.message)
  | .error (.file failure) => .error (.failed failure.message)
  | .error .undecodable => .error (.crashed .undecodable)
  | .error (.reading error) => .error (.crashed (.reading error))
  | .ok loaded =>
      match (loaded.getD .unset).merge? (argumentValues arguments) with
      | some settings => withDefaults settings
      | none => .error (.crashed .nameNotText)

def saveSettings (session : Session) (settings : Settings) : Session × Ending :=
  let (tree, error) := settings.save session.tree Settings.fileName
  let session := { session with tree := tree }
  match error with
  | none => (session.print ("✅ Создан конфиг файл " ++ Settings.fileName), .exit 0)
  | some (.file failure) => session.failAt failure
  | some (.text error) => (session, .crash (.writing error))

def makePackage (session : Session) (settings : Settings) (source : String) (spec : Value) :
    Session × Except Ending Code.Project :=
  match settings.packageName with
  | .scalar (.text name) =>
      let models :=
        match settings.models with
        | .array items => items.map shownText
        | _ => []
      let generated := Package.generate ⟨name, models, settings.manifestOptions⟩ spec (some source)
      let session := session.addLog generated.log
      match generated.outcome with
      | .ok project => (session, .ok project)
      | .error (.failure failure) =>
          (session.printFailure failure.message, .error (.exit 1))
      | .error (.unknownOption _) => (session, .error (.crash .nameNotText))
      | .error (.manifest error) => (session, .error (.crash (.writing error)))
  -- The name is used only after the document has been accepted.
  | _ =>
      let parsed := Document.parse spec (some source)
      let session := session.addLog parsed.log
      match parsed.outcome with
      | .error failure => (session.printFailure failure.message, .error (.exit 1))
      | .ok _ => (session, .error (.crash .nameNotText))

def generatePackage (world : World) (session : Session) (settings : Settings) :
    Session × Except Ending Code.Project :=
  let session := session.print ("🚀 Генерация клиента из " ++ shownText settings.url)
  let session := session.print "📥 Загрузка OpenAPI спецификации..."
  match settings.url with
  | .scalar (.text source) =>
      match Load.ofSource world.fetch session.tree source with
      | .ok spec =>
          makePackage (session.print "⚙️ Генерация кода...") settings source spec
      | .error (.failure failure) => (session.printFailure failure.message, .error (.exit 1))
      | .error (.file failure) => (session.printFailure failure.message, .error (.exit 1))
      | .error .undecodable => (session, .error (.crash .undecodable))
      | .error .longInteger => (session, .error (.crash .badValue))
      | .error (.value error) => (session, .error (.crash (.value error)))
      | .error .badAddress => (session, .error (.crash .badAddress))
      | .error .badContentType => (session, .error (.crash .badContentType))
      | .error (.charset error) => (session, .error (.crash (.charset error)))
  | _ => (session, .error (.crash .sourceNotText))

inductive Target where
  | new (path : String)
  | present (path : String)
  | stream
  | noPath

def target (tree : FileTree) (folder : Value) : Target :=
  match folder with
  | .scalar (.text path) => if tree.has path then .present path else .new path
  | .scalar (.bool _) => .stream
  | .scalar (.int n) => if 0 ≤ n ∧ n ≤ 2 then .stream else .noPath
  | _ => .noPath

def makeTarget (session : Session) (path : String) : Session × Except Ending String :=
  let (tree, failure) := session.tree.makeFolders .refuse path
  let session := { session with tree := tree }
  match failure with
  | none => (session, .ok path)
  | some failure =>
      let (session, ending) := session.failAt failure
      (session, .error ending)

def prepareTarget (session : Session) (folder : Value) (force : Bool) :
    Session × Except Ending String :=
  let refusal := "Директория " ++ shownText folder ++ " уже существует, используйте --force"
  let removal := "🗑️ Удаление " ++ shownText folder
  match target session.tree folder with
  | .new path => makeTarget session path
  | .present path =>
      if force then
        let session := session.print removal
        let (tree, failure) := session.tree.removeFolder path
        let session := { session with tree := tree }
        match failure with
        | none => makeTarget session path
        | some failure => (session.printFailure failure.message, .error (.exit 1))
      else (session.printFailure refusal, .error (.exit 1))
  | .stream =>
      if force then (session.print removal, .error (.crash .folderNotPath))
      else (session.printFailure refusal, .error (.exit 1))
  | .noPath => (session, .error (.crash .folderNotPath))

def writeFile (folder : String) (tree : FileTree) (file : Code.File) :
    FileTree × Option FileFailure :=
  let path := Path.join folder file.name
  let (made, failure) := tree.makeFolders .accept (Path.split path).1
  match failure with
  | some failure => (made, some failure)
  | none =>
      match made.write path file.render with
      | .ok written => (written, none)
      | .error failure => (made, some failure)

def writeFiles (folder : String) (tree : FileTree) :
    Code.Project → FileTree × Option FileFailure
  | [] => (tree, none)
  | file :: rest =>
      match writeFile folder tree file with
      | (next, none) => writeFiles folder next rest
      | stopped => stopped

section

-- The equation holds whatever a file does to the tree.
attribute [local irreducible] writeFile

theorem writeFiles_cons (folder : String) (tree : FileTree) (file : Code.File)
    (rest : Code.Project) :
    writeFiles folder tree (file :: rest) =
      match writeFile folder tree file with
      | (next, none) => writeFiles folder next rest
      | stopped => stopped := rfl

end

def noHome : String := "[Errno 2] No such file or directory"

def savePackage (world : World) (session : Session) (folder : String) (project : Code.Project) :
    Session × Ending :=
  let session := session.print ("💾 Сохранение " ++ toString project.length ++ " файлов...")
  let (tree, failure) := writeFiles folder session.tree project
  let session := { session with tree := tree }
  match failure with
  | some failure => session.failAt failure
  | none =>
      let session := session.print "✅ Генерация завершена успешно!"
      -- A working directory that has been removed has no path.
      if !Path.isAbsolute folder && tree.home.lost ≠ 0 then session.fail noHome
      else
        let whole := Path.normal (Path.join world.folder folder)
        (session.print ("📦 Клиент создан в: " ++ whole), .exit 0)

/-- Generates a package and writes it to its folder. Nothing is written before the whole package
has been generated. -/
def generate (world : World) (session : Session) (settings : Settings) (force : Bool) :
    Session × Ending :=
  match generatePackage world session settings with
  | (session, .error ending) => (session, ending)
  | (session, .ok project) =>
      -- Only now is the working directory changed.
      match prepareTarget session settings.folder force with
      | (session, .error ending) => (session, ending)
      | (session, .ok folder) => savePackage world session folder project

def noSource : String :=
  "❌ Ошибка: Укажите файл спецификации или создайте конфиг с --init-config"

def perform (world : World) (session : Session) (arguments : Arguments) : Session × Ending :=
  match resolve session.tree arguments with
  | .error (.failed message) => session.fail message
  | .error (.crashed crash) => (session, .crash crash)
  | .ok settings =>
      if arguments.initConfig then saveSettings session settings
      else if !settings.url.isFilled then (session.print noSource, .exit 1)
      else generate world session settings arguments.force

def run (world : World) (tree : FileTree) (words : List String) : Outcome :=
  let start : Session := ⟨tree, "", []⟩
  match parse words with
  | .unusable => ⟨start, .exit 2, false, true⟩
  | .help => ⟨start, .exit 0, false, true⟩
  | .arguments arguments =>
      let (session, ending) := perform world start arguments
      ⟨session, ending, arguments.verbose, false⟩

def Outcome.logLines (outcome : Outcome) : List String :=
  (outcome.session.log.filter fun entry => outcome.verbose || entry.level = .warning).map
    fun entry => entry.level.name ++ " " ++ entry.component.loggerName ++ ": " ++ entry.text

end OpenApiClient.CommandLine
