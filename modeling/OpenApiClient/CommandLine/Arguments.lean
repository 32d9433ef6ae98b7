import OpenApiClient.Entries
import OpenApiClient.Text.Letter
import OpenApiClient.Text.Lines

set_option autoImplicit false

namespace OpenApiClient.CommandLine

inductive Switch where
  | help
  | force
  | initConfig
  | verbose
  deriving DecidableEq

inductive Setting where
  | output
  | packageName
  | packageVersion
  | license
  | description
  | readme
  | documentation
  | repository
  | models
  deriving DecidableEq

inductive Flag where
  | switch (switch : Switch)
  | setting (setting : Setting)
  deriving DecidableEq

def flags : List (String × Flag) :=
  [("-h", .switch .help), ("--help", .switch .help),
    ("-o", .setting .output), ("--output", .setting .output),
    ("-f", .switch .force), ("--force", .switch .force),
    ("--package-name", .setting .packageName), ("--package-version", .setting .packageVersion),
    ("--license", .setting .license), ("--description", .setting .description),
    ("--readme", .setting .readme), ("--documentation", .setting .documentation),
    ("--repository", .setting .repository), ("--models", .setting .models),
    ("--init-config", .switch .initConfig),
    ("-v", .switch .verbose), ("--verbose", .switch .verbose)]

structure Arguments where
  file : Option String
  output : Option String
  packageName : Option String
  packageVersion : Option String
  license : Option String
  description : Option String
  readme : Option String
  documentation : Option String
  repository : Option String
  models : Option (List String)
  force : Bool
  initConfig : Bool
  verbose : Bool

namespace Arguments

def empty : Arguments :=
  { file := none
    output := none
    packageName := none
    packageVersion := none
    license := none
    description := none
    readme := none
    documentation := none
    repository := none
    models := none
    force := false
    initConfig := false
    verbose := false }

def turnOn (arguments : Arguments) : Switch → Arguments
  | .help => arguments
  | .force => { arguments with force := true }
  | .initConfig => { arguments with initConfig := true }
  | .verbose => { arguments with verbose := true }

def assign (arguments : Arguments) (setting : Setting) (value : String) : Arguments :=
  match setting with
  | .output => { arguments with output := some value }
  | .packageName => { arguments with packageName := some value }
  | .packageVersion => { arguments with packageVersion := some value }
  | .license => { arguments with license := some value }
  | .description => { arguments with description := some value }
  | .readme => { arguments with readme := some value }
  | .documentation => { arguments with documentation := some value }
  | .repository => { arguments with repository := some value }
  | .models => { arguments with models := some (arguments.models.getD [] ++ [value]) }

end Arguments

inductive Word where
  | value (text : String)
  | separator
  | option (option : Flag) (short : Bool) (attached : List Char)
  | unknown

def isShortName (name : String) : Bool := name.toList.getD 1 '-' != '-'

/-- A hyphen and a number in digits of any script, with or without a point. A line feed at its end
is not looked at. -/
def isNegativeNumber (cs : List Char) : Bool :=
  let cs := if cs.getLast? = some '\n' then cs.dropLast else cs
  match cs.map Text.asciiDigit with
  | '-' :: digits =>
      let whole := digits.takeWhile Text.isAsciiDigit
      match digits.dropWhile Text.isAsciiDigit with
      | [] => !whole.isEmpty
      | '.' :: fraction => !fraction.isEmpty && fraction.all Text.isAsciiDigit
      | _ => false
  | _ => false

def atEquals (cs : List Char) : List Char × List Char :=
  (cs.takeWhile (· != '='), cs.dropWhile (· != '='))

def candidates (cs : List Char) : List (String × Flag × List Char) :=
  if cs.getD 1 '\x00' == '-' then
    let (name, attached) := atEquals cs
    (flags.filter fun option => name.isPrefixOf option.1.toList).map fun option =>
      (option.1, option.2, attached)
  else
    (flags.filter fun option => option.1.toList == cs.take 2).map fun option =>
      (option.1, option.2, cs.drop 2)

def classify (text : String) : Option Word :=
  let cs := text.toList
  if cs.head? ≠ some '-' then some (.value text)
  else
    match Entries.get? flags text with
    | some option => some (.option option (isShortName text) [])
    | none =>
        if text = "-" then some (.value text)
        else
          let (name, attached) := atEquals cs
          let name := String.ofList name
          match Entries.get? flags name with
          | some option => some (.option option (isShortName name) attached)
          | none =>
              match candidates cs with
              | [(name, option, attached)] => some (.option option (isShortName name) attached)
              | _ :: _ :: _ => none
              -- Without a matching option the word may still be meant as a value.
              | [] =>
                  if isNegativeNumber cs || cs.contains ' ' then some (.value text)
                  else some .unknown

def classifyAll : List String → Option (List Word)
  | [] => some []
  | text :: rest =>
      if text = "--" then some (.separator :: rest.map .value)
      else
        match classify text, classifyAll rest with
        | some word, some more => some (word :: more)
        | _, _ => none

/-- An option with those that are joined to it: switches, and at the end perhaps a setting, with
its value if it is attached, or something that belongs nowhere. -/
structure Cluster where
  switches : List Switch
  setting : Option (Setting × Option String)
  leftOver : Bool

def attachedValue : List Char → Option String
  | [] => none
  | '=' :: rest => some (String.ofList rest)
  | cs => some (String.ofList cs)

/-- Reads the options that are joined behind a short switch. A switch takes no value, and no hyphen
stands between options. -/
def joinedOptions (switch : Switch) : List Char → Option Cluster
  | [] => some ⟨[switch], none, false⟩
  | c :: rest =>
      if c = '=' ∨ c = '-' then none
      else
        match Entries.get? flags (String.ofList ['-', c]) with
        | some (.switch next) =>
            (joinedOptions next rest).map fun cluster =>
              { cluster with switches := switch :: cluster.switches }
        | some (.setting setting) => some ⟨[switch], some (setting, attachedValue rest), false⟩
        | none => some ⟨[switch], none, true⟩

def cluster (option : Flag) (short : Bool) (attached : List Char) : Option Cluster :=
  match option with
  | .setting setting => some ⟨[], some (setting, attachedValue attached), false⟩
  | .switch switch =>
      if attached.isEmpty || short then joinedOptions switch attached else none

inductive Parsed where
  | arguments (arguments : Arguments)
  | help
  | unusable

inductive FileState where
  | missing
  | justGiven
  | given
  deriving DecidableEq

structure Reader where
  arguments : Arguments
  file : FileState
  -- A word that belongs nowhere makes the line unusable, but only at its end.
  leftOver : Bool

namespace Reader

def value (reader : Reader) (text : String) : Reader :=
  if reader.file = .missing then
    { reader with arguments := { reader.arguments with file := some text }, file := .justGiven }
  else { reader with leftOver := true }

def separator (reader : Reader) : Reader :=
  if reader.file = .given then { reader with leftOver := true } else reader

def beforeOption (reader : Reader) : Reader :=
  if reader.file = .justGiven then { reader with file := .given } else reader

def turnOn (reader : Reader) (switches : List Switch) : Reader :=
  { reader with arguments := switches.foldl Arguments.turnOn reader.arguments }

def leave (reader : Reader) (leftOver : Bool) : Reader :=
  { reader with leftOver := reader.leftOver || leftOver }

def assign (reader : Reader) (setting : Setting) (text : String) : Reader :=
  { reader with arguments := reader.arguments.assign setting text }

def read (reader : Reader) : List Word → Parsed
  | [] => if reader.leftOver then .unusable else .arguments reader.arguments
  | .value text :: rest => (reader.value text).read rest
  | .separator :: rest => reader.separator.read rest
  | .unknown :: rest => (reader.beforeOption.leave true).read rest
  | .option option short attached :: rest =>
      match cluster option short attached with
      | none => .unusable
      | some found =>
          -- A missing value is refused even when help is asked for.
          let next := (reader.beforeOption.turnOn found.switches).leave found.leftOver
          match found.setting, rest with
          | none, rest => if found.switches.contains .help then .help else next.read rest
          | some (setting, some text), rest =>
              if found.switches.contains .help then .help else (next.assign setting text).read rest
          | some (setting, none), .value text :: rest =>
              if found.switches.contains .help then .help else (next.assign setting text).read rest
          | some (_, none), _ => .unusable

end Reader

def parse (words : List String) : Parsed :=
  match classifyAll words with
  | none => .unusable
  | some words => Reader.read ⟨.empty, .missing, false⟩ words

end OpenApiClient.CommandLine
