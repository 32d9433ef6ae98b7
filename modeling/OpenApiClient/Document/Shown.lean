import OpenApiClient.Document.Dump
import OpenApiClient.Decimal.Shortest
import OpenApiClient.Json.Write
import OpenApiClient.Text.Quoted

set_option autoImplicit false

namespace OpenApiClient

/-- A value as it is shown: plain data, a member of the type enumeration, or a record with its
field names. -/
inductive Shown where
  | scalar (s : Scalar)
  | member (type : InstanceType)
  | list (items : List Shown)
  | mapping (entries : List (Shown × Shown))
  | record (name : String) (fields : List (String × Shown))

namespace Shown

abbrev text (s : String) : Shown := .scalar (.text s)
abbrev none : Shown := .scalar .null

def option {α : Type} (view : α → Shown) : Option α → Shown
  | .none => .none
  | some a => view a

def named (fields : List (String × Shown)) : Shown :=
  .mapping (fields.map fun field => (.text field.1, field.2))

mutual

def ofValue : Value → Shown
  | .scalar s => .scalar s
  | .array items => .list (ofValues items)
  | .object entries => .mapping (ofEntries entries)

def ofValues : List Value → List Shown
  | [] => []
  | item :: rest => ofValue item :: ofValues rest

def ofEntries : List (Scalar × Value) → List (Shown × Shown)
  | [] => []
  | (key, value) :: rest => (.scalar key, ofValue value) :: ofEntries rest

end

def zoneText (minutes : Int) : String :=
  if minutes = 0 then "datetime.timezone.utc"
  else
    let days := if minutes < 0 then "days=-1, " else ""
    let seconds := if minutes < 0 then 86400 + minutes * 60 else minutes * 60
    "datetime.timezone(datetime.timedelta(" ++ days ++ "seconds=" ++ toString seconds ++ "))"

def clockParts (clock : Clock) : List String :=
  let seconds :=
    if clock.microsecond ≠ 0 then [toString clock.second, toString clock.microsecond]
    else if clock.second ≠ 0 then [toString clock.second]
    else []
  let zone :=
    match clock.offset with
    | .none => []
    | some minutes => ["tzinfo=" ++ zoneText minutes]
  [toString clock.hour, toString clock.minute] ++ seconds ++ zone

def callText (name : String) (parts : List String) : String :=
  name ++ "(" ++ String.intercalate ", " parts ++ ")"

def timestampText (t : Timestamp) : String :=
  let date := [t.year, t.month, t.day].map toString
  match t.clock with
  | .none => callText "datetime.date" date
  | some clock => callText "datetime.datetime" (date ++ clockParts clock)

def scalarText : Scalar → String
  | .null => "None"
  | .bool b => if b then "True" else "False"
  | .int n => toString n
  | .float x => x.text
  | .text s => Text.quoted s
  | .timestamp t => timestampText t
  | .time clock => callText "datetime.time" (clockParts clock)

def memberText (type : InstanceType) : String :=
  "<InstanceType." ++ type.name.toUpper ++ ": '" ++ type.name ++ "'>"

mutual

def toText : Shown → String
  | .scalar s => scalarText s
  | .member type => memberText type
  | .list items => "[" ++ String.intercalate ", " (itemTexts items) ++ "]"
  | .mapping entries => "\x7b" ++ String.intercalate ", " (entryTexts entries) ++ "\x7d"
  | .record name fields => name ++ "(" ++ String.intercalate ", " (fieldTexts fields) ++ ")"

def itemTexts : List Shown → List String
  | [] => []
  | item :: rest => toText item :: itemTexts rest

def entryTexts : List (Shown × Shown) → List String
  | [] => []
  | (key, value) :: rest => (toText key ++ ": " ++ toText value) :: entryTexts rest

def fieldTexts : List (String × Shown) → List String
  | [] => []
  | (name, value) :: rest => (name ++ "=" ++ toText value) :: fieldTexts rest

end

def texts (list : List String) : Shown := .list (list.map .text)

end Shown

def TypeChoice.shown : TypeChoice → Shown
  | .one t => .member t
  | .several types => .list (types.map .member)

def setShown {α : Type} (name : String) (value : Option α) (view : α → Shown) :
    List (String × Shown) :=
  match value with
  | none => []
  | some a => [(name, view a)]

mutual

def Schema.outline : Schema → Shown
  | ⟨format, type, reference, items, properties, required, title, description, enum⟩ =>
      .named
        (setShown "format" format .text
          ++ setShown "type" type TypeChoice.shown
          ++ setShown "$ref" reference .text
          ++ (match items with
              | none => []
              | some items => [("items", items.outline)])
          ++ (match properties with
              | none => []
              | some properties =>
                  [("properties", .named (Schema.outlineProperties properties))])
          ++ (if required.isEmpty then [] else [("required", Shown.texts required)])
          ++ setShown "title" title .text
          ++ setShown "description" description .text
          ++ setShown "enum" enum (fun members => .list (Shown.ofValues members)))

def Subschema.outline : Subschema → Shown
  | .schema schema => schema.outline
  | .boolean admitted => .scalar (.bool admitted)

def Items.outline : Items → Shown
  | .every item => item.outline
  | .positional items => .list (Items.outlineList items)

def Items.outlineList : List Subschema → List Shown
  | [] => []
  | item :: rest => item.outline :: Items.outlineList rest

def Schema.outlineProperties : List (String × Subschema) → List (String × Shown)
  | [] => []
  | (name, property) :: rest => (name, property.outline) :: Schema.outlineProperties rest

end

mutual

def Schema.shown : Schema → Shown
  | ⟨format, type, reference, items, properties, required, title, description, enum⟩ =>
      .record "Schema"
        [("format", .option .text format),
          ("instance_type", .option TypeChoice.shown type),
          ("reference", .option .text reference),
          ("array_items", match items with
            | none => .none
            | some items => items.shown),
          ("properties", match properties with
            | none => .none
            | some properties => .named (Schema.shownProperties properties)),
          ("required", Shown.texts required),
          ("title", .option .text title),
          ("description", .option .text description),
          ("enum", .option (fun members => .list (Shown.ofValues members)) enum)]

def Subschema.shown : Subschema → Shown
  | .schema schema => schema.shown
  | .boolean admitted => .scalar (.bool admitted)

def Items.shown : Items → Shown
  | .every item => item.shown
  | .positional items => .list (Items.shownList items)

def Items.shownList : List Subschema → List Shown
  | [] => []
  | item :: rest => item.shown :: Items.shownList rest

def Schema.shownProperties : List (String × Subschema) → List (String × Shown)
  | [] => []
  | (name, property) :: rest => (name, property.shown) :: Schema.shownProperties rest

end

def MediaType.shown (media : MediaType) : Shown :=
  .record "MediaType" [("schema_", .option Schema.shown media.schema)]

def Content.shown (content : Content) : Shown :=
  .named (content.map fun entry => (entry.1, entry.2.shown))

def Parameter.shown (parameter : Parameter) : Shown :=
  .record "Parameter"
    [("name", .text parameter.name),
      ("location", .text parameter.location),
      ("required", .scalar (.bool parameter.required)),
      ("description", .option .text parameter.description),
      ("deprecated", .scalar (.bool parameter.deprecated)),
      ("schema_", .option Schema.shown parameter.schema),
      ("content", .option Content.shown parameter.content)]

def RequestBody.shown (body : RequestBody) : Shown :=
  .record "RequestBody"
    [("content", Content.shown body.content),
      ("description", .option .text body.description),
      ("required", .scalar (.bool body.required))]

def Response.shown (response : Response) : Shown :=
  .record "Response"
    [("description", .option .text response.description),
      ("content", Content.shown response.content)]

end OpenApiClient
