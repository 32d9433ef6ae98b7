import OpenApiClient.Yaml.Cursor

set_option autoImplicit false

namespace OpenApiClient.Yaml

structure WrittenTag where
  handle : Option String
  rest : String

/-- What a line before a document says: the version of the format, what a handle of tags stands for,
or something without a meaning. -/
inductive Directive where
  | version
  | handle (handle stem : String)
  | other

inductive Token where
  | directive (directive : Directive)
  | documentStart
  | documentEnd
  | blockSequenceStart
  | blockMappingStart
  | blockEnd
  | flowSequenceStart
  | flowSequenceEnd
  | flowMappingStart
  | flowMappingEnd
  | blockEntry
  | flowEntry
  | key
  | value
  | alias (name : String)
  | anchor (name : String)
  | tag (tag : WrittenTag)
  | scalar (text : String) (plain : Bool)
  -- From here on the text cannot be read.
  | unreadable (error : ReadError)

end OpenApiClient.Yaml
