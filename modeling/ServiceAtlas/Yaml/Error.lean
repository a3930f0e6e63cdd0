import ServiceAtlas.Text.Utf8

/-! What can be wrong with a YAML text. -/
namespace ServiceAtlas.Yaml

inductive Error where
  | encoding (fault : Text.Utf8Fault)
  | controlCharacter (c : Char)
  | unknownCharacter (c : Char)
  | misplaced (indicator : Char)
  | missingColon
  | unexpectedColon
  | directive
  | version
  | duplicateDirective
  | undefinedHandle (handle : String)
  | anchorName
  | unknownAnchor (name : String)
  | tag
  | blockHeader
  | tabIndentation
  | documentMarkInQuotes
  | unclosedQuotes
  | escape
  | expected (what : String)
  | severalDocuments
  | duplicateKey
  | nestedTooDeep
  | tooManyAliases
  | integerTooLarge
  | wrongType (what : String)
  | missingField (name : String)
  | duplicateField (name : String)
deriving DecidableEq, Repr

def Error.message : Error → String
  | .encoding fault => fault.message
  | .controlCharacter _ => "control characters are not allowed"
  | .unknownCharacter c => s!"no token can start with '{c}'"
  | .misplaced indicator => s!"'{indicator}' is not allowed here"
  | .missingColon => "could not find the ':' of a key"
  | .unexpectedColon => "':' runs into an indicator"
  | .directive => "malformed directive"
  | .version => "unknown version of the language"
  | .duplicateDirective => "duplicate directive"
  | .undefinedHandle handle => s!"undefined tag handle '{handle}'"
  | .anchorName => "malformed anchor or alias"
  | .unknownAnchor name => s!"unknown anchor '{name}'"
  | .tag => "malformed tag"
  | .blockHeader => "malformed head of a block scalar"
  | .tabIndentation => "a tab stands where indentation is expected"
  | .documentMarkInQuotes => "a document mark stands inside quotes"
  | .unclosedQuotes => "the text ends inside quotes"
  | .escape => "malformed escape sequence"
  | .expected what => s!"expected {what}"
  | .severalDocuments => "the text holds more than one document"
  | .duplicateKey => "duplicate key in a mapping"
  | .nestedTooDeep => "nested too deep"
  | .tooManyAliases => "too many aliases"
  | .integerTooLarge => "integer too large"
  | .wrongType what => s!"expected {what}"
  | .missingField name => s!"missing field '{name}'"
  | .duplicateField name => s!"duplicate field '{name}'"

end ServiceAtlas.Yaml
