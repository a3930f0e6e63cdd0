import ServiceAtlas.Text.Cut

/-!
# Bare leaves and wildcards

A template may hold leaves between double braces and wildcard keys without quotes. Both are quoted,
line by line, before the text is read as YAML; leaves that stand in quotes already are left alone.
-/
namespace ServiceAtlas.Quoting

/-- A blank or a tab. -/
def isBlank (c : Char) : Bool := c = ' ' || c = '\t'

def isQuote (c : Char) : Bool := c = '\'' || c = '"'

def isBrace (c : Char) : Bool := c = '\x7b'

/-- The blanks at the end of a line. -/
def trail (line : List Char) : List Char := (line.reverse.takeWhile isBlank).reverse

def withoutTrail (line : List Char) : List Char := (line.reverse.dropWhile isBlank).reverse

theorem withoutTrail_append_trail (line : List Char) : withoutTrail line ++ trail line = line := by
  rw [withoutTrail, trail, ← List.reverse_append, List.takeWhile_append_dropWhile,
    List.reverse_reverse]

/-- A single-quoted scalar. -/
def singleQuoted (text : List Char) : List Char :=
  '\'' :: text.flatMap (fun c => if c = '\'' then ['\'', '\''] else [c]) ++ ['\'']

/-- Whether a text goes from two opening to two closing braces. -/
def isLeaf (text : List Char) : Bool :=
  ['\x7b', '\x7b'].isPrefixOf text && ['\x7d', '\x7d'].isSuffixOf text

/-- Quotes the leaf that begins at the first brace of a line and ends the line but for blanks. -/
def quoteLeaf (line : List Char) : List Char :=
  let before := line.takeWhile fun c => !isBrace c
  let rest := line.dropWhile fun c => !isBrace c
  let leaf := withoutTrail rest
  if isLeaf leaf && !before.getLast?.any isQuote then before ++ singleQuoted leaf ++ trail rest
  else line

/-- Quotes a wildcard in front of a colon. -/
def quoteStar : List Char → Option (List Char)
  | '*' :: ':' :: rest => some ('"' :: '*' :: '"' :: ':' :: rest)
  | _ => none

/-- Quotes a wildcard key at the head of a line or of a sequence item. -/
def quoteWildcard (line : List Char) : List Char :=
  let indent := line.takeWhile isBlank
  match line.dropWhile isBlank with
  | '-' :: rest =>
    let gap := rest.takeWhile isBlank
    if gap.isEmpty then line
    else
      match quoteStar (rest.dropWhile isBlank) with
      | some quoted => indent ++ '-' :: gap ++ quoted
      | none => line
  | rest =>
    match quoteStar rest with
    | some quoted => indent ++ quoted
    | none => line

def quoteLine (line : List Char) : List Char := quoteWildcard (quoteLeaf line)

/-- Quotes the bare leaves and wildcard keys of a template. -/
def quote (template : String) : String :=
  String.ofList
    (Text.joinWith ['\n'] ((Text.splitAt '\n' template.toList).map quoteLine))

example : quote "- *: \x7b\x7b it's \x7d\x7d \n" = "- \"*\": '\x7b\x7b it''s \x7d\x7d' \n" := by
  decide +kernel

end ServiceAtlas.Quoting
