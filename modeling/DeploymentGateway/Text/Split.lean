/-!
Cutting a text at a separator: at its first or last occurrence, at all of them, or into lines.
-/

set_option autoImplicit false

namespace DeploymentGateway.Text

/-- What stands before and after the first occurrence of a separator. -/
def splitFirst? (separator : Char) : List Char → Option (List Char × List Char)
  | [] => none
  | c :: rest =>
    if c = separator then some ([], rest)
    else (splitFirst? separator rest).map fun (before, after) => (c :: before, after)

/-- What stands before and after the last occurrence of a separator. -/
def splitLast? (separator : Char) : List Char → Option (List Char × List Char)
  | [] => none
  | c :: rest =>
    match splitLast? separator rest with
    | some (before, after) => some (c :: before, after)
    | none => if c = separator then some ([], rest) else none

/-- The pieces between the characters that satisfy a test; a text without any is one piece. -/
def pieces (separates : Char → Bool) : List Char → List (List Char)
  | [] => [[]]
  | c :: rest =>
    if separates c then [] :: pieces separates rest
    else match pieces separates rest with
      | [] => [[c]]
      | piece :: more => (c :: piece) :: more

/-- The pieces of a text between occurrences of one character. -/
def piecesAt (separator : Char) (s : String) : List String :=
  (pieces (· == separator) s.toList).map String.ofList

/-- The first occurrence of a separator in a text, as the texts around it. -/
def cutFirst? (separator : Char) (s : String) : Option (String × String) :=
  (splitFirst? separator s.toList).map fun (before, after) =>
    (String.ofList before, String.ofList after)

/-- The last occurrence of a separator in a text, as the texts around it. -/
def cutLast? (separator : Char) (s : String) : Option (String × String) :=
  (splitLast? separator s.toList).map fun (before, after) =>
    (String.ofList before, String.ofList after)

/-- What follows the last occurrence of a separator, or the whole text where there is none. -/
def afterLast (separator : Char) (s : String) : String :=
  match cutLast? separator s with
  | some (_, after) => after
  | none => s

/-- A line without the carriage return at its end. -/
def withoutReturn (line : List Char) : List Char :=
  match line.reverse with
  | '\r' :: rest => rest.reverse
  | _ => line

/-- The lines of a text. A line feed ends a line, together with one carriage return before it; what
follows the last line feed is a line too, unless it is empty. -/
def lines (s : String) : List String :=
  let all := pieces (· == '\n') s.toList
  let ended := all.dropLast.map withoutReturn
  let last := all.getLast?.getD []
  (if last.isEmpty then ended else ended ++ [last]).map String.ofList

/-- A text begins with another one. -/
def startsWith (start s : String) : Bool :=
  start.toList.isPrefixOf s.toList

/-- A text ends with another one. -/
def endsWith (ending s : String) : Bool :=
  ending.toList.isSuffixOf s.toList

/-- Texts with a separator between each two of them. -/
def joinWith (separator : String) : List String → String
  | [] => ""
  | [s] => s
  | s :: rest => s ++ separator ++ joinWith separator rest

end DeploymentGateway.Text
