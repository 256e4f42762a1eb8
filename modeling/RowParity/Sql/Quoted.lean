/-!
# Quoted names and literals

A quoted text stands between two quote characters, and a quote inside it is written twice. String
literals use the single quote, identifiers the double quote.
-/

namespace RowParity.Sql

/-- The text with every `mark` in it written twice. -/
def doubled (mark : Char) : List Char → List Char
  | [] => []
  | c :: cs => if c = mark then mark :: mark :: doubled mark cs else c :: doubled mark cs

/-- The text between two marks, with the marks inside doubled. -/
def enclosed (mark : Char) (cs : List Char) : List Char :=
  mark :: (doubled mark cs ++ [mark])

/-- The text as it stands inside a string literal. -/
def escaped (s : String) : String :=
  String.ofList (doubled '\x27' s.toList)

def literal (s : String) : String :=
  String.ofList (enclosed '\x27' s.toList)

def identifier (s : String) : String :=
  String.ofList (enclosed '"' s.toList)

end RowParity.Sql
