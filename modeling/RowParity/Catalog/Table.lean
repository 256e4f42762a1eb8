import RowParity.Catalog.SemanticType
import RowParity.Random.Source

/-!
# Tables

A table is a name, its columns in order and the names of its indexes. The declared text of a column
is kept as it is, beside the semantic type it was sorted into.
-/

namespace RowParity

structure Column where
  name : String
  declaredType : String
  semanticType : SemanticType
  nullable : Bool
  deriving DecidableEq, Repr

namespace Column

/-- A nullable column whose type is read off its declaration. -/
def declared (name declaredType : String) : Column :=
  ⟨name, declaredType, .ofDeclared declaredType, true⟩

def notNull (column : Column) : Column :=
  { column with nullable := false }

def notNullIf (flag : Bool) (column : Column) : Column :=
  if flag then column.notNull else column

theorem notNullIf_declared (name declaredType : String) (flag : Bool) :
    (declared name declaredType).notNullIf flag =
      ⟨name, declaredType, .ofDeclared declaredType, !flag⟩ := by
  cases flag with
  | true => rfl
  | false => rfl

def definition (column : Column) : String :=
  column.name ++ " " ++ column.declaredType ++ if column.nullable then "" else " NOT NULL"

end Column

structure Table where
  name : String
  columns : List Column
  indexes : List String
  deriving DecidableEq, Repr

namespace Table

def plain (name : String) (columns : List Column) : Table :=
  ⟨name, columns, []⟩

def columnNames (table : Table) : List String :=
  table.columns.map Column.name

/-- The first column of that name, up to the case of ASCII letters. -/
def column? (table : Table) (name : String) : Option Column :=
  table.columns.find? fun column => Text.equalIgnoringCase column.name name

/-- The column that queries read: the first numeric one, else the first. -/
def queryColumn? (table : Table) : Option Column :=
  (table.columns.find? (·.semanticType.isNumeric)).or table.columns.head?

def anyColumn (table : Table) : Draw (Option Column) :=
  Random.choose table.columns

def createStatement (table : Table) : String :=
  "CREATE TABLE " ++ table.name ++ " (" ++
    String.intercalate ", " (table.columns.map Column.definition) ++ ")"

end Table

end RowParity
