import RowParity.Catalog.Table

/-!
# Schemas

A schema is a snapshot of the tables of a database. A new reading replaces it as a whole. Its
`shape` keeps the names of tables and columns and forgets their order.
-/

namespace RowParity

/-- The tables of a database at one moment. -/
structure Schema where
  tables : List Table
  deriving DecidableEq, Repr

namespace Schema

def empty : Schema := ⟨[]⟩

def isEmpty (schema : Schema) : Bool :=
  schema.tables.isEmpty

def size (schema : Schema) : Nat :=
  schema.tables.length

/-- The first table of that name, up to the case of ASCII letters. -/
def table? (schema : Schema) (name : String) : Option Table :=
  schema.tables.find? fun table => Text.equalIgnoringCase table.name name

def anyTable (schema : Schema) : Draw (Option Table) :=
  Random.choose schema.tables

/-- Whether one name stands before or with another in the order by code points. -/
def nameLE (a b : String) : Bool :=
  decide (a ≤ b)

/-- The order of name lists, word by word. -/
def namesLE : List String → List String → Bool
  | [], _ => true
  | _ :: _, [] => false
  | a :: as, b :: bs => if a = b then namesLE as bs else nameLE a b

/-- The order of tables in a shape: by name, then by the names of the columns. -/
def entryLE (a b : String × List String) : Bool :=
  if a.1 = b.1 then namesLE a.2 b.2 else nameLE a.1 b.1

/-- The name of a table with the sorted names of its columns. -/
def entry (table : Table) : String × List String :=
  (table.name, table.columnNames.mergeSort nameLE)

/-- The names of tables and columns in sorted order. -/
def shape (schema : Schema) : List (String × List String) :=
  (schema.tables.map entry).mergeSort entryLE

end Schema

end RowParity
