import RowParity.Generate.Table
import RowParity.Proofs.Random.Range
import RowParity.Proofs.Sql.Definition

/-!
# Generated tables

Every column of a generated table has a plain name and one of the supported types, so the definition
of the table is read back as it was generated.
-/

namespace RowParity

namespace Generate

/-- A column with a plain name and a supported type. -/
structure IsGenerated (column : Column) : Prop where
  name : Sql.isPlain column.name.toList = true
  type : column.declaredType ∈ supportedTypes
  sorted : column.semanticType = .ofDeclared column.declaredType

theorem isGenerated_declared {name type : String} (hname : Sql.isPlain name.toList = true)
    (htype : type ∈ supportedTypes) : IsGenerated (Column.declared name type) := by
  refine ⟨hname, htype, ?_⟩
  rw [Column.declared]

theorem IsGenerated.notNullIf {column : Column} (h : IsGenerated column) (flag : Bool) :
    IsGenerated (column.notNullIf flag) := by
  cases flag with
  | true => exact ⟨h.name, h.type, h.sorted⟩
  | false => exact h

theorem isPlain_columnName (i : Nat) : Sql.isPlain (columnName i).toList = true := by
  have hdigits : ∀ c ∈ (toString i).toList, Sql.isWordChar c = true := by
    intro c hc
    rw [Nat.toString_eq_repr, Nat.toList_repr] at hc
    exact Sql.isWordChar_of_isDigit (Nat.isDigit_of_mem_toDigits (by decide) (by decide) hc)
  have htext : (columnName i).toList = 'c' :: (toString i).toList := by
    rw [columnName, String.toList_append]
    rfl
  rw [htext, Sql.isPlain, List.all_eq_true.2 hdigits]
  decide

theorem identityColumn_isGenerated : IsGenerated identityColumn :=
  ⟨by decide, by decide, rfl⟩

theorem furtherColumn_eq (i : Nat) (source : Random.Source) :
    (furtherColumn i source).1 =
      (Column.declared (columnName i)
        ((Random.choose supportedTypes source).1.getD "INTEGER")).notNullIf
          (Random.coin (Random.choose supportedTypes source).2).1 :=
  rfl

theorem furtherColumn_isGenerated (i : Nat) (source : Random.Source) :
    IsGenerated (furtherColumn i source).1 := by
  have htype : (Random.choose supportedTypes source).1.getD "INTEGER" ∈ supportedTypes := by
    cases hchosen : (Random.choose supportedTypes source).1 with
    | none => decide
    | some type => exact Random.choose_mem hchosen
  rw [furtherColumn_eq]
  exact (isGenerated_declared (isPlain_columnName i) htype).notNullIf _

theorem furtherColumns_isGenerated (n i : Nat) (source : Random.Source) :
    ∀ column ∈ (furtherColumns n i source).1, IsGenerated column := by
  induction n generalizing i source with
  | zero => exact fun _ hcolumn => absurd hcolumn List.not_mem_nil
  | succ n ih =>
    exact List.forall_mem_cons.2 ⟨furtherColumn_isGenerated i source, ih (i + 1) _⟩

theorem table_columns (name : String) (source : Random.Source) :
    ∃ others, (table name source).1 = .plain name (identityColumn :: others) ∧
      ∀ column ∈ others, IsGenerated column :=
  ⟨_, rfl, furtherColumns_isGenerated _ 0 _⟩

theorem table_isGenerated (name : String) (source : Random.Source) :
    (table name source).1.name = name ∧ (table name source).1.columns ≠ [] ∧
      ∀ column ∈ (table name source).1.columns, IsGenerated column := by
  obtain ⟨others, htable, hothers⟩ := table_columns name source
  rw [htable]
  exact ⟨rfl, List.cons_ne_nil _ _,
    List.forall_mem_cons.2 ⟨identityColumn_isGenerated, hothers⟩⟩

/-! ## Definitions -/

theorem supportedTypes_plain : ∀ type ∈ supportedTypes, type ≠ "" ∧
    Sql.isNested 0 type.toList = true ∧ Text.IsSolid type.toList := by
  decide

theorem IsGenerated.isPlainlyDeclared {column : Column} (h : IsGenerated column) :
    column.IsPlainlyDeclared := by
  obtain ⟨hne, hnested, hsolid⟩ := supportedTypes_plain column.declaredType h.type
  have htrimmed : Text.trimmed column.declaredType = column.declaredType := by
    rw [Text.trimmed, hsolid.isTight.trim_eq, String.ofList_toList]
  exact ⟨by simpa using (Sql.isPlain_isWord h.name).ne_nil, Sql.isPlain_chars h.name, hne,
    htrimmed, hnested, fun _ => Sql.not_endsInNotNull_of_isSolid hsolid, h.sorted⟩

theorem table_isPlainlyDefined {name : String} (h : Sql.isPlain name.toList = true)
    (source : Random.Source) : (table name source).1.IsPlainlyDefined := by
  obtain ⟨others, htable, hothers⟩ := table_columns name source
  rw [htable]
  refine ⟨h, List.cons_ne_nil _ _, ?_, rfl⟩
  exact List.forall_mem_cons.2 ⟨identityColumn_isGenerated.isPlainlyDeclared,
    fun column hcolumn => (hothers column hcolumn).isPlainlyDeclared⟩

/-- **Definitions are read back.** A table without indexes whose columns are plainly declared is
read from the statement that creates it, and so is every generated table. -/
theorem createStatement_read_back :
    (∀ table : Table, table.IsPlainlyDefined →
      Table.ofCreateStatement? table.createStatement = some table) ∧
    ∀ (name : String) (source : Random.Source), Sql.isPlain name.toList = true →
      Table.ofCreateStatement? (table name source).1.createStatement =
        some (table name source).1 := by
  constructor
  · intro table htable
    exact Table.ofCreateStatement?_createStatement htable.isReadable
  · intro name source hname
    exact Table.ofCreateStatement?_createStatement (table_isPlainlyDefined hname source).isReadable

/-- A table with a comma in a type, and with a type that ends in `NOT NULL` itself. -/
def priceTable : Table :=
  .plain "Prices_1"
    [.declared "price" "DECIMAL(10,2)", (Column.declared "note" "text not null").notNull]

theorem createStatement_read_back_priceTable :
    priceTable.IsPlainlyDefined ∧
      Table.ofCreateStatement? priceTable.createStatement = some priceTable ∧
      Sql.isPlain "t0_1_2".toList = true ∧
      Table.ofCreateStatement? (table "t0_1_2" (.ofSeed 7)).1.createStatement =
        some (table "t0_1_2" (.ofSeed 7)).1 := by
  have hprice : (Column.declared "price" "DECIMAL(10,2)").IsPlainlyDeclared := by
    refine ⟨by decide, Sql.isPlain_chars (by decide), by decide, by decide, by decide,
      fun _ => ?_, ?_⟩
    · exact Sql.not_endsInNotNull_of_isSolid (by decide)
    · rw [Column.declared]
  have hnote : (Column.declared "note" "text not null").notNull.IsPlainlyDeclared := by
    refine ⟨by decide, Sql.isPlain_chars (by decide), by decide, by decide, by decide,
      fun h => ?_, ?_⟩
    · cases h
    · rw [Column.notNull, Column.declared]
  have hdefined : priceTable.IsPlainlyDefined :=
    ⟨by decide, by decide, by simp [priceTable, Table.plain, hprice, hnote], rfl⟩
  have hname : Sql.isPlain "t0_1_2".toList = true := by decide
  exact ⟨hdefined, createStatement_read_back.1 priceTable hdefined, hname,
    createStatement_read_back.2 "t0_1_2" (.ofSeed 7) hname⟩

end Generate

end RowParity
