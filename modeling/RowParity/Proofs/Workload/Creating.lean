import RowParity.Proofs.Generate.Insert
import RowParity.Proofs.Workload.Filling

/-!
# Tables as they are created

Whatever the random source gives, a generated table is regular: an identity column and one to four
columns of supported types, under names that differ in more than the case of letters
(`Generate.table_isRegular`). From a name that no time before 1970 has spoilt it is read back from
its definition, so filling a database goes on with the tables that it has generated
(`Action.tables_regular`).
-/

namespace RowParity

namespace Generate

open Number

/-- What a generated table is like, whatever was drawn. -/
structure IsRegular (name : String) (table : Table) : Prop where
  name_eq : table.name = name
  indexes_eq : table.indexes = []
  count : 2 ≤ table.columns.length ∧ table.columns.length ≤ 5
  nodup : table.columnNames.Nodup
  /-- Names do not differ in the case of letters only. -/
  distinct : table.columnNames.Pairwise fun a b => Text.equalIgnoringCase a b = false
  /-- The first column identifies a row; all others have supported types. -/
  leading : ∃ first others, table.columns = first :: others ∧ first.name = "id" ∧
    first.declaredType = "INTEGER" ∧ first.nullable = false ∧
    ∀ column ∈ others, column.declaredType ∈ supportedTypes
  sorted : ∀ column ∈ table.columns, column.semanticType = .ofDeclared column.declaredType
  small : ∀ column ∈ table.columns, column.semanticType ≠ .blob ∧ column.semanticType ≠ .clob

/-! ## Names of columns -/

theorem toList_columnName (i : Nat) : (columnName i).toList = 'c' :: Nat.toDigits 10 i := by
  rw [columnName, String.toList_append, toList_toString]
  rfl

theorem asciiFold_columnName (i : Nat) :
    Text.asciiFold (columnName i) = 'c' :: Nat.toDigits 10 i := by
  have hdigits : (Nat.toDigits 10 i).map Char.toLower = Nat.toDigits 10 i :=
    (List.map_congr_left fun c hc => toLower_of_isDigit ((toDigits_isNumeral i).digits c hc)).trans
      (List.map_id' _)
  rw [Text.asciiFold, toList_columnName, List.map_cons, hdigits]
  rfl

theorem eq_of_equalIgnoringCase_columnName {i j : Nat}
    (h : Text.equalIgnoringCase (columnName i) (columnName j) = true) : i = j := by
  have hfold := eq_of_beq h
  rw [asciiFold_columnName, asciiFold_columnName] at hfold
  exact toDigits_injective (List.cons.inj hfold).2

theorem identityName_ne_columnName (i : Nat) :
    Text.equalIgnoringCase identityName (columnName i) = false := by
  refine Bool.eq_false_iff.2 fun h => ?_
  have hfold := eq_of_beq h
  rw [asciiFold_columnName] at hfold
  exact absurd (List.cons.inj hfold).1 (by decide)

theorem furtherColumns_names (n i : Nat) (source : Random.Source) :
    (furtherColumns n i source).1.map Column.name = (List.range' i n).map columnName := by
  induction n generalizing i source with
  | zero => rfl
  | succ n ih =>
    have hfirst : (furtherColumn i source).1.name = columnName i := by
      rw [furtherColumn_eq, Column.notNullIf_declared]
    rw [List.range'_succ, List.map_cons, ← hfirst, ← ih (i + 1) (furtherColumn i source).2]
    rfl

/-- The columns of a generated table with so many further columns. -/
def columnNamesUpTo (n : Nat) : List String :=
  identityName :: (List.range' 0 n).map columnName

theorem columnNamesUpTo_distinct (n : Nat) :
    (columnNamesUpTo n).Pairwise fun a b => Text.equalIgnoringCase a b = false := by
  refine List.pairwise_cons.2 ⟨List.forall_mem_map.2 fun j _ => identityName_ne_columnName j, ?_⟩
  refine List.Pairwise.map _ (fun j k hne => ?_) List.nodup_range'
  exact Bool.eq_false_iff.2 (mt eq_of_equalIgnoringCase_columnName hne)

/-! ## Regular tables -/

/-- An identity column, and one to four further columns. -/
theorem table_eq (name : String) (source : Random.Source) :
    ∃ n source', 1 ≤ n ∧ n ≤ 4 ∧ (table name source).1 =
      .plain name (identityColumn :: (furtherColumns n 0 source').1) := by
  have hcount := Random.int32In_mem (a := 1) (b := 4) (by decide) (by decide) source
  exact ⟨(Random.int32In 1 4 source).1.toNat, (Random.int32In 1 4 source).2, by omega, by omega,
    rfl⟩

/-- **Generated tables are regular**, whatever was drawn. -/
theorem table_isRegular (name : String) (source : Random.Source) :
    IsRegular name (table name source).1 := by
  obtain ⟨-, -, hgenerated⟩ := table_isGenerated name source
  obtain ⟨n, source', hleast, hmost, htable⟩ := table_eq name source
  have hothers := furtherColumns_isGenerated n 0 source'
  have hnames : (table name source).1.columnNames = columnNamesUpTo n := by
    rw [htable, columnNamesUpTo, ← furtherColumns_names n 0 source']
    rfl
  have hlength := congrArg List.length hnames
  rw [Table.columnNames, columnNamesUpTo, List.length_map, List.length_cons, List.length_map,
    List.length_range'] at hlength
  have hdistinct := columnNamesUpTo_distinct n
  rw [← hnames] at hdistinct
  refine ⟨by rw [htable]; rfl, by rw [htable]; rfl, by omega, Text.nodup_of_distinct hdistinct,
    hdistinct, ⟨identityColumn, _, by rw [htable]; rfl, rfl, rfl, rfl, fun column hcolumn =>
      (hothers column hcolumn).type⟩, fun column hcolumn => (hgenerated column hcolumn).sorted,
    fun column hcolumn => ?_⟩
  rw [(hgenerated column hcolumn).sorted]
  exact supportedTypes_small _ (hgenerated column hcolumn).type

end Generate

namespace Action

/-- **Generated tables are well-formed.** Every generated table is regular. Under a name with a time
from 1970 on it is plainly defined, so it is read back from its definition. Whatever the executor
answers, the tables that filling a database goes on with are those that were generated and whose
definitions, sent in order, were accepted. -/
theorem tables_regular :
    (∀ (name : String) (source : Random.Source),
      Generate.IsRegular name (Generate.table name source).1) ∧
    (∀ (ordinal : Nat) (millis : Int) (runId : Nat) (source : Random.Source), 0 ≤ millis →
      let name := Generate.tableName ordinal millis runId
      let table := (Generate.table name source).1
      Sql.isPlain name.toList = true ∧ table.IsPlainlyDefined ∧
        Table.ofCreateStatement? table.createStatement = some table) ∧
    ∀ (σ : Type) (x : Executor σ) (millis : Int) (runId n i : Nat) (s s' : Session σ)
      (created : List Table), createTables x millis runId n i s = .ok created s' →
        ∃ creations : List Creation,
          List.Forall₂ (Creation.IsGenerated millis runId) (List.range' i n) creations ∧
            created = Creation.accepted creations ∧
              s'.statements = s.statements ++ creations.map (·.table.createStatement) := by
  refine ⟨Generate.table_isRegular, ?_, ?_⟩
  · intro ordinal millis runId source hmillis name table
    obtain ⟨n, rfl⟩ := Int.eq_ofNat_of_zero_le hmillis
    have hplain : Sql.isPlain name.toList = true :=
      Generate.isPlain_tableName_natCast ordinal n runId
    have hdefined : table.IsPlainlyDefined := Generate.table_isPlainlyDefined hplain source
    exact ⟨hplain, hdefined, Table.ofCreateStatement?_createStatement hdefined.isReadable⟩
  · intro σ x millis runId n i s s' created hrun
    obtain ⟨trials, ⟨creations, rfl, hcreated⟩, hcourse⟩ :=
      (createTables_tries x s.schema millis runId n i).of_ok hrun
    refine ⟨creations, hcreated.generated, hcreated.accepted_eq, ?_⟩
    rw [hcourse.sends_trials.statements_eq, List.map_map]
    rfl

/-- Three tables are generated, and the engine takes two of them. -/
theorem tables_regular_fitful :
    0 ≤ (1700000000000 : Int) ∧
      Table.ofCreateStatement? (Generate.table "t3_1700000000000_42" (.ofSeed 7)).1.createStatement =
        some (Generate.table "t3_1700000000000_42" (.ofSeed 7)).1 ∧
      ∃ created s' creations,
        createTables fitful 1700000000000 42 3 0 (.start ⟨true, {}, #[]⟩ 7) = .ok created s' ∧
          created.length = 2 ∧ created = Creation.accepted creations ∧
            s'.statements = creations.map (·.table.createStatement) := by
  obtain ⟨-, hread, hcreated⟩ := tables_regular
  have hmillis : 0 ≤ (1700000000000 : Int) := by decide
  have hname : Generate.tableName 3 1700000000000 42 = "t3_1700000000000_42" := by decide +kernel
  obtain ⟨-, -, hback⟩ := hread 3 1700000000000 42 (.ofSeed 7) hmillis
  rw [hname] at hback
  have htwo : ((createTables fitful 1700000000000 42 3 0).result
      (.start ⟨true, {}, #[]⟩ 7)).1.toOption.map List.length = some 2 := by decide +kernel
  cases hrun : createTables fitful 1700000000000 42 3 0 (.start ⟨true, {}, #[]⟩ 7) with
  | error e s' =>
    rw [result_error hrun] at htwo
    cases htwo
  | ok created s' =>
    rw [result_ok hrun] at htwo
    obtain ⟨creations, -, haccepted, hsent⟩ := hcreated _ _ _ _ _ _ _ _ _ hrun
    exact ⟨hmillis, hback, created, s', creations, rfl, Option.some.inj htwo, haccepted, hsent⟩

end Action

end RowParity
