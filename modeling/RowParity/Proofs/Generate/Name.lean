import RowParity.Proofs.Generate.Table
import RowParity.Proofs.Number.Numeral

/-!
# Names of generated tables

The ordinal, the time and the number of the run can be told from the name of a generated table, so
tables that differ in one of them have different names, also up to the case of letters
(`equalIgnoringCase_tableName_iff`). A table that is read from its own definition is the generated
one; a time before 1970 puts a minus into the name, and then the definition is not read at all
(`readBack_table`).
-/

namespace RowParity.Generate

open Number

variable (i : Nat) (millis : Int) (runId : Nat)

theorem toList_tableName :
    (tableName i millis runId).toList =
      't' :: (Nat.toDigits 10 i ++ '_' :: ((toString millis).toList ++ '_' ::
        Nat.toDigits 10 runId)) := by
  have hopening : "t".toList = ['t'] := rfl
  have hjoint : "_".toList = ['_'] := rfl
  simp only [tableName, String.toList_append, toList_toString, hopening, hjoint, List.append_assoc,
    List.cons_append, List.nil_append]

/-! ## Characters -/

/-- The characters of such a name: letters and digits as they are, and nothing that has a case. -/
def IsNameMark (c : Char) : Prop :=
  c.isDigit = true ∨ c = 't' ∨ c = '_' ∨ c = '-'

theorem isNameMark_tableName : ∀ c ∈ (tableName i millis runId).toList, IsNameMark c := by
  have hdigits (n : Nat) : ∀ c ∈ Nat.toDigits 10 n, IsNameMark c :=
    fun c hc => .inl ((toDigits_isNumeral n).digits c hc)
  have hmillis : ∀ c ∈ (toString millis).toList, IsNameMark c :=
    fun c hc => (isDigit_or_minus hc).imp_right fun hminus => .inr (.inr hminus)
  rw [toList_tableName]
  refine List.forall_mem_cons.2 ⟨.inr (.inl rfl), List.forall_mem_append.2 ⟨hdigits i, ?_⟩⟩
  refine List.forall_mem_cons.2 ⟨.inr (.inr (.inl rfl)), List.forall_mem_append.2 ⟨hmillis, ?_⟩⟩
  exact List.forall_mem_cons.2 ⟨.inr (.inr (.inl rfl)), hdigits runId⟩

theorem toLower_of_isDigit {c : Char} (h : c.isDigit = true) : c.toLower = c := by
  have hcode := Char.isDigit_iff_toNat.1 h
  refine dif_neg fun hupper => ?_
  have hle : 'A'.val.toNat ≤ c.val.toNat := hupper.1
  change 48 ≤ c.toNat ∧ c.toNat ≤ 57 at hcode
  change 65 ≤ c.toNat at hle
  omega

theorem IsNameMark.toLower_eq {c : Char} (h : IsNameMark c) : c.toLower = c := by
  rcases h with h | rfl | rfl | rfl
  · exact toLower_of_isDigit h
  · decide
  · decide
  · decide

theorem IsNameMark.isBlank_eq {c : Char} (h : IsNameMark c) : Text.isBlank c = false := by
  rcases h with h | rfl | rfl | rfl
  · exact Sql.isBlank_of_isWordChar (Sql.isWordChar_of_isDigit h)
  · decide
  · decide
  · decide

/-- A name of a generated table has no capital letters. -/
theorem asciiFold_tableName :
    Text.asciiFold (tableName i millis runId) = (tableName i millis runId).toList :=
  (List.map_congr_left fun c hc => (isNameMark_tableName i millis runId c hc).toLower_eq).trans
    (List.map_id' _)

/-- A name that is that of a generated table up to the case of letters has no blanks. -/
theorem blank_not_mem {name : String} {i : Nat} {millis : Int} {runId : Nat}
    (h : Text.equalIgnoringCase name (tableName i millis runId) = true) : ' ' ∉ name.toList := by
  intro hblank
  have hfold := eq_of_beq h
  rw [asciiFold_tableName] at hfold
  have hmem : ' ' ∈ Text.asciiFold name := List.mem_map.2 ⟨' ', hblank, by decide⟩
  rw [hfold] at hmem
  exact absurd (isNameMark_tableName _ _ _ _ hmem).isBlank_eq (by decide)

/-! ## Different names -/

/-- The mark between the parts of a name. -/
def isJoint (c : Char) : Bool :=
  c = '_'

theorem isJoint_of_isDigit {c : Char} (h : c.isDigit = true) : isJoint c = false := by
  rw [isJoint, decide_eq_false_iff_not]
  rintro rfl
  cases h

/-- No part of a name holds a joint, so the joints tell where its parts end. -/
theorem splitWhere_tableName :
    Text.splitWhere isJoint (tableName i millis runId).toList =
      ['t' :: Nat.toDigits 10 i, (toString millis).toList, Nat.toDigits 10 runId] := by
  have hjoint : isJoint '_' = true := by decide
  have hdigits (n : Nat) : ∀ c ∈ Nat.toDigits 10 n, isJoint c = false :=
    fun c hc => isJoint_of_isDigit ((toDigits_isNumeral n).digits c hc)
  have hopening : ∀ c ∈ 't' :: Nat.toDigits 10 i, isJoint c = false :=
    List.forall_mem_cons.2 ⟨by decide, hdigits i⟩
  have hmillis : ∀ c ∈ (toString millis).toList, isJoint c = false := by
    intro c hc
    rcases isDigit_or_minus hc with hdigit | rfl
    · exact isJoint_of_isDigit hdigit
    · decide
  rw [toList_tableName, ← List.cons_append, Text.splitWhere_append_cut hopening hjoint,
    Text.splitWhere_append_cut hmillis hjoint, Text.splitWhere_whole (hdigits runId)]

variable {i millis runId}

theorem tableName_injective {j : Nat} {millis' : Int} {runId' : Nat}
    (h : tableName i millis runId = tableName j millis' runId') :
    i = j ∧ millis = millis' ∧ runId = runId' := by
  have hparts := congrArg (fun name => Text.splitWhere isJoint name.toList) h
  simp only [splitWhere_tableName, List.cons.injEq, true_and, and_true] at hparts
  obtain ⟨hordinal, hmillis, hrunId⟩ := hparts
  exact ⟨toDigits_injective hordinal, toString_injective hmillis, toDigits_injective hrunId⟩

/-- Names that are equal up to the case of letters have the same parts. -/
theorem equalIgnoringCase_tableName_iff {j : Nat} {millis' : Int} {runId' : Nat} :
    Text.equalIgnoringCase (tableName i millis runId) (tableName j millis' runId') = true ↔
      i = j ∧ millis = millis' ∧ runId = runId' := by
  constructor
  · intro h
    have hfold := eq_of_beq h
    rw [asciiFold_tableName, asciiFold_tableName] at hfold
    exact tableName_injective (String.toList_injective hfold)
  · rintro ⟨rfl, rfl, rfl⟩
    exact beq_self_eq_true _

/-! ## Definitions -/

theorem isWordChar_toDigits (n : Nat) : ∀ c ∈ Nat.toDigits 10 n, Sql.isWordChar c = true :=
  fun c hc => Sql.isWordChar_of_isDigit ((toDigits_isNumeral n).digits c hc)

/-- The name as far as its first underscore. -/
theorem isPlain_opening (i : Nat) :
    Sql.isPlain ('t' :: (Nat.toDigits 10 i ++ ['_'])) = true := by
  have hchars : ∀ c ∈ Nat.toDigits 10 i ++ ['_'], Sql.isWordChar c = true :=
    List.forall_mem_append.2 ⟨isWordChar_toDigits i, List.forall_mem_singleton.2 (by decide)⟩
  rw [Sql.isPlain, List.all_eq_true.2 hchars]
  decide

theorem isPlain_tableName_natCast (i n runId : Nat) :
    Sql.isPlain (tableName i (n : Int) runId).toList = true := by
  have hchars : ∀ c ∈ Nat.toDigits 10 i ++ '_' :: (Nat.toDigits 10 n ++ '_' ::
      Nat.toDigits 10 runId), Sql.isWordChar c = true := by
    simp only [List.forall_mem_append, List.forall_mem_cons]
    exact ⟨isWordChar_toDigits i, by decide, isWordChar_toDigits n, by decide,
      isWordChar_toDigits runId⟩
  rw [toList_tableName, toList_toString_natCast, Sql.isPlain, List.all_eq_true.2 hchars]
  decide

/-- What is read back of a generated table's definition, or the table itself, is that table. -/
theorem readBack_table (i : Nat) (millis : Int) (runId : Nat) (source : Random.Source) :
    (Table.ofCreateStatement? (table (tableName i millis runId) source).1.createStatement).getD
        (table (tableName i millis runId) source).1 =
      (table (tableName i millis runId) source).1 := by
  cases millis with
  | ofNat n =>
    have hplain := isPlain_tableName_natCast i n runId
    have hread := (table_isPlainlyDefined hplain source).isReadable
    rw [Int.ofNat_eq_natCast, Table.ofCreateStatement?_createStatement hread, Option.getD_some]
  | negSucc n =>
    have hname := (table_isGenerated (tableName i (Int.negSucc n) runId) source).1
    generalize (table (tableName i (Int.negSucc n) runId) source).1 = generated at hname
    have hunread : Table.ofCreateStatement? generated.createStatement = none := by
      have hopening : Sql.isTableName ('t' :: (Nat.toDigits 10 i ++ ['_'])) = true :=
        Sql.isTableName_of_isPlain (isPlain_opening i)
      have hhead := Sql.readHead?_minus hopening (Nat.toDigits 10 (n + 1) ++ '_' ::
        Nat.toDigits 10 runId ++ " (".toList ++ ([',', ' '].intercalate
          (generated.columns.map fun column => column.definition.toList) ++ [')']))
      rw [Table.ofCreateStatement?, Table.toList_createStatement, hname, toList_tableName,
        toList_toString_negSucc]
      simp only [List.append_assoc, List.cons_append, List.nil_append] at hhead ⊢
      rw [Sql.readTable?, hhead]
      rfl
    rw [hunread, Option.getD_none]

end RowParity.Generate
