import RowParity.Proofs.Generate.Origin
import RowParity.Proofs.Workload.Filling

/-!
# Updates hit their table

An update is drawn from the schema of the session: one table, two of its columns, a value for the
one and a condition on the other. Over plain names the lexer reads it as just that
(`IsTargetedUpdate`), whatever stands in the quotes of its literals, and at most one is sent
(`updateRows_targeted`).
-/

namespace RowParity

open Sql

/-! ## Which updates are drawn -/

namespace Generate

variable {schema : Schema} {source : Random.Source}

theorem anyPredicate_none_iff : (anyPredicate schema source).1 = none ↔
    schema.tables = [] ∨ ∃ table, (schema.anyTable source).1 = some table ∧ table.columns = [] := by
  rw [anyPredicate, Draw.bind_apply]
  rcases hany : schema.anyTable source with ⟨_ | table, source₁⟩
  · have hnone : schema.tables = [] := Random.choose_eq_none_iff.1 (congrArg Prod.fst hany)
    exact ⟨fun _ => .inl hnone, fun _ => rfl⟩
  · have hsome : schema.tables ≠ [] := fun hnil => by
      have hnone : (schema.anyTable source).1 = none := Random.choose_eq_none_iff.2 hnil
      cases hnone.symm.trans (congrArg Prod.fst hany)
    dsimp only
    rw [Draw.bind_apply]
    rcases hcolumn : table.anyColumn source₁ with ⟨_ | tested, source₂⟩
    · have hnone : table.columns = [] := Random.choose_eq_none_iff.1 (congrArg Prod.fst hcolumn)
      exact ⟨fun _ => .inr ⟨table, rfl, hnone⟩, fun _ => rfl⟩
    · constructor
      · intro hnone
        cases hnone
      · rintro (hnil | ⟨_, ⟨⟩, hnil⟩)
        · exact absurd hnil hsome
        · have hnone : (table.anyColumn source₁).1 = none := Random.choose_eq_none_iff.2 hnil
          cases hnone.symm.trans (congrArg Prod.fst hcolumn)

/-- There is an update just if the table that came up has a column. -/
theorem update_none_iff : (update schema source).1 = none ↔
    schema.tables = [] ∨ ∃ table, (schema.anyTable source).1 = some table ∧ table.columns = [] := by
  rw [← anyPredicate_none_iff, update, Draw.bind_apply]
  rcases hfilter : anyPredicate schema source with ⟨_ | ⟨table, filter⟩, source₁⟩
  · exact ⟨fun _ => rfl, fun _ => rfl⟩
  · obtain ⟨-, tested, htested, -⟩ := anyPredicate_some (congrArg Prod.fst hfilter)
    dsimp only
    rw [Draw.bind_apply]
    rcases hcolumn : table.anyColumn source₁ with ⟨_ | target, source₂⟩
    · have hnil : table.columns = [] := Random.choose_eq_none_iff.1 (congrArg Prod.fst hcolumn)
      rw [hnil] at htested
      cases htested
    · constructor
      · intro hnone
        cases hnone
      · intro hnone
        cases hnone

end Generate

/-! ## How they are read -/

/-- Every table and every column has a name that is a plain identifier. -/
structure Schema.HasPlainNames (schema : Schema) : Prop where
  table : ∀ table ∈ schema.tables, isPlain table.name.toList = true
  column : ∀ table ∈ schema.tables, ∀ column ∈ table.columns, isPlain column.name.toList = true

/-- The tokens of a complete literal of the type. -/
def SemanticType.Reads (ty : SemanticType) (text : String) (tokens : List Token) : Prop :=
  Generate.IsLiteralOf ty text.toList ∧ tokens? text.toList = some tokens

/-- The tokens of a condition on the column: a pattern in one string literal for texts, and equality
with a complete literal of its type for everything else. -/
inductive Column.Tests (column : Column) : List Token → Prop
  | like (textual : column.semanticType.isTextual = true) (pattern : List Char) :
      column.Tests [.word column.name.toList, .word "LIKE".toList, .text pattern]
  | equal (other : column.semanticType.isTextual = false) {text : String} {tokens : List Token}
      (read : column.semanticType.Reads text tokens) :
      column.Tests (.word column.name.toList :: .symbol '=' :: tokens)

/-- The statement sets a column of the table to a value of its type, under a condition on a column
of the same table. -/
def IsTargetedUpdate (table : Table) (sql : String) : Prop :=
  ∃ target ∈ table.columns, ∃ tested ∈ table.columns, ∃ value filter values tests,
    sql = Generate.updateText table.name target.name value filter ∧
      target.semanticType.Reads value values ∧
      tested.Tests tests ∧ tokens? filter.toList = some tests ∧
      tokens? sql.toList = some ([.word "UPDATE".toList, .word table.name.toList,
        .word "SET".toList, .word target.name.toList, .symbol '='] ++ values ++
          .word "WHERE".toList :: tests)

namespace Generate

theorem literalOf_reads (ty : SemanticType) (source : Random.Source) :
    ∃ tokens, ty.Reads (literalOf ty source).1 tokens := by
  have hliteral := literalOf_isLiteralOf ty source
  obtain ⟨tokens, htokens⟩ := hliteral.isItem.exists_tokens
  exact ⟨tokens, hliteral, htokens⟩

theorem tokens?_literal (s : String) : tokens? (literal s).toList = some [.text s.toList] := by
  have haround : tokens? ([] ++ (enclosed Quote.single.char s.toList ++ [])) =
      some ([] ++ Quote.single.token s.toList :: []) := tokens?_around rfl rfl (by simp) s.toList
  rw [List.nil_append, List.append_nil] at haround
  rw [literal, String.toList_ofList]
  exact haround

theorem predicate_tests {column : Column} (h : isPlain column.name.toList = true)
    (source : Random.Source) :
    ∃ tests, column.Tests tests ∧ tokens? (predicate column source).1.toList = some tests := by
  have hname := tokens?_plain h
  by_cases htextual : column.semanticType.isTextual = true
  · let pattern := "%" ++ (literalText source).1 ++ "%"
    have hlike : tokens? "LIKE".toList = some [.word "LIKE".toList] := tokens?_plain (by decide)
    have htext : (column.name ++ " LIKE " ++ literal pattern).toList =
        column.name.toList ++ ' ' :: ("LIKE".toList ++ ' ' :: (literal pattern).toList) := by
      simp only [String.toList_append, List.append_assoc]
      rfl
    refine ⟨_, .like htextual pattern.toList, ?_⟩
    rw [predicate_textual htextual, htext, tokens?_append_blank hname, tokens?_append_blank hlike,
      tokens?_literal]
    rfl
  · obtain ⟨tokens, hreads⟩ := literalOf_reads column.semanticType source
    have hequal : tokens? ['='] = some [.symbol '='] := rfl
    have htext (value : String) : (column.name ++ " = " ++ value).toList =
        column.name.toList ++ ' ' :: (['='] ++ ' ' :: value.toList) := by
      simp only [String.toList_append, List.append_assoc]
      rfl
    refine ⟨_, .equal (Bool.not_eq_true _ ▸ htextual) hreads, ?_⟩
    rw [predicate_not_textual htextual, htext, tokens?_append_blank hname,
      tokens?_append_blank hequal, hreads.2]
    rfl

theorem toList_updateText (table column value filter : String) :
    (updateText table column value filter).toList =
      "UPDATE".toList ++ ' ' :: (table.toList ++ ' ' :: ("SET".toList ++ ' ' ::
        (column.toList ++ ' ' :: (['='] ++ ' ' :: (value.toList ++ ' ' ::
          ("WHERE".toList ++ ' ' :: filter.toList)))))) := by
  unfold updateText
  simp only [String.toList_append, List.append_assoc]
  rfl

/-- Over plain names an update is read word by word, and its value and its condition between the
words. -/
theorem tokens?_updateText {table column value filter : String} {values tests : List Token}
    (htable : isPlain table.toList = true) (hcolumn : isPlain column.toList = true)
    (hvalue : tokens? value.toList = some values) (hfilter : tokens? filter.toList = some tests) :
    tokens? (updateText table column value filter).toList =
      some ([.word "UPDATE".toList, .word table.toList, .word "SET".toList, .word column.toList,
        .symbol '='] ++ values ++ .word "WHERE".toList :: tests) := by
  have hword (word : String) (h : isPlain word.toList = true) :
      tokens? word.toList = some [.word word.toList] := tokens?_plain h
  have hequal : tokens? ['='] = some [.symbol '='] := rfl
  rw [toList_updateText, tokens?_append_blank (hword "UPDATE" (by decide)),
    tokens?_append_blank (hword table htable), tokens?_append_blank (hword "SET" (by decide)),
    tokens?_append_blank (hword column hcolumn), tokens?_append_blank hequal,
    tokens?_append_blank hvalue, tokens?_append_blank (hword "WHERE" (by decide)), hfilter]
  simp

theorem update_isTargeted {schema : Schema} (hplain : schema.HasPlainNames)
    {source : Random.Source} {sql : String} (h : (update schema source).1 = some sql) :
    ∃ table ∈ schema.tables, (schema.anyTable source).1 = some table ∧
      IsTargetedUpdate table sql := by
  obtain ⟨table, hpicked, target, htarget, tested, htested, source₁, source₂, rfl⟩ := update_some h
  have hmember : table ∈ schema.tables := Random.choose_mem hpicked
  obtain ⟨values, hvalue⟩ := literalOf_reads target.semanticType source₁
  obtain ⟨tests, htests, hfilter⟩ :=
    predicate_tests (hplain.column table hmember tested htested) source₂
  refine ⟨table, hmember, hpicked, target, htarget, tested, htested, _, _, values, tests, rfl,
    hvalue, htests, hfilter, ?_⟩
  exact tokens?_updateText (hplain.table table hmember) (hplain.column table hmember target htarget)
    hvalue.2 hfilter

end Generate

/-! ## What is sent -/

/-- What changing rows came to: the update that was tried, if there was one, and the result. -/
structure Updated {σ : Type} (x : Executor σ) (s : Session σ) (trial? : Option Trial)
    (result : Except RunError Bool) (s' : Session σ) : Prop
    extends Tried x s trial?.toList result s' where
  drawn : trial?.map Trial.sql = (Generate.update s.schema s.random).1
  untried_iff : trial? = none ↔ s.schema.tables = [] ∨
    ∃ table, (s.schema.anyTable s.random).1 = some table ∧ table.columns = []
  untried : trial? = none → result = .ok false
  outcome : ∀ trial, trial? = some trial → result = trial.outcome
  updated_iff : result = .ok true ↔ ∃ trial, trial? = some trial ∧ trial.isAccepted = true

theorem Updated.yields {σ : Type} {x : Executor σ} {s s' : Session σ} {trial? : Option Trial}
    {result : Except RunError Bool} (h : Updated x s trial? result s') :
    ∀ trial ∈ trial?.toList, s.schema.Yields trial.sql := by
  intro trial htrial
  have hdrawn := h.drawn
  rw [Option.mem_toList.1 htrial] at hdrawn
  exact .update hdrawn.symm

namespace Action

variable {σ : Type}

theorem exists_updateTrial (x : Executor σ) (s : Session σ) :
    ∃ trial? : Option Trial, trial?.map Trial.sql = (Generate.update s.schema s.random).1 ∧
      ((updateRows x).result s).1 = (trial?.map Trial.outcome).getD (.ok false) ∧
      Course x s (trial?.toList.map Trial.deed) (errorOf? ((updateRows x).result s).1)
        ((updateRows x).result s).2 := by
  have hresult : (updateRows x).result s =
      (tryGenerated x (Generate.update s.schema)).result s := rfl
  rw [hresult]
  cases hdrawn : (Generate.update s.schema s.random).1 with
  | none =>
    rw [tryGenerated_none x hdrawn]
    exact ⟨none, rfl, rfl, .drew (Generate.update s.schema) (.done _)⟩
  | some sql =>
    obtain ⟨error, houtcome, hcourse⟩ := tryGenerated_trial x hdrawn
    exact ⟨some ⟨sql, error⟩, rfl, houtcome, hcourse⟩

theorem updateRows_updated (x : Executor σ) (s : Session σ) :
    ∃ trial?, Updated x s trial? ((updateRows x).result s).1 ((updateRows x).result s).2 := by
  obtain ⟨trial?, hdrawn, houtcome, hcourse⟩ := exists_updateTrial x s
  refine ⟨trial?, .of_course hcourse, hdrawn, ?_, ?_, ?_, ?_⟩
  · rw [← Generate.update_none_iff, ← hdrawn, Option.map_eq_none_iff]
  · rintro rfl
    exact houtcome
  · rintro trial rfl
    exact houtcome
  · rw [houtcome]
    cases trial? with
    | none => simp
    | some trial => simp [Trial.isAccepted_iff]

/-- **Updates are well-targeted.** Over plain names, whatever the executor answers, at most one
statement is sent, and only a schema without tables or a table without columns leads to none. The
statement is an update of the table that came up, and the answer is whether it was accepted. -/
theorem updateRows_targeted (x : Executor σ) (s : Session σ) (hplain : s.schema.HasPlainNames) :
    ∃ trial?, Updated x s trial? ((updateRows x).result s).1 ((updateRows x).result s).2 ∧
      ∀ trial, trial? = some trial → ∃ table ∈ s.schema.tables,
        (s.schema.anyTable s.random).1 = some table ∧ IsTargetedUpdate table trial.sql := by
  obtain ⟨trial?, hupdated⟩ := updateRows_updated x s
  refine ⟨trial?, hupdated, ?_⟩
  rintro trial rfl
  exact Generate.update_isTargeted hplain hupdated.drawn.symm

/-- A session that has seen one table. -/
def visitSession : Session Bool :=
  { Session.start ⟨true, {}, #[]⟩ 7 with schema := ⟨[Generate.visitTable]⟩ }

theorem updateRows_targeted_visits :
    visitSession.schema.HasPlainNames ∧ ∃ trial,
      Updated fitful visitSession (some trial) ((updateRows fitful).result visitSession).1
        ((updateRows fitful).result visitSession).2 ∧
      IsTargetedUpdate Generate.visitTable trial.sql := by
  have hplain : visitSession.schema.HasPlainNames := by
    refine ⟨List.forall_mem_singleton.2 (by decide), List.forall_mem_singleton.2 ?_⟩
    decide
  obtain ⟨trial?, hupdated, htargeted⟩ := updateRows_targeted fitful visitSession hplain
  cases trial? with
  | none =>
    rcases hupdated.untried_iff.1 rfl with hnil | ⟨table, hpicked, hnil⟩
    · cases hnil
    · have hmember : table ∈ [Generate.visitTable] := Random.choose_mem hpicked
      rw [List.mem_singleton.1 hmember] at hnil
      cases hnil
  | some trial =>
    obtain ⟨table, hmember, -, hread⟩ := htargeted trial rfl
    cases List.mem_singleton.1 hmember
    exact ⟨hplain, trial, hupdated, hread⟩

end Action

end RowParity
