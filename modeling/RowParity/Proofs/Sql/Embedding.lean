import RowParity.Generate.Predicate
import RowParity.Proofs.Generate.Literal
import RowParity.Proofs.Session.Loss

/-!
# Quoted texts in statements

A quoted text delimits itself, so a statement that is put together around one is read as the same
words and symbols whatever the text is, with the text as one quoted token among them (`Frames`). The
questions of the introspection are such frames around the name of a table, and a condition on a
column of texts is one literal behind the name of the column (`quoted_embedded`).
-/

namespace RowParity

namespace Sql

/-! ## Frames -/

def Token.isQuoted : Token → Bool
  | text _ | name _ => true
  | word _ | symbol _ => false

/-- The statement is always the same words and symbols, with its argument as the one quoted token
among them. -/
def Frames (statement : String → String) : Prop :=
  ∃ before quote after, (∀ token ∈ before ++ after, token.isQuoted = false) ∧
    ∀ s : String, tokens? (statement s).toList = some (before ++ Quote.token s.toList quote :: after)

namespace Scan

/-- The tokens of a text that the lexer goes on with. -/
def tokens? (scan : Scan) (cs : List Char) : Option (List Token) :=
  let read := scan.run cs
  read.2.finish?.map (read.1 ++ ·)

theorem tokens?_append (scan : Scan) (cs ds : List Char) :
    scan.tokens? (cs ++ ds) = ((scan.run cs).2.tokens? ds).map ((scan.run cs).1 ++ ·) := by
  unfold tokens?
  rw [run_append, Option.map_map]
  simp only [Function.comp_def, List.append_assoc]

/-- Behind a quote that is not doubled the lexer starts anew. -/
theorem tokens?_closing {quote : Quote} {value cs : List Char}
    (h : cs.head? ≠ some quote.char) :
    (closing quote value).tokens? cs = (between.tokens? cs).map (quote.token value :: ·) := by
  cases cs with
  | nil => rfl
  | cons c cs =>
    have hc : c ≠ quote.char := fun heq => h (congrArg some heq)
    have hclosing : (closing quote value).step c =
        (quote.token value :: (start c).1, (start c).2) := by rw [step, if_neg hc]
    have hbetween : between.step c = start c := rfl
    unfold tokens?
    rw [run, run, hclosing, hbetween, Option.map_map]
    rfl

end Scan

/-- **A quoted text is one token**, whatever it is. -/
theorem tokens?_around {quote : Quote} {front back : List Char} {before after : List Token}
    (hfront : Scan.between.run front = (before, .between)) (hback : tokens? back = some after)
    (hapart : back.head? ≠ some quote.char) (value : List Char) :
    tokens? (front ++ (enclosed quote.char value ++ back)) =
      some (before ++ quote.token value :: after) := by
  have hvalue := (Scan.run_enclosed quote value).2
  have hquoted : Scan.between.tokens? (enclosed quote.char value ++ back) =
      some (quote.token value :: after) := by
    rw [Scan.tokens?_append, hvalue, Scan.tokens?_closing hapart]
    change ((tokens? back).map _).map _ = _
    rw [hback]
    rfl
  change Scan.between.tokens? _ = _
  rw [Scan.tokens?_append, hfront, hquoted]
  rfl

/-- The lexer reads words and symbols only, on both sides of a quoted text that it does not run
into. -/
def isFrame (quote : Quote) (front back : String) : Bool :=
  let read := Scan.between.run front.toList
  read.2 == .between && read.1.all (!·.isQuoted) && back.toList.head? != some quote.char &&
    ((tokens? back.toList).map (·.all (!·.isQuoted))).getD false

/-- Statements that are put together around a quoted text. -/
theorem frames_of {statement : String → String} (quote : Quote) (front back : String)
    (hparts : ∀ s, statement s =
      front ++ String.ofList (enclosed quote.char s.toList) ++ back)
    (hframe : isFrame quote front back = true) : Frames statement := by
  simp only [isFrame, Bool.and_eq_true, beq_iff_eq, bne_iff_ne, List.all_eq_true,
    Bool.not_eq_true'] at hframe
  obtain ⟨⟨⟨hfront, hbefore⟩, hapart⟩, hback⟩ := hframe
  cases hrest : tokens? back.toList with
  | none =>
    rw [hrest] at hback
    cases hback
  | some after =>
    rw [hrest, Option.map_some, Option.getD_some, List.all_eq_true] at hback
    refine ⟨(Scan.between.run front.toList).1, quote, after, fun token htoken => ?_, fun s => ?_⟩
    · rcases List.mem_append.1 htoken with htoken | htoken
      · exact hbefore token htoken
      · simpa using hback token htoken
    · have hread : Scan.between.run front.toList = ((Scan.between.run front.toList).1, .between) :=
        Prod.ext rfl hfront
      rw [hparts s, String.toList_append, String.toList_append, String.toList_ofList,
        List.append_assoc]
      exact tokens?_around hread hrest hapart s.toList

end Sql

namespace Introspection

open Sql

/-! ## Questions -/

theorem catalogQuery_frames : Frames catalogQuery :=
  frames_of .single ("SELECT column_name, data_type, character_maximum_length, is_nullable " ++
      "FROM information_schema.columns WHERE table_name = ")
    " AND table_schema = current_schema() ORDER BY ordinal_position" (fun _ => rfl)
    (by decide +kernel)

theorem pragmaQuery_frames : Frames pragmaQuery :=
  frames_of .single "PRAGMA table_info(" ")" (fun _ => rfl) (by decide +kernel)

theorem emptyQuery_frames : Frames emptyQuery :=
  frames_of .double "SELECT * FROM " " LIMIT 0" (fun _ => rfl) (by decide +kernel)

theorem indexQuery_frames : Frames indexQuery :=
  frames_of .single "SELECT index_name FROM duckdb_indexes() WHERE table_name = " ""
    (fun _ => (String.append_empty ..).symm) (by decide +kernel)

/-- The statements about a table, each by its name. -/
def tableQuestions : List (String → String) :=
  [catalogQuery, pragmaQuery, emptyQuery, indexQuery]

theorem questions_eq (table : String) : questions table = tableQuestions.map (· table) :=
  rfl

theorem tableQuestions_frames : ∀ question ∈ tableQuestions, Frames question := by
  intro question hquestion
  simp only [tableQuestions, List.mem_cons, List.not_mem_nil, or_false] at hquestion
  rcases hquestion with rfl | rfl | rfl | rfl
  · exact catalogQuery_frames
  · exact pragmaQuery_frames
  · exact emptyQuery_frames
  · exact indexQuery_frames

theorem Listed.sql_mem {sqls names : List String} {exchanges : List Exchange}
    (h : Listed sqls exchanges names) : ∀ exchange ∈ exchanges, exchange.sql ∈ sqls := by
  induction h with
  | answered => exact List.forall_mem_singleton.2 List.mem_cons_self
  | rejected _ ih =>
    refine List.forall_mem_cons.2 ⟨List.mem_cons_self, fun exchange hexchange => ?_⟩
    exact List.mem_cons_of_mem _ (ih exchange hexchange)

theorem TablesRead.sql_mem {exchanges : List Exchange} {tables : List Table}
    (h : TablesRead exchanges tables) :
    ∀ exchange ∈ exchanges, ∃ table ∈ tables, exchange.sql ∈ questions table.name := by
  induction h with
  | nil => exact List.forall_mem_nil _
  | cons read _ ih =>
    refine List.forall_mem_append.2 ⟨fun exchange hexchange => ?_, fun exchange hexchange => ?_⟩
    · exact ⟨_, List.mem_cons_self, read.sql_mem exchange hexchange⟩
    · obtain ⟨table, htable, hsql⟩ := ih exchange hexchange
      exact ⟨table, List.mem_cons_of_mem _ htable, hsql⟩

/-- The statement lists the tables or asks about one of them. -/
def IsQuestion (sql : String) : Prop :=
  sql ∈ listings.map Prod.snd ∨ ∃ table, ∃ question ∈ tableQuestions, sql = question table

theorem SchemaRead.isQuestion {exchanges : List Exchange} {result : Except RunError Schema}
    (h : SchemaRead exchanges result) : ∀ exchange ∈ exchanges, IsQuestion exchange.sql := by
  cases h with
  | read listed _ tablesRead =>
    refine List.forall_mem_append.2 ⟨fun exchange hexchange => ?_, fun exchange hexchange => ?_⟩
    · exact .inl (listed.sql_mem exchange hexchange)
    · obtain ⟨table, -, hsql⟩ := tablesRead.sql_mem exchange hexchange
      rw [questions_eq, List.mem_map] at hsql
      obtain ⟨question, hquestion, heq⟩ := hsql
      exact .inr ⟨table.name, question, hquestion, heq.symm⟩
  | unlisted h =>
    intro exchange hexchange
    have hsql : exchange.sql ∈ exchanges.map Exchange.sql := List.mem_map_of_mem hexchange
    rw [h.map_sql] at hsql
    exact .inl hsql

/-- Whatever is answered, an introspection sends nothing else. -/
theorem readSchema_asks {σ : Type} (x : Executor σ) (link : Link σ) :
    ∃ sqls : List String, (readSchema x link).2.transcript.toList =
        link.transcript.toList ++ sqls.map (Sent.mk .introspection) ∧
      ∀ sql ∈ sqls, IsQuestion sql := by
  obtain ⟨exchanges, hexchanged, hread⟩ := readSchema_follows x link
  refine ⟨exchanges.map Exchange.sql, ?_, fun sql hsql => ?_⟩
  · rw [hexchanged.transcript_eq, List.map_map]
    rfl
  · obtain ⟨exchange, hexchange, rfl⟩ := List.mem_map.1 hsql
    exact hread.isQuestion exchange hexchange

end Introspection

namespace Generate

open Sql

/-! ## Conditions -/

theorem literal_pattern (needle : String) :
    literal ("%" ++ needle ++ "%") = "'%" ++ escaped needle ++ "%'" := by
  have hpattern : ("%" ++ needle ++ "%").toList = ['%'] ++ needle.toList ++ ['%'] := by
    rw [String.toList_append, String.toList_append]
    rfl
  have hpercent : doubled '\'' ['%'] = ['%'] := rfl
  refine String.toList_injective ?_
  rw [literal, String.toList_ofList, enclosed, hpattern, doubled_append, doubled_append, hpercent,
    String.toList_append, String.toList_append, escaped, String.toList_ofList]
  simp

/-- A condition on a column of texts is a pattern behind the name of the column. -/
theorem predicate_textual {column : Column} (h : column.semanticType.isTextual = true)
    (source : Random.Source) :
    (predicate column source).1 =
      column.name ++ " LIKE " ++ literal ("%" ++ (literalText source).1 ++ "%") := by
  have hdrawn : (predicate column source).1 =
      column.name ++ " LIKE '%" ++ escaped (literalText source).1 ++ "%'" := by
    unfold predicate
    rw [if_pos h]
    rfl
  have hlike : " LIKE '%" = " LIKE " ++ "'%" := rfl
  rw [hdrawn, literal_pattern, hlike]
  simp only [String.append_assoc]

/-- A condition on any other column is equality with a literal of its type. -/
theorem predicate_not_textual {column : Column} (h : ¬column.semanticType.isTextual = true)
    (source : Random.Source) :
    (predicate column source).1 =
      column.name ++ " = " ++ (literalOf column.semanticType source).1 := by
  unfold predicate
  rw [if_neg h]
  rfl

end Generate

/-! ## Everything quoted -/

theorem readQuoted?_literal (s : String) {rest : List Char} (h : rest.head? ≠ some '\'') :
    Sql.readQuoted? '\'' ((Sql.literal s).toList ++ rest) = some (s.toList, rest) := by
  rw [Sql.literal, String.toList_ofList]
  exact Sql.readQuoted?_enclosed s.toList h

theorem readQuoted?_identifier (s : String) {rest : List Char} (h : rest.head? ≠ some '"') :
    Sql.readQuoted? '"' ((Sql.identifier s).toList ++ rest) = some (s.toList, rest) := by
  rw [Sql.identifier, String.toList_ofList]
  exact Sql.readQuoted?_enclosed s.toList h

/-- **Quoted texts stay what they are.** A literal and an identifier are read back in front of
anything that does not go on with their quote. So a condition on a column of texts is one literal
behind the name of the column, and an introspection, whatever is answered, sends listings and frames
around the name of a table. -/
theorem quoted_embedded :
    (∀ (s : String) (rest : List Char),
      (rest.head? ≠ some '\'' →
        Sql.readQuoted? '\'' ((Sql.literal s).toList ++ rest) = some (s.toList, rest)) ∧
      (rest.head? ≠ some '"' →
        Sql.readQuoted? '"' ((Sql.identifier s).toList ++ rest) = some (s.toList, rest))) ∧
    (∀ (column : Column) (source : Random.Source), column.semanticType.isTextual = true →
      ∃ quoted, (Generate.predicate column source).1.toList =
          (column.name ++ " LIKE ").toList ++ quoted ∧
        Sql.readQuoted? '\'' quoted =
          some (("%" ++ (Generate.literalText source).1 ++ "%").toList, [])) ∧
    (∀ question ∈ Introspection.tableQuestions, Sql.Frames question) ∧
    ∀ (σ : Type) (x : Executor σ) (link : Link σ), ∃ sqls : List String,
      (Introspection.readSchema x link).2.transcript.toList =
        link.transcript.toList ++ sqls.map (Sent.mk .introspection) ∧
      ∀ sql ∈ sqls, Introspection.IsQuestion sql := by
  refine ⟨fun s rest => ⟨readQuoted?_literal s, readQuoted?_identifier s⟩, ?_,
    Introspection.tableQuestions_frames, fun σ x link => Introspection.readSchema_asks x link⟩
  intro column source htextual
  let pattern := "%" ++ (Generate.literalText source).1 ++ "%"
  have hpattern : Sql.readQuoted? '\'' ((Sql.literal pattern).toList ++ []) =
      some (pattern.toList, []) := readQuoted?_literal pattern (by simp)
  rw [List.append_nil] at hpattern
  refine ⟨(Sql.literal pattern).toList, ?_, hpattern⟩
  rw [Generate.predicate_textual htextual, String.toList_append]

theorem quoted_embedded_hostile :
    ([';'].head? ≠ some '\'' ∧ [';'].head? ≠ some '"' ∧
      (Column.declared "note" "TEXT").semanticType.isTextual = true ∧
      Introspection.indexQuery ∈ Introspection.tableQuestions) ∧
    Sql.readQuoted? '\'' ((Sql.literal "x''; DROP TABLE t --'").toList ++ [';']) =
      some ("x''; DROP TABLE t --'".toList, [';']) ∧
    Sql.readQuoted? '"' ((Sql.identifier "a\"\"").toList ++ [';']) =
      some ("a\"\"".toList, [';']) ∧
    (∃ quoted, (Generate.predicate (.declared "note" "TEXT") (.ofSeed 1)).1.toList =
        "note LIKE ".toList ++ quoted ∧
      Sql.readQuoted? '\'' quoted =
        some (("%" ++ (Generate.literalText (.ofSeed 1)).1 ++ "%").toList, [])) ∧
    Sql.Frames Introspection.indexQuery := by
  have hsingle : [';'].head? ≠ some '\'' := by decide
  have hdouble : [';'].head? ≠ some '"' := by decide
  have htextual : (Column.declared "note" "TEXT").semanticType.isTextual = true := by decide
  have hquestion : Introspection.indexQuery ∈ Introspection.tableQuestions := by
    simp [Introspection.tableQuestions]
  obtain ⟨hquoted, hpredicate, hframes, -⟩ := quoted_embedded
  exact ⟨⟨hsingle, hdouble, htextual, hquestion⟩, (hquoted _ _).1 hsingle, (hquoted _ _).2 hdouble,
    hpredicate _ _ htextual, hframes _ hquestion⟩

end RowParity
