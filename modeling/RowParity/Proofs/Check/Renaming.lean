import RowParity.Proofs.Check.Rewriting
import RowParity.Proofs.Check.Transcript

/-!
# Checks under other names

Two sessions whose schemas differ in the names of tables and columns only, with the same random
source, and two engines that answer the statements of their checks alike, one position after the
other. The two checks then come to the same, up to names (`Check.Sight`), with one exception: the
error about a table without columns names the table, and the name takes part in deciding whether the
error is expected (`sight_run_renamed`).
-/

namespace RowParity

variable {σ σ' : Type}

/-! ## Renaming -/

/-- New names for tables and, table by table, for columns. -/
structure Renaming where
  table : String → String
  column : String → String → String

def Column.renamed (ρ : Renaming) (table : String) (column : Column) : Column :=
  { column with name := ρ.column table column.name }

def Table.renamed (ρ : Renaming) (table : Table) : Table :=
  { table with
    name := ρ.table table.name
    columns := table.columns.map (Column.renamed ρ table.name) }

def Schema.renamed (ρ : Renaming) (schema : Schema) : Schema :=
  ⟨schema.tables.map (Table.renamed ρ)⟩

theorem Random.choose_map {α β : Type} (f : α → β) (xs : List α) (source : Random.Source) :
    choose (xs.map f) source = ((choose xs source).1.map f, (choose xs source).2) := by
  cases xs with
  | nil => rfl
  | cons x xs =>
    let drawn := within .narrow 0 xs.length source
    have hchosen : choose (x :: xs) source = ((x :: xs)[drawn.1.toNat]?, drawn.2) := rfl
    have hmapped : choose ((x :: xs).map f) source =
        (((x :: xs).map f)[drawn.1.toNat]?, drawn.2) := by
      have hlength : (xs.map f).length = xs.length := List.length_map f
      show ((f x :: xs.map f)[(within .narrow 0 (xs.map f).length source).1.toNat]?,
        (within .narrow 0 (xs.map f).length source).2) = _
      rw [hlength]
      rfl
    rw [hchosen, hmapped, List.getElem?_map]

theorem Schema.anyTable_renamed (ρ : Renaming) (schema : Schema) (source : Random.Source) :
    (schema.renamed ρ).anyTable source =
      ((schema.anyTable source).1.map (Table.renamed ρ), (schema.anyTable source).2) :=
  Random.choose_map (Table.renamed ρ) schema.tables source

theorem Table.queryColumn?_renamed (ρ : Renaming) (table : Table) :
    (table.renamed ρ).queryColumn? = table.queryColumn?.map (Column.renamed ρ table.name) := by
  have hnumeric : (fun c : Column => c.semanticType.isNumeric) ∘ Column.renamed ρ table.name =
      fun c => c.semanticType.isNumeric := rfl
  unfold queryColumn?
  show ((table.columns.map _).find? _).or (table.columns.map _).head? = _
  rw [List.find?_map, hnumeric, List.head?_map]
  cases table.columns.find? fun c => c.semanticType.isNumeric <;> rfl

theorem Table.queryColumn?_eq_none {table : Table} :
    table.queryColumn? = none ↔ table.columns = [] := by
  unfold queryColumn?
  rw [Option.or_eq_none_iff, List.head?_eq_none_iff]
  constructor
  · exact And.right
  · intro hnil
    rw [hnil]
    exact ⟨rfl, rfl⟩

/-! ## What can be seen of a check without names -/

inductive RunError.Kind where
  | connectivity
  | precondition
  | schemaVisibility
  | connection
  | statement
  | pool
  | settings
  | io
  deriving DecidableEq, Repr

def RunError.kind : RunError → Kind
  | connectivity _ => .connectivity
  | precondition _ => .precondition
  | schemaVisibility _ => .schemaVisibility
  | engine (.connection _) => .connection
  | engine (.statement ..) => .statement
  | pool _ => .pool
  | settings _ => .settings
  | io _ => .io

namespace Check

/-- The result of a check without statements, texts and names. -/
inductive Sight where
  | pass (rows : Nat)
  | mismatch (baseRows rewrittenRows : Nat)
  | expectedError (pattern : String)
  | failure (kind : RunError.Kind)
  deriving DecidableEq, Repr

def sight : Except RunError Outcome → Sight
  | .ok (.pass rows) => .pass rows
  | .ok (.mismatch f) => .mismatch f.baseRows f.rewrittenRows
  | .ok (.expectedError _ pattern) => .expectedError pattern
  | .error e => .failure e.kind

namespace Sight

def passes : Sight → Nat
  | pass _ => 1
  | _ => 0

def expectedErrors : Sight → Nat
  | expectedError _ => 1
  | _ => 0

def findings : Sight → Nat
  | mismatch .. => 1
  | _ => 0

/-- What an error is seen as: the pattern that it is expected by, or its kind. -/
def ofError (e : RunError) : Sight :=
  if e.isDisconnect then .failure e.kind
  else
    match BenignPattern.classify? e.decisiveText with
    | some p => .expectedError p.pattern
    | none => .failure e.kind

def ofCounts (baseRows rewrittenRows : Nat) : Sight :=
  if baseRows = rewrittenRows then .pass baseRows else .mismatch baseRows rewrittenRows

end Sight

/-- The counts have changed by one check that is seen like this. -/
structure Counted (stats stats' : Stats) (sight : Sight) : Prop where
  checks : stats'.checks = stats.checks + 1
  passes : stats'.passes = stats.passes + sight.passes
  expectedErrors : stats'.expectedErrors = stats.expectedErrors + sight.expectedErrors
  findings : stats'.findings.length = stats.findings.length + sight.findings

theorem run_counted (x : Executor σ) (memory : Memory) (s : Session σ) :
    Counted s.stats (run x memory s).2.stats (sight (run x memory s).1.1) := by
  rw [run_stats]
  rcases (run x memory s).1.1 with e | rows | f | ⟨message, pattern⟩
  · exact ⟨rfl, rfl, rfl, rfl⟩
  · exact ⟨rfl, rfl, rfl, rfl⟩
  · exact ⟨rfl, rfl, rfl, List.length_append⟩
  · exact ⟨rfl, rfl, rfl, rfl⟩

variable {x : Executor σ} {x' : Executor σ'} {s : Session σ} {s' : Session σ'}

theorem Stopped.sight_run {e : RunError} {sql : Option String} {s₁ : Session σ}
    (h : Stopped x (opened s) e sql s₁) (memory : Memory) :
    sight (run x memory s).1.1 = .ofError e := by
  have hresult : (run x memory s).1.1 = (settle (sql.or memory) (.error e) s₁).1 := by
    rw [run_apply, h.drawAndCompare_eq]
  rw [hresult, Sight.ofError]
  by_cases hlost : e.isDisconnect = true
  · rw [if_pos hlost, settle_genuine (.inl hlost)]
    rfl
  · rw [if_neg hlost]
    cases hp : BenignPattern.classify? e.decisiveText with
    | some p =>
      rw [settle_expected (by simpa using hlost) hp]
      rfl
    | none =>
      rw [settle_genuine (.inr hp)]
      rfl

theorem Answered.sight_run {base : String} {baseRows rewrittenRows : List Row} {s₁ : Session σ}
    (h : Answered x (opened s) base baseRows rewrittenRows s₁) (memory : Memory) :
    sight (run x memory s).1.1 = .ofCounts baseRows.length rewrittenRows.length := by
  rw [run_apply, h.drawAndCompare_eq, Sight.ofCounts]
  by_cases hlength : baseRows.length = rewrittenRows.length
  · rw [judge_same hlength, if_pos hlength]
    rfl
  · obtain ⟨f, _, _, -, -, hbase, hrewritten, -, -, hjudge⟩ := judge_different hlength s₁
    rw [hjudge, if_neg hlength, ← hbase, ← hrewritten]
    rfl

/-! ## Drawing under other names -/

/-- What is said of a table without columns. -/
def noColumns (table : String) : RunError :=
  .precondition ("table " ++ table ++ " has no columns")

theorem drawQuery_none {schema : Schema} {source : Random.Source}
    (h : (schema.anyTable source).1 = none) :
    (drawQuery schema source).1 = .error (.precondition "no tables available in schema") := by
  have hdrawn : schema.anyTable source = (none, (schema.anyTable source).2) := Prod.ext h rfl
  rw [drawQuery_eq, hdrawn]

theorem drawQuery_some {schema : Schema} {source : Random.Source} {table : Table}
    (h : (schema.anyTable source).1 = some table) :
    drawQuery schema source = queryOn table (schema.anyTable source).2 := by
  have hdrawn : schema.anyTable source = (some table, (schema.anyTable source).2) := Prod.ext h rfl
  rw [drawQuery_eq, hdrawn]

theorem queryOn_none {table : Table} (h : table.queryColumn? = none) (source : Random.Source) :
    (queryOn table source).1 = .error (noColumns table.name) := by
  have hbase : Generate.baseQuery table source = (none, source) := by
    rw [Generate.baseQuery, h]
    rfl
  rw [queryOn_eq, hbase]
  rfl

/-- What a check draws in two schemas that differ in names only. -/
theorem drawQuery_renamed (ρ : Renaming) (schema : Schema) (source : Random.Source) :
    (∃ base base', (drawQuery schema source).1 = .ok base ∧
        (drawQuery (schema.renamed ρ) source).1 = .ok base' ∧
        ∀ table, (schema.anyTable source).1 = some table → table.columns ≠ []) ∨
      (∃ e, (drawQuery schema source).1 = .error e ∧
        (drawQuery (schema.renamed ρ) source).1 = .error e ∧ (schema.anyTable source).1 = none) ∨
      ∃ table, (schema.anyTable source).1 = some table ∧ table.columns = [] ∧
        (drawQuery schema source).1 = .error (noColumns table.name) ∧
        (drawQuery (schema.renamed ρ) source).1 = .error (noColumns (ρ.table table.name)) := by
  have hdrawn : ((schema.renamed ρ).anyTable source).1 =
      (schema.anyTable source).1.map (Table.renamed ρ) := by
    rw [Schema.anyTable_renamed]
  cases htable : (schema.anyTable source).1 with
  | none =>
    rw [htable, Option.map_none] at hdrawn
    exact .inr (.inl ⟨_, drawQuery_none htable, drawQuery_none hdrawn, rfl⟩)
  | some table =>
    rw [htable, Option.map_some] at hdrawn
    rw [drawQuery_some htable, drawQuery_some hdrawn]
    have hcolumn' := Table.queryColumn?_renamed ρ table
    cases hcolumn : table.queryColumn? with
    | none =>
      rw [hcolumn, Option.map_none] at hcolumn'
      exact .inr (.inr ⟨table, rfl, Table.queryColumn?_eq_none.1 hcolumn, queryOn_none hcolumn _,
        queryOn_none hcolumn' _⟩)
    | some column =>
      rw [hcolumn, Option.map_some] at hcolumn'
      refine .inl ⟨_, _, congrArg Prod.fst (queryOn_apply hcolumn _),
        congrArg Prod.fst (queryOn_apply hcolumn' _), fun other hother hnil => ?_⟩
      rw [← Option.some.inj hother] at hnil
      rw [Table.queryColumn?_eq_none.2 hnil] at hcolumn
      cases hcolumn

/-! ## Answers under other names -/

/-- The same rows, or errors of one kind with the same text of the engine. -/
inductive SameAnswer : Except EngineError (List Row) → Except EngineError (List Row) → Prop
  | rows (rows : List Row) : SameAnswer (.ok rows) (.ok rows)
  | error {e e' : EngineError} (kind : e'.isDisconnect = e.isDisconnect)
      (reason : e'.reason = e.reason) : SameAnswer (.error e) (.error e')

/-- Two engines give the same answers to these pairs of queries, one after the other. -/
def AnsweredAlike (x : Executor σ) (x' : Executor σ') : σ → σ' → List (String × String) → Prop
  | _, _, [] => True
  | engine, engine', (sql, sql') :: others =>
    SameAnswer (x.fetch sql engine).1.result (x'.fetch sql' engine').1.result ∧
      AnsweredAlike x x' (x.fetch sql engine).2 (x'.fetch sql' engine').2 others

theorem Sight.ofError_engine {e e' : EngineError} (hkind : e'.isDisconnect = e.isDisconnect)
    (hreason : e'.reason = e.reason) :
    Sight.ofError (.engine e') = Sight.ofError (.engine e) := by
  have hsame : (RunError.engine e').kind = (RunError.engine e).kind := by
    cases e <;> cases e' <;> first | rfl | cases hkind
  unfold Sight.ofError
  show (if e'.isDisconnect = true then _ else
    match BenignPattern.classify? e'.reason with
    | some p => Sight.expectedError p.pattern
    | none => _) = _
  rw [hkind, hreason, hsame]
  rfl

/-- A check that has drawn a query, as its answers tell it. -/
inductive Unfolded (x : Executor σ) (s : Session σ) (base : String) (engine : σ) : Sight → Prop
  | first {e : EngineError} (h : (x.fetch base engine).1.result = .error e)
      (hsent : sent x s = [base]) : Unfolded x s base engine (.ofError (.engine e))
  | second {rows : List Row} {e : EngineError} (h : (x.fetch base engine).1.result = .ok rows)
      (h' : (x.fetch (Sql.withTautology base) (x.fetch base engine).2).1.result = .error e)
      (hsent : sent x s = [base, Sql.withTautology base]) :
      Unfolded x s base engine (.ofError (.engine e))
  | both {rows rows' : List Row} {plans : List String}
      (h : (x.fetch base engine).1.result = .ok rows)
      (h' : (x.fetch (Sql.withTautology base) (x.fetch base engine).2).1.result = .ok rows')
      (hsent : sent x s = [base, Sql.withTautology base] ++ plans) :
      Unfolded x s base engine (.ofCounts rows.length rows'.length)

theorem unfolded_run {base : String} (h : (drawQuery s.schema s.random).1 = .ok base)
    (memory : Memory) : Unfolded x s base s.engine (sight (run x memory s).1.1) := by
  let s₀ : Session σ := { opened s with random := (drawQuery s.schema s.random).2 }
  have hdrawn : Step.draw (drawQuery (opened s).schema) (opened s) = (.ok base, s₀) := by
    rw [← h]
    rfl
  obtain ⟨link₁, -, -, hengine, ⟨rows, hrows, hfirst⟩ | ⟨e, he, hfirst⟩⟩ := fetch_cases x base s₀
  · obtain ⟨link₂, -, -, -, ⟨rows', hrows', hsecond⟩ | ⟨e, he, hsecond⟩⟩ :=
      fetch_cases x (Sql.withTautology base) { s₀ with toLink := link₁ }
    · have hcourse := Answered.intro hdrawn hfirst hsecond
      obtain ⟨plans, hsent⟩ := hcourse.sent_eq_append
      rw [hcourse.sight_run]
      rw [hengine] at hrows'
      exact .both hrows hrows' hsent
    · have hcourse := Stopped.rewritten hdrawn hfirst hsecond
      rw [hcourse.sight_run]
      rw [hengine] at he
      exact .second hrows he (sent_second hdrawn hfirst hsecond)
  · have hcourse := Stopped.base hdrawn hfirst
    rw [hcourse.sight_run]
    exact .first he (sent_first hdrawn hfirst)

namespace Unfolded

variable {base base' : String} {engine : σ} {engine' : σ'} {v v' : Sight}

theorem sent_cons (h : Unfolded x s base engine v) : ∃ others, sent x s = base :: others := by
  cases h with
  | first _ hsent => exact ⟨_, hsent⟩
  | second _ _ hsent => exact ⟨_, hsent⟩
  | both _ _ hsent => exact ⟨_, hsent⟩

theorem of_error (h : Unfolded x s base engine v) {e : EngineError}
    (he : (x.fetch base engine).1.result = .error e) : v = .ofError (.engine e) := by
  cases h with
  | first he' _ =>
    rw [he] at he'
    cases he'
    rfl
  | second hrows _ _ =>
    rw [he] at hrows
    cases hrows
  | both hrows _ _ =>
    rw [he] at hrows
    cases hrows

/-- What the second query comes to, once the first was answered with rows. -/
theorem of_rows (h : Unfolded x s base engine v) {rows : List Row}
    (hrows : (x.fetch base engine).1.result = .ok rows) :
    ∃ others, sent x s = base :: Sql.withTautology base :: others ∧
      ((∃ e, (x.fetch (Sql.withTautology base) (x.fetch base engine).2).1.result = .error e ∧
          v = .ofError (.engine e)) ∨
        ∃ rows', (x.fetch (Sql.withTautology base) (x.fetch base engine).2).1.result = .ok rows' ∧
          v = .ofCounts rows.length rows'.length) := by
  cases h with
  | first he _ =>
    rw [hrows] at he
    cases he
  | second _ he hsent => exact ⟨[], hsent, .inl ⟨_, he, rfl⟩⟩
  | both hrows' h' hsent =>
    rw [hrows] at hrows'
    cases hrows'
    exact ⟨_, hsent, .inr ⟨_, h', rfl⟩⟩

/-- Two checks that were answered alike, one statement after the other, look alike. -/
theorem sight_eq (h : Unfolded x s base engine v) (h' : Unfolded x' s' base' engine' v')
    (hanswers : AnsweredAlike x x' engine engine' ((sent x s).zip (sent x' s'))) : v' = v := by
  have hfirst : SameAnswer (x.fetch base engine).1.result (x'.fetch base' engine').1.result := by
    obtain ⟨others, hsent⟩ := h.sent_cons
    obtain ⟨others', hsent'⟩ := h'.sent_cons
    rw [hsent, hsent'] at hanswers
    exact hanswers.1
  generalize hA : (x.fetch base engine).1.result = A at hfirst
  generalize hA' : (x'.fetch base' engine').1.result = A' at hfirst
  cases hfirst with
  | error hkind hreason => rw [h.of_error hA, h'.of_error hA', Sight.ofError_engine hkind hreason]
  | rows rows =>
    -- Both went on to the second query, and its answers are alike as well.
    obtain ⟨others, hsent, hsecond⟩ := h.of_rows hA
    obtain ⟨others', hsent', hsecond'⟩ := h'.of_rows hA'
    rw [hsent, hsent'] at hanswers
    have hboth := hanswers.2.1
    rcases hsecond with ⟨e, he, rfl⟩ | ⟨rows₂, hrows₂, rfl⟩ <;>
      rcases hsecond' with ⟨e', he', rfl⟩ | ⟨rows₂', hrows₂', rfl⟩
    · rw [he, he'] at hboth
      cases hboth with
      | error hkind hreason => exact Sight.ofError_engine hkind hreason
    · rw [he, hrows₂'] at hboth
      cases hboth
    · rw [hrows₂, he'] at hboth
      cases hboth
    · rw [hrows₂, hrows₂'] at hboth
      cases hboth with
      | rows => rfl

end Unfolded

/-- The pattern by which the error about a table without columns is expected, if it is. -/
def noColumnsPattern (table : String) : Option String :=
  (BenignPattern.classify? (noColumns table).decisiveText).map BenignPattern.pattern

theorem Sight.ofError_noColumns (table : String) :
    Sight.ofError (noColumns table) =
      ((noColumnsPattern table).map Sight.expectedError).getD (.failure .precondition) := by
  have hwell : (noColumns table).isDisconnect = false := rfl
  unfold Sight.ofError noColumnsPattern
  rw [hwell, if_neg Bool.false_ne_true]
  cases BenignPattern.classify? (noColumns table).decisiveText <;> rfl

theorem Sight.ofError_noColumns_inj {table table' : String} :
    Sight.ofError (noColumns table') = Sight.ofError (noColumns table) ↔
      noColumnsPattern table' = noColumnsPattern table := by
  rw [ofError_noColumns, ofError_noColumns]
  cases noColumnsPattern table' <;> cases noColumnsPattern table <;> simp

theorem sight_run_undrawn {e : RunError} (h : (drawQuery s.schema s.random).1 = .error e)
    (memory : Memory) : sight (run x memory s).1.1 = .ofError e := by
  let s₀ : Session σ := { opened s with random := (drawQuery s.schema s.random).2 }
  have hdrawn : Step.draw (drawQuery (opened s).schema) (opened s) = (.error e, s₀) := by
    rw [← h]
    rfl
  have hcourse : Stopped x (opened s) e none s₀ := .undrawn hdrawn
  exact hcourse.sight_run memory

/-- **A check sees names in one place only.** Two checks on schemas that differ in names only, with
the same random source and answered alike one statement after the other, look alike and count
alike. The exception is a check that comes upon a table without columns: what it comes to depends on
the benign patterns in the name of that table. -/
theorem sight_run_renamed (ρ : Renaming) (hschema : s'.schema = s.schema.renamed ρ)
    (hrandom : s'.random = s.random)
    (hanswers : AnsweredAlike x x' s.engine s'.engine ((sent x s).zip (sent x' s')))
    (memory memory' : Memory) :
    (sight (run x' memory' s').1.1 = sight (run x memory s).1.1 ↔
        ∀ table, (s.schema.anyTable s.random).1 = some table → table.columns = [] →
          noColumnsPattern (ρ.table table.name) = noColumnsPattern table.name) ∧
      Counted s.stats (run x memory s).2.stats (sight (run x memory s).1.1) ∧
      Counted s'.stats (run x' memory' s').2.stats (sight (run x' memory' s').1.1) := by
  refine ⟨?_, run_counted x memory s, run_counted x' memory' s'⟩
  have hdraw := drawQuery_renamed ρ s.schema s.random
  rw [← hschema] at hdraw
  rcases hdraw with ⟨base, base', hbase, hbase', hcolumns⟩ | ⟨e, he, he', hnone⟩ |
    ⟨table, htable, hnil, he, he'⟩
  · rw [← hrandom] at hbase'
    have hsame := (unfolded_run hbase memory).sight_eq (unfolded_run hbase' memory') hanswers
    exact iff_of_true hsame fun table htable hnil => absurd hnil (hcolumns table htable)
  · rw [← hrandom] at he'
    rw [sight_run_undrawn he, sight_run_undrawn he', hnone]
    exact iff_of_true rfl fun table htable => by cases htable
  · rw [← hrandom] at he'
    rw [sight_run_undrawn he, sight_run_undrawn he', Sight.ofError_noColumns_inj, htable]
    constructor
    · intro hpattern other hother _
      rw [← Option.some.inj hother]
      exact hpattern
    · intro hall
      exact hall table rfl hnil

/-- The names of tables begin with `invalid_`, those of columns stay. -/
def invalidating : Renaming where
  table name := "invalid_" ++ name
  column _ name := name

/-- An engine that rejects every statement with the same words. -/
def failing : Executor Unit where
  execute sql := pure ⟨.error (.statement sql "INTERNAL Error: index 3"), []⟩
  fetch sql := pure ⟨.error (.statement sql "INTERNAL Error: index 3"), []⟩
  columnNames sql := pure ⟨.error (.statement sql "INTERNAL Error: index 3"), []⟩
  isAlive := pure true

theorem answeredAlike_failing (pairs : List (String × String)) :
    AnsweredAlike failing failing () () pairs := by
  induction pairs with
  | nil => trivial
  | cons pair others ih => exact ⟨.error rfl rfl, ih⟩

/-- A session with a schema of one table. -/
def sessionOn (table : Table) : Session Unit :=
  { Session.start ⟨(), {}, #[]⟩ 1 with schema := ⟨[table]⟩ }

/-- **A name makes an error look expected.** Neither table has columns, and only of the one whose
name begins with `invalid_` the error counts as expected. -/
theorem sight_run_renamed_invalid :
    AnsweredAlike failing failing () ()
        ((sent failing (sessionOn (.plain "orders" []))).zip
          (sent failing (sessionOn (.plain "invalid_orders" [])))) ∧
      (Schema.renamed invalidating ⟨[.plain "orders" []]⟩ = ⟨[.plain "invalid_orders" []]⟩) ∧
      sight (run failing none (sessionOn (.plain "invalid_orders" []))).1.1 ≠
        sight (run failing none (sessionOn (.plain "orders" []))).1.1 := by
  have hanswers := answeredAlike_failing
    ((sent failing (sessionOn (.plain "orders" []))).zip
      (sent failing (sessionOn (.plain "invalid_orders" []))))
  have hschema : (Schema.renamed invalidating ⟨[.plain "orders" []]⟩) =
      ⟨[.plain "invalid_orders" []]⟩ := by decide
  refine ⟨hanswers, hschema, fun hsame => ?_⟩
  have hiff := (@sight_run_renamed Unit Unit failing failing (sessionOn (.plain "orders" []))
    (sessionOn (.plain "invalid_orders" [])) invalidating hschema.symm rfl hanswers none none).1
  have htable : ((sessionOn (.plain "orders" [])).schema.anyTable
      (sessionOn (.plain "orders" [])).random).1 = some (.plain "orders" []) := by decide +kernel
  have hpattern := hiff.1 hsame (.plain "orders" []) htable rfl
  have hdiffer : noColumnsPattern "invalid_orders" ≠ noColumnsPattern "orders" := by
    decide +kernel
  exact hdiffer hpattern

end Check

end RowParity
