import RowParity.Proofs.Generate.Origin
import RowParity.Proofs.Workload.Trials

/-!
# Trials of rows

Adding a row tries its full form and, after a rejection, its minimal one. `TriedRow` is the law of
one row and `TriedRows` that of several; which table a row goes to can be told from its statement
(`Sql.insertTarget?`).
-/

namespace RowParity

variable {σ : Type}

/-! ## The law of a row -/

/-- Adding one row to the table: nothing is tried without columns, else the full form, and after its
rejection also the minimal one. What the last of them came to is the result. -/
inductive TriedRow (table : Table) : List Trial → Except RunError Bool → Prop
  | untried (h : table.columns = []) : TriedRow table [] (.ok false)
  | full {source : Random.Source} {trial : Trial}
      (drawn : (Generate.insert table source).1 = some trial.sql)
      (settled : trial.outcome ≠ .ok false) : TriedRow table [trial] trial.outcome
  | minimal {source source' : Random.Source} {trial again : Trial}
      (drawn : (Generate.insert table source).1 = some trial.sql)
      (rejected : trial.outcome = .ok false)
      (drawnAgain : (Generate.minimalInsert table source').1 = some again.sql) :
      TriedRow table [trial, again] again.outcome

/-- Adding several rows, each with its own trials, up to a lost connection. -/
inductive TriedRows (table : Table) : Nat → List (List Trial) → Except RunError Bool → Prop
  | done : TriedRows table 0 [] (.ok false)
  | lost {n : Nat} {trials : List Trial} {e : RunError} (row : TriedRow table trials (.error e)) :
      TriedRows table (n + 1) [trials] (.error e)
  | tried {n : Nat} {trials : List Trial} {added : Bool} {rows : List (List Trial)}
      {result : Except RunError Bool} (row : TriedRow table trials (.ok added))
      (rest : TriedRows table n rows result) :
      TriedRows table (n + 1) (trials :: rows) (result.map fun others => added || others)

/-! ## What follows from it -/

namespace TriedRow

variable {table : Table} {trials : List Trial} {result : Except RunError Bool}

theorem yieldsRow (h : TriedRow table trials result) :
    ∀ trial ∈ trials, table.YieldsRow trial.sql := by
  cases h with
  | untried => exact List.forall_mem_nil _
  | full drawn => exact List.forall_mem_singleton.2 (.full drawn)
  | minimal drawn _ drawnAgain =>
    exact List.forall_mem_cons.2 ⟨.full drawn, List.forall_mem_singleton.2 (.minimal drawnAgain)⟩

theorem length_le (h : TriedRow table trials result) : trials.length ≤ 2 := by
  cases h <;> simp

/-- Of the two forms at most one is accepted. -/
theorem countP_isAccepted_le (h : TriedRow table trials result) :
    trials.countP Trial.isAccepted ≤ 1 := by
  cases h with
  | untried => exact Nat.zero_le _
  | full => exact List.countP_le_length
  | @minimal _ _ trial again _ rejected =>
    rw [List.countP_cons_of_neg (by simp [(Trial.isAccepted_of_outcome rejected).1])]
    exact List.countP_le_length

/-- Something is tried just if the table has columns. -/
theorem eq_nil_iff (h : TriedRow table trials result) : trials = [] ↔ table.columns = [] := by
  cases h with
  | untried h => exact ⟨fun _ => h, fun _ => rfl⟩
  | full drawn =>
    exact ⟨nofun, fun hnil => absurd hnil (Generate.rowInsert?_some drawn).1⟩
  | minimal drawn =>
    exact ⟨nofun, fun hnil => absurd hnil (Generate.rowInsert?_some drawn).1⟩

theorem nil_ok (h : TriedRow table [] result) : result = .ok false := by
  cases h
  rfl

/-- There is a second trial just after a rejection of the first one. -/
theorem again_iff (h : TriedRow table trials result) :
    trials.length = 2 ↔ ∃ first, trials.head? = some first ∧ first.isRejected = true := by
  cases h with
  | untried => simp
  | full _ settled => simp [Trial.isRejected_iff, settled]
  | minimal _ rejected => simp [Trial.isRejected_iff, rejected]

/-- Whatever is tried in front of the last trial was rejected. -/
theorem earlier_isRejected (h : TriedRow table trials result) :
    ∀ trial ∈ trials.dropLast, trial.isRejected = true := by
  cases h with
  | untried => exact List.forall_mem_nil _
  | full => exact List.forall_mem_nil _
  | minimal _ rejected => exact List.forall_mem_singleton.2 (Trial.isRejected_iff.2 rejected)

/-- The row was added just if one of the trials was accepted. -/
theorem added_iff (h : TriedRow table trials result) :
    result = .ok true ↔ trials.countP Trial.isAccepted = 1 := by
  cases h with
  | untried => simp
  | full => simp [← Trial.isAccepted_iff, List.countP_singleton]
  | minimal _ rejected =>
    rw [List.countP_cons_of_neg (by simp [(Trial.isAccepted_of_outcome rejected).1])]
    simp [← Trial.isAccepted_iff, List.countP_singleton]

/-- The row was not added just if no trial was accepted and the connection was not lost. -/
theorem not_added_iff (h : TriedRow table trials result) :
    result = .ok false ↔
      ∀ trial ∈ trials, trial.isAccepted = false ∧ trial.isLost = false := by
  have hrejected (trial : Trial) :
      trial.isAccepted = false ∧ trial.isLost = false ↔ trial.outcome = .ok false := by
    simp [← Trial.isRejected_iff, Trial.isRejected_eq]
  cases h with
  | untried => simp
  | full => simp [hrejected]
  | minimal _ rejected => simp [hrejected, rejected]

end TriedRow

theorem TriedRows.yieldsRow {table : Table} {n : Nat} {rows : List (List Trial)}
    {result : Except RunError Bool} (h : TriedRows table n rows result) :
    ∀ trial ∈ rows.flatten, table.YieldsRow trial.sql := by
  induction h with
  | done => exact List.forall_mem_nil _
  | lost row =>
    rw [List.flatten_singleton]
    exact row.yieldsRow
  | tried row _ ih => exact List.forall_mem_append.2 ⟨row.yieldsRow, ih⟩

/-- Rows that were added without losing the connection: as many as asked for, each tried. -/
theorem TriedRows.of_ok {table : Table} {n : Nat} {rows : List (List Trial)} {added : Bool}
    (h : TriedRows table n rows (.ok added)) :
    rows.length = n ∧ ∀ trials ∈ rows, ∃ added, TriedRow table trials (.ok added) := by
  generalize hok : (Except.ok added : Except RunError Bool) = result at h
  induction h generalizing added with
  | done => exact ⟨rfl, List.forall_mem_nil _⟩
  | lost => cases hok
  | @tried _ _ _ _ result row _ ih =>
    cases result with
    | error e => cases hok
    | ok others =>
      obtain ⟨hlength, hrows⟩ := ih rfl
      exact ⟨congrArg (· + 1) hlength, List.forall_mem_cons.2 ⟨⟨_, row⟩, hrows⟩⟩

/-! ## Targets -/

/-- The table that a statement adds rows to, if it is one. -/
def Sql.insertTarget? (sql : String) : Option String :=
  (sql.toList.dropPrefix? "INSERT INTO ".toList).map fun rest =>
    String.ofList (rest.takeWhile (· != ' '))

/-- The table of a row can be told from its statement. -/
theorem Table.YieldsRow.insertTarget?_eq {table : Table} {sql : String}
    (h : table.YieldsRow sql) (hname : ' ' ∉ table.name.toList) :
    Sql.insertTarget? sql = some table.name := by
  obtain ⟨columns, values, rfl⟩ := h.eq_insertText
  have hopening : ("INSERT INTO " ++ table.name ++ " (").toList =
      "INSERT INTO ".toList ++ (table.name.toList ++ [' ', '(']) := by
    simp [String.toList_append]
  have hchars : ∀ c ∈ table.name.toList, (c != ' ') = true := fun c hc => by
    simpa using fun heq : c = ' ' => hname (heq ▸ hc)
  rw [Sql.insertTarget?, Generate.toList_insertText, hopening, List.append_assoc,
    List.dropPrefix?_append_of_beq _ (by simp), Option.map_some, List.append_assoc,
    List.takeWhile_append_of_pos hchars]
  simp

theorem Table.insertTarget?_createStatement (table : Table) :
    Sql.insertTarget? table.createStatement = none := by
  have hopening : "CREATE TABLE ".toList = 'C' :: "REATE TABLE ".toList := rfl
  have hinsert : "INSERT INTO ".toList = 'I' :: "NSERT INTO ".toList := rfl
  rw [Sql.insertTarget?, toList_createStatement, hopening, hinsert, List.cons_append,
    List.cons_append, List.cons_append, List.dropPrefix?]
  rfl

/-- Whether the statement adds rows to the table of that name, up to the case of letters. -/
def Sql.addsTo (name sql : String) : Bool :=
  (insertTarget? sql).any (Text.equalIgnoringCase · name)

/-- Whether a row goes to a table is decided by the created table that it was made for. -/
theorem Sql.addsTo_eq {sql target created : String} (htarget : insertTarget? sql = some target)
    (hsame : Text.equalIgnoringCase target created = true) (name : String) :
    addsTo name sql = Text.equalIgnoringCase created name := by
  have hfold := eq_of_beq hsame
  rw [addsTo, htarget, Option.any_some, Text.equalIgnoringCase, hfold, ← Text.equalIgnoringCase]

end RowParity
