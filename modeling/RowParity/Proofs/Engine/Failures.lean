import RowParity.Proofs.Engine.Calls

/-!
# How failures are sorted

The probing executor sends a statement once. If that fails, at whatever stage, it sends the probe
once, and the failure is one of the statement or of the connection as the probe succeeds or fails
(`probing_sorts`). Rows are taken one by one and cell by cell: either all of them come out as they
are or none (`fetchRows_eq`).
-/

namespace RowParity

variable {σ τ α : Type}

/-! ## Reading rows -/

namespace Reply

/-- All rows have a cell in each column and no more. -/
def IsEven (reply : Reply) : Prop :=
  ∀ row ∈ reply.rows, row.length = reply.width

theorem cellsFrom_eq {row : Row} {i n : Nat} (h : i + n ≤ row.length) :
    cellsFrom row i n = .ok ((row.drop i).take n) := by
  induction n generalizing i with
  | zero => rfl
  | succ n ih =>
    have hi : i < row.length := by omega
    have hcell : cellAt row i = .ok row[i] := by rw [cellAt, List.getElem?_eq_getElem hi]
    have hothers := ih (i := i + 1) (by omega)
    rw [cellsFrom, hcell, hothers, List.drop_eq_getElem_cons hi, List.take_succ_cons]
    rfl

theorem rowsFrom_cons {width : Nat} {row : Row} (h : row.length = width)
    (interruption : Option String) (rows : List Row) :
    rowsFrom width interruption (row :: rows) =
      (rowsFrom width interruption rows).map (row :: ·) := by
  have hcells : cellsFrom row 0 width = .ok row := by
    rw [cellsFrom_eq (by omega), List.drop_zero, ← h, List.take_length]
  rw [rowsFrom, hcells]
  rfl

/-- Rows in front of an interruption are lost. -/
theorem rowsFrom_interrupted {width : Nat} {rows : List Row}
    (h : ∀ row ∈ rows, row.length = width) (text : String) :
    rowsFrom width (some text) rows = .error text := by
  induction rows with
  | nil => rfl
  | cons row rows ih =>
    obtain ⟨hrow, hrows⟩ := List.forall_mem_cons.1 h
    rw [rowsFrom_cons hrow, ih hrows]
    rfl

theorem rowsFrom_whole {width : Nat} {rows : List Row} (h : ∀ row ∈ rows, row.length = width) :
    rowsFrom width none rows = .ok rows := by
  induction rows with
  | nil => rfl
  | cons row rows ih =>
    obtain ⟨hrow, hrows⟩ := List.forall_mem_cons.1 h
    rw [rowsFrom_cons hrow, ih hrows]
    rfl

/-- **All rows or none**, in order and with all their cells. -/
theorem fetchRows_eq {reply : Reply} (h : reply.IsEven) :
    reply.fetchRows = reply.readAll.map Reply.rows := by
  unfold fetchRows readAll
  cases reply.interruption with
  | none => exact rowsFrom_whole h
  | some text => exact rowsFrom_interrupted h text

end Reply

/-- Every result of the engine has rows of one length. -/
def Engine.IsEven (engine : Engine σ) : Prop :=
  ∀ sql state reply, (engine.call sql state).1 = .ok reply → reply.IsEven

/-! ## Stages of a statement -/

/-- A way to hand a statement to an executor: whether it reads the rows of a reply, and what of a
reply it gives back. -/
inductive Executor.Use (x : Executor τ) :
    {α : Type} → (String → StateM τ (Answer α)) → Bool → (Reply → α) → Prop
  | execute : Use x x.execute true fun _ => ()
  | fetch : Use x x.fetch true Reply.rows
  | columnNames : Use x x.columnNames false Reply.names

/-- The statement is served by this reply: it was taken, and its rows are read to the end if they
are read at all. -/
inductive Served (reads : Bool) : Except String Reply → Reply → Prop
  | intro {reply : Reply} (whole : reads = true → reply.interruption = none) :
      Served reads (.ok reply) reply

/-- The statement fails with this text. -/
inductive Failed (reads : Bool) : Except String Reply → String → Prop
  /-- It was rejected when it was prepared or run. -/
  | rejected {text : String} : Failed reads (.error text) text
  /-- It was taken, and then reading its rows failed. -/
  | interrupted {reply : Reply} {text : String} (read : reads = true)
      (broken : reply.interruption = some text) : Failed reads (.ok reply) text

theorem served_or_failed (reads : Bool) (sent : Except String Reply) :
    (∃ reply, Served reads sent reply) ∨ ∃ text, Failed reads sent text := by
  cases sent with
  | error text => exact .inr ⟨text, .rejected⟩
  | ok reply =>
    cases hinterruption : reply.interruption with
    | none => exact .inl ⟨reply, .intro fun _ => hinterruption⟩
    | some text =>
      cases reads with
      | false => exact .inl ⟨reply, .intro nofun⟩
      | true => exact .inr ⟨text, .interrupted rfl hinterruption⟩

theorem Served.eq_ok {reads : Bool} {sent : Except String Reply} {reply : Reply}
    (h : Served reads sent reply) : sent = .ok reply := by
  cases h
  rfl

namespace Engine

/-- Of a reply with even rows, `read` gives what is due: the value if it is served, and its error if
it breaks off while rows are read. -/
structure IsReading (read : Reply → Except String α) (reads : Bool) (value : Reply → α) :
    Prop where
  whole : ∀ {reply : Reply}, reply.IsEven → (reads = true → reply.interruption = none) →
    read reply = .ok (value reply)
  broken : ∀ {reply : Reply} {text : String}, reply.IsEven → reads = true →
    reply.interruption = some text → read reply = .error text

theorem isReading_readAll (value : Reply → α) :
    IsReading (fun reply => reply.readAll.map value) true value where
  whole _ h := by rw [Reply.readAll, h rfl]; rfl
  broken _ _ h := by rw [Reply.readAll, h]; rfl

theorem isReading_fetchRows : IsReading Reply.fetchRows true Reply.rows where
  whole heven h := by rw [Reply.fetchRows_eq heven]; exact (isReading_readAll _).whole heven h
  broken heven hreads h := by
    rw [Reply.fetchRows_eq heven]
    exact (isReading_readAll _).broken heven hreads h

theorem isReading_names : IsReading (fun reply => .ok reply.names) false Reply.names where
  whole _ _ := rfl
  broken _ := nofun

/-- All uses of the probing executor are one definition with different readings. -/
theorem exists_isReading {engine : Engine τ} {call : String → StateM τ (Answer α)} {reads : Bool}
    {value : Reply → α} (use : engine.probing.Use call reads value) :
    ∃ read, IsReading read reads value ∧ call = engine.probedAnswer read := by
  cases use with
  | execute => exact ⟨_, isReading_readAll _, rfl⟩
  | fetch => exact ⟨_, isReading_fetchRows, rfl⟩
  | columnNames => exact ⟨_, isReading_names, rfl⟩

theorem recorded_isEven {engine : Engine σ} (h : engine.IsEven) : engine.recorded.IsEven :=
  fun sql state reply => h sql state.1 reply

section

variable {engine : Engine τ} {call : String → StateM τ (Answer α)} {reads : Bool}
  {value : Reply → α} {sql : String} {state : τ}

theorem probing_served (use : engine.probing.Use call reads value) (heven : engine.IsEven)
    {reply : Reply} (h : Served reads (engine.call (Sql.bare sql) state).1 reply) :
    call sql state = ({ result := .ok (value reply) }, (engine.call (Sql.bare sql) state).2) := by
  obtain ⟨read, hread, rfl⟩ := exists_isReading use
  refine probedAnswer_of_ok ?_
  have hreply := heven (Sql.bare sql) state reply h.eq_ok
  generalize (engine.call (Sql.bare sql) state).1 = sent at h
  obtain ⟨hwhole⟩ := h
  exact hread.whole hreply hwhole

theorem probing_failed (use : engine.probing.Use call reads value) (heven : engine.IsEven)
    {text : String} (h : Failed reads (engine.call (Sql.bare sql) state).1 text) :
    call sql state =
      engine.classified (Sql.bare sql) text (engine.call (Sql.bare sql) state).2 := by
  obtain ⟨read, hread, rfl⟩ := exists_isReading use
  refine probedAnswer_of_error ?_
  have hreply := heven (Sql.bare sql) state
  generalize (engine.call (Sql.bare sql) state).1 = sent at h hreply
  cases h with
  | rejected => rfl
  | interrupted hreads hbroken => exact hread.broken (hreply _ rfl) hreads hbroken

end

/-- What a failure is one of is decided by the probe alone. -/
theorem classified_sorts (engine : Engine τ) (sql text : String) (state : τ) :
    ((engine.classified sql text state : Answer α × τ).1.result = .error (.statement sql text) ↔
      (engine.callAndRead probeStatement state).1.isOk = true) ∧
    ((engine.classified sql text state : Answer α × τ).1.result = .error (.connection text) ↔
      (engine.callAndRead probeStatement state).1.isOk = false) := by
  rcases hprobe : engine.callAndRead probeStatement state with ⟨_ | _, _⟩
  · rw [classified_of_error hprobe]
    simp [Except.isOk, Except.toBool]
  · rw [classified_of_ok hprobe]
    simp [Except.isOk, Except.toBool]

/-- **Failures are sorted by one probe.** A statement is sent bare and once. If its reply serves the
use that is made of it, that is the answer, and nothing else is sent. If it is rejected, or breaks
off while rows are read, nothing of a reply is given back and one probe follows: the error is one of
the statement just if the probe succeeds and one of the connection just if it fails. -/
theorem probing_sorts {engine : Engine σ} (heven : engine.IsEven)
    {call : String → StateM (σ × List String) (Answer α)} {reads : Bool} {value : Reply → α}
    (use : engine.recorded.probing.Use call reads value) (sql : String) (state : σ)
    (calls : List String) :
    let sent := engine.call (Sql.bare sql) state
    let probed := engine.callAndRead probeStatement sent.2
    let done := call sql (state, calls)
    (∀ reply, Served reads sent.1 reply →
      done = ({ result := .ok (value reply) }, sent.2, calls ++ [Sql.bare sql])) ∧
    (∀ text, Failed reads sent.1 text →
      done.2 = (probed.2, calls ++ [Sql.bare sql, probeStatement]) ∧
      (done.1.result = .error (.statement (Sql.bare sql) text) ↔ probed.1.isOk = true) ∧
      (done.1.result = .error (.connection text) ↔ probed.1.isOk = false)) ∧
    ((∃ reply, Served reads sent.1 reply) ∨ ∃ text, Failed reads sent.1 text) := by
  intro sent probed done
  have heven' := recorded_isEven heven
  refine ⟨fun reply hserved => ?_, fun text hfailed => ?_, served_or_failed reads sent.1⟩
  · have hrecorded : Served reads (engine.recorded.call (Sql.bare sql) (state, calls)).1 reply :=
      hserved
    exact probing_served use heven' hrecorded
  · have hrecorded : Failed reads (engine.recorded.call (Sql.bare sql) (state, calls)).1 text :=
      hfailed
    have hdone : done = engine.recorded.classified (Sql.bare sql) text
        (sent.2, calls ++ [Sql.bare sql]) := probing_failed use heven' hrecorded
    have hstate := (classified_apply (α := α) engine.recorded (Sql.bare sql) text
      (sent.2, calls ++ [Sql.bare sql])).2
    rw [probe_apply, recorded_callAndRead, List.append_assoc] at hstate
    rw [hdone]
    exact ⟨hstate, classified_sorts engine.recorded (Sql.bare sql) text _⟩

/-- Two rows and then no more. -/
def halfVisits : Reply where
  names := ["id", "day"]
  rows := [[.integer .int 1, .text "Monday"], [.integer .int 2, .null]]
  interruption := some "out of memory"

/-- An engine that answers as many statements as its state says, and breaks off in the visits. -/
def weary : Engine Nat where
  call sql
    | 0 => (.error "connection closed", 0)
    | left + 1 => (.ok (if sql = "SELECT * FROM visits" then halfVisits else {}), left)
  isConnected left := left != 0

theorem weary_isEven : weary.IsEven := by
  intro sql state reply h
  cases state with
  | zero => cases h
  | succ left =>
    have hreply : (if sql = "SELECT * FROM visits" then halfVisits else {}) = reply :=
      Except.ok.inj h
    rw [← hreply]
    split
    · unfold Reply.IsEven
      simp [halfVisits, Reply.width]
    · exact List.forall_mem_nil _

theorem weary_visits (left : Nat) :
    weary.call (Sql.bare "SELECT * FROM visits;") (left + 1) = (.ok halfVisits, left) :=
  rfl

theorem probing_sorts_weary :
    weary.IsEven ∧
      weary.recorded.probing.columnNames "SELECT * FROM visits;" (1, []) =
        ({ result := .ok ["id", "day"] }, 0, ["SELECT * FROM visits"]) ∧
      (weary.recorded.probing.fetch "SELECT * FROM visits;" (2, [])).1.result =
        .error (.statement "SELECT * FROM visits" "out of memory") ∧
      (weary.recorded.probing.fetch "SELECT * FROM visits;" (1, [])).1.result =
        .error (.connection "out of memory") := by
  have hnames : Served false (weary.call (Sql.bare "SELECT * FROM visits;") 1).1 halfVisits :=
    .intro nofun
  have hbroken : ∀ left,
      Failed true (weary.call (Sql.bare "SELECT * FROM visits;") (left + 1)).1 "out of memory" := by
    intro left
    rw [weary_visits]
    exact .interrupted rfl rfl
  obtain ⟨hserved, -, -⟩ :=
    probing_sorts weary_isEven .columnNames "SELECT * FROM visits;" 1 []
  obtain ⟨-, hstatement, -⟩ := probing_sorts weary_isEven .fetch "SELECT * FROM visits;" 2 []
  obtain ⟨-, hconnection, -⟩ := probing_sorts weary_isEven .fetch "SELECT * FROM visits;" 1 []
  exact ⟨weary_isEven, hserved halfVisits hnames, (hstatement _ (hbroken 1)).2.1.2 rfl,
    (hconnection _ (hbroken 0)).2.2.2 rfl⟩

end Engine

end RowParity
