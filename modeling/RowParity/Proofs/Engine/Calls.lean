import RowParity.Engine.Probing

/-!
# The calls of an engine

A recorded engine writes down every text that it is called with (`Engine.recorded`). Through it can
be seen what the probing executor makes of a statement: it calls the engine once with the bare
statement and, if that fails, once more with the probe (`Engine.probing_calls`).
-/

namespace RowParity

variable {σ τ α β : Type}

/-- The ways to hand a statement to an executor. -/
inductive Executor.Entry (x : Executor σ) : {α : Type} → (String → StateM σ (Answer α)) → Prop
  | execute : Entry x x.execute
  | fetch : Entry x x.fetch
  | columnNames : Entry x x.columnNames

namespace Engine

theorem bind_apply (step : StateM τ α) (next : α → StateM τ β) (state : τ) :
    (step >>= next) state = next (step state).1 (step state).2 :=
  rfl

theorem probe_apply (engine : Engine τ) (state : τ) :
    engine.probe state =
      ((engine.callAndRead probeStatement state).1.isOk,
        (engine.callAndRead probeStatement state).2) := by
  rw [probe, bind_apply]
  rcases engine.callAndRead probeStatement state with ⟨_ | _, _⟩ <;> rfl

/-- A failure in front of a connection that still answers is one of the statement. -/
theorem classified_of_ok {engine : Engine τ} {state state' : τ} {reply : Reply}
    (h : engine.callAndRead probeStatement state = (.ok reply, state')) (sql text : String) :
    (engine.classified sql text state : Answer α × τ) =
      ({ result := .error (.statement sql text) }, state') := by
  rw [classified, bind_apply, probe_apply, h]
  rfl

/-- A failure in front of a connection that answers nothing any more is one of the connection. -/
theorem classified_of_error {engine : Engine τ} {state state' : τ} {reason : String}
    (h : engine.callAndRead probeStatement state = (.error reason, state')) (sql text : String) :
    (engine.classified sql text state : Answer α × τ) =
      ({ result := .error (.connection text), notices := [probeFailed text] }, state') := by
  rw [classified, bind_apply, probe_apply, h]
  rfl

/-- A failure stays a failure, whatever the probe says. -/
theorem classified_apply (engine : Engine τ) (sql text : String) (state : τ) :
    (engine.classified sql text state : Answer α × τ).1.result.isOk = false ∧
      (engine.classified sql text state : Answer α × τ).2 = (engine.probe state).2 := by
  rw [probe_apply]
  rcases hprobe : engine.callAndRead probeStatement state with ⟨_ | _, _⟩
  · rw [classified_of_error hprobe]
    exact ⟨rfl, rfl⟩
  · rw [classified_of_ok hprobe]
    exact ⟨rfl, rfl⟩

theorem probedAnswer_of_ok {engine : Engine τ} {read : Reply → Except String α} {sql : String}
    {state : τ} {a : α} (h : (engine.call (Sql.bare sql) state).1 >>= read = .ok a) :
    engine.probedAnswer read sql state =
      ({ result := .ok a }, (engine.call (Sql.bare sql) state).2) := by
  unfold probedAnswer
  rw [bind_apply, h]
  rfl

theorem probedAnswer_of_error {engine : Engine τ} {read : Reply → Except String α} {sql : String}
    {state : τ} {text : String}
    (h : (engine.call (Sql.bare sql) state).1 >>= read = .error text) :
    engine.probedAnswer read sql state =
      engine.classified (Sql.bare sql) text (engine.call (Sql.bare sql) state).2 := by
  unfold probedAnswer
  rw [bind_apply, h]

/-- The engine with a record of the texts of its calls, oldest first. -/
def recorded (engine : Engine σ) : Engine (σ × List String) where
  call sql := fun (state, calls) =>
    let (reply, state) := engine.call sql state
    (reply, (state, calls ++ [sql]))
  isConnected := fun (state, _) => engine.isConnected state

/-- The calls that a statement gives rise to: the bare statement, and a probe after a failure. -/
def callsOf (sql : String) (failed : Bool) : List String :=
  Sql.bare sql :: if failed then [probeStatement] else []

theorem recorded_callAndRead (engine : Engine σ) (sql : String) (state : σ) (calls : List String) :
    engine.recorded.callAndRead sql (state, calls) =
      ((engine.callAndRead sql state).1, (engine.callAndRead sql state).2, calls ++ [sql]) :=
  rfl

theorem probe_calls (engine : Engine σ) (state : σ × List String) :
    (engine.recorded.probe state).2.2 = state.2 ++ [probeStatement] := by
  rw [probe_apply]
  rfl

theorem probedAnswer_calls (engine : Engine σ) (read : Reply → Except String α) (sql : String)
    (state : σ × List String) :
    (engine.recorded.probedAnswer read sql state).2.2 =
      state.2 ++ callsOf sql (!(engine.recorded.probedAnswer read sql state).1.result.isOk) := by
  have hsent : (engine.recorded.call (Sql.bare sql) state).2.2 = state.2 ++ [Sql.bare sql] := rfl
  cases hread : (engine.recorded.call (Sql.bare sql) state).1 >>= read with
  | ok a => rw [probedAnswer_of_ok hread, hsent]; rfl
  | error text =>
    rw [probedAnswer_of_error hread]
    obtain ⟨hfailed, hstate⟩ := classified_apply (α := α) engine.recorded (Sql.bare sql) text
      (engine.recorded.call (Sql.bare sql) state).2
    rw [hfailed, hstate, probe_calls, hsent, List.append_assoc]
    rfl

/-- However a statement is handed to the probing executor, the engine is called with the bare
statement, and probed just if that failed. -/
theorem probing_calls {engine : Engine σ} {call : String → StateM (σ × List String) (Answer α)}
    (entry : engine.recorded.probing.Entry call) (sql : String) (state : σ × List String) :
    (call sql state).2.2 = state.2 ++ callsOf sql (!(call sql state).1.result.isOk) := by
  cases entry with
  | execute | fetch | columnNames => exact probedAnswer_calls engine _ sql state

end Engine

end RowParity
