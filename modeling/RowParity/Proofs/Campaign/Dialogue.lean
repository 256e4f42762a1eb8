import RowParity.Campaign
import RowParity.Proofs.Session.Frame

/-!
# Dialogues

What a session does next depends on its seed and on the answers that it gets, and on nothing else of
its surroundings. To say so, its work is read as a dialogue: a tree of requests that branches on the
answers. `Setting.hold` holds a dialogue with some surroundings. The turns of a dialogue, its
requests with the answers to them, settle everything (`Path.eq_of_answeredAlike`), and surroundings
that keep a record write down just these turns (`Setting.hold_recorded`).
-/

namespace RowParity

variable {σ α β : Type}

/-! ## Requests -/

/-- What a session asks of its surroundings. -/
inductive Request where
  | execute (sql : String)
  | fetch (sql : String)
  | columnNames (sql : String)
  | wallClock
  /-- Whether the budget is used up. -/
  | budget

namespace Request

abbrev Answer : Request → Type
  | execute _ => Except EngineError Unit
  | fetch _ => Except EngineError (List Row)
  | columnNames _ => Except EngineError (List String)
  | wallClock => Moment
  | budget => Bool

/-- The statement of the request, if it is one to the engine. -/
def sql? : Request → Option String
  | execute sql | fetch sql | columnNames sql => some sql
  | wallClock | budget => none

def sent (speaker : Speaker) (request : Request) : List Sent :=
  request.sql?.toList.map (Sent.mk speaker)

end Request

/-- A request and the answer to it. -/
structure Turn where
  request : Request
  answer : request.Answer

/-- The surroundings of a session: a host, and the deadline that holds there. -/
structure Setting (σ : Type) where
  host : Host σ
  deadline : Option Nat

namespace Setting

variable (setting : Setting σ)

def put (speaker : Speaker) : (request : Request) → StateM (Link σ) request.Answer
  | .execute sql => Link.ask speaker sql setting.host.executor.execute
  | .fetch sql => Link.ask speaker sql setting.host.executor.fetch
  | .columnNames sql => Link.ask speaker sql setting.host.executor.columnNames
  | .wallClock => Link.onEngine setting.host.wallClock
  | .budget => Campaign.budgetSpent setting.host setting.deadline

/-! ## Records -/

/-- The step over states that carry a record; the record is left alone. -/
def unnoted (step : StateM σ α) : StateM (σ × List Turn) α := fun (engine, turns) =>
  ((step engine).1, ((step engine).2, turns))

/-- The step over states that carry a record, in which the turn is written down. -/
def noted (turn : α → Turn) (step : StateM σ α) : StateM (σ × List Turn) α :=
  fun (engine, turns) => ((step engine).1, ((step engine).2, turns ++ [turn (step engine).1]))

/-- The look at the budget, as a step of the engine. -/
def isSpent : StateM σ Bool := do
  if ← setting.host.stopRequested then return true
  else
    match setting.deadline with
    | none => return false
    | some moment => return moment ≤ (← setting.host.clock)

/-- The same surroundings with a record of all turns. Looking at the budget is one turn there,
however it comes out. -/
def recorded : Setting (σ × List Turn) where
  host :=
    { executor :=
        { execute sql := noted (fun answer => ⟨.execute sql, answer.result⟩)
            (setting.host.executor.execute sql)
          fetch sql := noted (fun answer => ⟨.fetch sql, answer.result⟩)
            (setting.host.executor.fetch sql)
          columnNames sql := noted (fun answer => ⟨.columnNames sql, answer.result⟩)
            (setting.host.executor.columnNames sql)
          isAlive := unnoted setting.host.executor.isAlive }
      checkout := unnoted setting.host.checkout
      stopRequested := noted (⟨.budget, ·⟩) setting.isSpent
      clock := unnoted setting.host.clock
      wallClock := noted (⟨.wallClock, ·⟩) setting.host.wallClock }
  deadline := none

end Setting

/-- The link with a record of turns beside the engine. -/
def Link.recording (link : Link σ) (turns : List Turn) : Link (σ × List Turn) :=
  { engine := (link.engine, turns), journal := link.journal, transcript := link.transcript }

namespace Setting

variable (setting : Setting σ)

theorem isSpent_apply (engine : σ) :
    setting.isSpent engine =
      match setting.host.stopRequested engine with
      | (true, engine) => (true, engine)
      | (false, engine) =>
        match setting.deadline with
        | none => (false, engine)
        | some moment =>
          (decide (moment ≤ (setting.host.clock engine).1), (setting.host.clock engine).2) := by
  unfold isSpent
  show StateT.bind _ _ engine = _
  unfold StateT.bind
  rcases setting.host.stopRequested engine with ⟨_ | _, engine⟩
  · rcases setting.deadline with _ | moment <;> rfl
  · rfl

theorem budgetSpent_eq :
    Campaign.budgetSpent setting.host setting.deadline = Link.onEngine setting.isSpent := by
  funext link
  unfold Campaign.budgetSpent
  rw [Link.bind_apply]
  unfold Link.onEngine
  rw [isSpent_apply]
  rcases setting.host.stopRequested link.engine with ⟨_ | _, engine⟩
  · rcases setting.deadline with _ | moment <;> rfl
  · rfl

/-- The record has no deadline of its own: the request to stop stands for the whole look. -/
theorem isSpent_recorded :
    setting.recorded.isSpent = noted (⟨.budget, ·⟩) setting.isSpent := by
  funext state
  rw [isSpent_apply]
  unfold recorded noted
  dsimp only
  rcases setting.isSpent state.1 with ⟨_ | _, engine⟩ <;> rfl

theorem put_recorded (speaker : Speaker) (request : Request) (link : Link σ) (turns : List Turn) :
    setting.recorded.put speaker request (link.recording turns) =
      ((setting.put speaker request link).1, (setting.put speaker request link).2.recording
        (turns ++ [⟨request, (setting.put speaker request link).1⟩])) := by
  cases request with
  | execute | fetch | columnNames | wallClock => rfl
  | budget =>
    unfold put
    rw [budgetSpent_eq, budgetSpent_eq, isSpent_recorded]
    rfl

theorem put_transcript (speaker : Speaker) (request : Request) (link : Link σ) :
    (setting.put speaker request link).2.transcript.toList =
      link.transcript.toList ++ request.sent speaker := by
  cases request with
  | execute sql | fetch sql | columnNames sql => exact Array.toList_push
  | wallClock => exact (List.append_nil _).symm
  | budget =>
    show (Campaign.budgetSpent setting.host setting.deadline link).2.transcript.toList = _
    rw [budgetSpent_eq]
    exact (List.append_nil _).symm

end Setting

/-! ## Dialogues -/

inductive Dialogue (α : Type) where
  | done (a : α)
  | tell (entry : Journal.Entry) (next : Dialogue α)
  | ask (speaker : Speaker) (request : Request) (next : request.Answer → Dialogue α)

def Dialogue.bind (next : α → Dialogue β) : Dialogue α → Dialogue β
  | done a => next a
  | tell entry rest => tell entry (rest.bind next)
  | ask speaker request rest => ask speaker request fun answer => (rest answer).bind next

namespace Setting

variable (setting : Setting σ)

/-- Holds a dialogue with the surroundings. -/
def hold : Dialogue α → StateM (Link σ) α
  | .done a, link => (a, link)
  | .tell entry next, link =>
    hold next { link with journal := ⟨link.journal.entries.push entry⟩ }
  | .ask speaker request next, link =>
    let put := setting.put speaker request link
    hold (next put.1) put.2

theorem hold_bind (d : Dialogue α) (next : α → Dialogue β) (link : Link σ) :
    setting.hold (d.bind next) link =
      setting.hold (next (setting.hold d link).1) (setting.hold d link).2 := by
  induction d generalizing link with
  | done a => rfl
  | tell entry rest ih => exact ih _
  | ask speaker request rest ih => exact ih _ _

end Setting

/-- The dialogue can go through these turns, in which these statements are sent, to this value. -/
inductive Path : Dialogue α → List Turn → List Sent → α → Prop
  | done (a : α) : Path (.done a) [] [] a
  | tell {next : Dialogue α} {turns : List Turn} {sent : List Sent} {a : α} (entry : Journal.Entry)
      (rest : Path next turns sent a) : Path (.tell entry next) turns sent a
  | ask {speaker : Speaker} {request : Request} {next : request.Answer → Dialogue α}
      {turns : List Turn} {sent : List Sent} {a : α} (answer : request.Answer)
      (rest : Path (next answer) turns sent a) :
      Path (.ask speaker request next) (⟨request, answer⟩ :: turns) (request.sent speaker ++ sent) a

/-- What is sent on the way are the statements of the turns. -/
theorem Path.map_sql {d : Dialogue α} {turns : List Turn} {sent : List Sent} {a : α}
    (h : Path d turns sent a) : sent.map Sent.sql = turns.filterMap (·.request.sql?) := by
  induction h with
  | done a => rfl
  | tell entry _ ih => exact ih
  | @ask speaker request next turns sent a answer _ ih =>
    rw [List.map_append, ih, Request.sent, List.map_map, List.filterMap_cons]
    cases request.sql? with
    | none => simp
    | some sql => simp

/-- A dialogue that is held goes through turns, and a record of it holds just these. -/
theorem Setting.hold_recorded (setting : Setting σ) (d : Dialogue α) (link : Link σ) :
    ∃ turns sent, Path d turns sent (setting.hold d link).1 ∧
      (setting.hold d link).2.transcript.toList = link.transcript.toList ++ sent ∧
      ∀ earlier, setting.recorded.hold d (link.recording earlier) =
        ((setting.hold d link).1, (setting.hold d link).2.recording (earlier ++ turns)) := by
  induction d generalizing link with
  | done a => exact ⟨[], [], .done a, (List.append_nil _).symm, fun earlier => by simp [hold]⟩
  | tell entry next ih =>
    obtain ⟨turns, sent, hpath, hsent, hrecord⟩ :=
      ih { link with journal := ⟨link.journal.entries.push entry⟩ }
    exact ⟨turns, sent, .tell entry hpath, hsent, hrecord⟩
  | ask speaker request next ih =>
    have hput := setting.put_transcript speaker request link
    obtain ⟨turns, sent, hpath, hsent, hrecord⟩ :=
      ih (setting.put speaker request link).1 (setting.put speaker request link).2
    refine ⟨_, _, .ask _ hpath, ?_, fun earlier => ?_⟩
    · rw [← List.append_assoc, ← hput]
      exact hsent
    · unfold hold
      rw [put_recorded]
      dsimp only
      rw [hrecord, List.append_assoc]
      rfl

/-! ## Equal answers -/

/-- Whenever the requests have been the same so far, the last of them is answered equally. -/
def AnsweredAlike (turns turns' : List Turn) : Prop :=
  ∀ earlier earlier' turn turn' later later', turns = earlier ++ turn :: later →
    turns' = earlier' ++ turn' :: later' →
    (earlier ++ [turn]).map Turn.request = (earlier' ++ [turn']).map Turn.request → turn = turn'

theorem AnsweredAlike.head {turn turn' : Turn} {turns turns' : List Turn}
    (h : AnsweredAlike (turn :: turns) (turn' :: turns'))
    (hrequest : turn.request = turn'.request) : turn = turn' :=
  h [] [] turn turn' turns turns' rfl rfl (congrArg (fun request => [request]) hrequest)

theorem AnsweredAlike.tail {turn : Turn} {turns turns' : List Turn}
    (h : AnsweredAlike (turn :: turns) (turn :: turns')) : AnsweredAlike turns turns' := by
  rintro earlier earlier' t t' later later' rfl rfl hsame
  exact h (turn :: earlier) (turn :: earlier') t t' later later' rfl rfl
    (congrArg (turn.request :: ·) hsame)

theorem AnsweredAlike.refl (turns : List Turn) : AnsweredAlike turns turns := by
  rintro earlier earlier' turn turn' later later' rfl hturns hrequests
  have hlength := congrArg List.length hrequests
  simp only [List.length_map, List.length_append, List.length_singleton] at hlength
  obtain ⟨-, hrest⟩ := List.append_inj hturns (by omega)
  cases hrest
  rfl

/-- **Equal answers to equal requests lead the same way.** -/
theorem Path.eq_of_answeredAlike {d : Dialogue α} {turns turns' : List Turn}
    {sent sent' : List Sent} {a a' : α} (h : Path d turns sent a) (h' : Path d turns' sent' a')
    (halike : AnsweredAlike turns turns') : turns = turns' ∧ sent = sent' ∧ a = a' := by
  induction h generalizing turns' sent' with
  | done a =>
    cases h'
    exact ⟨rfl, rfl, rfl⟩
  | tell entry _ ih =>
    cases h' with
    | tell _ rest' => exact ih rest' halike
  | ask answer _ ih =>
    cases h' with
    | ask answer' rest' =>
      cases halike.head rfl
      obtain ⟨rfl, rfl, rfl⟩ := ih rest' halike.tail
      exact ⟨rfl, rfl, rfl⟩

/-! ## Surroundings that agree -/

namespace Setting

variable {σ' : Type} {setting : Setting σ} {setting' : Setting σ'}

/-- The answer to a request, as a step of the engine. -/
def reply (setting : Setting σ) : (request : Request) → StateM σ request.Answer
  | .execute sql, engine =>
    let answered := setting.host.executor.execute sql engine
    (answered.1.result, answered.2)
  | .fetch sql, engine =>
    let answered := setting.host.executor.fetch sql engine
    (answered.1.result, answered.2)
  | .columnNames sql, engine =>
    let answered := setting.host.executor.columnNames sql engine
    (answered.1.result, answered.2)
  | .wallClock, engine => setting.host.wallClock engine
  | .budget, engine => setting.isSpent engine

theorem put_reply (setting : Setting σ) (speaker : Speaker) (request : Request) (link : Link σ) :
    setting.reply request link.engine =
      ((setting.put speaker request link).1, (setting.put speaker request link).2.engine) := by
  cases request with
  | execute | fetch | columnNames | wallClock => rfl
  | budget =>
    unfold put
    rw [budgetSpent_eq]
    rfl

/-- From related states on, both surroundings answer every request equally. -/
def Agree (setting : Setting σ) (setting' : Setting σ') (Related : σ → σ' → Prop) : Prop :=
  ∀ engine engine', Related engine engine' → ∀ request,
    (setting.reply request engine).1 = (setting'.reply request engine').1 ∧
      Related (setting.reply request engine).2 (setting'.reply request engine').2

/-- In surroundings that agree, a dialogue takes the same turns. -/
theorem Agree.recorded_eq {Related : σ → σ' → Prop} (h : Agree setting setting' Related)
    (d : Dialogue α) {link : Link σ} {link' : Link σ'} (hrelated : Related link.engine link'.engine)
    (earlier : List Turn) :
    (setting.recorded.hold d (link.recording earlier)).2.engine.2 =
      (setting'.recorded.hold d (link'.recording earlier)).2.engine.2 := by
  induction d generalizing link link' earlier with
  | done a => rfl
  | tell entry next ih =>
    exact @ih { link with journal := ⟨link.journal.entries.push entry⟩ }
      { link' with journal := ⟨link'.journal.entries.push entry⟩ } hrelated earlier
  | ask speaker request next ih =>
    obtain ⟨hanswer, hnext⟩ := h _ _ hrelated request
    rw [setting.put_reply speaker, setting'.put_reply speaker] at hanswer hnext
    unfold hold
    rw [put_recorded, put_recorded]
    dsimp only at hanswer hnext ⊢
    rw [hanswer]
    exact ih _ hnext _

end Setting

end RowParity
