import Almanac.Proofs.Steps

/-!
# Statements, their count and the log

Three things tell of the statements that were given to a database: their answers, the count in
the statistics, and the lines in the log. They tell the same. A statement that is answered
is counted and logged with its number of rows, one with a fault of its own is logged with that
fault, and any other one leaves nothing behind. Nor does what is done past the database to the
store that it shares.

The log is taken as a reader of it finds it, by levels and texts.

* `line_of_not_isStatement`: **no other message reads like one about a statement.**
* `step_tally`: **what one step counts and logs is what was answered and refused.**
* `session_tally`: so it is from any moment of a session to any later one.
* `statement_accounting`: **answers, count and log agree**, from the opening on.
-/

namespace Almanac

open Outcome

/-! ## Lines -/

/-- An event as a line of the log. -/
def Event.line (e : Event) : Line := (e.level, e.message)

/-- The event is about a statement that was given to a database. -/
def Event.isStatement : Event → Bool
  | statementDone _ | statementFailed _ => true
  | _ => false

/-- The lines that an operation logs. -/
def Outcome.lines {σ α : Type} (o : Outcome σ α) : List Line := o.events.map Event.line

namespace Line

/-- The line says that a statement was completed. -/
def isCompletion (l : Line) : Bool := l.1 = .info && "语句执行完成".toList.isPrefixOf l.2

/-- The line is an error. -/
def isError (l : Line) : Bool := l.1 = .error

/-- The line for a statement that was answered with these rows. -/
def completed (rows : List Record) : Line :=
  (.info, "语句执行完成，返回 ".toList ++ Text.ofNat rows.length ++ " 条结果".toList)

/-- The line for a statement that was refused. -/
def refused (e : QueryError) : Line := (.error, "语句执行失败: ".toList ++ e.message)

end Line

/-- **No other message reads like one about a statement.** -/
theorem line_of_not_isStatement {e : Event} (h : e.isStatement = false) :
    e.line.isCompletion = false ∧ e.line.isError = false := by
  cases e with
  | statementDone rows => cases h
  | statementFailed error => cases h
  | _ => exact ⟨rfl, rfl⟩

/-! ## What is logged past the statements -/

/-- Nothing that was logged is about a statement. -/
def Outcome.Quiet {σ α : Type} (o : Outcome σ α) : Prop := ∀ e ∈ o.events, e.isStatement = false

section

variable {σ α β : Type} {o : Outcome σ α}

theorem Outcome.quiet_of_no_events (h : o.events = []) : o.Quiet := by
  intro e he
  rw [h] at he
  cases he

theorem Outcome.quiet_of_event {event : Event} (h : o.events = [event])
    (hevent : event.isStatement = false) : o.Quiet := by
  intro e he
  rw [h] at he
  rw [List.mem_singleton.1 he, hevent]

/-- An event that is not about a statement may be logged. -/
theorem Outcome.note_quiet {event : Event} (state : σ) (h : event.isStatement = false) :
    (note event state).Quiet := by
  intro e he
  rw [eq_of_mem_note he, h]

theorem Outcome.Quiet.andThen {next : α → σ → Outcome σ β} (h : o.Quiet)
    (hnext : ∀ a s, (next a s).Quiet) : (o.andThen next).Quiet := by
  cases hresult : o.result with
  | error f =>
    rw [andThen_of_error hresult]
    exact h
  | ok a =>
    rw [andThen_of_ok hresult]
    intro e he
    rcases List.mem_append.1 he with he | he
    · exact h e he
    · exact hnext a o.state e he

/-- Wrapping an answer logs nothing. -/
theorem Outcome.Quiet.wrapped (h : o.Quiet) (wrap : α → β) :
    (o.andThen fun a s => ⟨.ok (wrap a), s, []⟩).Quiet :=
  h.andThen fun _ _ => quiet_of_no_events rfl

end

namespace Store

theorem silent_quiet {α : Type} (s : Store) (r : Except Fault (α × Store)) :
    (Outcome.silent s r).Quiet := by
  cases r with
  | error f => exact quiet_of_no_events rfl
  | ok p => exact quiet_of_no_events rfl

theorem createLogged_quiet (s : Store) (name : Value) (columns : List Text) :
    (s.createLogged name columns).Quiet := by
  unfold createLogged
  split
  · exact (note_quiet _ rfl).andThen fun _ _ => quiet_of_no_events rfl
  · exact (note_quiet _ rfl).andThen fun _ _ => quiet_of_no_events rfl
  · exact quiet_of_no_events rfl

theorem appendAll_quiet (name : Value) (rows : List Record) (s : Store) :
    (appendAll name rows s).Quiet := by
  induction rows generalizing s with
  | nil => exact quiet_of_no_events rfl
  | cons values rest ih => exact (silent_quiet s _).andThen fun _ s => ih s

/-- Making the initial tables is not about statements. -/
theorem initialise_quiet (settings : StorageSettings) (s : Store) :
    (s.initialise settings).Quiet := by
  unfold initialise
  refine (note_quiet s rfl).andThen fun _ s => ?_
  refine (createLogged_quiet s _ _).andThen fun _ s => ?_
  refine (createLogged_quiet s _ _).andThen fun _ s => ?_
  refine (appendAll_quiet _ _ s).andThen fun _ s => ?_
  exact (appendAll_quiet _ _ s).andThen fun _ s => note_quiet s rfl

theorem ready_quiet (mode : Value) : (ready mode).Quiet := by
  unfold ready
  refine (note_quiet _ rfl).andThen fun _ s => (note_quiet s rfl).andThen fun _ s => ?_
  exact (note_quiet s rfl).andThen fun _ _ => quiet_of_no_events rfl

/-- What is asked of the store itself is not about statements given to a database. -/
theorem step_quiet (mode : Mode) (s : Store) (st : Step) : (s.step mode st).Quiet := by
  cases st with
  | create table columns => exact (createLogged_quiet s table columns).wrapped _
  | append table values => exact (silent_quiet s _).wrapped _
  | execute statement => exact (silent_quiet s _).wrapped _
  | executeParsed statement =>
    -- a new executor says that it is there
    exact (note_quiet s rfl).andThen fun _ s => (silent_quiet s _).wrapped _
  | _ => exact quiet_of_no_events rfl

end Store

namespace Database

variable {db : Database} {c : Config}

theorem onStore_quiet {α : Type} {o : Outcome Store α} (h : o.Quiet) : (db.onStore o).Quiet := h

/-- What is no statement is logged as none. -/
theorem step_quiet_of_other {st : DatabaseStep}
    (hstatement : ∀ statement, st ≠ .shared (.execute statement)) : (db.step st).Quiet := by
  cases st with
  | shared st =>
    have hother : ∀ statement, st ≠ .execute statement := by
      rintro statement rfl
      exact hstatement statement rfl
    rw [step_shared hother]
    exact (onStore_quiet (Store.step_quiet db.mode db.store st)).wrapped _
  | initialise => exact (onStore_quiet (Store.initialise_quiet _ db.store)).wrapped _
  | set sec key value =>
    rw [step]
    split
    · exact quiet_of_no_events rfl
    · exact quiet_of_no_events rfl
  | statistics => exact quiet_of_no_events rfl
  | close => exact quiet_of_event rfl rfl
  | enter => exact quiet_of_no_events rfl

theorem opened_quiet (c : Config) : (opened c).Quiet := by
  unfold opened
  refine Quiet.andThen ?_ fun _ db => (note_quiet db rfl).andThen fun _ db => ?_
  · exact onStore_quiet (Store.ready_quiet _)
  · exact (onStore_quiet (Store.initialise_quiet _ db.store)).andThen fun _ db => note_quiet db rfl

/-! ## The tally -/

/-- The rows that a statement given to a database was answered with. -/
def answer? (p : DatabaseStep × Outcome Database DatabaseAnswer) : Option (List Record) :=
  match p.1, p.2.result with
  | .shared (.execute _), .ok (.shared (.rows rows)) => some rows
  | _, _ => none

/-- The fault of its own that a statement given to a database was refused for. -/
def refusal? (p : DatabaseStep × Outcome Database DatabaseAnswer) : Option QueryError :=
  match p.1, p.2.result with
  | .shared (.execute _), .error (.query error) => some error
  | _, _ => none

/-- What is no statement, or fails for another reason, is neither answered nor refused. -/
theorem tells_nothing {st : DatabaseStep} {o : Outcome Database DatabaseAnswer}
    (h : (∀ statement, st ≠ .shared (.execute statement)) ∨
      ∃ f, o.result = .error f ∧ ∀ e, f ≠ .query e) :
    answer? (st, o) = none ∧ refusal? (st, o) = none := by
  constructor
  · unfold answer?
    split
    · rename_i statement rows hst hresult
      rcases h with h | ⟨f, hf, -⟩
      · exact absurd hst (h statement)
      · rw [hf] at hresult; cases hresult
    · rfl
  · unfold refusal?
    split
    · rename_i statement error hst hresult
      rcases h with h | ⟨f, hf, hother⟩
      · exact absurd hst (h statement)
      · rw [hf] at hresult
        cases hresult
        exact absurd rfl (hother error)
    · rfl

/-- **What was counted and logged is what was answered and refused**: the count went up by one
for each answer, the completions among the lines are those of the answers, and the errors those
of the refusals, all in their order. -/
structure Tally (before after : Nat) (lines : List Line) (answers : List (List Record))
    (refusals : List QueryError) : Prop where
  executed : after = before + answers.length
  completions : lines.filter Line.isCompletion = answers.map Line.completed
  errors : lines.filter Line.isError = refusals.map Line.refused

theorem Tally.append {n m k : Nat} {lines lines' : List Line}
    {answers answers' : List (List Record)} {refusals refusals' : List QueryError}
    (h : Tally n m lines answers refusals) (h' : Tally m k lines' answers' refusals') :
    Tally n k (lines ++ lines') (answers ++ answers') (refusals ++ refusals') := by
  refine ⟨?_, ?_, ?_⟩
  · rw [h'.executed, h.executed, List.length_append]; omega
  · rw [List.filter_append, List.map_append, h.completions, h'.completions]
  · rw [List.filter_append, List.map_append, h.errors, h'.errors]

/-- Where nothing is about a statement, nothing is counted, answered or refused. -/
theorem tally_of_quiet {α : Type} {o : Outcome Database α} {n : Nat} (h : o.Quiet) :
    Tally n n o.lines [] [] := by
  have hline : ∀ l ∈ o.lines, l.isCompletion = false ∧ l.isError = false := by
    intro l hl
    obtain ⟨e, he, rfl⟩ := List.mem_map.1 hl
    exact line_of_not_isStatement (h e he)
  refine ⟨rfl, ?_, ?_⟩
  · exact List.filter_eq_nil_iff.2 fun l hl => by simp [(hline l hl).1]
  · exact List.filter_eq_nil_iff.2 fun l hl => by simp [(hline l hl).2]

/-- **One step tallies.** -/
theorem step_tally (db : Database) (st : DatabaseStep) :
    Tally db.executed (db.step st).state.executed (db.step st).lines
      (answer? (st, db.step st)).toList (refusal? (st, db.step st)).toList := by
  by_cases hstatement : ∃ statement, st = .shared (.execute statement)
  · obtain ⟨statement, rfl⟩ := hstatement
    rw [step_execute]
    -- it is answered, refused for a fault of its own, or fails for another reason
    cases hquery : db.store.query db.mode statement with
    | ok p =>
      rw [execute_of_ok_query hquery]
      exact ⟨rfl, rfl, rfl⟩
    | error f =>
      by_cases hf : ∃ e, f = .query e
      · obtain ⟨e, rfl⟩ := hf
        rw [execute_of_query_error hquery]
        exact ⟨rfl, rfl, rfl⟩
      · have hother : ∀ e, f ≠ .query e := fun e he => hf ⟨e, he⟩
        rw [execute_of_external hquery hother]
        cases f with
        | query e => exact absurd rfl (hother e)
        | _ => exact ⟨rfl, rfl, rfl⟩
  · have hother : ∀ statement, st ≠ .shared (.execute statement) := fun s hs => hstatement ⟨s, hs⟩
    have hcount : (db.step st).state.executed = db.executed := by
      rcases step_cases db st with ⟨statement, _, _, rfl, -⟩ |
        ⟨_, _, _, _, -, hstate, -⟩ | ⟨_, hstate⟩
      · exact absurd rfl (hother statement)
      · rw [hstate]
      · rw [hstate]
    obtain ⟨hanswer, hrefusal⟩ := tells_nothing (o := db.step st) (.inl hother)
    rw [hcount, hanswer, hrefusal]
    exact tally_of_quiet (step_quiet_of_other hother)

/-- The steps of a session that began with the opening of a database, each with what came of
it. -/
def session (c : Config) (steps : List DatabaseStep) :
    List (DatabaseStep × Outcome Database DatabaseAnswer) :=
  history step (opened c).state steps

/-- The lines that are logged from the opening of a database to the end of a session. -/
def logged (c : Config) (steps : List DatabaseStep) : List Line :=
  (opened c).lines ++ (session c steps).flatMap fun p => p.2.lines

/-- **From any moment of a session to any later one it tallies.** -/
theorem session_tally (db : Database) (steps : List DatabaseStep) :
    Tally db.executed (stateAfter step db steps).executed
      ((history step db steps).flatMap fun p => p.2.lines)
      ((history step db steps).filterMap answer?) ((history step db steps).filterMap refusal?) := by
  rw [List.filterMap_eq_flatMap_toList, List.filterMap_eq_flatMap_toList]
  induction steps generalizing db with
  | nil => exact ⟨rfl, rfl, rfl⟩
  | cons st rest ih =>
    -- the rest tallies from the state that the first step leaves
    rw [history_cons, stateAfter_cons, List.flatMap_cons, List.flatMap_cons, List.flatMap_cons]
    exact (step_tally db st).append (ih (db.step st).state)

/-- **Answers, count and log agree.** In a session of any length that began with the opening of
a database, the statistics give as the number of statements that of the statements that were
answered. The completions in the log are theirs, in their order, each with the number of rows
that were answered, and the errors in the log are those of the statements that were refused for a
fault of their own, each with that fault's message. What is not a statement given to the
database, and a statement that fails for any other reason, changes none of these. -/
theorem statement_accounting (c : Config) (steps : List DatabaseStep) :
    (∃ mode tables, ((after c steps).step .statistics).result =
        .ok (.statistics mode ((session c steps).filterMap answer?).length tables)) ∧
      (logged c steps).filter Line.isCompletion =
        ((session c steps).filterMap answer?).map Line.completed ∧
      (logged c steps).filter Line.isError =
        ((session c steps).filterMap refusal?).map Line.refused ∧
      ∀ (db : Database) (st : DatabaseStep),
        ((∀ statement, st ≠ .shared (.execute statement)) ∨
          ∃ f, (db.step st).result = .error f ∧ ∀ e, f ≠ .query e) →
        (db.step st).state.executed = db.executed ∧
          (db.step st).lines.filter Line.isCompletion = [] ∧
          (db.step st).lines.filter Line.isError = [] := by
  obtain ⟨store, hopened⟩ := opened_state c
  have hzero : (opened c).state.executed = 0 := by rw [hopened]; rfl
  have htally : Tally 0 (after c steps).executed (logged c steps)
      ((session c steps).filterMap answer?) ((session c steps).filterMap refusal?) := by
    have h := session_tally (opened c).state steps
    rw [hzero] at h
    exact (tally_of_quiet (opened_quiet c)).append h
  refine ⟨⟨(after c steps).config.mode, (after c steps).store.statistics, ?_⟩, htally.completions,
    htally.errors, fun db st h => ?_⟩
  · rw [step, htally.executed, Nat.zero_add]
  · obtain ⟨hanswer, hrefusal⟩ := tells_nothing h
    have hstep := step_tally db st
    rw [hanswer, hrefusal] at hstep
    exact ⟨hstep.executed, hstep.completions, hstep.errors⟩

/-- A statement of a kind that there is not. -/
def sampleRefused : DatabaseStep := .shared (.execute (.text "DROP TABLE users".toList))

/-- A statement that is answered, one that is refused, one that is no text, and a row that is
added past the statements. -/
def sampleTold : List DatabaseStep :=
  [sampleInserted, sampleRefused, .shared (.execute (.int 5)),
   .shared (.append (.text "users".toList) [])]

/-- Two of four steps are counted and logged; a statement that is no text counts for nothing. -/
theorem statement_accounting_sample :
    (∃ mode tables, ((after Config.default sampleTold).step .statistics).result =
        .ok (.statistics mode 1 tables)) ∧
      (logged Config.default sampleTold).filter Line.isCompletion =
        [(.info, "语句执行完成，返回 1 条结果".toList)] ∧
      (logged Config.default sampleTold).filter Line.isError =
        [(.error, "语句执行失败: 不支持的语句类型: DROP".toList)] ∧
      (sample.step (.shared (.execute (.int 5)))).result = .error (.external .wrongShape) ∧
      (sample.step (.shared (.execute (.int 5)))).state.executed = sample.executed := by
  have hanswered : ((session Config.default sampleTold).filterMap answer?).length = 1 := by
    decide +kernel
  have hdone : ((session Config.default sampleTold).filterMap answer?).map Line.completed =
      [(.info, "语句执行完成，返回 1 条结果".toList)] := by decide +kernel
  have hrefused : ((session Config.default sampleTold).filterMap refusal?).map Line.refused =
      [(.error, "语句执行失败: 不支持的语句类型: DROP".toList)] := by decide +kernel
  have hshape : (sample.step (.shared (.execute (.int 5)))).result =
      .error (.external .wrongShape) := rfl
  obtain ⟨hcount, hcompletions, herrors, hstep⟩ := statement_accounting Config.default sampleTold
  rw [hanswered] at hcount
  have hnothing := hstep sample (.shared (.execute (.int 5)))
    (.inr ⟨_, hshape, fun e h => by cases h⟩)
  exact ⟨hcount, hcompletions.trans hdone, herrors.trans hrefused, hshape, hnothing.1⟩

end Database

end Almanac
