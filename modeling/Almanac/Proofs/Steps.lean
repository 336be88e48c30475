import Almanac.Proofs.Failures

/-!
# What a step of a database can change

The parts of a database change one at a time. A statement that succeeds changes the store and
the count of statements, a setting changes the configuration, and whatever else is asked
changes the store at most. Nothing changes the mode.

* `execute_of_ok_query`, `execute_of_query_error`, `execute_of_external`: **the three ways that
  a statement can end.**
* `step_cases`: **a step changes a database in one of three ways.**
* `step_mode`: the mode stays what it was.
* `opened_state`: a new database has its configuration, the mode of it, and nothing counted.
-/

namespace Almanac

open Outcome

namespace Database

variable {db : Database} {statement : Value} {rows : List Record} {store : Store} {f : Fault}

/-! ## Statements -/

theorem step_execute (db : Database) (statement : Value) :
    db.step (.shared (.execute statement)) =
      (db.execute statement).map fun rows => .shared (.rows rows) :=
  andThen_wrap _ _

/-- A statement that succeeds is counted, and logged with its number of rows. -/
theorem execute_of_ok_query (h : db.store.query db.mode statement = .ok (rows, store)) :
    db.execute statement =
      ⟨.ok rows, { db with store := store, executed := db.executed + 1 },
        [.statementDone rows.length]⟩ := by
  rw [execute, h]

/-- A statement that is at fault is logged with its fault. -/
theorem execute_of_query_error {e : QueryError}
    (h : db.store.query db.mode statement = .error (.query e)) :
    db.execute statement = ⟨.error (.query e), db, [.statementFailed e]⟩ := by
  rw [execute, h]

/-- A statement that fails for any other reason is not logged. -/
theorem execute_of_external (h : db.store.query db.mode statement = .error f)
    (hf : ∀ e, f ≠ .query e) : db.execute statement = ⟨.error f, db, []⟩ := by
  rw [execute, h]
  split
  · rename_i heq; cases heq
  · rename_i e heq
    cases heq
    exact absurd rfl (hf e)
  · rename_i heq
    cases heq; rfl

/-! ## Everything else -/

/-- **What is neither a statement nor a setting changes the store at most.** -/
theorem step_state_of_other (db : Database) {st : DatabaseStep}
    (hstatement : ∀ statement, st ≠ .shared (.execute statement))
    (hset : ∀ sec key value, st ≠ .set sec key value) :
    ∃ store, (db.step st).state = { db with store := store } := by
  cases st with
  | shared st =>
    have hother : ∀ statement, st ≠ .execute statement := by
      rintro statement rfl
      exact hstatement statement rfl
    rw [step_shared hother, andThen_wrap]
    exact ⟨_, rfl⟩
  | initialise =>
    rw [step, andThen_wrap]
    exact ⟨_, rfl⟩
  | set sec key value => exact absurd rfl (hset sec key value)
  | statistics => exact ⟨db.store, rfl⟩
  | close => exact ⟨db.store, rfl⟩
  | enter => exact ⟨db.store, rfl⟩

/-- A setting changes the configuration at most. -/
theorem step_state_of_set (db : Database) (sec : Section) (key : Text) (value : Value) :
    ∃ c, (db.step (.set sec key value)).state = { db with config := c } ∧
      (c = db.config ∨ db.config.assign sec key value = .ok c) := by
  cases hassign : db.config.assign sec key value with
  | error f => exact ⟨db.config, by rw [step, hassign], .inl rfl⟩
  | ok c => exact ⟨c, by rw [step, hassign], .inr rfl⟩

/-- A statement changes the store and the count at most. -/
theorem step_state_of_statement (db : Database) (statement : Value) :
    ∃ store executed, (db.step (.shared (.execute statement))).state =
      { db with store := store, executed := executed } := by
  rw [step_execute, Outcome.map]
  cases hquery : db.store.query db.mode statement with
  | ok p => exact ⟨p.2, _, by rw [execute_of_ok_query hquery]⟩
  | error f =>
    have hresult : (db.execute statement).result = .error f := by
      rw [execute, hquery]
      cases f <;> rfl
    exact ⟨db.store, db.executed, execute_of_error hresult⟩

/-- **A step changes a database in one of three ways.** -/
theorem step_cases (db : Database) (st : DatabaseStep) :
    (∃ statement store executed, st = .shared (.execute statement) ∧
        (db.step st).state = { db with store := store, executed := executed }) ∨
      (∃ sec key value c, st = .set sec key value ∧ (db.step st).state = { db with config := c } ∧
        (c = db.config ∨ db.config.assign sec key value = .ok c)) ∨
      ∃ store, (db.step st).state = { db with store := store } := by
  by_cases hstatement : ∃ statement, st = .shared (.execute statement)
  · obtain ⟨statement, rfl⟩ := hstatement
    obtain ⟨store, executed, hstate⟩ := step_state_of_statement db statement
    exact .inl ⟨statement, store, executed, rfl, hstate⟩
  by_cases hset : ∃ sec key value, st = .set sec key value
  · obtain ⟨sec, key, value, rfl⟩ := hset
    obtain ⟨c, hstate, hc⟩ := step_state_of_set db sec key value
    exact .inr (.inl ⟨sec, key, value, c, rfl, hstate, hc⟩)
  · exact .inr (.inr (step_state_of_other db (fun statement h => hstatement ⟨statement, h⟩)
      fun sec key value h => hset ⟨sec, key, value, h⟩))

/-- **The mode stays what it was.** -/
theorem step_mode (db : Database) (st : DatabaseStep) : (db.step st).state.mode = db.mode := by
  rcases step_cases db st with ⟨_, _, _, -, hstate⟩ | ⟨_, _, _, _, -, hstate, -⟩ | ⟨_, hstate⟩
  all_goals rw [hstate]

/-! ## Sessions -/

/-- A database after a session that began with its opening. -/
def after (c : Config) (steps : List DatabaseStep) : Database :=
  stateAfter step (opened c).state steps

/-- Where the mode cannot be shown, nothing comes of opening a database. -/
theorem opened_of_unshowable {c : Config} {k : ExternalFault} (h : c.mode.unshowable? = some k) :
    opened c = ⟨.error (.external k), prepared c, [.storeReady]⟩ := by
  have hready : (prepared c).onStore (Store.ready c.mode) =
      ⟨.error (.external k), prepared c, [.storeReady]⟩ := by
    rw [Store.ready_of_unshowable h]
    rfl
  rw [opened, hready, andThen_of_error rfl]

/-- Otherwise the initial tables are made once everything else is there. -/
theorem opened_of_showable {c : Config} (h : c.mode.Showable) :
    opened c = ((⟨.ok (), prepared c, [.storeReady, .readerReady c.mode, .executorReady,
      .componentsReady]⟩ : Outcome Database Unit).andThen fun _ db =>
        db.initialise.andThen fun _ db => Outcome.note .databaseReady db) := by
  have hready : (prepared c).onStore (Store.ready c.mode) = ⟨.ok (Config.modeOf c.mode), prepared c,
      [.storeReady, .readerReady c.mode, .executorReady]⟩ := by
    rw [Store.ready_of_showable h]
    rfl
  rw [opened, hready]
  rfl

/-- Opening a database settles all of it but its store, also if its tables cannot be made. -/
theorem opened_state (c : Config) :
    ∃ store, (opened c).state = { prepared c with store := store } := by
  cases h : c.mode.unshowable? with
  | some k => exact ⟨(prepared c).store, by rw [opened_of_unshowable h]⟩
  | none =>
    refine ⟨(prepared c).initialise.state.store, ?_⟩
    rw [opened_of_showable h, andThen_of_ok rfl, andThen_state fun _ => note_state _ _]
    rfl

end Database

end Almanac
