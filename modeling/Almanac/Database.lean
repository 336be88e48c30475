import Almanac.Session

/-!
# Databases

A database is a store with its initial tables, a configuration that stays open to
change, the mode that was in force when it was opened, and a count of the statements
that succeeded.

* `execute_of_error`: **a statement that fails leaves the database as it is.**
-/

namespace Almanac

/-- A running database. -/
structure Database where
  config : Config
  mode : Mode
  store : Store
  executed : Nat
deriving DecidableEq

/-- What can be asked of a database. -/
inductive DatabaseStep where
  | shared (step : Step)
  | initialise
  | statistics
  | set (sec : Section) (key : Text) (value : Value)
  | close
  | enter
deriving DecidableEq

/-- What a database answers. -/
inductive DatabaseAnswer where
  | shared (answer : Answer)
  | statistics (mode : Value) (executed : Nat) (tables : Statistics)
  | entered
  | done
deriving DecidableEq

namespace Database

/-- A database before it is opened. -/
def prepared (config : Config) : Database := ⟨config, Config.modeOf config.mode, .empty, 0⟩

/-- An operation on the store as one on the database. -/
def onStore {α : Type} (db : Database) (o : Outcome Store α) : Outcome Database α :=
  ⟨o.result, { db with store := o.state }, o.events⟩

/-- Creates and fills the initial tables, by the configuration as it is now. -/
def initialise (db : Database) : Outcome Database Unit :=
  db.onStore (Store.initialise (Config.storageSettings db.config.storage) db.store)

/-- Opens a database. -/
def opened (config : Config) : Outcome Database Unit :=
  ((prepared config).onStore (Store.ready config.mode)).andThen fun _ db =>
  (Outcome.note .componentsReady db).andThen fun _ db =>
  db.initialise.andThen fun _ db => Outcome.note .databaseReady db

/-- Reads a statement and carries it out. -/
def execute (db : Database) (statement : Value) : Outcome Database (List Record) :=
  match db.store.query db.mode statement with
  | .ok (rows, store) =>
    ⟨.ok rows, { db with store := store, executed := db.executed + 1 },
      [.statementDone rows.length]⟩
  | .error (.query error) => ⟨.error (.query error), db, [.statementFailed error]⟩
  | .error f => ⟨.error f, db, []⟩

/-- A step of a session on a database. -/
def step (db : Database) : DatabaseStep → Outcome Database DatabaseAnswer
  | .shared (.execute statement) =>
    (db.execute statement).andThen fun rows db => ⟨.ok (.shared (.rows rows)), db, []⟩
  | .shared st =>
    (db.onStore (db.store.step db.mode st)).andThen fun a db => ⟨.ok (.shared a), db, []⟩
  | .initialise => db.initialise.andThen fun _ db => ⟨.ok .done, db, []⟩
  | .statistics =>
    ⟨.ok (.statistics db.config.mode db.executed db.store.statistics), db, []⟩
  | .set sec key value =>
    match db.config.assign sec key value with
    | .ok c => ⟨.ok .done, { db with config := c }, []⟩
    | .error f => ⟨.error f, db, []⟩
  | .close => ⟨.ok .done, db, [.closed]⟩
  | .enter => ⟨.ok .entered, db, []⟩

variable {db : Database} {statement : Value}

/-- **A statement that fails leaves the database as it is.** -/
theorem execute_of_error {f : Fault} (h : (db.execute statement).result = .error f) :
    (db.execute statement).state = db := by
  unfold execute at h ⊢
  split <;> simp_all

end Database

end Almanac
