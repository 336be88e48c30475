import Almanac.Database
import Almanac.Proofs.Faults

/-!
# What a failure leaves behind

Whatever is asked of a database, it is refused before anything is changed: a text when it is
read, a row when its columns are looked at, a table when its name is looked up. Only the
making of the initial tables goes on in parts, and can fail between them. A single table is logged
when it is there, which can fail as well, if its name is no text.

* `Database.step_of_error`: **a step that fails leaves the database as it is**, its count of
  statements included.
* `Database.failures_leave_no_trace`: so a session can be told without its failures.
-/

namespace Almanac

open Outcome

/-! ## Answers that are only wrapped -/

theorem Outcome.andThen_answer_eq_error {σ α β : Type} {o : Outcome σ α} {wrap : α → β} {f : Fault}
    (h : (o.andThen fun a s => ⟨.ok (wrap a), s, []⟩).result = .error f) : o.result = .error f := by
  rw [andThen_wrap] at h
  exact map_eq_error_iff.1 h

namespace Database

variable {db : Database} {st : Step} {f : Fault}

/-- All steps that databases and stores have in common are taken by the store, but for the
statements, which are counted and logged. -/
theorem step_shared (hst : ∀ statement, st ≠ .execute statement) :
    db.step (.shared st) =
      (db.onStore (db.store.step db.mode st)).andThen fun a db => ⟨.ok (.shared a), db, []⟩ := by
  cases st with
  | execute statement => exact absurd rfl (hst statement)
  | _ => rfl

theorem onStore_of_error (hst : st.createsUnshown = false)
    (h : (db.onStore (db.store.step db.mode st)).result = .error f) :
    (db.onStore (db.store.step db.mode st)).state = db := by
  have hstore : (db.store.step db.mode st).state = db.store := Store.step_of_error hst h
  rw [onStore, hstore]

/-- The step goes on in parts and can fail between them: it makes the initial tables, or a table
whose name the log cannot show. -/
def inParts : DatabaseStep → Bool
  | .initialise => true
  | .shared st => st.createsUnshown
  | _ => false

/-- **A step that fails leaves the database as it is**, unless it goes on in parts. -/
theorem step_of_error {st : DatabaseStep} (hst : inParts st = false)
    (h : (db.step st).result = .error f) : (db.step st).state = db := by
  cases st with
  | shared st =>
    by_cases hstatement : ∃ statement, st = .execute statement
    · obtain ⟨statement, rfl⟩ := hstatement
      have hexecute : (db.execute statement).result = .error f := andThen_answer_eq_error h
      rw [step, andThen_state fun _ => rfl]
      exact execute_of_error hexecute
    · have hother : ∀ statement, st ≠ .execute statement := fun s hs => hstatement ⟨s, hs⟩
      rw [step_shared hother] at h ⊢
      rw [andThen_state fun _ => rfl]
      exact onStore_of_error hst (andThen_answer_eq_error h)
  | initialise => cases hst
  | set sec key value =>
    cases hassign : db.config.assign sec key value with
    | ok c => rw [step, hassign] at h; cases h
    | error g => rw [step, hassign]
  | statistics => cases h
  | close => cases h
  | enter => cases h

/-- What is left where creating a table fails. -/
theorem state_of_create_error {name : Value} {columns : List Text}
    (h : (db.step (.shared (.create name columns))).result = .error f) :
    (db.step (.shared (.create name columns))).state = db ∨ ¬ name.Showable ∧
      (db.step (.shared (.create name columns))).state =
        { db with store := ⟨db.store.tables ++ [Table.fresh name columns]⟩ } := by
  have hother : ∀ statement, Step.create name columns ≠ .execute statement := fun _ h => nomatch h
  have hstate : (db.step (.shared (.create name columns))).state =
      { db with store := (db.store.createLogged name columns).state } := by
    rw [step_shared hother, andThen_state fun _ => rfl, onStore, Store.step,
      andThen_state fun _ => rfl]
  rw [step_shared hother] at h
  -- the step wraps its answer twice, for the session and for the database
  have hstore : (db.onStore (db.store.step db.mode (.create name columns))).result = .error f :=
    andThen_answer_eq_error h
  have herror : (db.store.createLogged name columns).result = .error f :=
    andThen_answer_eq_error hstore
  rw [hstate]
  rcases Store.state_of_createLogged_error herror with hsame | ⟨⟨t, hcreate⟩, hname⟩
  · exact .inl (by rw [hsame])
  · obtain ⟨rfl, hcreated, -⟩ := Store.create_eq_ok hcreate
    exact .inr ⟨hname, by rw [hcreated]⟩

/-- A step with its outcome that is not simply a failure: it succeeded, or went on in parts. -/
def leavesTrace (p : DatabaseStep × Outcome Database DatabaseAnswer) : Bool :=
  match p.2.result with
  | .ok _ => true
  | .error _ => inParts p.1

theorem state_of_not_leavesTrace (db : Database) (st : DatabaseStep)
    (h : leavesTrace (st, db.step st) = false) : (db.step st).state = db := by
  unfold leavesTrace at h
  cases hresult : (db.step st).result with
  | ok a => simp only [hresult] at h; cases h
  | error f =>
    simp only [hresult] at h
    exact step_of_error h hresult

/-- **Failures leave no trace.** In any state of a database, a step that ends in a fault of any
kind leaves the whole database as it was: its tables and their order, their columns, rows and
next numbers, the count of statements and the configuration. The making of the initial tables is
left out of this, and so is that of a table under a name which the log cannot show: no text is such
a name, and all that is left is the table without rows. So in a session of any length the failed
steps can be struck out: every other step has the same answer, logs the same and leaves the same
state without them. -/
theorem failures_leave_no_trace (db : Database) :
    (∀ st f, st ≠ .initialise → (∀ name columns, st = .shared (.create name columns) → name.Showable) →
        (db.step st).result = .error f → (db.step st).state = db) ∧
      (∀ name columns f, (db.step (.shared (.create name columns))).result = .error f →
        (db.step (.shared (.create name columns))).state = db ∨ ¬ name.Showable ∧
          (db.step (.shared (.create name columns))).state =
            { db with store := ⟨db.store.tables ++ [Table.fresh name columns]⟩ }) ∧
      ∀ steps,
        history step db (((history step db steps).filter leavesTrace).map Prod.fst) =
            (history step db steps).filter leavesTrace ∧
          stateAfter step db (((history step db steps).filter leavesTrace).map Prod.fst) =
            stateAfter step db steps := by
  refine ⟨fun st f hst hname h => step_of_error ?_ h, fun _ _ _ h => state_of_create_error h,
    history_filter leavesTrace state_of_not_leavesTrace db⟩
  cases st with
  | initialise => exact absurd rfl hst
  | shared st => cases st with
    | create name columns =>
      have hshown : name.unshowable? = none := hname name columns rfl
      rw [inParts, Step.createsUnshown, hshown]
      rfl
    | _ => rfl
  | _ => rfl

/-- A new database, as nobody configured it. -/
def sample : Database := (opened Config.default).state

/-- A row of users that holds its own number behind a column that is there. -/
def sampleNumbered : DatabaseStep :=
  .shared (.append (.text "users".toList) [("username".toList, .text "eve".toList), (idColumn, .int 7)])

/-- A row of users that is as it must be. -/
def sampleInserted : DatabaseStep :=
  .shared (.execute (.text "INSERT INTO users (username) VALUES ('eve')".toList))

/-- A session in which one step of five succeeds. -/
def sampleSession : List DatabaseStep :=
  [sampleNumbered, .shared (.create (.text "users".toList) []), sampleInserted,
   .shared (.executeParsed (.other "DELETE".toList)), .shared (.execute (.int 5))]

/-- A number given by hand is refused although it stands behind a column that is there; one
digit too many is refused when the literal is read; and the session comes to the same as its
one insertion. -/
theorem failures_leave_no_trace_sample :
    (sample.step sampleNumbered).result =
        .error (.query (.schemaMismatch (.text "users".toList) idColumn)) ∧
      (sample.step sampleNumbered).state = sample ∧
      (sample.step (.shared (.execute (.text overlongInsertion)))).result =
        .error (.external .unreadableNumeral) ∧
      (sample.step (.shared (.execute (.text overlongInsertion)))).state = sample ∧
      ((history step sample sampleSession).filter leavesTrace).map Prod.fst = [sampleInserted] ∧
      stateAfter step sample sampleSession = stateAfter step sample [sampleInserted] := by
  have hnumbered : (sample.step sampleNumbered).result =
      .error (.query (.schemaMismatch (.text "users".toList) idColumn)) := rfl
  have hoverlong : (sample.step (.shared (.execute (.text overlongInsertion)))).result =
      .error (.external .unreadableNumeral) := by
    rw [step, execute, query_of_overlong hasOverlongLiteral_overlongInsertion]
    rfl
  have hkept : ((history step sample sampleSession).filter leavesTrace).map Prod.fst =
      [sampleInserted] := rfl
  obtain ⟨hstep, -, hsession⟩ := failures_leave_no_trace sample
  have hstate := (hsession sampleSession).2
  rw [hkept] at hstate
  exact ⟨hnumbered, hstep _ _ (by decide) nofun hnumbered, hoverlong,
    hstep _ _ (by decide) nofun hoverlong, hkept, hstate.symm⟩

end Database

end Almanac
