import Almanac.Config.Basic
import Almanac.Statement.Read
import Almanac.Store.Execution

/-!
# Sessions on a store

A session is a store and the mode in which its statements are read. It takes steps, each
of which gives an answer or a fault.

* `step_of_error`: **a step that fails leaves the store as it is**, but for a table whose name the
  log cannot show.
-/

namespace Almanac

/-- What can be asked of a store. -/
inductive Step where
  | create (table : Value) (columns : List Text)
  | append (table : Value) (values : Record)
  | rows (table : Value)
  | has (table : Value)
  | names
  | columns (table : Value)
  | count (table : Value)
  | stats
  | execute (statement : Value)
  | executeParsed (statement : Statement)
deriving DecidableEq

/-- The step creates a table under a name that the log cannot show, which no text is: the table is
there when the step fails. -/
def Step.createsUnshown : Step → Bool
  | .create table _ => table.unshowable?.isSome
  | _ => false

/-- What a step answers. -/
inductive Answer where
  | table (t : Table)
  | row (r : Record)
  | rows (rs : List Record)
  | flag (b : Bool)
  | names (ns : List Value)
  | columns (cs : List Text)
  | count (n : Nat)
  | stats (s : Statistics)
  | done
deriving DecidableEq

namespace Store

open Outcome

/-- Reads a statement and carries it out. -/
def query (s : Store) (mode : Mode) (statement : Value) : Except Fault (List Record × Store) := do
  s.execute (← Statement.readValue mode statement)

/-- An answer that is only read. -/
def answered {α : Type} (s : Store) (wrap : α → Answer) (r : Except Fault α) : Outcome Store Answer :=
  ⟨r.map wrap, s, []⟩

/-- A step of a session. -/
def step (mode : Mode) (s : Store) : Step → Outcome Store Answer
  | .create table columns =>
    (s.createLogged table columns).andThen fun t s => ⟨.ok (.table t), s, []⟩
  | .append table values =>
    (Outcome.silent s (s.append table values)).andThen fun r s => ⟨.ok (.row r), s, []⟩
  | .rows table => s.answered .rows (s.rows table)
  | .has table => s.answered .flag (s.has table)
  | .names => s.answered .names (.ok s.names)
  | .columns table => s.answered .columns (s.columns table)
  | .count table => s.answered .count (s.count table)
  | .stats => s.answered .stats (.ok s.statistics)
  | .execute statement =>
    (Outcome.silent s (s.query mode statement)).andThen fun rs s => ⟨.ok (.rows rs), s, []⟩
  | .executeParsed statement =>
    (Outcome.note .executorReady s).andThen fun _ s =>
    (Outcome.silent s (s.execute statement)).andThen fun rs s => ⟨.ok (.rows rs), s, []⟩

/-- A new store, a reader of the mode that a setting stands for, and what carries statements
out. Each is logged when it is there, the reader with the setting. -/
def ready (mode : Value) : Outcome Store Mode :=
  (Outcome.note .storeReady empty).andThen fun _ s =>
  (Outcome.note (.readerReady mode) s).andThen fun _ s =>
  (Outcome.note .executorReady s).andThen fun _ s => ⟨.ok (Config.modeOf mode), s, []⟩

/-- A new session's store, and the mode of that name. What is logged while they come into
being ends with the store if there is no such mode. -/
def opened (mode : Value) : Outcome Store Mode :=
  if Config.isMode mode then ready mode
  else (Outcome.note .storeReady empty).andThen fun _ s =>
    ⟨.error (Fault.raised (.config (.unknownMode mode))), s, []⟩

theorem ready_of_showable {mode : Value} (h : mode.Showable) :
    ready mode =
      ⟨.ok (Config.modeOf mode), empty, [.storeReady, .readerReady mode, .executorReady]⟩ := by
  have hreader : Outcome.note (.readerReady mode) empty = ⟨.ok (), empty, [.readerReady mode]⟩ :=
    Outcome.note_of_showable rfl h empty
  rw [ready, Outcome.note_of_nothing rfl, Outcome.andThen_of_ok rfl, hreader,
    Outcome.andThen_of_ok rfl, Outcome.note_of_nothing rfl, Outcome.andThen_of_ok rfl]
  rfl

/-- Where the setting cannot be shown there is no reader. -/
theorem ready_of_unshowable {mode : Value} {k : ExternalFault} (h : mode.unshowable? = some k) :
    ready mode = ⟨.error (.external k), empty, [.storeReady]⟩ := by
  have hreader : Outcome.note (.readerReady mode) empty = ⟨.error (.external k), empty, []⟩ :=
    Outcome.note_of_unshowable rfl h empty
  rw [ready, Outcome.note_of_nothing rfl, Outcome.andThen_of_ok rfl, hreader,
    Outcome.andThen_of_error rfl]
  rfl

/-- **A step that fails leaves the store as it is**, but for a table that is there when its name
cannot be shown. -/
theorem step_of_error {mode : Mode} {s : Store} {st : Step} {f : Fault}
    (hst : st.createsUnshown = false) (h : (s.step mode st).result = .error f) :
    (s.step mode st).state = s := by
  cases st with
  | create table columns =>
    have hname : table.Showable := by simpa [Step.createsUnshown, Value.Showable] using hst
    rw [step, andThen_wrap] at h ⊢
    rcases state_of_createLogged_error (map_eq_error_iff.1 h) with hstate | ⟨-, hnot⟩
    · exact hstate
    · exact absurd hname hnot
  | append table values =>
    rw [step, andThen_wrap] at h ⊢
    exact silent_of_error (map_eq_error_iff.1 h)
  | execute statement =>
    rw [step, andThen_wrap] at h ⊢
    exact silent_of_error (map_eq_error_iff.1 h)
  | executeParsed statement =>
    rw [step, note_of_nothing rfl, andThen_of_ok rfl] at h ⊢
    rw [andThen_wrap] at h ⊢
    exact silent_of_error (map_eq_error_iff.1 h)
  | _ => rfl

end Store

end Almanac
