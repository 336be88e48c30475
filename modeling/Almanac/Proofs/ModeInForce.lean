import Almanac.Proofs.Steps
import Almanac.Proofs.Strictness

/-!
# The mode in force and the mode that is reported

How strictly statements are read is settled when a database is opened. The statistics report
another thing, the setting as it is when they are asked for, and the configuration stays open
to change. The two agree as long as nobody touches the setting.

* `stateAfter_mode`: statements are read alike throughout a session.
* `mode_in_force`: **the mode in force is the one that was configured at the opening, and it is
  what is reported if no step sets the mode.**
* `reported_mode_not_in_force`: **after such a step the report can be wrong.**
-/

namespace Almanac

open Outcome Statement Config

/-! ## The setting -/

namespace Config

variable {c c' : Config} {sec : Section} {key : Text} {value : Value}

/-- The mode is one setting of one section. -/
theorem mode_set (h : ¬ (sec = .query ∧ key = modeKey)) : (c.set sec key value).mode = c.mode := by
  cases sec with
  | storage => rfl
  | logging => rfl
  | query =>
    have hkey : modeKey ≠ key := fun heq => h ⟨rfl, heq.symm⟩
    have hget : (c.query.put key value).get? modeKey = c.query.get? modeKey := by
      rw [Record.get?_put, if_neg hkey]
    change setting (c.query.put key value) .query modeKey = setting c.query .query modeKey
    rw [setting, setting, hget]

/-- Only the setting itself, or all settings of its section at once, can change the mode. -/
theorem mode_assign (h : c.assign sec key value = .ok c')
    (hkey : ¬ (sec = .query ∧ (key = modeKey ∨ key = wholeName))) : c'.mode = c.mode := by
  unfold assign at h
  split at h
  · rename_i hwhole
    have hsec : sec ≠ .query := fun hsec => hkey ⟨hsec, .inr hwhole⟩
    split at h
    · split at h
      · cases h
        cases sec with
        | query => exact absurd rfl hsec
        | storage => rfl
        | logging => rfl
      · cases h
    · cases h
  · split at h
    · cases h
    · split at h
      · cases h
      · cases h
        exact mode_set fun ⟨hsec, hmode⟩ => hkey ⟨hsec, .inl hmode⟩

end Config

/-- The step gives the mode setting a value, by itself or with all of its section. -/
def DatabaseStep.SetsMode (st : DatabaseStep) : Prop :=
  ∃ key value, st = .set .query key value ∧ (key = modeKey ∨ key = wholeName)

namespace Database

/-- The statistics give this value as the mode. -/
def Reports (db : Database) (v : Value) : Prop :=
  ∃ executed tables, (db.step .statistics).result = .ok (.statistics v executed tables)

/-- A text that asks for rows by a value with a terminator or a quote in it is refused. -/
def RefusesIllegal (db : Database) : Prop :=
  ∀ text st, read .naive text = .ok st → st.IllegalFilter →
    (db.step (.shared (.execute (.text text)))).result = .error (.malformed .illegalFilterValue)

/-- A text that asks for rows of a table that is there is carried out, also if it does so by a
value with a terminator or a quote in it: it is answered with the rows that pass, unless the filter
comes to a value that cannot be shown. -/
def AcceptsIllegal (db : Database) : Prop :=
  ∀ text table fields filter tbl, read .naive text = .ok (.select table fields filter) →
    (Statement.select table fields filter).IllegalFilter → db.store.table (.text table) = .ok tbl →
    (db.step (.shared (.execute (.text text)))).result =
      match unfilterable? filter tbl.rows with
      | none => .ok (.shared (.rows (selectFields fields (passing filter tbl.rows))))
      | some k => .error (.external k)

/-- The mode that is reported is the one by which values are refused or accepted. -/
def ReportsModeInForce (db : Database) : Prop :=
  (db.Reports (.text Mode.strict.name) → db.RefusesIllegal) ∧
    (db.Reports (.text Mode.naive.name) → db.AcceptsIllegal)

variable {db : Database} {c : Config}

theorem reports_iff {v : Value} : db.Reports v ↔ v = db.config.mode := by
  constructor
  · rintro ⟨executed, tables, h⟩
    cases h; rfl
  · rintro rfl
    exact ⟨_, _, rfl⟩

/-! ## Through a session -/

/-- **Statements are read alike throughout a session.** -/
theorem stateAfter_mode (db : Database) (steps : List DatabaseStep) :
    (stateAfter step db steps).mode = db.mode := by
  induction steps generalizing db with
  | nil => rfl
  | cons st rest ih => rw [stateAfter_cons, ih, step_mode]

/-- A step that does not set the mode leaves the setting as it is. -/
theorem step_config_mode {st : DatabaseStep} (h : ¬ st.SetsMode) :
    (db.step st).state.config.mode = db.config.mode := by
  rcases step_cases db st with ⟨_, _, _, -, hstate⟩ |
    ⟨sec, key, value, c, rfl, hstate, hc⟩ | ⟨_, hstate⟩
  · rw [hstate]
  · rw [hstate]
    rcases hc with rfl | hassign
    · rfl
    · refine mode_assign hassign ?_
      rintro ⟨rfl, hkey⟩
      exact h ⟨key, value, rfl, hkey⟩
  · rw [hstate]

theorem stateAfter_config_mode {steps : List DatabaseStep} (h : ∀ st ∈ steps, ¬ st.SetsMode) :
    (stateAfter step db steps).config.mode = db.config.mode := by
  induction steps generalizing db with
  | nil => rfl
  | cons st rest ih =>
    rw [stateAfter_cons, ih fun st' hst' => h st' (List.mem_cons_of_mem _ hst'),
      step_config_mode (h st List.mem_cons_self)]

theorem after_mode (c : Config) (steps : List DatabaseStep) :
    (after c steps).mode = modeOf c.mode := by
  obtain ⟨store, hopened⟩ := opened_state c
  rw [after, stateAfter_mode, hopened]
  rfl

theorem after_config_mode {steps : List DatabaseStep} (h : ∀ st ∈ steps, ¬ st.SetsMode) :
    (after c steps).config.mode = c.mode := by
  obtain ⟨store, hopened⟩ := opened_state c
  rw [after, stateAfter_config_mode h, hopened]
  rfl

/-! ## What the mode does -/

theorem refusesIllegal_of_strict (h : db.mode = .strict) : db.RefusesIllegal := by
  intro text st hread hillegal
  have hstrict : read .strict text = .error (.malformed .illegalFilterValue) := by
    rw [read_strict, hread]
    exact refuseIllegal_of_illegal hillegal
  have hquery : db.store.query db.mode (.text text) = .error (.malformed .illegalFilterValue) := by
    rw [h, Store.query, readValue, hstrict]
    rfl
  rw [step_execute, execute_of_query_error hquery]
  rfl

theorem acceptsIllegal_of_naive (h : db.mode = .naive) : db.AcceptsIllegal := by
  intro text table fields filter tbl hread _ htable
  have hquery : db.store.query db.mode (.text text) =
      db.store.execute (.select table fields filter) := by
    rw [h]
    exact Store.query_of_read hread
  rw [step_execute]
  cases hfilter : unfilterable? filter tbl.rows with
  | none =>
    rw [execute_of_ok_query (hquery.trans (Store.execute_select_of_filterable htable hfilter fields))]
    rfl
  | some k =>
    rw [execute_of_external (hquery.trans (Store.execute_select_of_unfilterable htable hfilter fields))
      fun e he => by cases he]
    rfl

theorem reportsModeInForce_of_modeOf (h : modeOf db.config.mode = db.mode) :
    db.ReportsModeInForce := by
  constructor
  · intro hstrict
    have hmode : db.mode = .strict := by rw [← h, ← reports_iff.1 hstrict]; decide
    exact refusesIllegal_of_strict hmode
  · intro hnaive
    have hmode : db.mode = .naive := by rw [← h, ← reports_iff.1 hnaive]; decide
    exact acceptsIllegal_of_naive hmode

/-- **The mode in force is the one that was configured at the opening**, whatever is done to the
configuration in a session: with `strict` a value with a terminator or a quote in it is refused,
and with anything else a statement with such a value is carried out if its table is there.

The statistics report the setting as it is. So they report the mode in force as long as
the setting stands for the mode that it stood for at the opening, and if no step sets it,
they report just what it was. -/
theorem mode_in_force (c : Config) (steps : List DatabaseStep) :
    (c.mode = .text Mode.strict.name → (after c steps).RefusesIllegal) ∧
      (c.mode ≠ .text Mode.strict.name → (after c steps).AcceptsIllegal) ∧
      (∀ v, (after c steps).Reports v → modeOf v = modeOf c.mode →
        (after c steps).ReportsModeInForce) ∧
      ((∀ st ∈ steps, ¬ st.SetsMode) → ∀ v, (after c steps).Reports v ↔ v = c.mode) := by
  have hmode := after_mode c steps
  refine ⟨fun hc => ?_, fun hc => ?_, fun v hv hsame => ?_, fun hset v => ?_⟩
  · rw [modeOf, if_pos hc] at hmode
    exact refusesIllegal_of_strict hmode
  · rw [modeOf, if_neg hc] at hmode
    exact acceptsIllegal_of_naive hmode
  · rw [reports_iff.1 hv, ← hmode] at hsame
    exact reportsModeInForce_of_modeOf hsame
  · rw [reports_iff, after_config_mode hset]

/-- A step that asks for strict reading. -/
def asksForStrict : DatabaseStep := .set .query modeKey (.text Mode.strict.name)

/-- A statement with a second one behind its value. -/
def trailingDrop : Text :=
  "SELECT * FROM users WHERE username = 'admin'; DROP TABLE users; --".toList

/-- A database that is opened as nobody configured it reads naively to its end, and says so
unless it is asked for strict reading. -/
theorem mode_in_force_sample :
    (after Config.default [sampleInserted]).Reports (.text Mode.naive.name) ∧
      (after Config.default [sampleInserted]).ReportsModeInForce ∧
      (after Config.default [asksForStrict]).AcceptsIllegal := by
  have hset : ∀ st ∈ [sampleInserted], ¬ st.SetsMode := by
    intro st hst
    rw [List.mem_singleton.1 hst]
    rintro ⟨key, value, h, -⟩
    cases h
  obtain ⟨-, -, hforce, hreports⟩ := mode_in_force Config.default [sampleInserted]
  have hnaive := (hreports hset (.text Mode.naive.name)).2 rfl
  obtain ⟨-, haccepts, -, -⟩ := mode_in_force Config.default [asksForStrict]
  exact ⟨hnaive, hforce _ hnaive rfl, haccepts (by decide)⟩

/-- **After a step that sets the mode the report can be wrong**: a database that was opened
as nobody configured it reports `strict` from then on, and still answers a statement with a
terminator in its value. -/
theorem reported_mode_not_in_force :
    ¬ ∀ (c : Config) (steps : List DatabaseStep), (opened c).result = .ok () →
      (after c steps).ReportsModeInForce := by
  intro h
  have hopened : (opened Config.default).result = .ok () := rfl
  obtain ⟨hstrict, -⟩ := h Config.default [asksForStrict] hopened
  have hread : read .naive trailingDrop = .ok (.select "users".toList [allFields]
      (some ⟨"username".toList, some "admin'; DROP TABLE users; --".toList⟩)) := rfl
  have hillegal : IllegalFilter (.select "users".toList [allFields]
      (some ⟨"username".toList, some "admin'; DROP TABLE users; --".toList⟩)) :=
    ⟨_, rfl, ';', by decide, .inl rfl⟩
  have hrefused := hstrict ⟨_, _, rfl⟩ trailingDrop _ hread hillegal
  have hanswered : ((after Config.default [asksForStrict]).step
      (.shared (.execute (.text trailingDrop)))).result = .ok (.shared (.rows [])) := rfl
  rw [hanswered] at hrefused
  cases hrefused

end Database

end Almanac
