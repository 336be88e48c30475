import Almanac.Proofs.Accounting
import Almanac.Proofs.SideBySide

/-!
# Settings of a running database

The configuration of a database stays open to change, but most of it is read only once. How
statements are read and where the log goes is settled at the opening; of a running database only
the settings of the storage section are looked at again, when the initial tables are to be made.

* `step_withConfig`: **a step looks at no other settings than these**, unless it reports the mode
  or is a setting itself.
* `settings_unnoticed`: **whoever changes any other setting is not noticed**, except in the mode
  that is reported.
-/

namespace Almanac

open Outcome

/-! ## The storage section -/

/-- What a setting does to the storage section does not depend on the other sections. -/
theorem Config.assign_storage {c c' : Config} (h : c'.storage = c.storage) (sec : Section)
    (key : Text) (value : Value) :
    (c'.assign sec key value).map Config.storage = (c.assign sec key value).map Config.storage := by
  have hset : (c'.set sec key value).storage = (c.set sec key value).storage := by
    cases sec with
    | storage => exact congrArg (fun r : Record => r.put key value) h
    | query => exact h
    | logging => exact h
  have hput : ∀ settings, (c'.put sec settings).storage = (c.put sec settings).storage := by
    intro settings
    cases sec with
    | storage => rfl
    | query => exact h
    | logging => exact h
  unfold assign
  split
  · split
    · split
      · exact congrArg Except.ok (hput _)
      · rfl
    · rfl
  · split
    · rfl
    · split
      · rfl
      · exact congrArg Except.ok hset

/-- A setting of another section leaves the storage section as it is. -/
theorem Config.storage_of_assign {c c' : Config} {sec : Section} {key : Text} {value : Value}
    (hsec : sec ≠ .storage) (h : c.assign sec key value = .ok c') : c'.storage = c.storage := by
  have hput : ∀ settings, (c.put sec settings).storage = c.storage := by
    intro settings
    cases sec with
    | storage => exact absurd rfl hsec
    | query => rfl
    | logging => rfl
  unfold assign at h
  split at h
  · split at h
    · split at h
      · cases h; exact hput _
      · cases h
    · cases h
  · split at h
    · cases h
    · split at h
      · cases h
      · cases h; exact hput _

/-- The step changes a setting of the query section or of the logging section. -/
def DatabaseStep.SetsOutsideStorage (st : DatabaseStep) : Prop :=
  ∃ sec key value, st = .set sec key value ∧ sec ≠ .storage

/-- An answer without the mode that it reports. -/
def DatabaseAnswer.withoutMode : DatabaseAnswer → DatabaseAnswer
  | statistics _ executed tables => statistics .null executed tables
  | answer => answer

namespace Database

variable {db db' : Database} {c : Config}

/-- Two databases that differ at most in settings outside of the storage section. -/
structure AlikeInside (db db' : Database) : Prop where
  rest : db' = { db with config := db'.config }
  storage : db'.config.storage = db.config.storage

/-- Two outcomes of the same step: the same answer but for the reported mode, the same lines in
the log and the same store. -/
structure Unnoticed {ι : Type} (p q : ι × Outcome Database DatabaseAnswer) : Prop where
  step : p.1 = q.1
  result : p.2.result.map DatabaseAnswer.withoutMode = q.2.result.map DatabaseAnswer.withoutMode
  lines : p.2.lines = q.2.lines
  store : p.2.state.store = q.2.state.store

/-! ## One step -/

theorem execute_withConfig (db : Database) (c : Config) (statement : Value) :
    execute { db with config := c } statement =
      ⟨(db.execute statement).result, { (db.execute statement).state with config := c },
        (db.execute statement).events⟩ := by
  unfold execute
  dsimp only
  cases db.store.query db.mode statement with
  | ok p => rfl
  | error f => cases f <;> rfl

/-- **A step looks at the storage section at most**, unless it reports the mode or is a setting
itself. -/
theorem step_withConfig (hc : c.storage = db.config.storage) {st : DatabaseStep}
    (hstatistics : st ≠ .statistics) (hset : ∀ sec key value, st ≠ .set sec key value) :
    step { db with config := c } st =
      ⟨(db.step st).result, { (db.step st).state with config := c }, (db.step st).events⟩ := by
  cases st with
  | shared st =>
    by_cases hstatement : ∃ statement, st = .execute statement
    · obtain ⟨statement, rfl⟩ := hstatement
      rw [step_execute, step_execute, execute_withConfig]
      rfl
    · have hother : ∀ statement, st ≠ .execute statement := fun s hs => hstatement ⟨s, hs⟩
      rw [step_shared hother, step_shared hother, andThen_wrap, andThen_wrap]
      rfl
  | initialise =>
    rw [step, step, andThen_wrap, andThen_wrap, initialise, initialise]
    dsimp only
    rw [hc]
    rfl
  | statistics => exact absurd rfl hstatistics
  | set sec key value => exact absurd rfl (hset sec key value)
  | close => rfl
  | enter => rfl

/-- A setting has the same outcome whatever the other sections hold, and keeps two databases
alike. -/
theorem step_set_alike (h : AlikeInside db db') (sec : Section) (key : Text) (value : Value) :
    (db.step (.set sec key value)).result = (db'.step (.set sec key value)).result ∧
      (db.step (.set sec key value)).events = (db'.step (.set sec key value)).events ∧
      AlikeInside (db.step (.set sec key value)).state (db'.step (.set sec key value)).state := by
  have hstorage := Config.assign_storage h.storage sec key value
  rw [step, step]
  cases hc : db.config.assign sec key value with
  | ok c =>
    cases hc' : db'.config.assign sec key value with
    | ok c' =>
      rw [hc, hc'] at hstorage
      refine ⟨rfl, rfl, ?_, Except.ok.inj hstorage⟩
      dsimp only
      rw [h.rest]
    | error f => rw [hc, hc'] at hstorage; cases hstorage
  | error f =>
    cases hc' : db'.config.assign sec key value with
    | ok c' => rw [hc, hc'] at hstorage; cases hstorage
    | error g =>
      rw [hc, hc'] at hstorage
      cases hstorage
      exact ⟨rfl, rfl, h⟩

/-- **The same step comes to the same** in databases that are alike inside, and keeps them
alike. -/
theorem step_unnoticed (h : AlikeInside db db') (st : DatabaseStep) :
    Unnoticed (st, db.step st) (st, db'.step st) ∧
      AlikeInside (db.step st).state (db'.step st).state := by
  by_cases hstatistics : st = .statistics
  · subst hstatistics
    rw [h.rest]
    exact ⟨⟨rfl, rfl, rfl, rfl⟩, rfl, h.storage⟩
  by_cases hset : ∃ sec key value, st = .set sec key value
  · obtain ⟨sec, key, value, rfl⟩ := hset
    obtain ⟨hresult, hevents, halike⟩ := step_set_alike h sec key value
    refine ⟨⟨rfl, congrArg _ hresult, congrArg (List.map Event.line) hevents, ?_⟩, halike⟩
    exact (congrArg Database.store halike.rest).symm
  · have hother : ∀ sec key value, st ≠ .set sec key value :=
      fun sec key value hst => hset ⟨sec, key, value, hst⟩
    have hstep : db'.step st = ⟨(db.step st).result,
        { (db.step st).state with config := db'.config }, (db.step st).events⟩ := by
      rw [h.rest]
      exact step_withConfig h.storage hstatistics hother
    rw [hstep]
    refine ⟨⟨rfl, rfl, rfl, rfl⟩, rfl, ?_⟩
    -- no such step changes the configuration of the first database
    have hconfig : (db.step st).state.config = db.config := by
      rcases step_cases db st with ⟨_, _, _, -, hstate⟩ | ⟨_, _, _, _, rfl, -, -⟩ | ⟨_, hstate⟩
      · rw [hstate]
      · exact absurd rfl (hother _ _ _)
      · rw [hstate]
    dsimp only
    rw [hconfig, h.storage]

/-- A setting outside of the storage section leaves a database alike inside. -/
theorem alikeInside_of_setsOutsideStorage (h : AlikeInside db db') {st : DatabaseStep}
    (hst : st.SetsOutsideStorage) : AlikeInside (db.step st).state db' := by
  obtain ⟨sec, key, value, rfl, hsec⟩ := hst
  rw [step]
  cases hc : db.config.assign sec key value with
  | ok c =>
    refine ⟨?_, ?_⟩
    · dsimp only
      rw [h.rest]
    · dsimp only
      rw [h.storage, Config.storage_of_assign hsec hc]
  | error f => exact h

/-! ## Sessions -/

/-- A step of a session in which some steps are marked to be kept. -/
def markedStep (db : Database) (p : DatabaseStep × Bool) : Outcome Database DatabaseAnswer :=
  db.step p.1

/-- **Whoever changes a setting of the query or the logging section is not noticed.** From any
state of a database on, if any steps of a session that only set such a setting, to whatever
value, are left out, then each of the others has the same answer, logs the same lines and leaves
the same store as it does beside them. Only the mode that is reported can be another one. -/
theorem settings_unnoticed (db : Database) (marked : List (DatabaseStep × Bool))
    (h : ∀ p ∈ marked, p.2 = false → p.1.SetsOutsideStorage) :
    List.Forall₂ Unnoticed ((history markedStep db marked).filter fun p => p.1.2)
      (history markedStep db (marked.filter fun p => p.2)) := by
  have hsame : AlikeInside db db := ⟨rfl, rfl⟩
  refine history_leave_out (fun p : DatabaseStep × Bool => p.2) ?_ ?_ hsame
  · intro db db' p halike
    obtain ⟨hsame, hstate⟩ := step_unnoticed halike p.1
    exact ⟨⟨rfl, hsame.result, hsame.lines, hsame.store⟩, hstate⟩
  · intro p hp hleft db db' halike
    exact alikeInside_of_setsOutsideStorage halike (h p hp hleft)

/-- A session with two settings that are left out: the mode, and a level that there is not. -/
def sampleTuned : List (DatabaseStep × Bool) :=
  [(.set .query Config.modeKey (.text Mode.strict.name), false),
   (.shared (.execute (.text "SELECT * FROM users WHERE username = 'a;b'".toList)), true),
   (.set .logging "level".toList (.int 7), false), (sampleInserted, true), (.statistics, true)]

/-- A value with a terminator in it is still accepted when the mode has been set to `strict`, as
if it had not; only the report of the mode is another one. -/
theorem settings_unnoticed_sample :
    (∀ p ∈ sampleTuned, p.2 = false → p.1.SetsOutsideStorage) ∧
      List.Forall₂ Unnoticed ((history markedStep sample sampleTuned).filter fun p => p.1.2)
        (history markedStep sample (sampleTuned.filter fun p => p.2)) ∧
      ((history markedStep sample sampleTuned).filter fun p => p.1.2).length = 3 ∧
      ((stateAfter markedStep sample sampleTuned).step .statistics).result ≠
        ((stateAfter markedStep sample (sampleTuned.filter fun p => p.2)).step .statistics).result := by
  have hleft : ∀ p ∈ sampleTuned, p.2 = false → p.1.SetsOutsideStorage := by
    intro p hp hmark
    simp only [sampleTuned, List.mem_cons, List.not_mem_nil, or_false] at hp
    rcases hp with rfl | rfl | rfl | rfl | rfl
    · exact ⟨_, _, _, rfl, by decide⟩
    · cases hmark
    · exact ⟨_, _, _, rfl, by decide⟩
    · cases hmark
    · cases hmark
  refine ⟨hleft, settings_unnoticed sample sampleTuned hleft, rfl, ?_⟩
  decide +kernel

end Database

end Almanac
