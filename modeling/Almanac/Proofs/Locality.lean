import Almanac.Proofs.Initial

/-!
# What a request is about

A client adds rows, asks for them, and has texts carried out. Each such request names one
table at most, and that table is all that it looks at and all that it can change.

* `Store.Local`: an operation that is about the table under one key.
* `Request.perform_local`: **a request is about the table that it names.**
* `Store.Local.frame`, `Store.Local.comm`: so it leaves the other tables as they are, and it
  does not matter which of two requests for different tables comes first.
-/

namespace Almanac

open Statement

/-- What a client can ask of a store that has its tables: to carry out a text, to add a row,
or to tell a table's rows or their number. -/
inductive Request where
  | execute (text : Text)
  | append (table : Value) (values : Record)
  | rows (table : Value)
  | count (table : Value)
deriving DecidableEq

/-- The table that a statement is about. -/
def Statement.table? : Statement → Option Text
  | select table _ _ | insert table _ _ => some table
  | other _ => none

namespace Request

/-- The request as a step of a session. -/
def toStep : Request → Step
  | execute text => .execute (.text text)
  | append table values => .append table values
  | rows table => .rows table
  | count table => .count table

/-- The key of the table that a request names. A text names the table of the statement that is
read from it, and none if nothing can be read. -/
def key? (mode : Mode) : Request → Option Value.Key
  | execute text =>
    match read mode text with
    | .ok st => st.table?.map .text
    | .error _ => none
  | append table _ | rows table | count table => table.key?

theorem key?_execute {mode : Mode} {text : Text} {st : Statement} (h : read mode text = .ok st) :
    (execute text).key? mode = st.table?.map .text := by
  simp only [key?, h]

/-- What comes of a request: the answer, and the store after it. -/
def perform (mode : Mode) (r : Request) (s : Store) : Except Fault (Answer × Store) :=
  match r with
  | execute text => (s.query mode (.text text)).map fun p => (.rows p.1, p.2)
  | append table values => (s.append table values).map fun p => (.row p.1, p.2)
  | rows table => (s.table table).map fun t => (.rows t.rows, s)
  | count table => (s.table table).map fun t => (.count t.rows.length, s)

theorem step_toStep (mode : Mode) (r : Request) (s : Store) :
    s.step mode r.toStep = Outcome.silent s (r.perform mode s) := by
  cases r with
  | execute text =>
    rw [toStep, Store.step, perform]
    cases s.query mode (.text text) <;> rfl
  | append table values =>
    rw [toStep, Store.step, perform]
    cases s.append table values <;> rfl
  | rows table =>
    rw [toStep, Store.step, perform, Store.answered, Store.rows]
    cases s.table table <;> rfl
  | count table =>
    rw [toStep, Store.step, perform, Store.answered, Store.count]
    cases s.table table <;> rfl

end Request

namespace Store

/-- The store with the table under a key changed. Where there is no key, nothing is. -/
def changeAt (s : Store) (key : Option Value.Key) (change : Table → Table) : Store :=
  match key with
  | some key => s.modify key change
  | none => s

/-- The same table is found under the key in both stores, or none in either. -/
def SameAt (key : Option Value.Key) (s s' : Store) : Prop :=
  ∀ k, key = some k → s.find? k = s'.find? k

/-- **An operation that is about one table.** Where two stores have the same table under the
key, it fails in both alike, or answers the same and makes the same of that table; and it
changes no other. -/
def Local {α : Type} (key : Option Value.Key) (op : Store → Except Fault (α × Store)) : Prop :=
  ∀ s s', SameAt key s s' →
    (∃ f, op s = .error f ∧ op s' = .error f) ∨
      ∃ a change, (∀ t : Table, (change t).name = t.name) ∧
        op s = .ok (a, s.changeAt key change) ∧ op s' = .ok (a, s'.changeAt key change)

variable {α β : Type} {s s' : Store} {key key' : Option Value.Key} {k k' : Value.Key} {name : Value}
  {change change' : Table → Table} {op : Store → Except Fault (α × Store)}
  {op' : Store → Except Fault (β × Store)}

/-! ## Changing one table -/

theorem changeAt_id (s : Store) (key : Option Value.Key) : s.changeAt key (fun t => t) = s := by
  cases key with
  | none => rfl
  | some k => exact modify_id

theorem find?_changeAt_congr (hname : ∀ t, (change t).name = t.name) (h : s.find? k = s'.find? k) :
    (s.changeAt key change).find? k = (s'.changeAt key change).find? k := by
  cases key with
  | none => exact h
  | some k' => rw [changeAt, changeAt, find?_modify hname, find?_modify hname, h]

theorem find?_changeAt_of_ne (hname : ∀ t, (change t).name = t.name) (h : key ≠ some k) :
    (s.changeAt key change).find? k = s.find? k := by
  cases key with
  | none => rfl
  | some k' =>
    have hne : k ≠ k' := by rintro rfl; exact h rfl
    exact find?_modify_of_ne hname hne

/-- Changes of different tables can be made in either order. -/
theorem modify_comm (hne : k ≠ k') (hname : ∀ t, (change t).name = t.name)
    (hname' : ∀ t, (change' t).name = t.name) :
    (s.modify k change).modify k' change' = (s.modify k' change').modify k change := by
  unfold modify
  congr 1
  rw [List.map_map, List.map_map]
  apply List.map_congr_left
  intro t _
  simp only [Function.comp]
  by_cases hk : t.name.key? = some k
  · have hk' : t.name.key? ≠ some k' := by rw [hk]; simpa using hne
    rw [if_pos hk, if_neg hk', if_pos hk, hname, if_neg hk']
  · by_cases hk' : t.name.key? = some k'
    · rw [if_neg hk, if_pos hk', hname', if_neg hk]
    · rw [if_neg hk, if_neg hk', if_neg hk]

theorem changeAt_comm (hne : ∀ k, key = some k → key' ≠ some k)
    (hname : ∀ t, (change t).name = t.name) (hname' : ∀ t, (change' t).name = t.name) :
    (s.changeAt key change).changeAt key' change' = (s.changeAt key' change').changeAt key change := by
  cases key with
  | none => rfl
  | some k =>
    cases key' with
    | none => rfl
    | some k' =>
      have hk : k ≠ k' := by rintro rfl; exact hne k rfl rfl
      exact modify_comm hk hname hname'

/-! ## Operations about one table -/

/-- A table is looked up under its own key only. -/
theorem table_congr (h : SameAt name.key? s s') : s.table name = s'.table name := by
  cases hk : name.key? with
  | none => simp only [table, keyOf, hk, bind, Except.bind]
  | some k => simp only [table, keyOf, hk, bind, Except.bind, h k hk]

theorem Local.map (h : Local key op) (wrap : α → β) :
    Local key fun s => (op s).map fun p => (wrap p.1, p.2) := by
  intro s s' hsame
  rcases h s s' hsame with ⟨f, hs, hs'⟩ | ⟨a, change, hname, hs, hs'⟩
  · exact .inl ⟨f, by simp only [hs, Except.map], by simp only [hs', Except.map]⟩
  · exact .inr ⟨wrap a, change, hname, by simp only [hs, Except.map], by simp only [hs', Except.map]⟩

/-- To ask something of a table, which may fail, is about that table. -/
theorem asked_local (name : Value) (ask : Table → Except Fault α) :
    Local name.key? fun s => (s.table name).bind fun t => (ask t).map fun a => (a, s) := by
  intro s s' hsame
  have htable := table_congr hsame
  simp only [← htable, Except.bind]
  cases s.table name with
  | error f => exact .inl ⟨f, rfl, rfl⟩
  | ok t =>
    dsimp only
    cases ask t with
    | error f => exact .inl ⟨f, rfl, rfl⟩
    | ok a =>
      refine .inr ⟨a, fun t => t, fun _ => rfl, ?_, ?_⟩
      · rw [changeAt_id]; rfl
      · rw [changeAt_id]; rfl

/-- To tell something of a table is about that table. -/
theorem table_local (name : Value) (tell : Table → α) :
    Local name.key? fun s => (s.table name).map fun t => (tell t, s) := by
  have hasked := asked_local name fun t => .ok (tell t)
  intro s s' hsame
  have htell : ∀ u : Store, ((u.table name).map fun t => (tell t, u)) =
      (u.table name).bind fun t => (Except.ok (tell t)).map fun a => (a, u) := by
    intro u
    cases u.table name <;> rfl
  simp only [htell]
  exact hasked s s' hsame

/-- To add a row is about the table that it is added to. -/
theorem append_local (name : Value) (values : Record) : Local name.key? (·.append name values) := by
  intro s s' hsame
  simp only [append, keyOf, bind, Except.bind]
  cases hk : name.key? with
  | none => exact .inl ⟨.external .unusableName, rfl, rfl⟩
  | some k =>
    -- both stores look the same table up
    simp only [← hsame k hk]
    cases s.find? k with
    | none => exact .inl ⟨Fault.raised (.query (.unknownTable name)), rfl, rfl⟩
    | some t =>
      dsimp only
      cases t.refused? values.names with
      | some column => exact .inl ⟨Fault.raised (.query (.schemaMismatch name column)), rfl, rfl⟩
      | none => exact .inr ⟨t.nextRow values, (·.push values), fun _ => rfl, rfl, rfl⟩

/-- **To carry out a statement is about the table that it names.** -/
theorem execute_local (st : Statement) : Local (st.table?.map .text) (·.execute st) := by
  cases st with
  | select table fields filter =>
    have hasked := asked_local (.text table) fun t => (filterRows filter t.rows).map (selectFields fields)
    intro s s' hsame
    have hexecute : ∀ u : Store, u.execute (.select table fields filter) =
        (u.table (.text table)).bind fun t =>
          ((filterRows filter t.rows).map (selectFields fields)).map fun rows => (rows, u) := by
      intro u
      simp only [execute, rows, Except.map, bind, Except.bind]
      cases u.table (.text table) with
      | error f => rfl
      | ok t =>
        dsimp only
        cases filterRows filter t.rows <;> rfl
    simp only [hexecute]
    exact hasked s s' hsame
  | insert table columns values =>
    have happend := append_local (.text table) (Statement.insertValues columns values)
    intro s s' hsame
    have hexecute : ∀ u : Store, u.execute (.insert table columns values) =
        (u.append (.text table) (Statement.insertValues columns values)).map
          fun p => ([p.1], p.2) := by
      intro u
      rw [execute]
      cases u.append (.text table) (Statement.insertValues columns values) <;> rfl
    simp only [hexecute]
    exact happend.map (fun row => [row]) s s' hsame
  | other kind => exact fun _ _ _ => .inl ⟨.query (.unsupported kind), rfl, rfl⟩

end Store

/-- **A request is about the table that it names**, and one that names none is the same to
every store. -/
theorem Request.perform_local (mode : Mode) (r : Request) : Store.Local (r.key? mode) (r.perform mode) := by
  cases r with
  | execute text =>
    have hquery : Store.Local ((execute text).key? mode) (·.query mode (.text text)) := by
      have hread' : ∀ u : Store, u.query mode (.text text) = read mode text >>= u.execute :=
        fun _ => rfl
      cases hread : read mode text with
      | error f =>
        refine fun s s' _ => .inl ⟨f, ?_, ?_⟩ <;>
        · simp only [hread', hread]; rfl
      | ok st =>
        rw [key?_execute hread]
        simp only [hread', hread]
        exact Store.execute_local st
    exact hquery.map Answer.rows
  | append table values => exact (Store.append_local table values).map Answer.row
  | rows table => exact Store.table_local table fun t => Answer.rows t.rows
  | count table => exact Store.table_local table fun t => Answer.count t.rows.length

namespace Store

variable {α β : Type} {s s' : Store} {key key' : Option Value.Key} {k : Value.Key}
  {op : Store → Except Fault (α × Store)} {op' : Store → Except Fault (β × Store)}

/-! ## What follows for outcomes -/

/-- Stores that agree on the table give the same result. -/
theorem Local.result_eq (h : Local key op) (hsame : SameAt key s s') :
    (Outcome.silent s (op s)).result = (Outcome.silent s' (op s')).result := by
  rcases h s s' hsame with ⟨f, hs, hs'⟩ | ⟨a, change, -, hs, hs'⟩ <;> rw [hs, hs'] <;> rfl

/-- Stores that agree on the table go through the same change of it. -/
theorem Local.state_eq (h : Local key op) (hsame : SameAt key s s') :
    ∃ change : Table → Table, (∀ t, (change t).name = t.name) ∧
      (Outcome.silent s (op s)).state = s.changeAt key change ∧
      (Outcome.silent s' (op s')).state = s'.changeAt key change := by
  rcases h s s' hsame with ⟨f, hs, hs'⟩ | ⟨a, change, hname, hs, hs'⟩
  · refine ⟨fun t => t, fun _ => rfl, ?_, ?_⟩
    · rw [hs, changeAt_id]; rfl
    · rw [hs', changeAt_id]; rfl
  · exact ⟨change, hname, by rw [hs]; rfl, by rw [hs']; rfl⟩

/-- **The other tables stay as they are.** -/
theorem Local.frame (h : Local key op) (hne : key ≠ some k) (s : Store) :
    (Outcome.silent s (op s)).state.find? k = s.find? k := by
  have hself : SameAt key s s := fun _ _ => rfl
  obtain ⟨change, hname, hstate, -⟩ := h.state_eq hself
  rw [hstate, find?_changeAt_of_ne hname hne]

/-- Stores that agree on the table still agree on what they agreed on before. -/
theorem Local.find?_congr (h : Local key op) (hsame : SameAt key s s') (hk : s.find? k = s'.find? k) :
    (Outcome.silent s (op s)).state.find? k = (Outcome.silent s' (op s')).state.find? k := by
  obtain ⟨change, hname, hstate, hstate'⟩ := h.state_eq hsame
  rw [hstate, hstate', find?_changeAt_congr hname hk]

/-- **Operations about different tables can be done in either order.** -/
theorem Local.comm (h : Local key op) (h' : Local key' op') (hne : ∀ k, key = some k → key' ≠ some k)
    (s : Store) :
    (Outcome.silent (Outcome.silent s (op s)).state (op' (Outcome.silent s (op s)).state)).state =
      (Outcome.silent (Outcome.silent s (op' s)).state (op (Outcome.silent s (op' s)).state)).state := by
  -- each finds its table as it was, whether the other one was first or not
  have hsame : SameAt key s (Outcome.silent s (op' s)).state :=
    fun k hk => (h'.frame (hne k hk) s).symm
  have hsame' : SameAt key' s (Outcome.silent s (op s)).state :=
    fun k hk => (h.frame (fun hkey => hne k hkey hk) s).symm
  obtain ⟨change, hname, hfirst, hsecond⟩ := h.state_eq hsame
  obtain ⟨change', hname', hfirst', hsecond'⟩ := h'.state_eq hsame'
  rw [hsecond, hsecond', hfirst, hfirst', changeAt_comm hne hname hname']

end Store

end Almanac
