import Almanac.Proofs.Tables
import Almanac.Store.Seed
import Mathlib.Logic.Relation

/-!
# What holds of every store that is reached

A store is changed in two ways only: a table is created under a free name, or a row is
pushed onto a table. Whatever is done to a store, it goes through such changes
(`act_changes`), so what they keep holds of every store that is reached from the empty
one.

* `Store.Ok`: tables are well formed and are found under different keys.
* `Reachable.ok`: **every store that is reached is well formed.**
-/

namespace Almanac

/-- What can be done to a store. -/
inductive Operation where
  | step (mode : Mode) (st : Step)
  | initialise (settings : StorageSettings)

namespace Store

/-- Does one operation. -/
def act (s : Store) : Operation → Outcome Store Answer
  | .step mode st => s.step mode st
  | .initialise settings => (s.initialise settings).map fun _ => .done

/-- The store after a run of operations from the empty one, whatever comes of each. -/
def after (ops : List Operation) : Store := Outcome.stateAfter act .empty ops

/-- The store is reached by some run. -/
def Reachable (s : Store) : Prop := ∃ ops, s = after ops

/-- One change: a table is created, or a row is pushed. -/
inductive Change (s : Store) : Store → Prop
  | create {name : Value} {key : Value.Key} (columns : List Text) (hkey : name.key? = some key)
      (hfree : s.find? key = none) : Change s ⟨s.tables ++ [Table.fresh name columns]⟩
  | push {key : Value.Key} {t : Table} {values : Record} (ht : s.find? key = some t)
      (hvalues : t.refused? values.names = none) : Change s (s.modify key (·.push values))

/-- Any number of changes. -/
abbrev Changes : Store → Store → Prop := Relation.ReflTransGen Change

/-- **What holds of every store:** its tables are well formed, and no two are found under
one key. -/
structure Ok (s : Store) : Prop where
  tables : ∀ t ∈ s.tables, t.Ok
  keyed : ∀ t ∈ s.tables, t.name.key? ≠ none
  distinct : (s.tables.map (·.name.key?)).Nodup

variable {s s' s'' : Store} {t : Table} {name : Value} {columns : List Text} {values row : Record}

/-! ## Operations are changes -/

theorem create_eq_ok (h : s.create name columns = .ok (t, s')) :
    t = Table.fresh name columns ∧ s' = ⟨s.tables ++ [t]⟩ ∧
      ∃ key, name.key? = some key ∧ s.find? key = none := by
  obtain ⟨key, hkey, h⟩ := bind_eq_ok_iff.1 h
  have hname : name.key? = some key := by
    unfold keyOf at hkey
    split at hkey
    · cases hkey; assumption
    · cases hkey
  cases hf : s.find? key with
  | some u => rw [hf] at h; cases h
  | none =>
    rw [hf] at h
    cases h
    exact ⟨rfl, rfl, key, hname, hf⟩

theorem create_change (h : s.create name columns = .ok (t, s')) : Change s s' := by
  obtain ⟨rfl, rfl, key, hkey, hfree⟩ := create_eq_ok h
  exact .create columns hkey hfree

theorem append_change (h : s.append name values = .ok (row, s')) : Change s s' := by
  obtain ⟨key, t, -, ht, hvalues, -, rfl⟩ := append_eq_ok h
  exact .push ht hvalues

theorem createLogged_changes (s : Store) (name : Value) (columns : List Text) :
    Changes s (s.createLogged name columns).state := by
  cases h : (s.createLogged name columns).result with
  | ok t => exact .single (create_change (create_of_createLogged_ok h).1)
  | error f =>
    rcases state_of_createLogged_error h with hstate | ⟨⟨t, hcreate⟩, -⟩
    · rw [hstate]
    · exact .single (create_change hcreate)

theorem execute_changes {statement : Statement} {rows : List Record}
    (h : s.execute statement = .ok (rows, s')) : Changes s s' := by
  cases statement with
  | select table fields filter =>
    obtain ⟨rfl, -⟩ := execute_select h
    exact .refl
  | insert table columns values =>
    obtain ⟨row, -, happend⟩ := execute_insert h
    exact .single (append_change happend)
  | other kind => cases h

theorem query_eq_ok {mode : Mode} {statement : Value} {rows : List Record}
    (h : s.query mode statement = .ok (rows, s')) :
    ∃ st, Statement.readValue mode statement = .ok st ∧ s.execute st = .ok (rows, s') :=
  bind_eq_ok_iff.1 h

theorem silent_changes {α : Type} {r : Except Fault (α × Store)}
    (h : ∀ a s', r = .ok (a, s') → Changes s s') : Changes s (Outcome.silent s r).state := by
  cases r with
  | error f => exact .refl
  | ok p => exact h p.1 p.2 rfl

theorem step_changes (mode : Mode) (st : Step) : Changes s (s.step mode st).state := by
  cases st with
  | create table columns =>
    rw [step, Outcome.andThen_state fun _ => rfl]
    exact createLogged_changes s table columns
  | append table values =>
    rw [step, Outcome.andThen_state fun _ => rfl]
    exact silent_changes fun _ _ h => .single (append_change h)
  | execute statement =>
    rw [step, Outcome.andThen_state fun _ => rfl]
    refine silent_changes fun rows s' h => ?_
    obtain ⟨st, -, hst⟩ := query_eq_ok h
    exact execute_changes hst
  | executeParsed statement =>
    cases h : s.execute statement with
    | ok p =>
      rw [step_executeParsed_ok h]
      exact execute_changes h
    | error f =>
      rw [step_executeParsed_error h]
  | _ => exact .refl

theorem andThen_changes {α β : Type} {o : Outcome Store α} {next : α → Store → Outcome Store β}
    (ho : Changes s o.state) (hnext : ∀ a t, Changes t (next a t).state) :
    Changes s (o.andThen next).state := by
  unfold Outcome.andThen
  split
  · exact ho
  · exact ho.trans (hnext _ _)

theorem appendAll_changes (name : Value) (rows : List Record) (s : Store) :
    Changes s (appendAll name rows s).state := by
  induction rows generalizing s with
  | nil => exact .refl
  | cons values rest ih =>
    exact andThen_changes (silent_changes fun _ _ h => .single (append_change h)) fun _ t => ih t

theorem note_changes (event : Event) (s : Store) : Changes s (Outcome.note event s).state := by
  rw [Outcome.note_state]

theorem initialise_changes (settings : StorageSettings) (s : Store) :
    Changes s (s.initialise settings).state := by
  unfold initialise
  refine andThen_changes (note_changes _ _) fun _ s => ?_
  refine andThen_changes (createLogged_changes _ _ _) fun _ s => ?_
  refine andThen_changes (createLogged_changes _ _ _) fun _ s => ?_
  refine andThen_changes (appendAll_changes _ _ _) fun _ s => ?_
  exact andThen_changes (appendAll_changes _ _ _) fun _ s => note_changes _ s

/-- **Every operation goes through changes**, whatever comes of it. -/
theorem act_changes (s : Store) (op : Operation) : Changes s (s.act op).state := by
  cases op with
  | step mode st => exact step_changes mode st
  | initialise settings => exact initialise_changes settings s

theorem run_changes (s : Store) (ops : List Operation) :
    Changes s (Outcome.stateAfter act s ops) := by
  induction ops generalizing s with
  | nil => exact .refl
  | cons op rest ih => exact (act_changes s op).trans (ih (s.act op).state)

/-! ## What changes keep -/

theorem empty_ok : Store.empty.Ok := ⟨by simp [empty], by simp [empty], by simp [empty]⟩

/-- **A change keeps a store well formed.** -/
theorem Change.ok (hs : s.Ok) (h : Change s s') : s'.Ok := by
  cases h with
  | @create name key columns hkey hfree =>
    refine ⟨?_, ?_, ?_⟩
    · intro t ht
      rcases List.mem_append.1 ht with ht | ht
      · exact hs.tables t ht
      · rw [List.mem_singleton.1 ht]; exact Table.fresh_ok name columns
    · intro t ht
      rcases List.mem_append.1 ht with ht | ht
      · exact hs.keyed t ht
      · rw [List.mem_singleton.1 ht, Table.fresh, hkey]; simp
    · -- the new table's key was free
      have hnew : ∀ t ∈ s.tables, t.name.key? ≠ some key := find?_eq_none_iff.1 hfree
      simp only [List.map_append, List.map_cons, List.map_nil, Table.fresh, hkey]
      rw [List.nodup_append]
      refine ⟨hs.distinct, by simp, ?_⟩
      intro a ha b hb
      obtain ⟨t, ht, rfl⟩ := List.mem_map.1 ha
      rw [List.mem_singleton.1 hb]
      exact hnew t ht
  | @push key t values ht hvalues =>
    have hkeys : (s.modify key (·.push values)).tables.map (·.name.key?) =
        s.tables.map (·.name.key?) := by
      have : (s.modify key (·.push values)).names = s.names := names_modify fun _ => rfl
      have hmap := congrArg (List.map Value.key?) this
      simpa [names, Function.comp_def] using hmap
    have hmem : ∀ u ∈ (s.modify key (·.push values)).tables,
        ∃ v ∈ s.tables, u = v ∨ u = v.push values := by
      intro u hu
      obtain ⟨v, hv, rfl⟩ := List.mem_map.1 hu
      refine ⟨v, hv, ?_⟩
      split
      · exact .inr rfl
      · exact .inl rfl
    refine ⟨?_, ?_, by rw [hkeys]; exact hs.distinct⟩
    · intro u hu
      obtain ⟨v, hv, rfl | rfl⟩ := hmem u hu
      · exact hs.tables u hv
      · exact Table.push_ok (hs.tables v hv)
    · intro u hu
      obtain ⟨v, hv, rfl | rfl⟩ := hmem u hu
      · exact hs.keyed u hv
      · exact hs.keyed v hv

theorem Changes.ok (hs : s.Ok) (h : Changes s s') : s'.Ok := by
  induction h with
  | refl => exact hs
  | tail _ hstep ih => exact hstep.ok ih

/-- **Every store that is reached is well formed.** -/
theorem Reachable.ok (h : s.Reachable) : s.Ok := by
  obtain ⟨ops, rfl⟩ := h
  exact Changes.ok empty_ok (run_changes .empty ops)

theorem Reachable.table_ok (h : s.Reachable) (ht : s.table name = .ok t) : t.Ok := by
  obtain ⟨key, -, hf⟩ := table_eq_ok_iff.1 ht
  exact h.ok.tables t (mem_of_find? hf).1

end Store

end Almanac
