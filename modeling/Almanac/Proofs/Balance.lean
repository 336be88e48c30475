import Almanac.Proofs.Effects
import Almanac.Proofs.Numbering
import Almanac.Proofs.Steps

/-!
# What the statistics tell of a run

The statistics are counted anew from the tables each time that they are asked for. Nothing
else is kept of how a store came about, and still they balance with it: as many tables as were
created, and as many rows as were added.

* `Balances`: the tables and the rows that one store has more than another.
* `act_balances`: **what one operation adds is what its outcome tells.**
* `run_balances`: so it is from any moment of a run to any later one.
* `statistics_balance`: **the statistics after any run.**
-/

namespace Almanac

open Outcome Statement

/-- The table that an event says was created. -/
def Event.created? : Event → Option Value
  | tableCreated name _ => some name
  | _ => none

/-- How many rows a step adds if it succeeds. -/
def Step.rowsAdded : Step → Nat
  | .append _ _ => 1
  | .execute (.text text) => if leadingWord text = insertWord then 1 else 0
  | .executeParsed (.insert _ _ _) => 1
  | _ => 0

/-- How many rows an operation adds if it succeeds: the initial ones are the administrator's and
the readings. -/
def Operation.rowsAdded : Operation → Nat
  | .step _ st => st.rowsAdded
  | .initialise settings => 1 + (Store.initialReadings settings).length

/-- The names under which an operation creates tables. -/
def Operation.asked : Operation → List Value
  | .step _ (.create name _) => [name]
  | .step _ _ => []
  | .initialise settings => [settings.usersTable, settings.weatherTable]

namespace Store

/-- The tables that an operation created. One that is asked for by itself is created if this
succeeds. The initial tables are made one after the other, and each is logged when it is there. -/
def createdBy (p : Operation × Outcome Store Answer) : List Value :=
  match p.1, p.2.result with
  | .step _ (.create name _), .ok _ => [name]
  | .initialise _, _ => p.2.events.filterMap Event.created?
  | _, _ => []

/-- The number of rows that an operation added. -/
def addedBy (p : Operation × Outcome Store Answer) : Nat :=
  match p.2.result with
  | .ok _ => p.1.rowsAdded
  | .error _ => 0

/-- The tables that were created in a run, in their order. -/
def created (ops : List Operation) : List Value := (history act .empty ops).flatMap createdBy

/-- The number of rows that were added in a run. -/
def added (ops : List Operation) : Nat :=
  (history act .empty ops).foldr (fun p n => addedBy p + n) 0

/-- **The second list has these names more, behind those of the first.** They are among those that
were asked for, and of these the ones that can be shown are known. -/
def Lengthens (before after asked shown : List Value) : Prop :=
  ∃ new, after = before ++ new ∧ new ⊆ asked ∧ new.filter (fun n => n.Showable) = shown

/-- **The second store has more tables than the first, behind those, and so many rows more.** A table
whose name cannot be shown may be there although creating it failed. -/
structure Balances (before after : Store) (asked tables : List Value) (rows : Nat) : Prop where
  names : Lengthens before.names after.names asked tables
  rows : after.statistics.totalRows = before.statistics.totalRows + rows

variable {s s' s'' : Store} {t : Table} {name : Value} {columns : List Text} {values row : Record}
  {asked asked' tables tables' names names' names'' : List Value} {n m : Nat}

theorem Lengthens.refl (names asked : List Value) : Lengthens names names asked [] :=
  ⟨[], (List.append_nil _).symm, List.nil_subset _, rfl⟩

theorem Lengthens.trans (h : Lengthens names names' asked tables)
    (h' : Lengthens names' names'' asked' tables') :
    Lengthens names names'' (asked ++ asked') (tables ++ tables') := by
  obtain ⟨new, rfl, hasked, rfl⟩ := h
  obtain ⟨new', rfl, hasked', rfl⟩ := h'
  refine ⟨new ++ new', List.append_assoc _ _ _, ?_, List.filter_append _ _⟩
  exact List.append_subset.2 ⟨List.Subset.trans hasked (List.subset_append_left _ _),
    List.Subset.trans hasked' (List.subset_append_right _ _)⟩

theorem Lengthens.mono (h : Lengthens names names' asked tables) (hasked : asked ⊆ asked') :
    Lengthens names names' asked' tables := by
  obtain ⟨new, hnew, hsub, hshown⟩ := h
  exact ⟨new, hnew, List.Subset.trans hsub hasked, hshown⟩

theorem Balances.refl (s : Store) (asked : List Value) : Balances s s asked [] 0 := ⟨.refl _ _, rfl⟩

theorem Balances.trans (h : Balances s s' asked tables n) (h' : Balances s' s'' asked' tables' m) :
    Balances s s'' (asked ++ asked') (tables ++ tables') (n + m) :=
  ⟨h.names.trans h'.names, by rw [h'.rows, h.rows, Nat.add_assoc]⟩

/-! ## Counting rows -/

/-- The rows of several tables. -/
def rowCount (ts : List Table) : Nat := ts.foldr (fun t n => t.rows.length + n) 0

theorem rowCount_append (ts us : List Table) : rowCount (ts ++ us) = rowCount ts + rowCount us := by
  induction ts with
  | nil => simp [rowCount]
  | cons t ts ih =>
    simp only [rowCount, List.cons_append, List.foldr_cons] at ih ⊢
    omega

/-- Tables without rows count for nothing. -/
theorem rowCount_eq_zero {ts : List Table} (h : ∀ t ∈ ts, t.rows = []) : rowCount ts = 0 := by
  induction ts with
  | nil => rfl
  | cons t ts ih =>
    have hrest := ih fun u hu => h u (List.mem_cons_of_mem _ hu)
    simp only [rowCount, List.foldr_cons, h t List.mem_cons_self, List.length_nil] at hrest ⊢
    omega

theorem totalRows_statistics (s : Store) : s.statistics.totalRows = rowCount s.tables := by
  have hfrom : ∀ (ts : List Table) (n : Nat),
      (ts.map fun t => (t.name, t.rows.length)).foldl (fun n c => n + c.2) n = n + rowCount ts := by
    intro ts
    induction ts with
    | nil => intro n; rfl
    | cons t ts ih =>
      intro n
      rw [List.map_cons, List.foldl_cons, ih]
      simp only [rowCount, List.foldr_cons]
      omega
  rw [statistics, Statistics.totalRows, hfrom, Nat.zero_add]

theorem length_pushAll (t : Table) (rows : List Record) :
    (t.pushAll rows).rows.length = t.rows.length + rows.length := by
  induction rows generalizing t with
  | nil => rfl
  | cons values rest ih =>
    have hsplit : t.pushAll (values :: rest) = (t.push values).pushAll rest := rfl
    rw [hsplit, ih]
    simp only [Table.push, List.length_append, List.length_cons, List.length_nil]
    omega

/-- A table that is listed is the one of its name. -/
theorem table_of_mem (hs : s.Ok) (ht : t ∈ s.tables) : s.table t.name = .ok t := by
  obtain ⟨key, hkey⟩ := Option.ne_none_iff_exists'.1 (hs.keyed t ht)
  refine table_eq_ok_iff.2 ⟨key, hkey, ?_⟩
  cases hfind : s.find? key with
  | none => exact absurd hkey (find?_eq_none_iff.1 hfind t ht)
  | some u =>
    obtain ⟨hu, hukey⟩ := mem_of_find? hfind
    rw [List.inj_on_of_nodup_map hs.distinct hu ht (hukey.trans hkey.symm)]

/-! ## One operation -/

/-- What adds no rows if it succeeds adds none. -/
theorem addedBy_of_none {op : Operation} {o : Outcome Store Answer} (h : op.rowsAdded = 0) :
    addedBy (op, o) = 0 := by
  unfold addedBy
  split
  · exact h
  · rfl

theorem names_create (h : s.create name columns = .ok (t, s')) : s'.names = s.names ++ [name] := by
  obtain ⟨rfl, rfl, -⟩ := create_eq_ok h
  simp [Store.names, Table.fresh]

theorem filterMap_created_eq_nil {events : List Event} (h : ∀ n cs, .tableCreated n cs ∉ events) :
    events.filterMap Event.created? = [] := by
  refine List.filterMap_eq_nil_iff.2 fun e he => ?_
  cases e with
  | tableCreated n cs => exact absurd he (h n cs)
  | _ => rfl

/-- A table that is created is there whether its name can be shown or not, and is logged if it
can. -/
theorem createLogged_lengthens (s : Store) (name : Value) (columns : List Text) :
    Lengthens s.names (s.createLogged name columns).state.names [name]
      ((s.createLogged name columns).events.filterMap Event.created?) := by
  cases hcreate : s.create name columns with
  | error f =>
    obtain ⟨g, events, hlogged, hevents, -⟩ := createLogged_of_error hcreate
    rw [hlogged, filterMap_created_eq_nil hevents]
    exact .refl _ _
  | ok p =>
    -- the store has the name either way, and the log may not
    obtain ⟨t, s'⟩ := p
    have hnames := names_create hcreate
    cases hname : name.unshowable? with
    | none =>
      rw [createLogged_of_ok hcreate hname]
      have hshown : ∀ n ∈ [name], decide n.Showable = true :=
        List.forall_mem_singleton.2 (decide_eq_true hname)
      exact ⟨[name], hnames, List.Subset.refl _, List.filter_eq_self.2 hshown⟩
    | some k =>
      have hnot : ¬ name.Showable := Value.not_showable_iff.2 ⟨k, hname⟩
      rw [createLogged_of_unshowable hcreate hname]
      exact ⟨[name], hnames, List.Subset.refl _, List.filter_eq_nil_iff.2 (by simpa using hnot)⟩

theorem rows_createLogged (s : Store) (name : Value) (columns : List Text) :
    rowCount (s.createLogged name columns).state.tables = rowCount s.tables := by
  obtain ⟨ts, htables, hprefix⟩ := tables_createLogged s name columns
  have hempty : rowCount ts = 0 := rowCount_eq_zero fun t ht => by
    rw [List.mem_singleton.1 (List.IsPrefix.subset hprefix ht)]; rfl
  rw [htables, rowCount_append, hempty, Nat.add_zero]

theorem balances_append (hs : s.Ok) (h : s.append name values = .ok (row, s')) :
    Balances s s' [] [] 1 := by
  obtain ⟨before, t, after, hsplit, hsplit'⟩ := append_gains hs h
  have hnames : s'.names = s.names := by simp [Store.names, hsplit, hsplit']
  refine ⟨by rw [hnames]; exact .refl _ _, ?_⟩
  rw [totalRows_statistics, totalRows_statistics, hsplit, hsplit', rowCount_append, rowCount_append]
  simp only [rowCount, List.foldr_cons, List.length_append, List.length_cons, List.length_nil]
  omega

theorem balances_execute (hs : s.Ok) {st : Statement} {rows : List Record}
    (h : s.execute st = .ok (rows, s')) :
    Balances s s' [] [] (Step.executeParsed st).rowsAdded := by
  cases st with
  | select table fields filter =>
    obtain ⟨rfl, -⟩ := execute_select h
    exact .refl _ _
  | insert table columns given =>
    obtain ⟨row, -, happend⟩ := execute_insert h
    exact balances_append hs happend
  | other kind => cases h

theorem balances_step_execute (hs : s.Ok) (mode : Mode) (statement : Value) :
    Balances s (s.step mode (.execute statement)).state [] []
      (addedBy (.step mode (.execute statement), s.step mode (.execute statement))) := by
  cases hquery : s.query mode statement with
  | error f =>
    rw [step_execute_error hquery]
    exact .refl s _
  | ok p =>
    rw [step_execute_ok hquery]
    obtain ⟨st, hread, hst⟩ := query_eq_ok hquery
    obtain ⟨text, rfl, hread⟩ := readValue_eq_ok hread
    have hbalances := balances_execute hs hst
    -- the first word tells what kind of statement was carried out
    rcases read_eq_ok hread with ⟨hword, _, _, _, rfl⟩ | ⟨hword, _, _, _, rfl⟩
    · have hnone : (Step.execute (.text text)).rowsAdded = 0 := by
        rw [Step.rowsAdded, hword]; rfl
      simp only [addedBy, Operation.rowsAdded, hnone]
      exact hbalances
    · have hone : (Step.execute (.text text)).rowsAdded = 1 := by
        rw [Step.rowsAdded, hword]; rfl
      simp only [addedBy, Operation.rowsAdded, hone]
      exact hbalances

theorem balances_step_create (s : Store) (mode : Mode) (name : Value) (columns : List Text) :
    Balances s (s.step mode (.create name columns)).state [name]
      (createdBy (.step mode (.create name columns), s.step mode (.create name columns)))
      (addedBy (.step mode (.create name columns), s.step mode (.create name columns))) := by
  rw [addedBy_of_none rfl, step, andThen_wrap]
  have hnames := createLogged_lengthens s name columns
  refine ⟨?_, by rw [totalRows_statistics, totalRows_statistics]; exact rows_createLogged s name columns⟩
  simp only [createdBy, Outcome.map]
  -- what is logged is what the answer tells
  cases hresult : (s.createLogged name columns).result with
  | ok t =>
    obtain ⟨hcreate, hname⟩ := create_of_createLogged_ok hresult
    rw [createLogged_of_ok hcreate hname] at hnames ⊢
    exact hnames
  | error f =>
    have hevents : (s.createLogged name columns).events.filterMap Event.created? = [] := by
      cases hcreate : s.create name columns with
      | ok p =>
        cases hname : name.unshowable? with
        | none => rw [createLogged_of_ok hcreate hname] at hresult; cases hresult
        | some k => rw [createLogged_of_unshowable hcreate hname]; rfl
      | error g =>
        obtain ⟨g, events, hlogged, hnone, -⟩ := createLogged_of_error hcreate
        rw [hlogged]
        exact filterMap_created_eq_nil hnone
    rw [hevents] at hnames
    exact hnames

theorem balances_step (hs : s.Ok) (mode : Mode) (st : Step) :
    Balances s (s.step mode st).state (Operation.asked (.step mode st))
      (createdBy (.step mode st, s.step mode st)) (addedBy (.step mode st, s.step mode st)) := by
  cases st with
  | create table columns => exact balances_step_create s mode table columns
  | append table values =>
    rw [step, andThen_wrap]
    cases happend : s.append table values with
    | ok p => exact balances_append hs happend
    | error f => exact .refl s _
  | execute statement => exact balances_step_execute hs mode statement
  | executeParsed st =>
    cases hst : s.execute st with
    | ok p =>
      rw [step_executeParsed_ok hst]
      exact balances_execute hs hst
    | error f =>
      rw [step_executeParsed_error hst]
      exact .refl s _
  | rows table | has table | columns table | count table =>
    rw [addedBy_of_none rfl]
    exact .refl s _
  | names | stats => exact .refl s _

theorem events_appendAll (name : Value) (rows : List Record) (s : Store) :
    (appendAll name rows s).events = [] := by
  induction rows generalizing s with
  | nil => rfl
  | cons values rest ih =>
    cases happend : s.append name values with
    | error f => simp [appendAll, happend, Outcome.silent, Outcome.andThen]
    | ok p => simp [appendAll, happend, Outcome.silent, Outcome.andThen, ih]

theorem names_appendAll (name : Value) (rows : List Record) (s : Store) :
    (appendAll name rows s).state.names = s.names := by
  induction rows generalizing s with
  | nil => rfl
  | cons values rest ih =>
    cases happend : s.append name values with
    | error f => simp [appendAll, happend, Outcome.silent, Outcome.andThen]
    | ok p =>
      obtain ⟨key, t, -, -, -, -, hmodify⟩ := append_eq_ok happend
      have hnames : p.2.names = s.names := by rw [hmodify]; exact names_modify fun _ => rfl
      simp [appendAll, happend, Outcome.silent, Outcome.andThen, ih, hnames]

/-- What an operation logs as created, of the names that were asked for. -/
def Tells {α : Type} (s : Store) (asked : List Value) (o : Outcome Store α) : Prop :=
  Lengthens s.names o.state.names asked (o.events.filterMap Event.created?)

theorem tells_of_same {α : Type} {o : Outcome Store α} (hnames : o.state.names = s.names)
    (hevents : o.events.filterMap Event.created? = []) : s.Tells [] o := by
  rw [Tells, hnames, hevents]
  exact .refl _ _

/-- **Operations tell the names that they make one after the other.** -/
theorem Tells.andThen {α β : Type} {o : Outcome Store α} {next : α → Store → Outcome Store β}
    (h : s.Tells asked o) (hnext : ∀ a s, Store.Tells s asked' (next a s)) :
    s.Tells (asked ++ asked') (o.andThen next) := by
  cases hresult : o.result with
  | error f =>
    rw [andThen_of_error hresult]
    exact h.mono (List.subset_append_left _ _)
  | ok a =>
    rw [andThen_of_ok hresult, Tells, List.filterMap_append]
    exact h.trans (hnext a o.state)

theorem tells_note {event : Event} (h : event.created? = none) (s : Store) :
    s.Tells [] (Outcome.note event s) := by
  refine tells_of_same (by rw [note_state]) (List.filterMap_eq_nil_iff.2 fun e he => ?_)
  rw [eq_of_mem_note he, h]

theorem tells_appendAll (name : Value) (rows : List Record) (s : Store) :
    s.Tells [] (appendAll name rows s) :=
  tells_of_same (names_appendAll name rows s) (by rw [events_appendAll]; rfl)

theorem initialise_tells (settings : StorageSettings) (s : Store) :
    s.Tells [settings.usersTable, settings.weatherTable] (s.initialise settings) := by
  refine (tells_note rfl s).andThen fun _ s => ?_
  refine Tells.andThen (createLogged_lengthens s _ _) fun _ s => ?_
  refine Tells.andThen (createLogged_lengthens s _ _) fun _ s => ?_
  refine (tells_appendAll _ _ s).andThen fun _ s => ?_
  exact (tells_appendAll _ _ s).andThen fun _ s => tells_note rfl s

/-- **The initial tables balance**, whether both were made, one of them or none. -/
theorem balances_initialise (s : Store) (settings : StorageSettings) :
    Balances s (s.act (.initialise settings)).state (Operation.asked (.initialise settings))
      (createdBy (.initialise settings, s.act (.initialise settings)))
      (addedBy (.initialise settings, s.act (.initialise settings))) := by
  refine ⟨initialise_tells settings s, ?_⟩
  rw [totalRows_statistics, totalRows_statistics]
  obtain ⟨u, s₁, w, s₂, hu, hw, hresult, hstate⟩ | ⟨f, -, hresult, -⟩ := initialise_endings settings s
  · obtain ⟨rfl, -, -⟩ := create_eq_ok hu
    obtain ⟨rfl, -, -⟩ := create_eq_ok hw
    simp only [addedBy, act, Outcome.map, hresult, hstate, rowCount_append]
    simp only [rowCount, List.foldr_cons, length_pushAll]
    simp [Table.push, Table.fresh, Except.map, Operation.rowsAdded]
  · -- the tables that are left have no rows
    have hfails : (s.act (.initialise settings)).result = .error f := map_eq_error_iff.2 hresult
    obtain ⟨ts, htables, hempty⟩ := tables_of_error hfails
    rw [htables, rowCount_append, rowCount_eq_zero hempty]
    simp only [addedBy, hfails]

theorem act_balances (hs : s.Ok) (op : Operation) :
    Balances s (s.act op).state op.asked (createdBy (op, s.act op)) (addedBy (op, s.act op)) := by
  cases op with
  | step mode st => exact balances_step hs mode st
  | initialise settings => exact balances_initialise s settings

/-- **From any moment of a run to any later one the statistics balance.** -/
theorem run_balances (hs : s.Ok) (ops : List Operation) :
    Balances s (stateAfter act s ops) (ops.flatMap Operation.asked)
      ((history act s ops).flatMap createdBy)
      ((history act s ops).foldr (fun p n => addedBy p + n) 0) := by
  induction ops generalizing s with
  | nil => exact .refl s _
  | cons op rest ih =>
    rw [history_cons, stateAfter_cons, List.flatMap_cons, List.flatMap_cons, List.foldr_cons]
    exact (act_balances hs op).trans (ih (Changes.ok hs (act_changes s op)))

/-- **The statistics after any run.** They list the tables that were created, in the order of their
creation, by themselves or as initial tables, also where the making of the initial tables was cut
short. With each they give the number of rows that it answers when it is read. The sum of these is
the number of rows that were added, by single rows, by insertions and as initial rows. Nothing that
is only read, and nothing that fails, counts for a row. Only under a name that cannot be shown, which
no text is, is a table listed although creating it failed. -/
theorem statistics_balance (ops : List Operation) :
    ∃ stats, (∀ mode, ((after ops).step mode .stats).result = .ok (.stats stats)) ∧
      (stats.counts.map Prod.fst).filter (fun n => n.Showable) = created ops ∧
      ((∀ op ∈ ops, ∀ n ∈ op.asked, n.Showable) →
        stats.counts.map Prod.fst = created ops ∧ stats.totalTables = (created ops).length) ∧
      (∀ p ∈ stats.counts, ∃ rows, p.2 = rows.length ∧
        ∀ mode, ((after ops).step mode (.rows p.1)).result = .ok (.rows rows)) ∧
      stats.totalRows = stats.counts.foldr (fun p n => p.2 + n) 0 ∧
      stats.totalRows = added ops := by
  have hok : (after ops).Ok := Reachable.ok ⟨ops, rfl⟩
  obtain ⟨⟨new, hnames, hasked, hshown⟩, hrows⟩ := run_balances empty_ok ops
  have hcounts : (after ops).statistics.counts.map Prod.fst = new := by
    rw [statistics, List.map_map]
    exact hnames
  refine ⟨(after ops).statistics, fun mode => rfl, ?_, fun h => ?_, fun p hp => ?_, ?_, ?_⟩
  · rw [hcounts, hshown]
    rfl
  · have hall : new = created ops := by
      rw [created, ← hshown, eq_comm, List.filter_eq_self]
      intro n hn
      obtain ⟨op, hop, hmem⟩ := List.mem_flatMap.1 (hasked hn)
      exact decide_eq_true (h op hop n hmem)
    have hlist := hcounts.trans hall
    exact ⟨hlist, by rw [← hlist, List.length_map]; rfl⟩
  · obtain ⟨t, ht, rfl⟩ := List.mem_map.1 hp
    refine ⟨t.rows, rfl, fun mode => ?_⟩
    rw [step, rows_of_table (table_of_mem hok ht)]
    rfl
  · rw [totalRows_statistics, rowCount, statistics, List.foldr_map]
  · exact hrows.trans (Nat.zero_add _)

/-- A table that is asked for by itself comes behind the initial ones, and what is refused counts
for nothing. -/
theorem statistics_balance_sample :
    (∀ op ∈ sampleRun, ∀ n ∈ op.asked, n.Showable) ∧
      ∃ stats, ((after sampleRun).step .naive .stats).result = .ok (.stats stats) ∧
        stats.counts.map Prod.fst =
          [.text "users".toList, .text "weather_data".toList, .text "notes".toList] ∧
        stats.totalTables = 3 ∧ stats.totalRows = 6 := by
  have hshown : ∀ op ∈ sampleRun, ∀ n ∈ op.asked, n.Showable := by
    have hasked : ∀ n ∈ sampleRun.flatMap Operation.asked, n.Showable :=
      List.forall_iff_forall_mem.1 ⟨rfl, rfl, rfl, rfl, rfl⟩
    exact fun op hop n hn => hasked n (List.mem_flatMap.2 ⟨op, hop, hn⟩)
  obtain ⟨stats, hanswer, -, hnames, -, -, hrows⟩ := statistics_balance sampleRun
  obtain ⟨hlist, htotal⟩ := hnames hshown
  exact ⟨hshown, stats, hanswer _, hlist.trans rfl, htotal.trans rfl, hrows.trans rfl⟩

end Store

end Almanac
