import Almanac.Proofs.Effects

/-!
# Stores only grow

A store's history is never rewritten. Tables stand in the order of their creation and rows in
the order of insertion, so an earlier moment is a beginning of every later one, and so is what
was answered then.

* `Store.Precedes`: the later store begins as the earlier one.
* `Store.precedes_of_changes`: **whatever is done to a store, it precedes what it becomes.**
* `Store.Precedes.execute_select`: what is asked of both is answered by the later one with
  more rows at most, behind the earlier ones.
* `Store.append_only`: **the two said of any run of operations.**
-/

namespace Almanac

open Statement

/-! ## Asking for rows -/

section

variable {rows rows' : List Record}

theorem passing_mono (filter : Option Filter) (h : rows <+: rows') :
    passing filter rows <+: passing filter rows' := h.filter _

theorem selectFields_mono (fields : List Text) (h : rows <+: rows') :
    selectFields fields rows <+: selectFields fields rows' := by
  unfold selectFields
  split
  · exact h
  · exact h.map _

end

namespace Store

/-- **The later store begins as the earlier one**: its first tables are the same, each with the
rows that it had and perhaps more. New tables stand behind them. -/
def Precedes (s s' : Store) : Prop := ∃ kept, kept <+: s'.tables ∧ s.Keeps ⟨kept⟩

variable {s s' s'' : Store} {t : Table} {key : Value.Key} {name : Value} {rows : List Record}

/-! ## Any run -/

theorem Precedes.refl (s : Store) : s.Precedes s := ⟨s.tables, List.prefix_rfl, .refl s⟩

theorem Precedes.change (h : s.Precedes s') (hchange : Change s' s'') : s.Precedes s'' := by
  obtain ⟨kept, hkept, hkeeps⟩ := h
  cases hchange with
  | @create name key columns hkey hfree =>
    exact ⟨kept, hkept.trans (List.prefix_append _ _), hkeeps⟩
  | @push key t values ht hvalues =>
    -- the row goes to a table that was kept, or to one behind those
    refine ⟨(modify ⟨kept⟩ key (·.push values)).tables, hkept.map _, ?_⟩
    exact hkeeps.trans (modify_push_keeps ⟨kept⟩ key values)

/-- **Whatever is done to a store, it precedes what it becomes.** -/
theorem precedes_of_changes (h : Changes s s') : s.Precedes s' := by
  induction h with
  | refl => exact .refl s
  | tail _ hchange ih => exact ih.change hchange

/-! ## What a later store holds -/

/-- The names of the tables, in the order of creation, only grow at the end. -/
theorem Precedes.names (h : s.Precedes s') : s.names <+: s'.names := by
  obtain ⟨kept, hkept, hkeeps⟩ := h
  have hnames : kept.map (·.name) = s.names := hkeeps.names
  rw [← hnames]
  exact hkept.map _

theorem Keeps.find? (h : s.Keeps s') (hf : s.find? key = some t) :
    ∃ t', s'.find? key = some t' ∧ t.Extends t' := by
  obtain ⟨ts⟩ := s
  obtain ⟨ts'⟩ := s'
  unfold Keeps at h
  unfold Store.find? at hf ⊢
  dsimp only at h hf ⊢
  induction h with
  | nil => cases hf
  | @cons u u' us us' hext _ ih =>
    by_cases hkey : u.name.key? = some key
    · have hkey' : u'.name.key? = some key := by rw [hext.name]; exact hkey
      rw [List.find?_cons_of_pos (by simpa using hkey)] at hf
      cases hf
      exact ⟨u', List.find?_cons_of_pos (by simpa using hkey'), hext⟩
    · have hkey' : u'.name.key? ≠ some key := by rw [hext.name]; exact hkey
      rw [List.find?_cons_of_neg (by simpa using hkey)] at hf
      rw [List.find?_cons_of_neg (by simpa using hkey')]
      exact ih hf

/-- A table that is there stays, with its columns, and with its rows in front. -/
theorem Precedes.table (h : s.Precedes s') (ht : s.table name = .ok t) :
    ∃ t', s'.table name = .ok t' ∧ t.Extends t' := by
  obtain ⟨kept, hkept, hkeeps⟩ := h
  obtain ⟨key, hkey, hfind⟩ := table_eq_ok_iff.1 ht
  obtain ⟨t', hfind', hext⟩ := hkeeps.find? hfind
  have hlater : s'.find? key = some t' := hkept.find?_eq_some hfind'
  exact ⟨t', table_eq_ok_iff.2 ⟨key, hkey, hlater⟩, hext⟩

/-- **What was answered is the beginning of what is answered later.** -/
theorem Precedes.execute_select {table : Text} {fields : List Text} {filter : Option Filter}
    (h : s.Precedes s') (hrows : s.execute (.select table fields filter) = .ok (rows, s'')) :
    ∃ t', s'.table (.text table) = .ok t' ∧
      (unfilterable? filter t'.rows = none → ∃ rows',
        s'.execute (.select table fields filter) = .ok (rows', s') ∧ rows <+: rows') ∧
      ∀ k, unfilterable? filter t'.rows = some k →
        s'.execute (.select table fields filter) = .error (.external k) := by
  obtain ⟨-, all, hall, -, rfl⟩ := Store.execute_select hrows
  obtain ⟨t, ht, rfl⟩ := map_eq_ok_iff.1 hall
  obtain ⟨t', ht', hext⟩ := h.table ht
  refine ⟨t', ht', fun hnone => ?_, fun k hk => execute_select_of_unfilterable ht' hk fields⟩
  exact ⟨_, execute_select_of_filterable ht' hnone fields,
    selectFields_mono fields (passing_mono filter hext.rows)⟩

/-- **Stores are append-only.** Take any store, and any run of operations from there: tables
are created, rows added, statements carried out in either mode, initial tables made, and some
of this fails. Every table that was there is there under its name, with the same columns, and
with the same rows in front of those that it gained; and the names that there were are the
first ones. So a text that asks for rows is answered later with the rows that it was answered
before, in front of those that came to pass its filter, as long as what it compares can be shown.
If a value has come into the filter's column that cannot be, it fails. -/
theorem append_only (s : Store) (ops : List Operation) :
    s.names <+: (Outcome.stateAfter act s ops).names ∧
      (∀ name t, s.table name = .ok t →
        ∃ t', (Outcome.stateAfter act s ops).table name = .ok t' ∧ t.Extends t') ∧
      ∀ mode text table fields filter rows,
        read mode text = .ok (.select table fields filter) →
        (s.step mode (.execute (.text text))).result = .ok (.rows rows) →
        ∃ t', (Outcome.stateAfter act s ops).table (.text table) = .ok t' ∧
          (unfilterable? filter t'.rows = none →
            ∃ rows', ((Outcome.stateAfter act s ops).step mode (.execute (.text text))).result =
              .ok (.rows rows') ∧ rows <+: rows') ∧
          ∀ k, unfilterable? filter t'.rows = some k →
            ((Outcome.stateAfter act s ops).step mode (.execute (.text text))).result =
              .error (.external k) := by
  have hprecedes : s.Precedes (Outcome.stateAfter act s ops) :=
    precedes_of_changes (run_changes s ops)
  refine ⟨hprecedes.names, fun name t ht => hprecedes.table ht, ?_⟩
  intro mode text table fields filter rows hread hresult
  -- the text is read alike at both moments
  have hquery : ∀ u : Store, u.query mode (.text text) = u.execute (.select table fields filter) :=
    fun _ => query_text hread
  cases hbefore : s.query mode (.text text) with
  | error f => rw [step_execute_error hbefore] at hresult; cases hresult
  | ok p =>
    obtain ⟨answered, u⟩ := p
    rw [step_execute_ok hbefore] at hresult
    cases hresult
    rw [hquery] at hbefore
    obtain ⟨t', ht', hanswered, hfails⟩ := hprecedes.execute_select hbefore
    refine ⟨t', ht', fun hnone => ?_, fun k hk => ?_⟩
    · obtain ⟨rows', hlater, hprefix⟩ := hanswered hnone
      rw [← hquery] at hlater
      exact ⟨rows', by rw [step_execute_ok hlater], hprefix⟩
    · have hlater := hfails k hk
      rw [← hquery] at hlater
      rw [step_execute_error hlater]

/-- What may come after the sample run: two rows, and in between what fails. -/
def sampleSequel : List Operation :=
  [.step .naive (.execute (.text "INSERT INTO notes (mark) VALUES (TRUE)".toList)),
   .initialise (Config.storageSettings Config.default.storage),
   .step .strict (.append (.text "notes".toList) [("mark".toList, .int 4), (idColumn, .int 9)]),
   .step .naive (.create (.text "more".toList) []),
   .step .strict (.executeParsed (.insert "notes".toList ["mark".toList] [.bool true]))]

/-- What asks for the marked notes. -/
def markedNotes : Text := "select id from notes where mark = 'true'".toList

theorem read_markedNotes : read .naive markedNotes =
    .ok (.select "notes".toList [idColumn] (some ⟨"mark".toList, some "true".toList⟩)) := rfl

theorem step_markedNotes : ((after sampleRun).step .naive (.execute (.text markedNotes))).result =
    .ok (.rows [[(idColumn, .int 2)]]) := rfl

theorem unfilterable?_markedNotes :
    unfilterable? (some ⟨"mark".toList, some "true".toList⟩) overlongTable.rows =
      some .unshowable := by
  rw [unfilterable?_some, incomparable?_overlongTable]

/-- The marked notes are answered with the new ones behind the old one. -/
theorem append_only_sample :
    (after sampleRun).table (.text "notes".toList) = .ok sampleTable ∧
      (∃ t', (Outcome.stateAfter act (after sampleRun) sampleSequel).table (.text "notes".toList) =
        .ok t' ∧ sampleTable.Extends t') ∧
      read .naive markedNotes =
        .ok (.select "notes".toList [idColumn] (some ⟨"mark".toList, some "true".toList⟩)) ∧
      ((after sampleRun).step .naive (.execute (.text markedNotes))).result =
        .ok (.rows [[(idColumn, .int 2)]]) ∧
      ∃ rows', ((Outcome.stateAfter act (after sampleRun) sampleSequel).step .naive
          (.execute (.text markedNotes))).result = .ok (.rows rows') ∧
        [[(idColumn, .int 2)]] <+: rows' := by
  obtain ⟨-, htable, hanswer⟩ := append_only (after sampleRun) sampleSequel
  obtain ⟨t', ht', hanswered, -⟩ := hanswer _ _ _ _ _ _ read_markedNotes step_markedNotes
  refine ⟨table_sampleRun, htable _ _ table_sampleRun, read_markedNotes, step_markedNotes, ?_⟩
  refine hanswered ?_
  obtain rfl := Except.ok.inj (ht'.symm.trans rfl)
  rfl

/-- **What was answered once is not always answered**: a number that has one digit too many to be
shown is added to the notes, and the marked ones can no longer be told from the others. -/
theorem answer_lost :
    ¬ ∀ (s : Store) (ops : List Operation) (mode : Mode) (text : Text) (rows : List Record),
      s.Reachable → (∃ table fields filter, read mode text = .ok (.select table fields filter)) →
      (s.step mode (.execute (.text text))).result = .ok (.rows rows) →
      ∃ rows', ((Outcome.stateAfter act s ops).step mode (.execute (.text text))).result =
        .ok (.rows rows') ∧ rows <+: rows' := by
  intro h
  obtain ⟨rows', hlater, -⟩ := h (after sampleRun) [overlongNote] .naive markedNotes _ ⟨sampleRun, rfl⟩
    ⟨_, _, _, read_markedNotes⟩ step_markedNotes
  have hafter : Outcome.stateAfter act (after sampleRun) [overlongNote] =
      after (sampleRun ++ [overlongNote]) := List.foldl_append.symm
  have hselect :=
    execute_select_of_unfilterable table_overlongNote unfilterable?_markedNotes [idColumn]
  have hquery : (Outcome.stateAfter act (after sampleRun) [overlongNote]).query .naive
      (.text markedNotes) = .error (.external .unshowable) := by
    rw [hafter, query_text read_markedNotes, hselect]
  rw [step_execute_error hquery] at hlater
  cases hlater

end Store

end Almanac
