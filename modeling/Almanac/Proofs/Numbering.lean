import Almanac.Proofs.Initial

/-!
# The numbers of rows

* `ids_eq`: the numbers of a well-formed table's rows are 1, 2, 3 and so on.
* `numbered_of_run`: **so they are in every table after any run of operations**, in either
  mode, whatever failed on the way; and what fails takes no number.
-/

namespace Almanac

/-- **The numbers of the rows, in order, are 1, 2, 3 and so on.** -/
theorem Table.Ok.ids_eq {t : Table} (h : t.Ok) :
    t.rows.map (Record.get · idColumn) =
      (List.range t.rows.length).map fun i => Value.int (i + 1 : Nat) := by
  apply List.ext_getElem (by simp)
  intro i h₁ h₂
  have hi : i < t.rows.length := by simpa using h₁
  have hid := h.ids i hi
  simp only [List.get_eq_getElem] at hid
  simp [Record.get, hid]

namespace Store

/-- **The representation of a store, after any run.** Each table has `id` as its first
column and no other, its next number is one more than the number of its rows, its `k`-th
row has the number `k`, and each row has the table's columns in order, repetitions left
out. So numbers are given once each, in the order of insertion and without gaps. An
operation that fails takes none: every table stays as it was, with its rows and its next
number, and at most a table without rows is new. -/
theorem numbered_of_run (ops : List Operation) :
    (∀ t ∈ (after ops).tables, t.Ok ∧ t.rows.map (Record.get · idColumn) =
        (List.range t.rows.length).map fun i => Value.int (i + 1 : Nat)) ∧
      ∀ op f, ((after ops).act op).result = .error f →
        (after ops).tables <+: ((after ops).act op).state.tables ∧
          ∀ t ∈ ((after ops).act op).state.tables, t ∈ (after ops).tables ∨ t.rows = [] := by
  have hok : (after ops).Ok := Reachable.ok ⟨ops, rfl⟩
  refine ⟨fun t ht => ⟨hok.tables t ht, (hok.tables t ht).ids_eq⟩, ?_⟩
  intro op f hf
  exact act_of_error hf

/-- A run with a table whose columns were given with repetitions and with `id` among them. -/
def sampleRun : List Operation :=
  [.initialise (Config.storageSettings Config.default.storage),
   .step .naive (.create (.text "notes".toList) ["text".toList, idColumn, "mark".toList, "text".toList]),
   .step .strict (.append (.text "notes".toList) [("text".toList, .text "a'; DROP".toList)]),
   .step .naive (.append (.text "notes".toList) [("mark".toList, .int 4), (idColumn, .int 9)]),
   .initialise (Config.storageSettings Config.default.storage),
   .step .naive (.executeParsed (.insert "notes".toList ["mark".toList] [.bool true, .null]))]

/-- The table of notes after that run: two of its operations failed. -/
def sampleTable : Table :=
  ⟨.text "notes".toList, [idColumn, "text".toList, "mark".toList, "text".toList],
    [[(idColumn, .int 1), ("text".toList, .text "a'; DROP".toList), ("mark".toList, .null)],
     [(idColumn, .int 2), ("text".toList, .null), ("mark".toList, .bool true)]], 3⟩

/-- Making the initial tables once more fails, and the notes keep their rows and numbers. -/
theorem numbered_of_run_sample :
    sampleTable ∈ (after sampleRun).tables ∧
      ((after sampleRun).act (.initialise (Config.storageSettings Config.default.storage))).result =
        .error (.duplicateTable (.text "users".toList)) ∧
      sampleTable.Ok ∧ sampleTable.rows.map (Record.get · idColumn) = [.int 1, .int 2] ∧
      (after sampleRun).tables <+: ((after sampleRun).act
        (.initialise (Config.storageSettings Config.default.storage))).state.tables := by
  have hmem : sampleTable ∈ (after sampleRun).tables := List.mem_of_getElem? (i := 2) rfl
  have hfail : ((after sampleRun).act
      (.initialise (Config.storageSettings Config.default.storage))).result =
        .error (.duplicateTable (.text "users".toList)) := rfl
  obtain ⟨hok, hids⟩ := (numbered_of_run sampleRun).1 sampleTable hmem
  exact ⟨hmem, hfail, hok, hids, ((numbered_of_run sampleRun).2 _ _ hfail).1⟩

theorem table_sampleRun : (after sampleRun).table (.text "notes".toList) = .ok sampleTable := rfl

/-- What adds a note whose mark cannot be shown. -/
def overlongNote : Operation :=
  .step .naive (.append (.text "notes".toList) [("mark".toList, .overlong)])

/-- The notes with that one behind those of the sample run. -/
def overlongTable : Table :=
  { sampleTable with
    rows := sampleTable.rows ++
      [[(idColumn, .int 3), ("text".toList, .null), ("mark".toList, .overlong)]]
    nextId := 4 }

theorem table_overlongNote :
    (after (sampleRun ++ [overlongNote])).table (.text "notes".toList) = .ok overlongTable := rfl

/-- The marks of the other notes can be shown. -/
theorem incomparable?_overlongTable :
    incomparable? "mark".toList overlongTable.rows = some .unshowable := by
  have hmark : Record.get [(idColumn, .int 3), ("text".toList, .null), ("mark".toList, .overlong)]
      "mark".toList = .overlong := rfl
  have hothers : incomparable? "mark".toList sampleTable.rows = none := rfl
  rw [overlongTable, incomparable?_concat, hothers, hmark, Value.unshowable?_overlong]
  rfl

end Store

end Almanac
