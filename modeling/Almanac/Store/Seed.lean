import Almanac.Store.Basic
import Almanac.Outcome

/-!
# The initial tables

A new store gets a table of users with the administrator in it, and a table of weather
readings that may be seeded. What was done before an operation fails stays done: so a table
stays that was created under a name that the log cannot show.

* `create_of_createLogged_ok`: **a table is there and logged if creating it succeeds.**
* `createLogged_of_error`: what is not created leaves the store as it was.
-/

namespace Almanac

/-- The settings that the initial tables depend on. -/
structure StorageSettings where
  usersTable : Value
  weatherTable : Value
  seedData : Value
  adminUsername : Value
  adminPassword : Value
deriving DecidableEq

def usersColumns : List Text := ["username".toList, "password".toList]

def weatherColumns : List Text :=
  ["city".toList, "temperature".toList, "conditions".toList, "humidity".toList,
   "wind_speed".toList, "date_recorded".toList]

/-- A weather reading as a row. -/
def reading (city : String) (temperature : Int) (conditions : String) (humidity windSpeed : Int)
    (date : String) : Record :=
  weatherColumns.zip
    [.text city.toList, .int temperature, .text conditions.toList, .int humidity, .int windSpeed,
     .text date.toList]

/-- The readings that a new store is seeded with. -/
def seedReadings : List Record :=
  [reading "London" 18 "Cloudy" 72 14 "2023-01-01T12:00:00Z",
   reading "Paris" 21 "Sunny" 58 9 "2023-01-01T12:00:00Z",
   reading "New York" 15 "Rainy" 81 22 "2023-01-02T12:00:00Z"]

namespace Store

/-- Creates a table and then logs it, or that its name was taken. -/
def createLogged (s : Store) (name : Value) (columns : List Text) : Outcome Store Table :=
  match s.create name columns with
  | .ok (t, s') => (Outcome.note (.tableCreated name t.columns) s').andThen fun _ s => ⟨.ok t, s, []⟩
  | .error (.duplicateTable taken) =>
    (Outcome.note (.tableRefused taken) s).andThen fun _ s => ⟨.error (.duplicateTable taken), s, []⟩
  | .error f => ⟨.error f, s, []⟩

/-- Adds rows one after another. -/
def appendAll (name : Value) : List Record → Store → Outcome Store Unit
  | [], s => ⟨.ok (), s, []⟩
  | values :: rest, s =>
    (Outcome.silent s (s.append name values)).andThen fun _ s => appendAll name rest s

/-- The administrator as a row of the table of users. -/
def adminRow (settings : StorageSettings) : Record :=
  usersColumns.zip [settings.adminUsername, settings.adminPassword]

/-- Creates the initial tables and fills them. -/
def initialise (settings : StorageSettings) (s : Store) : Outcome Store Unit :=
  (Outcome.note (.seeding settings.adminUsername) s).andThen fun _ s =>
  (s.createLogged settings.usersTable usersColumns).andThen fun _ s =>
  (s.createLogged settings.weatherTable weatherColumns).andThen fun _ s =>
  (appendAll settings.usersTable [adminRow settings] s).andThen fun _ s =>
  (appendAll settings.weatherTable
    (if settings.seedData.isTrue then seedReadings else []) s).andThen fun _ s =>
  Outcome.note .seeded s

variable {s s' : Store} {name : Value} {columns : List Text} {t : Table} {f : Fault}
  {k : ExternalFault}

/-- A table that is created under a name that can be shown is logged. -/
theorem createLogged_of_ok (h : s.create name columns = .ok (t, s')) (hname : name.Showable) :
    s.createLogged name columns = ⟨.ok t, s', [.tableCreated name t.columns]⟩ := by
  have hlog : Outcome.note (.tableCreated name t.columns) s' =
      ⟨.ok (), s', [.tableCreated name t.columns]⟩ :=
    Outcome.note_of_showable rfl hname s'
  simp only [createLogged, h, hlog, Outcome.andThen, List.append_nil]

/-- Under another name it is there, and it is the log that fails. -/
theorem createLogged_of_unshowable (h : s.create name columns = .ok (t, s'))
    (hname : name.unshowable? = some k) :
    s.createLogged name columns = ⟨.error (.external k), s', []⟩ := by
  have hlog : Outcome.note (.tableCreated name t.columns) s' = ⟨.error (.external k), s', []⟩ :=
    Outcome.note_of_unshowable rfl hname s'
  simp only [createLogged, h, hlog, Outcome.andThen]

theorem create_eq_error (h : s.create name columns = .error f) :
    f = .external .unusableName ∨ f = .duplicateTable name := by
  rcases bind_eq_error_iff.1 h with hkey | ⟨key, -, h⟩
  · unfold keyOf at hkey
    split at hkey <;> cases hkey
    exact .inl rfl
  · split at h <;> cases h
    exact .inr rfl

/-- What is not created leaves the store as it was, and is not logged as created. The fault is the
one that it was refused with, if its name can be shown. -/
theorem createLogged_of_error (h : s.create name columns = .error f) :
    ∃ g events, s.createLogged name columns = ⟨.error g, s, events⟩ ∧
      (∀ n cs, .tableCreated n cs ∉ events) ∧ (name.Showable → g = f) := by
  rcases create_eq_error h with rfl | rfl
  · exact ⟨_, [], by rw [createLogged, h], by simp, fun _ => rfl⟩
  · -- that the name is taken is logged, and the log fails first if it cannot show the name
    cases hname : name.unshowable? with
    | none =>
      have hlog : Outcome.note (.tableRefused name) s = ⟨.ok (), s, [.tableRefused name]⟩ :=
        Outcome.note_of_showable rfl hname s
      refine ⟨_, [.tableRefused name], ?_, by simp, fun _ => rfl⟩
      simp only [createLogged, h, hlog, Outcome.andThen, List.append_nil]
    | some k =>
      have hlog : Outcome.note (.tableRefused name) s = ⟨.error (.external k), s, []⟩ :=
        Outcome.note_of_unshowable rfl hname s
      refine ⟨.external k, [], by simp only [createLogged, h, hlog, Outcome.andThen], by simp, ?_⟩
      intro hshowable
      rw [Value.Showable, hname] at hshowable
      cases hshowable

/-- **A table is there and logged if creating it succeeds**, and its name can be shown then. -/
theorem create_of_createLogged_ok (h : (s.createLogged name columns).result = .ok t) :
    s.create name columns = .ok (t, (s.createLogged name columns).state) ∧ name.Showable := by
  cases hcreate : s.create name columns with
  | error f =>
    obtain ⟨g, events, hlogged, -⟩ := createLogged_of_error hcreate
    rw [hlogged] at h
    cases h
  | ok p =>
    obtain ⟨u, s'⟩ := p
    cases hname : name.unshowable? with
    | some k => rw [createLogged_of_unshowable hcreate hname] at h; cases h
    | none =>
      rw [createLogged_of_ok hcreate hname] at h ⊢
      cases h
      exact ⟨rfl, hname⟩

/-- If creating a table fails, the store is as it was, or the table is there and its name cannot be
shown. -/
theorem state_of_createLogged_error (h : (s.createLogged name columns).result = .error f) :
    (s.createLogged name columns).state = s ∨
      (∃ t, s.create name columns = .ok (t, (s.createLogged name columns).state)) ∧
        ¬ name.Showable := by
  cases hcreate : s.create name columns with
  | error g =>
    obtain ⟨g, events, hlogged, -⟩ := createLogged_of_error hcreate
    exact .inl (by rw [hlogged])
  | ok p =>
    obtain ⟨u, s'⟩ := p
    cases hname : name.unshowable? with
    | none => rw [createLogged_of_ok hcreate hname] at h; cases h
    | some k =>
      rw [createLogged_of_unshowable hcreate hname]
      exact .inr ⟨⟨u, rfl⟩, Value.not_showable_iff.2 ⟨k, hname⟩⟩

end Store

end Almanac
