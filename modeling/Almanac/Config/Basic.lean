import Almanac.Store.Seed
import Almanac.Statement.Basic

/-!
# Configurations

A configuration has three sections of named settings. It is made from a mapping, whose
sections are read in order and laid over the defaults.

* `readSection_defaults`: **an empty section gives the defaults.**
* `ofValue_of_not_mapping`: what is no mapping is no configuration.
-/

namespace Almanac

namespace Section

/-- All sections, in the order in which they are read. -/
def all : List Section := [storage, query, logging]

def name : Section → Text
  | storage => "storage".toList
  | query => "query".toList
  | logging => "logging".toList

/-- The section of that name. -/
def ofName? (name : Text) : Option Section := all.find? fun s => s.name = name

/-- The settings of a section that nobody changed, in their order. -/
def defaults : Section → Record
  | storage =>
    [("users_table".toList, .text "users".toList),
     ("weather_table".toList, .text "weather_data".toList),
     ("seed_data".toList, .bool true),
     ("admin_username".toList, .text "admin".toList),
     ("admin_password".toList, .text "admin123".toList)]
  | query => [("parser_mode".toList, .text Mode.naive.name)]
  | logging => [("level".toList, .text "INFO".toList), ("log_file".toList, .null)]

end Section

/-- The settings of a running program. -/
structure Config where
  storage : Record
  query : Record
  logging : Record
deriving DecidableEq

namespace Config

def modeKey : Text := "parser_mode".toList

/-- The configuration that nobody changed. -/
def default : Config := ⟨Section.storage.defaults, Section.query.defaults, Section.logging.defaults⟩

/-- The settings of a section. -/
def get (c : Config) : Section → Record
  | .storage => c.storage
  | .query => c.query
  | .logging => c.logging

/-- The configuration with other settings in a section. -/
def put (c : Config) (sec : Section) (settings : Record) : Config :=
  match sec with
  | .storage => { c with storage := settings }
  | .query => { c with query := settings }
  | .logging => { c with logging := settings }

/-- Gives one setting a value, whatever it is. -/
def set (c : Config) (sec : Section) (key : Text) (value : Value) : Config :=
  c.put sec ((c.get sec).put key value)

/-- The configuration as a mapping of mappings. -/
def toValue (c : Config) : Value :=
  .mapping (Section.all.map fun sec =>
    (.text sec.name, .mapping ((c.get sec).map fun p => (.text p.1, p.2))))

/-- A setting of a section. One that is not there is the default. -/
def setting (settings : Record) (sec : Section) (name : Text) : Value :=
  (settings.get? name).getD (sec.defaults.get name)

/-- The setting that says how filter values are read. -/
def mode (c : Config) : Value := setting c.query .query modeKey

/-- The mode that a setting stands for: only `strict` is strict. -/
def modeOf (v : Value) : Mode := if v = .text Mode.strict.name then .strict else .naive

/-- A setting that names a mode. -/
def isMode (v : Value) : Bool := v = .text Mode.naive.name || v = .text Mode.strict.name

/-- The settings that the initial tables depend on. -/
def storageSettings (settings : Record) : StorageSettings where
  usersTable := setting settings .storage "users_table".toList
  weatherTable := setting settings .storage "weather_table".toList
  seedData := setting settings .storage "seed_data".toList
  adminUsername := setting settings .storage "admin_username".toList
  adminPassword := setting settings .storage "admin_password".toList

/-- The pairs of a mapping whose keys are all text. -/
def textPairs? : List (Value × Value) → Option Record
  | [] => some []
  | (.text k, v) :: rest => (textPairs? rest).map ((k, v) :: ·)
  | _ :: _ => none

/-! ## Changing settings -/

/-- The name under which all settings of a section are one. -/
def wholeName : Text := "__dict__".toList

/-- The name of what a section is, which stays what it is. -/
def natureName : Text := "__class__".toList

/-- The name under which a section is only watched. -/
def watchName : Text := "__weakref__".toList

/-- The configuration after a setting was given a value, whatever it is, or after all the
settings of a section were replaced. -/
def assign (c : Config) (sec : Section) (key : Text) (value : Value) : Except Fault Config :=
  if key = wholeName then
    match value with
    | .mapping entries =>
      match textPairs? entries with
      | some settings => .ok (c.put sec settings)
      | none => .error (.external .wrongKind)
    | _ => .error (.external .wrongKind)
  else if key = natureName then .error (.external .wrongKind)
  else if key = watchName then .error (.external .noSuchPart)
  else .ok (c.set sec key value)

/-! ## Reading -/

/-- The name that a section has for itself, so that no setting can have it. -/
def ownName : Text := "self".toList

/-- Lays given settings over the defaults of a section. -/
def overlay (sec : Section) (given : Record) : Except Fault Record :=
  match given.names.find? fun n => !sec.defaults.names.contains n with
  | some name =>
    .error (.config (if name = ownName then .reservedSetting sec name else .unknownSetting sec name))
  | none => .ok (sec.defaults.putAll given)

/-- The query section must name a mode. -/
def checkMode (sec : Section) (settings : Record) : Except Fault Record :=
  if sec = .query ∧ ¬ isMode (settings.get modeKey) then
    .error (Fault.raised (.config (.unknownMode (settings.get modeKey))))
  else .ok settings

/-- Reads a section. -/
def readSection (sec : Section) (given : Value) : Except Fault Record :=
  match given with
  | .mapping entries =>
    match textPairs? entries with
    | none => .error (.config (.namelessSetting sec))
    | some pairs => do
      let settings ← overlay sec pairs
      checkMode sec settings
  | other => .error (.config (.notMapping sec other))

/-- The settings of initial tables, given by name; a name that is not among them is no
argument at all. -/
def storageSettingsOf (given : Record) : Except Fault StorageSettings :=
  match overlay .storage given with
  | .ok settings => .ok (storageSettings settings)
  | .error _ => .error (.external .wrongArguments)

/-- The value under a text key of a mapping. -/
def member? (entries : List (Value × Value)) (name : Text) : Option Value :=
  (entries.find? fun e => e.1.key? = some (.text name)).map (·.2)

/-- Makes a configuration from a mapping. What is no section is passed over. -/
def ofValue : Value → Except Fault Config
  | .mapping entries => do
    let given := fun (sec : Section) => (member? entries sec.name).getD (.mapping [])
    let storage ← readSection .storage (given .storage)
    let query ← readSection .query (given .query)
    let logging ← readSection .logging (given .logging)
    return ⟨storage, query, logging⟩
  | _ => .error (.external .wrongShape)

/-- **An empty section gives the defaults.** -/
theorem readSection_defaults (sec : Section) :
    readSection sec (.mapping []) = .ok sec.defaults := by
  cases sec <;> rfl

/-- What is no mapping is no configuration. -/
theorem ofValue_of_not_mapping {v : Value} (h : ∀ entries, v ≠ .mapping entries) :
    ofValue v = .error (.external .wrongShape) := by
  cases v <;> first | rfl | exact absurd rfl (h _)

end Config

end Almanac
