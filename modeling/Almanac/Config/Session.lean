import Almanac.Config.Environment
import Almanac.Config.File
import Almanac.Database

/-!
# Sessions on a configuration

A session has a current configuration and files. A configuration that was set aside
shares its sections with the one it was taken from, until something else takes their
place. What the settings of the current one share is written with them. What a step has
done stays done where only its answer cannot be shown.

* `act_of_error`: **a step that fails leaves the configurations as they are.**
-/

namespace Almanac

/-- A current configuration, where its settings stem from, the sections of the one set
aside that are not those of the current one, and the files. -/
structure Workspace where
  config : Config
  origins : Config.Origins
  parted : List (Section × Record)
  files : FileTree

/-- What can be done with configurations and files. -/
inductive ConfigStep where
  | default
  | read (data : Value)
  | environment (env : Environment)
  | write (path : Text) (content : FileContent)
  | fileText (path : Text)
  | load (path : Text)
  | save (path : Text)
  | set (sec : Section) (key : Text) (value : Value)
  | show
  | hold
  | held
  | openDatabase

/-- What such a step answers. -/
inductive ConfigAnswer where
  | config (c : Config)
  | text (t : Text)
  | rows (rs : List Record)
  | done

/-- The values that an answer shows. -/
def ConfigAnswer.shows : ConfigAnswer → List Value
  | config c => [c.toValue]
  | rows rs => rs.flatMap fun r => r.map Prod.snd
  | _ => []

namespace Workspace

/-- A new session: the default configuration and no files. -/
def initial : Workspace := ⟨.default, .none, [], .empty⟩

/-- The configuration set aside. -/
def held (w : Workspace) : Config :=
  Section.all.foldl (fun c sec => ((w.parted.lookup sec).map (c.put sec)).getD c) w.config

/-- The configuration set aside keeps its section, whatever takes the place of that of the
current one. -/
def partFrom (w : Workspace) (sec : Section) : Workspace :=
  if (w.parted.lookup sec).isSome then w
  else { w with parted := (sec, w.config.get sec) :: w.parted }

/-- Another configuration becomes the current one. -/
def replace (w : Workspace) (c : Config.Loaded) : Workspace :=
  { Section.all.foldl partFrom w with config := c.config, origins := c.origins }

/-- A setting of the current configuration is given a value. -/
def assign (w : Workspace) (sec : Section) (key : Text) (value : Value) :
    Except Fault ConfigAnswer × Workspace :=
  match w.config.assign sec key value with
  | .error f => (.error f, w)
  | .ok c =>
    let w := if key = Config.wholeName then w.partFrom sec else w
    (.ok .done, { w with config := c, origins := w.origins.erase sec key })

/-- A new configuration, if it could be made. -/
def adopt (w : Workspace) : Except Fault Config.Loaded → Except Fault ConfigAnswer × Workspace
  | .ok c => (.ok (.config c.config), w.replace c)
  | .error f => (.error f, w)

/-- A new configuration that stems from no document, if it could be made. -/
def adoptPlain (w : Workspace) (r : Except Fault Config) : Except Fault ConfigAnswer × Workspace :=
  w.adopt (r.map fun c => ⟨c, .none⟩)

/-- The files after a change, whatever came of it. -/
def refile (w : Workspace) (change : FileTree.Change) : Except Fault ConfigAnswer × Workspace :=
  (change.1.map fun _ => .done, { w with files := change.2 })

/-- The table of users of a database that is opened and then read. -/
def readUsers (c : Config) : Except Fault (List Record) :=
  let o := Database.opened c
  o.result.bind fun _ => o.state.store.rows (Config.storageSettings c.storage).usersTable

/-- What a step does, and what it has to answer. -/
def act (w : Workspace) : ConfigStep → Except Fault ConfigAnswer × Workspace
  | .default => w.adoptPlain (.ok .default)
  | .read data => w.adoptPlain (Config.ofValue data)
  | .environment env => w.adoptPlain (Config.ofEnvironment env)
  | .write path content => w.refile (w.files.write (Path.ofText path) content)
  | .fileText path => ((w.files.read (Path.ofText path)).map .text, w)
  | .load path => w.adopt (Config.loadWhole w.files path)
  | .save path => w.refile (w.config.saveWhole w.origins w.files path)
  | .set sec key value => w.assign sec key value
  | .show => (.ok (.config w.config), w)
  | .hold => (.ok .done, { w with parted := [] })
  | .held => (.ok (.config w.held), w)
  | .openDatabase => ((readUsers w.config).map .rows, w)

/-- An answer, unless a value in it cannot be shown. -/
def shown (r : Except Fault ConfigAnswer) : Except Fault ConfigAnswer :=
  r.bind fun a => Value.withShown a.shows a

/-- A step of a session. -/
def step (w : Workspace) (st : ConfigStep) : Except Fault ConfigAnswer × Workspace :=
  (shown (w.act st).1, (w.act st).2)

variable {w : Workspace} {f : Fault}

theorem adopt_of_error {r : Except Fault Config.Loaded} (h : (w.adopt r).1 = .error f) :
    (w.adopt r).2 = w := by
  cases r with
  | ok c => simp [adopt] at h
  | error g => rfl

theorem assign_of_error {sec : Section} {key : Text} {value : Value}
    (h : (w.assign sec key value).1 = .error f) : (w.assign sec key value).2 = w := by
  unfold assign at h ⊢
  cases hc : w.config.assign sec key value with
  | error g => rfl
  | ok c => simp [hc] at h

/-- **A step that fails leaves the configurations as they are.** -/
theorem act_of_error {st : ConfigStep} (h : (w.act st).1 = .error f) :
    (w.act st).2 = { w with files := (w.act st).2.files } := by
  cases st with
  | default | read | environment => rw [act, adoptPlain, adopt_of_error h]
  | load => rw [act, adopt_of_error h]
  | set => rw [act, assign_of_error h]
  | hold => simp [act] at h
  | _ => rfl

end Workspace

end Almanac
