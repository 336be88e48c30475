import Almanac.Config.Basic
import Almanac.Text.Uppercase

/-!
# Configurations from the environment

Six variables change single settings of the default configuration. A variable that is
empty counts as one that is not there.

* `ofEnvironment_nil`: **without variables the configuration is the default one.**
-/

namespace Almanac

/-- Variables and their texts. -/
abbrev Environment := List (Text × Text)

/-- The text of a variable, unless it is empty or missing. -/
def Environment.get? (env : Environment) (name : String) : Option Text :=
  match env.lookup name.toList with
  | some [] => none
  | found => found

namespace Config

/-- A text that switches something on. -/
def saysTrue (t : Text) : Bool := t.map Char.toLower = "true".toList

/-- Gives a setting a value, if there is one. -/
def setIf (c : Config) (sec : Section) (key : String) (value : Option Value) : Config :=
  match value with
  | some v => c.set sec key.toList v
  | none => c

/-- The configuration that the environment asks for. -/
def ofEnvironment (env : Environment) : Except Fault Config := do
  let c := default.setIf .storage "seed_data" ((env.get? "WCDB_SEED_DATA").map (.bool ∘ saysTrue))
  let c := c.setIf .storage "admin_username" ((env.get? "WCDB_ADMIN_USERNAME").map .text)
  let c := c.setIf .storage "admin_password" ((env.get? "WCDB_ADMIN_PASSWORD").map .text)
  let query ← checkMode .query
    (c.setIf .query "parser_mode" ((env.get? "WCDB_PARSER_MODE").map .text)).query
  let c := c.put .query query
  let c := c.setIf .logging "level" ((env.get? "WCDB_LOG_LEVEL").map (.text ∘ Text.upper))
  return c.setIf .logging "log_file" ((env.get? "WCDB_LOG_FILE").map .text)

/-- **Without variables the configuration is the default one.** -/
theorem ofEnvironment_nil : ofEnvironment [] = .ok default := rfl

end Config

end Almanac
