import Almanac.Fault.Basic

/-!
# Kinds of faults

The library's own errors form a tree of kinds. An error can be reported by kind and
arguments alone; two kinds insist on their arguments and keep them as attributes.
-/

namespace Almanac

/-- The kinds of the library's own errors. -/
inductive ErrorKind where
  | any
  | config
  | configNotFound
  | duplicateTable
  | query
  | unknownTable
  | schemaMismatch
  | malformedStatement
  | unsupportedStatement
deriving DecidableEq

/-- An error as it is reported: the message, and what it keeps of its arguments, by name. -/
structure ErrorReport where
  message : Text
  attributes : List (Text × Text)

namespace ErrorKind

/-- The kind and all that it is a special case of, from itself outward. -/
def lineage : ErrorKind → List ErrorKind
  | any => [any]
  | config => [config, any]
  | configNotFound => [configNotFound, config, any]
  | duplicateTable => [duplicateTable, any]
  | query => [query, any]
  | unknownTable => [unknownTable, query, any]
  | schemaMismatch => [schemaMismatch, query, any]
  | malformedStatement => [malformedStatement, query, any]
  | unsupportedStatement => [unsupportedStatement, query, any]

/-- Arguments as a message: one stands for itself, more are shown in parentheses. -/
def argumentsMessage : List Text → Text
  | [] => []
  | [t] => t
  | ts => '(' :: (Text.joined [',', ' '] (ts.map Text.quoted) ++ [')'])

/-- The report of an error of that kind, if the kind takes these arguments. -/
def report? (kind : ErrorKind) (arguments : List Text) : Option ErrorReport :=
  match kind, arguments with
  | unknownTable, [table] =>
    some ⟨(QueryError.unknownTable (.text table)).message, [("table".toList, table)]⟩
  | unknownTable, _ => none
  | schemaMismatch, [table, column] =>
    some ⟨(QueryError.schemaMismatch (.text table) column).message,
      [("column".toList, column), ("table".toList, table)]⟩
  | schemaMismatch, _ => none
  | _, arguments => some ⟨argumentsMessage arguments, []⟩

end ErrorKind

def QueryError.kind : QueryError → ErrorKind
  | malformed _ => .malformedStatement
  | emptyStatement | unsupported _ => .unsupportedStatement
  | unknownTable _ => .unknownTable
  | schemaMismatch _ _ => .schemaMismatch

def ConfigError.kind : ConfigError → ErrorKind
  | notFound _ => .configNotFound
  | _ => .config

/-- The kind of a fault that is the library's own. -/
def Fault.kind? : Fault → Option ErrorKind
  | query error => some error.kind
  | config error => some error.kind
  | duplicateTable _ => some .duplicateTable
  | external _ => none

end Almanac
