import Almanac.Fault.Shown
import Almanac.Path
import Almanac.Text.Order

/-!
# The log

What happens is logged as events, each with its level and its message. Sinks take the
messages from their own level upward.
-/

namespace Almanac

/-- How grave a message is, from the least grave upward. -/
inductive Level where
  | trace
  | debug
  | info
  | success
  | warning
  | error
  | critical
deriving DecidableEq

namespace Level

/-- The place of a level among all numbers. -/
def number : Level → Nat
  | trace => 5
  | debug => 10
  | info => 20
  | success => 25
  | warning => 30
  | error => 40
  | critical => 50

def name : Level → Text
  | trace => "TRACE".toList
  | debug => "DEBUG".toList
  | info => "INFO".toList
  | success => "SUCCESS".toList
  | warning => "WARNING".toList
  | error => "ERROR".toList
  | critical => "CRITICAL".toList

/-- All levels, in order. -/
def all : List Level := [trace, debug, info, success, warning, error, critical]

/-- The level of that name; letters count as they are. -/
def ofName? (name : Text) : Option Level := all.find? fun l => l.name = name

end Level

/-- What is logged. -/
inductive Event where
  | storeReady
  | readerReady (mode : Value)
  | executorReady
  | componentsReady
  | databaseReady
  | tableCreated (name : Value) (columns : List Text)
  | tableRefused (name : Value)
  | seeding (admin : Value)
  | seeded
  | statementDone (rows : Nat)
  | statementFailed (error : QueryError)
  | closed
  | levelSet (level : Value)
deriving DecidableEq

namespace Event

def level : Event → Level
  | tableRefused _ => .critical
  | statementFailed _ => .error
  | levelSet _ => .debug
  | _ => .info

/-- The text of an event. A database's identity is shown by a placeholder. -/
def message : Event → Text
  | storeReady => "表存储初始化完成".toList
  | readerReady mode => "查询解析器初始化完成，模式: ".toList ++ mode.display
  | executorReady => "查询执行器初始化完成".toList
  | componentsReady => "核心组件初始化完成".toList
  | databaseReady => "WeatherCoreDB 初始化完成，数据库 ID: <db_id>".toList
  | tableCreated name columns =>
    "创建表 ".toList ++ name.display ++ "，列: ".toList ++
      (Value.list (columns.map .text)).display
  | tableRefused name => "重复创建表: ".toList ++ name.display
  | seeding admin => "使用管理员用户 ".toList ++ admin.display ++ " 初始化数据库".toList
  | seeded => "数据库默认数据初始化完成".toList
  | statementDone rows => "语句执行完成，返回 ".toList ++ Text.ofNat rows ++ " 条结果".toList
  | statementFailed error => "语句执行失败: ".toList ++ error.message
  | closed => "数据库已关闭".toList
  | levelSet level => "日志级别: ".toList ++ level.display

/-- The values that an event's text shows. -/
def shows : Event → List Value
  | readerReady mode => [mode]
  | tableCreated name _ | tableRefused name => [name]
  | seeding admin => [admin]
  | levelSet level => [level]
  | _ => []

end Event

/-- A line that a sink holds. -/
abbrev Line := Level × Text

/-- Where messages go. -/
inductive Target where
  | console
  | file (path : Path)
deriving DecidableEq

/-- A target, and the number from which upward it takes messages. -/
structure Sink where
  target : Target
  threshold : Nat
deriving DecidableEq

/-- Whether a sink takes messages of a level. -/
def Sink.takes (s : Sink) (l : Level) : Bool := s.threshold ≤ l.number

/-- The sinks in use, the lines that the console and the files hold, and the directories
that were made for them. -/
structure Log where
  sinks : List Sink
  console : List Line
  files : List (Path × List Line)
  directories : List Path

namespace Log

/-- A log with nothing in it and no sinks. -/
def empty : Log := ⟨[], [], [], []⟩

/-- Adds lines at the end of a file, which comes into being if it is not there. -/
def appendTo (path : Path) (lines : List Line) : List (Path × List Line) → List (Path × List Line)
  | [] => [(path, lines)]
  | (p, ls) :: rest =>
    if p = path then (p, ls ++ lines) :: rest else (p, ls) :: appendTo path lines rest

/-- A sink writes a line. -/
def write (log : Log) (line : Line) (sink : Sink) : Log :=
  match sink.target with
  | .console => { log with console := log.console ++ [line] }
  | .file path => { log with files := appendTo path [line] log.files }

/-- A message goes to every sink that takes its level. -/
def emit (log : Log) (line : Line) : Log :=
  (log.sinks.filter (·.takes line.1)).foldl (fun log sink => log.write line sink) log

/-- The files below the working directory, in the order of their paths. -/
def sortedFiles (log : Log) : List (Text × List Line) :=
  Text.sortBy (·.1)
    ((log.files.filter fun f => !f.1.isOutside).map fun f => (f.1.display, f.2))

end Log

end Almanac
