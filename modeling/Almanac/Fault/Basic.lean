import Almanac.Value

/-!
# Faults

Everything that can go wrong, as causes. The library's own errors carry a message;
a failure of the surroundings (the numeral limit, the file system, the document
format) has a kind only.

* `Fault.message?_isSome_iff`: **a fault has a message exactly when it is the
  library's own.**
* `Malformed.message_injective`: **different causes have different messages.**
* `bind_eq_ok_iff`, `bind_eq_error_iff`: what two steps one after another come to.
-/

namespace Almanac

/-- What is wrong with a statement's text. -/
inductive Malformed where
  | noSource
  | noSourceTable
  | blankField
  | noEquals
  | noFilterColumn
  | illegalFilterValue
  | noTarget
  | noValues
  | noColumnList
  | noValueList
  | blankColumn
  | repeatedColumn
  | countMismatch (columns values : Nat)
deriving DecidableEq

/-- Why a statement cannot be carried out. -/
inductive QueryError where
  | malformed (cause : Malformed)
  | emptyStatement
  | unsupported (kind : Text)
  | unknownTable (table : Value)
  | schemaMismatch (table : Value) (column : Text)
deriving DecidableEq

/-- The sections of a configuration, in the order in which they are read. -/
inductive Section where
  | storage
  | query
  | logging
deriving DecidableEq

/-- Why a configuration is refused. -/
inductive ConfigError where
  | notMapping (sec : Section) (found : Value)
  | namelessSetting (sec : Section)
  | unknownSetting (sec : Section) (name : Text)
  | reservedSetting (sec : Section) (name : Text)
  | unknownMode (mode : Value)
  | notFound (path : Text)
deriving DecidableEq

/-- A failure of the surroundings. -/
inductive ExternalFault where
  /-- A numeral that cannot be read, such as an integer with too many digits. -/
  | unreadableNumeral
  /-- A numeral without characters. -/
  | emptyNumeral
  /-- An integer with too many digits to be shown. -/
  | unshowable
  /-- A code beyond the last character. -/
  | noSuchCharacter
  /-- A code beyond every machine word. -/
  | codeTooGreat
  /-- A whole number beyond every double. -/
  | wholeTooGreat
  /-- A day or a time of day that there is not. -/
  | noSuchMoment
  /-- A level that no sink knows. -/
  | unknownLevel
  /-- A pattern for a file's name that is not well formed. -/
  | badPattern
  /-- A part that a thing does not have. -/
  | noSuchPart
  /-- A word that stands for nothing known. -/
  | unknownWord
  /-- A statement that is no text, or a configuration that is no mapping. -/
  | wrongShape
  /-- A setting that cannot serve as what it is for. -/
  | wrongKind
  /-- A name that cannot serve as a key. -/
  | unusableName
  /-- The wrong arguments to a constructor. -/
  | wrongArguments
  /-- A path with a part that can be no name. -/
  | unusablePath
  /-- A path or a part of one that is too long. -/
  | pathTooLong
  /-- A file that is not UTF-8. -/
  | badEncoding
  /-- A directory where a file is wanted. -/
  | isDirectory
  /-- A file where a directory is to be made. -/
  | isFile
  /-- A file on the way to another. -/
  | notDirectory
  /-- No file where one is to be read. -/
  | missingFile
  /-- A document that is not well formed. -/
  | badDocument
  /-- A document that ends where it must not. -/
  | unfinishedDocument
  /-- Collections inside each other beyond all bounds. -/
  | tooDeep
deriving DecidableEq

/-- Everything that can go wrong. -/
inductive Fault where
  | query (error : QueryError)
  | config (error : ConfigError)
  | duplicateTable (name : Value)
  | external (kind : ExternalFault)
deriving DecidableEq

/-- A malformed statement as a fault. -/
abbrev Fault.malformed (cause : Malformed) : Fault := .query (.malformed cause)

def Malformed.message : Malformed → Text
  | noSource => "SELECT 语句缺少 FROM".toList
  | noSourceTable => "FROM 之后缺少表名".toList
  | blankField => "SELECT 字段列表为空或不完整".toList
  | noEquals => "WHERE 条件缺少 '='".toList
  | noFilterColumn => "WHERE 条件缺少列名".toList
  | illegalFilterValue => "WHERE 过滤值包含非法字符".toList
  | noTarget => "INSERT 语句缺少 INTO 表名".toList
  | noValues => "INSERT 语句缺少 VALUES".toList
  | noColumnList => "INSERT 语句缺少列列表".toList
  | noValueList => "INSERT 语句缺少值列表".toList
  | blankColumn => "INSERT 列列表为空或不完整".toList
  | repeatedColumn => "INSERT 列列表包含重复列".toList
  | countMismatch columns values =>
    "INSERT 列数 (".toList ++ Text.ofNat columns ++ ") 与值数 (".toList ++ Text.ofNat values ++
      ") 不一致".toList

def QueryError.message : QueryError → Text
  | malformed cause => cause.message
  | emptyStatement => "语句为空".toList
  | unsupported kind => "不支持的语句类型: ".toList ++ kind
  | unknownTable table => "表不存在: ".toList ++ table.display
  | schemaMismatch table column =>
    "表 ".toList ++ table.display ++ " 中不存在列: ".toList ++ column

/-- The name of the record type that a section fills. -/
def Section.typeName : Section → Text
  | storage => "StorageConfig".toList
  | query => "QueryConfig".toList
  | logging => "LoggingConfig".toList

/-- The name of a value's type. -/
def Value.typeName : Value → Text
  | null => "NoneType".toList
  | bool _ => "bool".toList
  | int _ => "int".toList
  | double _ => "float".toList
  | text _ => "str".toList
  | bytes _ => "bytes".toList
  | moment m => if m.time.isSome then "datetime.datetime".toList else "datetime.date".toList
  | pair .. => "tuple".toList
  | list _ | enclosing false => "list".toList
  | set _ => "set".toList
  | mapping _ | enclosing true => "dict".toList

def ConfigError.message : ConfigError → Text
  | notMapping sec found =>
    "配置项无效: weathercore.core.config.".toList ++ sec.typeName ++
      "() argument after ** must be a mapping, not ".toList ++ found.typeName
  | namelessSetting _ => "配置项无效: keywords must be strings".toList
  | unknownSetting sec name =>
    "配置项无效: ".toList ++ sec.typeName ++
      ".__init__() got an unexpected keyword argument '".toList ++ name ++ ['\'']
  | reservedSetting sec name =>
    "配置项无效: ".toList ++ sec.typeName ++
      ".__init__() got multiple values for argument '".toList ++ name ++ ['\'']
  | unknownMode mode => "未知的解析模式: ".toList ++ mode.display
  | notFound path => "配置文件不存在: ".toList ++ path

/-- The message of a fault that is the library's own. -/
def Fault.message? : Fault → Option Text
  | query error => some error.message
  | config error => some error.message
  | duplicateTable name => some ("表已存在: ".toList ++ name.display)
  | external _ => none

/-- **A fault has a message exactly when it is the library's own.** -/
theorem Fault.message?_isSome_iff {f : Fault} :
    f.message?.isSome = true ↔ ∀ k, f ≠ .external k := by
  cases f <;> simp [Fault.message?]

/-! ## Messages tell causes apart -/

namespace Malformed

/-- The causes that speak of no numbers. -/
def plain : List Malformed :=
  [noSource, noSourceTable, blankField, noEquals, noFilterColumn, illegalFilterValue, noTarget,
    noValues, noColumnList, noValueList, blankColumn, repeatedColumn]

theorem eq_countMismatch {cause : Malformed} (h : cause ∉ plain) :
    ∃ columns values, cause = countMismatch columns values := by
  cases cause with
  | countMismatch columns values => exact ⟨columns, values, rfl⟩
  | _ => exact absurd (by decide) h

/-- The one message with numbers starts as no other does. -/
theorem mem_plain_iff {cause : Malformed} :
    cause ∈ plain ↔ cause.message.take 9 ≠ "INSERT 列数".toList := by
  cases cause with
  | countMismatch columns values =>
    have hstart : (countMismatch columns values).message.take 9 = "INSERT 列数".toList := rfl
    simp [hstart, plain]
  | _ => decide

/-- Numbers that do not match can be read off their message. -/
theorem eq_of_countMismatch_message {m n m' n' : Nat}
    (h : (countMismatch m n).message = (countMismatch m' n').message) : m = m' ∧ n = n' := by
  have hnumbers : ∀ i j, (countMismatch i j).message =
      "INSERT 列数 (".toList ++ (Text.ofNat i ++ ')' :: (" 与值数 (".toList ++ (Text.ofNat j ++
        ')' :: " 不一致".toList))) := by
    intro i j
    unfold message
    simp only [List.append_assoc]
    rfl
  rw [hnumbers, hnumbers, List.append_cancel_left_eq] at h
  obtain ⟨hm, h⟩ := Text.eq_of_ofNat_append (by decide) h
  obtain ⟨hn, -⟩ := Text.eq_of_ofNat_append (by decide) (List.append_cancel_left h)
  exact ⟨hm, hn⟩

theorem eq_of_plain_message :
    ∀ c ∈ plain, ∀ d ∈ plain, c.message = d.message → c = d := by
  decide

/-- **Different causes have different messages.** -/
theorem message_injective : Function.Injective message := by
  intro c d h
  have hplain : c ∈ plain ↔ d ∈ plain := by rw [mem_plain_iff, mem_plain_iff, h]
  by_cases hc : c ∈ plain
  · exact eq_of_plain_message c hc d (hplain.1 hc) h
  · obtain ⟨m, n, rfl⟩ := eq_countMismatch hc
    obtain ⟨m', n', rfl⟩ := eq_countMismatch (mt hplain.2 hc)
    obtain ⟨rfl, rfl⟩ := eq_of_countMismatch_message h
    rfl

end Malformed

/-! ## Steps that may fail -/

section

variable {ε α β : Type} {x : Except ε α} {g : α → Except ε β} {f : ε} {b : β}

theorem bind_eq_ok_iff : (x >>= g) = .ok b ↔ ∃ a, x = .ok a ∧ g a = .ok b := by
  cases x <;> simp [bind, Except.bind]

/-- The first fault is the one that counts. -/
theorem bind_eq_error_iff :
    (x >>= g) = .error f ↔ x = .error f ∨ ∃ a, x = .ok a ∧ g a = .error f := by
  cases x <;> simp [bind, Except.bind]

theorem map_eq_ok_iff {g : α → β} : x.map g = .ok b ↔ ∃ a, x = .ok a ∧ g a = b := by
  cases x <;> simp [Except.map]

theorem map_eq_error_iff {g : α → β} : x.map g = .error f ↔ x = .error f := by
  cases x <;> simp [Except.map]

end

end Almanac
