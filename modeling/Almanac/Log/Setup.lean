import Almanac.Log
import Almanac.Log.FileName

/-!
# Setting up the log

The sinks of a log are replaced as a whole: by the console, and by a file if one is named.
The file's name is a pattern, in which the time may be a field.
-/

namespace Almanac.Log

/-- The number from which upward messages are taken: that of a level, or a number itself. -/
def threshold : Value → Except Fault Nat
  | .text name =>
    match Level.ofName? name with
    | some l => .ok l.number
    | none => .error (.external .unknownLevel)
  | .int i => if i < 0 then .error (.external .unknownLevel) else .ok i.toNat
  | .bool b => .ok (if b then 1 else 0)
  | _ => .error (.external .wrongKind)

/-- Whether a place is a directory; the working directory and those above it are. -/
def isDirectory (log : Log) (here : Path) : Bool :=
  here.all (fun c => c = Path.up || c = Path.root) || log.directories.contains here

/-- Whether a place is a file. -/
def isFile (log : Log) (here : Path) : Bool := log.files.any fun f => f.1 == here

/-- A part that is no name, or is too long for one, or makes its path too long. -/
def unusablePart? (here : Path) (part : Text) : Option ExternalFault :=
  if part.contains '\x00' then some .unusablePath
  else if Path.isLongPart part || Path.isLong (Path.display (here ++ [part])) then some .pathTooLong
  else none

/-- Makes the directories from a place on that are missing, as far as that is possible, and
says what stands in the way. Below a file, what is no name fails as such, and all else as
being below a file. -/
def makeDirectories (log : Log) (here : Path) : Path → Option ExternalFault × Log
  | [] => (none, log)
  | part :: rest =>
    let next := here ++ [part]
    if log.isDirectory next then log.makeDirectories next rest
    else if part.contains '\x00' then (some .unusablePath, log)
    else if log.isFile here then (some .notDirectory, log)
    else match unusablePart? here part with
    | some f => (some f, log)
    | none =>
      if log.isFile next then
        if rest.isEmpty then (some .isFile, log) else log.makeDirectories next rest
      else ({ log with directories := next :: log.directories } : Log).makeDirectories next rest

/-- Why a file cannot be opened in a directory that is there. -/
def obstacle? (log : Log) (p : Path) : Option ExternalFault :=
  if log.isDirectory p then some .isDirectory
  else unusablePart? p.dropLast (p.getLastD [])

/-- Opens a file at a place, in a directory that is made for it. -/
def openAt (log : Log) (threshold : Nat) (p : Path) : Except Fault Unit × Log :=
  match log.makeDirectories [] p.dropLast with
  | (some f, log) => (.error (.external f), log)
  | (none, log) =>
    match log.obstacle? p with
    | some f => (.error (.external f), log)
    | none =>
      (.ok (), { log with
        sinks := log.sinks ++ [⟨.file p, threshold⟩]
        files := appendTo p [] log.files })

/-- Opens the file that a setting names, if it names one. -/
def openFile (log : Log) (threshold : Nat) (file : Value) : Except Fault Unit × Log :=
  if !file.isTrue then (.ok (), log)
  else match file with
  | .text pattern =>
    match fileName pattern with
    | .ok t => log.openAt threshold (Path.place t)
    | .error f => (.error (.external f), log)
  | _ => (.error (.external .wrongKind), log)

/-- Replaces the sinks: the console and, if one is named, a file, both from `level` upward.
If the level is not known no sink is left, and if the file cannot be opened the console is. -/
def setup (log : Log) (level file : Value) : Except Fault Unit × Log :=
  match threshold level with
  | .error f => (.error f, { log with sinks := [] })
  | .ok n =>
    let bare : Log := { log with sinks := [⟨.console, n⟩] }
    match bare.openFile n file with
    | (.error f, after) => (.error f, after)
    | (.ok (), ready) =>
      let event := Event.levelSet level
      match Value.withShown event.shows event with
      | .error f => (.error f, ready)
      | .ok event => (.ok (), ready.emit (event.level, event.message))

end Almanac.Log
