import Almanac.Fault.Basic
import Almanac.Path

/-!
# Files and directories

A tree of files, seen from a working directory. Paths are relative, and every step on the
way that a path describes has to be there.

* `place_write`: **a file that was written is there.**
* `write_of_write`: whether a file can be written does not depend on what is written.
-/

namespace Almanac

/-- What a file holds: a text, or bytes that may be none. -/
inductive FileContent where
  | text (t : Text)
  | bytes (b : List UInt8)
deriving DecidableEq

/-- The text of a file, if it is UTF-8. -/
def FileContent.text? : FileContent → Option Text
  | text t => some t
  | bytes b => (String.fromUTF8? ⟨b.toArray⟩).map String.toList

/-- The files and directories below the working directory. -/
structure FileTree where
  directories : List Path
  files : List (Path × FileContent)

/-- What is at a path. -/
inductive Place where
  | directory
  | file (content : FileContent)
  | nothing
  | tooLong

/-- Where the steps of a path lead: to a place; to none, as one of them starts from no
directory; or to a name that is too long. -/
inductive Reached where
  | place (here : Path)
  | nowhere
  | tooLong

namespace FileTree

/-- An empty working directory. -/
def empty : FileTree := ⟨[], []⟩

/-- Whether a place is a directory; those above the working directory are. -/
def isDirectory (tree : FileTree) (here : Path) : Bool :=
  here.all (fun c => c = Path.up) || tree.directories.contains here

/-- Where a path leads. Every step on the way has to be a directory. -/
def reach (tree : FileTree) (here : Path) : Path → Reached
  | [] => .place here
  | part :: rest =>
    if tree.isDirectory here = false then .nowhere
    else if Path.isLongPart part then .tooLong
    else tree.reach (here.further part) rest

/-- What is at a place. -/
def atPlace (tree : FileTree) (here : Path) : Place :=
  if tree.isDirectory here then .directory
  else match tree.files.lookup here with
    | some content => .file content
    | none => .nothing

/-- What a path leads to. -/
def place (tree : FileTree) (p : Path) : Place :=
  if p.isNameable = false then .nothing
  else if Path.isLong p.display then .tooLong
  else match tree.reach [] p with
    | .place here => tree.atPlace here
    | .nowhere => .nothing
    | .tooLong => .tooLong

/-- What came of a change: nothing more than that, or a fault, and the tree after it. -/
abbrev Change := Except Fault Unit × FileTree

/-- Makes the directories of a path that are missing. Those that were made before a
failure stay. A file in the way is named as such if a directory was to be made in its
place, and as no directory if the path leads through it. -/
def makeDirectories (tree : FileTree) (made : Bool) (here : Path) : Path → Change
  | [] => (.ok (), tree)
  | part :: rest =>
    let next := here.further part
    if Path.isLongPart part then (.error (.external .pathTooLong), tree)
    else if tree.isDirectory next then tree.makeDirectories made next rest
    else if (tree.files.lookup next).isSome then
      (.error (.external (if rest.isEmpty || made then .isFile else .notDirectory)), tree)
    else makeDirectories ⟨next :: tree.directories, tree.files⟩ true next rest

/-- Gives a file its content. -/
def putFile (tree : FileTree) (here : Path) (content : FileContent) : FileTree :=
  { tree with files := (here, content) :: tree.files.filter fun f => f.1 ≠ here }

/-- Writes a file in a directory that is there. -/
def writeHere (tree : FileTree) (p : Path) (content : FileContent) : Change :=
  if p.isNameable = false then (.error (.external .unusablePath), tree)
  else match tree.place p, tree.reach [] p with
  | .tooLong, _ => (.error (.external .pathTooLong), tree)
  | .directory, _ => (.error (.external .isDirectory), tree)
  | _, .place here => (.ok (), tree.putFile here content)
  | _, _ => (.error (.external .notDirectory), tree)

/-- Writes a file; the directories above it are made. -/
def write (tree : FileTree) (p : Path) (content : FileContent) : Change :=
  if Path.isNameable p.dropLast = false then (.error (.external .unusablePath), tree)
  else if Path.isLong (Path.display p.dropLast) then (.error (.external .pathTooLong), tree)
  else match tree.makeDirectories false [] p.dropLast with
  | (.ok _, tree) => tree.writeHere p content
  | (.error f, tree) => (.error f, tree)

/-- What a file holds. -/
def content (tree : FileTree) (p : Path) : Except Fault FileContent :=
  match tree.place p with
  | .nothing => .error (.external .missingFile)
  | .directory => .error (.external .isDirectory)
  | .tooLong => .error (.external .pathTooLong)
  | .file content => .ok content

/-- The text of a file. -/
def read (tree : FileTree) (p : Path) : Except Fault Text := do
  match (← tree.content p).text? with
  | some t => return t
  | none => .error (.external .badEncoding)

/-- Making a file changes no directory. -/
theorem isDirectory_putFile {tree : FileTree} {here p : Path} {content : FileContent} :
    (tree.putFile here content).isDirectory p = tree.isDirectory p := rfl

theorem reach_putFile {tree : FileTree} {at_ here p : Path} {content : FileContent} :
    (tree.putFile at_ content).reach here p = tree.reach here p := by
  induction p generalizing here with
  | nil => rfl
  | cons part rest ih => simp [reach, isDirectory_putFile, ih]

/-- **A file is there once it has its content**, unless a directory is at its place. -/
theorem atPlace_putFile {tree : FileTree} {here : Path} {content : FileContent}
    (h : tree.atPlace here ≠ .directory) :
    (tree.putFile here content).atPlace here = .file content := by
  have hd : tree.isDirectory here = false := by
    cases hd : tree.isDirectory here with
    | false => rfl
    | true => exact absurd (by simp [atPlace, hd]) h
  have hd : (tree.putFile here content).isDirectory here = false := hd
  simp [atPlace, hd]
  simp [putFile]

theorem place_writeHere {tree : FileTree} {p : Path} {content : FileContent}
    (h : (tree.writeHere p content).1 = .ok ()) :
    (tree.writeHere p content).2.place p = .file content := by
  unfold writeHere at h ⊢
  split at h
  · simp at h
  rename_i hn
  rw [if_neg hn]
  split
  · simp_all
  · simp_all
  · rename_i here hr hl hd
    -- a name that is too long or a directory would have been refused
    have hshort : Path.isLong p.display = false := by
      cases hs : Path.isLong p.display with
      | false => rfl
      | true => exact (hl (by simp [place, hn, hs])).elim
    have hplace : tree.place p = tree.atPlace here := by
      rw [place, if_neg hn, hshort, hr]
      rfl
    rw [hplace] at hd
    rw [place, if_neg hn, hshort, reach_putFile, hr]
    exact atPlace_putFile hd
  · simp_all

/-- **A file that was written is there.** -/
theorem place_write {tree : FileTree} {p : Path} {content : FileContent}
    (h : (tree.write p content).1 = .ok ()) : (tree.write p content).2.place p = .file content := by
  unfold write at h ⊢
  split at h
  · simp at h
  rename_i hn
  rw [if_neg hn]
  split at h
  · simp at h
  rename_i hl
  rw [if_neg hl]
  split
  · rename_i made hm
    rw [hm] at h
    exact place_writeHere h
  · rename_i hm
    rw [hm] at h
    simp at h

theorem writeHere_of_writeHere {tree : FileTree} {p : Path} {content : FileContent}
    (h : (tree.writeHere p content).1 = .ok ()) (other : FileContent) :
    (tree.writeHere p other).1 = .ok () := by
  unfold writeHere at h ⊢
  split
  · simp_all
  · split <;> simp_all

/-- Whether a file can be written does not depend on what is written. -/
theorem write_of_write {tree : FileTree} {p : Path} {content : FileContent}
    (h : (tree.write p content).1 = .ok ()) (other : FileContent) : (tree.write p other).1 = .ok () := by
  unfold write at h ⊢
  split at h
  · cases h
  rename_i hnameable
  rw [if_neg hnameable]
  split at h
  · cases h
  rename_i hshort
  rw [if_neg hshort]
  split at h
  · exact writeHere_of_writeHere h other
  · cases h

end FileTree

end Almanac
