/-
# A tree of files

The files of a computer as a value: at each place there is a directory, a file or nothing.  A
place is the list of names that leads to it from the root.  A path is followed from the
working directory a name at a time, and every name but the last has to lead to a directory;
so a path with `..` in it may fail although the place that it would lead to exists.

The operations of this file are those that programs have: reading and writing a file, making a
directory, renaming a file, and listing.  Each either succeeds or says why not and changes
nothing.

A tree has no links and no permissions.  Whatever is in it may be listed, read, written and
replaced by everybody, so a tree stands for files that the program has access to.  A file that
is there but may not be read, or a directory that may not be looked into, is in no tree, and
what is shown of programs on trees says nothing of disks that have such.
-/
import Deprecation.Files.Error
import Deprecation.Files.Path

namespace Deprecation

/-- The names that lead from the root to somewhere. -/
abbrev Place := List String

/-- What may be at a place. -/
inductive FileNode where
  | directory
  | file (bytes : ByteArray)
deriving Inhabited

/-- The files of a computer, and the directory that relative paths start from.  There are no
permissions: what is there may be read and written. -/
structure FileTree where
  /-- What is at each place that is not empty; the root is not listed. -/
  nodes : List (Place × FileNode)
  working : Place

namespace FileTree

/-! ## Places -/

/-- What is at a place. -/
def find? (t : FileTree) (p : Place) : Option FileNode :=
  if p = [] then some .directory else t.nodes.lookup p

/-- The tree with something at a place, whatever was there before. -/
def put (t : FileTree) (p : Place) (n : FileNode) : FileTree :=
  { t with nodes := (p, n) :: t.nodes.filter (·.1 ≠ p) }

/-- The tree with nothing at a place. -/
def clear (t : FileTree) (p : Place) : FileTree :=
  { t with nodes := t.nodes.filter (·.1 ≠ p) }

/-- Whether there is a directory at a place. -/
def isDirectoryAt (t : FileTree) (p : Place) : Bool :=
  match t.find? p with
  | some .directory => true
  | _ => false

theorem lookup_filter_ne (l : List (Place × FileNode)) (p q : Place) :
    (l.filter (·.1 ≠ p)).lookup q = if q = p then none else l.lookup q := by
  induction l with
  | nil => simp
  | cons x rest ih =>
    rw [List.filter_cons]
    by_cases hx : x.1 = p
    · rw [if_neg (by simpa using hx), ih, List.lookup_cons, hx]
      by_cases h : q = p
      · simp [h]
      · have : (q == p) = false := by simpa using h
        simp [h, this]
    · rw [if_pos (by simpa using hx), List.lookup_cons, List.lookup_cons, ih]
      by_cases h : q = x.1
      · have : q ≠ p := fun e => hx (h ▸ e)
        simp [h, hx]
      · have : (q == x.1) = false := by simpa using h
        simp [this]

theorem find?_put (t : FileTree) (p q : Place) (n : FileNode) (hp : p ≠ []) :
    (t.put p n).find? q = if q = p then some n else t.find? q := by
  unfold find? put
  by_cases hq : q = []
  · subst hq
    simp [Ne.symm hp]
  · rw [if_neg hq, if_neg hq, List.lookup_cons, lookup_filter_ne]
    by_cases h : q = p
    · simp [h]
    · have : (q == p) = false := by simpa using h
      simp [h, this]

theorem find?_clear (t : FileTree) (p q : Place) (hp : p ≠ []) :
    (t.clear p).find? q = if q = p then none else t.find? q := by
  unfold find? clear
  by_cases hq : q = []
  · subst hq
    simp [Ne.symm hp]
  · rw [if_neg hq, if_neg hq, lookup_filter_ne]

/-! ## Following a path -/

/-- The longest name and the longest path, in bytes. -/
def maxName : Nat := 255

@[inherit_doc maxName]
def maxPath : Nat := 4095

/-- The names of a path; empty names are kept. -/
def names (path : String) : List String :=
  (Path.pieces path.toList).map String.ofList

/-- The directory that a path starts from. -/
def start (t : FileTree) (path : String) : Place :=
  if Path.isAbsolute path then [] else t.working

/-- Follows names from a place. -/
def follow (t : FileTree) : Place → List String → Except FileError Place
  | at_, [] => .ok at_
  | at_, name :: rest =>
    if !t.isDirectoryAt at_ then .error .notADirectory
    else if name = "" ∨ name = "." then t.follow at_ rest
    else if name = ".." then t.follow at_.dropLast rest
    else if maxName < name.utf8ByteSize then .error .nameTooLong
    else if (t.find? (at_ ++ [name])).isNone then .error .notFound
    else t.follow (at_ ++ [name]) rest

/-- Refuses a text that is no path. -/
def checkPath (path : String) : Except FileError Unit :=
  if path.toList.contains '\x00' then .error .badName
  else if path = "" then .error .notFound
  else if maxPath < path.utf8ByteSize then .error .nameTooLong
  else .ok ()

/-- The place that a path leads to. -/
def place (t : FileTree) (path : String) : Except FileError Place := do
  checkPath path
  t.follow (t.start path) (names path)

/-- Where a path leads to that may have nothing at its end. -/
inductive Target where
  /-- To a name in a directory; `asDirectory` when a slash follows the name. -/
  | entry (directory : Place) (name : String) (asDirectory : Bool)
  /-- To a place that is not named by the end of the path. -/
  | existing (p : Place)

/-- The place that a target stands for. -/
def Target.place : Target → Place
  | entry directory name _ => directory ++ [name]
  | existing p => p

/-- Where a path leads to, if all names but the last lead to a directory. -/
def target (t : FileTree) (path : String) : Except FileError Target := do
  checkPath path
  let backwards := (names path).reverse
  match backwards.dropWhile (· = "") with
  | [] => .ok (.existing (← t.follow (t.start path) (names path)))
  | last :: before =>
    if last = "." ∨ last = ".." then
      .ok (.existing (← t.follow (t.start path) (names path)))
    else
      let directory ← t.follow (t.start path) before.reverse
      if !t.isDirectoryAt directory then .error .notADirectory
      else if maxName < last.utf8ByteSize then .error .nameTooLong
      else .ok (.entry directory last (backwards.head? == some ""))

/-! ## Operations -/

/-- The bytes of a file. -/
def read (t : FileTree) (path : String) : Except FileError ByteArray := do
  match t.find? (← t.place path) with
  | some (.file bytes) => .ok bytes
  | some .directory => .error .isADirectory
  | none => .error .notFound

/-- Writes a file in place of the one before. -/
def write (t : FileTree) (path : String) (bytes : ByteArray) : Except FileError FileTree := do
  match ← t.target path with
  | .existing _ | .entry _ _ true => .error .isADirectory
  | .entry directory name false =>
    let p := directory ++ [name]
    if t.isDirectoryAt p then .error .isADirectory
    else .ok (t.put p (.file bytes))

/-- Makes a directory. -/
def makeDirectory (t : FileTree) (path : String) : Except FileError FileTree := do
  match ← t.target path with
  | .existing _ => .error .alreadyExists
  | .entry directory name _ =>
    let p := directory ++ [name]
    if (t.find? p).isSome then .error .alreadyExists
    else .ok (t.put p .directory)

/-- Moves a file to another place, in place of the file there. -/
def rename (t : FileTree) (old new : String) : Except FileError FileTree := do
  let source ← t.place old
  match t.find? source, ← t.target new with
  | some (.file bytes), .entry directory name asDirectory =>
    let p := directory ++ [name]
    if asDirectory then .error .notADirectory
    else if t.isDirectoryAt p then .error .isADirectory
    else .ok ((t.clear source).put p (.file bytes))
  | some (.file _), .existing _ | some .directory, _ => .error .busy
  | none, _ => .error .notFound

/-- Whether a path leads to a file. -/
def isFile (t : FileTree) (path : String) : Bool :=
  match t.read path with
  | .ok _ => true
  | .error _ => false

/-- Whether a path leads to a directory. -/
def isDirectory (t : FileTree) (path : String) : Bool :=
  match t.place path with
  | .ok p => t.isDirectoryAt p
  | .error _ => false

/-! ## Listing -/

/-- Puts an item into a list in the order of its names.  A directory comes right before what
is in it. -/
def insertInOrder {α : Type} (x : Place × α) : List (Place × α) → List (Place × α)
  | [] => [x]
  | y :: rest => if x.1 < y.1 then x :: y :: rest else y :: insertInOrder x rest

/-- What is below a place, with the names that lead to it from there, in order. -/
def below (t : FileTree) (p : Place) : List (Place × FileNode) :=
  (t.nodes.filterMap fun (q, n) =>
    if p.isPrefixOf q ∧ q ≠ p then some (q.drop p.length, n) else none).foldr insertInOrder []

/-- The path to what some names lead to from where another path leads. -/
def pathBelow (path : String) (names : Place) : String := names.foldl Path.join path

/-- The paths of the files that a path leads to: of the file itself, or of all files in the
directory, at most so deep when a depth is given. -/
def files (t : FileTree) (path : String) (depth : Option Nat) : List String :=
  match t.place path with
  | .error _ => []
  | .ok p =>
    match t.find? p with
    | some (.file _) => [path]
    | some .directory =>
      (t.below p).filterMap fun (names, n) =>
        match n with
        | .file _ =>
          if depth.all (names.length ≤ ·) then some (pathBelow path names) else none
        | .directory => none
    | none => []

end FileTree

end Deprecation
