import Proforma.NameMap
import Proforma.Text.Utf8

/-!
# File trees

Directories and files, and writing one file all or nothing: the content goes to a temporary file
in the same directory, which then takes the place of the file.

A path is the list of names from the root. In the text of a path slashes separate the names, and
empty names and single dots count for nothing; two dots go up one level, from the root to itself.
A text of 4096 bytes or more is the path of nothing.
-/

namespace Proforma

/-- The names from the root, outermost first. -/
abbrev Path := List String

/-- A file, or a directory with what stands in it under each name. -/
inductive FileTree where
  | file (content : List UInt8)
  | directory (entries : List (String × FileTree))

namespace FileTree

/-- A directory with nothing in it. -/
def empty : FileTree := .directory []

/-- What stands at a path. -/
def node? (t : FileTree) (p : Path) : Option FileTree :=
  match p, t with
  | [], t => some t
  | _ :: _, .file _ => none
  | name :: rest, .directory entries =>
    match NameMap.get? entries name with
    | some child => child.node? rest
    | none => none

/-- What is in the directory at a path. -/
def entries? (t : FileTree) (p : Path) : Option (NameMap FileTree) :=
  match t.node? p with
  | some (.directory entries) => some entries
  | _ => none

/-- Changes what is in the directory at a path. Where there is none nothing changes. -/
def modify (t : FileTree) (p : Path) (f : NameMap FileTree → NameMap FileTree) : FileTree :=
  match p, t with
  | _, .file content => .file content
  | [], .directory entries => .directory (f entries)
  | name :: rest, .directory entries =>
    match NameMap.get? entries name with
    | some child => .directory (NameMap.insert entries name (child.modify rest f))
    | none => .directory entries

/-- Below the directory that was changed stands what the change put there. -/
theorem node?_modify_append (t : FileTree) (p q : Path)
    (f : NameMap FileTree → NameMap FileTree) {entries : NameMap FileTree}
    (h : t.entries? p = some entries) :
    (t.modify p f).node? (p ++ q) = (directory (f entries)).node? q := by
  induction p generalizing t with
  | nil =>
    cases t with
    | file c => simp [entries?, node?] at h
    | directory es =>
      simp only [entries?, node?, Option.some.injEq] at h
      simp [modify, h]
  | cons name rest ih =>
    cases t with
    | file c => simp [entries?, node?] at h
    | directory es =>
      cases hc : NameMap.get? es name with
      | none => simp [entries?, node?, hc] at h
      | some child =>
        have hchild : child.entries? rest = some entries := by
          simpa [entries?, node?, hc] using h
        simp [modify, hc, node?, NameMap.get?_insert, ih child hchild]

mutual

/-- All that stands in a tree with its path, the content for a file. -/
def listing : FileTree → List (Path × Option (List UInt8))
  | .file content => [([], some content)]
  | .directory entries => ([], none) :: listingOfEntries entries

/-- All that stands in a directory. -/
def listingOfEntries : List (String × FileTree) → List (Path × Option (List UInt8))
  | [] => []
  | (name, t) :: rest =>
    (t.listing.map fun node => (name :: node.1, node.2)) ++ listingOfEntries rest

end

/-! ## Paths -/

/-- The character that no path has. -/
def isNul (c : Char) : Bool :=
  c = '\x00'

/-- The names that a directory can hold: not empty, at most 255 bytes, and without NUL. -/
def isName (name : String) : Bool :=
  let size := (Text.Utf8.encode name).length
  0 < size && size ≤ 255 && !name.toList.any isNul

/-- The pieces of the text of a path, names and others. -/
def pieces (path : String) : List String :=
  (path.toList.splitOn '/').map String.ofList

/-- Whether a piece counts for nothing. -/
def isIdle (piece : String) : Bool :=
  piece = "" || piece = "."

/-- The names in the text of a path. -/
def segments (path : String) : List String :=
  (pieces path).filter (!isIdle ·)

/-- The text of a path without the pieces at its front that count for nothing. -/
def relativeText (path : String) : String :=
  "/".intercalate ((pieces path).dropWhile isIdle)

/-- The text of the path of the directory that the last name of a path stands in. -/
def parentText (path : String) : String :=
  let above := ((pieces path).reverse.dropWhile isIdle).drop 1
  "/".intercalate (above.dropWhile isIdle).reverse

/-- Whether the text of a path can only mean a directory. -/
def namesDirectory (path : String) : Bool :=
  ((pieces path).getLast?.map fun last => isIdle last || last = "..").getD true

/-- Whether a number of bytes is short enough for the text of a path. -/
def isPathSize (size : Nat) : Bool :=
  size < 4096

/-! ## Writing a file -/

/-- Goes down a path from `here`, making the directories that are missing. The result is where it
leads, unless a file or an impossible name is in the way, and the tree with the directories made
so far. -/
def descend (t : FileTree) (here : Path) : List String → Option Path × FileTree
  | [] => (some here, t)
  | name :: rest =>
    if name = ".." then descend t here.dropLast rest
    else
      let next := here ++ [name]
      match t.node? next with
      | some (.directory _) => descend t next rest
      | some (.file _) => (none, t)
      | none =>
        if isName name then descend (t.modify here (·.insert name empty)) next rest
        else (none, t)

/-- A name longer than every name in a directory, so that it is not in use. -/
def unusedName (entries : NameMap FileTree) : String :=
  let longest := entries.foldl (fun n entry => max n entry.1.length) 0
  String.ofList ('.' :: List.replicate longest 't')

/-- What the path of a temporary file has more than that of its directory: a slash and a name of
ten bytes. -/
def temporaryRoom : Nat := 11

/-- Gives a file in the directory `here` another name, where another file or nothing may stand. A
directory stays. -/
def rename? (t : FileTree) (here : Path) (source target : String) : Option FileTree :=
  match t.node? (here ++ [source]), t.node? (here ++ [target]) with
  | _, some (.directory _) => none
  | some node, _ => some (t.modify here fun entries => (entries.erase source).insert target node)
  | none, _ => none

/-- Writes a file whole, making the directories above it. Without success no file is changed and
none is left behind, though directories may have been made. -/
def write (t : FileTree) (path : String) (content : List UInt8) : Bool × FileTree :=
  match (segments path).getLast? with
  | none => (false, t)
  | some name =>
    let above := (segments path).dropLast
    let aboveSize := (parentText path).utf8ByteSize
    if above.any (·.toList.any isNul) || !isPathSize aboveSize then (false, t)
    else
      match t.descend [] above with
      | (none, t) => (false, t)
      | (some here, t) =>
        let temporary := unusedName ((t.entries? here).getD [])
        let staged := t.modify here (·.insert temporary (.file content))
        let isTarget := !namesDirectory path && isName name && isPathSize path.utf8ByteSize
        if !isPathSize (aboveSize + temporaryRoom) then (false, t)
        else
          match if isTarget then staged.rename? here temporary name else none with
          | some t => (true, t)
          | none => (false, staged.modify here (·.erase temporary))

end FileTree

end Proforma
