import AgentRelay.Fault

set_option autoImplicit false

/-!
# File trees

A file system as data: files with their contents, and directories of named entries.  `resolve` walks along a
path from the current directory, and `read` gives the contents of the file at its end, or the fault that the
walk meets first.

There are no links, so `..` leads back along the way that was taken.
-/

namespace AgentRelay

/-- A file or a directory. -/
inductive FileTree where
  | file (contents : Utf8.Bytes)
  | directory (entries : List (Utf8.Bytes × FileTree))
  deriving Repr

namespace FileTree

/-- The entry of a name. -/
def child? (entries : List (Utf8.Bytes × FileTree)) (name : Utf8.Bytes) : Option FileTree :=
  (entries.find? fun entry => entry.1 == name).map Prod.snd

/-- The tree with something else at the end of a chain of names.  Directories are made where there are none,
and a file on the way gives way. -/
def place (made tree : FileTree) : List Utf8.Bytes → FileTree
  | [] => made
  | name :: rest =>
    let entries := match tree with
      | directory entries => entries
      | file _ => []
    let child := place made ((child? entries name).getD (directory [])) rest
    if (child? entries name).isSome then
      directory (entries.map fun entry => if entry.1 == name then (name, child) else entry)
    else directory (entries ++ [(name, child)])

end FileTree

/-- A tree and the directory in it to which paths are relative, as the chain of names that leads there. -/
structure FileSystem where
  root : FileTree
  current : List Utf8.Bytes
  deriving Repr

namespace FileSystem

/-- The greatest number of bytes in a name. -/
def maxName : Nat := 255

/-- The greatest number of bytes in a path. -/
def maxPath : Nat := 4095

/-- A place in a file system: the chain of names that leads there from the root, and what is there. -/
structure Place where
  location : List Utf8.Bytes
  tree : FileTree
  deriving Repr

/-- Walks along names.  `above` are the directories on the way to `here`, the nearest first. -/
def walk (above : List Place) (here : Place) : List Utf8.Bytes → Except FileFault Place
  | [] => .ok here
  | name :: rest =>
    match here.tree with
    | .file _ => .error .notADirectory
    | .directory entries =>
      if name.isEmpty || name == Path.here then walk above here rest
      else if name == Path.above then
        match above with
        | [] => walk [] here rest
        | parent :: further => walk further parent rest
      else if maxName < name.length then .error .nameTooLong
      else
        match FileTree.child? entries name with
        | none => .error .notFound
        | some child => walk (here :: above) ⟨here.location ++ [name], child⟩ rest

/-- What a path leads to. -/
def resolve (s : FileSystem) (p : Path) : Except FileFault Place :=
  if (0 : UInt8) ∈ p.bytes then .error .nulInName
  else if p.bytes.isEmpty then .error .notFound
  else if maxPath < p.bytes.length then .error .nameTooLong
  else if p.isAbsolute then walk [] ⟨[], s.root⟩ p.names
  else walk [] ⟨[], s.root⟩ (s.current ++ p.names)

/-- The file at the end of a path: where it is, and its contents. -/
def file (s : FileSystem) (p : Path) : Except FileFault (List Utf8.Bytes × Utf8.Bytes) :=
  match s.resolve p with
  | .ok ⟨location, .file contents⟩ => .ok (location, contents)
  | .ok ⟨_, .directory _⟩ => .error .isADirectory
  | .error fault => .error fault

/-- The contents of the file at the end of a path. -/
def read (s : FileSystem) (p : Path) : Except FileFault Utf8.Bytes := (s.file p).map Prod.snd

/-- The file system with a file below the current directory. -/
def write (s : FileSystem) (p : Path) (contents : Utf8.Bytes) : FileSystem :=
  { s with root := FileTree.place (.file contents) s.root (s.current ++ p.names) }

/-- The file system with a directory below the current directory, which keeps what it already holds. -/
def makeDirectory (s : FileSystem) (p : Path) : FileSystem :=
  match s.resolve p with
  | .ok ⟨_, .directory _⟩ => s
  | _ => { s with root := FileTree.place (.directory []) s.root (s.current ++ p.names) }

end FileSystem

end AgentRelay
