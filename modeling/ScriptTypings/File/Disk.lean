import ScriptTypings.Failure
import ScriptTypings.File.Path
import ScriptTypings.File.Tree

/-! # Disks

A disk is a directory tree with files, links and directories. Paths are walked step by step, links
are followed, and one path follows at most forty of them. Directories and files are made as the
operating system makes them; an operation that fails reports a fault.

## Implementation notes

A path is relative to the top directory, or starts with the name of the top directory; so is the
target of a link, which is relative to the directory of the link. Everything outside the top
directory counts as missing. -/

namespace ScriptTypings.File

inductive Entry where
  | file (contents : ByteArray)
  | link (target : String)
  | directory (entries : List (String × Entry))
  deriving Inhabited

structure Disk where
  /-- The name of the top directory. -/
  top : String
  entries : List (String × Entry)
  deriving Inhabited

/-- The number of links that one path may follow. -/
def linkLimit : Nat := 40

/-- The number of bytes that a name may have. -/
def nameLimit : Nat := 255

def isTooLong (name : String) : Bool :=
  nameLimit < name.utf8ByteSize

/-- The number of bytes that a path may have. -/
def pathLimit : Nat := 4095

/-- Why a path is refused before it is walked. -/
def refusal? (path : String) : Option Fault :=
  if path.toList.contains '\x00' then some .nulByte
  else if pathLimit < path.utf8ByteSize then some .nameTooLong
  else none

/-- Puts an entry under a name, in place of the entry of that name or behind all others. -/
def putName (name : String) (e : Entry) : List (String × Entry) → List (String × Entry)
  | [] => [(name, e)]
  | (other, old) :: rest =>
      if other = name then (name, e) :: rest else (other, old) :: putName name e rest

/-- Puts an entry at a path of names whose directories exist. -/
def putPath (e : Entry) : List String → List (String × Entry) → List (String × Entry)
  | [], entries => entries
  | [name], entries => putName name e entries
  | name :: next :: rest, entries =>
      match entries.lookup name with
      | some (.directory inner) =>
          putName name (.directory (putPath e (next :: rest) inner)) entries
      | _ => entries

/-- The directories that a walk has entered and stands in, innermost first, with their entries. -/
abbrev Trail := List (String × List (String × Entry))

def Trail.path (trail : Trail) : List String :=
  (trail.map Prod.fst).reverse

/-- Where a walk ends: in a directory or at a file, with the links that are left to follow, or at a
name that its directory does not hold. -/
inductive Place where
  | directory (trail : Trail) (linksLeft : Nat)
  | file (trail : Trail) (name : String) (contents : ByteArray) (linksLeft : Nat)
  | absent (trail : Trail) (name : String)

/-- What a walk is for. A file cannot be written under a name with a slash behind it. -/
inductive Purpose where
  | look
  | write
  deriving DecidableEq, Repr, Inhabited

namespace Disk

def put (d : Disk) (path : List String) (e : Entry) : Disk :=
  { d with entries := putPath e path d.entries }

/-- The entries of the directory that a trail leads to. -/
def entriesAt (d : Disk) : Trail → List (String × Entry)
  | [] => d.entries
  | (_, entries) :: _ => entries

/-- The part of a path below the top directory; `none` for a path that leads elsewhere. -/
def below (d : Disk) (path : String) : Option String :=
  if path = d.top then some ""
  else if (d.top ++ "/").toList.isPrefixOf path.toList then
    some (String.ofList (path.toList.drop (d.top.length + 1)))
  else if path.toList.head? = some '/' then none
  else some path

/-- Where the target of a link is walked: the trail from which the walk starts and the steps it
takes. A relative target starts where the link stands and an absolute one at the top directory;
`none` for one that leads elsewhere. -/
def linkStart? (d : Disk) (trail : Trail) (target : String) : Option (Trail × List String) :=
  if target.toList.head? = some '/' then
    (d.below target).map fun inner => ([], stepsWithSlash inner)
  else some (trail, stepsWithSlash target)

/-- Walks some steps from the end of a trail, following links. -/
def walk (d : Disk) (purpose : Purpose) (links : Nat) (trail : Trail) :
    List String → Except Fault Place
  | [] => .ok (.directory trail links)
  | step :: rest =>
      if step = "." || step = "" then walk d purpose links trail rest
      else if step = ".." then
        match trail with
        | [] => .error .noEntry
        | _ :: outer => walk d purpose links outer rest
      else if purpose = .write ∧ rest = [""] then .error .isDirectory
      else if isTooLong step then .error .nameTooLong
      else
        match (d.entriesAt trail).lookup step with
        | none => if rest = [] then .ok (.absent trail step) else .error .noEntry
        | some (.directory entries) => walk d purpose links ((step, entries) :: trail) rest
        | some (.file contents) =>
            if rest = [] then .ok (.file trail step contents links) else .error .notDirectory
        | some (.link target) =>
            match links with
            | 0 => .error .tooManyLinks
            | more + 1 =>
                match d.linkStart? trail target with
                | none => .error .noEntry
                | some (start, path) => walk d purpose more start (path ++ rest)
termination_by steps => (links, steps.length)

/-- Walks a path from the top directory. -/
def locate (d : Disk) (purpose : Purpose) (path : List String) : Except Fault Place :=
  d.walk purpose linkLimit [] path

/-- The trail to the directory at the end of some steps. -/
def locateDirectory (d : Disk) (path : List String) : Except Fault Trail :=
  match d.locate .look path with
  | .error fault => .error fault
  | .ok (.absent _ _) => .error .noEntry
  | .ok (.file _ _ _ _) => .error .notDirectory
  | .ok (.directory trail _) => .ok trail

def isDirectory (d : Disk) (path : List String) : Bool :=
  (d.locateDirectory path).isOk

/-- Makes one directory. What exists already is not followed: a link is in the way too. -/
def makeDirectory (d : Disk) (path : List String) : Except Fault Disk :=
  match path.getLast? with
  | none => .error .alreadyExists
  | some name =>
      match d.locateDirectory path.dropLast with
      | .error fault => .error fault
      | .ok parent =>
          if name = "." || name = ".." then .error .alreadyExists
          else if isTooLong name then .error .nameTooLong
          else
            match (d.entriesAt parent).lookup name with
            | some _ => .error .alreadyExists
            | none => .ok (d.put (parent.path ++ [name]) (.directory []))

/-- The path above a path. -/
def parentSteps (path : List String) : List String :=
  (path.filter (· ≠ ".")).dropLast

theorem length_parentSteps_lt {path : List String} (h : path ≠ []) :
    (parentSteps path).length < path.length := by
  have hpos : 0 < path.length := List.length_pos_iff.mpr h
  have hle : (path.filter (· ≠ ".")).length ≤ path.length := List.length_filter_le _ _
  simp only [parentSteps, List.length_dropLast]
  omega

/-- Makes a directory and those above it that are missing. The directories made before a fault
stay. -/
def makeDirectories (d : Disk) (path : List String) : Disk × Option Fault :=
  if _h : path = [] then (d, none)
  else
    match d.makeDirectory path with
    | .ok made => (made, none)
    | .error .noEntry =>
        match makeDirectories d (parentSteps path) with
        | (grown, some fault) => (grown, some fault)
        | (grown, none) =>
            match grown.makeDirectory path with
            | .ok made => (made, none)
            | .error fault => (grown, if grown.isDirectory path then none else some fault)
    | .error fault => (d, if d.isDirectory path then none else some fault)
termination_by path.length
decreasing_by exact length_parentSteps_lt (by assumption)

/-- Writes a file in place of the one that the path leads to, or makes it. -/
def writeFile (d : Disk) (path : List String) (contents : ByteArray) : Except Fault Disk :=
  match d.locate .write path with
  | .error fault => .error fault
  | .ok (.directory _ _) => .error .isDirectory
  | .ok (.file trail name _ _) | .ok (.absent trail name) =>
      .ok (d.put (trail.path ++ [name]) (.file contents))

mutual

/-- An entry of the directory at the end of a trail, with its links replaced by what they point to;
a link that leads nowhere is left out. -/
def view (d : Disk) (links : Nat) (trail : Trail) (name : String) : Entry → Option Tree
  | .file contents => some (.file contents)
  | .directory entries =>
      some (.directory (viewAll d links ((name, entries) :: trail) entries))
  | .link target =>
      match links with
      | 0 => none
      | more + 1 =>
          match d.linkStart? trail target with
          | none => none
          | some (start, path) =>
              match d.walk .look more start path with
              | .ok (.file _ _ contents _) => some (.file contents)
              | .ok (.directory found linksLeft) =>
                  some (.directory (viewAll d (min linksLeft more) found (d.entriesAt found)))
              | _ => none
termination_by e => (links, sizeOf e)

def viewAll (d : Disk) (links : Nat) (trail : Trail) :
    List (String × Entry) → List (String × Tree)
  | [] => []
  | (name, e) :: rest =>
      match view d links trail name e with
      | some tree => (name, tree) :: viewAll d links trail rest
      | none => viewAll d links trail rest
termination_by entries => (links, sizeOf entries)

end

/-- The steps of a path that may be walked; `none` for a path that is refused or leads outside. -/
def stepsBelow? (d : Disk) (path : String) : Option (List String) :=
  if (refusal? path).isSome then none else (d.below path).map stepsWithSlash

/-- The name of what a path leads to, free of links and dots; `none` where nothing is. -/
def canonical? (d : Disk) (path : String) : Option String :=
  match (d.stepsBelow? path).map (d.locate .look) with
  | some (.ok (.directory trail _)) => some (joinAll d.top trail.path)
  | some (.ok (.file trail name _ _)) => some (joinAll d.top (trail.path ++ [name]))
  | _ => none

/-- The directory at a path, by its canonical name, with its links replaced. -/
def directory? (d : Disk) (path : String) : Option (String × List (String × Tree)) :=
  match (d.stepsBelow? path).map d.locateDirectory with
  | some (.ok trail) =>
      some (joinAll d.top trail.path, d.viewAll linkLimit trail (d.entriesAt trail))
  | _ => none

mutual

/-- The regular files below a directory at `here`; links are not followed. -/
def filesIn (here : List String) : List (String × Entry) → List (List String × ByteArray)
  | [] => []
  | entry :: rest => filesOf here entry ++ filesIn here rest

def filesOf (here : List String) : String × Entry → List (List String × ByteArray)
  | (name, .file contents) => [(here ++ [name], contents)]
  | (_, .link _) => []
  | (name, .directory entries) => filesIn (here ++ [name]) entries

end

def files (d : Disk) : List (List String × ByteArray) :=
  filesIn [] d.entries

end Disk

/-- Makes a directory where it is missing and writes a file of the given name into it. The result
is the disk with what was made before a fault, and the path of the file or the fault on it. -/
def Disk.save (d : Disk) (directory name contents : String) : Disk × Except Failure String :=
  let path := join directory name
  let failed (fault : Fault) : Except Failure String := .error (.write path fault)
  match refusal? directory, d.below directory with
  | some fault, _ => (d, failed fault)
  | none, none => (d, failed .noEntry)
  | none, some inner =>
      match d.makeDirectories (steps inner) with
      | (grown, some fault) => (grown, failed fault)
      | (grown, none) =>
          if let some fault := refusal? path then (grown, failed fault)
          else
            match grown.writeFile (steps inner ++ [name]) contents.toUTF8 with
            | .ok written => (written, .ok path)
            | .error fault => (grown, failed fault)

end ScriptTypings.File
