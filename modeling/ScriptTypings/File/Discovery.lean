import ScriptTypings.Event
import ScriptTypings.File.Path
import ScriptTypings.File.Tree

/-! # Discovery of scripts

The scripts of a project are the files below its root whose name ends in `.gd`, in either case of
the letters, outside excluded directories. They are ordered by path, component by component. -/

namespace ScriptTypings.File

/-- The name of the directories that a pattern excludes: the last step of the pattern, divided by
slashes of both kinds. -/
def excludedName (pattern : String) : String :=
  let slashed := pattern.toList.map fun c => if c = '\\' then '/' else c
  let trimmed := slashed.reverse.dropWhile (· = '/')
  String.ofList (trimmed.takeWhile (· ≠ '/')).reverse

/-- Script names end in `.gd`. No letter outside ASCII has a lower case among `gd`. -/
def isScriptName (name : String) : Bool :=
  ".gd".toList.isSuffixOf (name.toList.map Char.toLower)

/-- A file of a project, by its path below the root. -/
structure FoundFile where
  path : List String
  contents : ByteArray
  deriving Inhabited

mutual

/-- The scripts of a directory at `here` that is not excluded, in listing order. -/
def scriptsIn (excluded : List String) (here : List String) :
    List (String × Tree) → List FoundFile
  | [] => []
  | entry :: rest => scriptsOf excluded here entry ++ scriptsIn excluded here rest

def scriptsOf (excluded : List String) (here : List String) : String × Tree → List FoundFile
  | (name, .file contents) =>
      if isScriptName name then [⟨here ++ [name], contents⟩] else []
  | (name, .directory entries) =>
      if excluded.contains name then [] else scriptsIn excluded (here ++ [name]) entries

end

/-- The scripts below a root, ordered by path. -/
def discover (patterns : List String) (entries : List (String × Tree)) : List FoundFile :=
  (scriptsIn (patterns.map excludedName) [] entries).mergeSort
    fun a b => pathLe a.path b.path

mutual

/-- What is reported below a directory: each subdirectory listed or excluded. -/
def walkLog (excluded : List String) (directory : String) : List (String × Tree) → List Event
  | [] => []
  | entry :: rest => entryLog excluded directory entry ++ walkLog excluded directory rest

def entryLog (excluded : List String) (directory : String) : String × Tree → List Event
  | (_, .file _) => []
  | (name, .directory entries) =>
      let path := join directory name
      if excluded.contains name then [.excluded path]
      else
        .walked path (entries.countP fun e => e.2.isDirectory) :: walkLog excluded path entries

end

def discoveryLog (root : String) (patterns : List String) (entries : List (String × Tree)) :
    List Event :=
  let excluded := (patterns.map excludedName).eraseDups
  .walking root excluded ::
    .walked root (entries.countP fun e => e.2.isDirectory) :: walkLog excluded root entries

end ScriptTypings.File
