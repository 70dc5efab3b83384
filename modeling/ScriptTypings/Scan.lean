import ScriptTypings.Declaration.Mapping
import ScriptTypings.Extraction
import ScriptTypings.File.Discovery
import ScriptTypings.Script.Parser
import ScriptTypings.Text.LineBreaks

/-! # Scanning a project

Every discovered file becomes a script with its class records or, if its bytes are no text, a
failure. A failure concerns its file alone. -/

namespace ScriptTypings

/-- A directory of scripts, by its name. -/
structure Project where
  root : String
  entries : List (String × File.Tree)
  deriving Inhabited

structure ScannedScript extends ScriptClasses where
  file : List String
  deriving DecidableEq, Inhabited

structure ScanFailure where
  file : List String
  cause : Failure
  deriving DecidableEq, Inhabited

/-- A reader of script texts, whose line breaks are normalized. -/
abbrev Reader := String → Script.Parsed

/-- The text of a file, if its bytes are UTF-8. -/
def fileText (contents : ByteArray) : Option String :=
  String.fromUTF8? contents

def scanText (read : Reader) (file : List String) (text : String) : ScannedScript where
  path := ⟨file.filter ResourcePath.isComponent⟩
  classes := (read (Text.normalize text)).root.classRecord.toList
  file := file

/-- The script of a file, or why it has none. -/
def scanFile (read : Reader) (root : String) (f : File.FoundFile) :
    Except ScanFailure ScannedScript :=
  match fileText f.contents with
  | none => .error ⟨f.path, .notText (File.joinAll root f.path)⟩
  | some text => .ok (scanText read f.path text)

/-- What is reported while one file is read. -/
def scanFileLog (read : Reader) (root : String) (f : File.FoundFile) : List Event :=
  match fileText f.contents with
  | none => []
  | some text =>
      let parsed := read (Text.normalize text)
      let script := scanText read f.path text
      let methods := (script.classes.flatMap ClassRecord.methods).length
      (if parsed.hasErrors then [.syntaxErrors (File.joinAll root f.path)] else []) ++
        parsed.root.extractionLog ++ [.scanned script.path script.classes.length methods]

structure ScanReport where
  scripts : List ScannedScript
  failures : List ScanFailure
  log : List Event
  deriving Inhabited

namespace ScanReport

/-- The classes of the scripts, for mapping. -/
def scriptClasses (r : ScanReport) : List ScriptClasses :=
  r.scripts.map ScannedScript.toScriptClasses

def classCount (r : ScanReport) : Nat :=
  (r.scripts.flatMap fun s => s.classes).length

end ScanReport

def skippedEvent (root : String) (f : ScanFailure) : Event :=
  .skipped (File.joinAll root f.file) f.cause

/-- Scans the found files of a root, in their order. -/
def scanFiles (read : Reader) (root : String) (found : List File.FoundFile) : ScanReport :=
  let outcomes := found.map (scanFile read root)
  let failures := outcomes.filterMap fun
    | .error f => some f
    | .ok _ => none
  { scripts := outcomes.filterMap Except.toOption
    failures := failures
    log := .found found.length root :: found.flatMap (scanFileLog read root) ++
      failures.map (skippedEvent root) }

/-- Scans the scripts of a project, whatever reads their texts. -/
def Project.scanWith (read : Reader) (p : Project) (patterns : List String) : ScanReport :=
  let report := scanFiles read p.root (File.discover patterns p.entries)
  { report with log := File.discoveryLog p.root patterns p.entries ++ report.log }

def Project.scan (p : Project) (patterns : List String) : ScanReport :=
  p.scanWith Script.parse patterns

/-- The report for a path that is no directory. -/
def emptyScan (root : String) : ScanReport :=
  scanFiles Script.parse root []

end ScriptTypings
