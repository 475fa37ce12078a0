import HexEditor.Settings
import HexEditor.Source
import HexEditor.Stack
import HexEditor.Text.Quoted
import HexEditor.View

/-!
# A session

The view with everything around it: the open file and its name, the stack panel, the status message,
the go-to dialog and the settings file. Opening a file that cannot be read changes nothing but the
message.

A command line is `[FILE] [--config PATH]`, in any order. The last `--config` counts.
-/

namespace HexEditor

-- ---------------------------------------------------------------------------
-- The command line
-- ---------------------------------------------------------------------------

structure Arguments where
  file : Option String := none
  config : Option String := none
deriving DecidableEq, Repr, Inhabited

inductive ArgumentError
  | missingConfigPath
  | unexpected (argument : String)
deriving DecidableEq, Repr

def ArgumentError.message : ArgumentError → String
  | missingConfigPath => "--config needs a path"
  | unexpected argument => "unexpected argument " ++ Text.quoted argument

def ArgumentError.report (e : ArgumentError) : String :=
  "hexlens: " ++ e.message ++ "\n"

def ArgumentError.exitCode : Nat := 2

def Arguments.parseAfter (read : Arguments) : List String → Except ArgumentError Arguments
  | [] => .ok read
  | ["--config"] => .error .missingConfigPath
  | "--config" :: path :: rest => parseAfter { read with config := some path } rest
  | argument :: rest =>
    if read.file.isNone then parseAfter { read with file := some argument } rest
    else .error (.unexpected argument)

def Arguments.parse (arguments : List String) : Except ArgumentError Arguments :=
  parseAfter {} arguments

-- ---------------------------------------------------------------------------
-- Sessions
-- ---------------------------------------------------------------------------

inductive OpenMode
  /-- Read-only, mapped into memory. -/
  | mapped
  /-- A copy in memory that accepts edits. -/
  | editable
  /-- An editable copy that arrives page by page, like a remote target. -/
  | remote
deriving DecidableEq, Repr

inductive OpenError
  | noAccess (path : String) (e : FileError)
  | noMapping (path : String) (e : FileError)
  | noContent (path : String) (e : FileError)
deriving DecidableEq, Repr

def OpenError.message : OpenError → String
  | noAccess path e => "failed to open " ++ path ++ ": " ++ e.message
  | noMapping path e => "failed to mmap " ++ path ++ ": " ++ e.message
  | noContent path e => "failed to read " ++ path ++ ": " ++ e.message

inductive SaveError
  | noFile
  | write (path : String) (e : FileError)
deriving DecidableEq, Repr

def SaveError.message : SaveError → String
  | noFile => "no config file was loaded"
  | write path e => "failed to write config " ++ path ++ ": " ++ e.message

structure Session where
  view : View Source := {}
  stack : Option (StackTable WordStack) := none
  /-- Name of the open file. -/
  sourceName : Option String := none
  /-- Where the settings came from and are saved to. -/
  settingsPath : Option String := none
  gotoOpen : Bool := false
  gotoText : String := ""
  gotoError : Option String := none
  /-- Offset under the pointer when the context menu was opened. -/
  contextOffset : Option Nat := none
  message : String := ""
  showStack : Bool := false
  byteClasses : Bool := false
  /-- First bytes of the open file, for the stack panel. -/
  stackBytes : Bytes := #[]

namespace Session

def stackLimit : Nat := 4096

def title : String := "HexLens"

def windowSize : Nat × Nat := (1100, 720)

/-- A session with given settings; invalid ones are replaced by the defaults. -/
def ofSettings (settings : Settings) : Session :=
  match View.ofSettings settings with
  | .ok view => { view }
  | .error _ => {}

variable (s : Session)

def hasSource : Bool :=
  s.view.source.isSome

def install (name : String) (source : Source) : Session :=
  { s with
    message := name ++ " (" ++ toString (ByteSource.length source) ++ " bytes)"
    sourceName := some name
    gotoOpen := false
    contextOffset := none
    view := s.view.install source }

def uninstall : Session :=
  { s with view := s.view.uninstall, sourceName := none, message := "" }

def rebuildStack : Session :=
  let addressWidth := s.view.layout.addressWidth
  { s with
    stack := some {
      model := ⟨s.stackBytes, addressWidth.wordSize⟩
      addressWidth
      poller := { interval := s.view.poller.interval } } }

def openSource (folder : Folder) (path : String) : OpenMode → Except OpenError (Bytes × Source)
  | .mapped =>
    match folder.find path with
    | .ok (name, bytes) => .ok (bytes, .mapped { bytes, file := some name })
    | .error .isDirectory => .error (.noMapping path .noDevice)
    | .error e => .error (.noAccess path e)
  | .editable =>
    match folder.read path with
    | .ok bytes => .ok (bytes, .memory { bytes, editable := true })
    | .error e => .error (.noContent path e)
  | .remote =>
    match folder.read path with
    | .ok bytes => .ok (bytes, .paged { inner := { bytes, editable := true }, latency := some 2 })
    | .error e => .error (.noContent path e)

def openFile (folder : Folder) (path : String) (mode : OpenMode) : Session :=
  match openSource folder path mode with
  | .ok (bytes, source) =>
    let installed := s.install (Folder.baseName path) source
    { installed with stackBytes := bytes.extract 0 stackLimit }.rebuildStack
  | .error e => { s with message := e.message }

def close : Session :=
  { s.uninstall with stack := none, stackBytes := #[] }

def selectionSummary : String :=
  let caret := s.view.layout.formatAddress s.view.caretOffset
  match s.view.selection.bytes? with
  | some range => caret ++ "  selected " ++ toString range.length ++ " bytes"
  | none => caret

def eventMessage? : Event → Option String
  | .statusChanged .undefined => some "Waiting for data..."
  | .statusChanged .defined => some s.selectionSummary
  | .selectionChanged _ _ => some s.selectionSummary
  | .dataChanged => none
  | .layoutChanged => none
  | .repaintRequested => none

/-- Take the events of the view; the message is that of the last one that brings any. -/
def processEvents : Session :=
  let (events, view) := s.view.takeEvents
  { s with view, message := (events.filterMap s.eventMessage?).getLast?.getD s.message }

/-- A mapped file is seen as the folder has it; other sources are copies. -/
def refresh (folder : Folder) : Session :=
  match s.view.source with
  | some (.mapped m) =>
    match m.file.bind folder.content? with
    | some content => { s with view := { s.view with source := some (.mapped (m.follow content)) } }
    | none => s
  | _ => s

/-- Write the settings to their file, which may be the one that is open. -/
def saveSettings (folder : Folder) : Except SaveError (Session × Folder) :=
  match s.settingsPath with
  | none => .error .noFile
  | some path =>
    match s.view.settings.save folder path with
    | .ok folder => .ok (s.refresh folder, folder)
    | .error e => .error (.write path e)

/-- The session that a command line starts. A settings file that cannot be loaded is as good as
none. -/
def start (folder : Folder) (arguments : Arguments) : Session :=
  let settings :=
    match arguments.config.map (Settings.load folder) with
    | some (.ok settings) => settings
    | _ => {}
  let session := { ofSettings settings with settingsPath := arguments.config }
  match arguments.file with
  | some path => session.openFile folder path .mapped
  | none => session

end Session

end HexEditor
