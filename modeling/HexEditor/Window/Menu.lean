import HexEditor.Session
import HexEditor.Text

/-!
# Menus

What the entries of the menu bar, of the grid's context menu and of the go-to dialog do to a
session. An entry is named by the labels that lead to it.
-/

namespace HexEditor

inductive MenuItem
  /-- Open the file that the file dialog returns, if any. -/
  | openFile (mode : OpenMode)
  | close
  | saveSettings
  | bytesPerRow (n : Nat)
  | bytesPerColumn (n : Nat)
  | addressWidth (width : AddressWidth)
  | flipBytes
  | byteClasses
  | stackPanel
  | lockView
  | goto
  | highlightSelection
  | clearHighlights
deriving DecidableEq, Repr

namespace MenuItem

def bar : List String := ["File", "View", "Go"]

def path : MenuItem → List String
  | openFile .mapped => ["File", "Open..."]
  | openFile .editable => ["File", "Open for editing..."]
  | openFile .remote => ["File", "Open as remote target..."]
  | close => ["File", "Close"]
  | saveSettings => ["File", "Save settings"]
  | bytesPerRow n => ["View", "Bytes per row", toString n]
  | bytesPerColumn n => ["View", "Bytes per column", toString n]
  | addressWidth .bits32 => ["View", "Address width", "32-bit"]
  | addressWidth .bits64 => ["View", "Address width", "64-bit"]
  | flipBytes => ["View", "Flip bytes"]
  | byteClasses => ["View", "Color by byte class"]
  | stackPanel => ["View", "Stack panel"]
  | lockView => ["View", "Lock view"]
  | goto => ["Go", "Go to offset...  Ctrl+G"]
  | highlightSelection => ["Go", "Highlight selection"]
  | clearHighlights => ["Go", "Clear highlights"]

def all : List MenuItem :=
  [openFile .mapped, openFile .editable, openFile .remote, close, saveSettings]
    ++ [8, 16, 32, 64].map bytesPerRow ++ [1, 2, 4, 8].map bytesPerColumn
    ++ [addressWidth .bits32, addressWidth .bits64, flipBytes, byteClasses, stackPanel, lockView,
      goto, highlightSelection, clearHighlights]

def ofPath? (labels : List String) : Option MenuItem :=
  all.find? (·.path = labels)

end MenuItem

def highlightColor : Color := ⟨255, 200, 120, 255⟩

namespace Session

variable (s : Session)

/-- The session with a changed view, or as it was if the change was refused. -/
def tryView (view : Except Error (View Source)) : Session :=
  match view with
  | .ok view => { s with view }
  | .error _ => s

def openGoto : Session :=
  { s with gotoOpen := true, gotoText := "", gotoError := none }

/-- A new width of addresses is also that of the stack panel's words. -/
def setAddressWidth (width : AddressWidth) : Session :=
  let session := s.tryView (s.view.setAddressWidth width)
  if s.stack.isSome then session.rebuildStack else session

def toggleByteClasses : Session :=
  let byteClasses := !s.byteClasses
  { s with byteClasses, view := s.view.setColormap (if byteClasses then some .classes else none) }

def highlightSelection : Session :=
  match s.view.selection.bytes? with
  | some range =>
    s.tryView (s.view.colorize 0 ⟨range.offset, range.length, none, some highlightColor⟩)
  | none => s

/-- Save the settings, if they have a file; a failure is shown as the message. -/
def trySaveSettings (folder : Folder) : Session × Folder :=
  if s.settingsPath.isNone then (s, folder)
  else
    match s.saveSettings folder with
    | .ok saved => saved
    | .error e => ({ s with message := e.message }, folder)

/-- Choose an item; `picked` is the answer of the file dialog. -/
def choose (folder : Folder) (picked : Option String) : MenuItem → Session × Folder
  | .openFile mode => (picked.elim s (s.openFile folder · mode), folder)
  | .close => (if s.hasSource then s.close else s, folder)
  | .saveSettings => s.trySaveSettings folder
  | .bytesPerRow n => (s.tryView (s.view.setBytesPerRow n), folder)
  | .bytesPerColumn n => (s.tryView (s.view.setBytesPerColumn n), folder)
  | .addressWidth width => (s.setAddressWidth width, folder)
  | .flipBytes => (s.tryView (s.view.setFlipBytes !s.view.layout.flipBytes), folder)
  | .byteClasses => (s.toggleByteClasses, folder)
  | .stackPanel => ({ s with showStack := !s.showStack }, folder)
  | .lockView => ({ s with view := s.view.setEnabled !s.view.enabled }, folder)
  | .goto => (s.openGoto, folder)
  | .highlightSelection => (s.highlightSelection, folder)
  | .clearHighlights => (s.tryView (s.view.uncolorizeAll none), folder)

-- ---------------------------------------------------------------------------
-- The go-to dialog
-- ---------------------------------------------------------------------------

/-- Go to the address in the field. The dialog closes if there is such an address and else says why
not. -/
def submitGoto : Session :=
  match Address.parse? s.gotoText with
  | none => { s with gotoError := some "Not a number" }
  | some address =>
    match s.view.goto address with
    | .ok view => { s with view, gotoOpen := false }
    | .error e => { s with gotoError := some e.message }

def gotoTexts : List String :=
  ["Enter hex address (e.g. 0x401000 or 401000):", s.gotoText] ++ s.gotoError.toList
    ++ ["Go", "Cancel", "Go to offset"]

end Session

-- ---------------------------------------------------------------------------
-- The context menu
-- ---------------------------------------------------------------------------

inductive ContextItem
  | copyAddress
  | goto
deriving DecidableEq, Repr

def ContextItem.label : ContextItem → String
  | copyAddress => "Copy address"
  | goto => "Go to"

def ContextItem.ofLabel? (label : String) : Option ContextItem :=
  [copyAddress, goto].find? (·.label = label)

namespace Session

variable (s : Session)

def contextAddress? : Option String :=
  s.contextOffset.map s.view.layout.formatAddress

def contextLabels : List String :=
  match s.contextAddress? with
  | none => ["No byte under the pointer"]
  | some address => ["Offset " ++ address, ContextItem.copyAddress.label, ContextItem.goto.label]

/-- Choose an entry of the context menu; the answer is the text that is copied, if any. -/
def chooseContext (item : ContextItem) : Option String × Session :=
  match item, s.contextOffset with
  | _, none => (none, s)
  | .copyAddress, some offset => (some (s.view.layout.formatAddress offset), s)
  | .goto, some offset =>
    match s.view.goto (s.view.layout.addressOf offset) with
    | .ok view => (none, { s with view })
    | .error e => (none, { s with message := e.message })

end Session

end HexEditor
