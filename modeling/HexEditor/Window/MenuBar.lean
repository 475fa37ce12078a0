import HexEditor.Window.Basic

/-!
# The menu bar

A click on a menu shows its lines in front of everything; a second one, a press elsewhere or Escape
takes them away. While a menu is open the pointer changes to another one by moving there.
-/

namespace HexEditor

inductive MenuLine
  | item (item : MenuItem)
  | submenu (label : String)
  | rule
deriving DecidableEq, Repr

namespace MenuLine

def ofMenu : Nat → List MenuLine
  | 0 =>
    [.openFile .mapped, .openFile .editable, .openFile .remote].map item ++
    [rule, item .close, item .saveSettings]
  | 1 =>
    ["Bytes per row", "Bytes per column", "Address width"].map submenu
      ++ [item .flipBytes, rule, item .byteClasses, item .stackPanel, item .lockView]
  | _ => [item .goto, item .highlightSelection, item .clearHighlights]

def label : MenuLine → String
  | item i => i.path.getLastD ""
  | submenu label => label
  | rule => ""

def texts : MenuLine → List String
  | item i => [(item i).label]
  | submenu label => [label, "⏵"]
  | rule => []

def height : MenuLine → Rat
  | rule => 6
  | _ => 18

end MenuLine

/-- A menu stays open after an item that only switches something. -/
def MenuItem.closesMenu : MenuItem → Bool
  | flipBytes | byteClasses | stackPanel | lockView => false
  | _ => true

def MenuItem.menuIndex (item : MenuItem) : Nat :=
  bar.idxOf (item.path.headD "")

def Session.offers (s : Session) : MenuItem → Bool
  | .close => s.hasSource
  | .saveSettings => s.settingsPath.isSome
  | _ => true

namespace Window

def menuWidths : List Rat := [24, 31, 20]

def menuCharWidth : Rat := 19 / 3

def menuSpacing : Rat := 2

def menuRegion (index : Nat) : Region :=
  let left := (menuWidths.take index).foldl (· + · + spacing) margin
  .ofSize left barMargin (menuWidths.getD index 0) lineHeight

def lineRegions (left top width : Rat) : List MenuLine → List (MenuLine × Region)
  | [] => []
  | line :: rest =>
    (line, .ofSize left top width line.height) :: lineRegions left
      (top + line.height + lineSpacing) width rest

def menuLines (index : Nat) : List (MenuLine × Region) :=
  let menu := menuRegion index
  let lines := MenuLine.ofMenu index
  let longest := (lines.map (·.label.length)).foldl max 0
  lineRegions menu.across.first (menu.down.last + menuSpacing + frameMargin)
    (longest * menuCharWidth) lines

def popupRegion (index : Nat) : Region :=
  let lines := (menuLines index).map (·.2)
  let first := (menuRegion index).across.first
  let top := (menuRegion index).down.last + menuSpacing
  ⟨⟨first - frameMargin, lines.foldl (fun last r => larger last r.across.last) first + frameMargin⟩,
    ⟨top, lines.foldl (fun last r => larger last r.down.last) top + frameMargin⟩⟩

variable (w : Window)

/-- The menu that is open after a menu of the bar has seen the pointer. -/
def menuAfter (input : Input) (index : Nat) : Option Nat :=
  let clicked := w.clicked input (.menu index)
  let isOpen := w.openMenu = some index
  if clicked ∧ isOpen ∨ input.pressed .escape then none
  else if clicked ∨ w.touch.hovers (.menu index) ∧ w.openMenu.isSome then some index
  else if isOpen ∧ w.touch.pressed ∧
    ¬ w.touch.contact.any (decide <| (popupRegion index).Contains ·) then none
  else w.openMenu

def menuLine (input : Input) (menu line : Nat) (content : MenuLine) (region : Region) : Window :=
  let part := Part.entry menu line
  match content with
  | .rule => w
  | .submenu _ => w.add { part, region, layer := 2, clicks := true }
  | .item item =>
    let offered := w.session.offers item
    let w := w.add { part, region, layer := 2, clicks := offered }
    if offered && w.clicked input part then
      let (session, folder) := w.session.choose w.folder none item
      { w with session, folder, openMenu := if item.closesMenu then none else w.openMenu }
    else w

def menuPopup (input : Input) (index : Nat) : Window :=
  if index ∈ w.placedMenus then
    (menuLines index).zipIdx.foldl (fun w ((content, region), line) =>
      w.menuLine input index line content region)
      ({ w with overlayTexts := (MenuLine.ofMenu index).flatMap MenuLine.texts }.add
        { part := .popup, region := popupRegion index, layer := 2 })
  else { w with placedMenus := index :: w.placedMenus }

def menu (input : Input) (index : Nat) : Window :=
  let w := w.add { part := .menu index, region := menuRegion index, clicks := true }
  let w := { w with openMenu := w.menuAfter input index }
  if w.openMenu = some index then w.menuPopup input index else w

/-- A dropped file is opened, the menus act, and the status bar shows the outcome. -/
def bars (input : Input) : Window :=
  let w := w.setSession (input.drop.elim w.session (w.session.openFile w.folder · .mapped))
  let w := (List.range menuWidths.length).foldl (fun w index => w.menu input index)
    { w with overlayTexts := [] }
  let (session, folder) :=
    match input.menu with
    | some (item, picked) => w.session.choose w.folder picked item
    | none => (w.session, w.folder)
  let texts := MenuItem.bar ++ session.sourceName.toList ++ [session.message]
  { w with session, folder, texts }

end Window

end HexEditor
