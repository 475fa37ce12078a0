import HexEditor.Window.Basic

/-!
# The go-to dialog

A field for an address and two buttons, in the middle of the window and in front of everything. The
first frame only finds its place.
-/

namespace HexEditor

namespace Window

def dialogWidth : Rat := 300

def textHeight : Rat := 72 / 5

def titleHeight : Rat := 198 / 5

def fieldHeight : Rat := textHeight + 4

def fieldCharWidth : Rat := 7

def goWidth : Rat := 24

def cancelWidth : Rat := 46

variable (w : Window)

def dialogHeight : Rat :=
  let lines :=
    titleHeight + textHeight + lineSpacing + fieldHeight + lineSpacing + lineHeight + frameMargin
  if w.session.gotoError.isSome then lines + textHeight + lineSpacing else lines

def dialogRegion : Region :=
  .ofSize ((w.screenWidth - dialogWidth) / 2)
    ((w.screenHeight - w.dialogHeight) / 2) dialogWidth w.dialogHeight

def fieldRegion : Region :=
  let dialog := w.dialogRegion
  .ofSize (dialog.across.first + frameMargin)
    (dialog.down.first + titleHeight + textHeight + lineSpacing)
    (dialogWidth - 2 * frameMargin) fieldHeight

def buttonRegion (left width : Rat) : Region :=
  let dialog := w.dialogRegion
  .ofSize (dialog.across.first + frameMargin + left)
    (dialog.down.last - frameMargin - lineHeight) width lineHeight

def titleRegion : Region :=
  let dialog := w.dialogRegion
  ⟨dialog.across.inset 32, ⟨dialog.down.first, dialog.down.first + titleHeight - frameMargin⟩⟩

def fieldPosition (p : Point) : Nat :=
  let place := (p.x - w.fieldRegion.across.first - 4) / fieldCharWidth
  min (roundAway (larger 0 place)).toNat w.session.gotoText.length

def fieldPointer : Window :=
  match w.touch.contactOn .field with
  | some p =>
    let caret := (w.caret.getD (.alone w.session.gotoText.length)).within w.session.gotoText.length
    if w.touch.pressed ∧ w.touch.hovers .field then
      { w.requestFocus .field with caret := some (.alone (w.fieldPosition p)) }
    else if w.touch.drags .field then
      { w.requestFocus .field with caret := some (caret.moveTo (w.fieldPosition p) true) }
    else if w.touch.clicked = some .field then w.requestFocus .field
    else w
  | none => w

/-- Text and keys for the field. It keeps the arrow keys to itself; Enter lets the keyboard go. -/
def fieldKeyboard (input : Input) : Window :=
  if w.hasFocus .field then
    let kept := { w with focus := w.focus.keep .field { horizontal := true, vertical := true } }
    let text := w.session.gotoText
    let caret := (w.caret.getD (.alone text.length)).within text.length
    let (text, caret) := caret.insert text input.text
    let (text, caret) := input.key.elim (text, caret) (caret.press text)
    let ends := input.key.any fun k => k.key = .enter ∧ ¬ k.command
    { kept with
      session := { w.session with gotoText := text }
      caret := some caret
      focus := if ends then kept.focus.surrender .field else kept.focus }
  else w

/-- The field of one frame. When it is empty it takes the keyboard. -/
def field (input : Input) : Window :=
  let w := w.add { part := .field, region := w.fieldRegion, layer := 1, clicks := true,
                   drags := true }
  let w := w.fieldPointer.fieldKeyboard input
  if w.focus.gained .field ∨ w.session.gotoText.isEmpty then w.requestFocus .field else w

/-- The line for an error, when it comes or goes, takes the keyboard from the buttons below it. -/
def errorLine : Window :=
  let shown := w.session.gotoError.isSome
  if shown = w.errorShown then w
  else
    let focus := (w.focus.surrender .goButton).surrender .cancelButton
    { w with errorShown := shown, focus }

def dialogButtons (input : Input) : Window :=
  let entered := w.focus.lost .field && input.pressed .enter
  let w := w.add { part := .goButton, region := w.buttonRegion 0 goWidth, layer := 1,
                   clicks := true }
  let goes := w.clicked input .goButton || input.dialog = some .go || entered
  let place := w.buttonRegion (goWidth + spacing) cancelWidth
  let w := if goes then w.setSession w.session.submitGoto else w
  let w := w.add { part := .cancelButton, region := place, layer := 1, clicks := true }
  let closes :=
    w.clicked input .cancelButton || input.dialog = some .cancel || input.pressed .escape
  if closes then w.setSession { w.session with gotoOpen := false } else w

/-- The frame in which the dialog finds its place. Nothing of it can be used yet, but an empty field
gets the keyboard. -/
def placeDialog (input : Input) : Window :=
  let center := Region.ofSize (w.screenWidth / 2) (w.screenHeight / 2) 0 0
  let w := w.add { part := .dialog, region := center, layer := 1, clicks := true }
  let w := { w with focus := w.focus.surrender .field, dialogPlaced := true }
  let w := if w.session.gotoText.isEmpty then w.requestFocus .field else w
  let w := if input.dialog = some .go then w.setSession w.session.submitGoto else w
  if input.dialog = some .cancel ∨
    input.pressed .escape then w.setSession { w.session with gotoOpen := false } else w

def gotoDialog (input : Input) : Window :=
  if w.session.gotoOpen then
    if w.dialogPlaced then
      let title : Target := { part := .title, region := w.titleRegion, layer := 1, clicks := true }
      let w := w.add { part := .dialog, region := w.dialogRegion, layer := 1, clicks := true }
      let w := (w.field input).errorLine
      let w := { w with texts := w.texts ++ w.session.gotoTexts }
      (w.dialogButtons input).add title
    else w.placeDialog input
  else w

end Window

end HexEditor
