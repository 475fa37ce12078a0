import HexEditor.Proofs.Stack.Run
import HexEditor.Proofs.View.Setup
import HexEditor.Window.Menu

/-!
# The open file of a session

Files are opened, dropped and closed, and the menus change the layout, in any order.
`Session.run_opened`: a source, its name and the stack panel are there all at once or not at all;
the panel has the view's width of addresses and shows the first bytes of the open file as they were
read; and a file that cannot be read changes nothing but the message.
-/

namespace HexEditor

/-- A call that leaves the source installed and the width of addresses as it is. -/
def Call.KeepsFile : Call σ → Prop
  | .install _ | .uninstall | .setLayout _ | .setAddressWidth _ => False
  | _ => True

theorem View.Setup.hasSource_arrange (s : View.Setup) (layout : Layout) :
    (s.arrange layout).hasSource = s.hasSource := by
  unfold arrange
  split <;> rfl

theorem View.Setup.width_arrange (s : View.Setup) {layout : Layout}
    (h : layout.addressWidth = s.layout.addressWidth) :
    (s.arrange layout).layout.addressWidth = s.layout.addressWidth := by
  unfold arrange
  split
  · exact h
  · rfl

theorem Call.KeepsFile.setup {c : Call σ} (hc : c.KeepsFile) (s : View.Setup) :
    (c.setup s).hasSource = s.hasSource ∧
    (c.setup s).layout.addressWidth = s.layout.addressWidth := by
  cases c with
  | install | uninstall | setLayout | setAddressWidth => exact hc.elim
  | setBytesPerRow | setBytesPerColumn | setColumnSpacing | setFlipBytes | setBaseAddress =>
    exact ⟨s.hasSource_arrange _, s.width_arrange rfl⟩
  | _ => exact ⟨rfl, rfl⟩

namespace Session

/-- What happens to a session. Each time the files may have changed. -/
inductive Action
  | openFile (folder : Folder) (path : String) (mode : OpenMode)
  | drop (folder : Folder) (path : String)
  | choose (folder : Folder) (picked : Option String) (item : MenuItem)
  | chooseContext (item : ContextItem)
  | submitGoto
  | install (name : String) (source : Source)
  | uninstall
  | processEvents
  | useView (c : Call Source)
  | useStack (op : StackTable.Op)
  | sourceChanges (change : Source → Source)
  /-- Everything around the view changes. -/
  | around (other : Session)

def act (s : Session) : Action → Session
  | .openFile folder path mode => s.openFile folder path mode
  | .drop folder path => s.openFile folder path .mapped
  | .choose folder picked item => (s.choose folder picked item).1
  | .chooseContext item => (s.chooseContext item).2
  | .submitGoto => s.submitGoto
  | .install name source => s.install name source
  | .uninstall => s.uninstall
  | .processEvents => s.processEvents
  | .useView c => { s with view := c.apply s.view }
  | .useStack op => { s with stack := s.stack.map (·.apply op) }
  | .sourceChanges change => { s with view := { s.view with source := s.view.source.map change } }
  | .around other => { other with view := s.view }

namespace Action

/-- The actions of a window, whose sources all are files. -/
def OfWindow : Action → Prop
  | .useView c => c.KeepsFile
  | .install _ _ | .uninstall | .around _ => False
  | _ => True

def file? : Action → Option (Folder × String)
  | .openFile folder path _ => some (folder, path)
  | .drop folder path => some (folder, path)
  | .choose folder picked (.openFile _) => picked.map (folder, ·)
  | _ => none

def closes : Action → Bool
  | .choose _ _ .close => true
  | _ => false

/-- The content of the open file, as it was read. A file that cannot be read leaves the one before
it open. -/
def content (before : Option Bytes) (a : Action) : Option Bytes :=
  match a.file? with
  | some (folder, path) =>
    match folder.read path with
    | .ok bytes => some bytes
    | .error _ => before
  | none => if a.closes then none else before

end Action

-- ---------------------------------------------------------------------------
-- Opening and closing
-- ---------------------------------------------------------------------------

theorem openSource_of_read (h : folder.read path = .ok bytes) (mode : OpenMode) :
    ∃ source, openSource folder path mode = .ok (bytes, source) := by
  obtain ⟨⟨name, content⟩, hfind, rfl⟩ := exists_of_map_ok h
  cases mode with
  | mapped => exact ⟨_, by rw [openSource, hfind]⟩
  | editable => exact ⟨_, by rw [openSource, h]⟩
  | remote => exact ⟨_, by rw [openSource, h]⟩

theorem openSource_of_unread (h : folder.read path = .error e) (mode : OpenMode) :
    ∃ why, openSource folder path mode = .error why := by
  cases mode with
  | mapped =>
    cases hfind : folder.find path with
    | ok found =>
      rw [Folder.read, hfind] at h
      cases h
    | error e =>
      rw [openSource, hfind]
      cases e <;> exact ⟨_, rfl⟩
  | editable => exact ⟨_, by rw [openSource, h]⟩
  | remote => exact ⟨_, by rw [openSource, h]⟩

theorem openFile_of_unread (s : Session) (h : folder.read path = .error e) (mode : OpenMode) :
    ∃ text, s.openFile folder path mode = { s with message := text } := by
  obtain ⟨why, hopen⟩ := openSource_of_unread h mode
  exact ⟨why.message, by rw [openFile, hopen]⟩

theorem act_of_unread (s : Session) {a : Action} (ha : a.file? = some (folder, path))
    (h : folder.read path = .error e) :
    ∃ text, s.act a = { s with message := text } := by
  unfold Action.file? at ha
  split at ha
  · cases ha
    exact s.openFile_of_unread h _
  · cases ha
    exact s.openFile_of_unread h _
  · obtain ⟨picked, rfl, hfile⟩ := Option.map_eq_some_iff.mp ha
    cases hfile
    exact s.openFile_of_unread h _
  · cases ha

def panel (s : Session) : Option (AddressWidth × WordStack) :=
  s.stack.map fun table => (table.addressWidth, table.model)

/-- The parts of a session that belong to its open file. -/
structure Coherent (s : Session) (content : Option Bytes) : Prop where
  source : s.view.setup.hasSource = content.isSome
  name : s.sourceName.isSome = content.isSome
  panel : s.panel = content.map fun bytes =>
    (s.view.layout.addressWidth, ⟨bytes.extract 0 stackLimit, s.view.layout.addressWidth.wordSize⟩)
  bytes : ∀ bytes ∈ content, s.stackBytes = bytes.extract 0 stackLimit

variable {s t : Session} {content : Option Bytes}

theorem Coherent.congr (h : s.Coherent content)
    (hsource : t.view.setup.hasSource = s.view.setup.hasSource)
    (hwidth : t.view.setup.layout.addressWidth = s.view.setup.layout.addressWidth)
    (hname : t.sourceName = s.sourceName) (hpanel : t.panel = s.panel)
    (hbytes : t.stackBytes = s.stackBytes) : t.Coherent content := by
  change t.view.layout.addressWidth = s.view.layout.addressWidth at hwidth
  refine ⟨hsource.trans h.source, hname ▸ h.name, ?_, hbytes ▸ h.bytes⟩
  rw [hpanel, hwidth]
  exact h.panel

theorem coherent_ofSettings (settings : Settings) : (ofSettings settings).Coherent none := by
  unfold ofSettings
  split
  next view hview =>
    refine ⟨?_, rfl, rfl, by simp⟩
    rw [View.ofSettings_ok hview]
    rfl
  next => exact ⟨rfl, rfl, rfl, by simp⟩

theorem coherent_openFile (s : Session) (h : folder.read path = .ok bytes) (mode : OpenMode) :
    (s.openFile folder path mode).Coherent (some bytes) := by
  obtain ⟨source, hopen⟩ := openSource_of_read h mode
  have hsetup : (s.view.install source).setup = { s.view.setup with hasSource := true } :=
    s.view.setup_resetWith (some source)
  rw [openFile, hopen]
  refine ⟨congrArg View.Setup.hasSource hsetup, rfl, rfl, ?_⟩
  rintro _ ⟨⟩
  rfl

theorem coherent_close (s : Session) : s.close.Coherent none :=
  ⟨congrArg View.Setup.hasSource (s.view.setup_resetWith none), rfl, rfl, by simp⟩

theorem coherent_rebuildStack {head : Bytes} (hsource : s.view.setup.hasSource = true)
    (hname : s.sourceName.isSome) (hbytes : s.stackBytes = head.extract 0 stackLimit) :
    s.rebuildStack.Coherent (some head) := by
  refine ⟨hsource, hname, ?_, ?_⟩
  · rw [Option.map_some, ← hbytes]
    rfl
  · rintro _ ⟨⟩
    exact hbytes

-- ---------------------------------------------------------------------------
-- Menus
-- ---------------------------------------------------------------------------

theorem Coherent.useView (h : s.Coherent content) {c : Call Source} (hc : c.KeepsFile) :
    Coherent { s with view := c.apply s.view } content := by
  obtain ⟨hsource, hwidth⟩ := hc.setup s.view.setup
  rw [← c.setup_apply] at hsource hwidth
  exact h.congr hsource hwidth rfl rfl rfl

theorem tryView_eq (s : Session) (r : Except Error (View Source)) :
    s.tryView r = { s with view := s.view.accept r } := by
  cases r <;> rfl

theorem Coherent.tryView (h : s.Coherent content) {c : Call Source} (hc : c.KeepsFile)
    (hr : c.apply s.view = s.view.accept r) : (s.tryView r).Coherent content := by
  rw [tryView_eq, ← hr]
  exact h.useView hc

theorem Coherent.setAddressWidth (h : s.Coherent content) (width : AddressWidth) :
    (s.setAddressWidth width).Coherent content := by
  have hsource : (s.view.accept (s.view.setAddressWidth width)).setup.hasSource =
    content.isSome := by
    rw [← h.source, View.setAddressWidth, View.setup_setLayout, View.Setup.hasSource_arrange]
  have hstack : s.stack.isSome = content.isSome := by
    simpa [Session.panel] using congrArg Option.isSome h.panel
  rw [Session.setAddressWidth, tryView_eq, hstack]
  cases content with
  | none => exact ⟨hsource, h.name, h.panel, by simp⟩
  | some head => exact coherent_rebuildStack hsource h.name (h.bytes head rfl)

theorem trySaveSettings_eq (s : Session) (folder : Folder) : (s.trySaveSettings folder).1 = s ∨
    (∃ saved, (s.trySaveSettings folder).1 = s.refresh saved) ∨
      ∃ text, (s.trySaveSettings folder).1 = { s with message := text } := by
  unfold trySaveSettings
  split
  · exact .inl rfl
  · split
    next saved hsaved =>
      unfold saveSettings at hsaved
      repeat' split at hsaved
      all_goals cases hsaved
      exact .inr (.inl ⟨_, rfl⟩)
    next => exact .inr (.inr ⟨_, rfl⟩)

theorem Coherent.refresh (h : s.Coherent content) (folder : Folder) :
    (s.refresh folder).Coherent content := by
  unfold Session.refresh
  split
  next m hs =>
    split
    · exact h.congr (by simp [View.setup, hs]) rfl rfl rfl rfl
    · exact h
  next => exact h

theorem Coherent.trySaveSettings (h : s.Coherent content) (folder : Folder) :
    (s.trySaveSettings folder).1.Coherent content := by
  obtain heq | ⟨saved, heq⟩ | ⟨text, heq⟩ := s.trySaveSettings_eq folder <;> rw [heq]
  · exact h
  · exact h.refresh saved
  · exact h.congr rfl rfl rfl rfl rfl

theorem Coherent.highlightSelection (h : s.Coherent content) :
    s.highlightSelection.Coherent content := by
  unfold Session.highlightSelection
  split
  next range _ =>
    exact h.tryView (c := .colorize 0 _) trivial rfl
  next => exact h

theorem Coherent.openFile (h : s.Coherent content) (folder : Folder) (path : String)
    (mode : OpenMode) :
    (s.openFile folder path mode).Coherent
    ((Action.openFile folder path mode).content content) := by
  cases hread : folder.read path with
  | ok bytes =>
    simp only [Action.content, Action.file?, hread]
    exact s.coherent_openFile hread mode
  | error e =>
    obtain ⟨text, hopen⟩ := s.openFile_of_unread hread mode
    simp only [Action.content, Action.file?, hread, hopen]
    exact h.congr rfl rfl rfl rfl rfl

theorem Coherent.choose (h : s.Coherent content) (folder : Folder) (picked : Option String)
    (item : MenuItem) :
    (s.choose folder picked item).1.Coherent
    ((Action.choose folder picked item).content content) := by
  cases item with
  | openFile mode =>
    cases picked with
    | none => exact h
    | some path => exact h.openFile folder path mode
  | close =>
    change (if s.hasSource then s.close else s).Coherent none
    split
    · exact s.coherent_close
    · rename_i hclosed
      have hnone : content = none := by
        cases content with
        | none => rfl
        | some bytes => exact absurd h.source hclosed
      exact hnone ▸ h
  | saveSettings => exact h.trySaveSettings folder
  | bytesPerRow n => exact h.tryView (c := .setBytesPerRow n) trivial rfl
  | bytesPerColumn n => exact h.tryView (c := .setBytesPerColumn n) trivial rfl
  | addressWidth width => exact h.setAddressWidth width
  | flipBytes => exact h.tryView (c := .setFlipBytes _) trivial rfl
  | byteClasses | stackPanel | goto => exact h.congr rfl rfl rfl rfl rfl
  | lockView => exact h.useView (c := .setEnabled _) trivial
  | highlightSelection => exact h.highlightSelection
  | clearHighlights =>
    exact h.tryView (c := .uncolorizeAll none) (r := s.view.uncolorizeAll none) trivial rfl

-- ---------------------------------------------------------------------------
-- Runs
-- ---------------------------------------------------------------------------

theorem Coherent.useStack (h : s.Coherent content) (op : StackTable.Op) :
    Coherent { s with stack := s.stack.map (·.apply op) } content := by
  refine h.congr rfl rfl rfl ?_ rfl
  unfold Session.panel
  rw [Option.map_map]
  refine congrArg (Option.map · s.stack) (funext fun table => ?_)
  obtain ⟨hmodel, hwidth⟩ := table.words_apply op
  simp only [Function.comp, hmodel, hwidth]

theorem Coherent.goto (h : s.Coherent content) (hgoto : s.view.goto address = .ok v) :
    Coherent { s with view := v } content := by
  have hsetup := s.view.setup_goto hgoto
  exact h.congr (congrArg View.Setup.hasSource hsetup)
    (congrArg (fun setup : View.Setup => setup.layout.addressWidth) hsetup) rfl rfl rfl

theorem Coherent.submitGoto (h : s.Coherent content) : s.submitGoto.Coherent content := by
  unfold Session.submitGoto
  split
  · exact h.congr rfl rfl rfl rfl rfl
  split
  next hgoto => exact (h.goto hgoto).congr rfl rfl rfl rfl rfl
  next => exact h.congr rfl rfl rfl rfl rfl

theorem Coherent.chooseContext (h : s.Coherent content) (item : ContextItem) :
    (s.chooseContext item).2.Coherent content := by
  unfold Session.chooseContext
  split
  · exact h
  · exact h
  split
  next hgoto => exact h.goto hgoto
  next => exact h.congr rfl rfl rfl rfl rfl

theorem Coherent.act (h : s.Coherent content) {a : Action} (ha : a.OfWindow) :
    (s.act a).Coherent (a.content content) := by
  cases a with
  | openFile folder path mode => exact h.openFile folder path mode
  | drop folder path => exact h.openFile folder path .mapped
  | choose folder picked item => exact h.choose folder picked item
  | chooseContext item => exact h.chooseContext item
  | submitGoto => exact h.submitGoto
  | install | uninstall | around => exact ha.elim
  | processEvents => exact (h.useView (c := .takeEvents) trivial).congr rfl rfl rfl rfl rfl
  | useView c => exact h.useView ha
  | useStack op => exact h.useStack op
  | sourceChanges change => exact h.congr Option.isSome_map rfl rfl rfl rfl

theorem Coherent.run (h : s.Coherent content) {actions : List Action}
    (hactions : ∀ a ∈ actions, a.OfWindow) :
    (actions.foldl Session.act s).Coherent (actions.foldl Action.content content) := by
  induction actions generalizing s content with
  | nil => exact h
  | cons a actions ih =>
    obtain ⟨ha, hactions⟩ := List.forall_mem_cons.mp hactions
    exact ih (h.act ha) hactions

/-- After any actions of a window a source, its name and the stack panel are there exactly if a file
is open. The panel has the width of addresses that the view has, and words of that size made of the
first bytes of the file as they were read. An action that is to open a file that cannot be read
changes nothing but the message. -/
theorem run_opened (settings : Settings) {actions : List Action}
    (hactions : ∀ a ∈ actions, a.OfWindow) :
    let s := actions.foldl act (ofSettings settings)
    let content := actions.foldl Action.content none
    s.hasSource = content.isSome ∧ s.sourceName.isSome = content.isSome ∧
      s.stack.isSome = content.isSome ∧
      (∀ table ∈ s.stack, ∃ bytes ∈ content,
        table.addressWidth = s.view.layout.addressWidth ∧
        table.model.wordSize = s.view.layout.addressWidth.wordSize ∧
        table.model.bytes = bytes.extract 0 (min 4096 bytes.size)) ∧
      ∀ a folder path e, Action.file? a = some (folder, path) → folder.read path = .error e →
        ∃ text, s.act a = { s with message := text } := by
  intro s content
  have h : s.Coherent content := (coherent_ofSettings settings).run hactions
  refine ⟨h.source, h.name, ?_, ?_, fun a folder path e => s.act_of_unread⟩
  · simpa [panel] using congrArg Option.isSome h.panel
  · intro table htable
    have hpanel := h.panel
    rw [panel, htable] at hpanel
    obtain ⟨bytes, hbytes, heq⟩ := Option.map_eq_some_iff.mp hpanel.symm
    obtain ⟨hwidth, hmodel⟩ := Prod.mk.inj heq
    have hhead : bytes.extract 0 stackLimit = bytes.extract 0 (min 4096 bytes.size) := by
      grind [stackLimit]
    exact ⟨bytes, hbytes, hwidth.symm, hmodel ▸ rfl, hmodel ▸ hhead⟩

/-- A file is closed, the addresses are made wider, another file is opened, and then one that cannot
be read. -/
theorem run_opened_again :
    let folder : Folder := ⟨[("a", #[1, 2, 3, 4, 5]), ("b", #[6, 7])]⟩
    let actions : List Action :=
      [.drop folder "a", .choose folder none .close, .choose folder none (.addressWidth .bits64),
        .openFile folder "b" .remote]
    let s := actions.foldl act (ofSettings {})
    let unreadable := Action.choose folder (some "") (.openFile .editable)
    unreadable.file? = some (folder, "") ∧ folder.read "" = .error .notFound ∧
      (∃ table ∈ s.stack, table.model = ⟨#[6, 7], 8⟩) ∧
      ∃ text, s.act unreadable = { s with message := text } := by
  intro folder actions s unreadable
  have hactions : ∀ a ∈ actions, a.OfWindow := by simp [actions, Action.OfWindow]
  obtain ⟨-, -, hstack, hpanel, hfailed⟩ := run_opened {} hactions
  have hcontent : actions.foldl Action.content none = some #[6, 7] := by rfl
  have hread : folder.read "" = .error .notFound := by rfl
  rw [hcontent] at hstack hpanel
  obtain ⟨table, htable⟩ := Option.isSome_iff_exists.mp hstack
  obtain ⟨bytes, hbytes, -, hsize, hwords⟩ := hpanel table htable
  cases hbytes
  refine ⟨rfl, hread, ⟨table, htable, ?_⟩, hfailed unreadable folder "" _ rfl hread⟩
  calc table.model
    _ = ⟨table.model.bytes, table.model.wordSize⟩ := rfl
    _ = ⟨#[6, 7], 8⟩ := by
      rw [hwords, hsize]
      rfl

end Session

end HexEditor
