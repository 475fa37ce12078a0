import HexEditor.Folder

/-!
# Files that were written

A path leads to the same file for reading and for writing, whatever the folder holds. So a file that
was written is read back with its new content, and a file that can be read can be written.
-/

namespace HexEditor.Folder

variable {folder other : Folder} {path name : String} {bytes : Bytes}

-- The folder and the access decide only which error a path ends with.
theorem follow_file {directory : Directory} {parts : List String}
    (h : folder.follow a slash directory parts = .ok (.file name)) (other : Folder) (b : Access) :
    other.follow b slash directory parts = .ok (.file name) := by
  induction parts generalizing directory with
  | nil => cases h
  | cons part rest ih =>
    unfold follow at h ⊢
    grind

theorem locate_file (h : folder.locate a path = .ok (.file name)) (b : Access)
    (hkept : folder.hasFile .working path → other.hasFile .working path)
    (hadded : other.hasFile .working path → folder.hasFile .working path ∨ path = name) :
    other.locate b path = .ok (.file name) := by
  unfold locate at h ⊢
  grind [follow_file]

def put (folder : Folder) (name : String) (bytes : Bytes) : Folder :=
  ⟨(name, bytes) :: folder.files.filter (·.1 ≠ name)⟩

theorem content?_put (folder : Folder) (name : String) (bytes : Bytes) (p : String) :
    (folder.put name bytes).content? p = if p = name then some bytes else folder.content? p := by
  have hother (hp : p ≠ name) (files : List (String × Bytes)) :
      (files.filter (·.1 ≠ name)).lookup p = files.lookup p := by
    induction files with
    | nil => rfl
    | cons file files ih => grind
  by_cases hp : p = name
  · simp [put, content?, hp]
  · rw [if_neg hp, put, content?, List.lookup_cons, beq_false_of_ne hp]
    exact hother hp folder.files

theorem write_eq_ok : folder.write path bytes = .ok other ↔
    ∃ name, folder.locate .write path = .ok (.file name) ∧ other = folder.put name bytes := by
  unfold write
  cases folder.locate .write path with
  | error e => simp [bind, Except.bind]
  | ok place =>
    cases place with
    | directory => simp [bind, Except.bind, throw, throwThe, MonadExceptOf.throw]
    | file name => simp [bind, Except.bind, pure, Except.pure, put, eq_comm]

theorem read_eq_ok : folder.read path = .ok bytes ↔
    ∃ name, folder.locate .read path = .ok (.file name) ∧ folder.content? name = some bytes := by
  unfold read find
  cases folder.locate .read path with
  | error e => simp [bind, Except.bind, Functor.map, Except.map]
  | ok place =>
    cases place with
    | directory =>
      simp [bind, Except.bind, Functor.map, Except.map, throw, throwThe, MonadExceptOf.throw]
    | file name =>
      cases h : folder.content? name with
      | none =>
        simp [bind, Except.bind, Functor.map, Except.map, throw, throwThe, MonadExceptOf.throw, h]
      | some found => simp [bind, Except.bind, Functor.map, Except.map, pure, Except.pure, h]

theorem read_of_write (h : folder.write path bytes = .ok other) : other.read path = .ok bytes := by
  obtain ⟨name, hlocate, rfl⟩ := write_eq_ok.mp h
  refine read_eq_ok.mpr ⟨name, locate_file hlocate .read ?_ ?_, by simp [content?_put]⟩
  · simp only [hasFile, content?_put]
    grind
  · simp only [hasFile, content?_put]
    grind

theorem exists_write_of_read (h : folder.read path = .ok old) (bytes : Bytes) :
    ∃ other, folder.write path bytes = .ok other := by
  obtain ⟨name, hlocate, -⟩ := read_eq_ok.mp h
  exact ⟨_, write_eq_ok.mpr ⟨name, locate_file hlocate .write id .inl, rfl⟩⟩

end HexEditor.Folder
