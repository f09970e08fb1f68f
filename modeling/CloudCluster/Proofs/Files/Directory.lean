import CloudCluster.Proofs.Files.Tree

/-!
The names in a directory.

In a directory that is there (`Opens`), the files are a map from names to
entries, whatever the path of the directory looks like. `status_join_iff` says
when there is something under a name, `writeBytes_join` what a write changes,
and `status_insert_of_ne` that it changes nothing under other names.
-/

namespace CloudCluster.Files

theorem Fault.isNotFound_iff {fault : Fault} :
    fault.isNotFound = true ↔ fault = .system .notFound := by
  cases fault with
  | system error => cases error <;> simp [isNotFound]
  | _ => simp [isNotFound]

/-- A name that stands for an entry of a directory, and for no step along it. -/
structure IsName (name : String) : Prop where
  slashless : '/' ∉ name.toList
  nonempty : name ≠ ""
  ne_dot : name ≠ "."
  ne_dots : name ≠ ".."

namespace Tree

/-- A path leads to a place, where there is a directory. -/
structure Opens (tree : Tree) (dir : Path) (place : Place) : Prop where
  leads : tree.goAll (tree.start dir) dir.pieces = .ok place
  directory : ∃ mode, tree.find? place = some (.directory mode)

/-- Whether a name may be used in a directory, whatever is there: it can be too
long by itself or with the path before it. -/
def admits (dir : Path) (name : String) : Except Fault Unit := do
  let _ ← steps (Path.join dir name)
  if maxName < name.utf8ByteSize then throw (.system .nameTooLong)

variable {tree later : Tree} {dir : Path} {place : Place} {name : String}

/-! ### Places of names -/

theorem start_join (tree : Tree) (dir : Path) (isName : IsName name) :
    tree.start (Path.join dir name) = tree.start dir := by
  simp [start, Path.isAbsolute_join dir isName.slashless]

theorem steps_eq_ok {path : Path} {names : List String} (taken : steps path = .ok names) :
    names = path.pieces := by
  unfold steps at taken
  split at taken
  · cases taken
  · split at taken
    · cases taken
    · split at taken
      · cases taken
      · exact (Except.ok.inj taken).symm

/-- A joined name is gone to from where the directory's path leads. -/
theorem goAll_join (tree : Tree) (place : Place) (dir : Path) (isName : IsName name) :
    tree.goAll place (Path.join dir name).pieces =
      tree.goAll place dir.pieces >>= (tree.go · name) := by
  obtain ⟨above, joined, names | names⟩ := Path.pieces_join dir isName.slashless
  · rw [joined, names, goAll_concat]
  · rw [joined, names, goAll_concat, goAll_concat]
    cases tree.goAll place above with
    | error e => rfl
    | ok next => exact (go_empty_bind tree next name).symm

theorem go_of_directory {mode : Nat} (found : tree.find? place = some (.directory mode))
    (isName : IsName name) :
    tree.go place name =
      if maxName < name.utf8ByteSize then .error .nameTooLong else .ok (place ++ [name]) := by
  simp [go, found, isName.nonempty, isName.ne_dot, isName.ne_dots]

/-- The place of a joined name is a step from where the directory's path leads. -/
theorem locate_join (tree : Tree) (dir : Path) (isName : IsName name) :
    tree.locate (Path.join dir name) = steps (Path.join dir name) >>= fun _ =>
      (tree.goAll (tree.start dir) dir.pieces >>= (tree.go · name)).mapError .system := by
  unfold locate
  cases taken : steps (Path.join dir name) with
  | error fault => rfl
  | ok names =>
      rw [steps_eq_ok taken, start_join tree dir isName]
      exact congrArg (Except.mapError Fault.system) (goAll_join tree _ dir isName)

/-- The place of a name in a directory that is there. -/
theorem locate_of_opens (opens : tree.Opens dir place) (isName : IsName name) :
    tree.locate (Path.join dir name) = admits dir name >>= fun _ => .ok (place ++ [name]) := by
  obtain ⟨mode, found⟩ := opens.directory
  rw [locate_join tree dir isName, opens.leads, admits]
  change (steps _ >>= fun _ => (tree.go place name).mapError _) = _
  rw [go_of_directory found isName]
  cases steps (Path.join dir name) with
  | error fault => rfl
  | ok names =>
      by_cases long : maxName < name.utf8ByteSize
      · simp only [if_pos long]
        rfl
      · simp only [if_neg long]
        rfl

/-- What has a place under a name is in a directory. -/
theorem opens_of_locate (isName : IsName name) {goal : Place}
    (located : tree.locate (Path.join dir name) = .ok goal) :
    ∃ place, tree.Opens dir place := by
  rw [locate_join tree dir isName] at located
  obtain ⟨names, _, went⟩ := bind_eq_ok.mp located
  obtain ⟨place, leads, last⟩ := bind_eq_ok.mp (mapError_eq_ok.mp went)
  exact ⟨place, leads, directory_of_go last⟩

/-- A path leads where it led before, if the tree has grown. -/
theorem Extends.locate (grown : tree.Extends later) {path : Path} {goal : Place}
    (located : tree.locate path = .ok goal) : later.locate path = .ok goal := by
  obtain ⟨names, taken, went⟩ := bind_eq_ok.mp located
  have start : later.start path = tree.start path := by
    rw [Tree.start, Tree.start, grown.workingDirectory]
  refine bind_eq_ok.mpr ⟨names, taken, mapError_eq_ok.mpr ?_⟩
  rw [start]
  exact grown.goAll (mapError_eq_ok.mp went)

theorem Opens.of_extends (opens : tree.Opens dir place) (grown : tree.Extends later) :
    later.Opens dir place where
  leads := by
    have start : later.start dir = tree.start dir := by simp [Tree.start, grown.workingDirectory]
    rw [start]
    exact grown.goAll opens.leads
  directory := by
    obtain ⟨mode, found⟩ := opens.directory
    exact ⟨mode, grown.directory _ _ found⟩

/-! ### Entries -/

theorem status_of_opens (opens : tree.Opens dir place) (isName : IsName name) :
    tree.status (Path.join dir name) = admits dir name >>= fun _ =>
      match tree.find? (place ++ [name]) with
      | some entry => .ok entry
      | none => .error (.system .notFound) := by
  unfold status
  rw [locate_of_opens opens isName]
  cases admits dir name <;> rfl

/-- There is an entry under a name iff the directory is there, the name may be
used, and the tree has the entry. -/
theorem status_join_iff (isName : IsName name) {entry : Entry} :
    tree.status (Path.join dir name) = .ok entry ↔
      ∃ place, tree.Opens dir place ∧ admits dir name = .ok () ∧
        tree.find? (place ++ [name]) = some entry := by
  constructor
  · intro found
    obtain ⟨goal, located, _⟩ := bind_eq_ok.mp found
    obtain ⟨place, opens⟩ := opens_of_locate isName located
    rw [status_of_opens opens isName] at found
    obtain ⟨_, admitted, here⟩ := bind_eq_ok.mp found
    refine ⟨place, opens, admitted, ?_⟩
    split at here
    · next _ there => exact there.trans (congrArg some (Except.ok.inj here))
    · cases here
  · rintro ⟨place, opens, admitted, found⟩
    rw [status_of_opens opens isName, admitted, found]
    rfl

/-- What is put under another name changes nothing under a name. -/
theorem status_insert_of_ne (opens : tree.Opens dir place) (isName : IsName name) {other : String}
    (apart : name ≠ other) {entry : Entry}
    (grown : tree.Extends (tree.insert (place ++ [other]) entry)) :
    (tree.insert (place ++ [other]) entry).status (Path.join dir name) =
      tree.status (Path.join dir name) := by
  have elsewhere : place ++ [name] ≠ place ++ [other] := fun same =>
    apart (List.append_singleton_inj.mp same).2
  rw [status_of_opens (opens.of_extends grown) isName, status_of_opens opens isName,
    find?_insert_of_ne tree elsewhere]

/-- What is put under a name is found there. -/
theorem status_insert_self (opens : tree.Opens dir place) (isName : IsName name)
    (admitted : admits dir name = .ok ()) {entry : Entry}
    (grown : tree.Extends (tree.insert (place ++ [name]) entry)) :
    (tree.insert (place ++ [name]) entry).status (Path.join dir name) = .ok entry :=
  (status_join_iff isName).mpr ⟨place, opens.of_extends grown, admitted,
    find?_insert_self tree (by simp) entry⟩

/-- An entry remains in a tree that has grown, a file with any contents. -/
theorem Extends.status (grown : tree.Extends later) (isName : IsName name) {entry : Entry}
    (found : tree.status (Path.join dir name) = .ok entry) :
    ∃ entry', later.status (Path.join dir name) = .ok entry' ∧
      entry'.isDirectory = entry.isDirectory := by
  obtain ⟨place, opens, admitted, here⟩ := (status_join_iff isName).mp found
  have there {entry' : Entry} (found' : later.find? (place ++ [name]) = some entry') :
      later.status (Path.join dir name) = .ok entry' :=
    (status_join_iff isName).mpr ⟨place, opens.of_extends grown, admitted, found'⟩
  cases entry with
  | file bytes mode =>
      obtain ⟨bytes', found'⟩ := grown.file _ _ _ here
      exact ⟨_, there found', rfl⟩
  | directory mode => exact ⟨_, there (grown.directory _ _ here), rfl⟩

/-! ### Contents -/

theorem readText_of_missing {path : Path} {fault : Fault}
    (missing : tree.status path = .error fault) : tree.readText path = .error fault := by
  simp only [readText, readBytes, missing]
  rfl

/-- A text is not found only where nothing is. -/
theorem missing_of_readText {path : Path}
    (unread : tree.readText path = .error (.system .notFound)) :
    tree.status path = .error (.system .notFound) := by
  cases found : tree.status path with
  | error fault =>
      rw [readText_of_missing found] at unread
      exact congrArg Except.error (Except.error.inj unread)
  | ok entry =>
      simp only [readText, readBytes, found, bind, Except.bind] at unread
      cases entry with
      | directory mode => cases unread
      | file bytes mode =>
          dsimp only [pure, Except.pure] at unread
          split at unread <;> cases unread

theorem readBytes_of_status {path : Path} {bytes : ByteArray} {mode : Nat}
    (found : tree.status path = .ok (.file bytes mode)) : tree.readBytes path = .ok bytes := by
  simp [readBytes, found, bind, Except.bind, pure, Except.pure]

theorem status_of_readBytes {path : Path} {bytes : ByteArray}
    (read : tree.readBytes path = .ok bytes) :
    ∃ mode, tree.status path = .ok (.file bytes mode) := by
  obtain ⟨entry, found, contents⟩ := bind_eq_ok.mp read
  cases entry with
  | file bytes' mode => cases contents; exact ⟨mode, found⟩
  | directory mode => cases contents

theorem status_of_readText {path : Path} {text : String} (read : tree.readText path = .ok text) :
    ∃ bytes mode, tree.status path = .ok (.file bytes mode) := by
  obtain ⟨bytes, read, _⟩ := bind_eq_ok.mp read
  obtain ⟨mode, found⟩ := status_of_readBytes read
  exact ⟨bytes, mode, found⟩

theorem readText_congr {path : Path} (same : later.status path = tree.status path) :
    later.readText path = tree.readText path := by
  simp only [readText, readBytes, same]

theorem readText_of_status {path : Path} {text : String} {mode : Nat}
    (found : tree.status path = .ok (.file text.toUTF8 mode)) : tree.readText path = .ok text := by
  simp [readText, readBytes_of_status found, bind, Except.bind, pure, Except.pure,
    String.fromUTF8?, text.isValidUTF8, String.fromUTF8]

/-! ### Writing -/

/-- A write under a name replaces the contents of a file, or makes a new one. -/
theorem writeBytes_join (tree : Tree) (dir : Path) (isName : IsName name) (bytes : ByteArray) :
    tree.writeBytes (Path.join dir name) bytes =
      tree.locate (Path.join dir name) >>= fun place =>
        match tree.find? place with
        | some (.directory _) => .error (.system .isDirectory)
        | some (.file _ mode) => .ok (tree.insert place (.file bytes mode))
        | none => .ok (tree.insert place (.file bytes newFileMode)) := by
  obtain ⟨above, joined, _⟩ := Path.pieces_join dir isName.slashless
  unfold writeBytes locate
  cases taken : steps (Path.join dir name) with
  | error fault => rfl
  | ok names =>
      have ends : endsInName (above ++ [name]) = true := by
        simp [endsInName, isName.nonempty, isName.ne_dot, isName.ne_dots]
      have kept : dropSlashes (above ++ [name]) = above ++ [name] := by
        simp [dropSlashes, isName.nonempty]
      have located : tree.locateNew (Path.join dir name) (above ++ [name]) =
          (tree.goAll (tree.start (Path.join dir name)) (above ++ [name])).mapError .system := by
        simp only [locateNew, kept, List.dropLast_concat, List.getLast?_concat, Option.getD_some,
          goAll_concat]
      rw [steps_eq_ok taken, joined]
      change (tree.locateNew _ _ >>= _) = _
      rw [located, ends]
      rfl

/-- What a write under a name has changed: one file, with the mode it had. -/
theorem insert_of_writeBytes (isName : IsName name) {bytes : ByteArray}
    (written : tree.writeBytes (Path.join dir name) bytes = .ok later) :
    ∃ place mode, tree.Opens dir place ∧ admits dir name = .ok () ∧
      later = tree.insert (place ++ [name]) (.file bytes mode) ∧
      ∀ entry, tree.find? (place ++ [name]) = some entry → ∃ before, entry = .file before mode := by
  rw [writeBytes_join tree dir isName] at written
  obtain ⟨goal, located, replaced⟩ := bind_eq_ok.mp written
  obtain ⟨place, opens⟩ := opens_of_locate isName located
  rw [locate_of_opens opens isName] at located
  obtain ⟨_, admitted, goal_eq⟩ := bind_eq_ok.mp located
  cases goal_eq
  cases found : tree.find? (place ++ [name]) with
  | none =>
      rw [found] at replaced
      cases replaced
      exact ⟨place, newFileMode, opens, admitted, rfl, fun _ here => by cases found ▸ here⟩
  | some entry =>
      rw [found] at replaced
      cases entry with
      | directory mode => cases replaced
      | file before mode =>
          cases replaced
          refine ⟨place, mode, opens, admitted, rfl, fun entry here => ⟨before, ?_⟩⟩
          exact Option.some.inj (here.symm.trans found)

/-- A write changes nothing but where its path leads. -/
theorem find?_of_writeBytes (isName : IsName name) {bytes : ByteArray}
    (written : tree.writeBytes (Path.join dir name) bytes = .ok later) :
    ∃ goal, tree.locate (Path.join dir name) = .ok goal ∧
      ∀ place, place ≠ goal → later.find? place = tree.find? place := by
  obtain ⟨place, mode, opens, admitted, rfl, _⟩ := insert_of_writeBytes isName written
  refine ⟨place ++ [name], ?_, fun other apart => find?_insert_of_ne tree apart _⟩
  rw [locate_of_opens opens isName, admitted]
  rfl

/-- A file that is there can be written. -/
theorem writeBytes_of_status (isName : IsName name) {before bytes : ByteArray} {mode : Nat}
    (found : tree.status (Path.join dir name) = .ok (.file before mode)) :
    ∃ later, tree.writeBytes (Path.join dir name) bytes = .ok later := by
  obtain ⟨place, opens, admitted, here⟩ := (status_join_iff isName).mp found
  refine ⟨tree.insert (place ++ [name]) (.file bytes mode), ?_⟩
  rw [writeBytes_join tree dir isName, locate_of_opens opens isName, admitted]
  simp [bind, Except.bind, here]

theorem extends_of_writeBytes (isName : IsName name) {bytes : ByteArray}
    (written : tree.writeBytes (Path.join dir name) bytes = .ok later) : tree.Extends later := by
  obtain ⟨place, mode, _, _, rfl, replaced⟩ := insert_of_writeBytes isName written
  exact .insert_file replaced

/-- What is written is there. -/
theorem status_of_writeBytes (isName : IsName name) {bytes : ByteArray}
    (written : tree.writeBytes (Path.join dir name) bytes = .ok later) :
    ∃ mode, later.status (Path.join dir name) = .ok (.file bytes mode) := by
  have grown := extends_of_writeBytes isName written
  obtain ⟨place, mode, opens, admitted, rfl, _⟩ := insert_of_writeBytes isName written
  exact ⟨mode, status_insert_self opens isName admitted grown⟩

/-- Only under a name can something be written. -/
theorem isName_of_writeBytes {path : Path} {bytes : ByteArray}
    (written : tree.writeBytes path bytes = .ok later) :
    ∃ dir name, IsName name ∧ path = Path.join dir name := by
  obtain ⟨dir, name, slashless, rfl⟩ := Path.exists_join path
  obtain ⟨above, joined, _⟩ := Path.pieces_join dir slashless
  obtain ⟨names, taken, rest⟩ := bind_eq_ok.mp written
  obtain ⟨_, _, rest⟩ := bind_eq_ok.mp rest
  cases steps_eq_ok taken
  cases ends : endsInName (Path.join dir name).pieces with
  | false =>
      rw [ends] at rest
      cases rest
  | true =>
      rw [joined] at ends
      simp only [endsInName, List.getLast?_concat, Bool.and_eq_true, decide_eq_true_eq] at ends
      exact ⟨dir, name, ⟨slashless, ends.1.1, ends.1.2, ends.2⟩, rfl⟩

/-- A file that was there keeps its mode when it is written. -/
theorem status_of_overwritten {path : Path} {before bytes : ByteArray} {mode : Nat}
    (found : tree.status path = .ok (.file before mode))
    (written : tree.writeBytes path bytes = .ok later) :
    later.status path = .ok (.file bytes mode) := by
  obtain ⟨dir, name, isName, rfl⟩ := isName_of_writeBytes written
  have grown := extends_of_writeBytes isName written
  obtain ⟨place, mode', opens, admitted, rfl, replaced⟩ := insert_of_writeBytes isName written
  obtain ⟨place', opens', _, here⟩ := (status_join_iff isName).mp found
  cases Except.ok.inj (opens.leads.symm.trans opens'.leads)
  obtain ⟨_, same⟩ := replaced _ here
  cases same
  exact status_insert_self opens isName admitted grown

/-- A write changes nothing under other names. -/
theorem status_of_writeBytes_of_ne (isName : IsName name) {bytes : ByteArray}
    (written : tree.writeBytes (Path.join dir name) bytes = .ok later) {other : String}
    (isName' : IsName other) (apart : other ≠ name) :
    later.status (Path.join dir other) = tree.status (Path.join dir other) := by
  have grown := extends_of_writeBytes isName written
  obtain ⟨place, mode, opens, _, rfl, _⟩ := insert_of_writeBytes isName written
  exact status_insert_of_ne opens isName' apart grown

end Tree

end CloudCluster.Files
