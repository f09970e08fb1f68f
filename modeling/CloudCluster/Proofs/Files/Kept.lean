import CloudCluster.Proofs.Files.Action

/-!
Files that are left alone.

`FilesKept` says of two trees that they have the same files, with the same bytes and modes, but
for those that some paths lead to. Making directories leaves all files alone
(`FilesKept.of_makes`), and a write all but one (`FilesKept.of_writeBytes`).
-/

namespace CloudCluster.Files.Tree

/-- No file is made, changed or removed, but for those that some paths lead to. -/
def FilesKept (tree later : Tree) (paths : List Path) : Prop :=
  ∀ place, (∀ path ∈ paths, later.locate path ≠ .ok place) → ∀ bytes mode,
    later.find? place = some (.file bytes mode) ↔ tree.find? place = some (.file bytes mode)

namespace FilesKept

variable {tree made later : Tree} {dir : Path} {name : String} {paths : List Path}

theorem refl (tree : Tree) (paths : List Path) : tree.FilesKept tree paths :=
  fun _ _ _ _ => Iff.rfl

theorem trans (first : tree.FilesKept made []) (second : made.FilesKept later paths) :
    tree.FilesKept later paths := by
  intro place elsewhere bytes mode
  rw [second place elsewhere bytes mode]
  exact first place (fun _ mem => absurd mem List.not_mem_nil) bytes mode

theorem of_makes {mode : Nat} {stop : Place → Prop} (makes : tree.Makes mode stop later)
    (paths : List Path) : tree.FilesKept later paths := by
  intro place _ bytes mode'
  rcases makes.kept_or_made place with kept | ⟨missing, _, directory⟩
  · rw [kept]
  · rw [missing, directory]
    simp

/-- A write touches no file but its own; `later` is what the writes behind it leave. -/
theorem of_writeBytes (isName : IsName name) {bytes : ByteArray}
    (wrote : tree.writeBytes (Path.join dir name) bytes = .ok made)
    (mem : Path.join dir name ∈ paths) (grown : made.Extends later)
    (behind : made.FilesKept later paths) : tree.FilesKept later paths := by
  obtain ⟨goal, located, same⟩ := find?_of_writeBytes isName wrote
  have leads : later.locate (Path.join dir name) = .ok goal :=
    ((extends_of_writeBytes isName wrote).trans grown).locate located
  intro place elsewhere
  have apart : place ≠ goal := by
    rintro rfl
    exact elsewhere _ mem leads
  rw [← same place apart]
  exact behind place elsewhere

end FilesKept

end CloudCluster.Files.Tree
