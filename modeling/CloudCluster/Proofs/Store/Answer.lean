import CloudCluster.Proofs.Files.Kept
import CloudCluster.Proofs.Store.Persist

/-!
The entry that a call answers.

What is in the directory decides which entry that is. A name `Fits` a digest if its entry is
missing or its record is the digest, and is `Claimed` by another config if its entry is there
with another record or with none; no name is both. `Stored` is all that a call does which
answers a path: the entry is under the shortest prefix that fits, all shorter ones are claimed,
and no file is touched but the two of that entry.

The directory is looked at once it is there (`opened`). Nothing has changed by then if it was
there before, and no file if it was not. As a tree has no links, a file that is written has
one place only.
-/

namespace CloudCluster.ConfigStore

open Files

variable {digestOf : String → Digest} {store : ConfigStore} {config : ClusterConfig}
  {tree made later : Tree} {digest : Digest} {name yaml : String} {n : Nat}

/-! ### The directory of a store -/

/-- The tree once the directory of a store is there. -/
def opened (store : ConfigStore) (tree : Tree) : Tree :=
  ((Action.ensureDirectory store.dir dirMode).run tree).2

theorem filesKept_opened (store : ConfigStore) (tree : Tree) (paths : List Path) :
    tree.FilesKept (store.opened tree) paths :=
  .of_makes (Action.makes_makeDirectories dirMode _ store.dir tree) paths

/-- A directory that is there is not made. -/
theorem opened_of_isDirectory (there : tree.isDirectory store.dir = true) :
    store.opened tree = tree := by
  by_cases empty : store.dir = ""
  · rw [opened, empty]
    rfl
  · rw [opened, Action.ensureDirectory, Action.run_makeDirectories_succ dirMode _ empty]
    simp [Tree.makeDirectory_of_isDirectory there, Fault.isNotFound, there]

/-! ### Names -/

/-- A name can be had for a digest: its entry is missing, or its record is the digest. -/
def Fits (store : ConfigStore) (tree : Tree) (digest : Digest) (name : String) : Prop :=
  tree.status (store.entryPath name) = .error (.system .notFound) ∨
    ∃ text, tree.readText (store.recordPath name) = .ok text ∧ Text.trimText text = digest.text

/-- A name belongs to a config of another digest: its entry is there, and its record is
another one, or there is none. -/
def Claimed (store : ConfigStore) (tree : Tree) (digest : Digest) (name : String) : Prop :=
  (∃ entry, tree.status (store.entryPath name) = .ok entry) ∧
    (tree.status (store.recordPath name) = .error (.system .notFound) ∨
      ∃ text, tree.readText (store.recordPath name) = .ok text ∧ Text.trimText text ≠ digest.text)

theorem Claimed.not_fits (claimed : store.Claimed tree digest name) :
    ¬ store.Fits tree digest name := by
  obtain ⟨⟨entry, found⟩, record⟩ := claimed
  rintro (missing | ⟨text, read, same⟩)
  · cases found.symm.trans missing
  · rcases record with missing | ⟨other, read', differs⟩
    · cases (Tree.readText_of_missing missing).symm.trans read
    · cases read.symm.trans read'
      exact differs same

/-- What the record under a name says. -/
theorem record?_cases {record : Option String} (looked : store.record? tree name = .ok record) :
    (record = none ∧ tree.status (store.recordPath name) = .error (.system .notFound)) ∨
      ∃ text, tree.readText (store.recordPath name) = .ok text ∧
        record = some (Text.trimText text) := by
  unfold record? at looked
  split at looked
  · next text read =>
    cases looked
    exact .inr ⟨text, read, rfl⟩
  · next fault unread =>
    split at looked
    · next notFound =>
      cases looked
      cases Fault.isNotFound_iff.mp notFound
      exact .inl ⟨rfl, Tree.missing_of_readText unread⟩
    · cases looked

theorem claimed_of_taken (looked : store.slot tree digest n = .ok .taken) :
    store.Claimed tree digest (digest.prefixText n) := by
  rcases slot_cases looked with ⟨free, _⟩ | ⟨entry, record, found, read, taken⟩
  · cases free
  · refine ⟨⟨entry, found⟩, ?_⟩
    split at taken
    · cases taken
    · next other =>
      rcases record?_cases read with ⟨_, missing⟩ | ⟨text, read', rfl⟩
      · exact .inl missing
      · exact .inr ⟨text, read', fun same => other (congrArg some same)⟩

theorem notFound_of_free (looked : store.slot tree digest n = .ok .free) :
    tree.status (store.entryPath (digest.prefixText n)) = .error (.system .notFound) := by
  obtain ⟨fault, missing, notFound⟩ := missing_of_free looked
  rw [missing, Fault.isNotFound_iff.mp notFound]

theorem fits_of_own (looked : store.slot tree digest n = .ok .own) :
    store.Fits tree digest (digest.prefixText n) := by
  rcases record?_cases (record_of_own looked) with ⟨none, _⟩ | ⟨text, read, same⟩
  · cases none
  · exact .inr ⟨text, read, (Option.some.inj same).symm⟩

/-! ### Answers -/

/-- What a call does that answers the entry under the prefix of `n` digits, where `tree` was
there before and `later` is left. -/
structure Stored (store : ConfigStore) (yaml : String) (digest : Digest) (tree later : Tree)
    (n : Nat) : Prop where
  /-- No file is touched to have the directory, and nothing at all if it is there. -/
  opened : tree.FilesKept (store.opened tree) [] ∧
    (tree.isDirectory store.dir = true → store.opened tree = tree)
  range : minPrefix ≤ n ∧ n ≤ 64
  /-- The prefix fits, unless it is the whole digest. -/
  fits : n < 64 → store.Fits (store.opened tree) digest (digest.prefixText n)
  /-- No shorter one fits, since another config has it. -/
  shortest : ∀ m, minPrefix ≤ m → m < n →
    ¬ store.Fits (store.opened tree) digest (digest.prefixText m) ∧
      store.Claimed (store.opened tree) digest (digest.prefixText m)
  /-- An entry that was missing, or is under the whole digest, is the text of the config now,
  and its record is the digest. -/
  written : n = 64 ∨ (store.opened tree).status (store.entryPath (digest.prefixText n)) =
      .error (.system .notFound) →
    later.readBytes (store.entryPath (digest.prefixText n)) = .ok yaml.toUTF8 ∧
    later.readBytes (store.recordPath (digest.prefixText n)) = .ok digest.text.toUTF8
  /-- An entry that was there, under a shorter prefix, is left as it is. -/
  reused : n < 64 → (∃ entry, (store.opened tree).status
      (store.entryPath (digest.prefixText n)) = .ok entry) → tree.FilesKept later []
  /-- No file is touched but the entry and its record. -/
  kept : tree.FilesKept later
    [store.entryPath (digest.prefixText n), store.recordPath (digest.prefixText n)]

theorem Chosen.shortest {isFree : Bool} (chosen : Chosen store made digest minPrefix n isFree)
    (m : Nat) (low : minPrefix ≤ m) (high : m < n) :
    ¬ store.Fits made digest (digest.prefixText m) ∧
      store.Claimed made digest (digest.prefixText m) := by
  have claimed : store.Claimed made digest (digest.prefixText m) := by
    apply claimed_of_taken
    cases chosen with
    | free _ taken | own _ taken | whole taken => exact taken m low high
  exact ⟨claimed.not_fits, claimed⟩

/-- A config that is found was stored before. -/
theorem stored_of_found (chosen : Chosen store (store.opened tree) digest minPrefix n false)
    (yaml : String) : Stored store yaml digest tree (store.opened tree) n := by
  have untouched := store.filesKept_opened tree
  have shortest := chosen.shortest
  cases chosen with
  | own range _ here =>
      obtain ⟨entry, found⟩ := status_of_slot here (by simp)
      refine ⟨⟨untouched [], opened_of_isDirectory⟩, ⟨range.1, Nat.le_of_lt range.2⟩, ?_, shortest,
        ?_, ?_, ?_⟩
      · exact fun _ => fits_of_own here
      · rintro (whole | missing)
        · omega
        · cases found.symm.trans missing
      · exact fun _ _ => untouched []
      · exact untouched _

/-- A config is stored by writing its entry and its record. -/
theorem stored_of_written {entered : Tree}
    (chosen : Chosen store (store.opened tree) digest minPrefix n true)
    (wrote : (store.opened tree).writeText (store.entryPath (digest.prefixText n)) yaml =
      .ok entered)
    (wrote' : entered.writeText (store.recordPath (digest.prefixText n)) digest.text = .ok later) :
    Stored store yaml digest tree later n := by
  have slashless := digest.slashless_prefixText n
  have isRecord := isName_recordName slashless
  have range : minPrefix ≤ n ∧ n ≤ 64 := by
    cases chosen with
    | free range => exact ⟨range.1, Nat.le_of_lt range.2⟩
    | whole => decide
  have missing (short : n < 64) : (store.opened tree).status
      (store.entryPath (digest.prefixText n)) = .error (.system .notFound) := by
    cases chosen with
    | free _ _ here => exact notFound_of_free here
    | whole => exact absurd short (Nat.lt_irrefl 64)
  have untouched := store.filesKept_opened tree []
  refine ⟨⟨untouched, opened_of_isDirectory⟩, range, fun short => .inl (missing short),
    chosen.shortest, ?_, ?_, ?_⟩
  · intro _
    obtain ⟨mode, entry⟩ := status_of_writeEntry slashless wrote
    rw [← status_entry_of_writeRecord slashless wrote' slashless] at entry
    obtain ⟨mode', record⟩ := Tree.status_of_writeBytes isRecord wrote'
    exact ⟨Tree.readBytes_of_status entry, Tree.readBytes_of_status record⟩
  · rintro short ⟨entry, found⟩
    cases found.symm.trans (missing short)
  · have recorded : entered.FilesKept later
        [store.entryPath (digest.prefixText n), store.recordPath (digest.prefixText n)] :=
      .of_writeBytes isRecord wrote' (List.mem_cons_of_mem _ List.mem_cons_self) (.refl later)
        (.refl later _)
    have entered := Tree.FilesKept.of_writeBytes (isName_entryName slashless) wrote
      List.mem_cons_self (Tree.extends_of_writeBytes isRecord wrote') recorded
    exact untouched.trans entered

/-- A call that answers a path has settled on the shortest prefix that fits, or on the whole
digest where none does; it has written the two files of that entry, or no file at all. -/
theorem stored_of_answered {path : Path}
    (answered : ((persist digestOf store config).run tree).1 = .ok path) :
    ∃ yaml n, config.toYaml = .ok yaml ∧
      path = store.entryPath ((digestOf yaml).prefixText n) ∧
      Stored store yaml (digestOf yaml) tree ((persist digestOf store config).run tree).2 n := by
  have persists := persists_run digestOf store config tree
  rw [answered] at persists
  generalize ((persist digestOf store config).run tree).2 = later at persists
  have opens {made : Tree}
      (ensured : (Action.ensureDirectory store.dir dirMode).run tree = (.ok (), made)) :
      made = store.opened tree := by
    rw [opened, ensured]
  cases persists with
  | found ensured text chosen =>
      cases opens ensured
      exact ⟨_, _, text, rfl, stored_of_found chosen _⟩
  | written ensured text chosen wrote wrote' =>
      cases opens ensured
      exact ⟨_, _, text, rfl, stored_of_written chosen wrote wrote'⟩

/-- A directory where other configs have the two shortest prefixes of a digest, and a record
was left behind under the third. -/
def squatted : Tree where
  entries := [(["cloud"], .directory dirMode),
    (["cloud", "config-37b1.yml"], .file "x: 0\n".toUTF8 0o644),
    (["cloud", "config-37b12.yml"], .file "x: 0\n".toUTF8 0o644),
    (["cloud", "config-37b12.sha256"], .file "37b12\n".toUTF8 0o644),
    (["cloud", "config-37b128.sha256"], .file (Sha256.hashText "a: 1\n").text.toUTF8 0o600)]

/-- The third prefix is free, as its record has no entry. -/
theorem stored_behind_squatters :
    let store : ConfigStore := ⟨"cloud"⟩
    let config : ClusterConfig := ⟨[(.string "a", .integer 1)]⟩
    ((persist Sha256.hashText store config).run squatted).1 = .ok "cloud/config-37b128.yml" ∧
    Stored store "a: 1\n" (Sha256.hashText "a: 1\n") squatted
      ((persist Sha256.hashText store config).run squatted).2 6 := by
  intro store config
  have answered : ((persist Sha256.hashText store config).run squatted).1 =
      .ok "cloud/config-37b128.yml" := by decide +kernel
  refine ⟨answered, ?_⟩
  obtain ⟨yaml, n, text, path, stored⟩ := stored_of_answered answered
  have written : config.toYaml = .ok "a: 1\n" := by decide +kernel
  cases written.symm.trans text
  have name : (Sha256.hashText "a: 1\n").prefixText 6 = "37b128" := by decide +kernel
  have same : store.entryPath ((Sha256.hashText "a: 1\n").prefixText 6) =
      store.entryPath ((Sha256.hashText "a: 1\n").prefixText n) := by
    rw [← path, name]
    decide +kernel
  have equal : 6 = n := Digest.length_eq_of_prefixText _ (by decide) stored.range.2
    (entryPath_inj store (Digest.slashless_prefixText _ _) (Digest.slashless_prefixText _ _) same)
  exact equal ▸ stored

end CloudCluster.ConfigStore
