import CloudCluster.Digest.Sha256
import CloudCluster.Proofs.Store.Slot
import Mathlib.Control.Monad.Basic
import Mathlib.Tactic.ByContra

/-!
What persisting a config does to the tree.

`Persists` lists how a call can go. Whatever happens, the call changes at most the
entry and the record under the prefix that it has settled on. That is a new entry, or
the one under the whole digest, which is written anew each time. So a call leaves the
file of every config as it is, unless it `Overwrites` the one under the whole digest:
every shorter prefix is taken, and the file holds something else than the config's
text.
-/

namespace CloudCluster.ConfigStore

open Files

variable {digestOf : String → Digest} {store : ConfigStore} {config : ClusterConfig}
  {tree made later : Tree} {digest : Digest} {name : String} {n : Nat}

/-! ### Runs -/

theorem run_persist (digestOf : String → Digest) (store : ConfigStore) (config : ClusterConfig)
    (tree : Tree) :
    (persist digestOf store config).run tree =
      match (Action.ensureDirectory store.dir dirMode).run tree with
      | (.error fault, made) => (.error (.io fault), made)
      | (.ok (), made) =>
        match config.toYaml with
        | .error error => (.error error, made)
        | .ok yaml =>
          match store.choose made (digestOf yaml) prefixLengths with
          | .error error => (.error error, made)
          | .ok (n, isFree) =>
            let name := (digestOf yaml).prefixText n
            if isFree then
              match (store.writeEntry name yaml (digestOf yaml)).run made with
              | (.error error, later) => (.error error, later)
              | (.ok (), later) => (.ok (store.entryPath name), later)
            else (.ok (store.entryPath name), made) := by
  simp only [persist, Action.run_bind, Action.run_adapt, Action.run_ask]
  rcases (Action.ensureDirectory store.dir dirMode).run tree with ⟨_ | _, made⟩
  · rfl
  · cases config.toYaml with
    | error error => rfl
    | ok yaml =>
        simp only [mapError_ok]
        generalize store.choose made (digestOf yaml) prefixLengths = choice
        rcases choice with _ | ⟨n, isFree⟩
        · rfl
        · cases isFree with
          | false => simp only [Bool.false_eq_true, if_false, Action.run_pure]
          | true =>
              simp only [if_true, Action.run_bind, Action.run_pure]
              rcases (store.writeEntry ((digestOf yaml).prefixText n) yaml (digestOf yaml)).run made
                with ⟨_ | _, later⟩ <;> rfl

theorem run_writeEntry (store : ConfigStore) (name yaml : String) (digest : Digest) (tree : Tree) :
    (store.writeEntry name yaml digest).run tree =
      match tree.writeText (store.entryPath name) yaml with
      | .error fault => (.error (.io fault), tree)
      | .ok entered =>
        match entered.writeText (store.recordPath name) digest.text with
        | .error fault => (.error (.io fault), entered)
        | .ok recorded => (.ok (), recorded) := by
  simp only [writeEntry, Action.run_bind, Action.run_change]
  cases tree.writeText (store.entryPath name) yaml with
  | error fault => rfl
  | ok entered =>
      simp only [mapError_ok]
      cases entered.writeText (store.recordPath name) digest.text <;> rfl

/-- How a config can be persisted: with which result, and what is left. -/
inductive Persists (digestOf : String → Digest) (store : ConfigStore) (config : ClusterConfig)
    (tree : Tree) : Except ClusterError Path → Tree → Prop where
  /-- The directory cannot be made. -/
  | unmade {fault : Fault} {made : Tree}
      (ensured : (Action.ensureDirectory store.dir dirMode).run tree = (.error fault, made)) :
      Persists digestOf store config tree (.error (.io fault)) made
  /-- The config has no text, or what is in the directory cannot be looked at. -/
  | unchosen {error : ClusterError} {made : Tree}
      (ensured : (Action.ensureDirectory store.dir dirMode).run tree = (.ok (), made)) :
      Persists digestOf store config tree (.error error) made
  /-- The config is there already. -/
  | found {yaml : String} {made : Tree} {n : Nat}
      (ensured : (Action.ensureDirectory store.dir dirMode).run tree = (.ok (), made))
      (text : config.toYaml = .ok yaml)
      (chosen : Chosen store made (digestOf yaml) minPrefix n false) :
      Persists digestOf store config tree
        (.ok (store.entryPath ((digestOf yaml).prefixText n))) made
  /-- The entry cannot be written. -/
  | unwritten {yaml : String} {made : Tree} {n : Nat} {fault : Fault}
      (ensured : (Action.ensureDirectory store.dir dirMode).run tree = (.ok (), made))
      (text : config.toYaml = .ok yaml)
      (chosen : Chosen store made (digestOf yaml) minPrefix n true)
      (refused : made.writeText (store.entryPath ((digestOf yaml).prefixText n)) yaml =
        .error fault) :
      Persists digestOf store config tree (.error (.io fault)) made
  /-- The entry is written and its record cannot be. -/
  | unrecorded {yaml : String} {made entered : Tree} {n : Nat} {fault : Fault}
      (ensured : (Action.ensureDirectory store.dir dirMode).run tree = (.ok (), made))
      (text : config.toYaml = .ok yaml)
      (chosen : Chosen store made (digestOf yaml) minPrefix n true)
      (wrote : made.writeText (store.entryPath ((digestOf yaml).prefixText n)) yaml = .ok entered)
      (refused : entered.writeText (store.recordPath ((digestOf yaml).prefixText n))
        (digestOf yaml).text = .error fault) :
      Persists digestOf store config tree (.error (.io fault)) entered
  /-- The entry is written, and then its record. -/
  | written {yaml : String} {made entered recorded : Tree} {n : Nat}
      (ensured : (Action.ensureDirectory store.dir dirMode).run tree = (.ok (), made))
      (text : config.toYaml = .ok yaml)
      (chosen : Chosen store made (digestOf yaml) minPrefix n true)
      (wrote : made.writeText (store.entryPath ((digestOf yaml).prefixText n)) yaml = .ok entered)
      (wrote' : entered.writeText (store.recordPath ((digestOf yaml).prefixText n))
        (digestOf yaml).text = .ok recorded) :
      Persists digestOf store config tree
        (.ok (store.entryPath ((digestOf yaml).prefixText n))) recorded

theorem persists_run (digestOf : String → Digest) (store : ConfigStore) (config : ClusterConfig)
    (tree : Tree) :
    Persists digestOf store config tree ((persist digestOf store config).run tree).1
      ((persist digestOf store config).run tree).2 := by
  rw [run_persist]
  rcases ensured : (Action.ensureDirectory store.dir dirMode).run tree with ⟨_ | _, made⟩
  · exact .unmade ensured
  · cases text : config.toYaml with
    | error error => exact .unchosen ensured
    | ok yaml =>
        dsimp only
        rcases choice : store.choose made (digestOf yaml) prefixLengths with _ | ⟨n, isFree⟩
        · exact .unchosen ensured
        · have chosen := choose_eq_ok_iff.mp choice
          cases isFree with
          | false => exact .found ensured text chosen
          | true =>
              simp only [if_true, run_writeEntry]
              cases wrote :
                  made.writeText (store.entryPath ((digestOf yaml).prefixText n)) yaml with
              | error fault => exact .unwritten ensured text chosen wrote
              | ok entered =>
                  dsimp only
                  cases wrote' : entered.writeText
                      (store.recordPath ((digestOf yaml).prefixText n)) (digestOf yaml).text with
                  | error fault => exact .unrecorded ensured text chosen wrote wrote'
                  | ok recorded => exact .written ensured text chosen wrote wrote'

/-! ### Directories -/

/-- An entry shows that its directory is there, which is not made again. -/
theorem ensure_of_status {entry : Entry} (slashless : '/' ∉ name.toList)
    (found : tree.status (store.entryPath name) = .ok entry) :
    (Action.ensureDirectory store.dir dirMode).run tree = (.ok (), tree) := by
  have isName := isName_entryName slashless
  obtain ⟨place, opens, admitted, _⟩ := (Tree.status_join_iff isName).mp found
  exact Action.ensureDirectory_of_opens opens isName.slashless admitted dirMode

theorem adds_of_ensure {result : Except Fault Unit}
    (ensured : (Action.ensureDirectory store.dir dirMode).run tree = (result, made)) :
    tree.Adds made := by
  have added := Action.adds_ensureDirectory store.dir dirMode tree
  rwa [ensured] at added

/-! ### Writes -/

section Writes

variable {text : String} {other : String}

theorem status_of_writeEntry (slashless : '/' ∉ name.toList)
    (wrote : tree.writeText (store.entryPath name) text = .ok later) :
    ∃ mode, later.status (store.entryPath name) = .ok (.file text.toUTF8 mode) :=
  Tree.status_of_writeBytes (isName_entryName slashless) wrote

theorem status_entry_of_writeEntry (slashless : '/' ∉ name.toList)
    (wrote : tree.writeText (store.entryPath name) text = .ok later)
    (slashless' : '/' ∉ other.toList) (apart : other ≠ name) :
    later.status (store.entryPath other) = tree.status (store.entryPath other) :=
  Tree.status_of_writeBytes_of_ne (isName_entryName slashless) wrote (isName_entryName slashless')
    (mt entryName_inj.mp apart)

theorem status_record_of_writeEntry (slashless : '/' ∉ name.toList)
    (wrote : tree.writeText (store.entryPath name) text = .ok later)
    (slashless' : '/' ∉ other.toList) :
    later.status (store.recordPath other) = tree.status (store.recordPath other) :=
  Tree.status_of_writeBytes_of_ne (isName_entryName slashless) wrote
    (isName_recordName slashless') (entryName_ne_recordName name other).symm

theorem status_entry_of_writeRecord (slashless : '/' ∉ name.toList)
    (wrote : tree.writeText (store.recordPath name) text = .ok later)
    (slashless' : '/' ∉ other.toList) :
    later.status (store.entryPath other) = tree.status (store.entryPath other) :=
  Tree.status_of_writeBytes_of_ne (isName_recordName slashless) wrote
    (isName_entryName slashless') (entryName_ne_recordName other name)

theorem status_record_of_writeRecord (slashless : '/' ∉ name.toList)
    (wrote : tree.writeText (store.recordPath name) text = .ok later)
    (slashless' : '/' ∉ other.toList) (apart : other ≠ name) :
    later.status (store.recordPath other) = tree.status (store.recordPath other) :=
  Tree.status_of_writeBytes_of_ne (isName_recordName slashless) wrote
    (isName_recordName slashless') (mt recordName_inj.mp apart)

end Writes

/-- What is found under a name of which a call has written the entry. It was not there
before, or the name is the whole digest. -/
theorem Chosen.missing_or_whole (chosen : Chosen store tree digest minPrefix n true) :
    (∃ fault, tree.status (store.entryPath (digest.prefixText n)) = .error fault ∧
      fault.isNotFound = true) ∨
    n = 64 ∧ ∀ m, minPrefix ≤ m → m < 64 → store.slot tree digest m = .ok .taken := by
  cases chosen with
  | free _ _ here => exact Or.inl (missing_of_free here)
  | whole taken => exact Or.inr ⟨rfl, taken⟩

/-! ### Contents of entries -/

section Contents

variable {yaml : String} {entered : Tree} {entry : Entry}

/-- A written entry was not there, or it is the one under the whole digest. -/
theorem Chosen.kept_or_whole (chosen : Chosen store tree digest minPrefix n true)
    (slashless : '/' ∉ name.toList) (found : tree.status (store.entryPath name) = .ok entry)
    (wrote : tree.writeText (store.entryPath (digest.prefixText n)) yaml = .ok entered) :
    entered.status (store.entryPath name) = .ok entry ∨
      name = digest.text ∧
      (∀ m, minPrefix ≤ m → m < 64 → store.slot tree digest m = .ok .taken) ∧
      ∃ mode, entered.status (store.entryPath name) = .ok (.file yaml.toUTF8 mode) := by
  by_cases here : name = digest.prefixText n
  · subst here
    rcases chosen.missing_or_whole with ⟨fault, missing, _⟩ | ⟨rfl, taken⟩
    · cases found.symm.trans missing
    · exact Or.inr ⟨digest.prefixText_whole, taken, status_of_writeEntry slashless wrote⟩
  · left
    rw [status_entry_of_writeEntry (digest.slashless_prefixText n) wrote slashless here, found]

/-- What a call leaves of an entry that is there: all of it, or the text of the config
if the entry is the one under the whole digest and all shorter prefixes are taken. -/
theorem Persists.kept_or_whole {result : Except ClusterError Path}
    (persists : Persists digestOf store config tree result later)
    (slashless : '/' ∉ name.toList) (found : tree.status (store.entryPath name) = .ok entry) :
    later.status (store.entryPath name) = .ok entry ∨
      ∃ yaml mode, config.toYaml = .ok yaml ∧ name = (digestOf yaml).text ∧
        (∀ m, minPrefix ≤ m → m < 64 → store.slot tree (digestOf yaml) m = .ok .taken) ∧
        later.status (store.entryPath name) = .ok (.file yaml.toUTF8 mode) := by
  have there := ensure_of_status slashless found
  cases persists with
  | unmade ensured => cases ensured.symm.trans there
  | unchosen ensured => cases ensured.symm.trans there; exact Or.inl found
  | found ensured => cases ensured.symm.trans there; exact Or.inl found
  | unwritten ensured => cases ensured.symm.trans there; exact Or.inl found
  | unrecorded ensured text chosen wrote =>
      cases ensured.symm.trans there
      rcases chosen.kept_or_whole slashless found wrote with kept | ⟨whole, taken, mode, fresh⟩
      · exact Or.inl kept
      · exact Or.inr ⟨_, mode, text, whole, taken, fresh⟩
  | written ensured text chosen wrote wrote' =>
      cases ensured.symm.trans there
      rw [status_entry_of_writeRecord (Digest.slashless_prefixText _ _) wrote' slashless]
      rcases chosen.kept_or_whole slashless found wrote with kept | ⟨whole, taken, mode, fresh⟩
      · exact Or.inl kept
      · exact Or.inr ⟨_, mode, text, whole, taken, fresh⟩

/-- Behind prefixes that are all taken, the file under the whole digest is written anew,
and then its record. -/
theorem run_persist_of_whole {before : ByteArray} {mode : Nat} (text : config.toYaml = .ok yaml)
    (taken : ∀ m, minPrefix ≤ m → m < 64 → store.slot tree (digestOf yaml) m = .ok .taken)
    (found : tree.status (store.entryPath ((digestOf yaml).prefixText 64)) =
      .ok (.file before mode)) :
    ∃ entered, tree.writeText (store.entryPath ((digestOf yaml).prefixText 64)) yaml =
        .ok entered ∧
      (persist digestOf store config).run tree =
        match entered.writeText (store.recordPath ((digestOf yaml).prefixText 64))
          (digestOf yaml).text with
        | .error fault => (.error (.io fault), entered)
        | .ok recorded => (.ok (store.entryPath ((digestOf yaml).prefixText 64)), recorded) := by
  have slashless := (digestOf yaml).slashless_prefixText 64
  obtain ⟨entered, wrote⟩ : ∃ entered, tree.writeText
      (store.entryPath ((digestOf yaml).prefixText 64)) yaml = .ok entered :=
    Tree.writeBytes_of_status (isName_entryName slashless) found
  refine ⟨entered, wrote, ?_⟩
  rw [run_persist, ensure_of_status slashless found, text]
  dsimp only
  rw [choose_eq_ok_iff.mpr (.whole taken)]
  simp only [if_true, run_writeEntry, wrote]
  cases entered.writeText (store.recordPath ((digestOf yaml).prefixText 64))
    (digestOf yaml).text <;> rfl

/-- Behind prefixes that are all taken, the file under the whole digest gets the text
of the config, whatever it holds. -/
theorem readBytes_of_whole {before : ByteArray} (text : config.toYaml = .ok yaml)
    (taken : ∀ m, minPrefix ≤ m → m < 64 → store.slot tree (digestOf yaml) m = .ok .taken)
    (read : tree.readBytes (store.entryPath (digestOf yaml).text) = .ok before) :
    ((persist digestOf store config).run tree).2.readBytes
      (store.entryPath (digestOf yaml).text) = .ok yaml.toUTF8 := by
  rw [← Digest.prefixText_whole] at read ⊢
  have slashless := (digestOf yaml).slashless_prefixText 64
  obtain ⟨mode, found⟩ := Tree.status_of_readBytes read
  obtain ⟨entered, wrote, ran⟩ := run_persist_of_whole text taken found
  obtain ⟨mode', fresh⟩ := status_of_writeEntry slashless wrote
  rw [ran]
  cases wrote' : entered.writeText (store.recordPath ((digestOf yaml).prefixText 64))
      (digestOf yaml).text with
  | error fault => exact Tree.readBytes_of_status fresh
  | ok recorded =>
      have fresh' := status_entry_of_writeRecord slashless wrote' slashless
      exact Tree.readBytes_of_status (fresh'.trans fresh)

end Contents

/-- The file under the whole digest of a config gets another text: every shorter
prefix is taken, and the file is there and holds something else. -/
def Overwrites (digestOf : String → Digest) (store : ConfigStore) (config : ClusterConfig)
    (tree : Tree) : Prop :=
  ∃ yaml before, config.toYaml = .ok yaml ∧
    (∀ m, minPrefix ≤ m → m < 64 → store.slot tree (digestOf yaml) m = .ok .taken) ∧
    tree.readBytes (store.entryPath (digestOf yaml).text) = .ok before ∧ before ≠ yaml.toUTF8

/-- The files of all configs are the same after a call, unless it overwrites the one
under the whole digest. -/
theorem entries_kept_iff (digestOf : String → Digest) (store : ConfigStore)
    (config : ClusterConfig) (tree : Tree) :
    (∀ name bytes, '/' ∉ name.toList → tree.readBytes (store.entryPath name) = .ok bytes →
      ((persist digestOf store config).run tree).2.readBytes (store.entryPath name) = .ok bytes) ↔
    ¬ Overwrites digestOf store config tree := by
  constructor
  · rintro kept ⟨yaml, before, text, taken, read, differs⟩
    have slashless : '/' ∉ (digestOf yaml).text.toList := by
      rw [← Digest.prefixText_whole]
      exact Digest.slashless_prefixText _ _
    have same := (kept _ before slashless read).symm.trans (readBytes_of_whole text taken read)
    exact differs (Except.ok.inj same)
  · intro spared name bytes slashless read
    obtain ⟨mode, found⟩ := Tree.status_of_readBytes read
    rcases (persists_run digestOf store config tree).kept_or_whole slashless found with
      kept | ⟨yaml, mode', text, rfl, taken, fresh⟩
    · exact Tree.readBytes_of_status kept
    · rw [Tree.readBytes_of_status fresh]
      by_contra differs
      exact spared ⟨yaml, bytes, text, taken, read, fun same => differs (by rw [same])⟩

/-! ### A directory where every prefix is taken -/

/-- A directory with a file without a record under each of the first prefixes of a
digest; 61 of them are all that there are, with the whole digest. -/
def crowded (digest : Digest) : Nat → Tree
  | 0 => { entries := [(["configs"], .directory dirMode)] }
  | count + 1 =>
    (crowded digest count).insert ["configs", entryName (digest.prefixText (minPrefix + count))]
      (.file "rewritten".toUTF8 Tree.newFileMode)

theorem admits_crowded (digest : Digest) (n : Nat) {ending : String}
    (plain : '/' ∉ ending.toList ∧ '\x00' ∉ ending.toList) (short : ending.utf8ByteSize ≤ 7) :
    Tree.admits "configs" ("config-" ++ digest.prefixText n ++ ending) = .ok () := by
  have isName := isName_of_infix (digest.slashless_prefixText n) plain.1
  have joined : Path.join "configs" ("config-" ++ digest.prefixText n ++ ending) =
      "configs/" ++ ("config-" ++ digest.prefixText n ++ ending) := by
    simp [Path.join, Path.isAbsolute_of_slashless isName.slashless]
  have clean :
      '\x00' ∉ (Path.join "configs" ("config-" ++ digest.prefixText n ++ ending)).toList := by
    intro mem
    rw [joined] at mem
    simp only [String.toList_append, Digest.toList_prefixText, List.mem_append] at mem
    rcases mem with mem | (mem | mem) | mem
    · exact absurd mem (by decide)
    · exact absurd mem (by decide)
    · exact absurd (digest.isHexDigit_of_mem (List.mem_of_mem_take mem)) (by decide)
    · exact plain.2 mem
  have digits := digest.utf8ByteSize_prefixText_le n
  have fits : ("config-" ++ digest.prefixText n ++ ending).utf8ByteSize ≤ 78 := by
    rw [String.utf8ByteSize_append, String.utf8ByteSize_append]
    change 7 + _ + _ ≤ 78
    omega
  have fits' : ¬ Tree.maxName < ("config-" ++ digest.prefixText n ++ ending).utf8ByteSize := by
    simp only [Tree.maxName]
    omega
  have size : ¬ Tree.maxPath <
      (Path.join "configs" ("config-" ++ digest.prefixText n ++ ending)).utf8ByteSize := by
    rw [joined, String.utf8ByteSize_append]
    change ¬ 4095 < 8 + _
    omega
  have nonempty := Path.join_ne_empty "configs" isName.slashless isName.nonempty
  simp only [Tree.admits, Tree.steps, List.contains_eq_mem, clean, decide_false, Bool.false_eq_true,
    if_false, String.isEmpty_iff, nonempty, size, fits']
  rfl

theorem find?_crowded_directory (digest : Digest) (count : Nat) :
    (crowded digest count).find? ["configs"] = some (.directory dirMode) := by
  induction count with
  | zero => rfl
  | succ count ih => rw [crowded, Tree.find?_insert_of_ne _ (by simp), ih]

theorem find?_crowded_record (digest : Digest) (count : Nat) (name : String) :
    (crowded digest count).find? ["configs", recordName name] = none := by
  induction count with
  | zero => simp [crowded, Tree.find?]
  | succ count ih =>
      have apart := (entryName_ne_recordName (digest.prefixText (minPrefix + count)) name).symm
      rw [crowded, Tree.find?_insert_of_ne _ (by simpa using apart), ih]

theorem find?_crowded_entry (digest : Digest) {count m : Nat} (within : m < count) :
    (crowded digest count).find? ["configs", entryName (digest.prefixText (minPrefix + m))] =
      some (.file "rewritten".toUTF8 Tree.newFileMode) := by
  induction count with
  | zero => omega
  | succ count ih =>
      rw [crowded]
      by_cases here : entryName (digest.prefixText (minPrefix + m)) =
          entryName (digest.prefixText (minPrefix + count))
      · rw [here, Tree.find?_insert_self _ (by simp)]
      · have before : m ≠ count := fun eq => here (by rw [eq])
        rw [Tree.find?_insert_of_ne _ (by simpa using here), ih (by omega)]

theorem opens_crowded (digest : Digest) (count : Nat) :
    (crowded digest count).Opens "configs" ["configs"] where
  leads := by
    have start : (crowded digest count).start "configs" = [] := by
      have home : (crowded digest count).workingDirectory = [] := by
        induction count with
        | zero => rfl
        | succ count ih => exact ih
      rw [Tree.start, home]
      rfl
    rw [start]
    rfl
  directory := ⟨dirMode, find?_crowded_directory digest count⟩

theorem status_crowded (digest : Digest) {count m : Nat} (within : m < count) :
    (crowded digest count).status
      (entryPath ⟨"configs"⟩ (digest.prefixText (minPrefix + m))) =
      .ok (.file "rewritten".toUTF8 Tree.newFileMode) :=
  (Tree.status_join_iff (isName_entryName (digest.slashless_prefixText _))).mpr
    ⟨_, opens_crowded digest count, admits_crowded digest _ (by decide) (by decide),
      find?_crowded_entry digest within⟩

theorem slot_crowded (digest : Digest) {count m : Nat} (within : m < count) :
    slot ⟨"configs"⟩ (crowded digest count) digest (minPrefix + m) = .ok .taken := by
  have missing : (crowded digest count).status
      (recordPath ⟨"configs"⟩ (digest.prefixText (minPrefix + m))) =
      .error (.system .notFound) := by
    have admitted : Tree.admits "configs"
        (recordName (digest.prefixText (minPrefix + m))) = .ok () :=
      admits_crowded digest _ (by decide) (by decide)
    have looked := Tree.status_of_opens (opens_crowded digest count)
      (isName_recordName (digest.slashless_prefixText (minPrefix + m)))
    refine looked.trans ?_
    rw [admitted]
    simp only [bind, Except.bind, List.cons_append, List.nil_append]
    rw [find?_crowded_record]
  have unrecorded : record? ⟨"configs"⟩ (crowded digest count)
      (digest.prefixText (minPrefix + m)) = .ok none :=
    record?_of_missing _ missing rfl
  rw [slot_of_status _ (status_crowded digest within), unrecorded]
  rfl

/-- A config whose prefixes are all taken loses what was written into its file. -/
theorem whole_entry_overwritten :
    let digest := Sha256.hashText "a: 1\n"
    let path := entryPath ⟨"configs"⟩ digest.text
    (crowded digest 61).readBytes path = .ok "rewritten".toUTF8 ∧
    ((persist Sha256.hashText ⟨"configs"⟩ ⟨[(.string "a", .integer 1)]⟩).run
      (crowded digest 61)).2.readBytes path = .ok "a: 1\n".toUTF8 ∧
    "rewritten".toUTF8 ≠ "a: 1\n".toUTF8 := by
  intro digest path
  have text : (⟨[(.string "a", .integer 1)]⟩ : ClusterConfig).toYaml = .ok "a: 1\n" := by
    decide +kernel
  have there : (crowded digest 61).readBytes path = .ok "rewritten".toUTF8 := by
    have found := status_crowded digest (show 60 < 61 by decide)
    rw [show minPrefix + 60 = 64 from rfl, digest.prefixText_whole] at found
    exact Tree.readBytes_of_status found
  refine ⟨there, readBytes_of_whole text (fun m low high => ?_) there, by decide⟩
  obtain ⟨k, rfl⟩ := Nat.exists_eq_add_of_le low
  exact slot_crowded digest (by simp only [minPrefix] at high; omega)

end CloudCluster.ConfigStore
