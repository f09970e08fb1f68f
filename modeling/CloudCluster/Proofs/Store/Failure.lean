import CloudCluster.Proofs.Files.Making
import CloudCluster.Proofs.Store.Persist

/-!
What is left behind by a call that fails.

A call that fails has changed nothing but for directories on the way to the one of the
store, unless it `HalfWrites`: the entry was written and the record was refused. A call
after the reason was removed (`Remedied`) then answers what the first one would have
answered without it (`unchanged_of_failed`). An entry that is left without its record is
taken for that of another config, and is never answered for its own.

A write is done or refused as a whole (`Files.Tree`), so a call can stop between the
entry and the record, but not within either of them.
-/

namespace CloudCluster

open Files

namespace ConfigStore

variable {digestOf : String → Digest} {store : ConfigStore} {config : ClusterConfig}
  {tree other made later : Tree} {n : Nat}

theorem record?_of_alike (alike : tree.Alike other) (name : String) :
    store.record? other name = store.record? tree name := by
  unfold record?
  rw [Tree.readText_congr (alike.status (store.recordPath name))]

theorem slot_of_alike (alike : tree.Alike other) (digest : Digest) (n : Nat) :
    store.slot other digest n = store.slot tree digest n := by
  unfold slot
  dsimp only
  rw [alike.status, record?_of_alike alike]

theorem choose_of_alike (alike : tree.Alike other) (digest : Digest) (lengths : List Nat) :
    store.choose other digest lengths = store.choose tree digest lengths := by
  induction lengths with
  | nil => rfl
  | cons n rest ih => rw [choose, choose, slot_of_alike alike, ih]

/-- In directories that are alike, a config gets the same path. -/
theorem persist_of_alike {otherMade : Tree} {path : Path} (alike : made.Alike otherMade)
    (ensured : (Action.ensureDirectory store.dir dirMode).run tree = (.ok (), made))
    (ensured' : (Action.ensureDirectory store.dir dirMode).run other = (.ok (), otherMade))
    (answered : ((persist digestOf store config).run tree).1 = .ok path) :
    ((persist digestOf store config).run other).1 = .ok path := by
  rw [run_persist, ensured] at answered
  rw [run_persist, ensured']
  dsimp only at answered ⊢
  cases text : config.toYaml with
  | error error =>
      rw [text] at answered
      cases answered
  | ok yaml =>
      rw [text] at answered
      dsimp only at answered ⊢
      rw [choose_of_alike alike]
      rcases choice : store.choose made (digestOf yaml) prefixLengths with _ | ⟨n, isFree⟩
      · rw [choice] at answered
        cases answered
      · rw [choice] at answered
        cases isFree with
        | false =>
            simp only [Bool.false_eq_true, if_false] at answered ⊢
            exact answered
        | true =>
            simp only [if_true, run_writeEntry] at answered ⊢
            cases wrote : made.writeText (store.entryPath ((digestOf yaml).prefixText n)) yaml with
            | error fault =>
                rw [wrote] at answered
                cases answered
            | ok entered =>
                obtain ⟨otherEntered, wroteOther, alikeEntered⟩ := alike.writeText wrote
                simp only [wrote, wroteOther] at answered ⊢
                cases recorded : entered.writeText
                    (store.recordPath ((digestOf yaml).prefixText n)) (digestOf yaml).text with
                | error fault =>
                    rw [recorded] at answered
                    cases answered
                | ok last =>
                    obtain ⟨otherLast, recordedOther, _⟩ := alikeEntered.writeText recorded
                    rw [recorded] at answered
                    rw [recordedOther]
                    exact answered

/-! ### What a failed call leaves -/

/-- The entry of a config is written, with other contents than before if it was there,
and then its record is refused. -/
def HalfWrites (digestOf : String → Digest) (store : ConfigStore) (config : ClusterConfig)
    (tree : Tree) : Prop :=
  ∃ made yaml n entered fault,
    (Action.ensureDirectory store.dir dirMode).run tree = (.ok (), made) ∧
    config.toYaml = .ok yaml ∧ Chosen store made (digestOf yaml) minPrefix n true ∧
    made.writeText (store.entryPath ((digestOf yaml).prefixText n)) yaml = .ok entered ∧
    entered.writeText (store.recordPath ((digestOf yaml).prefixText n)) (digestOf yaml).text =
      .error fault ∧
    made.readBytes (store.entryPath ((digestOf yaml).prefixText n)) ≠ .ok yaml.toUTF8

/-- Two trees that differ only where a call has made something, such as those that the
trees before and after it become when what was in its way is taken away. -/
structure Remedied (tree later mended retried : Tree) : Prop where
  home : mended.workingDirectory = tree.workingDirectory
  workingDirectory : retried.workingDirectory = mended.workingDirectory
  same_or_made : ∀ place, retried.find? place = mended.find? place ∨
    tree.find? place = none ∧ mended.find? place = none ∧
      retried.find? place = later.find? place

/-- A write of what is there already changes nothing. -/
theorem alike_of_writeText {name text : String} {entered : Tree} (isName : IsName name)
    (wrote : made.writeText (Path.join store.dir name) text = .ok entered)
    (same : made.readBytes (Path.join store.dir name) = .ok text.toUTF8) : made.Alike entered := by
  obtain ⟨mode, found⟩ := Tree.status_of_readBytes same
  obtain ⟨place, opens, _, here⟩ := (Tree.status_join_iff isName).mp found
  obtain ⟨place', mode', opens', _, rfl, replaced⟩ := Tree.insert_of_writeBytes isName wrote
  have samePlace : place' = place := opens'.place_eq.trans opens.place_eq.symm
  subst samePlace
  obtain ⟨before, eq⟩ := replaced _ here
  cases eq
  refine ⟨rfl, funext fun other => ?_⟩
  by_cases there : other = place' ++ [name]
  · subst there
    rw [Tree.find?_insert_self made (by simp), here]
  · rw [Tree.find?_insert_of_ne made there]

/-- A failed call that does not write by halves has made directories at most. -/
theorem left_of_failed {error : ClusterError}
    (failed : ((persist digestOf store config).run tree).1 = .error error)
    (whole : ¬ HalfWrites digestOf store config tree) :
    ((Action.ensureDirectory store.dir dirMode).run tree).2.Alike
      ((persist digestOf store config).run tree).2 := by
  have persists := persists_run digestOf store config tree
  rw [failed] at persists
  generalize ((persist digestOf store config).run tree).2 = later at persists
  cases persists with
  | unmade ensured | unchosen ensured | unwritten ensured =>
      rw [ensured]
      exact .refl _
  | @unrecorded yaml made _ n fault ensured text chosen wrote refused =>
      rw [ensured]
      have same : made.readBytes (store.entryPath ((digestOf yaml).prefixText n)) =
          .ok yaml.toUTF8 := by
        by_contra differs
        exact whole ⟨made, yaml, n, _, fault, ensured, text, chosen, wrote, refused, differs⟩
      exact alike_of_writeText (isName_entryName ((digestOf yaml).slashless_prefixText n)) wrote same

/-- What it has made are stops on the way to the directory. -/
theorem makes_of_left
    (left : ((Action.ensureDirectory store.dir dirMode).run tree).2.Alike later) :
    tree.Makes dirMode (Place.Stop (tree.start store.dir) store.dir) later := by
  have makes := Action.makes_makeDirectories dirMode (store.dir.utf8ByteSize + 1) store.dir tree
  refine ⟨left.workingDirectory.trans makes.workingDirectory, fun place => ?_⟩
  rw [left.find?]
  exact makes.kept_or_made place

theorem run_ensure_empty (tree : Tree) (mode : Nat) :
    (Action.ensureDirectory "" mode).run tree = (.ok (), tree) := rfl

/-- Where the directory can be made, it can be made in the tree that the call has left
too, and is the same then. -/
theorem ensure_of_remedied {mended retried : Tree}
    (left : ((Action.ensureDirectory store.dir dirMode).run tree).2.Alike later)
    (remedied : Remedied tree later mended retried)
    (ensured : (Action.ensureDirectory store.dir dirMode).run mended = (.ok (), made)) :
    ∃ otherMade, (Action.ensureDirectory store.dir dirMode).run retried = (.ok (), otherMade) ∧
      made.Alike otherMade := by
  by_cases empty : store.dir = ""
  · rw [empty, run_ensure_empty] at left ensured
    rw [empty, run_ensure_empty]
    cases ensured
    refine ⟨retried, rfl, remedied.workingDirectory, funext fun place => ?_⟩
    rcases remedied.same_or_made place with same | ⟨missing, missing', same⟩
    · exact same
    · rw [same, congrFun left.find? place, missing, missing']
  · have start : mended.start store.dir = tree.start store.dir := by
      rw [Tree.start, Tree.start, remedied.home]
    have makes : mended.Makes dirMode (Place.Stop (mended.start store.dir) store.dir) retried := by
      refine ⟨remedied.workingDirectory, fun place => ?_⟩
      rcases remedied.same_or_made place with same | ⟨missing, missing', same⟩
      · exact .inl same
      · rcases (makes_of_left left).kept_or_made place with kept | ⟨_, stops, found⟩
        · exact .inl (same.trans (kept.trans (missing.trans missing'.symm)))
        · exact .inr ⟨missing', start ▸ stops, same.trans found⟩
    exact Action.ensureDirectory_of_makes empty makes ensured

/-- A half-written entry is not what it was. -/
theorem HalfWrites.entry (half : HalfWrites digestOf store config tree) :
    ∃ name bytes, '/' ∉ name.toList ∧
      ((persist digestOf store config).run tree).2.readBytes (store.entryPath name) = .ok bytes ∧
      tree.readBytes (store.entryPath name) ≠ .ok bytes := by
  obtain ⟨made, yaml, n, entered, fault, ensured, text, chosen, wrote, refused, differs⟩ := half
  have slashless := (digestOf yaml).slashless_prefixText n
  have ran : ((persist digestOf store config).run tree).2 = entered := by
    rw [run_persist, ensured, text]
    dsimp only
    rw [choose_eq_ok_iff.mpr chosen]
    simp only [if_true, run_writeEntry, wrote, refused]
  refine ⟨(digestOf yaml).prefixText n, yaml.toUTF8, slashless, ?_, ?_⟩
  · obtain ⟨mode, fresh⟩ := status_of_writeEntry slashless wrote
    rw [ran]
    exact Tree.readBytes_of_status fresh
  · intro read
    obtain ⟨mode, found⟩ := Tree.status_of_readBytes read
    have kept := (adds_of_ensure ensured).status (isName_entryName slashless) found
    exact differs (Tree.readBytes_of_status kept)

/-- What was answered is under a prefix that the store has settled on. -/
theorem chosen_of_answered {path : Path} {yaml : String}
    (ensured : (Action.ensureDirectory store.dir dirMode).run tree = (.ok (), made))
    (text : config.toYaml = .ok yaml)
    (answered : ((persist digestOf store config).run tree).1 = .ok path) :
    ∃ n isFree, Chosen store made (digestOf yaml) minPrefix n isFree ∧
      path = store.entryPath ((digestOf yaml).prefixText n) := by
  have persists := persists_run digestOf store config tree
  rw [answered] at persists
  generalize ((persist digestOf store config).run tree).2 = later at persists
  cases persists with
  | found ensured' text' chosen | written ensured' text' chosen =>
      cases ensured.symm.trans ensured'
      cases text.symm.trans text'
      exact ⟨_, _, chosen, rfl⟩

/-- An entry without its record is taken for that of another config: its path is never
answered for the config that it was written for. -/
theorem ne_of_unrecorded {yaml : String} {entry : Entry} {fault : Fault} (short : n < 64)
    (text : config.toYaml = .ok yaml)
    (found : tree.status (store.entryPath ((digestOf yaml).prefixText n)) = .ok entry)
    (missing : tree.status (store.recordPath ((digestOf yaml).prefixText n)) = .error fault)
    (notFound : fault.isNotFound = true) :
    ((persist digestOf store config).run tree).1 ≠
      .ok (store.entryPath ((digestOf yaml).prefixText n)) := by
  intro answered
  have slashless := (digestOf yaml).slashless_prefixText
  have taken : store.slot tree (digestOf yaml) n = .ok .taken := by
    rw [slot_of_status _ found, record?_of_missing _ missing notFound]
    rfl
  obtain ⟨m, isFree, chosen, path⟩ :=
    chosen_of_answered (ensure_of_status (slashless n) found) text answered
  have same := entryPath_inj store (slashless n) (slashless m) path
  cases chosen with
  | free range _ here | own range _ here =>
      have equal : n = m :=
        Digest.length_eq_of_prefixText _ (Nat.le_of_lt short) (Nat.le_of_lt range.2) same
      subst equal
      cases taken.symm.trans here
  | whole =>
      have equal : n = 64 :=
        Digest.length_eq_of_prefixText _ (Nat.le_of_lt short) (Nat.le_refl 64) same
      omega

/-- A call that fails leaves the tree as it was, but for directories on the way to the one
of the store, and a call after its reason was removed is answered as the first one would
have been; unless the call writes by halves, which changes an entry. -/
theorem unchanged_of_failed {error : ClusterError}
    (failed : ((persist digestOf store config).run tree).1 = .error error) :
    (¬ HalfWrites digestOf store config tree →
      tree.Makes dirMode (Place.Stop (tree.start store.dir) store.dir)
        ((persist digestOf store config).run tree).2 ∧
      ∀ mended retried path,
        Remedied tree ((persist digestOf store config).run tree).2 mended retried →
        ((persist digestOf store config).run mended).1 = .ok path →
        ((persist digestOf store config).run retried).1 = .ok path) ∧
    (HalfWrites digestOf store config tree → ∃ name bytes, '/' ∉ name.toList ∧
      ((persist digestOf store config).run tree).2.readBytes (store.entryPath name) = .ok bytes ∧
      tree.readBytes (store.entryPath name) ≠ .ok bytes) := by
  refine ⟨?_, HalfWrites.entry⟩
  intro whole
  have left := left_of_failed failed whole
  refine ⟨makes_of_left left, ?_⟩
  intro mended retried path remedied answered
  rcases ensured : (Action.ensureDirectory store.dir dirMode).run mended with ⟨_ | _, made⟩
  · rw [run_persist, ensured] at answered
    cases answered
  · obtain ⟨otherMade, ensured', alike⟩ := ensure_of_remedied left remedied ensured
    exact persist_of_alike alike ensured ensured' answered

/-- A file is where the directory should be, and another directory is made on the way. -/
theorem persist_after_file_removed :
    let store : ConfigStore := ⟨"new/../cloud"⟩
    let config : ClusterConfig := ⟨[(.string "a", .integer 1)]⟩
    let tree : Tree := { entries := [(["cloud"], .file ⟨#[]⟩ 0o644)] }
    let later := ((persist Sha256.hashText store config).run tree).2
    let retried : Tree := { entries := [(["new"], .directory dirMode)] }
    ((persist Sha256.hashText store config).run tree).1 =
      .error (.io (.system .alreadyExists)) ∧
    tree.Makes dirMode (Place.Stop (tree.start store.dir) store.dir) later ∧
    Remedied tree later {} retried ∧
    ((persist Sha256.hashText store config).run retried).1 =
      .ok "new/../cloud/config-37b1.yml" := by
  intro store config tree later retried
  have failed : ((persist Sha256.hashText store config).run tree).1 =
      .error (.io (.system .alreadyExists)) := by decide +kernel
  have refused : ((Action.ensureDirectory store.dir dirMode).run tree).1 ≠ .ok () := by
    decide +kernel
  have whole : ¬ HalfWrites Sha256.hashText store config tree := by
    rintro ⟨made, _, _, _, _, ensured, _⟩
    rw [ensured] at refused
    exact refused rfl
  have remedied : Remedied tree later {} retried := by
    refine ⟨rfl, rfl, fun place => ?_⟩
    by_cases new : place = ["new"]
    · subst new
      exact .inr ⟨by decide, by decide, by decide +kernel⟩
    · left
      have other : (place == ["new"]) = false := beq_false_of_ne new
      simp [retried, Tree.find?, List.lookup_cons, other]
  have first : ((persist Sha256.hashText store config).run {}).1 =
      .ok "new/../cloud/config-37b1.yml" := by decide +kernel
  have unchanged := (unchanged_of_failed failed).1 whole
  exact ⟨failed, unchanged.1, remedied, unchanged.2 _ _ _ remedied first⟩

/-- A directory in the place of a record: the entry is left, a call after the directory
was removed makes another one, and the first call would not have. -/
theorem entry_left_without_record :
    let store : ConfigStore := ⟨"cloud"⟩
    let config : ClusterConfig := ⟨[(.string "a", .integer 1)]⟩
    let record := ["cloud", "config-37b1.sha256"]
    let tree : Tree :=
      { entries := [(["cloud"], .directory dirMode), (record, .directory 0o755)] }
    let later := ((persist Sha256.hashText store config).run tree).2
    ((persist Sha256.hashText store config).run tree).1 = .error (.io (.system .isDirectory)) ∧
    tree.readBytes "cloud/config-37b1.yml" = .error (.system .notFound) ∧
    later.readBytes "cloud/config-37b1.yml" = .ok "a: 1\n".toUTF8 ∧
    ((persist Sha256.hashText store config).run (later.erase record)).1 =
      .ok "cloud/config-37b12.yml" ∧
    ((persist Sha256.hashText store config).run (tree.erase record)).1 =
      .ok "cloud/config-37b1.yml" := by
  decide +kernel

end ConfigStore

end CloudCluster
