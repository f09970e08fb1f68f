import CloudCluster.Proofs.Store.Persist

/-!
Histories of a directory of configs.

The store persists configs into a directory, and in between the provisioning tool
rewrites files of configs that are there. Two things carry over any such history:
what stands under a prefix stays there, and its record stays what it is
(`keeps_visit`). So the prefix that a call has settled on is `Settled` from then
on (`Settled.keep`), and later calls find the config there and no other one.
-/

namespace CloudCluster.ConfigStore

open Files

variable {digestOf : String → Digest} {store : ConfigStore} {config : ClusterConfig}
  {tree made entered later : Tree} {digest : Digest} {name yaml : String} {n : Nat}

/-! ### Histories -/

/-- What happens to a directory of configs. -/
inductive Visit where
  /-- The store persists a config. -/
  | persist (config : ClusterConfig)
  /-- The provisioning tool replaces the contents of the file of a config. -/
  | rewrite (name : String) (bytes : ByteArray)

/-- A config that the store has been given, and its answer. -/
structure Call where
  config : ClusterConfig
  result : Except ClusterError Path

/-- The tree after the provisioning tool has replaced the contents of the file of a
config. It makes no new file. -/
def rewritten (store : ConfigStore) (tree : Tree) (name : String) (bytes : ByteArray) : Tree :=
  if '/' ∉ name.toList ∧ tree.isFile (store.entryPath name) then
    match tree.writeBytes (store.entryPath name) bytes with
    | .ok later => later
    | .error _ => tree
  else tree

/-- The tree after a visit. -/
def visited (digestOf : String → Digest) (store : ConfigStore) (tree : Tree) : Visit → Tree
  | .persist config => ((persist digestOf store config).run tree).2
  | .rewrite name bytes => store.rewritten tree name bytes

/-- The calls of the store in a history, first call first. -/
def calls (digestOf : String → Digest) (store : ConfigStore) : Tree → List Visit → List Call
  | _, [] => []
  | tree, visit :: rest =>
    let behind := calls digestOf store (visited digestOf store tree visit) rest
    match visit with
    | .persist config => ⟨config, ((persist digestOf store config).run tree).1⟩ :: behind
    | .rewrite _ _ => behind

/-- A call agrees with an earlier one: if that has been given a path, the same text is
given the path again, and a text of another digest is not. -/
def Consistent (digestOf : String → Digest) (earlier call : Call) : Prop :=
  ∀ path, earlier.result = .ok path → ∃ yaml, earlier.config.toYaml = .ok yaml ∧
    (call.config.toYaml = .ok yaml → call.result = .ok path) ∧
    ∀ other, call.config.toYaml = .ok other → digestOf other ≠ digestOf yaml →
      call.result ≠ .ok path

/-! ### What stays in the directory -/

/-- All that is there stays there, and so do the records of entries under prefixes. -/
structure Keeps (store : ConfigStore) (tree later : Tree) : Prop where
  grown : tree.Extends later
  recorded : ∀ name entry, '/' ∉ name.toList → name.toList.length < 64 →
    tree.status (store.entryPath name) = .ok entry →
    later.status (store.recordPath name) = tree.status (store.recordPath name)

namespace Keeps

theorem refl (store : ConfigStore) (tree : Tree) : Keeps store tree tree :=
  ⟨.refl tree, fun _ _ _ _ _ => rfl⟩

theorem trans (first : Keeps store tree made) (second : Keeps store made later) :
    Keeps store tree later where
  grown := first.grown.trans second.grown
  recorded name entry slashless short found := by
    obtain ⟨entry', found', _⟩ := first.grown.status (isName_entryName slashless) found
    rw [second.recorded name entry' slashless short found',
      first.recorded name entry slashless short found]

theorem status (keeps : Keeps store tree later) (slashless : '/' ∉ name.toList) {entry : Entry}
    (found : tree.status (store.entryPath name) = .ok entry) :
    ∃ entry', later.status (store.entryPath name) = .ok entry' := by
  obtain ⟨entry', found', _⟩ := keeps.grown.status (isName_entryName slashless) found
  exact ⟨entry', found'⟩

/-- A slot that is not free stays what it is. -/
theorem slot (keeps : Keeps store tree later) (bound : n < 64) {slot : Slot}
    (looked : store.slot tree digest n = .ok slot) (occupied : slot ≠ .free) :
    store.slot later digest n = .ok slot := by
  have slashless := digest.slashless_prefixText n
  have short : (digest.prefixText n).toList.length < 64 := by
    rw [digest.length_prefixText (Nat.le_of_lt bound)]
    exact bound
  obtain ⟨entry, found⟩ := status_of_slot looked occupied
  obtain ⟨entry', found'⟩ := keeps.status slashless found
  have same : store.record? later (digest.prefixText n) =
      store.record? tree (digest.prefixText n) := by
    unfold record?
    rw [Tree.readText_congr (keeps.recorded _ entry slashless short found)]
  rw [slot_of_status store found', same, ← slot_of_status store found, looked]

end Keeps

theorem keeps_of_ensure {result : Except Fault Unit}
    (ensured : (Action.ensureDirectory store.dir dirMode).run tree = (result, made)) :
    Keeps store tree made where
  grown := (adds_of_ensure ensured).toExtends
  recorded name _ slashless _ found := by
    cases ensured.symm.trans (ensure_of_status slashless found)
    rfl

theorem keeps_of_writeEntry {bytes : ByteArray} (slashless : '/' ∉ name.toList)
    (wrote : tree.writeBytes (store.entryPath name) bytes = .ok later) :
    Keeps store tree later where
  grown := Tree.extends_of_writeBytes (isName_entryName slashless) wrote
  recorded other _ slashless' _ _ :=
    Tree.status_of_writeBytes_of_ne (isName_entryName slashless) wrote
      (isName_recordName slashless') (entryName_ne_recordName name other).symm

/-- The record of a new entry, or under the whole digest, is none of those that are
kept. -/
theorem Chosen.keeps_of_writeRecord (chosen : Chosen store tree digest minPrefix n true)
    (wrote : tree.writeText (store.entryPath (digest.prefixText n)) yaml = .ok entered)
    (wrote' : entered.writeText (store.recordPath (digest.prefixText n)) digest.text = .ok later) :
    Keeps store tree later where
  grown := by
    have slashless := digest.slashless_prefixText n
    have first := Tree.extends_of_writeBytes (isName_entryName slashless) wrote
    exact first.trans (Tree.extends_of_writeBytes (isName_recordName slashless) wrote')
  recorded name _ slashless short found := by
    have slashless' := digest.slashless_prefixText n
    have apart : name ≠ digest.prefixText n := by
      rintro rfl
      rcases chosen.missing_or_whole with ⟨fault, missing, _⟩ | ⟨rfl, _⟩
      · cases found.symm.trans missing
      · rw [digest.length_prefixText (Nat.le_refl 64)] at short
        exact Nat.lt_irrefl 64 short
    rw [status_record_of_writeRecord slashless' wrote' slashless apart,
      status_record_of_writeEntry slashless' wrote slashless]

/-- Persisting keeps what is there. -/
theorem Persists.keeps {result : Except ClusterError Path}
    (persists : Persists digestOf store config tree result later) : Keeps store tree later := by
  cases persists with
  | unmade ensured => exact keeps_of_ensure ensured
  | unchosen ensured => exact keeps_of_ensure ensured
  | found ensured => exact keeps_of_ensure ensured
  | unwritten ensured => exact keeps_of_ensure ensured
  | unrecorded ensured _ _ wrote =>
      exact (keeps_of_ensure ensured).trans
        (keeps_of_writeEntry (Digest.slashless_prefixText _ _) wrote)
  | written ensured _ chosen wrote wrote' =>
      exact (keeps_of_ensure ensured).trans (chosen.keeps_of_writeRecord wrote wrote')

/-- A visit keeps what is there. -/
theorem keeps_visit (digestOf : String → Digest) (store : ConfigStore) (tree : Tree)
    (visit : Visit) : Keeps store tree (visited digestOf store tree visit) := by
  cases visit with
  | persist config => exact (persists_run digestOf store config tree).keeps
  | rewrite name bytes =>
      simp only [visited, rewritten]
      split
      · next there =>
        cases wrote : tree.writeBytes (store.entryPath name) bytes with
        | ok later => exact keeps_of_writeEntry there.1 wrote
        | error fault => exact .refl store tree
      · exact .refl store tree

/-! ### Settled prefixes -/

/-- The prefix of `n` digits is settled on: it belongs to the digest and all shorter
ones are taken, or it is the whole digest, under which both files are there. -/
inductive Settled (store : ConfigStore) (tree : Tree) (digest : Digest) : Nat → Prop where
  | own {n : Nat} (chosen : Chosen store tree digest minPrefix n false) :
      Settled store tree digest n
  | whole (taken : ∀ m, minPrefix ≤ m → m < 64 → store.slot tree digest m = .ok .taken)
      (entry : tree.isFile (store.entryPath (digest.prefixText 64)))
      (record : tree.isFile (store.recordPath (digest.prefixText 64))) :
      Settled store tree digest 64

theorem isFile_iff {path : Path} :
    tree.isFile path = true ↔ ∃ bytes mode, tree.status path = .ok (.file bytes mode) := by
  unfold Tree.isFile
  rcases tree.status path with _ | ⟨bytes, mode⟩ | mode <;> simp [Entry.isDirectory]

theorem isFile_of_extends (grown : tree.Extends later) {dir : Path} (isName : IsName name)
    (there : tree.isFile (Path.join dir name) = true) :
    later.isFile (Path.join dir name) = true := by
  obtain ⟨bytes, mode, found⟩ := isFile_iff.mp there
  obtain ⟨entry, found', same⟩ := grown.status isName found
  unfold Tree.isFile
  rw [found']
  change (!entry.isDirectory) = true
  rw [same]
  rfl

theorem taken_of_keeps (keeps : Keeps store tree later) (bound : n ≤ 64)
    (taken : ∀ m, minPrefix ≤ m → m < n → store.slot tree digest m = .ok .taken) :
    ∀ m, minPrefix ≤ m → m < n → store.slot later digest m = .ok .taken := by
  intro m low high
  exact keeps.slot (by omega) (taken m low high) (by simp)

/-- A prefix that is settled on stays so. -/
theorem Settled.keep (settled : Settled store tree digest n) (keeps : Keeps store tree later) :
    Settled store later digest n := by
  cases settled with
  | own chosen =>
      cases chosen with
      | own range taken here =>
          exact .own (.own range (taken_of_keeps keeps (by omega) taken)
            (keeps.slot range.2 here (by simp)))
  | whole taken entry record =>
      have slashless := digest.slashless_prefixText 64
      exact .whole (taken_of_keeps keeps (Nat.le_refl 64) taken)
        (isFile_of_extends keeps.grown (isName_entryName slashless) entry)
        (isFile_of_extends keeps.grown (isName_recordName slashless) record)

/-- The path of a prefix that is settled on belongs to one digest. -/
theorem Settled.digest_eq {other : Digest} {m : Nat} (settled : Settled store tree digest n)
    (settled' : Settled store tree other m)
    (same : store.entryPath (digest.prefixText n) = store.entryPath (other.prefixText m)) :
    digest = other := by
  have bound {digest : Digest} {n : Nat} (settled : Settled store tree digest n) : n ≤ 64 := by
    cases settled with
    | own chosen =>
        cases chosen with
        | own range => exact Nat.le_of_lt range.2
    | whole => exact Nat.le_refl 64
  have names := store.entryPath_inj (digest.slashless_prefixText n) (other.slashless_prefixText m)
    same
  have lengths := digest.length_eq_of_prefixText (bound settled) (bound settled') names
  subst lengths
  apply Digest.eq_of_text
  cases settled with
  | whole => rw [← digest.prefixText_whole, names, other.prefixText_whole]
  | own chosen =>
      cases settled' with
      | whole => rw [← digest.prefixText_whole, names, other.prefixText_whole]
      | own chosen' =>
          cases chosen with
          | own _ _ here =>
              cases chosen' with
              | own _ _ here' =>
                  have record := record_of_own here
                  rw [names, record_of_own here'] at record
                  exact (Option.some.inj (Except.ok.inj record)).symm

/-- A prefix that has been written is settled on. -/
theorem Chosen.settled (chosen : Chosen store tree digest minPrefix n true)
    (wrote : tree.writeText (store.entryPath (digest.prefixText n)) yaml = .ok entered)
    (wrote' : entered.writeText (store.recordPath (digest.prefixText n)) digest.text = .ok later) :
    Settled store later digest n := by
  have slashless := digest.slashless_prefixText n
  have keeps := chosen.keeps_of_writeRecord wrote wrote'
  obtain ⟨mode, entry⟩ := status_of_writeEntry slashless wrote
  rw [← status_entry_of_writeRecord slashless wrote' slashless] at entry
  obtain ⟨mode', record⟩ := Tree.status_of_writeBytes (isName_recordName slashless) wrote'
  cases chosen with
  | free range taken _ =>
      have read : store.record? later (digest.prefixText n) = .ok (some digest.text) := by
        unfold record?
        rw [show later.readText (store.recordPath (digest.prefixText n)) = .ok digest.text from
          Tree.readText_of_status record]
        exact congrArg (Except.ok ∘ some) digest.trimText_text
      have here : store.slot later digest n = .ok .own := by
        rw [slot_of_status store entry, read]
        exact congrArg Except.ok (if_pos rfl)
      exact .own (.own range (taken_of_keeps keeps (by omega) taken) here)
  | whole taken =>
      exact .whole (taken_of_keeps keeps (Nat.le_refl 64) taken)
        (isFile_iff.mpr ⟨_, _, entry⟩) (isFile_iff.mpr ⟨_, _, record⟩)

/-- A call that answers a path has settled on its prefix. -/
theorem Persists.settled {result : Except ClusterError Path} {path : Path}
    (persists : Persists digestOf store config tree result later) (answered : result = .ok path) :
    ∃ yaml n, config.toYaml = .ok yaml ∧ path = store.entryPath ((digestOf yaml).prefixText n) ∧
      Settled store later (digestOf yaml) n := by
  cases persists with
  | unmade | unchosen | unwritten | unrecorded => cases answered
  | found _ text chosen =>
      cases answered
      exact ⟨_, _, text, rfl, .own chosen⟩
  | written _ text chosen wrote wrote' =>
      cases answered
      exact ⟨_, _, text, rfl, chosen.settled wrote wrote'⟩

/-- A call answers the path of the prefix that is settled on. -/
theorem persist_of_settled (settled : Settled store tree (digestOf yaml) n)
    (text : config.toYaml = .ok yaml) :
    ((persist digestOf store config).run tree).1 =
      .ok (store.entryPath ((digestOf yaml).prefixText n)) := by
  cases settled with
  | own chosen =>
      obtain ⟨entry, found⟩ : ∃ entry,
          tree.status (store.entryPath ((digestOf yaml).prefixText n)) = .ok entry := by
        cases chosen with
        | own _ _ here => exact status_of_slot here (by simp)
      rw [run_persist, ensure_of_status (Digest.slashless_prefixText _ _) found, text]
      dsimp only
      rw [choose_eq_ok_iff.mpr chosen]
      rfl
  | whole taken entry record =>
      have slashless := (digestOf yaml).slashless_prefixText 64
      obtain ⟨bytes, mode, found⟩ := isFile_iff.mp entry
      obtain ⟨entered, wrote, ran⟩ := run_persist_of_whole text taken found
      obtain ⟨bytes', mode', found'⟩ := isFile_iff.mp record
      rw [← status_record_of_writeEntry slashless wrote slashless] at found'
      obtain ⟨recorded, wrote'⟩ : ∃ recorded, entered.writeText
          (store.recordPath ((digestOf yaml).prefixText 64)) (digestOf yaml).text = .ok recorded :=
        Tree.writeBytes_of_status (isName_recordName slashless) found'
      rw [ran, wrote']

/-! ### Answers over a history -/

/-- Once a prefix is settled on, all later calls agree with that. -/
theorem calls_of_settled (visits : List Visit) (settled : Settled store tree (digestOf yaml) n) :
    ∀ call ∈ calls digestOf store tree visits,
      (call.config.toYaml = .ok yaml →
        call.result = .ok (store.entryPath ((digestOf yaml).prefixText n))) ∧
      ∀ other, call.config.toYaml = .ok other → digestOf other ≠ digestOf yaml →
        call.result ≠ .ok (store.entryPath ((digestOf yaml).prefixText n)) := by
  induction visits generalizing tree with
  | nil => simp [calls]
  | cons visit rest ih =>
      have keeps := keeps_visit digestOf store tree visit
      have behind := ih (settled.keep keeps)
      cases visit with
      | rewrite name bytes => exact behind
      | persist config =>
          refine List.forall_mem_cons.mpr ⟨⟨persist_of_settled settled, ?_⟩, behind⟩
          intro other text differs answered
          obtain ⟨yaml', m, text', path, settled'⟩ :=
            (persists_run digestOf store config tree).settled answered
          cases text.symm.trans text'
          exact differs ((settled.keep keeps).digest_eq settled' path).symm

/-- Over any history of a directory, a text that has been given a path is given it
again, and no text of another digest is. -/
theorem calls_consistent (digestOf : String → Digest) (store : ConfigStore) (tree : Tree)
    (visits : List Visit) :
    (calls digestOf store tree visits).Pairwise (Consistent digestOf) := by
  induction visits generalizing tree with
  | nil => exact List.Pairwise.nil
  | cons visit rest ih =>
      have behind := ih (visited digestOf store tree visit)
      cases visit with
      | rewrite name bytes => exact behind
      | persist config =>
          refine List.pairwise_cons.mpr ⟨fun call mem path answered => ?_, behind⟩
          obtain ⟨yaml, n, text, rfl, settled⟩ :=
            (persists_run digestOf store config tree).settled answered
          obtain ⟨again, apart⟩ := calls_of_settled rest settled call mem
          exact ⟨yaml, text, again, apart⟩

/-- A config is found again behind a rewrite of its file. -/
example :
    let zeros : Digest := ⟨List.replicate 64 '0', by decide, by decide⟩
    (calls (fun _ => zeros) ⟨"configs"⟩ {}
      [.persist ⟨[]⟩, .rewrite "0000" "a: 1\n".toUTF8, .persist ⟨[]⟩]).map (·.result) =
      [.ok "configs/config-0000.yml", .ok "configs/config-0000.yml"] := by
  decide +kernel

end CloudCluster.ConfigStore
