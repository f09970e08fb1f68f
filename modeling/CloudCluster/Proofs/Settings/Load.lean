import CloudCluster.Proofs.Files.Directory
import CloudCluster.Proofs.Settings.Variable
import CloudCluster.Settings.Load

/-!
What settings are loaded.

Each field is what the variables set at its path, or else what the file has there, or else its
default, whatever the other fields are (`load_layers`). The merged layers stay `Typed`, as
every variable fits the path of every field (`Typed.overlay`), and from a typed layer each
field is read at its own path alone (`ofFields_of_typed`). So what else stands in the file or
in the environment has no effect, nor has the path by which the file is named.
-/

namespace CloudCluster.Settings

open Toml Files

/-- The paths of the fields that settings are read from. -/
def fieldPaths : List (List String) :=
  [["config_dir"], ["socks_proxy"], ["template"], ["ray", "binary"]]

/-- A layer in which every value that names a field has its type. -/
structure Typed (layer : Fields) : Prop where
  text : ∀ field ∈ fieldPaths, ∀ value ∈ valueAt? layer field, (text? value).isSome
  table : ∀ value ∈ layer.lookup "ray", (fields? value).isSome

instance (layer : Fields) : Decidable (Typed layer) :=
  decidable_of_iff ((∀ field ∈ fieldPaths, ∀ value ∈ valueAt? layer field, (text? value).isSome) ∧
    ∀ value ∈ layer.lookup "ray", (fields? value).isSome)
    ⟨fun typed => ⟨typed.1, typed.2⟩, fun typed => ⟨typed.text, typed.table⟩⟩

/-- Variables of which each fits the path of every field. -/
def Fit (bindings : List (String × String)) : Prop :=
  ∀ field ∈ fieldPaths, ∀ binding ∈ bindings, Variable.Fits field binding

/-- A variable whose name leads to no field, nor to what is around or below one. -/
def NamesNoField (binding : String × String) : Prop :=
  ∀ field ∈ fieldPaths, ∀ target ∈ Variable.path? binding.1, Divergent target field

instance (binding : String × String) : Decidable (NamesNoField binding) :=
  inferInstanceAs (Decidable (∀ field ∈ fieldPaths, ∀ target ∈ Variable.path? binding.1,
    Divergent target field))

/-- The text that variables set at a path, or else the one that a layer has there. -/
def layered (layer : Fields) (bindings : List (String × String)) (field : List String) :
    Option String :=
  ((Variable.last? bindings field).or (valueAt? layer field)).bind text?

/-- The settings with a text, or none, for each field. -/
def ofTexts (text : List String → Option String) : Settings where
  configDir := (text ["config_dir"]).getD defaultConfigDir
  socksProxy := text ["socks_proxy"]
  template := text ["template"]
  launcher := text ["ray", "binary"]

/-- Two paths lead to one file, each from the directory where it is found. -/
def SameFile (tree : Tree) (path other : Path) : Prop :=
  ∃ seen ∈ findFile tree path, ∃ seenOther ∈ findFile tree other,
    ∃ place, seen.locate path = .ok place ∧ seenOther.locate other = .ok place

variable {tree : Tree} {layer fields : Fields} {bindings : List (String × String)}
  {path other : Path} {key : String}

/-! ### Reading fields -/

theorem textField_eq_ok (text : ∀ value ∈ fields.lookup key, (text? value).isSome) :
    textField key fields = .ok ((fields.lookup key).bind text?) := by
  unfold textField
  split
  · next found => rw [found]; rfl
  · next found => rw [found]; rfl
  · next value notText found =>
    have isText := text value found
    cases value with
    | string text => exact absurd rfl (notText text)
    | _ => cases isText

theorem launcherField_eq_ok (typed : Typed layer) :
    launcherField layer = .ok ((valueAt? layer ["ray", "binary"]).bind text?) := by
  have text := typed.text ["ray", "binary"] (by decide)
  have table := typed.table
  unfold launcherField
  split
  · next found => simp [valueAt?, found]
  · next found => cases table _ found
  · next value notArray found =>
    obtain ⟨inner, isTable⟩ := Option.isSome_iff_exists.mp (table value found)
    have inside : valueAt? layer ["ray", "binary"] = inner.lookup "binary" := by
      simp [valueAt?, found, isTable]
    rw [inside] at text ⊢
    rw [isTable]
    exact textField_eq_ok text

/-- From a typed layer, each field is read at its own path. -/
theorem ofFields_of_typed (typed : Typed layer) :
    ofFields layer = .ok (ofTexts fun field => (valueAt? layer field).bind text?) := by
  have field : ∀ key, [key] ∈ fieldPaths →
      textField key layer = .ok ((valueAt? layer [key]).bind text?) :=
    fun key mem => textField_eq_ok (typed.text [key] mem)
  rw [ofFields, field "config_dir" (by decide), field "socks_proxy" (by decide),
    field "template" (by decide), launcherField_eq_ok typed]
  rfl

theorem ofTexts_congr {text text' : List String → Option String}
    (same : ∀ field ∈ fieldPaths, text' field = text field) : ofTexts text' = ofTexts text := by
  rw [ofTexts, ofTexts, same _ (by decide), same _ (by decide), same _ (by decide),
    same _ (by decide)]

/-! ### Merging -/

/-- A typed layer stays typed under variables that fit the fields. -/
theorem Typed.overlay (typed : Typed layer) (fit : Fit bindings) :
    Typed (overlay layer (Variable.layer bindings)) where
  text field isField value found := by
    obtain ⟨clear, set⟩ := Variable.valueAt?_layer (fit field isField)
    rw [valueAt?_overlay clear, set] at found
    rcases Option.or_eq_some_iff.mp found with set | ⟨-, found⟩
    · exact Variable.isText_last? (fit field isField) set
    · exact typed.text field isField value found
  table value found := by
    obtain ⟨⟨once, tables⟩, -⟩ := Variable.valueAt?_layer (fit ["ray", "binary"] (by decide))
    rcases lookup_overlay_eq_some once found with below | ⟨laid, above, rfl⟩
    · exact typed.table value below
    · obtain ⟨inner, rfl, -⟩ := tables laid above
      rfl

/-- The settings of a file with typed fields and of variables that fit them. -/
theorem ofFile_of_typed (found : fileLayer tree path = .ok layer) (typed : Typed layer)
    (fit : Fit bindings) :
    ofFile tree path bindings = .ok (ofTexts (layered layer bindings)) := by
  have merged : ∀ field ∈ fieldPaths,
      (valueAt? (overlay layer (Variable.layer bindings)) field).bind text? =
        layered layer bindings field := by
    intro field isField
    obtain ⟨clear, set⟩ := Variable.valueAt?_layer (fit field isField)
    rw [valueAt?_overlay clear, set, layered]
  simp only [ofFile, found, bind, Except.bind, ofFields_of_typed (typed.overlay fit), mapError_ok,
    ofTexts_congr merged]

/-! ### The file -/

/-- The directory from which a tree is seen does not change what is in it. -/
theorem find?_of_findFile {seen : Tree} (found : findFile tree path = some seen) :
    seen.find? = tree.find? := by
  obtain ⟨place, -, rfl⟩ := List.mem_map.mp (List.mem_of_find?_eq_some found)
  rfl

/-- A file has one layer, whatever path leads to it. -/
theorem fileLayer_of_sameFile (same : SameFile tree path other) :
    fileLayer tree path = fileLayer tree other := by
  obtain ⟨seen, found, seenOther, foundOther, place, located, locatedOther⟩ := same
  have status : seen.status path = seenOther.status other := by
    rw [Tree.status, Tree.status, located, locatedOther]
    simp only [bind, Except.bind, find?_of_findFile found, find?_of_findFile foundOther]
  have read : seen.readText path = seenOther.readText other := by
    simp only [Tree.readText, Tree.readBytes, status]
  simp only [fileLayer, Option.mem_def.mp found, Option.mem_def.mp foundOther, read]

/-! ### Settings -/

/-- Each field is loaded as the variables set it, else as the file sets it, and else has its
default; nothing else in the file or in the environment counts, and neither does the path by
which the file is named. Of several variables that lead to one field the last counts, in
ascending order of name. -/
theorem load_layers (found : fileLayer tree fileName = .ok layer) (typed : Typed layer)
    (distinct : (bindings.map Prod.fst).Nodup) (fit : Fit bindings) :
    load tree bindings = .ok
      { configDir := (layered layer bindings ["config_dir"]).getD defaultConfigDir
        socksProxy := layered layer bindings ["socks_proxy"]
        template := layered layer bindings ["template"]
        launcher := layered layer bindings ["ray", "binary"] } ∧
    (∀ tree' layer' bindings', fileLayer tree' fileName = .ok layer' → Typed layer' →
      (bindings'.map Prod.fst).Nodup →
      (∀ field ∈ fieldPaths, valueAt? layer' field = valueAt? layer field) →
      (∀ binding, ¬ NamesNoField binding → (binding ∈ bindings' ↔ binding ∈ bindings)) →
      load tree' bindings' = load tree bindings) ∧
    ∀ path, SameFile tree path fileName → ofFile tree path bindings = load tree bindings := by
  have loaded := ofFile_of_typed found typed fit
  refine ⟨loaded, fun tree' layer' bindings' found' typed' distinct' sameFile sameVariables => ?_,
    fun path same => ?_⟩
  · have fit' : Fit bindings' := by
      intro field isField binding mem
      by_cases foreign : NamesNoField binding
      · exact .apart (foreign field isField)
      · exact fit field isField binding ((sameVariables binding foreign).mp mem)
    have same : ∀ field ∈ fieldPaths,
        layered layer' bindings' field = layered layer bindings field := by
      intro field isField
      have set : Variable.last? bindings' field = Variable.last? bindings field := by
        refine Variable.last?_congr distinct distinct' fun binding sets => ?_
        refine sameVariables binding fun foreign => ?_
        rw [(Variable.single_of_divergent (foreign field isField)).2] at sets
        cases sets
      rw [layered, layered, set, sameFile field isField]
    rw [load, ofFile_of_typed found' typed' fit', load, loaded, ofTexts_congr same]
  · rw [load, ofFile, ofFile, fileLayer_of_sameFile same]

/-- Settings are kept in the directory above the working directory. -/
def treeAbove : Tree where
  entries := [(["w"], .directory 0o755), (["w", "d"], .directory 0o755),
    (["w", "stratus.toml"], .file (String.toUTF8
      "config_dir = \"/srv\"\nsocks_proxy = \"near:1080\"\n[ray]\nbinary = \"/opt/ray\"\n") 0o644)]
  workingDirectory := ["w", "d"]

/-- One variable leads into a table, and one has an underscore in its key. -/
def twoVariables : List (String × String) :=
  [("STRATUS_RAY__BINARY", "/usr/bin/ray"), ("STRATUS_SOCKS_PROXY", "far:1080")]

/-- Two fields are set by variables, one by the file above the working directory and one not
at all. A variable beside the fields changes nothing, nor does the full path of the file. -/
theorem load_layers_from_above : ∃ layer, fileLayer treeAbove fileName = .ok layer ∧
    Typed layer ∧ (twoVariables.map Prod.fst).Nodup ∧ Fit twoVariables ∧
    load treeAbove twoVariables = .ok
      { configDir := "/srv", socksProxy := some "far:1080", launcher := some "/usr/bin/ray" } ∧
    load treeAbove (("STRATUS_RAY__LOG", "1") :: twoVariables) = load treeAbove twoVariables ∧
    ofFile treeAbove "/w/stratus.toml" twoVariables = load treeAbove twoVariables := by
  have inOrder : ∀ layer field, layered layer twoVariables field =
      ((twoVariables.reverse.findSome? (Variable.set? field)).or (valueAt? layer field)).bind
        text? := by
    intro layer field
    rw [layered, Variable.last?, List.mergeSort_of_pairwise (by decide +kernel)]
  have read : (fileLayer treeAbove fileName).toOption.any (fun layer => decide (Typed layer ∧
      ∀ setting ∈ [(["config_dir"], some "/srv"), (["socks_proxy"], some "far:1080"),
        (["template"], none), (["ray", "binary"], some "/usr/bin/ray")],
        ((twoVariables.reverse.findSome? (Variable.set? setting.1)).or
          (valueAt? layer setting.1)).bind text? = setting.2)) = true := by
    decide +kernel
  cases found : fileLayer treeAbove fileName with
  | error e =>
      rw [found] at read
      cases read
  | ok layer =>
      rw [found] at read
      obtain ⟨typed, values⟩ := of_decide_eq_true read
      simp only [← inOrder, List.forall_mem_cons] at values
      obtain ⟨configDir, socksProxy, template, launcher, -⟩ := values
      have distinct : (twoVariables.map Prod.fst).Nodup := by decide +kernel
      have fit : Fit twoVariables := by
        have each : ∀ field ∈ fieldPaths, ∀ binding ∈ twoVariables,
            Variable.path? binding.1 = some field ∧ (text? (Variable.value binding.2)).isSome ∨
              ∀ target ∈ Variable.path? binding.1, Divergent target field := by
          decide +kernel
        intro field isField binding mem
        rcases each field isField binding mem with ⟨target, text⟩ | elsewhere
        · exact .text target text
        · exact .apart elsewhere
      obtain ⟨loaded, unmoved, named⟩ := load_layers found typed distinct fit
      rw [configDir, socksProxy, template, launcher] at loaded
      refine ⟨layer, rfl, typed, distinct, fit, loaded, ?_, named _ ?_⟩
      · refine unmoved _ layer _ found typed (by decide +kernel) (fun _ _ => rfl) ?_
        intro binding names
        have other : binding ≠ ("STRATUS_RAY__LOG", "1") := by
          rintro rfl
          exact names (by decide +kernel)
        simp [other]
      · exact ⟨treeAbove, by decide +kernel, { treeAbove with workingDirectory := ["w"] },
          by decide +kernel, ["w", "stratus.toml"], by decide +kernel, by decide +kernel⟩

end CloudCluster.Settings
