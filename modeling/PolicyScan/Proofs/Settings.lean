import Mathlib
import PolicyScan.Proofs.FileStore
import PolicyScan.Settings

/-!
# Where settings come from

A file of settings counts as a whole or not at all.  It is good if it can be read, is
TOML, and has no value of a wrong kind; then every key that it has gives the value, and
any other key has its default (`read_eq_ok_iff`).  A file that is named decides alone.
Otherwise the first good one is chosen of those that are tried, and there always are
settings (`load_selects`).
-/

namespace PolicyScan.Settings

/-! ## Sections and keys -/

/-- The entries that a document has for a section with the given keys: the fields of a
table, or the values of an array in the order of the keys.  A date has none, as has a
section that is not there. -/
inductive HasSection (document : Toml.Table) (name : String) (keys : List String) :
    Toml.Table → Prop
  | absent (missing : document.lookup name = none) : HasSection document name keys []
  | table {fields : Toml.Table} (found : document.lookup name = some (.table fields)) :
    HasSection document name keys fields
  | array {items : List Toml.Value} (found : document.lookup name = some (.array items)) :
    HasSection document name keys (keys.zip items)
  | date {text : String} (found : document.lookup name = some (.date text)) :
    HasSection document name keys []

/-- The value that entries have for a key: what is given, or else the default. -/
inductive HasValue {α : Type} (decode? : Toml.Value → Option α) (entries : Toml.Table)
    (key : String) (fallback : α) : α → Prop
  | given {v : Toml.Value} {x : α} (found : entries.lookup key = some v)
    (decoded : decode? v = some x) : HasValue decode? entries key fallback x
  | absent (missing : entries.lookup key = none) : HasValue decode? entries key fallback fallback

theorem sectionOf_eq_ok_iff {document : Toml.Table} {name : String} {keys : List String}
    {entries : Toml.Table} :
    sectionOf document name keys = .ok entries ↔ HasSection document name keys entries := by
  constructor
  · intro done
    rw [sectionOf] at done
    split at done
    · next missing =>
        cases done
        exact .absent missing
    · next v found =>
        cases v with
        | table fields =>
            cases done
            exact .table found
        | array items =>
            cases done
            exact .array found
        | date text =>
            cases done
            exact .date found
        | _ => cases done
  · rintro (missing | found | found | found)
    · rw [sectionOf, missing]
    all_goals
      rw [sectionOf, found]
      rfl

theorem entry_eq_ok_iff {α : Type} {decode? : Toml.Value → Option α} {entries : Toml.Table}
    {key : String} {fallback x : α} :
    entry decode? entries key fallback = .ok x ↔ HasValue decode? entries key fallback x := by
  constructor
  · intro done
    rw [entry] at done
    split at done
    · next missing =>
        cases done
        exact .absent missing
    · next v found =>
        split at done
        · next decoded =>
            cases done
            exact .given found decoded
        · cases done
  · rintro (⟨found, decoded⟩ | missing)
    · simp only [entry, found, decoded]
    · rw [entry, missing]

/-! ## Documents -/

/-- The name of a format. -/
def format? (v : Toml.Value) : Option Report.Format := (name? v).bind Report.Format.ofName?

/-- The name of a severity. -/
def severity? (v : Toml.Value) : Option Severity := (name? v).bind Severity.ofName?

/-- The settings of a document, key by key. -/
structure Decodes (fallback : Settings) (document : Toml.Table) (s : Settings) : Prop where
  cache : ∃ entries, HasSection document "cache" ["dir"] entries ∧
    HasValue text? entries "dir" fallback.scan.directory s.scan.directory
  scan : ∃ entries,
    HasSection document "scan" ["max_depth", "entrypoint", "isolate_failures"] entries ∧
    HasValue count? entries "max_depth" fallback.scan.depth s.scan.depth ∧
    HasValue text? entries "entrypoint" fallback.scan.entrypoint s.scan.entrypoint ∧
    HasValue truth? entries "isolate_failures" fallback.scan.isolate s.scan.isolate
  output : ∃ entries, HasSection document "output" ["format", "severity_threshold"] entries ∧
    HasValue format? entries "format" fallback.format s.format ∧
    HasValue severity? entries "severity_threshold" fallback.threshold s.threshold

theorem ofDocument_eq_ok_iff {fallback s : Settings} {document : Toml.Table} :
    ofDocument fallback document = .ok s ↔ Decodes fallback document s := by
  simp only [ofDocument, bind_eq_ok_iff, sectionOf_eq_ok_iff, entry_eq_ok_iff]
  constructor
  · rintro ⟨cache, hasCache, scan, hasScan, output, hasOutput, directory, hasDirectory, depth,
      hasDepth, entrypoint, hasEntrypoint, isolate, hasIsolate, format, hasFormat, threshold,
      hasThreshold, done⟩
    cases done
    exact ⟨⟨cache, hasCache, hasDirectory⟩, ⟨scan, hasScan, hasDepth, hasEntrypoint, hasIsolate⟩,
      ⟨output, hasOutput, hasFormat, hasThreshold⟩⟩
  · rintro ⟨⟨cache, hasCache, hasDirectory⟩, ⟨scan, hasScan, hasDepth, hasEntrypoint, hasIsolate⟩,
      ⟨output, hasOutput, hasFormat, hasThreshold⟩⟩
    exact ⟨cache, hasCache, scan, hasScan, output, hasOutput, _, hasDirectory, _, hasDepth, _,
      hasEntrypoint, _, hasIsolate, _, hasFormat, _, hasThreshold, rfl⟩

/-- The value that entries have for a key is of the right kind, if there is one. -/
def Fits {α : Type} (decode? : Toml.Value → Option α) (entries : Toml.Table) (key : String) :
    Prop := ∀ v, entries.lookup key = some v → (decode? v).isSome

theorem exists_hasValue_iff {α : Type} {decode? : Toml.Value → Option α} {entries : Toml.Table}
    {key : String} {fallback : α} :
    (∃ x, HasValue decode? entries key fallback x) ↔ Fits decode? entries key := by
  constructor
  · rintro ⟨x, ⟨found, decoded⟩ | missing⟩ v given
    · rw [found] at given
      cases given
      exact Option.isSome_of_eq_some decoded
    · rw [missing] at given
      cases given
  · intro fits
    cases given : entries.lookup key with
    | none => exact ⟨fallback, .absent given⟩
    | some v =>
        obtain ⟨x, decoded⟩ := Option.isSome_iff_exists.mp (fits v given)
        exact ⟨x, .given given decoded⟩

/-- No section and no value of a document is of a wrong kind. -/
structure WellTyped (document : Toml.Table) : Prop where
  cache : ∃ entries, HasSection document "cache" ["dir"] entries ∧ Fits text? entries "dir"
  scan : ∃ entries,
    HasSection document "scan" ["max_depth", "entrypoint", "isolate_failures"] entries ∧
    Fits count? entries "max_depth" ∧ Fits text? entries "entrypoint" ∧
    Fits truth? entries "isolate_failures"
  output : ∃ entries, HasSection document "output" ["format", "severity_threshold"] entries ∧
    Fits format? entries "format" ∧ Fits severity? entries "severity_threshold"

/-- Whether a document counts does not depend on the defaults. -/
theorem exists_decodes_iff {fallback : Settings} {document : Toml.Table} :
    (∃ s, Decodes fallback document s) ↔ WellTyped document := by
  constructor
  · rintro ⟨s, ⟨cache, hasCache, hasDirectory⟩,
      ⟨scan, hasScan, hasDepth, hasEntrypoint, hasIsolate⟩,
      ⟨output, hasOutput, hasFormat, hasThreshold⟩⟩
    exact ⟨⟨cache, hasCache, exists_hasValue_iff.mp ⟨_, hasDirectory⟩⟩,
      ⟨scan, hasScan, exists_hasValue_iff.mp ⟨_, hasDepth⟩,
        exists_hasValue_iff.mp ⟨_, hasEntrypoint⟩, exists_hasValue_iff.mp ⟨_, hasIsolate⟩⟩,
      ⟨output, hasOutput, exists_hasValue_iff.mp ⟨_, hasFormat⟩,
        exists_hasValue_iff.mp ⟨_, hasThreshold⟩⟩⟩
  · rintro ⟨⟨cache, hasCache, directoryFits⟩,
      ⟨scan, hasScan, depthFits, entrypointFits, isolateFits⟩,
      ⟨output, hasOutput, formatFits, thresholdFits⟩⟩
    obtain ⟨directory, hasDirectory⟩ := exists_hasValue_iff.mpr directoryFits
    obtain ⟨depth, hasDepth⟩ := exists_hasValue_iff.mpr depthFits
    obtain ⟨entrypoint, hasEntrypoint⟩ := exists_hasValue_iff.mpr entrypointFits
    obtain ⟨isolate, hasIsolate⟩ := exists_hasValue_iff.mpr isolateFits
    obtain ⟨format, hasFormat⟩ := exists_hasValue_iff.mpr formatFits
    obtain ⟨threshold, hasThreshold⟩ := exists_hasValue_iff.mpr thresholdFits
    exact ⟨⟨⟨directory, depth, entrypoint, isolate⟩, format, threshold⟩,
      ⟨cache, hasCache, hasDirectory⟩, ⟨scan, hasScan, hasDepth, hasEntrypoint, hasIsolate⟩,
      ⟨output, hasOutput, hasFormat, hasThreshold⟩⟩

/-! ## Files -/

variable {store : FileStore} {home? project? : Option String} {path : String} {s : Settings}

/-- A file of which every key that is there gives its value, and any other the default. -/
def Good (store : FileStore) (home? : Option String) (path : String) (s : Settings) : Prop :=
  ∃ text document, store.read path = .ok (Utf8.encode text) ∧
    Toml.document text = .ok document ∧ Decodes (default home?) document s

theorem read_eq_ok_iff : read store home? path = .ok s ↔ Good store home? path s := by
  simp only [read, ofText, Good, bind_eq_ok_iff, mapError_eq_ok_iff,
    FileStore.readText_eq_ok_iff, ofDocument_eq_ok_iff]
  constructor
  · rintro ⟨text, textRead, document, isToml, decodes⟩
    exact ⟨text, document, textRead, isToml, decodes⟩
  · rintro ⟨text, document, textRead, isToml, decodes⟩
    exact ⟨text, textRead, document, isToml, decodes⟩

/-- A file is not good if it cannot be read, is not TOML, or has a value of a wrong kind. -/
theorem not_good_iff :
    (∀ s, ¬Good store home? path s) ↔ (∃ reason, store.readText path = .error reason) ∨
      ∃ text, store.readText path = .ok text ∧
        ∀ document, Toml.document text = .ok document → ¬WellTyped document := by
  simp only [Good, ← FileStore.readText_eq_ok_iff]
  constructor
  · intro notGood
    cases textRead : store.readText path with
    | error reason => exact .inl ⟨reason, rfl⟩
    | ok text =>
        refine .inr ⟨text, rfl, fun document isToml wellTyped => ?_⟩
        obtain ⟨s, decodes⟩ := exists_decodes_iff.mpr wellTyped
        exact notGood s ⟨text, document, textRead, isToml, decodes⟩
  · rintro (⟨reason, failed⟩ | ⟨text, textRead, illTyped⟩) s ⟨other, document, read, isToml, decodes⟩
    · rw [failed] at read
      cases read
    · rw [textRead] at read
      cases read
      exact illTyped document isToml (exists_decodes_iff.mp ⟨s, decodes⟩)

theorem read_eq_error {error : SettingsError} (failed : read store home? path = .error error) :
    (∃ reason, store.readText path = .error reason ∧ error = .unreadable path reason) ∨
      ∃ text defect, store.readText path = .ok text ∧ ofText (default home?) text = .error defect ∧
        error = .defective path defect := by
  rcases bind_eq_error_iff.mp failed with failed | ⟨text, textRead, failed⟩
  · obtain ⟨reason, cause, rfl⟩ := mapError_eq_error_iff.mp failed
    exact .inl ⟨reason, cause, rfl⟩
  · obtain ⟨defect, cause, rfl⟩ := mapError_eq_error_iff.mp failed
    exact .inr ⟨text, defect, mapError_eq_ok_iff.mp textRead, cause, rfl⟩

/-- The settings of the first good file, and without one the defaults. -/
inductive Chosen (store : FileStore) (home? : Option String) : List String → Settings → Prop
  | good {path : String} {others : List String} {s : Settings} (isGood : Good store home? path s) :
    Chosen store home? (path :: others) s
  | skip {path : String} {others : List String} {s : Settings}
    (noneGood : ∀ s, ¬Good store home? path s) (chosen : Chosen store home? others s) :
    Chosen store home? (path :: others) s
  | none : Chosen store home? [] (default home?)

theorem chosen_iff {paths : List String} :
    Chosen store home? paths s ↔
      ((paths.findSome? fun path => (read store home? path).toOption).getD (default home?)) = s := by
  induction paths with
  | nil =>
      constructor
      · rintro ⟨⟩
        rfl
      · rintro rfl
        exact .none
  | cons path others ih =>
      rw [List.findSome?_cons]
      cases outcome : read store home? path with
      | ok found =>
          have isGood := read_eq_ok_iff.mp outcome
          constructor
          · rintro (other | ⟨noneGood, -⟩)
            · exact Except.ok.inj (outcome.symm.trans (read_eq_ok_iff.mpr other))
            · exact absurd isGood (noneGood found)
          · rintro rfl
            exact .good isGood
      | error error =>
          have noneGood (s : Settings) (isGood : Good store home? path s) : False := by
            rw [read_eq_ok_iff.mpr isGood] at outcome
            cases outcome
          constructor
          · rintro (isGood | ⟨-, chosen⟩)
            · exact absurd isGood (noneGood s)
            · exact ih.mp chosen
          · intro equal
            exact .skip noneGood (ih.mpr equal)

/-- Where settings come from, with a home directory or without one. -/
structure Selects (store : FileStore) (home? : Option String) : Prop where
  /-- A file that is named must be good. -/
  named_ok_iff : ∀ path project? s,
    load store home? (some path) project? = .ok s ↔ Good store home? path s
  /-- Otherwise the error is about this file. -/
  named_error : ∀ path project? error,
    load store home? (some path) project? = .error error →
      (∃ reason, store.readText path = .error reason ∧ error = .unreadable path reason) ∨
        ∃ text defect, store.readText path = .ok text ∧
          ofText (default home?) text = .error defect ∧ error = .defective path defect
  /-- No other file and no project matters for it. -/
  named_congr : ∀ path (other : FileStore) project? otherProject?,
    other.readText path = store.readText path →
      load other home? (some path) otherProject? = load store home? (some path) project?
  /-- Without such a file the first good one is chosen, in the project or at home. -/
  unnamed_ok_iff : ∀ project? s, load store home? none project? = .ok s ↔
    Chosen store home?
      ((project?.toList ++ home?.toList).map fun directory => Path.join directory ".iac-scan.toml")
      s
  /-- There always is one, or there are the defaults. -/
  unnamed_ok : ∀ project?, ∃ s, load store home? none project? = .ok s
  not_good_iff : ∀ path, (∀ s, ¬Good store home? path s) ↔
    (∃ reason, store.readText path = .error reason) ∨
      ∃ text, store.readText path = .ok text ∧
        ∀ document, Toml.document text = .ok document → ¬WellTyped document

theorem load_selects (store : FileStore) (home? : Option String) : Selects store home? where
  named_ok_iff _ _ _ := read_eq_ok_iff
  named_error _ _ _ failed := read_eq_error failed
  named_congr path other _ _ same := by
    rw [load, load, read, read, same]
  unnamed_ok_iff project? s := by
    rw [load, Except.ok.injEq]
    exact chosen_iff.symm
  unnamed_ok _ := ⟨_, rfl⟩
  not_good_iff _ := not_good_iff

/-- A file of settings whose section is no table. -/
def arraySection : FileStore :=
  FileStore.insert ⟨[], []⟩ (FileStore.placeOf ⟨[], []⟩ "c.toml")
    (.file (Utf8.encode "cache = ['x']"))

/-- A section can give values without their keys. -/
theorem load_arraySection :
    Toml.document "cache = ['x']" = .ok [("cache", .array [.string "x"])] ∧
      load arraySection none (some "c.toml") none =
        .ok { default none with scan := { (default none).scan with directory := "x" } } :=
  ⟨by cbv, by decide +kernel⟩

end PolicyScan.Settings
