import Tricord.Library.FileTree
import Tricord.Library.TextTable
import Tricord.Record.Json
import Tricord.Record.Markdown

/-!
# Output files

A run writes up to three files.  Their paths are compared before the child is
spawned, the trace is opened at the start of the run, and the aggregate record
and its Markdown table are written after the end of it, each after the missing
parents of its path have been made.  Equal paths are rejected, but a path that
leads through another one is not: whichever of the two files comes second is
refused.

Main results:

- Theorem {lit}`validateOutputPaths_eq_ok_iff`: the accepted options are those
  with distinct paths.
- Theorem {lit}`outputs_intact_iff`: where each path can be written on its own,
  the run ends well and every document is in its place exactly when no configured
  path leads through another one.
-/

namespace Tricord.Outputs

open FileTrees TextTable

/-! ## Options -/

/-- An absolute path, its last component first. -/
abbrev Path := List String

/-- The path as it is printed. -/
def display (path : Path) : String :=
  "/" ++ "/".intercalate path.reverse

/-- The supported formats of the aggregate file. -/
inductive OutputFormat
  | tsv
  | json
  | jsonPretty
deriving DecidableEq

/-- The options that the writers read. -/
structure RunOptions where
  outputPath : Path
  format : OutputFormat
  tracePath : Option Path
  markdownPath : Option Path
  schemaMode : SchemaMode

/-- How a run fails before or while it writes its files. -/
inductive OutputError (E : Type)
  | invalidInput (message : String)
  | refused (path : Path)
  | serialization (error : E)

/-- The configured output flags with their paths. -/
def RunOptions.configured (options : RunOptions) : List (String × Path) :=
  let configured := [("--out", options.outputPath)]
  let configured := match options.tracePath with
    | some path => configured ++ [("--trace", path)]
    | none => configured
  match options.markdownPath with
  | some path => configured ++ [("--export-markdown", path)]
  | none => configured

/-- The first two flags with the same path, in the order of the two nested
loops. -/
def firstCollision : List (String × Path) → Option ((String × Path) × (String × Path))
  | [] => none
  | a :: rest =>
      match rest.find? fun b => a.2 = b.2 with
      | some b => some (a, b)
      | none => firstCollision rest

/-- Reject any pair of output flags with the same path. -/
def validateOutputPaths {E : Type} (options : RunOptions) : Except (OutputError E) Unit :=
  match firstCollision options.configured with
  | some (a, b) =>
      .error (.invalidInput (a.1 ++ " and " ++ b.1 ++ " point to the same path (" ++
        display a.2 ++ "); each output flag must use a distinct path"))
  | none => .ok ()

/-! ## The writers -/

/-- The files of a run. -/
abbrev Files := FileTree String String

section Writers

variable {F E : Type} [Zero F] (permits : Path → Bool) (fmt : FloatFormat F) (text : JsonText F E)

/-- Create the parent directory of a path, if it has one. -/
def ensureParentDir (path : Path) : FileM String String Unit :=
  createDirAll permits path.tail

/-- Append to a file that is open. -/
def writeAll (text : String) (path : Path) : FileM String String Unit :=
  modifyFile (· ++ text) path

/-- Open the trace and write its header.  A trace that cannot be opened does not
fail the run. -/
def openTraceWriter (path : Path) : FileM String String Bool := fun files =>
  match ensureParentDir permits path files with
  | .error _ files => .ok false files
  | .ok _ files =>
      match create permits "" path files with
      | .error _ files => .ok false files
      | .ok _ files =>
          (do
            writeAll (traceTsvHeader ++ "\n") path
            return true : FileM String String Bool) files

/-- Append the rows of the trace. -/
def writeTraceRows (path : Path) : List (TickRecord F) → FileM String String Unit
  | [] => pure ()
  | row :: rows => do
      writeAll (row.toTsvRow fmt ++ "\n") path
      writeTraceRows path rows

/-- The trace of a run, all rows of which are written before the sampler thread is
joined. -/
def runTrace (tracePath : Option Path) (rows : List (TickRecord F)) : FileM String String Unit :=
  match tracePath with
  | none => pure ()
  | some path => do
      if ← openTraceWriter permits path then writeTraceRows fmt path rows

/-- The text of the aggregate file. -/
def writeTo (record : BenchmarkRecord F) (format : OutputFormat) (mode : SchemaMode) :
    Except E String :=
  match format with
  | .tsv => .ok (record.toTsvDocument fmt mode)
  | .json => record.toJson text mode
  | .jsonPretty => (record.toJsonPretty text mode).map (· ++ "\n")

/-- Report a refused operation as an error of the run. -/
def lift (operation : FileM String String Unit) : EStateM (OutputError E) Files Unit :=
  operation.adaptExcept .refused

/-- Write the aggregate file. -/
def writeToPath (record : BenchmarkRecord F) (path : Path) (format : OutputFormat)
    (mode : SchemaMode) : EStateM (OutputError E) Files Unit := do
  lift (ensureParentDir permits path)
  lift (create permits "" path)
  match writeTo fmt text record format mode with
  | .ok document => lift (writeAll document path)
  | .error error => throw (.serialization error)

/-- Write the Markdown table. -/
def writeMarkdownToPath (record : BenchmarkRecord F) (path : Path) (mode : SchemaMode) :
    EStateM (OutputError E) Files Unit := do
  lift (ensureParentDir permits path)
  lift (create permits "" path)
  lift (writeAll (record.toMarkdownDocument fmt mode) path)

/-- What a run does to the files: the trace with the rows of the run, then the
aggregate file, then the Markdown table. -/
def writeOutputs (options : RunOptions) (rows : List (TickRecord F)) (record : BenchmarkRecord F) :
    EStateM (OutputError E) Files Unit :=
  match validateOutputPaths options with
  | .error error => throw error
  | .ok () => do
      lift (runTrace permits fmt options.tracePath rows)
      writeToPath permits fmt text record options.outputPath options.format options.schemaMode
      match options.markdownPath with
      | some path => writeMarkdownToPath permits fmt record path options.schemaMode
      | none => pure ()

end Writers

/-! ## What the files should hold -/

/-- The configured paths. -/
def RunOptions.paths (options : RunOptions) : List Path :=
  options.configured.map Prod.snd

/-- A path can be written by its writer alone. -/
def WritableAlone (permits : Path → Bool) (files : Files) (path : Path) : Prop :=
  ∃ files', (do
    ensureParentDir permits path
    create permits "" path : FileM String String Unit) files = .ok () files'

section Documents

variable {F : Type} [Zero F] (fmt : FloatFormat F)

/-- The trace: its header and its rows, each on a line. -/
def traceDocument (rows : List (TickRecord F)) : String :=
  terminated "" (traceTsvHeader :: rows.map (TickRecord.toTsvRow fmt))

/-- The configured paths with their documents, in the order of the writers. -/
def documents (options : RunOptions) (rows : List (TickRecord F)) (record : BenchmarkRecord F)
    (aggregate : String) : List (Path × String) :=
  options.tracePath.toList.map (fun path => (path, traceDocument fmt rows)) ++
    [(options.outputPath, aggregate)] ++
    options.markdownPath.toList.map
      (fun path => (path, record.toMarkdownDocument fmt options.schemaMode))

end Documents

/-! ## Accepted options -/

/-- Validation accepts the paths exactly when they are distinct. -/
theorem firstCollision_eq_none_iff {configured : List (String × Path)} :
    firstCollision configured = none ↔ (configured.map Prod.snd).Nodup := by
  induction configured with
  | nil => simp [firstCollision]
  | cons a rest ih =>
      rw [List.map_cons, List.nodup_cons, ← ih, firstCollision]
      cases hfind : rest.find? fun b => a.2 = b.2 with
      | none =>
          have hfree : a.2 ∉ rest.map Prod.snd := by
            intro hmem
            rcases List.mem_map.mp hmem with ⟨b, hb, heq⟩
            exact absurd (List.find?_eq_none.mp hfind b hb) (by simp [heq])
          simp [hfree]
      | some b =>
          have hmem : a.2 ∈ rest.map Prod.snd := by
            have heq : a.2 = b.2 := by simpa using List.find?_some hfind
            rw [heq]
            exact List.mem_map_of_mem (List.mem_of_find?_eq_some hfind)
          simp [hmem]

/-- The accepted options are those with distinct paths. -/
theorem validateOutputPaths_eq_ok_iff {E : Type} (options : RunOptions) :
    validateOutputPaths (E := E) options = .ok () ↔ options.paths.Nodup := by
  rw [RunOptions.paths, ← firstCollision_eq_none_iff, validateOutputPaths]
  cases firstCollision options.configured with
  | none => simp
  | some pair => simp

/-- The documents are written at the configured paths. -/
theorem documents_perm {F : Type} [Zero F] (fmt : FloatFormat F) (options : RunOptions)
    (rows : List (TickRecord F)) (record : BenchmarkRecord F) (aggregate : String) :
    ((documents fmt options rows record aggregate).map Prod.fst).Perm options.paths := by
  rcases options with ⟨out, format, trace, markdown, mode⟩
  cases trace with
  | none => cases markdown <;> exact List.Perm.refl _
  | some path => cases markdown <;> exact List.Perm.swap _ _ _

/-! ## The writers as new files -/

section Runs

variable {F E : Type} {permits : Path → Bool} {fmt : FloatFormat F} {text : JsonText F E}
  {files files' : Files}

/-- Only the type of the error changes. -/
theorem lift_eq_ok_iff {operation : FileM String String Unit} :
    lift (E := E) operation files = .ok () files' ↔ operation files = .ok () files' := by
  unfold lift EStateM.adaptExcept
  cases operation files <;> simp

/-- Creating a file and writing its document is creating it with the document. -/
theorem create_writeAll (document : String) (path : Path) :
    (do
      create permits "" path
      writeAll document path : FileM String String Unit) = create permits document path := by
  rw [← String.empty_append (s := document)]
  exact create_bind_modifyFile "" (· ++ document) path

/-- Creating a file and appending a line is creating it with the line. -/
theorem create_writeLine (start line : String) (path : Path) :
    (do
      create permits start path
      writeAll (line ++ "\n") path : FileM String String Unit) =
      create permits ((start ++ line).push '\n') path := by
  have hpush : (start ++ line).push '\n' = start ++ (line ++ "\n") := by
    apply String.toList_inj.mp
    simp
  rw [hpush]
  exact create_bind_modifyFile start (· ++ (line ++ "\n")) path

/-- The rows go behind what is written. -/
theorem create_writeTraceRows (start : String) (path : Path) (rows : List (TickRecord F)) :
    (do
      create permits start path
      writeTraceRows fmt path rows : FileM String String Unit) =
      create permits (terminated start (rows.map (TickRecord.toTsvRow fmt))) path := by
  induction rows generalizing start with
  | nil => exact bind_pure_unit
  | cons row rows ih =>
      rw [writeTraceRows, ← bind_assoc, create_writeLine, ih]
      rfl

/-- A trace that can be written holds the header and the rows. -/
theorem runTrace_run {path : Path} {rows : List (TickRecord F)}
    (h : writeNew permits (traceDocument fmt rows) path files = .ok () files') :
    runTrace permits fmt (some path) rows files = .ok () files' := by
  have hdocument : create permits (traceDocument fmt rows) path = (do
      create permits "" path
      writeAll (traceTsvHeader ++ "\n") path
      writeTraceRows fmt path rows : FileM String String Unit) := by
    rw [← bind_assoc, create_writeLine, create_writeTraceRows]
    rfl
  rcases bind_ok_iff.mp h with ⟨_, between, hparents, hcreate⟩
  rw [hdocument] at hcreate
  rcases bind_ok_iff.mp hcreate with ⟨_, created, hcreated, hwrite⟩
  rcases bind_ok_iff.mp hwrite with ⟨_, opened, hheader, hrows⟩
  have hopen : openTraceWriter permits path files = .ok true opened := by
    simp only [openTraceWriter, ensureParentDir, hparents, hcreated]
    exact bind_ok_iff.mpr ⟨(), opened, hheader, rfl⟩
  exact bind_ok_iff.mpr ⟨true, opened, hopen, hrows⟩

variable [Zero F] {record : BenchmarkRecord F}

/-- The writer of the record leaves its document where a file can be written. -/
theorem writeToPath_run {path : Path} {format : OutputFormat} {mode : SchemaMode}
    {document : String} (hdocument : writeTo fmt text record format mode = .ok document)
    (h : writeNew permits document path files = .ok () files') :
    writeToPath permits fmt text record path format mode files = .ok () files' := by
  rcases bind_ok_iff.mp h with ⟨_, between, hparents, hcreate⟩
  rw [← create_writeAll] at hcreate
  rcases bind_ok_iff.mp hcreate with ⟨_, created, hcreated, hwrite⟩
  refine bind_ok_iff.mpr ⟨(), between, lift_eq_ok_iff.mpr hparents, ?_⟩
  refine bind_ok_iff.mpr ⟨(), created, lift_eq_ok_iff.mpr hcreated, ?_⟩
  rw [hdocument]
  exact lift_eq_ok_iff.mpr hwrite

theorem writeMarkdownToPath_run {path : Path} {mode : SchemaMode}
    (h : writeNew permits (record.toMarkdownDocument fmt mode) path files = .ok () files') :
    writeMarkdownToPath (E := E) permits fmt record path mode files = .ok () files' := by
  rcases bind_ok_iff.mp h with ⟨_, between, hparents, hcreate⟩
  rw [← create_writeAll] at hcreate
  rcases bind_ok_iff.mp hcreate with ⟨_, created, hcreated, hwrite⟩
  exact bind_ok_iff.mpr ⟨(), between, lift_eq_ok_iff.mpr hparents,
    bind_ok_iff.mpr ⟨(), created, lift_eq_ok_iff.mpr hcreated, lift_eq_ok_iff.mpr hwrite⟩⟩

/-- The writers write their documents one after another. -/
theorem writeOutputs_run {options : RunOptions} {rows : List (TickRecord F)} {aggregate : String}
    (haccepted : validateOutputPaths (E := E) options = .ok ())
    (haggregate : writeTo fmt text record options.format options.schemaMode = .ok aggregate)
    (h : writeEach permits (documents fmt options rows record aggregate) files = .ok () files') :
    writeOutputs permits fmt text options rows record files = .ok () files' := by
  rw [documents, writeEach_append, writeEach_append] at h
  rcases bind_ok_iff.mp h with ⟨_, written, hfirst, hmarkdown⟩
  rcases bind_ok_iff.mp hfirst with ⟨_, traced, htrace, hwrite⟩
  unfold writeOutputs
  rw [haccepted]
  refine bind_ok_iff.mpr ⟨(), traced, lift_eq_ok_iff.mpr ?_, bind_ok_iff.mpr ⟨(), written, ?_, ?_⟩⟩
  · cases htracePath : options.tracePath with
    | none =>
        rw [htracePath] at htrace
        exact htrace
    | some path =>
        rw [htracePath, Option.toList_some, List.map_singleton, writeEach_singleton] at htrace
        exact runTrace_run htrace
  · rw [writeEach_singleton] at hwrite
    exact writeToPath_run haggregate hwrite
  · cases hmarkdownPath : options.markdownPath with
    | none =>
        rw [hmarkdownPath] at hmarkdown
        cases hmarkdown
        rfl
    | some path =>
        rw [hmarkdownPath, Option.toList_some, List.map_singleton, writeEach_singleton]
          at hmarkdown
        exact writeMarkdownToPath_run hmarkdown

end Runs

/-! ## When the outputs are intact -/

/-- Where every configured path can be written on its own, the run ends well with
every document in its place exactly when no configured path leads through
another one. -/
theorem outputs_intact_iff {F E : Type} [Zero F] (permits : Path → Bool) (fmt : FloatFormat F)
    (text : JsonText F E) (options : RunOptions) (rows : List (TickRecord F))
    (record : BenchmarkRecord F) (files : Files) {aggregate : String}
    (haccepted : validateOutputPaths (E := E) options = .ok ())
    (hwritable : ∀ path ∈ options.paths, WritableAlone permits files path)
    (haggregate : writeTo fmt text record options.format options.schemaMode = .ok aggregate) :
    (∃ final, writeOutputs permits fmt text options rows record files = .ok () final ∧
      ∀ document ∈ documents fmt options rows record aggregate,
        final.node document.1 = some (.file document.2)) ↔
      ∀ p ∈ options.paths, ∀ q ∈ options.paths, p ≠ q → ¬p <:+ q := by
  have hpaths := documents_perm fmt options rows record aggregate
  constructor
  · rintro ⟨final, _, hfiles⟩ p hp q hq hne
    rcases List.mem_map.mp (hpaths.mem_iff.mpr hp) with ⟨first, hfirst, rfl⟩
    rcases List.mem_map.mp (hpaths.mem_iff.mpr hq) with ⟨second, hsecond, rfl⟩
    exact not_suffix_of_file (hfiles first hfirst) (by simp [hfiles second hsecond]) hne
  · intro hunrelated
    have hnodup := hpaths.nodup_iff.mpr ((validateOutputPaths_eq_ok_iff options).mp haccepted)
    have hcan : ∀ document ∈ documents fmt options rows record aggregate,
        CanWrite permits files document.1 := by
      intro document hdocument
      rcases hwritable _ (hpaths.mem_iff.mp (List.mem_map_of_mem hdocument)) with ⟨files', hwrite⟩
      exact canWrite_of_writeNew hwrite
    have hpairs : (documents fmt options rows record aggregate).Pairwise
        fun v w => Unrelated v.1 w.1 := by
      rw [← List.pairwise_map]
      refine hnodup.imp_of_mem fun hp hq hne => ?_
      rw [hpaths.mem_iff] at hp hq
      exact ⟨hunrelated _ hp _ hq hne, hunrelated _ hq _ hp hne.symm⟩
    rcases writeEach_run hcan hpairs with ⟨final, hwrites, hfiles, _⟩
    exact ⟨final, writeOutputs_run haccepted haggregate hwrites, hfiles⟩

/-- Files that hold nothing yet. -/
def emptyFiles : Files where
  node path := if path = [] then some .dir else none
  root := rfl
  parent := by simp

/-- A serialiser for runs that write no object. -/
def noText : JsonText ℚ Unit where
  compact _ := .error ()
  pretty _ := .error ()

/-- Two files in a directory that is yet to be made, and one next to it. -/
theorem outputs_intact_siblings :
    let options : RunOptions :=
      { outputPath := ["bench.tsv", "results"], format := .tsv,
        tracePath := some ["trace.tsv", "results"], markdownPath := some ["bench.md"],
        schemaMode := .full }
    let record : BenchmarkRecord ℚ := { runningTime := 1 / 2 }
    ∃ final, writeOutputs (fun _ => true) exactFormat noText options [] record emptyFiles =
        .ok () final ∧
      ∀ document ∈ documents exactFormat options [] record
          (record.toTsvDocument exactFormat .full),
        final.node document.1 = some (.file document.2) := by
  intro options record
  refine (outputs_intact_iff (fun _ => true) exactFormat noText options [] record emptyFiles
    rfl ?_ rfl).mpr (by decide)
  have hpaths : options.paths =
      [["bench.tsv", "results"], ["trace.tsv", "results"], ["bench.md"]] := rfl
  rw [hpaths]
  simp only [List.forall_mem_cons]
  exact ⟨⟨_, rfl⟩, ⟨_, rfl⟩, ⟨_, rfl⟩, by simp⟩

/-- The trace of a run leads through the path of its aggregate file.  Opening it
makes a directory there, and the aggregate file is refused after the run. -/
theorem aggregate_lost_under_trace :
    let options : RunOptions :=
      { outputPath := ["bench"], format := .tsv, tracePath := some ["trace.tsv", "bench"],
        markdownPath := none, schemaMode := .full }
    validateOutputPaths (E := Unit) options = .ok () ∧
      (∀ path ∈ options.paths, WritableAlone (fun _ => true) emptyFiles path) ∧
      ∃ final, writeOutputs (fun _ => true) exactFormat noText options [] {} emptyFiles =
        .error (.refused ["bench"]) final := by
  intro options
  refine ⟨rfl, ?_, ⟨_, rfl⟩⟩
  have hpaths : options.paths = [["bench"], ["trace.tsv", "bench"]] := rfl
  rw [hpaths]
  simp only [List.forall_mem_cons]
  exact ⟨⟨_, rfl⟩, ⟨_, rfl⟩, by simp⟩

end Tricord.Outputs
