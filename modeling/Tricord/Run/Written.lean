import Tricord.Run.Outputs

/-!
# What the writers leave behind

The writers of a run can be refused at any of their paths.  This module states what
they have done by then, and what is in the files when none of them was refused.

Main results:

- Theorem {lit}`within_writeOutputs`: whether they succeed or not, the writers write at
  the configured paths and make missing directories above them.
- Theorem {lit}`writeOutputs_outcome`: how the writers can end, and what is in the
  aggregate file and in the Markdown table then.
- Theorem {lit}`trace_of_writeOutputs`: a trace that was opened is in its place, however
  they end.
-/

namespace Tricord.Outputs

open FileTrees TextTable

variable {F E : Type} {permits : Path → Bool} {fmt : FloatFormat F} {text : JsonText F E}

/-! ## Operations that are not refused -/

/-- A file that is open takes what is written to it. -/
theorem exists_writeAll (text : String) (path : Path) (files : Files) :
    ∃ files', writeAll text path files = .ok () files' := by
  cases path with
  | nil => exact ⟨files, rfl⟩
  | cons name parent =>
      simp only [writeAll, modifyFile]
      split
      · exact ⟨_, rfl⟩
      · exact ⟨_, rfl⟩

/-- Opening the trace does not fail the run. -/
theorem exists_openTraceWriter (permits : Path → Bool) (path : Path) (files : Files) :
    ∃ opened files', openTraceWriter permits path files = .ok opened files' := by
  unfold openTraceWriter
  split
  · exact ⟨_, _, rfl⟩
  · next _ made _ =>
    split
    · exact ⟨_, _, rfl⟩
    · next _ created _ =>
      rcases exists_writeAll (traceTsvHeader ++ "\n") path created with ⟨written, hwritten⟩
      exact ⟨true, written, bind_ok_iff.mpr ⟨(), written, hwritten, rfl⟩⟩

/-- Rows are always written once the file is open. -/
theorem exists_writeTraceRows (fmt : FloatFormat F) (path : Path)
    (rows : List (TickRecord F)) (files : Files) :
    ∃ files', writeTraceRows fmt path rows files = .ok () files' := by
  induction rows generalizing files with
  | nil => exact ⟨files, rfl⟩
  | cons row rows ih =>
      rcases exists_writeAll (row.toTsvRow fmt ++ "\n") path files with ⟨between, hrow⟩
      rcases ih between with ⟨files', hrows⟩
      exact ⟨files', bind_ok_iff.mpr ⟨(), between, hrow, hrows⟩⟩

/-- The trace never fails a run. -/
theorem exists_runTrace (permits : Path → Bool) (fmt : FloatFormat F)
    (tracePath : Option Path) (rows : List (TickRecord F)) (files : Files) :
    ∃ files', runTrace permits fmt tracePath rows files = .ok () files' := by
  cases tracePath with
  | none => exact ⟨files, rfl⟩
  | some path =>
      rcases exists_openTraceWriter permits path files with ⟨opened, between, hopen⟩
      cases opened with
      | true =>
          rcases exists_writeTraceRows fmt path rows between with ⟨files', hrows⟩
          exact ⟨files', bind_ok_iff.mpr ⟨true, between, hopen, hrows⟩⟩
      | false => exact ⟨between, bind_ok_iff.mpr ⟨false, between, hopen, rfl⟩⟩

/-! ## The trace -/

/-- A trace that has been opened holds the header and the rows. -/
theorem trace_of_runTrace {path : Path} {rows : List (TickRecord F)}
    {files opened : Files} (hopen : openTraceWriter permits path files = .ok true opened) :
    (stateAfter (runTrace permits fmt (some path) rows files)).node path =
      some (.file (traceDocument fmt rows)) := by
  have hdocument : create permits (traceDocument fmt rows) path = (do
      create permits "" path
      writeAll (traceTsvHeader ++ "\n") path
      writeTraceRows fmt path rows : FileM String String Unit) := by
    rw [← bind_assoc, create_writeLine, create_writeTraceRows]
    rfl
  have hwritten : ∃ between, ensureParentDir permits path files = .ok () between ∧
      ∃ created, create permits "" path between = .ok () created ∧
        writeAll (traceTsvHeader ++ "\n") path created = .ok () opened := by
    unfold openTraceWriter at hopen
    split at hopen
    next => simp at hopen
    next _ between hparents =>
      split at hopen
      next => simp at hopen
      next _ created hcreate =>
        rcases bind_ok_iff.mp hopen with ⟨_, headed, hheader, hreturn⟩
        cases hreturn
        exact ⟨between, hparents, created, hcreate, hheader⟩
  rcases hwritten with ⟨between, hparents, created, hcreate, hheader⟩
  rcases exists_writeTraceRows fmt path rows opened with ⟨files', hrows⟩
  have hcreated : create permits (traceDocument fmt rows) path between = .ok () files' := by
    rw [hdocument]
    exact bind_ok_iff.mpr ⟨(), created, hcreate, bind_ok_iff.mpr ⟨(), opened, hheader, hrows⟩⟩
  have hrun : runTrace permits fmt (some path) rows files = .ok () files' :=
    bind_ok_iff.mpr ⟨true, opened, hopen, hrows⟩
  rw [hrun]
  exact node_of_create hcreated

/-! ## Footprints -/

/-- Making the parents touches nothing but what is above the path. -/
theorem within_ensureParentDir (permits : Path → Bool) (path : Path) :
    Within [path] (ensureParentDir permits path : FileM String String Unit) :=
  Within.createDirAll ⟨path, List.mem_singleton_self path, List.suffix_rfl⟩

/-- Creating the file touches only its path. -/
theorem within_create (permits : Path → Bool) (path : Path) :
    Within [path] (create permits "" path : FileM String String Unit) :=
  Within.create "" (List.mem_singleton_self path)

/-- Appending to the file touches only its path. -/
theorem within_writeAll (text : String) (path : Path) :
    Within [path] (writeAll text path) :=
  Within.modifyFile _ (List.mem_singleton_self path)

/-- Opening the trace stays within its path. -/
theorem within_openTraceWriter (path : Path) : Within [path] (openTraceWriter permits path) := by
  intro files
  have hparents := within_ensureParentDir permits path files
  unfold openTraceWriter
  split
  next _ made hmade =>
    rw [hmade] at hparents
    exact hparents
  next _ made hmade =>
    rw [hmade] at hparents
    have hcreate := within_create permits path made
    split
    next _ created hcreated =>
      rw [hcreated] at hcreate
      exact hparents.trans hcreate
    next _ created hcreated =>
      rw [hcreated] at hcreate
      have hheader : Within [path] (do
          writeAll (traceTsvHeader ++ "\n") path
          return true : FileM String String Bool) :=
        (within_writeAll _ path).bind fun _ => Within.pure true
      exact (hparents.trans hcreate).trans (hheader created)

/-- Writing the rows stays within the path. -/
theorem within_writeTraceRows (path : Path) (rows : List (TickRecord F)) :
    Within [path] (writeTraceRows fmt path rows) := by
  induction rows with
  | nil => exact Within.pure ()
  | cons row rows ih => exact (within_writeAll _ path).bind fun _ => ih

/-- A run touches its trace and no other file. -/
theorem within_runTrace (tracePath : Option Path) (rows : List (TickRecord F)) :
    Within tracePath.toList (runTrace permits fmt tracePath rows) := by
  cases tracePath with
  | none => exact Within.pure ()
  | some path =>
      refine (within_openTraceWriter path).bind fun opened => ?_
      cases opened with
      | true => exact within_writeTraceRows path rows
      | false => exact Within.pure ()

/-- Lifting the error changes nothing that is touched. -/
theorem within_lift {paths : List Path} {operation : FileM String String Unit}
    (h : Within paths operation) : Within paths (lift (E := E) operation) := by
  intro files
  have hfiles := h files
  unfold lift EStateM.adaptExcept
  cases hrun : operation files with
  | ok _ files' =>
      rw [hrun] at hfiles
      exact hfiles
  | error _ files' =>
      rw [hrun] at hfiles
      exact hfiles

variable [Zero F]

/-- Writing the record stays within its path. -/
theorem within_writeToPath (record : BenchmarkRecord F) (path : Path) (format : OutputFormat)
    (mode : SchemaMode) :
    Within [path] (writeToPath permits fmt text record path format mode) := by
  refine (within_lift (within_ensureParentDir permits path)).bind fun _ => ?_
  refine (within_lift (within_create permits path)).bind fun _ => ?_
  cases writeTo fmt text record format mode with
  | ok document => exact within_lift (within_writeAll document path)
  | error error => exact Within.throw _

/-- Writing the Markdown table stays within its path. -/
theorem within_writeMarkdownToPath (record : BenchmarkRecord F) (path : Path)
    (mode : SchemaMode) :
    Within [path] (writeMarkdownToPath (E := E) permits fmt record path mode) := by
  refine (within_lift (within_ensureParentDir permits path)).bind fun _ => ?_
  refine (within_lift (within_create permits path)).bind fun _ => ?_
  exact within_lift (within_writeAll _ path)

/-- A path in a list is a list of one within it. -/
theorem singleton_subset {path : Path} {paths : List Path} (h : path ∈ paths) : [path] ⊆ paths :=
  List.cons_subset.mpr ⟨h, List.nil_subset paths⟩

/-- The path of the record is one of the configured paths. -/
theorem outputPath_mem (options : RunOptions) : options.outputPath ∈ options.paths := by
  rcases options with ⟨out, format, trace, markdown, mode⟩
  cases trace <;> cases markdown <;> exact List.mem_cons_self

theorem tracePath_mem {options : RunOptions} {path : Path} (h : options.tracePath = some path) :
    path ∈ options.paths := by
  rcases options with ⟨out, format, trace, markdown, mode⟩
  cases h
  cases markdown <;> simp [RunOptions.paths, RunOptions.configured]

theorem markdownPath_mem {options : RunOptions} {path : Path}
    (h : options.markdownPath = some path) : path ∈ options.paths := by
  rcases options with ⟨out, format, trace, markdown, mode⟩
  cases h
  cases trace <;> simp [RunOptions.paths, RunOptions.configured]

/-- All of the trace paths are configured. -/
theorem tracePath_subset (options : RunOptions) : options.tracePath.toList ⊆ options.paths :=
  fun _ hpath => tracePath_mem (Option.mem_toList.mp hpath)

/-- Whether they succeed or not, the writers only write at the configured paths. -/
theorem within_writeOutputs (options : RunOptions) (rows : List (TickRecord F))
    (record : BenchmarkRecord F) :
    Within options.paths (writeOutputs permits fmt text options rows record) := by
  unfold writeOutputs
  split
  · exact Within.throw _
  · refine ((within_lift (within_runTrace _ rows)).mono (tracePath_subset options)).bind fun _ => ?_
    refine ((within_writeToPath record _ _ _).mono
      (singleton_subset (outputPath_mem options))).bind fun _ => ?_
    split
    next path hpath =>
      exact (within_writeMarkdownToPath record path _).mono
        (singleton_subset (markdownPath_mem hpath))
    next => exact Within.pure ()

/-! ## Documents -/

variable {files final : Files}

/-- A lifted error is one of the operation underneath. -/
theorem lift_eq_error_iff {operation : FileM String String Unit} {error : OutputError E} :
    lift operation files = .error error final ↔
      ∃ refused, error = .refused refused ∧ operation files = .error refused final := by
  unfold lift EStateM.adaptExcept
  cases operation files with
  | ok _ files' => simp
  | error refused files' =>
      constructor
      · intro h
        cases h
        exact ⟨refused, rfl, rfl⟩
      · rintro ⟨other, rfl, h⟩
        cases h
        rfl

/-- How writing one document can end. -/
inductive WriterOutcome (path : Path) (document : Except E String) :
    EStateM.Result (OutputError E) Files Unit → Prop
  | written (content : String) (final : Files) (hdocument : document = .ok content)
      (hfile : final.node path = some (.file content)) :
      WriterOutcome path document (.ok () final)
  | refused (place : Path) (final : Files) (hplace : place <:+ path) :
      WriterOutcome path document (.error (.refused place) final)
  /-- The file has been created by then. -/
  | unserialized (error : E) (final : Files) (hdocument : document = .error error)
      (hfile : final.node path = some (.file "")) :
      WriterOutcome path document (.error (.serialization error) final)

/-- The parents are made and the file is created, in the order of the two writers. -/
theorem writer_outcome (path : Path) (document : Except E String)
    {write : EStateM (OutputError E) Files Unit}
    (hwrite : write = match document with
      | .ok content => lift (writeAll content path)
      | .error error => throw (.serialization error)) (files : Files) :
    WriterOutcome path document ((do
      lift (ensureParentDir permits path)
      lift (create permits "" path)
      write : EStateM (OutputError E) Files Unit) files) := by
  generalize hresult : (do
      lift (ensureParentDir permits path)
      lift (create permits "" path)
      write : EStateM (OutputError E) Files Unit) files = result
  cases result with
  | ok _ final =>
      rcases bind_ok_iff.mp hresult with ⟨_, between, hparents, hrest⟩
      rcases bind_ok_iff.mp hrest with ⟨_, created, hcreate, hlast⟩
      cases document with
      | error error =>
          rw [hwrite] at hlast
          nomatch hlast
      | ok content =>
          rw [hwrite] at hlast
          have hwhole : create permits content path between = .ok () final := by
            rw [← create_writeAll]
            exact bind_ok_iff.mpr
              ⟨(), created, lift_eq_ok_iff.mp hcreate, lift_eq_ok_iff.mp hlast⟩
          exact .written content final rfl (node_of_create hwhole)
  | error error final =>
      rcases bind_error_iff.mp hresult with hparents | ⟨_, between, _, hrest⟩
      · rcases lift_eq_error_iff.mp hparents with ⟨place, rfl, hrefused⟩
        exact .refused place final ((refused_createDirAll hrefused).trans (List.tail_suffix path))
      · rcases bind_error_iff.mp hrest with hcreate | ⟨_, created, hcreate, hlast⟩
        · rcases lift_eq_error_iff.mp hcreate with ⟨place, rfl, hrefused⟩
          exact .refused place final (refused_create hrefused ▸ List.suffix_rfl)
        · cases document with
          | ok content =>
              rw [hwrite] at hlast
              rcases lift_eq_error_iff.mp hlast with ⟨place, rfl, hrefused⟩
              rcases exists_writeAll content path created with ⟨files', hok⟩
              exact absurd (hok.symm.trans hrefused) (by simp)
          | error error =>
              rw [hwrite] at hlast
              cases hlast
              exact .unserialized error final rfl (node_of_create (lift_eq_ok_iff.mp hcreate))

/-- How the writers of a run can end.  The trace comes first and never fails. -/
inductive OutputsOutcome (permits : Path → Bool) (fmt : FloatFormat F) (text : JsonText F E)
    (options : RunOptions) (record : BenchmarkRecord F) (files : Files) :
    EStateM.Result (OutputError E) Files Unit → Prop
  | rejected (error : OutputError E) (hoptions : validateOutputPaths options = .error error) :
      OutputsOutcome permits fmt text options record files (.error error files)
  | complete (aggregate : String) (final : Files)
      (haggregate : writeTo fmt text record options.format options.schemaMode = .ok aggregate)
      (hfile : final.node options.outputPath = some (.file aggregate))
      (hmarkdown : ∀ path, options.markdownPath = some path →
        final.node path = some (.file (record.toMarkdownDocument fmt options.schemaMode))) :
      OutputsOutcome permits fmt text options record files (.ok () final)
  | outputRefused (place : Path) (final : Files) (hplace : place <:+ options.outputPath) :
      OutputsOutcome permits fmt text options record files (.error (.refused place) final)
  | unserialized (error : E) (final : Files)
      (haggregate : writeTo fmt text record options.format options.schemaMode = .error error)
      (hfile : final.node options.outputPath = some (.file "")) :
      OutputsOutcome permits fmt text options record files (.error (.serialization error) final)
  | markdownRefused (aggregate : String) (path place : Path) (final : Files)
      (hpath : options.markdownPath = some path) (hplace : place <:+ path)
      (haggregate : writeTo fmt text record options.format options.schemaMode = .ok aggregate)
      (hfile : final.node options.outputPath = some (.file aggregate)) :
      OutputsOutcome permits fmt text options record files (.error (.refused place) final)

/-- The outcome of writing the record. -/
theorem writeToPath_outcome (record : BenchmarkRecord F) (path : Path) (format : OutputFormat)
    (mode : SchemaMode) (files : Files) :
    WriterOutcome path (writeTo fmt text record format mode)
      (writeToPath permits fmt text record path format mode files) :=
  writer_outcome path _ rfl files

/-- The outcome of writing the Markdown table. -/
theorem writeMarkdownToPath_outcome (record : BenchmarkRecord F) (path : Path)
    (mode : SchemaMode) (files : Files) :
    WriterOutcome path (.ok (record.toMarkdownDocument fmt mode))
      (writeMarkdownToPath (E := E) permits fmt record path mode files) :=
  writer_outcome path (.ok _) rfl files

/-- The documents have paths of their own. -/
theorem outputPath_ne {options : RunOptions} (h : options.paths.Nodup) {path : Path}
    (hpath : options.tracePath = some path ∨ options.markdownPath = some path) :
    options.outputPath ≠ path := by
  rcases options with ⟨out, format, trace, markdown, mode⟩
  have hout : out ∉ trace.toList ++ markdown.toList := by
    cases trace <;> cases markdown <;> exact (List.nodup_cons.mp h).1
  rintro rfl
  rcases hpath with htrace | hmarkdown
  · exact hout (List.mem_append_left _ (Option.mem_toList.mpr htrace))
  · exact hout (List.mem_append_right _ (Option.mem_toList.mpr hmarkdown))

/-- The trace and the Markdown table have different paths. -/
theorem tracePath_ne {options : RunOptions} (h : options.paths.Nodup) {path path' : Path}
    (hpath : options.tracePath = some path) (hpath' : options.markdownPath = some path') :
    path ≠ path' := by
  rcases options with ⟨out, format, trace, markdown, mode⟩
  cases hpath
  cases hpath'
  have hrest : [path, path'].Nodup := (List.nodup_cons.mp h).2
  simpa using hrest

/-- The writers after the trace. -/
def writeRecord (permits : Path → Bool) (fmt : FloatFormat F) (text : JsonText F E)
    (options : RunOptions) (record : BenchmarkRecord F) : EStateM (OutputError E) Files Unit := do
  writeToPath permits fmt text record options.outputPath options.format options.schemaMode
  match options.markdownPath with
  | some path => writeMarkdownToPath permits fmt record path options.schemaMode
  | none => pure ()

/-- Writing the record and the table touches only their two paths. -/
theorem within_writeRecord (options : RunOptions) (record : BenchmarkRecord F) :
    Within (options.outputPath :: options.markdownPath.toList)
      (writeRecord permits fmt text options record) := by
  refine ((within_writeToPath record _ _ _).mono
    (singleton_subset List.mem_cons_self)).bind fun _ => ?_
  cases options.markdownPath with
  | none => exact Within.pure ()
  | some path =>
      exact (within_writeMarkdownToPath record path _).mono
        (singleton_subset (List.mem_cons_of_mem _ (List.mem_singleton_self path)))

/-- The trace goes first, and does not fail. -/
theorem writeOutputs_eq {options : RunOptions} {rows : List (TickRecord F)}
    {record : BenchmarkRecord F} {files : Files}
    (hoptions : validateOutputPaths (E := E) options = .ok ()) :
    writeOutputs permits fmt text options rows record files =
      writeRecord permits fmt text options record
        (stateAfter (runTrace permits fmt options.tracePath rows files)) := by
  rcases exists_runTrace permits fmt options.tracePath rows files with ⟨traced, htrace⟩
  unfold writeOutputs
  rw [hoptions, htrace]
  exact bind_of_ok (lift_eq_ok_iff.mpr htrace) _

/-- How the writers after the trace can end. -/
theorem writeRecord_outcome {options : RunOptions} (hnodup : options.paths.Nodup)
    (record : BenchmarkRecord F) (files traced : Files) :
    OutputsOutcome permits fmt text options record files
      (writeRecord permits fmt text options record traced) := by
  have houtput : WriterOutcome options.outputPath
      (writeTo fmt text record options.format options.schemaMode)
      (writeToPath permits fmt text record options.outputPath options.format options.schemaMode
        traced) :=
    writeToPath_outcome record _ _ _ traced
  unfold writeRecord
  cases hwrite : writeToPath permits fmt text record options.outputPath options.format
      options.schemaMode traced with
  | error error stopped =>
      rw [hwrite] at houtput
      rw [bind_of_error hwrite]
      cases houtput with
      | refused place _ hplace => exact .outputRefused place stopped hplace
      | unserialized error _ hdocument hfile => exact .unserialized error stopped hdocument hfile
  | ok _ written =>
      rw [hwrite] at houtput
      rw [bind_of_ok hwrite]
      cases houtput with
      | written aggregate _ haggregate hfile =>
          cases hmarkdown : options.markdownPath with
          | none => exact .complete aggregate written haggregate hfile (by simp [hmarkdown])
          | some path =>
              have htable : WriterOutcome path
                  (.ok (record.toMarkdownDocument fmt options.schemaMode))
                  (writeMarkdownToPath (E := E) permits fmt record path
                    options.schemaMode written) :=
                writeMarkdownToPath_outcome record path _ written
              have hwithin : Footprint [path] written (stateAfter
                  (writeMarkdownToPath (E := E) permits fmt record path
                    options.schemaMode written)) :=
                within_writeMarkdownToPath record path _ written
              have hkept := hwithin.file_eq hfile
                (by simpa using outputPath_ne hnodup (.inr hmarkdown))
              dsimp only
              cases hresult : writeMarkdownToPath (E := E) permits fmt record path
                  options.schemaMode written with
              | ok _ final =>
                  rw [hresult] at htable hkept
                  cases htable with
                  | written content _ hdocument hpath =>
                      cases hdocument
                      refine .complete aggregate final haggregate hkept fun other hother => ?_
                      rw [hmarkdown] at hother
                      cases hother
                      exact hpath
              | error error final =>
                  rw [hresult] at htable hkept
                  cases htable with
                  | refused place _ hplace =>
                      exact .markdownRefused aggregate path place final hmarkdown hplace haggregate
                        hkept
                  | unserialized _ _ hdocument => exact absurd hdocument (by simp)

/-- Every end of the writers is one of these. -/
theorem writeOutputs_outcome (options : RunOptions) (rows : List (TickRecord F))
    (record : BenchmarkRecord F) (files : Files) :
    OutputsOutcome permits fmt text options record files
      (writeOutputs permits fmt text options rows record files) := by
  cases hoptions : validateOutputPaths (E := E) options with
  | error error =>
      unfold writeOutputs
      rw [hoptions]
      exact .rejected error hoptions
  | ok _ =>
      rw [writeOutputs_eq hoptions]
      exact writeRecord_outcome ((validateOutputPaths_eq_ok_iff options).mp hoptions) record files _

/-- An opened trace is in its place, however the writers end. -/
theorem trace_of_writeOutputs {options : RunOptions} {path : Path} {rows : List (TickRecord F)}
    {record : BenchmarkRecord F} {files opened : Files}
    (hoptions : validateOutputPaths (E := E) options = .ok ())
    (hpath : options.tracePath = some path)
    (hopen : openTraceWriter permits path files = .ok true opened) :
    (stateAfter (writeOutputs permits fmt text options rows record files)).node path =
      some (.file (traceDocument fmt rows)) := by
  have hnodup := (validateOutputPaths_eq_ok_iff options).mp hoptions
  have hfree : path ∉ options.outputPath :: options.markdownPath.toList := by
    intro hmem
    rcases List.mem_cons.mp hmem with heq | hmarkdown
    · exact outputPath_ne hnodup (.inl hpath) heq.symm
    · exact tracePath_ne hnodup hpath (Option.mem_toList.mp hmarkdown) rfl
  rw [writeOutputs_eq hoptions, hpath]
  exact (within_writeRecord options record _).file_eq (trace_of_runTrace hopen) hfree

end Tricord.Outputs
