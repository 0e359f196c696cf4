import Tricord.Record.Agreement

/-!
# The strict schema as a projection

A record is serialised as a JSON object in one of two ways: every field of the
record in full mode, and the fields of a separate view in strict mode.  Together
with the TSV document and the Markdown rows this makes three formats, each of
which implements the strict schema in its own way.  This module proves that the
three of them project the full schema onto the same columns.  The serialiser
emits the fields of a structure in declaration order under their own names; the
text it writes for an object is a parameter.

Main results:

- Theorem {lit}`fields_ofRecord`: the fields of the view are the fields of the
  record without those that only the full header names.
- Theorem {lit}`strict_projects_full`: strict mode is a projection of full mode in
  all three formats.
-/

namespace Tricord

open Delimited

/-! ## JSON objects -/

/-- The values that occur in the object of a record. -/
inductive JsonValue (F : Type)
  | null
  | bool (value : Bool)
  | float (value : F)
  | integer (value : ℕ)
deriving DecidableEq

/-- An object, its fields in the order in which they are emitted. -/
abbrev JsonObject (F : Type) := List (String × JsonValue F)

namespace JsonValue

variable {F : Type}

/-- A number or {lit}`null`. -/
def ofOptionalFloat : Option F → JsonValue F
  | some v => .float v
  | none => .null

/-- A counter or {lit}`null`. -/
def ofOptionalU64 : Option U64 → JsonValue F
  | some v => .integer v.toNat
  | none => .null

end JsonValue

/-- How an object is written out, on one line or pretty-printed. -/
structure JsonText (F E : Type) where
  compact : JsonObject F → Except E String
  pretty : JsonObject F → Except E String

/-- Write out an object. -/
def JsonText.toString {F E : Type} (text : JsonText F E) (value : JsonObject F)
    (pretty : Bool) : Except E String :=
  if pretty then text.pretty value else text.compact value

namespace BenchmarkRecord

variable {F E : Type} [Zero F]

/-- The fields of a record, in declaration order. -/
def fields (self : BenchmarkRecord F) : JsonObject F :=
  [("running_time", .float self.runningTime),
    ("max_rss", .ofOptionalFloat self.maxRss),
    ("max_vms", .ofOptionalFloat self.maxVms),
    ("max_uss", .ofOptionalFloat self.maxUss),
    ("max_pss", .ofOptionalFloat self.maxPss),
    ("io_in", .ofOptionalFloat self.ioIn),
    ("io_out", .ofOptionalFloat self.ioOut),
    ("mean_load", .float self.meanLoad),
    ("cpu_time", .float self.cpuTime),
    ("major_page_faults", .ofOptionalU64 self.majorPageFaults),
    ("minor_page_faults", .ofOptionalU64 self.minorPageFaults),
    ("voluntary_ctx_switches", .ofOptionalU64 self.voluntaryCtxSwitches),
    ("involuntary_ctx_switches", .ofOptionalU64 self.involuntaryCtxSwitches),
    ("peak_n_threads", .ofOptionalU64 self.peakNThreads),
    ("peak_n_procs", .integer self.peakNProcs),
    ("loadavg_1m_start", .ofOptionalFloat self.loadavg1mStart),
    ("loadavg_1m_end", .ofOptionalFloat self.loadavg1mEnd),
    ("max_swap", .ofOptionalFloat self.maxSwap),
    ("page_cache_start", .ofOptionalFloat self.pageCacheStart),
    ("page_cache_end", .ofOptionalFloat self.pageCacheEnd),
    ("data_collected", .bool self.dataCollected)]

end BenchmarkRecord

/-! ## The strict view -/

/-- The fields of the Snakemake schema. -/
structure SnakemakeView (F : Type) where
  runningTime : F
  maxRss : Option F
  maxVms : Option F
  maxUss : Option F
  maxPss : Option F
  ioIn : Option F
  ioOut : Option F
  meanLoad : F
  cpuTime : F
  dataCollected : Bool

namespace SnakemakeView

variable {F : Type} [Zero F]

/-- The view of a record. -/
def ofRecord (r : BenchmarkRecord F) : SnakemakeView F where
  runningTime := r.runningTime
  maxRss := r.maxRss
  maxVms := r.maxVms
  maxUss := r.maxUss
  maxPss := r.maxPss
  ioIn := r.ioIn
  ioOut := r.ioOut
  meanLoad := r.meanLoad
  cpuTime := r.cpuTime
  dataCollected := r.dataCollected

/-- The fields of a view, in declaration order. -/
def fields (self : SnakemakeView F) : JsonObject F :=
  [("running_time", .float self.runningTime),
    ("max_rss", .ofOptionalFloat self.maxRss),
    ("max_vms", .ofOptionalFloat self.maxVms),
    ("max_uss", .ofOptionalFloat self.maxUss),
    ("max_pss", .ofOptionalFloat self.maxPss),
    ("io_in", .ofOptionalFloat self.ioIn),
    ("io_out", .ofOptionalFloat self.ioOut),
    ("mean_load", .float self.meanLoad),
    ("cpu_time", .float self.cpuTime),
    ("data_collected", .bool self.dataCollected)]

end SnakemakeView

namespace BenchmarkRecord

variable {F E : Type} [Zero F]

/-- Write out a record under a schema mode. -/
def toJsonString (text : JsonText F E) (self : BenchmarkRecord F) (mode : SchemaMode)
    (pretty : Bool) : Except E String :=
  match mode with
  | .full => text.toString self.fields pretty
  | .snakemakeStrict => text.toString (SnakemakeView.ofRecord self).fields pretty

/-- The record as a JSON object on one line. -/
def toJson (text : JsonText F E) (self : BenchmarkRecord F) (mode : SchemaMode) :
    Except E String :=
  self.toJsonString text mode false

/-- The record as a pretty-printed JSON object. -/
def toJsonPretty (text : JsonText F E) (self : BenchmarkRecord F) (mode : SchemaMode) :
    Except E String :=
  self.toJsonString text mode true

/-! ## The projection -/

/-- The columns that the full schema adds. -/
def addedColumns : List String :=
  (pieces '\t' (tsvHeader .full)).filter fun name => name ∉ pieces '\t' (tsvHeader .snakemakeStrict)

/-- The fields of the view are the fields of the record without the added
columns. -/
theorem fields_ofRecord (record : BenchmarkRecord F) :
    (SnakemakeView.ofRecord record).fields =
      record.fields.filter fun field => field.1 ∉ addedColumns := by
  have hadded : addedColumns = (markdownLabels .full).drop 10 := by
    rw [addedColumns, pieces_tsvHeader, pieces_tsvHeader]
    decide +kernel
  rw [hadded]
  rfl

/-- The strict rows are the first rows of the full table. -/
theorem markdownRows_strict (fmt : FloatFormat F) (record : BenchmarkRecord F) :
    record.markdownRows fmt .snakemakeStrict = (record.markdownRows fmt .full).take 10 :=
  rfl

/-- The strict header is the first ten cells of the full one. -/
theorem tsvHeader_strict :
    tsvHeader .snakemakeStrict = "\t".intercalate ((pieces '\t' (tsvHeader .full)).take 10) := by
  rw [pieces_tsvHeader]
  decide +kernel

/-- The strict row joins the first cells of the full row. -/
theorem toTsvRow_strict {fmt : FloatFormat F} (htab : fmt.FreeOf '\t')
    (record : BenchmarkRecord F) :
    record.toTsvRow fmt .snakemakeStrict =
      "\t".intercalate ((pieces '\t' (record.toTsvRow fmt .full)).take 10) := by
  rw [pieces_toTsvRow htab, ← List.map_take, ← markdownRows_strict, markdownRows_snd,
    toTsvRow_eq]
  exact (intercalate_cons '\t' _ _).symm

/-- The schema mode alone decides how many rows the table has. -/
theorem length_markdownRows (fmt : FloatFormat F) (record : BenchmarkRecord F)
    (mode : SchemaMode) :
    (record.markdownRows fmt mode).length =
      match mode with
      | .full => 21
      | .snakemakeStrict => 10 := by
  cases mode <;> rfl

/-- Both header and row of the TSV document have as many cells as the table has rows. -/
theorem length_pieces {fmt : FloatFormat F} (htab : fmt.FreeOf '\t') (record : BenchmarkRecord F)
    (mode : SchemaMode) :
    (pieces '\t' (tsvHeader mode)).length = (record.markdownRows fmt mode).length ∧
      (pieces '\t' (record.toTsvRow fmt mode)).length =
        (record.markdownRows fmt mode).length := by
  have hlabels : (record.markdownRows fmt mode).map Prod.fst = markdownLabels mode :=
    markdownRows_fst fmt record mode
  rw [pieces_tsvHeader, ← hlabels, pieces_toTsvRow htab, List.length_map, List.length_map]
  exact ⟨rfl, rfl⟩

/-- Strict mode is a projection of full mode.  The header, the row and the rows of
the Markdown table keep the first ten of twenty-one columns, and the JSON object loses
the fields named after the added columns and no other. -/
theorem strict_projects_full (fmt : FloatFormat F) (text : JsonText F E)
    (record : BenchmarkRecord F) (htab : fmt.FreeOf '\t') :
    tsvHeader .snakemakeStrict =
        "\t".intercalate ((pieces '\t' (tsvHeader .full)).take 10) ∧
      record.toTsvRow fmt .snakemakeStrict =
        "\t".intercalate ((pieces '\t' (record.toTsvRow fmt .full)).take 10) ∧
      record.markdownRows fmt .snakemakeStrict = (record.markdownRows fmt .full).take 10 ∧
      ((pieces '\t' (tsvHeader .full)).length = 21 ∧
        (pieces '\t' (record.toTsvRow fmt .full)).length = 21 ∧
        (pieces '\t' (tsvHeader .snakemakeStrict)).length = 10 ∧
        (pieces '\t' (record.toTsvRow fmt .snakemakeStrict)).length = 10) ∧
      ∀ pretty,
        record.toJsonString text .full pretty = text.toString record.fields pretty ∧
        record.toJsonString text .snakemakeStrict pretty =
          text.toString (record.fields.filter fun field => field.1 ∉ addedColumns) pretty := by
  have hfull := length_pieces htab record .full
  have hstrict := length_pieces htab record .snakemakeStrict
  rw [length_markdownRows] at hfull hstrict
  refine ⟨tsvHeader_strict, toTsvRow_strict htab record, markdownRows_strict fmt record,
    ⟨hfull.1, hfull.2, hstrict.1, hstrict.2⟩, ?_⟩
  intro pretty
  refine ⟨rfl, ?_⟩
  rw [← fields_ofRecord]
  rfl

/-- With exact rationals and a serialiser that lists the keys, for a run with data. -/
theorem strict_projects_full_exact :
    let record : BenchmarkRecord ℚ :=
      { runningTime := 1 / 2, maxRss := some (21 / 2), cpuTime := 1 / 4, meanLoad := 50,
        peakNProcs := 3, majorPageFaults := some (BoundedNat.clamp 7), dataCollected := true }
    let keys (object : JsonObject ℚ) : Except Unit String :=
      .ok (",".intercalate (object.map Prod.fst))
    record.toTsvRow exactFormat .snakemakeStrict =
        "\t".intercalate ((pieces '\t' (record.toTsvRow exactFormat .full)).take 10) ∧
      (pieces '\t' (record.toTsvRow exactFormat .full)).length = 21 ∧
      (pieces '\t' (record.toTsvRow exactFormat .snakemakeStrict)).length = 10 ∧
      record.toJsonString ⟨keys, keys⟩ .snakemakeStrict true =
        keys (record.fields.filter fun field => field.1 ∉ addedColumns) := by
  intro record keys
  have hprojects := strict_projects_full exactFormat ⟨keys, keys⟩ record
    (exactFormat_freeOf (by decide) (by decide) (by decide))
  rcases hprojects with ⟨_, hrow, _, ⟨_, hfull, _, hstrict⟩, hjson⟩
  exact ⟨hrow, hfull, hstrict, (hjson true).2⟩

end BenchmarkRecord

end Tricord
