import Bandwidth.Benchmark.Verdict
import Bandwidth.Display.Style
import Bandwidth.Document
import Bandwidth.Json.Writer

/-!
# Results

The results of a run in the form that was asked for: a table, comma-separated values or a JSON document. Only the
document holds the verdict and says which device and backend the run used.
-/

namespace Bandwidth

inductive ResultFormat where
  | table
  | csv
  | json
  deriving DecidableEq, Repr

/-- Whether the results are for people, so that other text may stand around them. -/
def ResultFormat.isText (format : ResultFormat) : Bool := format == .table

namespace Display

section Table

/-- A text in the front of a cell; one that is wider than the column pushes the following ones to the right. -/
def cell (text : String) : String :=
  text.pushn ' ' (12 - text.length)

def row (cells : List String) : String :=
  String.join (cells.map cell)

def fixed (places : Nat) (number : Float) : String :=
  Decimal.fixed places (.ofDouble number)

def tableHeading (unit : ByteUnit) : String :=
  row ["Function", unit.label, "Min (sec)", "Max", "Average"]

def tableRow (unit : ByteUnit) (summary : Summary Float) : String :=
  row [summary.kernel.name, fixed 3 (summary.bandwidth unit), fixed 5 summary.least, fixed 5 summary.greatest,
    fixed 5 summary.mean]

/-- The results for a terminal: five columns of twelve characters, one row for each kernel. -/
def table (style : Style) (unit : ByteUnit) (summaries : List (Summary Float)) : List String :=
  style.paint .heading (tableHeading unit) :: summaries.map (tableRow unit)

end Table

section Csv

def csvRateColumn : ByteUnit → String
  | .megabytes => "max_mbytes_per_sec"
  | .mebibytes => "max_mibytes_per_sec"

def csvHeading (unit : ByteUnit) : List String :=
  ["function", "num_times", "n_elements", "sizeof", csvRateColumn unit, "min_runtime", "max_runtime", "avg_runtime"]

/-- A number with as few digits as read back, and never an exponent. -/
def plain (measure : Float) : String :=
  Decimal.plainLayout.write (.ofDouble measure)

variable {α : Type} [Element α]

def csvRow (report : Report α Float) (unit : ByteUnit) (summary : Summary Float) : List String :=
  [summary.kernel.name, toString report.iterations, toString report.arraySize, toString (Element.bytes α),
    plain (summary.bandwidth unit), plain summary.least, plain summary.greatest, plain summary.mean]

/-- The results as comma-separated values: a heading, and a row for each kernel. -/
def csv (report : Report α Float) (unit : ByteUnit) : List String :=
  (csvHeading unit :: report.summaries.map (csvRow report unit)).map (",".intercalate ·)

end Csv

open Json (Codec)

def verdictDocument (verdict : Verdict Float) : Json :=
  .record
    [("array_errors", .array (verdict.arrayErrors.toList.map Json.measure)),
      ("array_limit", .measure verdict.arrayLimit),
      ("dot_error", (verdict.dotError.map Json.measure).getD .null),
      ("dot_limit", .measure verdict.dotLimit)]

def summaryDocument (unit : ByteUnit) (summary : Summary Float) : Json :=
  .record (summary.members ++
    [("bandwidth", .measure (summary.bandwidth unit)), ("gflops", .measure summary.gigaflops)])

variable {α : Type}

def resultDocument (report : Report α Float) (unit : ByteUnit) (backend : Backend) (verdict : Verdict Float) : Json :=
  .record
    [("backend", Codec.toJson backend), ("device", Codec.toJson report.device),
      ("precision", Codec.toJson report.precision), ("residency", Codec.toJson report.residency),
      ("array_size", .word report.arraySize), ("num_times", .word report.iterations), ("unit", Codec.toJson unit),
      ("kernels", .array (report.summaries.map (summaryDocument unit))), ("validation", verdictDocument verdict)]

def results [Element α] (style : Style) (format : ResultFormat) (report : Report α Float) (unit : ByteUnit)
    (backend : Backend) (verdict : Verdict Float) : List String :=
  match format with
  | .table => table style unit report.summaries
  | .csv => csv report unit
  | .json => [(resultDocument report unit backend verdict).pretty ""]

end Display

end Bandwidth
