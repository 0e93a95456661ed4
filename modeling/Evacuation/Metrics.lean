import Evacuation.Table
/-!
# Metrics

Two series count the nodes that were cordoned and drained, each by the result it had. The counts
are shown as a page of samples in the text format that is scraped.
-/
namespace Evacuation

/-- What is counted. -/
inductive Series where
  | cordoned
  | drained
  deriving DecidableEq, Repr

/-- How a cordon or a drain went. -/
inductive Success where
  | succeeded
  | failed
  deriving DecidableEq, Repr

/-- The name of a result. -/
def Success.label : Success → String
  | .succeeded => "succeeded"
  | .failed => "failed"

namespace Series

/-- The name of a series. -/
def label : Series → String
  | cordoned => "cordoned_nodes"
  | drained => "drained_nodes"

/-- What the counts of a series say. -/
def help : Series → String
  | cordoned => "Number of nodes cordoned."
  | drained => "Number of nodes drained."

end Series

/-- The first part of every name. -/
def metricsRoot : String := "node_drainer"

/-- The counts of each series by result, in the order in which the results first came. -/
structure Metrics where
  cordoned : Table String Nat := ∅
  drained : Table String Nat := ∅
  deriving Repr

namespace Metrics

/-- The counts of one series. -/
def counts (metrics : Metrics) : Series → Table String Nat
  | .cordoned => metrics.cordoned
  | .drained => metrics.drained

/-- How often a result was counted. -/
def count (metrics : Metrics) (series : Series) (result : String) : Nat :=
  ((metrics.counts series).get? result).getD 0

/-- Count a result once. -/
def record (metrics : Metrics) (series : Series) (result : String) : Metrics :=
  match series with
  | .cordoned =>
    { metrics with cordoned := metrics.cordoned.insert result (metrics.count .cordoned result + 1) }
  | .drained =>
    { metrics with drained := metrics.drained.insert result (metrics.count .drained result + 1) }

@[simp] theorem count_empty (series : Series) (result : String) :
    ({} : Metrics).count series result = 0 := by
  cases series <;> rfl

/-- Counting a result adds one to its count and to no other. -/
theorem count_record (metrics : Metrics) (series other : Series) (result text : String) :
    (metrics.record series result).count other text =
      metrics.count other text + if other = series ∧ text = result then 1 else 0 := by
  cases series <;> cases other <;> simp [record, count, counts] <;> split <;> simp_all [eq_comm]

/-! ## The page of samples -/

/-- The value of a count: positional up to six digits, in powers of ten from a million on. -/
def valueText (count : Nat) : String :=
  let digits := Nat.toDigits 10 count
  if digits.length ≤ 6 then String.ofList digits ++ ".0"
  else
    let fraction := ((digits.drop 1).reverse.dropWhile (· == '0')).reverse
    let mantissa := digits.take 1 ++ if fraction.isEmpty then [] else '.' :: fraction
    String.ofList mantissa ++ s!"e+0{digits.length - 1}"

/-- One character of the value of a label. -/
def labelChar : Char → List Char
  | '\\' => ['\\', '\\']
  | '\n' => ['\\', 'n']
  | '"' => ['\\', '"']
  | c => [c]

/-- The value of a label, between quotes. -/
def labelValue (value : String) : String :=
  "\"" ++ String.ofList (value.toList.flatMap labelChar) ++ "\""

/-- One sample of a series. -/
def sample (name result value : String) : String :=
  name ++ "\x7bresult=" ++ labelValue result ++ "\x7d " ++ value

/-- The lines that head a block of samples. -/
def heading (name help kind : String) : List String :=
  [s!"# HELP {name} {help}", s!"# TYPE {name} {kind}"]

/-- The lines of one series: its counts and, if there are any, the times at which they began. -/
def seriesLines (metrics : Metrics) (begun : Series → String → String) (series : Series) :
    List String :=
  let entries := (metrics.counts series).entries
  let name := s!"{metricsRoot}_{series.label}"
  let totals := entries.map fun entry => sample (name ++ "_total") entry.1 (valueText entry.2)
  let births := entries.map fun entry => sample (name ++ "_created") entry.1 (begun series entry.1)
  heading (name ++ "_total") series.help "counter" ++ totals ++
    if entries.isEmpty then [] else heading (name ++ "_created") series.help "gauge" ++ births

/-- The page of samples. The times at which the counts began are given as texts. -/
def page (metrics : Metrics) (begun : Series → String → String) : String :=
  let lines := metrics.seriesLines begun .cordoned ++ metrics.seriesLines begun .drained
  String.join (lines.map (· ++ "\n"))

/-- The type of the page. -/
def pageType : String := "text/plain; version=1.0.0; charset=utf-8"

end Metrics

end Evacuation
