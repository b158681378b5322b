import Bourse.Double.Layout
import Bourse.Text.Quote

/-!
# Metric families and their text exposition

A metric family has a name, a help text and a kind: a counter or a gauge holds one value, or
one value per value of its label; a histogram counts observations into buckets with upper
bounds and keeps their sum and count.

The text exposition writes each family that has at least one series, in order of name: a
`# HELP` line, a `# TYPE` line and one line per series, in order of label value. A histogram
writes a line per bucket with the count of observations up to its bound (label `le`), the last
bucket `+Inf`, then its sum and count. Numbers are written shortest (`0.001`, `1e-06`), with
`+Inf`, `-Inf` and `NaN` for the values that are not finite, and zero without a sign.
-/

namespace Bourse

/-- Values kept per label value, in the order the label values first came. -/
structure LabelledValues where
  /-- The label values with their values. -/
  entries : List (String × Float)
  deriving Repr, Inhabited

namespace LabelledValues

/-- No values. -/
def empty : LabelledValues := ⟨[]⟩

/-- Changes the value of a label value, starting from zero. -/
def update (values : LabelledValues) (label : String) (change : Float → Float) : LabelledValues :=
  if values.entries.any (·.1 == label) then
    ⟨values.entries.map fun (l, v) => if l == label then (l, change v) else (l, v)⟩
  else ⟨values.entries ++ [(label, change 0)]⟩

/-- Adds to the value of a label value. -/
def add (values : LabelledValues) (label : String) (amount : Float) : LabelledValues :=
  values.update label (· + amount)

/-- Sets the value of a label value. -/
def set (values : LabelledValues) (label : String) (value : Float) : LabelledValues :=
  values.update label fun _ => value

/-- Forgets a label value. -/
def remove (values : LabelledValues) (label : String) : LabelledValues :=
  ⟨values.entries.filter (·.1 != label)⟩

end LabelledValues

/-- Observations counted into buckets. -/
structure Histogram where
  /-- The upper bounds of the buckets, rising; a last bucket takes everything above. -/
  bounds : List Float
  /-- The observations per bucket, one more than the bounds. -/
  counts : List Nat
  /-- The sum of the observations. -/
  sum : Float
  /-- The number of observations. -/
  count : Nat
  deriving Repr, Inhabited

namespace Histogram

/-- A histogram with no observations. -/
def empty (bounds : List Float) : Histogram := ⟨bounds, List.replicate (bounds.length + 1) 0, 0, 0⟩

/-- Counts an observation into the first bucket whose bound it does not exceed. -/
def observe (h : Histogram) (value : Float) : Histogram :=
  let index := (h.bounds.findIdx? (value ≤ ·)).getD h.bounds.length
  { h with counts := h.counts.modify index (· + 1), sum := h.sum + value, count := h.count + 1 }

end Histogram

/-- What a family holds. -/
inductive MetricData where
  /-- A counter's value. -/
  | counter (value : Float)
  /-- A gauge's value. -/
  | gauge (value : Float)
  /-- A counter per value of a label. -/
  | counters (label : String) (values : LabelledValues)
  /-- A gauge per value of a label. -/
  | gauges (label : String) (values : LabelledValues)
  /-- A histogram. -/
  | histogram (h : Histogram)
  deriving Repr

/-- A metric family. -/
structure MetricFamily where
  /-- The full name. -/
  name : String
  /-- The help text. -/
  help : String
  /-- What it holds. -/
  data : MetricData
  deriving Repr

/-- The full name of a metric: namespace, subsystem and name joined by `_`, leaving out the
empty parts. -/
def metricName (namespaceName subsystem name : String) : String :=
  if name.isEmpty then ""
  else "_".intercalate ([namespaceName, subsystem, name].filter (!·.isEmpty))

/-- Whether the registry takes a metric name: a letter, `_` or `:` first, then letters, digits,
`_` and `:`. -/
def isMetricName (name : String) : Bool :=
  match name.toList with
  | [] => false
  | c :: rest =>
    (c.isAlpha || c == '_' || c == ':') && rest.all fun d => d.isAlphanum || d == '_' || d == ':'

/-- The names of the labels a family's metrics vary by. -/
def MetricData.labelNames : MetricData → List String
  | .counters label _ | .gauges label _ => [label]
  | _ => []

/-- Why the registry refuses a family, if it does: its full name is not a metric name. The
refusal describes the family's descriptor, which has no constant labels. -/
def MetricFamily.refusal? (f : MetricFamily) : Option String :=
  if isMetricName f.name then none
  else some ("descriptor Desc\x7bfqName: " ++ quoteText f.name ++ ", help: " ++ quoteText f.help ++
    ", constLabels: \x7b\x7d, variableLabels: \x7b" ++ ",".intercalate f.data.labelNames ++
    "\x7d\x7d is invalid: " ++ quoteText f.name ++ " is not a valid metric name")

/-- A number as the exposition writes it. -/
def sampleText (x : Float) : String :=
  if x == 0 then "0" else FloatLayout.general.render x

/-- A help text with backslashes and line breaks escaped. -/
def escapeHelp (text : String) : String :=
  String.join (text.toList.map fun c =>
    if c == '\\' then "\\\\" else if c == '\n' then "\\n" else c.toString)

/-- A label value with backslashes, quotes and line breaks escaped. -/
def escapeLabel (text : String) : String :=
  String.join (text.toList.map fun c =>
    if c == '\\' then "\\\\" else if c == '\n' then "\\n" else if c == '"' then "\\\""
    else c.toString)

namespace MetricFamily

/-- The kind of a family, as its `# TYPE` line gives it. -/
def kind (family : MetricFamily) : String :=
  match family.data with
  | .counter _ | .counters .. => "counter"
  | .gauge _ | .gauges .. => "gauge"
  | .histogram _ => "histogram"

/-- The lines of a family's series. -/
def seriesLines (family : MetricFamily) : List String :=
  let labelled (label : String) (values : LabelledValues) : List String :=
    let sorted := values.entries.mergeSort fun a b => decide (a.1 ≤ b.1)
    sorted.map fun (l, v) =>
      family.name ++ "\x7b" ++ label ++ "=\"" ++ escapeLabel l ++ "\"\x7d " ++ sampleText v
  match family.data with
  | .counter v | .gauge v => [family.name ++ " " ++ sampleText v]
  | .counters label values | .gauges label values => labelled label values
  | .histogram h =>
    let bounds := h.bounds.map sampleText ++ ["+Inf"]
    let cumulative := (h.counts.foldl (fun (acc : List Nat × Nat) c =>
      (acc.1 ++ [acc.2 + c], acc.2 + c)) ([], 0)).1
    (bounds.zip cumulative).map (fun (b, c) =>
      family.name ++ "_bucket\x7ble=\"" ++ b ++ "\"\x7d " ++ toString c) ++
    [family.name ++ "_sum " ++ sampleText h.sum, family.name ++ "_count " ++ toString h.count]

/-- Whether a family has any series to show. -/
def hasSeries (family : MetricFamily) : Bool :=
  match family.data with
  | .counters _ values | .gauges _ values => !values.entries.isEmpty
  | _ => true

/-- The lines of a family in the exposition. -/
def lines (family : MetricFamily) : List String :=
  ("# HELP " ++ family.name ++ " " ++ escapeHelp family.help) ::
  ("# TYPE " ++ family.name ++ " " ++ family.kind) :: family.seriesLines

end MetricFamily

/-- The families shown, in order of name. -/
def gatherFamilies (families : List MetricFamily) : List MetricFamily :=
  (families.filter (·.hasSeries)).mergeSort fun a b => decide (a.name ≤ b.name)

/-- The text exposition of the families, as lines. -/
def expositionLines (families : List MetricFamily) : List String :=
  (gatherFamilies families).flatMap (·.lines)

end Bourse
