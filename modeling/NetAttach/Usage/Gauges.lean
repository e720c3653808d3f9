/-
  The gauges that are published about the use of networks.

  One gauge counts the pods for each label, the other tells whether there are any.  A label has a sample from
  its first use on, and samples are listed in the order of first use.  The text form is the exposition format
  of metric collectors.
-/
import NetAttach.Number.DoubleText
import NetAttach.Table

namespace NetAttach

/-- The samples of the two gauges. -/
structure Gauges where
  instances : Table Text Float
  enabled : Table Text Float

namespace Gauges

/-- Gauges without samples. -/
def empty : Gauges := ⟨.empty, .empty⟩

instance : Inhabited Gauges := ⟨empty⟩

/-- Add to the number of pods for a label. -/
def addInstances (g : Gauges) (label : Text) (delta : Float) : Gauges :=
  { g with instances := g.instances.put label (g.instances.getD label 0 + delta) }

/-- Say whether there are pods for a label. -/
def setEnabled (g : Gauges) (label : Text) (up : Bool) : Gauges :=
  { g with enabled := g.enabled.put label (if up then 1 else 0) }

/-! ## The exposition format -/

/-- The value of a sample.  A number from a million up to below 10^16 has a mantissa and an exponent of two
digits; other numbers are written as in messages. -/
def valueText (x : Float) : Text :=
  match DoubleForm.ofFloat x with
  | .nan => "NaN"
  | .infinite negative => if negative then "-Inf" else "+Inf"
  | .finite negative digits point =>
    if !negative && decide (6 < point) && decide (point ≤ 16) then
      DecimalStyle.scientific (digits.map CodePoint.ofChar) ++ "e" ++
        DecimalStyle.exponentText (point - 1)
    else .ofFloat x

/-- A label between double quotes, with backslash, line feed and quote escaped. -/
def labelText (label : Text) : Text :=
  label.flatMap fun (c : CodePoint) =>
    (if c = '\\' then "\\\\" else if c = '\n' then "\\n" else if c = '"' then "\\\"" else [c] : Text)

/-- The line of one sample. -/
def sampleLine (metric : Text) (sample : Text × Float) : Text :=
  metric ++ "\x7bnetworks=\"" ++ labelText sample.1 ++ "\"\x7d " ++ valueText sample.2

/-- The name and the purpose of the gauge that counts. -/
def instancesMetric : Text := "network_attachment_definition_instances"
def instancesHelp : Text :=
  "Metric to get number of instance using network attachment definition in the cluster."

/-- The name and the purpose of the gauge that tells whether there are any. -/
def enabledMetric : Text := "network_attachment_definition_enabled_instance_up"
def enabledHelp : Text :=
  "Metric to identify clusters with network attachment definition enabled instances."

/-- The lines of one gauge. -/
def metricLines (metric help : Text) (samples : Table Text Float) : List Text :=
  ("# HELP " ++ metric ++ " " ++ help) :: ("# TYPE " ++ metric ++ " gauge") ::
    samples.entries.map (sampleLine metric)

/-- The samples of both gauges, a line each. -/
def sampleLines (g : Gauges) : List Text :=
  g.instances.entries.map (sampleLine instancesMetric) ++
    g.enabled.entries.map (sampleLine enabledMetric)

/-- All lines of both gauges. -/
def lines (g : Gauges) : List Text :=
  metricLines instancesMetric instancesHelp g.instances ++
    metricLines enabledMetric enabledHelp g.enabled

/-- The page that a collector reads. -/
def page (g : Gauges) : Text := g.lines.flatMap fun line => line ++ "\n"

example : valueText 1000000 = ("1e+06" : Text) := by decide +kernel
example : valueText 123456789 = ("1.23456789e+08" : Text) := by decide +kernel
example : valueText (-3) = ("-3.0" : Text) := by decide +kernel

end Gauges

end NetAttach
