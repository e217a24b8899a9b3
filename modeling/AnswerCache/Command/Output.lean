import AnswerCache.Binary64.Notation
import AnswerCache.Canonical
import AnswerCache.Replay.Run
import AnswerCache.Text.Table
import AnswerCache.Text.Hidden

namespace AnswerCache

namespace StepReport

def elapsedMs (s : StepReport) : Binary64 :=
  .ofQuotient false s.elapsedNanos StoreConfig.nanosPerMilli

end StepReport

namespace Command

def pathText (path : String) : String :=
  String.ofList (Text.visible path)

def banner : List String :=
  ["Query Gateway Result Cache v0.1.0", "Signature-validated caching for aggregation queries", ""]

def versionLine : String := "qe 0.1.0"

def replayLine (path : String) : String :=
  "→ Replaying scenario " ++ pathText path

def writtenLine (path : String) : String :=
  "✓ Configuration written to " ++ pathText path

def tableLines (t : Text.Table) : List String :=
  t.lines.map String.ofList

def numberText (n : Nat) : String :=
  String.ofList (Text.decimal n)

def keyTable (c : Canonicalizer) (key : CacheKey) : Text.Table where
  header := ["Property", "Value"]
  rows :=
    [["Canonical key", key.text],
      ["Checksum", key.checksum],
      ["Length", numberText key.length],
      ["Omitted fields", ", ".intercalate c.omitted.keys]]

def keyJson (key : CacheKey) : Json :=
  .object [("checksum", .string key.checksum), ("key", .string key.text),
    ("length", .nat key.length)]

def stepRow (showTiming : Bool) (s : StepReport) : List String :=
  [numberText s.step, s.label, (s.provenance.map Provenance.name).getD "-", s.detail] ++
    if showTiming then [String.ofList (s.elapsedMs.fixed 2)] else []

def stepTable (showTiming : Bool) (r : ReplayReport) : Text.Table where
  header := ["Step", "Label", "Source", "Detail"] ++ if showTiming then ["Time (ms)"] else []
  rows := r.steps.map (stepRow showTiming)

def hundred : Binary64 := .ofNat 100

def percent (x : Binary64) : String :=
  match x, hundred with
  | .finite x, .finite y => String.ofList ((x.mul y).fixed 1) ++ "%"
  | _, _ => String.ofList (x.fixed 1) ++ "%"

def metricTable (r : ReplayReport) : Text.Table where
  header := ["Metric", "Value"]
  rows := r.metrics.counters.map (fun c => [c.1, numberText c.2]) ++
    [["hit_rate", percent r.hitRate], ["backend_calls", numberText r.backendCalls]]

def numberJson : Binary64 → Json
  | .finite x => .number (.double x)
  | _ => .null

def stepJson (s : StepReport) : Json :=
  .object [("step", .nat s.step), ("label", .string s.label),
    ("source", .optional (fun p => .string p.name) s.provenance), ("detail", .string s.detail),
    ("elapsed_ms", numberJson s.elapsedMs)]

def reportJson (r : ReplayReport) : Json :=
  .object [("steps", .array (r.steps.map stepJson)), ("metrics", r.metrics.toJson),
    ("hit_rate", numberJson r.hitRate), ("backend_calls", .nat r.backendCalls)]

end Command

end AnswerCache
