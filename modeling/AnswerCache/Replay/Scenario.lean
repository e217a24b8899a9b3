import AnswerCache.Segment.Json

namespace AnswerCache

inductive Scenario.Step
  | query (label : Option String) (query : Query)
  | segments (events : List SegmentEvent)

structure Scenario where
  segments : List SegmentEvent
  volatileFrom : Option Instant
  steps : List Scenario.Step

open Json

def Instant.decode : Source → Decoded Instant
  | .string s =>
    match parseLenient? s with
    | some t => .ok t
    | none => .error (.refused "bad datetime")
  | s => s.mismatch "an RFC 3339 formatted date and time string"

namespace Scenario

inductive Step.Tag
  | query
  | segments
  deriving DecidableEq

def Step.Tag.name : Tag → String
  | query => "query"
  | segments => "segments"

def Step.Tag.variants : List (String × Tag) :=
  named name [query, segments]

def decodeEvents (origin : Origin) (s : Source) : Decoded (List SegmentEvent) :=
  s.toList (SegmentEvent.decode origin)

structure Step.Labelled where
  label : Option (Option String) := none
  query : Option Query := none

def Step.Labelled.read (l : Labelled) (key : String) (value : Source) : Decoded Labelled :=
  match key with
  | "label" => return { l with label := ← readOnce key l.label (value.toOption Source.toText) }
  | "query" => return { l with query := ← readOnce key l.query (Query.decode .tagged value) }
  | _ => return l

def Step.Labelled.shape : Shape :=
  ⟨"struct variant Step::Query", [("label", true), ("query", false)]⟩

def Step.decode (origin : Origin) (s : Source) : Decoded Step := do
  match ← decodeTagged origin "Step" "step" Tag.variants s with
  | (.query, s) =>
    let l ← decodeFields .tagged Labelled.shape {} Labelled.read s
    return .query l.label.join (← required "query" l.query)
  | (.segments, s) =>
    return .segments (← decodeOnly "struct variant Step::Segments" "events" (decodeEvents .tagged) s)

structure Partial where
  segments : Option (List SegmentEvent) := none
  volatileFrom : Option (Option Instant) := none
  steps : Option (List Step) := none

def Partial.read (origin : Origin) (p : Partial) (key : String) (value : Source) :
    Decoded Partial :=
  match key with
  | "segments" =>
    return { p with segments := ← readOnce key p.segments (decodeEvents origin value) }
  | "volatileFrom" =>
    return { p with
      volatileFrom := ← readOnce key p.volatileFrom (value.toOption Instant.decode) }
  | "steps" =>
    return { p with steps := ← readOnce key p.steps (value.toList (Step.decode origin)) }
  | _ => return p

def shape : Shape :=
  ⟨"struct Scenario", [("segments", true), ("volatileFrom", true), ("steps", false)]⟩

def decode (origin : Origin) (s : Source) : Decoded Scenario := do
  let p ← decodeFields origin shape {} (Partial.read origin) s
  return {
    segments := p.segments.getD []
    volatileFrom := p.volatileFrom.join
    steps := ← required "steps" p.steps }

end Scenario

end AnswerCache
