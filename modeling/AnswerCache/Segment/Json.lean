import AnswerCache.Query.Decode
import AnswerCache.Query.Encode
import AnswerCache.Segment.Basic

namespace AnswerCache

open Json

def Segment.toJson (s : Segment) : Json :=
  .object [("dataSource", .string s.dataSource), ("interval", s.interval.toJson),
    ("partition", .nat s.partition.toNat), ("sizeBytes", jsonOfUInt64 s.sizeBytes),
    ("version", .string s.version)]

structure Segment.Partial where
  dataSource : Option String := none
  interval : Option Interval := none
  version : Option String := none
  partition : Option UInt32 := none
  sizeBytes : Option UInt64 := none

def Segment.Partial.read (p : Partial) (key : String) (value : Source) : Decoded Partial :=
  match key with
  | "dataSource" => return { p with dataSource := ← readOnce key p.dataSource value.toText }
  | "interval" => return { p with interval := ← readOnce key p.interval (Interval.decode value) }
  | "version" => return { p with version := ← readOnce key p.version value.toText }
  | "partition" => return { p with partition := ← readOnce key p.partition value.toUInt32 }
  | "sizeBytes" => return { p with sizeBytes := ← readOnce key p.sizeBytes value.toUInt64 }
  | _ => return p

def Segment.shape : Shape where
  name := "struct SegmentMetadata"
  fields :=
    [("dataSource", false), ("interval", false), ("version", false), ("partition", true),
      ("sizeBytes", true)]

def Segment.decode (origin : Origin) (s : Source) : Decoded Segment := do
  let p ← decodeFields origin shape {} Partial.read s
  return {
    dataSource := ← required "dataSource" p.dataSource
    interval := ← required "interval" p.interval
    version := ← required "version" p.version
    partition := p.partition.getD 0
    sizeBytes := p.sizeBytes.getD 0 }

namespace SegmentEvent

inductive Tag
  | tracked
  | loaded
  | dropped
  | dataSourceDropped
  deriving DecidableEq

def Tag.name : Tag → String
  | tracked => "tracked"
  | loaded => "loaded"
  | dropped => "dropped"
  | dataSourceDropped => "dataSourceDropped"

def Tag.variants : List (String × Tag) :=
  named name [tracked, loaded, dropped, dataSourceDropped]

def toJson : SegmentEvent → Json
  | tracked dataSource =>
    .object [("dataSource", .string dataSource), ("event", .string Tag.tracked.name)]
  | loaded segment => .object [("event", .string Tag.loaded.name), ("segment", segment.toJson)]
  | dropped segment => .object [("event", .string Tag.dropped.name), ("segment", segment.toJson)]
  | dataSourceDropped dataSource =>
    .object [("dataSource", .string dataSource), ("event", .string Tag.dataSourceDropped.name)]

def decode (origin : Origin) (s : Source) : Decoded SegmentEvent := do
  match ← decodeTagged origin "SegmentEvent" "event" Tag.variants s with
  | (.tracked, s) =>
    return tracked
      (← decodeOnly "struct variant SegmentEvent::Tracked" "dataSource" Source.toText s)
  | (.loaded, s) =>
    return loaded
      (← decodeOnly "struct variant SegmentEvent::Loaded" "segment" (Segment.decode .tagged) s)
  | (.dropped, s) =>
    return dropped
      (← decodeOnly "struct variant SegmentEvent::Dropped" "segment" (Segment.decode .tagged) s)
  | (.dataSourceDropped, s) =>
    return dataSourceDropped
      (← decodeOnly "struct variant SegmentEvent::DataSourceDropped" "dataSource" Source.toText s)

end SegmentEvent

end AnswerCache
