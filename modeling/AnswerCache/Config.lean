import AnswerCache.Query.Decode
import AnswerCache.Query.Encode

namespace AnswerCache

structure StoreConfig where
  maxEntries : UInt64 := 10000
  maxMemoryBytes : UInt64 := 268435456
  ttlMs : Option UInt64 := none
  operationTimeoutMs : UInt64 := 500
  deriving DecidableEq

structure CacheConfig where
  enabled : Bool := true
  maxResponseBytes : UInt64 := 18446744073709551615
  cachePartialData : Bool := false
  store : StoreConfig := {}
  deriving DecidableEq

inductive OutputFormat
  | table
  | json
  deriving DecidableEq

structure CommandConfig where
  showTiming : Bool := true
  outputFormat : OutputFormat := .table
  cache : CacheConfig := {}
  deriving DecidableEq

def CacheConfig.disabled : CacheConfig :=
  { enabled := false }

namespace StoreConfig

def nanosPerMilli : Nat := 1000000

def ttlNanos (c : StoreConfig) : Option Nat :=
  c.ttlMs.map fun ms => ms.toNat * nanosPerMilli

def timeoutNanos (c : StoreConfig) : Nat :=
  c.operationTimeoutMs.toNat * nanosPerMilli

end StoreConfig

def OutputFormat.name : OutputFormat → String
  | table => "Table"
  | json => "Json"

def OutputFormat.variants : List (String × OutputFormat) :=
  named name [table, json]

open Json

def StoreConfig.toJson (c : StoreConfig) : Json :=
  .object [("max_entries", jsonOfUInt64 c.maxEntries),
    ("max_memory_bytes", jsonOfUInt64 c.maxMemoryBytes),
    ("ttl_ms", optional jsonOfUInt64 c.ttlMs),
    ("operation_timeout_ms", jsonOfUInt64 c.operationTimeoutMs)]

def CacheConfig.toJson (c : CacheConfig) : Json :=
  .object [("enabled", .bool c.enabled), ("max_response_bytes", jsonOfUInt64 c.maxResponseBytes),
    ("cache_partial_data", .bool c.cachePartialData), ("store", c.store.toJson)]

def CommandConfig.toJson (c : CommandConfig) : Json :=
  .object [("show_timing", .bool c.showTiming), ("output_format", .string c.outputFormat.name),
    ("cache", c.cache.toJson)]

structure StoreConfig.Partial where
  maxEntries : Option UInt64 := none
  maxMemoryBytes : Option UInt64 := none
  ttlMs : Option (Option UInt64) := none
  operationTimeoutMs : Option UInt64 := none

def StoreConfig.Partial.read (p : Partial) (key : String) (value : Source) : Decoded Partial :=
  match key with
  | "max_entries" => return { p with maxEntries := ← readOnce key p.maxEntries value.toSize }
  | "max_memory_bytes" =>
    return { p with maxMemoryBytes := ← readOnce key p.maxMemoryBytes value.toSize }
  | "ttl_ms" => return { p with ttlMs := ← readOnce key p.ttlMs (value.toOption Source.toUInt64) }
  | "operation_timeout_ms" =>
    return { p with operationTimeoutMs := ← readOnce key p.operationTimeoutMs value.toUInt64 }
  | _ => return p

def StoreConfig.shape : Shape where
  name := "struct StoreConfig"
  fields :=
    [("max_entries", true), ("max_memory_bytes", true), ("ttl_ms", true),
      ("operation_timeout_ms", true)]

def StoreConfig.decode (origin : Origin) (s : Source) : Decoded StoreConfig := do
  let p ← decodeFields origin shape {} Partial.read s
  let standard : StoreConfig := {}
  return {
    maxEntries := p.maxEntries.getD standard.maxEntries
    maxMemoryBytes := p.maxMemoryBytes.getD standard.maxMemoryBytes
    ttlMs := p.ttlMs.getD standard.ttlMs
    operationTimeoutMs := p.operationTimeoutMs.getD standard.operationTimeoutMs }

structure CacheConfig.Partial where
  enabled : Option Bool := none
  maxResponseBytes : Option UInt64 := none
  cachePartialData : Option Bool := none
  store : Option StoreConfig := none

def CacheConfig.Partial.read (origin : Origin) (p : Partial) (key : String) (value : Source) :
    Decoded Partial :=
  match key with
  | "enabled" => return { p with enabled := ← readOnce key p.enabled value.toBool }
  | "max_response_bytes" =>
    return { p with maxResponseBytes := ← readOnce key p.maxResponseBytes value.toUInt64 }
  | "cache_partial_data" =>
    return { p with cachePartialData := ← readOnce key p.cachePartialData value.toBool }
  | "store" => return { p with store := ← readOnce key p.store (StoreConfig.decode origin value) }
  | _ => return p

def CacheConfig.shape : Shape where
  name := "struct CacheConfig"
  fields :=
    [("enabled", true), ("max_response_bytes", true), ("cache_partial_data", true),
      ("store", true)]

def CacheConfig.decode (origin : Origin) (s : Source) : Decoded CacheConfig := do
  let p ← decodeFields origin shape {} (Partial.read origin) s
  let standard : CacheConfig := {}
  return {
    enabled := p.enabled.getD standard.enabled
    maxResponseBytes := p.maxResponseBytes.getD standard.maxResponseBytes
    cachePartialData := p.cachePartialData.getD standard.cachePartialData
    store := p.store.getD standard.store }

structure CommandConfig.Partial where
  showTiming : Option Bool := none
  outputFormat : Option OutputFormat := none
  cache : Option CacheConfig := none

def CommandConfig.Partial.read (origin : Origin) (p : Partial) (key : String) (value : Source) :
    Decoded Partial :=
  match key with
  | "show_timing" => return { p with showTiming := ← readOnce key p.showTiming value.toBool }
  | "output_format" =>
    return { p with
      outputFormat := ←
        readOnce key p.outputFormat (decodeVariant origin OutputFormat.variants value) }
  | "cache" => return { p with cache := ← readOnce key p.cache (CacheConfig.decode origin value) }
  | _ => return p

def CommandConfig.shape : Shape :=
  ⟨"struct Config", [("show_timing", true), ("output_format", true), ("cache", true)]⟩

def CommandConfig.decode (origin : Origin) (s : Source) : Decoded CommandConfig := do
  let p ← decodeFields origin shape {} (Partial.read origin) s
  let standard : CommandConfig := {}
  return {
    showTiming := p.showTiming.getD standard.showTiming
    outputFormat := p.outputFormat.getD standard.outputFormat
    cache := p.cache.getD standard.cache }

end AnswerCache
