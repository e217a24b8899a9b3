import AnswerCache.Policy.Basic

namespace AnswerCache

inductive Notice
  | keyUnavailable (error : KeyError)
  | readFailed (store : String) (key : CacheKey) (error : StoreError)
  | entryInvalid (queryId : Option String) (key : CacheKey)
  | entryUnreadable (key : CacheKey)
  | hit (queryId : Option String) (valueLength : Nat)
  | partialData (queryId : Option String) (verdict : Verdict)
  | oversized (key : CacheKey) (valueLength : Nat) (limit : UInt64)
  | stored (key : CacheKey) (valueLength : Nat) (signature : Option Signature)
  | writeFailed (failure : WriteFailure)
  | segmentLoaded (identifier : String)
  | segmentDropped (identifier : String)
  | backendAsked (backend : String) (queryId : Option String)
  | answered (queryId : Option String) (source : String) (missing volatile : Nat)

inductive Level
  | debug
  | warn
  deriving DecidableEq

def Level.name : Level → String
  | debug => "DEBUG"
  | warn => "WARN"

namespace Notice

def level : Notice → Level
  | keyUnavailable _ | readFailed _ _ _ | entryUnreadable _ | writeFailed _ => .warn
  | _ => .debug

def message : Notice → String
  | keyUnavailable _ => "Unable to derive cache key, treating as miss"
  | readFailed _ _ _ => "Cache read failed, treating as miss"
  | entryInvalid _ _ => "Cache entry present but invalid"
  | entryUnreadable _ => "Error processing cached value"
  | hit _ _ => "Cache hit"
  | partialData _ _ => "Response not cached, data is partial or volatile"
  | oversized _ _ _ => "Response not cached, length exceeds max value length"
  | stored _ _ _ => "Response cached"
  | writeFailed _ => "Unable to cache value"
  | segmentLoaded _ => "Segment loaded"
  | segmentDropped _ => "Segment dropped"
  | backendAsked _ _ => "Cache miss, executing query"
  | answered _ _ _ _ => "Query response"

def maybeText (inner : Option (List Char)) : Json :=
  match inner with
  | some cs => .text ("Some(".toList ++ cs ++ [')'])
  | none => .string "None"

def signatureText (s : Signature) : List Char :=
  "Signature(".toList ++ Text.decimal s.value.toNat ++ [')']

def idField (queryId : Option String) : String × Json :=
  ("query_id", .string (queryId.getD "-"))

def keyField (key : CacheKey) : String × Json :=
  ("key_checksum", .string key.checksum)

def checksumField (name : String) (checksum : Option String) : String × Json :=
  (name, .string (checksum.getD "N/A"))

def fields : Notice → List (String × Json)
  | keyUnavailable error => [("error", .string error.message)]
  | readFailed store key error =>
    [("store", .string store), keyField key, ("error", .string error.message)]
  | entryInvalid queryId key => [idField queryId, keyField key]
  | entryUnreadable key => [keyField key]
  | hit queryId valueLength => [idField queryId, ("value_length", .nat valueLength)]
  | partialData queryId verdict =>
    [idField queryId, ("missing", .bool verdict.missing), ("volatile", .bool verdict.volatile)]
  | oversized key valueLength limit =>
    [keyField key, ("value_length", .nat valueLength),
      ("max_response_bytes", .nat limit.toNat)]
  | stored key valueLength signature =>
    [keyField key, ("value_length", .nat valueLength),
      ("signature", maybeText (signature.map signatureText))]
  | writeFailed failure =>
    [("key_length", .nat failure.keyLength), checksumField "key_checksum" failure.keyChecksum,
      checksumField "signature_checksum" failure.signatureChecksum,
      ("value_length", maybeText (failure.valueLength.map Text.decimal)),
      ("error", .string failure.error.message)]
  | segmentLoaded identifier => [("segment", .string identifier)]
  | segmentDropped identifier => [("segment", .string identifier)]
  | backendAsked backend queryId => [("backend", .string backend), idField queryId]
  | answered queryId source missing volatile =>
    [idField queryId, ("source", .string source), ("missing", .nat missing),
      ("volatile", .nat volatile)]

end Notice

def Registry.notices (r : Registry) : SegmentEvent → List Notice
  | .loaded segment => [.segmentLoaded segment.identifier]
  | .dropped segment => if r.holds segment then [.segmentDropped segment.identifier] else []
  | _ => []

end AnswerCache
