import AnswerCache.Config
import AnswerCache.Proofs.Json.Decode

namespace AnswerCache

open Json (Origin bind_of_ok decodeVariant foldMembers_field readOnce_of_ok)
open Json.Source (ofJson toOption_ofJson toUInt64_ofJson toSize_ofJson)

lemma toBool_ofJson (b : Bool) : (ofJson (.bool b)).toBool = .ok b :=
  rfl

lemma OutputFormat.decode_name (origin : Origin) (f : OutputFormat) :
    decodeVariant origin variants (ofJson (.string f.name)) = .ok f := by
  cases f <;> rfl

lemma StoreConfig.decode_toJson (origin : Origin) (c : StoreConfig) :
    decode origin (ofJson c.toJson) = .ok c := by
  obtain ⟨entries, memory, ttl, timeout⟩ := c
  have hentries : Partial.read {} "max_entries" (ofJson (jsonOfUInt64 entries)) =
      .ok ⟨some entries, none, none, none⟩ :=
    bind_of_ok (readOnce_of_ok (toSize_ofJson entries) _) _
  have hmemory : Partial.read ⟨some entries, none, none, none⟩ "max_memory_bytes"
      (ofJson (jsonOfUInt64 memory)) = .ok ⟨some entries, some memory, none, none⟩ :=
    bind_of_ok (readOnce_of_ok (toSize_ofJson memory) _) _
  have httl : Partial.read ⟨some entries, some memory, none, none⟩ "ttl_ms"
      (ofJson (Json.optional jsonOfUInt64 ttl)) = .ok ⟨some entries, some memory, some ttl, none⟩ :=
    bind_of_ok (readOnce_of_ok (toOption_ofJson ttl) _) _
  have htimeout : Partial.read ⟨some entries, some memory, some ttl, none⟩ "operation_timeout_ms"
      (ofJson (jsonOfUInt64 timeout)) =
        .ok ⟨some entries, some memory, some ttl, some timeout⟩ :=
    bind_of_ok (readOnce_of_ok (toUInt64_ofJson timeout) _) _
  have hfields := (foldMembers_field hentries _).trans <| (foldMembers_field hmemory _).trans <|
    (foldMembers_field httl _).trans (foldMembers_field htimeout [])
  exact bind_of_ok hfields _

lemma CacheConfig.decode_toJson (origin : Origin) (c : CacheConfig) :
    decode origin (ofJson c.toJson) = .ok c := by
  obtain ⟨enabled, bytes, cachePartial, store⟩ := c
  have henabled : Partial.read origin {} "enabled" (ofJson (.bool enabled)) =
      .ok ⟨some enabled, none, none, none⟩ :=
    bind_of_ok (readOnce_of_ok (toBool_ofJson enabled) _) _
  have hbytes : Partial.read origin ⟨some enabled, none, none, none⟩ "max_response_bytes"
      (ofJson (jsonOfUInt64 bytes)) = .ok ⟨some enabled, some bytes, none, none⟩ :=
    bind_of_ok (readOnce_of_ok (toUInt64_ofJson bytes) _) _
  have hpartial : Partial.read origin ⟨some enabled, some bytes, none, none⟩ "cache_partial_data"
      (ofJson (.bool cachePartial)) = .ok ⟨some enabled, some bytes, some cachePartial, none⟩ :=
    bind_of_ok (readOnce_of_ok (toBool_ofJson cachePartial) _) _
  have hstore : Partial.read origin ⟨some enabled, some bytes, some cachePartial, none⟩ "store"
      (ofJson store.toJson) = .ok ⟨some enabled, some bytes, some cachePartial, some store⟩ :=
    bind_of_ok (readOnce_of_ok (store.decode_toJson origin) _) _
  have hfields := (foldMembers_field henabled _).trans <| (foldMembers_field hbytes _).trans <|
    (foldMembers_field hpartial _).trans (foldMembers_field hstore [])
  exact bind_of_ok hfields _

namespace CommandConfig

lemma decode_toJson (origin : Origin) (c : CommandConfig) :
    decode origin (ofJson c.toJson) = .ok c := by
  obtain ⟨timing, format, cache⟩ := c
  have htiming : Partial.read origin {} "show_timing" (ofJson (.bool timing)) =
      .ok ⟨some timing, none, none⟩ :=
    bind_of_ok (readOnce_of_ok (toBool_ofJson timing) _) _
  have hformat : Partial.read origin ⟨some timing, none, none⟩ "output_format"
      (ofJson (.string format.name)) = .ok ⟨some timing, some format, none⟩ :=
    bind_of_ok (readOnce_of_ok (format.decode_name origin) _) _
  have hcache : Partial.read origin ⟨some timing, some format, none⟩ "cache"
      (ofJson cache.toJson) = .ok ⟨some timing, some format, some cache⟩ :=
    bind_of_ok (readOnce_of_ok (cache.decode_toJson origin) _) _
  have hfields := (foldMembers_field htiming _).trans <|
    (foldMembers_field hformat _).trans (foldMembers_field hcache [])
  exact bind_of_ok hfields _

example : (Json.decodeText decode "[false]").toOption = some { showTiming := false } := by
  decide +kernel

end CommandConfig

end AnswerCache
