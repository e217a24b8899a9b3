import AnswerCache.Execution.Response
import AnswerCache.Policy.Policy

/-!
The stages that a response passes through: stages that report on it or change it, and at the end
the one that offers it to the cache.
-/

namespace AnswerCache

structure Stage where
  name : String
  apply : Response → Response
  notices : Response → List Notice

namespace Stage

def reporting : Stage where
  name := "log"
  apply r := r
  notices r := [.answered r.query.queryId r.provenance.name r.missing.length r.volatile.length]

def changing (name : String) (apply : Response → Response) : Stage :=
  ⟨name, apply, fun _ => []⟩

def runAll : List Stage → Response → Response × List Notice
  | [], r => (r, [])
  | stage :: rest, r =>
    let (out, notices) := runAll rest (stage.apply r)
    (out, stage.notices r ++ notices)

end Stage

def CacheStage.name : String := "cache"

def Policy.offer? {σ : Type} (p : Policy σ) (r : Response) : Option PendingWrite :=
  if r.isFromCache || !p.config.enabled then none
  else some ⟨r.query, r.payload, r.verdict, r.ticket⟩

end AnswerCache
