import AnswerCache.Command.Arguments
import AnswerCache.Command.Files
import AnswerCache.Command.Output

/-!
Running a command line on a file system: what it prints, and how it ends. A run writes one file at
most, and only where there was none.
-/

namespace AnswerCache.Command

inductive Failure
  | queryFile (path : String) (error : FileError)
  | queryText (path : String) (error : DecodeError)
  | query (error : QueryError)
  | key (error : KeyError)
  | scenarioFile (path : String) (error : FileError)
  | scenarioText (path : String) (error : DecodeError)
  | replay (error : ReplayError)
  | configFile (error : FileError)
  | configText (error : DecodeError)
  | outputTaken (path : String)
  | outputFile (error : FileError)

def Failure.message : Failure → String
  | queryFile path _ => "Failed to read query file " ++ pathText path
  | queryText path _ => "Invalid query in " ++ pathText path
  | query error => error.message
  | key error => error.message
  | scenarioFile path _ => "Failed to read scenario " ++ pathText path
  | scenarioText path _ => "Invalid scenario in " ++ pathText path
  | replay error => error.outline
  | configFile error => error.message
  | configText error => error.message
  | outputTaken path => "Refusing to overwrite existing file " ++ pathText path
  | outputFile error => error.message

def Failure.cause : Failure → Option String
  | queryFile _ error | scenarioFile _ error => some error.message
  | queryText _ error | scenarioText _ error => some error.message
  | replay error => some error.cause.message
  | _ => none

inductive Crash
  | panic
  | abort

def Crash.ofTable : TableFault → Crash
  | .tooLarge => panic
  | .noMemory => abort

inductive Ending
  | success
  | failure (f : Failure)
  | misuse
  | crash (c : Crash)

def Ending.code : Ending → UInt32
  | success => 0
  | failure _ => 1
  | misuse => 2
  | crash .panic => 101
  | crash .abort => 134

structure Outcome where
  lines : List String
  ending : Ending

namespace Outcome

def ofResult (before : List String) : Except Ending (List String) → Outcome
  | .ok lines => ⟨before ++ lines, .success⟩
  | .error ending => ⟨before, ending⟩

def behind (before : List String) (o : Outcome) : Outcome :=
  ⟨before ++ o.lines, o.ending⟩

def cut (limit : Option Nat) (o : Outcome) : Outcome :=
  match limit with
  | none => o
  | some n => if o.lines.length ≤ n then o else ⟨o.lines.take n, .crash .panic⟩

end Outcome

def keyOfText (path text : String) : Except Failure CacheKey := do
  let query ← (Json.decodeText Query.decode text).mapError (.queryText path)
  query.validate.mapError .query
  (Canonicalizer.standard.keyOf query).mapError .key

def keyLines (format : OutputFormat) (key : CacheKey) : List String :=
  match format with
  | .json => [(keyJson key).prettyText]
  | .table => tableLines (keyTable .standard key)

def replayText (config : CommandConfig) (around : Surroundings) (path text : String) :
    Except Ending ReplayReport := do
  let scenario ←
    (Json.decodeText Scenario.decode text).mapError fun e => .failure (.scenarioText path e)
  let result ← (scenario.run config.cache around).mapError fun fault => .crash (.ofTable fault)
  result.mapError fun e => .failure (.replay e)

def reportLines (config : CommandConfig) (report : ReplayReport) : List String :=
  match config.outputFormat with
  | .json => [(reportJson report).prettyText]
  | .table => tableLines (stepTable config.showTiming report) ++ tableLines (metricTable report)

section

variable {m : Type → Type} [Monad m]

def runTask (files : FileSystem m) (around : Surroundings) (config : CommandConfig) :
    Task → m Outcome
  | .key path => do
    match ← files.load path with
    | .error e => return ⟨[], .failure (.queryFile path e)⟩
    | .ok text =>
      return .ofResult []
        (((keyOfText path text).map (keyLines config.outputFormat)).mapError .failure)
  | .replay path => do
    match ← files.load path with
    | .error e => return ⟨[replayLine path], .failure (.scenarioFile path e)⟩
    | .ok text =>
      return .ofResult [replayLine path]
        ((replayText config around path text).map (reportLines config))
  | .initConfig path => do
    if ← files.isTaken path then return ⟨[], .failure (.outputTaken path)⟩
    else
      match ← files.save path config.toJson.prettyText with
      | .error e => return ⟨[], .failure (.outputFile e)⟩
      | .ok () => return ⟨[writtenLine path], .success⟩

def loadConfig (files : FileSystem m) : Option String → m (Except Failure CommandConfig)
  | none => return .ok {}
  | some path => do
    match ← files.load path with
    | .error e => return .error (.configFile e)
    | .ok text => return (Json.decodeText CommandConfig.decode text).mapError .configText

def effective (json : Bool) (config : CommandConfig) : CommandConfig :=
  if json then { config with outputFormat := .json } else config

def opening (config : CommandConfig) : List String :=
  match config.outputFormat with
  | .table => banner
  | .json => []

def runRequest (files : FileSystem m) (around : Surroundings) (r : Request) : m Outcome := do
  match ← loadConfig files r.config with
  | .error f => return ⟨[], .failure f⟩
  | .ok config =>
    let config := effective r.json config
    -- a task is not begun before the opening lines are printed
    let opened := Outcome.cut around.printLimit ⟨opening config, .success⟩
    match opened.ending with
    | .success =>
      let outcome ← runTask files around config r.task
      return (outcome.behind (opening config)).cut around.printLimit
    | _ => return opened

def usage : List String :=
  ["Query gateway result cache tools", "", "Usage: qe [OPTIONS] <COMMAND>"]

def run (files : FileSystem m) (around : Surroundings) (arguments : List String) : m Outcome :=
  match parse arguments with
  | .run request => runRequest files around request
  | .help => return ⟨usage, .success⟩
  | .version => return ⟨[versionLine], .success⟩
  | .misuse => return ⟨[], .misuse⟩

end

end AnswerCache.Command
