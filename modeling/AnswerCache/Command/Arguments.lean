import AnswerCache.Text.Decimal

namespace AnswerCache.Command

inductive TaskName
  | key
  | replay
  | initConfig
  deriving DecidableEq

def TaskName.find? : String → Option TaskName
  | "key" => some .key
  | "replay" => some .replay
  | "init-config" => some .initConfig
  | _ => none

inductive Task
  | key (queryFile : String)
  | replay (scenarioFile : String)
  | initConfig (output : String)
  deriving DecidableEq

structure Request where
  task : Task
  verbose : Bool
  json : Bool
  config : Option String
  deriving DecidableEq

inductive CommandLine
  | run (request : Request)
  | help
  | version
  | misuse
  deriving DecidableEq

inductive Switch
  | verbose
  | json
  | help
  | version
  | config
  | output
  deriving DecidableEq

namespace Switch

def takesText : Switch → Bool
  | config | output => true
  | _ => false

def allowed (task : Option TaskName) : Switch → Bool
  | version => task.isNone
  | output => task = some .initConfig
  | _ => true

def ofLetter? : Char → Option Switch
  | 'v' => some verbose
  | 'c' => some config
  | 'o' => some output
  | 'h' => some help
  | 'V' => some version
  | _ => none

def ofWord? : String → Option Switch
  | "verbose" => some verbose
  | "config" => some config
  | "json" => some json
  | "output" => some output
  | "help" => some help
  | "version" => some version
  | _ => none

end Switch

structure Level where
  verbose : Bool := false
  json : Bool := false
  config : Option String := none
  output : Option String := none
  file : Option String := none
  pending : Option Switch := none
  switchesOver : Bool := false

abbrev Reading (α : Type) := Except CommandLine α

namespace Level

def setText (l : Level) (switch : Switch) (text : String) : Reading Level :=
  if text.isEmpty then .error .misuse
  else
    match switch with
    | .config =>
      if l.config.isSome then .error .misuse
      else .ok { l with config := some text, pending := none }
    | .output =>
      if l.output.isSome then .error .misuse
      else .ok { l with output := some text, pending := none }
    | _ => .error .misuse

def turnOn (l : Level) : Switch → Reading Level
  | .verbose => if l.verbose then .error .misuse else .ok { l with verbose := true }
  | .json => if l.json then .error .misuse else .ok { l with json := true }
  | .help => .error .help
  | .version => .error .version
  | switch => .ok { l with pending := some switch }

def addSwitch (l : Level) (task : Option TaskName) (switch : Option Switch)
    (text : Option String) : Reading Level :=
  match switch with
  | none => .error .misuse
  | some switch =>
    if l.pending.isSome || !switch.allowed task then .error .misuse
    else
      match text with
      | none => l.turnOn switch
      | some text => if switch.takesText then l.setText switch text else .error .misuse

def addLetters (l : Level) (task : Option TaskName) : List Char → Reading Level
  | [] => .ok l
  | c :: rest =>
    match Switch.ofLetter? c with
    | none => .error .misuse
    | some switch =>
      if switch.takesText then
        match rest with
        | [] => l.addSwitch task (some switch) none
        | '=' :: text => l.addSwitch task (some switch) (some (String.ofList text))
        | text => l.addSwitch task (some switch) (some (String.ofList text))
      else
        match l.addSwitch task (some switch) none with
        | .ok l => l.addLetters task rest
        | .error outcome => .error outcome

def addWord (l : Level) (task : Option TaskName) (cs : List Char) : Reading Level :=
  let switch := Switch.ofWord? (String.ofList (cs.takeWhile (· != '=')))
  match cs.dropWhile (· != '=') with
  | [] => l.addSwitch task switch none
  | _ :: text => l.addSwitch task switch (some (String.ofList text))

def addFile (l : Level) (task : Option TaskName) (text : String) : Reading Level :=
  if text.isEmpty || l.file.isSome || task.isNone || task = some .initConfig then .error .misuse
  else .ok { l with file := some text }

def add (l : Level) (task : Option TaskName) (argument : String) : Reading Level :=
  if l.switchesOver then l.addFile task argument
  else
    match argument.toList with
    | ['-', '-'] => .ok { l with switchesOver := true }
    | '-' :: '-' :: word => l.addWord task word
    | '-' :: c :: letters => l.addLetters task (c :: letters)
    | _ =>
      match l.pending with
      | some switch => l.setText switch argument
      | none => l.addFile task argument

end Level

def defaultOutput : String := "qe.json"

def finish (outer : Level) (task : TaskName) (l : Level) : CommandLine :=
  let request (task : Task) : CommandLine :=
    .run ⟨task, outer.verbose || l.verbose, outer.json || l.json, l.config.or outer.config⟩
  if outer.pending.isSome || l.pending.isSome then .misuse
  else
    match task, l.file with
    | .key, some file => request (.key file)
    | .replay, some file => request (.replay file)
    | .initConfig, _ => request (.initConfig (l.output.getD defaultOutput))
    | _, none => .misuse

def parseTask (outer : Level) (task : TaskName) (l : Level) : List String → CommandLine
  | [] => finish outer task l
  | argument :: rest =>
    match l.add (some task) argument with
    | .ok l => parseTask outer task l rest
    | .error outcome => outcome

def helpFor : List String → CommandLine
  | [] => .help
  | [name] => if (TaskName.find? name).isSome || name == "help" then .help else .misuse
  | _ => .misuse

def parseFrom (l : Level) : List String → CommandLine
  | [] => .misuse
  | argument :: rest =>
    if l.pending.isNone && !l.switchesOver && argument == "help" then helpFor rest
    else
      match if l.pending.isNone && !l.switchesOver then TaskName.find? argument else none with
      | some task => parseTask l task {} rest
      | none =>
        match l.add none argument with
        | .ok l => parseFrom l rest
        | .error outcome => outcome

def parse (arguments : List String) : CommandLine :=
  parseFrom {} arguments

end AnswerCache.Command
