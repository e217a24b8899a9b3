import AnswerCache.Command.Run

namespace AnswerCache

def fileErrorOf : IO.Error → FileError
  | .noFileOrDirectory .. => .missing
  | .inappropriateType _ 20 _ => .notAFolder
  | .inappropriateType _ 21 _ => .isAFolder
  | .invalidArgument _ 36 _ => .nameTooLong
  | .resourceExhausted _ 28 _ => .noSpace
  | e => .other (toString e)

def loadFile (path : String) : IO (Except FileError String) := do
  try return .ok (← IO.FS.readFile path)
  catch e => return .error (fileErrorOf e)

def diskFileSystem : FileSystem IO where
  Handle := IO.FS.Handle
  load := loadFile
  isTaken path := do
    match ← loadFile path with
    | .error .missing | .error .notAFolder | .error .nameTooLong => return false
    | _ => return true
  create path := do
    try return .ok (← IO.FS.Handle.mk path .write)
    catch e => return .error (fileErrorOf e)
  write file text := do
    try
      file.putStr text
      file.flush
      return .ok ()
    catch e => return .error (fileErrorOf e)

def plainSurroundings : Surroundings where
  delay _ := 1
  elapsed _ := 0
  freshId step := "replay-" ++ Command.numberText step

def failureLines (f : Command.Failure) : List String :=
  ("Error: " ++ f.message) :: match f.cause with
    | some cause => ["", "Caused by:", "    " ++ cause]
    | none => []

def printLines (lines : List String) : IO Bool := do
  try
    for line in lines do IO.println line
    return true
  catch _ => return false

end AnswerCache

def main (arguments : List String) : IO UInt32 := do
  let outcome ← AnswerCache.Command.run AnswerCache.diskFileSystem AnswerCache.plainSurroundings
    arguments
  if !(← AnswerCache.printLines outcome.lines) then
    return (AnswerCache.Command.Ending.crash .panic).code
  match outcome.ending with
  | .success => pure ()
  | .failure f => for line in AnswerCache.failureLines f do IO.eprintln line
  | .misuse => for line in AnswerCache.Command.usage do IO.eprintln line
  | .crash _ => pure ()
  return outcome.ending.code
