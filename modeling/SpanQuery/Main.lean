import SpanQuery.Command.Run

namespace SpanQuery

def causeOfError : IO.Error → String
  | .permissionDenied _ code details => details ++ " (os error " ++ toString code ++ ")"
  | e => toString e

def FileFault.ofError (leads : Bool) : IO.Error → FileFault
  | .noFileOrDirectory .. => .missing
  | .inappropriateType _ code _ => if code = 21 then .isDirectory else .notDirectory
  | e => if leads then .other (causeOfError e) else .unreachable (causeOfError e)

def leadsSomewhere (path : String) : IO Bool := do
  try
    let _ ← IO.FS.realPath path
    return true
  catch _ => return false

def readFile (path : String) : IO Look := do
  match Path.fault? path with
  | some fault => return .error fault
  | none =>
      try
        let bytes ← IO.FS.readBinFile path
        return .ok bytes.toList
      catch e => return .error (.ofError (← leadsSomewhere path) e)

def writeFile (path : String) (bytes : Text.Bytes) : IO (Except FileFault Unit) := do
  match Path.fault? path with
  | some fault => return .error fault
  | none =>
      try
        IO.FS.writeBinFile path (ByteArray.mk bytes.toArray)
        return .ok ()
      catch e => return .error (.ofError (← leadsSomewhere path) e)

def surroundings : IO Variables := do
  let names := ["HOME", "XDG_CONFIG_HOME", "XDG_DATA_HOME", kindVariable, "ARCHIVEQL_SOURCE_PATH",
    "ARCHIVEQL_TIMEZONE", "ARCHIVEQL_LOG_LEVEL", "ARCHIVEQL_LOG_FORMAT"]
  names.filterMapM fun name => return (← IO.getEnv name).map fun value => (name, value)

end SpanQuery

open SpanQuery in
def main (arguments : List String) : IO UInt32 := do
  let outcome ← (Command.run (← surroundings) arguments).carryOut readFile writeFile
  (← IO.getStdout).putStr outcome.out
  (← IO.getStderr).putStr outcome.err
  return outcome.code
