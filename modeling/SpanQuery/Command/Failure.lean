import SpanQuery.Command
import SpanQuery.Error

namespace SpanQuery.Command

inductive Failure where
  | settings (e : SettingsError)
  | time (e : TimeError)
  | syntactic (e : SyntaxError)
  | query (e : QueryError)
  | evaluation (text : String) (e : QueryError)
  | source (e : FetchError)
  /-- Only one of the two settings for older samples. -/
  | halfHistory
  | cutover (text : String) (e : TimeError)
  | saving (path : String) (fault : FileFault)
  deriving Repr, DecidableEq

namespace Failure

def message : Failure → String
  | settings e => e.message
  | time e => e.message
  | syntactic e => e.message
  | query e => e.message
  | evaluation text _ => "query '" ++ text ++ "' failed"
  | source e => e.message
  | halfHistory => "history_path and history_cutover must be set together"
  | cutover text _ => "invalid history_cutover '" ++ text ++ "'"
  | saving path _ => "writing config to " ++ Text.quoted path

def causes : Failure → List String
  | settings _ | time _ | syntactic _ | halfHistory => []
  | query e => e.causes
  | evaluation _ e => e.message :: e.causes
  | source e => e.cause?.toList
  | cutover _ e => [e.message]
  | saving _ fault => [fault.message]

def indented (mark : String) (text : String) : String :=
  let margin := String.ofList (List.replicate mark.length ' ')
  mark ++ String.intercalate ("\n" ++ margin) ((text.toList.splitOn '\n').map String.ofList)

def numberMark (n : Nat) : String :=
  let digits := toString n
  String.ofList (List.replicate (5 - digits.length) ' ') ++ digits ++ ": "

def causeLines : List String → List String
  | [] => []
  | [cause] => [indented "    " cause]
  | causes => causes.zipIdx.map fun (cause, n) => indented (numberMark n) cause

def text (f : Failure) : String :=
  let causes := causeLines f.causes
  let parts := if causes.isEmpty then [] else "\n\nCaused by:" :: causes.map ("\n" ++ ·)
  "Error: " ++ f.message ++ String.join parts ++ "\n"

end Failure

end SpanQuery.Command
