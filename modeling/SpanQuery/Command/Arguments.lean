import SpanQuery.Command

/-!
# Arguments

The arguments are read from left to right. The first word is the name of a command; before it stand
flags for all commands, behind it also those of the command, and its other words. The value of a
flag is joined to it or is the next argument, if that does not look like a flag. Behind `--` stand
words only.
-/

namespace SpanQuery.Command

inductive Refusal where
  | help
  | version
  | misuse
  deriving Repr, DecidableEq

inductive Verb where
  | parse
  | ranges
  | fetch
  | config
  deriving Repr, DecidableEq

namespace Verb

def text : Verb → String
  | parse => "parse"
  | ranges => "ranges"
  | fetch => "fetch"
  | config => "config"

def all : List Verb := [parse, ranges, fetch, config]

def ofText? (name : String) : Option Verb :=
  all.find? (·.text == name)

def takesWord : Verb → Bool
  | config => false
  | _ => true

end Verb

inductive Flag where
  | config
  | kind
  | source
  | format
  | help
  | version
  | start
  | stop
  | condition
  | output
  | raw
  | effective
  deriving Repr, DecidableEq

namespace Flag

def long : Flag → String
  | config => "config"
  | kind => "kind"
  | source => "source"
  | format => "format"
  | help => "help"
  | version => "version"
  | start => "from"
  | stop => "to"
  | condition => "where"
  | output => "output"
  | raw => "raw"
  | effective => "effective"

def letter? : Flag → Option Char
  | config => some 'c'
  | source => some 's'
  | format => some 'f'
  | help => some 'h'
  | version => some 'V'
  | output => some 'o'
  | _ => none

def takesValue : Flag → Bool
  | help | version | raw | effective => false
  | _ => true

def accepts (f : Flag) (value : String) : Bool :=
  match f with
  | config | source | output => !value.isEmpty
  | kind => (SourceKind.ofText? value).isSome
  | format => (OutputFormat.ofText? value).isSome
  | _ => true

def refusal? : Flag → Option Refusal
  | help => some .help
  | version => some .version
  | _ => none

def common : List Flag := [config, kind, source, format, help]

def allowed : Option Verb → List Flag
  | none => version :: common
  | some .parse => common
  | some .ranges => [start, stop, raw] ++ common
  | some .fetch => [start, stop, condition] ++ common
  | some .config => [output, effective] ++ common

end Flag

inductive Argument where
  | word (text : String)
  | divider
  | flag (f : Flag) (joined : Option String)
  | unknown

namespace Argument

def ofLong (flags : List Flag) (body : List Char) : Argument :=
  let (name, rest) := body.span (· ≠ '=')
  match flags.find? (·.long.toList == name) with
  | some f => .flag f (rest.tail?.map String.ofList)
  | none => .unknown

/-- Reads what follows a single dash. What follows a letter without a value does not matter: all
such letters end the reading. -/
def ofLetter (flags : List Flag) (letter : Char) (rest : List Char) : Argument :=
  match flags.find? (·.letter? == some letter) with
  | none => .unknown
  | some f =>
      if !f.takesValue || rest.isEmpty then .flag f none
      else .flag f (some (String.ofList (if rest.head? = some '=' then rest.tail else rest)))

def ofText (flags : List Flag) (text : String) : Argument :=
  match text.toList with
  | ['-', '-'] => .divider
  | '-' :: '-' :: body => ofLong flags body
  | '-' :: letter :: rest => ofLetter flags letter rest
  | _ => .word text

def isValue (text : String) : Bool :=
  match text.toList with
  | '-' :: _ :: _ => false
  | _ => true

end Argument

/-- What has been read so far: the flags before the name of the command, and what is behind it. -/
structure Arguments where
  outer : List (Flag × String) := []
  verb : Option Verb := none
  inner : List (Flag × String) := []
  word : Option String := none

namespace Arguments

def here (a : Arguments) : List (Flag × String) :=
  if a.verb.isSome then a.inner else a.outer

def putFlag (a : Arguments) (f : Flag) (value : String) : Except Refusal Arguments :=
  match f.refusal? with
  | some refusal => .error refusal
  | none =>
      if !f.accepts value || a.here.any (·.1 = f) then .error .misuse
      else if a.verb.isSome then .ok { a with inner := (f, value) :: a.inner }
      else .ok { a with outer := (f, value) :: a.outer }

def putWord (a : Arguments) (text : String) : Except Refusal Arguments :=
  if a.verb.any Verb.takesWord && a.word.isNone then .ok { a with word := some text }
  else .error .misuse

/-- Takes the name of the command. Behind `help` may stand the name that help is wanted for. -/
def putVerb (a : Arguments) (text : String) (rest : List String) : Except Refusal Arguments :=
  match Verb.ofText? text with
  | some verb => .ok { a with verb := some verb }
  | none =>
      let topics := "help" :: Verb.all.map Verb.text
      .error (if text = "help" ∧ rest.length ≤ 1 ∧ rest.all topics.contains then .help else .misuse)

def scan (a : Arguments) : List String → Except Refusal Arguments
  | [] => .ok a
  | text :: rest =>
      match Argument.ofText (Flag.allowed a.verb) text with
      | .unknown => .error .misuse
      | .divider => rest.foldlM putWord a
      | .word text => do
          if a.verb.isSome then (← a.putWord text).scan rest
          else (← a.putVerb text rest).scan rest
      | .flag f joined =>
          match f.takesValue, joined, rest with
          | true, some value, rest => do (← a.putFlag f value).scan rest
          | true, none, value :: rest =>
              if Argument.isValue value then do (← a.putFlag f value).scan rest
              else .error .misuse
          | true, none, [] => .error .misuse
          | false, none, rest => do (← a.putFlag f "").scan rest
          | false, some _, _ => .error .misuse

/-- The value of a flag; what stands behind the name of the command counts more. -/
def value? (a : Arguments) (f : Flag) : Option String :=
  (a.inner.lookup f).or (a.outer.lookup f)

def has (a : Arguments) (f : Flag) : Bool :=
  (a.value? f).isSome

def window? (a : Arguments) : Option WindowText := do
  some ⟨← a.value? .start, ← a.value? .stop⟩

def command? (a : Arguments) : Option Command := do
  match ← a.verb with
  | .parse => some (.parse (← a.word))
  | .ranges => some (.ranges (← a.word) (← a.window?) (a.has .raw))
  | .fetch => some (.fetch (← a.word) (← a.window?) (a.value? .condition))
  | .config => some (.config (a.value? .output) (a.has .effective))

end Arguments

def ofArguments (arguments : List String) : Except Refusal Invocation := do
  let a ← ({} : Arguments).scan arguments
  match a.command? with
  | none => .error .misuse
  | some command => .ok {
      config := a.value? .config
      kind := (a.value? .kind).bind SourceKind.ofText?
      source := a.value? .source
      format := ((a.value? .format).bind OutputFormat.ofText?).getD .table
      command }

end SpanQuery.Command
