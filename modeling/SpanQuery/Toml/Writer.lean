import SpanQuery.Json
import SpanQuery.Toml

/-!
# Writing settings files

A string takes the first form that holds it without escapes: basic, literal, basic on several lines,
literal on several lines. If none does it is a basic string with escapes.
-/

namespace SpanQuery.Toml

def longestRun (c : Char) (s : List Char) : Nat :=
  (s.foldl (fun (longest, run) d =>
    let run := if d = c then run + 1 else 0
    (max longest run, run)) (0, 0)).1

def isControl (c : Char) : Bool :=
  (c.toNat < 0x20 && c != '\t' && c != '\n') || c.toNat == 0x7F

def escapeOf (c : Char) : List Char :=
  match c with
  | '\x08' => ['\\', 'b']
  | '\t' => ['\\', 't']
  | '\n' => ['\\', 'n']
  | '\x0c' => ['\\', 'f']
  | '\r' => ['\\', 'r']
  | '"' => ['\\', '"']
  | '\\' => ['\\', '\\']
  | c =>
      let ds := (Nat.toDigits 16 c.toNat).map Char.toUpper
      '\\' :: 'u' :: List.replicate (4 - ds.length) '0' ++ ds

/-- The body of a basic string, where a run of quotes is escaped beyond the given number. -/
def escapedBody (hasLines : Bool) (quotes run : Nat) : List Char → List Char
  | [] => []
  | c :: rest =>
      if c = '"' then
        if run < quotes then c :: escapedBody hasLines quotes (run + 1) rest
        else escapeOf c ++ escapedBody hasLines quotes 0 rest
      else if c = '\t' ∨ c = '\\' ∨ isControl c ∨ (c = '\n' ∧ !hasLines) then
        escapeOf c ++ escapedBody hasLines quotes 0 rest
      else c :: escapedBody hasLines quotes 0 rest

def basicChars (s : List Char) : List Char :=
  '"' :: escapedBody false 0 0 s ++ ['"']

/-- A string between three quotes; if it has several lines it starts on one of its own. -/
def linesChars (quote : Char) (body s : List Char) : List Char :=
  let quotes := List.replicate 3 quote
  quotes ++ (if s.contains '\n' then ['\n'] else []) ++ body ++ quotes

def basicLinesChars (s : List Char) : List Char :=
  linesChars '"' (escapedBody true 2 0 s) s

def stringChars (s : List Char) : List Char :=
  let hasControl := s.any isControl
  let hasLines := s.contains '\n'
  let hasBackslash := s.contains '\\'
  let quotes := longestRun '"' s
  let apostrophes := longestRun '\'' s
  if !hasControl && !hasLines && !hasBackslash && quotes == 0 then basicChars s
  else if !hasControl && !hasLines && apostrophes == 0 then '\'' :: s ++ ['\'']
  else if !hasControl && !hasBackslash && quotes ≤ 2 then basicLinesChars s
  else if !hasControl && apostrophes ≤ 2 then linesChars '\'' s s
  else if hasLines then basicLinesChars s
  else basicChars s

def entryLine (name : String) (value : List Char) : List Char :=
  name.toList ++ ' ' :: '=' :: ' ' :: value ++ ['\n']

def boolChars (b : Bool) : List Char :=
  if b then "true".toList else "false".toList

def sectionChars (name : String) (lines : List (List Char)) : List Char :=
  '[' :: name.toList ++ [']', '\n'] ++ lines.flatten

end SpanQuery.Toml
