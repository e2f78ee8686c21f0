import Scad.Config

/-!
# Colours

Parts of what the command line prints are set off by the control sequences of
terminals. Each part ends by a reset; a reset inside of a part would end it
early, so the sequence of the part is given again behind it.
-/

namespace Scad.CommandLine

inductive Ink where
  | grey
  | bold
  | cyan
  | green
  | yellow
  | blue
  | boldRed
deriving DecidableEq, Repr

namespace Ink

def code : Ink → String
  | .grey => "90"
  | .bold => "1"
  | .cyan => "36"
  | .green => "32"
  | .yellow => "33"
  | .blue => "94"
  | .boldRed => "1;31"

def start (ink : Ink) : String := "\x1b[" ++ ink.code ++ "m"

def reset : String := "\x1b[0m"

/-- Gives a sequence again behind each reset. -/
def renew (sequence : List Char) : List Char → List Char
  | [] => []
  | '\x1b' :: '[' :: '0' :: 'm' :: rest => reset.toList ++ sequence ++ renew sequence rest
  | c :: rest => c :: renew sequence rest

def paint (ink : Ink) (coloured : Bool) (s : String) : String :=
  if coloured then ink.start ++ String.ofList (renew ink.start.toList s.toList) ++ reset else s

end Ink

/-- Whether to colour what is printed. The environment can force colours or
forbid them; else a terminal has them. -/
def isColoured (env : Config.Environment) (isTerminal : Bool) : Bool :=
  if (env "CLICOLOR_FORCE").any (· != "0") then true
  else if (env "NO_COLOR").isSome then false
  else isTerminal && (env "CLICOLOR").all (· != "0")

end Scad.CommandLine
