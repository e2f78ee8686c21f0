/-!
# Words of the command line

Arguments are cut into words: switches, options with their value, and operands.
Short switches may share one argument, and a short option takes the rest of its
argument as its value. An option without a value in its argument takes the next
one, which then cannot begin with a dash, except for a dash alone. Behind a
double dash everything is an operand. Nothing is read behind a word that is
none.
-/

namespace Scad.CommandLine

inductive Switch where
  | verbose
  | dryRun
  | help
deriving DecidableEq, Repr

inductive PathOption where
  | config
  | out
deriving DecidableEq, Repr

inductive Word where
  | switch (s : Switch)
  | option (o : PathOption) (value : String)
  | operand (text : String)
  | doubleDash
  | fault
deriving DecidableEq, Repr

namespace Word

/-! ## Names -/

def longSwitch? (name : List Char) : Option Switch :=
  match String.ofList name with
  | "verbose" => some .verbose
  | "dry-run" => some .dryRun
  | "help" => some .help
  | _ => none

def longOption? (name : List Char) : Option PathOption :=
  match String.ofList name with
  | "config" => some .config
  | "out" => some .out
  | _ => none

def shortSwitch? : Char → Option Switch
  | 'v' => some .verbose
  | 'h' => some .help
  | _ => none

def shortOption? : Char → Option PathOption
  | 'c' => some .config
  | 'o' => some .out
  | _ => none

/-! ## Arguments -/

/-- The words of an argument behind its dash or dashes, and the option that
still wants a value. -/
abbrev Cut := List Word × Option PathOption

def cutShort : List Char → Cut
  | [] => ([], none)
  | c :: rest =>
      match shortSwitch? c, shortOption? c with
      | some s, _ =>
          let (words, wanting) := cutShort rest
          (.switch s :: words, wanting)
      | none, some o =>
          match rest with
          | [] => ([], some o)
          | '=' :: value => ([.option o (String.ofList value)], none)
          | value => ([.option o (String.ofList value)], none)
      | none, none => ([.fault], none)

def cutLong (arg : List Char) : Cut :=
  let name := arg.takeWhile (· != '=')
  match longSwitch? name, longOption? name, arg.dropWhile (· != '=') with
  | some s, _, [] => ([.switch s], none)
  | none, some o, [] => ([], some o)
  | none, some o, _ :: value => ([.option o (String.ofList value)], none)
  | _, _, _ => ([.fault], none)

/-- An argument that is no operand, and no value of an option. -/
def isDashed (arg : String) : Bool := arg.toList.head? == some '-' && arg != "-"

def cut (arg : String) : Cut :=
  match arg.toList with
  | '-' :: '-' :: rest => cutLong rest
  | '-' :: c :: rest => cutShort (c :: rest)
  | _ => ([.operand arg], none)

/-- The words of a list of arguments. -/
def ofArguments : List String → List Word
  | [] => []
  | arg :: rest =>
      if arg = "--" then .doubleDash :: rest.map .operand
      else
        match cut arg, rest with
        | (words, none), rest => words ++ ofArguments rest
        | (words, some _), [] => words ++ [.fault]
        | (words, some o), value :: rest =>
            if isDashed value then words ++ [.fault]
            else words ++ .option o value :: ofArguments rest

end Word

end Scad.CommandLine
