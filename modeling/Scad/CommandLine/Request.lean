import Scad.CommandLine.Words
import Scad.Path

/-!
# Requests

What the words of a command line ask for. The switch `verbose` and the option
`config` may stand before the name of the command and behind it; of two
configurations the one behind the name counts. In each of the two places a
switch or an option stands at most once. The first word that does not fit makes
the command line a misuse, unless a word before it asked for help.
-/

namespace Scad.CommandLine

inductive Command where
  | demo (name : String) (out : Option Path) (dryRun : Bool)
  | encode (name : String)
  | list
  | version
deriving DecidableEq, Repr

structure Invocation where
  config : Option Path
  verbose : Bool
  command : Command
deriving DecidableEq, Repr

inductive Request where
  | invoke (i : Invocation)
  | help
  | misuse
deriving DecidableEq, Repr

inductive Verb where
  | demo
  | encode
  | list
  | version
deriving DecidableEq, Repr

namespace Verb

def ofString? : String → Option Verb
  | "demo" => some .demo
  | "encode" => some .encode
  | "list" => some .list
  | "version" => some .version
  | _ => none

/-- The number of operands that a command has. -/
def arity : Verb → Nat
  | .demo => 1
  | .encode => 1
  | .list => 0
  | .version => 0

end Verb

/-- What the words in one place have set. -/
structure Options where
  config : Option Path
  verbose : Bool
  out : Option Path
  dryRun : Bool
deriving DecidableEq, Repr

namespace Options

def none : Options := ⟨.none, false, .none, false⟩

def addSwitch? (s : Switch) (o : Options) : Option Options :=
  match s with
  | .verbose => if o.verbose then .none else some { o with verbose := true }
  | .dryRun => if o.dryRun then .none else some { o with dryRun := true }
  | .help => .none

/-- Sets an option to a path, which is not empty. -/
def addPath? (option : PathOption) (value : String) (o : Options) : Option Options :=
  if value = "" then .none
  else
    match option with
    | .config => if o.config.isSome then .none else some { o with config := some ⟨value⟩ }
    | .out => if o.out.isSome then .none else some { o with out := some ⟨value⟩ }

end Options

namespace Request

/-- Only a demo has a place to go to, and can be tried. -/
def acceptsSwitch (verb : Option Verb) : Switch → Bool
  | .dryRun => verb == some .demo
  | _ => true

def acceptsOption (verb : Option Verb) : PathOption → Bool
  | .out => verb == some .demo
  | .config => true

/-- The command of a verb with its operands. -/
def command? (verb : Verb) (o : Options) (operands : List String) : Option Command :=
  match verb, operands with
  | .demo, [name] => some (.demo name o.out o.dryRun)
  | .encode, [name] => some (.encode name)
  | .list, [] => some .list
  | .version, [] => some .version
  | _, _ => none

/-- The request of a verb, from the options before it and the words behind it. -/
def ofVerb (verb : Verb) (before : Options) (o : Options) (operands : List String) :
    List Word → Request
  | [] =>
      match command? verb o operands with
      | none => .misuse
      | some command => .invoke ⟨o.config <|> before.config, before.verbose || o.verbose, command⟩
  | .switch .help :: _ => .help
  | .switch s :: rest =>
      match o.addSwitch? s with
      | none => .misuse
      | some o =>
          if acceptsSwitch (some verb) s then ofVerb verb before o operands rest else .misuse
  | .option option value :: rest =>
      match o.addPath? option value with
      | none => .misuse
      | some o =>
          if acceptsOption (some verb) option then ofVerb verb before o operands rest else .misuse
  | .operand text :: rest =>
      if operands.length < verb.arity then ofVerb verb before o (operands ++ [text]) rest
      else .misuse
  | .doubleDash :: rest => ofVerb verb before o operands rest
  | .fault :: _ => .misuse

/-- Help can be asked for about one command, or about help. -/
def ofHelp : List Word → Request
  | [] => .help
  | [.operand name] =>
      if (Verb.ofString? name).isSome || name = "help" then .help else .misuse
  | _ => .misuse

/-- The request of words before which the given options stand. -/
def ofWords (o : Options) : List Word → Request
  | .switch .help :: _ => .help
  | .switch s :: rest =>
      match o.addSwitch? s with
      | none => .misuse
      | some o => if acceptsSwitch none s then ofWords o rest else .misuse
  | .option option value :: rest =>
      match o.addPath? option value with
      | none => .misuse
      | some o => if acceptsOption none option then ofWords o rest else .misuse
  | .operand name :: rest =>
      if name = "help" then ofHelp rest
      else
        match Verb.ofString? name with
        | none => .misuse
        | some verb => ofVerb verb o .none [] rest
  | _ => .misuse

def ofArguments (args : List String) : Request := ofWords .none (Word.ofArguments args)

end Request

end Scad.CommandLine
