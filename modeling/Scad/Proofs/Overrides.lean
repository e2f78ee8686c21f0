import Scad.CommandLine
import Scad.Proofs.Actions
import Scad.Proofs.Directories

/-!
# Configuration files that are named

To name a file of configuration takes the place of two things at once: of the search
for the standard file, and of the overrides of the environment. So a command line that
names the standard file runs like the one that does not, but in an environment without
overrides (`run_standardFile`). The two command lines do the same where the environment
changes no setting that the command looks at. Where it does, one of them works with
the settings of the file and the other with those of the environment. Where it holds a
flag that cannot be read, one of them runs the command and the other fails.
-/

namespace Scad

/-! ## Configurations in a file tree -/

theorem FileTree.hasEntry_of_readText? {t : FileTree} {p : Path} {text : String}
    (h : t.readText? p = some text) : t.hasEntry p = true := by
  obtain ⟨path, file, way, found⟩ := readText?_eq_some.1 h
  have followed := follow?_eq_some.2 ⟨path, way, rfl⟩
  simp only [hasEntry, followed, found, file]

namespace Config

variable {t : FileTree} {text : String}

/-- The environment without the variables that override settings. -/
def Environment.silent (env : Environment) : Environment := fun name =>
  if name ∈ [outputDirVariable, indentVariable, verboseVariable] then none else env name

theorem override?_silent (env : Environment) (c : Config) : c.override? env.silent = .ok c := rfl

/-- The configuration that a path stands for, from the text of its file. -/
def ofText? (path : Path) (text : String) : Except Failure Config :=
  match ofToml? text with
  | none => .error (.malformedConfig path)
  | some config => .ok config

theorem run_ofFile? {path : Path} (file : t.readText? path = some text) :
    (ofFile? path : FileTree.Action Config).run t = (ofText? path text, t) := by
  unfold ofFile?
  rw [run_bind, run_readText?, file]
  unfold ofText?
  dsimp only
  cases ofToml? text <;> rfl

theorem run_load? (env : Environment) (file : t.readText? standardFile = some text) :
    (load? env : FileTree.Action Config).run t =
      (ofText? standardFile text >>= override? env, t) := by
  unfold load?
  rw [run_bind, run_hasEntry, FileTree.hasEntry_of_readText? file]
  dsimp only
  rw [if_pos rfl, run_bind, run_ofFile? file]
  cases ofText? standardFile text <;> rfl

end Config

namespace CommandLine

open Config (standardFile ofText?)

/-! ## Requests under another configuration -/

namespace Options

variable {o o' : Options}

/-- The options, without a configuration. -/
def unconfigured (o : Options) : Options := { o with config := .none }

theorem addSwitch?_config {s : Switch} (h : o.addSwitch? s = some o') : o'.config = o.config := by
  unfold addSwitch? at h
  cases s <;> grind

theorem addPath?_out_config {value : String} (h : o.addPath? .out value = some o') :
    o'.config = o.config := by
  unfold addPath? at h
  grind

theorem addSwitch?_unconfigured (s : Switch) (o : Options) :
    o.unconfigured.addSwitch? s = (o.addSwitch? s).map unconfigured := by
  unfold addSwitch? unconfigured
  cases s <;> grind

theorem addPath?_out_unconfigured (value : String) (o : Options) :
    o.unconfigured.addPath? .out value = (o.addPath? .out value).map unconfigured := by
  unfold addPath? unconfigured
  grind

end Options

namespace Request

/-- The request, under another configuration. -/
def configured (config : Option Path) : Request → Request
  | .invoke i => .invoke { i with config := config }
  | .help => .help
  | .misuse => .misuse

variable {words : List Word}

theorem ofVerb_configured (verb : Verb) (before : Options) {o : Options} (ho : o.config = none)
    (operands : List String) (h : ∀ value, .option .config value ∉ words) :
    ofVerb verb before o operands words =
      (ofVerb verb before.unconfigured o operands words).configured before.config := by
  induction words generalizing o operands with
  | nil =>
      -- Only at the end do the options before the command count.
      unfold ofVerb
      cases command? verb o operands <;> simp [configured, Options.unconfigured, ho]
  | cons word rest ih =>
      have hrest : ∀ value, .option .config value ∉ rest := fun value member =>
        h value (List.mem_cons_of_mem _ member)
      cases word with
      | switch s =>
          by_cases help : s = .help
          · subst help
            rfl
          · rw [ofVerb, ofVerb]
            · cases added : o.addSwitch? s with
              | none => rfl
              | some o' =>
                  have ho' := (Options.addSwitch?_config added).trans ho
                  by_cases accepted : acceptsSwitch (some verb) s = true
                  · simpa [accepted] using ih ho' operands hrest
                  · simp [accepted, configured]
            · exact help
            · exact help
      | option option value =>
          cases option with
          | config => exact absurd List.mem_cons_self (h value)
          | out =>
              unfold ofVerb
              cases added : o.addPath? .out value with
              | none => rfl
              | some o' =>
                  have ho' := (Options.addPath?_out_config added).trans ho
                  by_cases accepted : acceptsOption (some verb) .out = true
                  · simpa [accepted] using ih ho' operands hrest
                  · simp [accepted, configured]
      | operand text =>
          by_cases room : operands.length < verb.arity
          · simpa [ofVerb, room] using ih ho (operands ++ [text]) hrest
          · simp [ofVerb, room, configured]
      | doubleDash => exact ih ho operands hrest
      | fault => rfl

theorem ofHelp_configured (config : Option Path) (words : List Word) :
    (ofHelp words).configured config = ofHelp words := by
  unfold ofHelp
  split
  · rfl
  · split <;> rfl
  · rfl

theorem ofWords_configured (o : Options) (h : ∀ value, .option .config value ∉ words) :
    ofWords o words = (ofWords o.unconfigured words).configured o.config := by
  induction words generalizing o with
  | nil => rfl
  | cons word rest ih =>
      have hrest : ∀ value, .option .config value ∉ rest := fun value member =>
        h value (List.mem_cons_of_mem _ member)
      cases word with
      | switch s =>
          by_cases help : s = .help
          · subst help
            rfl
          · rw [ofWords, ofWords, Options.addSwitch?_unconfigured]
            · cases added : o.addSwitch? s with
              | none => rfl
              | some o' =>
                  by_cases accepted : acceptsSwitch none s = true
                  · simpa [accepted, Options.addSwitch?_config added] using ih o' hrest
                  · simp [accepted, configured]
            · exact help
            · exact help
      | option option value =>
          cases option with
          | config => exact absurd List.mem_cons_self (h value)
          | out =>
              rw [ofWords, ofWords, Options.addPath?_out_unconfigured]
              cases added : o.addPath? .out value with
              | none => rfl
              | some o' =>
                  by_cases accepted : acceptsOption none .out = true
                  · simpa [accepted, Options.addPath?_out_config added] using ih o' hrest
                  · simp [accepted, configured]
      | operand name =>
          unfold ofWords
          by_cases help : name = "help"
          · simp only [help, if_true, ofHelp_configured]
          · cases named : Verb.ofString? name with
            | none => simp [help, configured]
            | some verb =>
                simpa [help] using ofVerb_configured verb o rfl [] hrest
      | doubleDash => rfl
      | fault => rfl

end Request

theorem Word.ofArguments_config (args : List String) :
    ofArguments ("--config" :: standardFile.text :: args) =
      .option .config standardFile.text :: ofArguments args := rfl

section Named

variable {args : List String} (unnamed : ∀ value, .option .config value ∉ Word.ofArguments args)
include unnamed

theorem Request.ofArguments_config :
    ofArguments ("--config" :: standardFile.text :: args) =
      (ofArguments args).configured (some standardFile) :=
  ofWords_configured { Options.none with config := some standardFile } unnamed

theorem Request.ofArguments_unconfigured :
    ofArguments args = (ofArguments args).configured none :=
  ofWords_configured Options.none unnamed

end Named

/-! ## Commands under other settings -/

section Commands

variable {m : Type → Type} [Monad m] [FileSystem m]

/-- The same surroundings, without the overrides of settings. -/
def Surroundings.silent (around : Surroundings) : Surroundings :=
  { around with env := around.env.silent }

/-- The settings, under the switch of an invocation. -/
def Invocation.applyVerbose (i : Invocation) (c : Config) : Config :=
  { c with verbose := c.verbose || i.verbose }

/-- The settings that the command works with, if it looks at any. -/
def Command.settings? (c : Config) : Command → Option Config
  | .demo name out _ =>
      (Demo.ofName? name).map fun _ => { c with outputDir := out.getD c.outputDir }
  | _ => none

/-- A command does the same under any configurations with the same settings for it. -/
theorem perform_congr (around : Surroundings) (clock : m Nat) {command : Command}
    {c c' : Config} (h : command.settings? c = command.settings? c') :
    perform around clock c command = perform around clock c' command := by
  cases command with
  | demo name out dryRun =>
      unfold perform
      unfold Command.settings? at h
      dsimp only at h ⊢
      cases known : Demo.ofName? name with
      | none => rfl
      | some d =>
          rw [known] at h
          exact congrArg (demo around.coloured clock · d dryRun) (Option.some.inj h)
  | encode name => rfl
  | list => rfl
  | version => rfl

/-- How a run goes on once its configuration is there, or is known to be faulty. -/
def proceed (around : Surroundings) (clock : m Nat) (i : Invocation) :
    Except Failure Config → m Outcome
  | .error failure => pure (.failure "" failure)
  | .ok config => perform around clock (i.applyVerbose config) i.command

/-- If the text is a configuration, the overrides of the environment can be read and
change nothing for the command. -/
def Invocation.Spared (i : Invocation) (env : Config.Environment) (text : String) : Prop :=
  ∀ c, Config.ofToml? text = some c →
    ∃ c', c.override? env = .ok c' ∧
      i.command.settings? (i.applyVerbose c') = i.command.settings? (i.applyVerbose c)

variable (around : Surroundings) (clock : m Nat) (i : Invocation) (path : Path) (text : String)

theorem proceed_silent :
    proceed around.silent clock i (ofText? path text >>= Config.override? around.env.silent) =
      proceed around clock i (ofText? path text) := by
  cases ofText? path text with
  | error failure => rfl
  | ok c =>
      show proceed around.silent clock i (c.override? around.env.silent) = _
      rw [Config.override?_silent]
      rfl

theorem proceed_spared (spared : i.Spared around.env text) :
    proceed around clock i (ofText? path text >>= Config.override? around.env) =
      proceed around clock i (ofText? path text) := by
  unfold ofText?
  cases read : Config.ofToml? text with
  | none => rfl
  | some c =>
      obtain ⟨c', overridden, same⟩ := spared c read
      show proceed around clock i (c.override? around.env) = _
      rw [overridden]
      exact perform_congr around clock same

end Commands

/-! ## Whole runs -/

section Runs

variable (around : Surroundings) (clock : StateM FileTree Nat) {args : List String}
variable {t : FileTree} {text : String} {i : Invocation}

theorem run_of_config? {c : Except Failure Config} (h : Request.ofArguments args = .invoke i)
    (config? : (i.config? around.env : FileTree.Action Config).run t = (c.map i.applyVerbose, t)) :
    (run around clock args).run t = (proceed around clock i c).run t := by
  unfold run
  rw [h]
  show (match (i.config? around.env : FileTree.Action Config).run t with
    | (c, t') => StateT.run (match c with
        | .error failure => pure (.failure "" failure)
        | .ok config => perform around clock config i.command : StateM FileTree Outcome) t') = _
  rw [config?]
  cases c <;> rfl

theorem run_of_config_eq_some (file : t.readText? standardFile = some text)
    (h : Request.ofArguments args = .invoke i) (named : i.config = some standardFile) :
    (run around clock args).run t =
      (proceed around clock i (ofText? standardFile text)).run t := by
  refine run_of_config? around clock h ?_
  unfold Invocation.config?
  rw [named, run_bind, Config.run_ofFile? file]
  cases ofText? standardFile text <;> rfl

theorem run_of_config_eq_none (file : t.readText? standardFile = some text)
    (h : Request.ofArguments args = .invoke i) (unnamed : i.config = none) :
    (run around clock args).run t =
      (proceed around clock i
        (ofText? standardFile text >>= Config.override? around.env)).run t := by
  refine run_of_config? around clock h ?_
  unfold Invocation.config?
  rw [unnamed, run_bind, Config.run_load? _ file]
  cases ofText? standardFile text >>= Config.override? around.env <;> rfl

end Runs

/-- To name the standard file drops the overrides and nothing else. The first run works
with the settings of the file, the second with those as overridden. -/
theorem run_standardFile (around : Surroundings) (clock : StateM FileTree Nat)
    (args : List String) (t : FileTree) (text : String)
    (file : t.readText? standardFile = some text)
    (unnamed : ∀ value, .option .config value ∉ Word.ofArguments args) :
    (run around clock ("--config" :: standardFile.text :: args)).run t =
      (run around.silent clock args).run t ∧
    ((∀ i, Request.ofArguments args = .invoke i → i.Spared around.env text) →
      (run around clock ("--config" :: standardFile.text :: args)).run t =
        (run around clock args).run t) ∧
    ∀ i c, Request.ofArguments args = .invoke i → Config.ofToml? text = some c →
      (run around clock ("--config" :: standardFile.text :: args)).run t =
        (proceed around clock i (.ok c)).run t ∧
      (run around clock args).run t =
        (proceed around clock i (c.override? around.env)).run t := by
  have named := Request.ofArguments_config unnamed
  have plain := Request.ofArguments_unconfigured unnamed
  cases request : Request.ofArguments args with
  | misuse =>
      rw [request] at named
      simp [run, request, named, Request.configured]
  | help =>
      rw [request] at named
      simp [run, request, named, Request.configured]
  | invoke i =>
      rw [request] at named plain
      -- The request is the same under no configuration, so it names none.
      have absent : i.config = none := by
        simp only [Request.configured, Request.invoke.injEq] at plain
        rw [plain]
      have explicit := run_of_config_eq_some around clock file named rfl
      have implicit (around : Surroundings) :=
        run_of_config_eq_none around clock file request absent
      refine ⟨?_, ?_, ?_⟩
      · rw [explicit, implicit around.silent]
        exact congrArg (StateT.run · t) (proceed_silent around clock i _ text).symm
      · intro spared
        rw [explicit, implicit around, proceed_spared around clock i _ text (spared i rfl)]
        rfl
      · intro i' c same read
        cases same
        rw [explicit, implicit around, ofText?, read]
        exact ⟨rfl, rfl⟩

/-- A directory with nothing but a configuration. -/
def configuredTree : FileTree :=
  (FileTree.empty.writeText standardFile "output_dir = \"here\"\n").2

def overriding : Surroundings :=
  ⟨fun name => if name = Config.outputDirVariable then some "there" else none, false⟩

/-- The paths that a run leaves behind. -/
def pathsAfter (args : List String) : List String :=
  ((run overriding (pure 0) args : StateM FileTree Outcome).run configuredTree).2.listing.map (·.1)

theorem demoCube_standardFile :
    configuredTree.readText? standardFile = some "output_dir = \"here\"\n" ∧
    (∀ value, .option .config value ∉ Word.ofArguments ["demo", "cube"]) ∧
    pathsAfter ["--config", standardFile.text, "demo", "cube"] =
      ["here/", "here/cube_component.scad", "scadgen.toml"] ∧
    pathsAfter ["demo", "cube"] =
      ["scadgen.toml", "there/", "there/cube_component.scad"] := by
  have file : configuredTree.readText? standardFile = some "output_dir = \"here\"\n" := by
    decide +kernel
  have words : Word.ofArguments ["demo", "cube"] = [.operand "demo", .operand "cube"] := by
    decide +kernel
  have unnamed : ∀ value, .option .config value ∉ Word.ofArguments ["demo", "cube"] := by
    simp [words]
  refine ⟨file, unnamed, ?_, by decide +kernel⟩
  have named := (run_standardFile overriding (pure 0) _ configuredTree _ file unnamed).1
  unfold pathsAfter
  rw [named]
  decide +kernel

end CommandLine

end Scad
