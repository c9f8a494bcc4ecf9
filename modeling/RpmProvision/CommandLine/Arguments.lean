/-
The command line of `pkgfetch`.

Options are read from left to right. An option is written out after two dashes or, for some, as one
letter after one dash; its value is the next argument, or stands after an equals sign, or right
after the letter. An argument that starts with a dash is no value, unless it is a single dash.

* **`readArgs`** — what the arguments give, or the first reason to stop;
* **`parse`** — the same, with the insistence on the options that every run needs.
-/
import RpmProvision.Disk.Path

namespace RpmProvision.CommandLine

/-- The options that take a value. -/
inductive Setting where
  | input
  | output
  | outputDir
  | rpmDir
  | toolchainDir
  | tmpDir
  | worker
  | repoFile
  | manifest
  | tlsCert
  | tlsKey
  | inputSummary
  | outputSummary
  | logFile
  | logLevel
  deriving DecidableEq

/-- The options that are given or not. -/
inductive Switch where
  | usePreviewRepo
  | disableDefaultRepos
  | localOnly
  | stopOnFailure
  deriving DecidableEq

/-- Why a command line cannot be followed. -/
inductive Misuse where
  | unexpected (arg : String)
  | valueMissing (s : Setting)
  | valueUnwanted (arg : String)
  | repeated (option : String)
  | required (s : Setting)

/-- Why nothing is run. -/
inductive Stop where
  | help
  | version
  | misuse (m : Misuse)

/-- What an option's name stands for. -/
inductive Meaning where
  | setting (s : Setting)
  | switch (s : Switch)
  | help
  | version

/-- The name of an option that takes a value. -/
def Setting.name : Setting → String
  | .input => "input"
  | .output => "output"
  | .outputDir => "output-dir"
  | .rpmDir => "rpm-dir"
  | .toolchainDir => "toolchain-rpms-dir"
  | .tmpDir => "tmp-dir"
  | .worker => "tdnf-worker"
  | .repoFile => "repo-file"
  | .manifest => "toolchain-manifest"
  | .tlsCert => "tls-cert"
  | .tlsKey => "tls-key"
  | .inputSummary => "input-summary-file"
  | .outputSummary => "output-summary-file"
  | .logFile => "log-file"
  | .logLevel => "log-level"

/-- The name of an option that is given or not. -/
def Switch.name : Switch → String
  | .usePreviewRepo => "use-preview-repo"
  | .disableDefaultRepos => "disable-default-repos"
  | .localOnly => "disable-upstream-repos"
  | .stopOnFailure => "stop-on-failure"

/-- The options that take a value. -/
def settings : List Setting :=
  [.input, .output, .outputDir, .rpmDir, .toolchainDir, .tmpDir, .worker, .repoFile, .manifest,
    .tlsCert, .tlsKey, .inputSummary, .outputSummary, .logFile, .logLevel]

/-- The options that are given or not. -/
def switches : List Switch :=
  [.usePreviewRepo, .disableDefaultRepos, .localOnly, .stopOnFailure]

/-- The options that every run needs. -/
def requiredSettings : List Setting :=
  [.input, .output, .outputDir, .rpmDir, .toolchainDir, .worker, .repoFile]

/-- What a name stands for. -/
def meaningOf? (name : String) : Option Meaning :=
  if name = "help" then some .help
  else if name = "version" then some .version
  else
    ((settings.find? (·.name = name)).map .setting).or
      ((switches.find? (·.name = name)).map .switch)

/-- What a letter stands for. -/
def meaningOfLetter? : Char → Option Meaning
  | 'i' => some (.setting .input)
  | 'o' => some (.setting .output)
  | 'h' => some .help
  | 'V' => some .version
  | _ => none

/-- The text of a misuse. -/
def Misuse.message : Misuse → String
  | .unexpected arg => s!"unexpected argument '{arg}'"
  | .valueMissing s => s!"a value is required for '--{s.name}'"
  | .valueUnwanted arg => s!"no value is wanted in '{arg}'"
  | .repeated option => s!"'--{option}' is given more than once"
  | .required s => s!"'--{s.name}' is required"

/-! ### Reading -/

/-- The options read so far, the last one first, and an option whose value is still to come. -/
structure Given where
  values : List (Setting × String)
  switches : List Switch
  pending : Option Setting

namespace Given

/-- No options. -/
def empty : Given := ⟨[], [], none⟩

/-- Stop if a value is still to come. -/
def settled (g : Given) : Except Stop Unit :=
  match g.pending with
  | some s => .error (.misuse (.valueMissing s))
  | none => .ok ()

/-- Add a value. Only the level of the log may be empty, and only repository files may be several. -/
def addValue (g : Given) (s : Setting) (value : String) : Except Stop Given :=
  if value = "" ∧ s ≠ .logLevel then .error (.misuse (.valueMissing s))
  else if s ≠ .repoFile ∧ g.values.any (·.1 = s) then .error (.misuse (.repeated s.name))
  else .ok { g with values := (s, value) :: g.values, pending := none }

/-- Add a switch. -/
def addSwitch (g : Given) (s : Switch) : Except Stop Given :=
  if g.switches.contains s then .error (.misuse (.repeated s.name))
  else .ok { g with switches := s :: g.switches }

/-- Read an option that is written out, without its dashes. -/
def addLong (g : Given) (text : List Char) : Except Stop Given := do
  g.settled
  let arg := "--" ++ String.ofList text
  let (name, value) := match Text.splitAtFirst? '=' text with
    | some (name, value) => (name, some (String.ofList value))
    | none => (text, none)
  match meaningOf? (String.ofList name), value with
  | some (.setting s), some value => g.addValue s value
  | some (.setting s), none => .ok { g with pending := some s }
  | some (.switch s), none => g.addSwitch s
  | some .help, none => .error .help
  | some .version, none => .error .version
  | some _, some _ => .error (.misuse (.valueUnwanted arg))
  | none, _ => .error (.misuse (.unexpected arg))

/-- The value that stands right after a letter. -/
def attached : List Char → String
  | '=' :: rest => String.ofList rest
  | rest => String.ofList rest

/-- Read an option of one letter, without its dash. No letter stands for a switch, so what follows
a letter is its value. -/
def addShort (g : Given) (letter : Char) (rest : List Char) : Except Stop Given := do
  g.settled
  match meaningOfLetter? letter with
  | some (.setting s) =>
    if rest = [] then .ok { g with pending := some s } else g.addValue s (attached rest)
  | some .help => .error .help
  | some .version => .error .version
  | _ => .error (.misuse (.unexpected ("-" ++ String.singleton letter)))

/-- Read an argument that is no option. -/
def addBare (g : Given) (arg : String) : Except Stop Given :=
  match g.pending with
  | some s => g.addValue s arg
  | none => .error (.misuse (.unexpected arg))

/-- Read an argument. -/
def add (g : Given) (arg : String) : Except Stop Given :=
  match arg.toList with
  | '-' :: '-' :: text => g.addLong text
  | '-' :: letter :: rest => g.addShort letter rest
  | _ => g.addBare arg

end Given

/-- Read arguments. After two dashes alone every argument would be one that is no option, and there
are none. -/
def readArgs (g : Given) : List String → Except Stop Given
  | [] => do
    g.settled
    pure g
  | arg :: rest =>
    if arg = "--" then do
      g.settled
      match rest with
      | [] => pure g
      | next :: _ => .error (.misuse (.unexpected next))
    else do
      let g ← g.add arg
      readArgs g rest

/-! ### What a run needs -/

/-- The options of a run. -/
structure Options where
  input : Path
  output : Path
  outputDir : Path
  rpmDir : Path
  toolchainDir : Path
  tmpDir : Option Path
  worker : Path
  repoFiles : List Path
  usePreviewRepo : Bool
  disableDefaultRepos : Bool
  localOnly : Bool
  manifest : Option Path
  tlsCert : Option Path
  tlsKey : Option Path
  stopOnFailure : Bool
  inputSummary : Option Path
  outputSummary : Option Path
  logFile : Option Path
  logLevel : Option String

namespace Given

/-- The value of an option. -/
def value? (g : Given) (s : Setting) : Option String := g.values.lookup s

/-- The path that an option gives. -/
def path? (g : Given) (s : Setting) : Option Path := (g.value? s).map Path.mk

/-- The path that an option must give. -/
def path (g : Given) (s : Setting) : Except Stop Path :=
  match g.path? s with
  | some p => .ok p
  | none => .error (.misuse (.required s))

/-- The repository files in the order they were given. -/
def repoFiles (g : Given) : List Path :=
  (g.values.reverse.filter (·.1 = .repoFile)).map fun v => ⟨v.2⟩

/-- The options of a run, if all that it needs is given. -/
def options (g : Given) : Except Stop Options := do
  requiredSettings.forM fun s => do
    let _ ← g.path s
  pure {
    input := ← g.path .input
    output := ← g.path .output
    outputDir := ← g.path .outputDir
    rpmDir := ← g.path .rpmDir
    toolchainDir := ← g.path .toolchainDir
    tmpDir := g.path? .tmpDir
    worker := ← g.path .worker
    repoFiles := g.repoFiles
    usePreviewRepo := g.switches.contains .usePreviewRepo
    disableDefaultRepos := g.switches.contains .disableDefaultRepos
    localOnly := g.switches.contains .localOnly
    manifest := g.path? .manifest
    tlsCert := g.path? .tlsCert
    tlsKey := g.path? .tlsKey
    stopOnFailure := g.switches.contains .stopOnFailure
    inputSummary := g.path? .inputSummary
    outputSummary := g.path? .outputSummary
    logFile := g.path? .logFile
    logLevel := g.value? .logLevel }

end Given

/-- The options that a command line gives. -/
def parse (args : List String) : Except Stop Options := do
  let g ← readArgs .empty args
  g.options

end RpmProvision.CommandLine
