import PackageIndex.Settings

/-!
# The command line

Arguments are options and one directory, in any order.  An option that takes a value finds it
behind an equals sign, behind its letter, or in the next argument; switches of one letter can stand
together; two hyphens end the options.  A wrong use is told from a failure by its exit code.
-/

namespace PackageIndex

/-! ### Options -/

/-- What an option asks for. -/
inductive Flag where
  | version
  | exclude
  | respectListing (on : Bool)
  | sort (on : Bool)
  | verbose
  | programVersion
  | help
deriving DecidableEq, Repr

/-- The option takes a value. -/
def Flag.takesValue : Flag → Bool
  | .version | .exclude => true
  | _ => false

/-- The option with a long name. -/
def longOption? : String → Option Flag
  | "--python-version" => some .version
  | "--respect-all" => some (.respectListing true)
  | "--ignore-all" => some (.respectListing false)
  | "--sort" => some (.sort true)
  | "--no-sort" => some (.sort false)
  | "--verbose" => some .verbose
  | "--exclude" => some .exclude
  | "--version" => some .programVersion
  | "--help" => some .help
  | _ => none

/-- The option with a name of one letter. -/
def shortOption? : Char → Option Flag
  | 'p' => some .version
  | 'v' => some .verbose
  | 'e' => some .exclude
  | _ => none

/-- An argument that was understood: an option with its value, if it takes one, or a word that
stands for itself. -/
inductive Argument where
  | option (o : Flag) (value : String)
  | word (text : String)
deriving DecidableEq, Repr

/-- Switches of one letter that stand together, and the last option among them that takes a value:
what stands behind it is its value, or nothing does and the value is still to come. -/
def cluster : List Char → Option (List Argument × Option Flag)
  | [] => some ([], none)
  | c :: rest => do
    let o ← shortOption? c
    if o.takesValue then
      if rest.isEmpty then some ([], some o) else some ([.option o (String.ofList rest)], none)
    else
      let (others, pending?) ← cluster rest
      some (.option o "" :: others, pending?)

/-- The arguments of one text that begins with two hyphens. -/
def longArgument (text : String) : Option (List Argument × Option Flag) := do
  let name := text.toList.takeWhile (· ≠ '=')
  let o ← longOption? (String.ofList name)
  match text.toList.drop name.length with
  | _ :: value => if o.takesValue then some ([.option o (String.ofList value)], none) else none
  | [] => if o.takesValue then some ([], some o) else some ([.option o ""], none)

/-- The arguments of a command line, in order; `none` if an option is unknown, lacks its value, or
has one that it does not take. -/
def arguments : List String → Option (List Argument)
  | [] => some []
  | text :: rest =>
    if text = "--" then some (rest.map .word)
    else
      let read :=
        match text.toList with
        | '-' :: '-' :: _ => longArgument text
        | '-' :: c :: cs => cluster (c :: cs)
        | _ => some ([.word text], none)
      match read, rest with
      | none, _ => none
      | some (found, none), rest => (found ++ ·) <$> arguments rest
      | some (_, some _), [] => none
      | some (found, some o), value :: rest =>
        (fun others => found ++ .option o value :: others) <$> arguments rest

/-! ### Commands -/

/-- What a command line asks for. -/
inductive Command where
  /-- It is not a correct use. -/
  | misuse
  /-- It asks for help. -/
  | help
  /-- It asks for the version of the program. -/
  | programVersion
  /-- It asks for the indexes below a directory. -/
  | generate (directory : String) (overrides : Overrides)

/-- The values of an option, in order. -/
def valuesOf (o : Flag) (arguments : List Argument) : List String :=
  arguments.filterMap fun
    | .option p value => if p = o then some value else none
    | .word _ => none

/-- The state of a switch: what is given last counts. -/
def lastSwitch (on : Bool → Flag) (arguments : List Argument) : Option Value :=
  (arguments.filterMap fun
    | .option o _ =>
      if o = on true then some (.boolean true)
      else if o = on false then some (.boolean false) else none
    | .word _ => none).getLast?

/-- The values that arguments give to settings. -/
def overridesOf (arguments : List Argument) : Overrides :=
  let patterns := valuesOf .exclude arguments
  { version := (valuesOf .version arguments).getLast?.map .text
    exclude := if patterns.isEmpty then none else some (.list (patterns.map .text))
    respectListing := lastSwitch .respectListing arguments
    sort := lastSwitch .sort arguments
    verbose := if (valuesOf .verbose arguments).isEmpty then none else some (.boolean true) }

/-- The command that asks only about the program, if an argument does; the first one counts. -/
def inquiry? (arguments : List Argument) : Option Command :=
  arguments.findSome? fun
    | .option .help _ => some .help
    | .option .programVersion _ => some .programVersion
    | _ => none

/-- The words of a command line that are no options. -/
def wordsOf (arguments : List Argument) : List String :=
  arguments.filterMap fun
    | .word text => some text
    | .option _ _ => none

/-- The command of a command line. -/
def Command.ofArguments (texts : List String) : Command :=
  match arguments texts with
  | none => .misuse
  | some found =>
    match inquiry? found, wordsOf found with
    | some command, _ => command
    | none, [directory] => .generate directory (overridesOf found)
    | none, _ => .misuse

/-! ### Execution -/

/-- How a command ends: the exit code, what was told, the disk, and the failure that was not
foreseen, if there was one. -/
structure Outcome where
  exitCode : Nat
  notices : List Notice
  disk : Disk
  unreported : Option Failure

/-- The end of a command that failed. -/
def Outcome.ofFailure (f : Failure) (notices : List Notice) (disk : Disk) : Outcome :=
  if f.isReported then ⟨1, notices ++ [.failed f], disk, none⟩ else ⟨1, notices, disk, some f⟩

/-- Loads the configuration for a directory, with the settings file of the working directory, and
generates the indexes. -/
def runGenerate (d : Disk) (directory : String) (overrides : Overrides) : Outcome :=
  let (loaded, notices) :=
    Config.load d (Path.ofString directory) (Path.ofString ".") overrides
  match loaded with
  | .error f => .ofFailure f notices d
  | .ok config =>
    let (result, progress) := generate config d
    let notices := notices ++ progress.notices
    match result with
    | .error f => .ofFailure f notices progress.disk
    | .ok _ => ⟨0, notices ++ [.finished progress.written.length], progress.disk, none⟩

/-- Runs a command line on a disk. -/
def runCommand (d : Disk) (texts : List String) : Outcome :=
  match Command.ofArguments texts with
  | .misuse => ⟨2, [], d, none⟩
  | .help => ⟨0, [], d, none⟩
  | .programVersion => ⟨0, [.programVersion], d, none⟩
  | .generate directory overrides => runGenerate d directory overrides

end PackageIndex
