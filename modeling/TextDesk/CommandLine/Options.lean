/-! # Arguments of the command line

Script files and options, in any order.  An option is refused if it is unknown, lacks its value, has
a value where it takes none, or is given twice; an argument that asks for the version or for help
takes effect at once, whatever follows it.
-/

namespace TextDesk

/-- What the arguments ask for. -/
structure Options where
  /-- The scripts to run before the dialogue, in order. -/
  files : List String := []
  /-- Whether to leave out the dialogue. -/
  batch : Bool := false
  /-- The file to load texts from at the start and to save them to at the end. -/
  state : Option String := none
  /-- Whether scripts pass over failing lines. -/
  keepGoing : Bool := false
  /-- Whether to leave out the banner. -/
  noBanner : Bool := false
  /-- How often more log output was asked for. -/
  verbosity : Nat := 0
  deriving DecidableEq, Repr

/-- What the arguments come to. -/
inductive Arguments where
  /-- A session with the given options. -/
  | session (options : Options)
  /-- The version is shown. -/
  | version
  /-- Help is shown. -/
  | help
  /-- The arguments are refused. -/
  | refused
  deriving DecidableEq, Repr

namespace Options

/-! ## Single options -/

/-- Adds a script, unless its path is empty. -/
def addFile? (o : Options) (path : String) : Option Options :=
  if path.isEmpty then none else some { o with files := o.files ++ [path] }

/-- Sets the state file, unless it is set or the path is empty. -/
def setState? (o : Options) (path : String) : Option Options :=
  if o.state.isSome || path.isEmpty then none else some { o with state := some path }

/-- Turns on the batch mode, unless it is on. -/
def setBatch? (o : Options) : Option Options := if o.batch then none else some { o with batch := true }

/-- Has failing lines passed over, unless they already are. -/
def setKeepGoing? (o : Options) : Option Options :=
  if o.keepGoing then none else some { o with keepGoing := true }

/-- Leaves out the banner, unless it already is. -/
def setNoBanner? (o : Options) : Option Options :=
  if o.noBanner then none else some { o with noBanner := true }

/-- Asks for more log output. -/
def addVerbosity (o : Options) : Options := { o with verbosity := o.verbosity + 1 }

/-! ## Arguments -/

/-- What one argument, or a part of it, comes to. -/
inductive Step where
  /-- Reading goes on with these options. -/
  | next (options : Options)
  /-- Reading ends. -/
  | stop (arguments : Arguments)

/-- Goes on with changed options, or refuses the arguments if they cannot be changed. -/
def Step.ofOption : Option Options → Step
  | some o => next o
  | none => stop .refused

/-- Reads the letters of a bundle of short options. -/
def readLetters (o : Options) : List Char → Step
  | [] => .next o
  | 'v' :: letters => o.addVerbosity.readLetters letters
  | 'b' :: letters =>
    match o.setBatch? with
    | some changed => changed.readLetters letters
    | none => .stop .refused
  | 'h' :: _ => .stop .help
  | 'V' :: _ => .stop .version
  | _ => .stop .refused

/-- Reads a long option without a value, by the name behind its dashes. -/
def readFlag (o : Options) (name : String) : Step :=
  match name with
  | "batch" => .ofOption o.setBatch?
  | "keep-going" => .ofOption o.setKeepGoing?
  | "no-banner" => .ofOption o.setNoBanner?
  | "verbose" => .next o.addVerbosity
  | "help" => .stop .help
  | "version" => .stop .version
  | _ => .stop .refused

/-- Reads a long option with an attached value; only the state file takes one. -/
def readAssignment (o : Options) (name value : String) : Step :=
  if name = "state" then .ofOption (o.setState? value) else .stop .refused

/-- Reads script paths only, as behind a double dash. -/
def readFiles (o : Options) : List String → Arguments
  | [] => .session o
  | path :: paths =>
    match o.addFile? path with
    | some changed => changed.readFiles paths
    | none => .refused

/-- Whether an argument is a value and not an option: it does not start with a dash, or is a dash. -/
def isValue (argument : String) : Bool :=
  argument.toList.head? ≠ some '-' || argument = "-"

/-- Reads an argument that needs no other one. -/
def readOne (o : Options) (argument : String) : Step :=
  match argument.toList with
  | '-' :: '-' :: long =>
    match long.span (· ≠ '=') with
    | (name, '=' :: value) => o.readAssignment (String.ofList name) (String.ofList value)
    | (name, _) => o.readFlag (String.ofList name)
  | '-' :: letter :: letters => o.readLetters (letter :: letters)
  | _ => .ofOption (o.addFile? argument)

/-- Reads arguments, from left to right. -/
def read (o : Options) : List String → Arguments
  | [] => .session o
  | "--" :: paths => o.readFiles paths
  | "--state" :: rest =>
    match rest with
    | [] => .refused
    | value :: rest =>
      if isValue value then
        match o.setState? value with
        | some changed => changed.read rest
        | none => .refused
      else .refused
  | argument :: rest =>
    match o.readOne argument with
    | .next changed => changed.read rest
    | .stop arguments => arguments

end Options

/-- What the arguments of the command line come to. -/
def Arguments.ofList (arguments : List String) : Arguments := ({} : Options).read arguments

end TextDesk
