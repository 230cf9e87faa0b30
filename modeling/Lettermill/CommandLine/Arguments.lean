import Lettermill.Text.Letters
/-! The arguments of the command: one path, switches, and parameters that take a value. Long names
stand behind two dashes, with the value behind an equals sign or in the next argument; letters may
be run together behind one dash, and the value of the last may follow at once. Two dashes alone end
the options. Nothing may be given twice. -/
namespace Lettermill.CommandLine
set_option autoImplicit false

inductive Switch where
  | noValidate
  | preserveClassNames
  | noInlineStyles
  | noWrap
  | quiet
  | verbose
  deriving DecidableEq, Repr

inductive Parameter where
  | config
  | output
  | format
  | binary
  deriving DecidableEq, Repr

inductive Kind where
  | switch (s : Switch)
  | parameter (p : Parameter)
  | help
  | version
  deriving DecidableEq, Repr

inductive Format where
  | text
  | json
  deriving DecidableEq, Repr

structure Invocation where
  path : Option String := none
  switches : List Switch := []
  values : List (Parameter × String) := []
  deriving DecidableEq, Repr

inductive Request where
  | help
  | version
  | convert (i : Invocation)
  deriving DecidableEq, Repr

inductive UsageError where
  | unknown (argument : String)
  | surplus (argument : String)
  | repeated (name : String)
  | valueMissing (name : String)
  | valueUnwanted (name value : String)
  | valueUnknown (name value : String)
  deriving DecidableEq, Repr

def UsageError.message : UsageError → String
  | .unknown argument | .surplus argument => "unexpected argument '" ++ argument ++ "' found"
  | .repeated name => "the argument '--" ++ name ++ "' cannot be used multiple times"
  | .valueMissing name => "a value is required for '--" ++ name ++ "' but none was supplied"
  | .valueUnwanted name value =>
    "unexpected value '" ++ value ++ "' for '--" ++ name ++ "' found; no more were expected"
  | .valueUnknown name value => "invalid value '" ++ value ++ "' for '--" ++ name ++ "'"

/-! ## Names -/

def Switch.name : Switch → String
  | .noValidate => "no-validate"
  | .preserveClassNames => "preserve-class-names"
  | .noInlineStyles => "no-inline-styles"
  | .noWrap => "no-wrap"
  | .quiet => "quiet"
  | .verbose => "verbose"

def Parameter.name : Parameter → String
  | .config => "config"
  | .output => "output"
  | .format => "format"
  | .binary => "mjml-bin"

def ofName? : String → Option Kind
  | "no-validate" => some (.switch .noValidate)
  | "preserve-class-names" => some (.switch .preserveClassNames)
  | "no-inline-styles" => some (.switch .noInlineStyles)
  | "no-wrap" => some (.switch .noWrap)
  | "quiet" => some (.switch .quiet)
  | "verbose" => some (.switch .verbose)
  | "config" => some (.parameter .config)
  | "output" => some (.parameter .output)
  | "format" => some (.parameter .format)
  | "mjml-bin" => some (.parameter .binary)
  | "help" => some .help
  | "version" => some .version
  | _ => none

def ofLetter? : Char → Option Kind
  | 'q' => some (.switch .quiet)
  | 'v' => some (.switch .verbose)
  | 'c' => some (.parameter .config)
  | 'o' => some (.parameter .output)
  | 'f' => some (.parameter .format)
  | 'h' => some .help
  | 'V' => some .version
  | _ => none

def Format.ofName? : String → Option Format
  | "text" => some .text
  | "json" => some .json
  | _ => none

/-! ## Collecting -/

namespace Invocation

def addPath (i : Invocation) (path : String) : Except UsageError Invocation :=
  if i.path.isSome then .error (.surplus path) else .ok { i with path := some path }

def addSwitch (i : Invocation) (s : Switch) : Except UsageError Invocation :=
  if i.switches.contains s then .error (.repeated s.name)
  else .ok { i with switches := i.switches ++ [s] }

def value? (i : Invocation) (p : Parameter) : Option String := i.values.lookup p

def addValue (i : Invocation) (p : Parameter) (value : String) : Except UsageError Invocation :=
  if p = .format ∧ (Format.ofName? value).isNone then .error (.valueUnknown p.name value)
  else if (i.value? p).isSome then .error (.repeated p.name)
  else .ok { i with values := i.values ++ [(p, value)] }

def has (i : Invocation) (s : Switch) : Bool := i.switches.contains s

def format (i : Invocation) : Format := ((i.value? .format).bind Format.ofName?).getD .text

end Invocation

inductive Progress where
  | ready (i : Invocation)
  /-- The next argument is the value of a parameter. -/
  | awaiting (p : Parameter) (i : Invocation)
  | finished (r : Request)

/-- Takes an option with a long name, from behind its dashes. -/
def takeLong (i : Invocation) (text : String) : Except UsageError Progress :=
  let (name, value) := match Text.cutOnce? '=' text.toList with
    | some (name, value) => (String.ofList name, some (String.ofList value))
    | none => (text, none)
  match ofName? name, value with
  | none, _ => .error (.unknown ("--" ++ name))
  | some (.parameter p), some value => (i.addValue p value).map .ready
  | some (.parameter p), none => .ok (.awaiting p i)
  | some _, some value => .error (.valueUnwanted name value)
  | some (.switch s), none => (i.addSwitch s).map .ready
  | some .help, none => .ok (.finished .help)
  | some .version, none => .ok (.finished .version)

def takeLetters (i : Invocation) : List Char → Except UsageError Progress
  | [] => .ok (.ready i)
  | c :: rest =>
    match ofLetter? c with
    | none => .error (.unknown (String.ofList ['-', c]))
    | some .help => .ok (.finished .help)
    | some .version => .ok (.finished .version)
    | some (.switch s) => (i.addSwitch s).bind fun i => takeLetters i rest
    | some (.parameter p) =>
      match rest with
      | [] => .ok (.awaiting p i)
      | '=' :: value => (i.addValue p (String.ofList value)).map .ready
      | value => (i.addValue p (String.ofList value)).map .ready

def takePaths (i : Invocation) : List String → Except UsageError Request
  | [] => .ok (.convert i)
  | path :: rest => (i.addPath path).bind fun i => takePaths i rest

/-- Takes arguments; `awaited` is the parameter whose value is due. -/
def take (awaited : Option Parameter) (i : Invocation) : List String → Except UsageError Request
  | [] =>
    match awaited with
    | some p => .error (.valueMissing p.name)
    | none => .ok (.convert i)
  | argument :: rest =>
    let step : Except UsageError Progress :=
      match awaited, argument.toList with
      | some p, '-' :: _ :: _ => .error (.valueMissing p.name)
      | some p, _ => (i.addValue p argument).map .ready
      | none, '-' :: '-' :: name => takeLong i (String.ofList name)
      | none, '-' :: c :: letters => takeLetters i (c :: letters)
      | none, _ => (i.addPath argument).map .ready
    if awaited.isNone ∧ argument = "--" then takePaths i rest
    else match step with
      | .error e => .error e
      | .ok (.ready i) => take none i rest
      | .ok (.awaiting p i) => take (some p) i rest
      | .ok (.finished request) => .ok request

def read (arguments : List String) : Except UsageError Request := take none {} arguments

/-! ## Answers about the command itself -/

def versionText : String := "html2mjml 0.1.0\n"

def helpText : String := "\n".intercalate [
  "Convert HTML documents into MJML email markup",
  "",
  "Usage: html2mjml [OPTIONS] [path]",
  "",
  "Arguments:",
  "  [path]  Path to the HTML file ('-' for stdin) [default: -]",
  "",
  "Options:",
  "  -c, --config <config>       Configuration file layered over the built-in defaults",
  "  -o, --output <output>       Write the result to this file instead of stdout",
  "  -f, --format <format>       Output format [default: text] [possible values: text, json]",
  "      --no-validate           Output MJML without compiling it",
  "      --preserve-class-names  Keep source classes as css-class",
  "      --no-inline-styles      Do not turn CSS into MJML attributes",
  "      --no-wrap               Do not wrap fragments in mjml/mj-body",
  "  -q, --quiet                 Do not log conversion warnings",
  "      --mjml-bin <mjml-bin>   Path to the mjml executable",
  "  -v, --verbose               Log conversion decisions",
  "  -h, --help                  Print help",
  "  -V, --version               Print version",
  ""]

end Lettermill.CommandLine
