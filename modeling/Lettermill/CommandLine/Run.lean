import Lettermill.CommandLine.Arguments
import Lettermill.CommandLine.LogFilter
import Lettermill.Compiler.Program
import Lettermill.Converter
import Lettermill.Json
import Lettermill.Settings.Load
/-! What the command does: settings are loaded, mappings registered, the input read, converted and
written. All that it sees of the world is given to it as a value, and all that it does to the world
is in its result. -/
namespace Lettermill.CommandLine
set_option autoImplicit false
open Text

structure World where
  disk : Disk
  input : Bytes := []
  /-- The program at a path, or the one with a name where programs are looked for. -/
  program : String → Program := fun _ _ _ => .error .notFound
  /-- Is there a compiler where programs are looked for? -/
  hasCompiler : Bool := false
  /-- The setting for the log. -/
  logFilter : Option String := none

structure Result where
  code : Nat
  output : String := ""
  errors : String := ""
  /-- The file to write. -/
  file : Option (String × Bytes) := none

inductive Failure where
  | settings (cause : Settings.LoadError)
  | conversion (cause : ConvertError)
  | reading (path reason : String)
  | writing (path reason : String)
  deriving DecidableEq, Repr

def Failure.message : Failure → String
  | .settings cause => "configuration error: " ++ cause.message
  | .conversion cause => cause.message
  | .reading path reason => "cannot read " ++ path ++ ": " ++ reason
  | .writing path reason => "cannot write " ++ path ++ ": " ++ reason

/-! ## Settings -/

def Switch.setting? : Switch → Option (String × Bool)
  | .noValidate => some ("convert.validate-output", false)
  | .preserveClassNames => some ("convert.preserve-class-names", true)
  | .noInlineStyles => some ("convert.inline-styles", false)
  | .noWrap => some ("convert.wrap-content", false)
  | .quiet => some ("convert.show-warnings", false)
  | .verbose => none

def Invocation.layers (i : Invocation) : List Settings.Layer :=
  ((i.value? .config).map fun path => Settings.Layer.file path true).toList
    ++ i.switches.filterMap (fun s =>
      s.setting?.map fun (key, value) => .override key (.boolean value))
    ++ ((i.value? .binary).map fun path =>
      Settings.Layer.override "compiler.binary" (.text path)).toList

namespace World

/-! ## The compiler -/

def compilerName : String := "mjml"

def compilerPath? (w : World) (s : Settings) : Option String :=
  if !s.convert.validateOutput then none
  else match s.compiler.binary with
  | some path => some path
  | none => if s.compiler.searchPath && w.hasCompiler then some compilerName else none

def compilerFor (w : World) (s : Settings) : Option Compiler :=
  (w.compilerPath? s).map fun path => Compiler.ofProgram path (w.program path)

def converterFor (w : World) (s : Settings) : Except Failure Converter :=
  match s.register .new with
  | (_, some e) => .error (.conversion (.invalidMapping e))
  | (registry, none) =>
    .ok { registry, parse := Html.reader s.convert.maxInputBytes, compiler := w.compilerFor s }

/-! ## Input and output -/

def inputPath : String := "-"

def readText (w : World) (path : String) : Except Failure String :=
  let content := if path = inputPath then .ok w.input else w.disk.read path
  match content with
  | .error e => .error (.reading path e.message)
  | .ok bs =>
    match decode bs with
    | .ok text => .ok text
    | .error _ => .error (.reading path "stream did not contain valid UTF-8")

def log (w : World) (i : Invocation) (s : Settings) (c : Conversion) : String :=
  let filter := LogFilter.inForce w.logFilter (i.has .verbose)
  if s.convert.showWarnings && filter.shows warningSource warningParts .warn then
    String.join (c.warnings.map fun warning => warningEntry warning.display)
  else ""

def render (format : Format) (c : Conversion) : String :=
  let text := match format with
    | .text => c.output
    | .json => c.json.pretty
  if text.toList.getLast? = some '\n' then text else text ++ "\n"

/-! ## The command -/

/-- What is known before anything is compiled: the settings, the converter and the draft. -/
def prepare (w : World) (i : Invocation) : Except Failure (Settings × Converter × Draft) := do
  let settings ← (Settings.load w.disk i.layers).mapError .settings
  let converter ← w.converterFor settings
  let source ← w.readText (i.path.getD inputPath)
  let draft ← (converter.draftText settings.convert.options source).mapError .conversion
  return (settings, converter, draft)

/-- A conversion that was made: the settings for it, and its result. -/
def convert (w : World) (i : Invocation) : Except Failure (Settings × Conversion) :=
  (w.prepare i).map fun (settings, converter, draft) =>
    (settings, converter.finish settings.convert.options draft)

/-- The path of the compiler that the command runs, and the markup that it is given. -/
def errand? (w : World) (arguments : List String) : Option (String × String) :=
  match read arguments with
  | .ok (.convert i) =>
    match w.prepare i with
    | .ok (settings, _, draft) =>
      if draft.isToCompile settings.convert.options then
        (w.compilerPath? settings).map fun path => (path, draft.markup)
      else none
    | .error _ => none
  | _ => none

def failed (logged : String) (e : Failure) : Result :=
  { code := 1, errors := logged ++ "Error: " ++ e.message ++ "\n" }

def deliver (w : World) (i : Invocation) (logged : String) (text : String) : Result :=
  match i.value? .output with
  | none => { code := 0, output := text, errors := logged }
  | some path =>
    match w.disk.sink path with
    | .ok .file => { code := 0, errors := logged, file := some (path, bytesOf text) }
    | .ok .output => { code := 0, output := text, errors := logged }
    | .ok .errors => { code := 0, errors := logged ++ text }
    | .ok .nowhere => { code := 0, errors := logged }
    | .error e => failed logged (.writing path e.message)

def carryOut (w : World) : Request → Result
  | .help => { code := 0, output := helpText }
  | .version => { code := 0, output := versionText }
  | .convert i =>
    match w.convert i with
    | .error e => failed "" e
    | .ok (settings, conversion) =>
      w.deliver i (w.log i settings conversion) (render i.format conversion)

def run (w : World) (arguments : List String) : Result :=
  match read arguments with
  | .error e => { code := 2, errors := "error: " ++ e.message ++ "\n" }
  | .ok request => w.carryOut request

end World

end Lettermill.CommandLine
