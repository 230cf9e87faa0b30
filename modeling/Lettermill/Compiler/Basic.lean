import Lettermill.Options
/-! The compiler, which renders mail markup to HTML, and the bridge to it. The bridge asks for soft
validation, reports the compiler's findings as warnings, and returns the markup itself whenever
there is no compiler or it fails; a problem of the compiler is never an error. -/
namespace Lettermill
set_option autoImplicit false

/-- How strictly the compiler validates its input. -/
inductive ValidationLevel where
  /-- Refuse to render invalid markup. -/
  | strict
  /-- Render anyway and report problems. -/
  | soft
  /-- Do not validate. -/
  | skip
  deriving DecidableEq, Repr

namespace ValidationLevel

instance : Inhabited ValidationLevel := ⟨soft⟩

def name : ValidationLevel → String
  | strict => "strict"
  | soft => "soft"
  | skip => "skip"

def ofName? : String → Option ValidationLevel
  | "strict" => some strict
  | "soft" => some soft
  | "skip" => some skip
  | _ => none

end ValidationLevel

structure Diagnostic where
  message : String
  line : Option Nat := none
  tagName : Option String := none
  deriving DecidableEq, Repr, Inhabited

structure Rendering where
  html : String
  problems : List Diagnostic := []
  deriving DecidableEq, Repr, Inhabited

inductive CompilerError where
  /-- It is not installed or could not be started. -/
  | unavailable (reason : String)
  /-- It ran and did not succeed. -/
  | failed (reason : String)
  /-- Talking to it failed. -/
  | io (reason : String)
  deriving DecidableEq, Repr

def CompilerError.message : CompilerError → String
  | .unavailable reason => "MJML compiler unavailable: " ++ reason
  | .failed reason => reason
  | .io reason => "I/O error while running the MJML compiler: " ++ reason

/-- A compiler: from markup and level to a rendering. -/
abbrev Compiler := String → ValidationLevel → Except CompilerError Rendering

/-! ## The bridge -/

def skippedMessage : String := "MJML validation skipped: no MJML compiler configured"

def Diagnostic.warning (d : Diagnostic) : Warning :=
  { message := "MJML validation error: " ++ d.message, line := d.line }

/-- The rendering of `mjml`, or `mjml` itself with a word on why. -/
def compileOrKeep (compiler : Option Compiler) (mjml : String) : Conversion :=
  match compiler with
  | none => { output := mjml, kind := .mjml, warnings := [{ message := skippedMessage }] }
  | some compile =>
    match compile mjml .soft with
    | .ok rendering =>
      { output := rendering.html, kind := .html
        warnings := rendering.problems.map Diagnostic.warning }
    | .error e =>
      { output := mjml, kind := .mjml
        warnings := [{ message := "MJML processing error: " ++ e.message }] }

end Lettermill
