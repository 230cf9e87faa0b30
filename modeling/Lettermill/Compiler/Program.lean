import Lettermill.Compiler.Report
import Lettermill.Text.Utf8
/-! Compilers that are programs: they read the markup from their input, write HTML to their output
and report problems beside it. A program that ends badly has failed, with its report as the reason.
-/
namespace Lettermill
set_option autoImplicit false
open Text

inductive Ending where
  | exited (code : Nat)
  | signalled (number : Nat)
  deriving DecidableEq, Repr

def signalNames : List (Nat × String) := [
  (1, "SIGHUP"), (2, "SIGINT"), (3, "SIGQUIT"), (4, "SIGILL"), (5, "SIGTRAP"), (6, "SIGABRT"),
  (7, "SIGBUS"), (8, "SIGFPE"), (9, "SIGKILL"), (10, "SIGUSR1"), (11, "SIGSEGV"), (12, "SIGUSR2"),
  (13, "SIGPIPE"), (14, "SIGALRM"), (15, "SIGTERM"), (16, "SIGSTKFLT"), (17, "SIGCHLD"),
  (18, "SIGCONT"), (19, "SIGSTOP"), (20, "SIGTSTP"), (21, "SIGTTIN"), (22, "SIGTTOU"),
  (23, "SIGURG"), (24, "SIGXCPU"), (25, "SIGXFSZ"), (26, "SIGVTALRM"), (27, "SIGPROF"),
  (28, "SIGWINCH"), (29, "SIGIO"), (30, "SIGPWR"), (31, "SIGSYS")]

def Ending.describe : Ending → String
  | .exited code => "exit status: " ++ toString code
  | .signalled number =>
    let name := match signalNames.lookup number with
      | some name => " (" ++ name ++ ")"
      | none => ""
    "signal: " ++ toString number ++ name

/-- What a program leaves behind. -/
structure Finished where
  output : Bytes
  errors : Bytes
  ending : Ending
  deriving DecidableEq, Repr

inductive StartError where
  | notFound
  | permissionDenied
  | other (reason : String)
  deriving DecidableEq, Repr

/-- A program: from arguments and input to what it leaves behind. -/
abbrev Program := List String → Bytes → Except StartError Finished

namespace Compiler

def arguments (level : ValidationLevel) : List String :=
  ["-i", "-s", "--config.validationLevel=" ++ level.name]

def startFailure (path : String) : StartError → CompilerError
  | .notFound =>
    .unavailable ("cannot run " ++ path ++ ": No such file or directory (os error 2)")
  | .permissionDenied =>
    .unavailable ("cannot run " ++ path ++ ": Permission denied (os error 13)")
  | .other reason => .io reason

def judge (f : Finished) : Except CompilerError Rendering :=
  let report := decodeLossy f.errors
  if f.ending = .exited 0 then
    match decode f.output with
    | .ok html => .ok { html, problems := Report.problems report }
    | .error e => .error (.failed ("mjml wrote invalid UTF-8: " ++ e.message))
  else
    let reason := trim report
    .error (.failed (if reason = "" then "mjml exited with " ++ f.ending.describe else reason))

/-- The compiler that runs the program at `path`. -/
def ofProgram (path : String) (program : Program) : Compiler := fun mjml level =>
  match program (arguments level) (bytesOf mjml) with
  | .error e => .error (startFailure path e)
  | .ok finished => judge finished

end Compiler

end Lettermill
