import Lettermill.Shell.Utility.Columns
import Lettermill.Shell.Utility.Digest
import Lettermill.Shell.Utility.Dump
import Lettermill.Shell.Utility.Files
import Lettermill.Shell.Utility.Grep
import Lettermill.Shell.Utility.Numbers
import Lettermill.Shell.Utility.Order
import Lettermill.Shell.Utility.Sed
/-! The programs of a machine by their names. Those that are not known well refuse the options of a
compiler, and do nothing else that is known. -/
namespace Lettermill.Shell.Utility
set_option autoImplicit false
open Text

def utility? : String → Option (Call → Effect)
  | "[" => some (test true)
  | "base64" => some base64
  | "basename" => some basename
  | "cat" => some cat
  | "chmod" => some chmod
  | "cksum" => some cksum
  | "cmp" => some cmp
  | "comm" => some comm
  | "cp" => some cp
  | "cut" => some cut
  | "dd" => some dd
  | "dirname" => some dirname
  | "echo" => some echo
  | "egrep" => some (grep 'E')
  | "expand" => some expand
  | "expr" => some expr
  | "false" => some fun _ => { status := 1 }
  | "fgrep" => some (grep 'F')
  | "find" => some find
  | "fold" => some fold
  | "grep" => some (grep 'G')
  | "head" => some head
  | "ls" => some ls
  | "md5sum" => some (digests md5)
  | "mkdir" => some mkdir
  | "mv" => some mv
  | "nl" => some nl
  | "od" => some od
  | "paste" => some paste
  | "printenv" => some printenv
  | "printf" => some printf
  | "pwd" => some pwd
  | "readlink" => some readlink
  | "realpath" => some realpath
  | "rev" => some rev
  | "rm" => some rm
  | "rmdir" => some rmdir
  | "sed" => some sed
  | "seq" => some seq
  | "sha1sum" => some (digests sha1)
  | "sha224sum" => some (digests sha224)
  | "sha256sum" => some (digests sha256)
  | "sleep" => some sleep
  | "sort" => some sort
  | "tac" => some tac
  | "tail" => some tail
  | "tee" => some tee
  | "test" => some (test false)
  | "touch" => some touch
  | "tr" => some tr
  | "true" => some fun _ => {}
  | "uname" => some uname
  | "uniq" => some uniq
  | "wc" => some wc
  | "which" => some which
  | "whoami" => some whoami
  | "yes" => some yes
  | _ => none

/-! ## Programs that are not known well -/

def longOption (c : Call) : String :=
  (c.args.find? fun arg => "--".toList.isPrefixOf arg.toList).getD "--"

def optionLetters (c : Call) : List Char :=
  c.args.flatMap fun arg =>
    match arg.toList with
    | '-' :: d :: ds => if d = '-' then [] else d :: ds
    | _ => []

def refuse (refusal : Machine.Refusal) (hint : Machine.Hint) (program : String) (c : Call) : Effect :=
  let letter (usual : Char) (skip : List Char) : String :=
    let d := ((optionLetters c).find? fun d => !skip.contains d).getD usual
    "invalid option -- '" ++ String.ofList [d] ++ "'"
  let what := match refusal with
    | .first => letter 'i' []
    | .second => letter 's' ['i']
    | .long => "unrecognized option '" ++ longOption c ++ "'"
  let quoted := match hint with
    | .path => "'" ++ c.name
    | .name => "'" ++ program
    | .oldName => "\x60" ++ program
  let status := Machine.refusalStatus program
  (c.complaint what status).andThen
    (Effect.err ("Try " ++ quoted ++ " --help' for more information.") status)

def say (lines : List String) (status : Nat) (c : Call) : Effect :=
  let fill (line : String) : String :=
    String.ofList (line.toList.flatMap fun d =>
      if d = '@' then c.name.toList else if d = '#' then (longOption c).toList else [d])
  { Effect.all (lines.map fun line => Effect.err (fill line) status) with status }

def call (program : String) (c : Call) : Effect :=
  match utility? program, Machine.sayings.lookup program,
      Machine.strangers.find? fun entry => entry.2.2.contains program with
  | some act, _, _ => act c
  | none, some (status, lines), _ => say lines status c
  | none, none, some (refusal, hint, _) =>
    if (optionLetters c).isEmpty && longOption c = "--" then {} else refuse refusal hint program c
  | none, none, none => {}

end Lettermill.Shell.Utility
