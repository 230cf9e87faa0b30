import Lettermill.Disk
/-! What is found on every machine: folders, devices, and the programs that scripts rely on. Of most
programs it is only known which of a compiler's options they refuse. -/
namespace Lettermill
set_option autoImplicit false

abbrev Place := List String

inductive Device where
  | null
  | zero
  | full
  | random
  | terminal
  /-- What a channel of the program itself leads to. -/
  | channel (n : Nat)
  deriving DecidableEq, Repr

namespace Machine

/-! ## Folders, files and devices -/

def programFolder : Place := ["usr", "bin"]

def settle : Place → Place
  | ["bin"] => programFolder
  | ["sbin"] => ["usr", "sbin"]
  | ["lib"] => ["usr", "lib"]
  | ["lib64"] => ["usr", "lib64"]
  | ["var", "run"] => ["run"]
  | ["dev", "stdin"] => ["proc", "self", "fd", "0"]
  | ["dev", "stdout"] => ["proc", "self", "fd", "1"]
  | ["dev", "stderr"] => ["proc", "self", "fd", "2"]
  | ["dev", "fd"] => ["proc", "self", "fd"]
  | place => place

def commonFolders : List Place := [[], ["boot"], ["dev"], ["dev", "shm"], ["etc"], ["home"], ["media"],
  ["mnt"], ["opt"], ["proc"], ["proc", "self"], ["proc", "self", "fd"], ["root"], ["run"], ["srv"],
  ["sys"], ["tmp"], ["usr"], ["usr", "bin"], ["usr", "include"], ["usr", "lib"], ["usr", "lib64"],
  ["usr", "local"], ["usr", "local", "bin"], ["usr", "local", "lib"], ["usr", "local", "sbin"],
  ["usr", "sbin"], ["usr", "share"], ["usr", "src"], ["var"], ["var", "cache"], ["var", "lib"],
  ["var", "log"], ["var", "tmp"]]

def commonFiles : List Place := [["etc", "passwd"], ["etc", "group"], ["etc", "hosts"],
  ["etc", "host.conf"],
  ["etc", "hostname"], ["etc", "resolv.conf"], ["etc", "shadow"], ["etc", "profile"],
  ["etc", "fstab"], ["etc", "nsswitch.conf"], ["etc", "os-release"], ["etc", "issue"]]

def device? : Place → Option Device
  | ["dev", "null"] => some .null
  | ["dev", "zero"] => some .zero
  | ["dev", "full"] => some .full
  | ["dev", "random"] => some .random
  | ["dev", "urandom"] => some .random
  | ["dev", "tty"] => some .terminal
  | ["proc", "self", "fd", n] => n.toNat?.map .channel
  | _ => none

/-! ## Programs -/

/-- What a program refuses of the options of a compiler, which are `-i`, `-s` and a long one. -/
inductive Refusal where
  | first
  | second
  | long
  deriving DecidableEq, Repr

/-- How a program says where to find out more: by its path or by its name. -/
inductive Hint where
  | path
  | name
  /-- By its name, between unlike quotes. -/
  | oldName
  deriving DecidableEq, Repr

/-- Programs that are not known any better, by the option that they refuse and the hint that they
give. -/
def strangers : List (Refusal × Hint × List String) := [
  (.first, .path, ["arch", "b2sum", "chcon", "chgrp", "chown", "csplit", "date", "dircolors",
    "factor", "fmt", "groups", "hostid", "id", "install", "link", "logname", "mkfifo", "mknod",
    "mktemp", "nproc", "numfmt", "pathchk", "runcon", "sha384sum", "sha512sum", "shred", "split",
    "stat", "sum", "sync", "truncate", "tsort", "tty", "unexpand", "unlink", "users", "who"]),
  (.second, .path, ["base32", "basenc", "df", "join"]),
  (.long, .path, ["dir", "ln", "pinky", "pr", "ptx", "vdir"]),
  (.first, .name, ["addpart", "choom", "delpart", "flock", "getopt", "i386", "ionice", "ipcmk",
    "ipcrm", "linux32", "linux64", "lscpu", "lslogins", "lsmem", "lsns", "mcookie", "mesg",
    "mountpoint", "namei", "partx", "resizepart", "scriptreplay", "setarch", "setpriv", "setsid",
    "taskset", "uclampset", "utmpdump", "wall", "wdctl", "x86_64"]),
  (.second, .name, ["chrt", "fallocate", "lslocks", "nsenter", "unshare"]),
  (.long, .name, ["findmnt", "hardlink", "logger", "lsblk", "prlimit", "rename.ul"]),
  (.first, .oldName, ["gzip", "ischroot", "run-parts"])]

def refusalStatus : String → Nat
  | "dir" | "vdir" | "tty" | "getopt" => 2
  | "flock" => 64
  | "runcon" => 125
  | _ => 1

/-- What some programs say of the options of a compiler: lines of errors, and a status. In the lines
an at sign stands for the path of the program, and a number sign for the long option. -/
def sayings : List (String × Nat × List String) := [
  ("diff", 2, ["@: unrecognized option '#'", "@: Try '@ --help' for more information."]),
  ("diff3", 2, ["@: invalid option -- 's'", "@: Try '@ --help' for more information."]),
  ("du", 1, ["@: invalid option -- 'i'", "@: unrecognized option '#'",
    "Try '@ --help' for more information."]),
  ("getconf", 2, ["Usage: getconf [-v specification] variable_name [pathname]",
    "       getconf -a [pathname]"]),
  ("gunzip", 1, ["gzip: invalid option -- 'i'", "Try \x60gzip --help' for more information."]),
  ("iconv", 64, ["@: invalid option -- 'i'",
    "Try \x60iconv --help' or \x60iconv --usage' for more information."]),
  ("last", 1, ["last: invalid time value \"#\""]),
  ("ldd", 1, ["ldd: unrecognized option \x60-i'", "Try \x60ldd --help' for more information."]),
  ("locale", 64, ["@: invalid option -- 'i'",
    "Try \x60locale --help' or \x60locale --usage' for more information."]),
  ("localedef", 4, ["@: unrecognized option '#'",
    "Try \x60localedef --help' or \x60localedef --usage' for more information."]),
  ("perl", 29, ["Unrecognized switch: #  (-h will show valid options)."]),
  ("pidof", 1, []),
  ("renice", 1, ["renice: invalid priority '-i'", "Try 'renice --help' for more information."]),
  ("sdiff", 2, ["@: unrecognized option '#'", "@: Try '@ --help' for more information."]),
  ("shuf", 1, ["@: invalid input range: '-s'"]),
  ("stty", 1, ["@: invalid argument '-i'", "Try '@ --help' for more information."]),
  ("tar", 64, ["@: unrecognized option '#'",
    "Try 'tar --help' or 'tar --usage' for more information."]),
  ("uncompress", 1, ["gzip: invalid option -- 'i'", "Try \x60gzip --help' for more information."]),
  ("whereis", 1, ["whereis: bad usage", "Try 'whereis --help' for more information."]),
  ("zcat", 1, ["gzip: invalid option -- 'i'", "Try \x60gzip --help' for more information."])]

def acquaintances : List String := ["[", "awk", "base64", "basename", "bash", "cat", "chmod",
  "cksum", "cmp", "comm", "cp", "cut", "dash", "dd", "dirname", "echo", "egrep", "env", "expand",
  "expr", "false", "fgrep", "find", "fold", "grep", "head", "ls", "mawk", "md5sum", "mkdir", "mv",
  "nice", "nl", "nohup", "od", "paste", "printenv", "printf", "pwd", "readlink", "realpath", "rev",
  "rm", "rmdir", "sed", "seq", "sh", "sha1sum", "sha224sum", "sha256sum", "sleep", "sort", "stdbuf",
  "tac", "tail", "tee", "test", "timeout", "touch", "tr", "true", "uname", "uniq", "wc", "which",
  "whoami", "xargs", "yes"]

def isProgram (name : String) : Bool :=
  acquaintances.contains name || strangers.any (fun entry => entry.2.2.contains name)
    || sayings.any fun entry => entry.1 = name

end Machine

end Lettermill
