/-!
Reading a file by its path on a host of which only the places that every host has are known. What
counts is why most paths cannot be read: a name is too long, is not there, or leads through
something that is no directory.
-/
namespace Litmus.HostPath

/-- What stands at a path. -/
inductive Place where
  | directory
  | file (content : List UInt8)
  /-- Another way to the place whose names are given, which is no link. -/
  | link (target : List String)
  /-- Something that cannot be read. -/
  | closed (reason : String)
deriving Repr

def Place.text (content : String) : Place := .file content.toUTF8.toList

/-- The front of a program, which is no text. -/
def Place.program : Place := .file [0x7f, 0x45, 0x4c, 0x46, 0x80]

/-- Directories that are no links, by the one that they are in. -/
def directories : List (List String) :=
  ["bin", "games", "include", "lib", "lib64", "libexec", "local", "sbin", "share", "src"].map
      (["usr", ·]) ++
    ["bin", "etc", "games", "include", "lib", "sbin", "share", "src"].map (["usr", "local", ·]) ++
    ["backups", "cache", "lib", "local", "log", "mail", "opt", "spool", "tmp"].map (["var", ·]) ++
    ["alternatives", "default", "init.d", "pam.d", "profile.d", "security", "skel"].map
      (["etc", ·]) ++
    ["mqueue", "pts", "shm"].map (["dev", ·]) ++
    ["block", "bus", "class", "dev", "devices", "firmware", "fs", "kernel", "module", "power"].map
      (["sys", ·]) ++
    ["bus", "driver", "fs", "irq", "self", "sys", "tty"].map (["proc", ·]) ++
    ["attr", "fd", "fdinfo", "map_files", "net", "ns", "task"].map (["proc", "self", ·]) ++
    ["fs", "kernel", "net", "vm"].map (["proc", "sys", ·]) ++
    ["boot", "dev", "etc", "home", "media", "mnt", "opt", "proc", "root", "run", "srv", "sys",
      "tmp", "usr", "var"].map ([·])

/-- Files that can be run. -/
def programs : List (List String) :=
  ["sh", "bash", "cat", "chmod", "cp", "cut", "date", "dd", "echo", "env", "false", "find", "grep",
      "head", "id", "ln", "ls", "mkdir", "mv", "ps", "pwd", "rm", "sed", "sleep", "sort", "tail",
      "tar", "touch", "tr", "true", "uname", "wc"].map (["usr", "bin", ·]) ++
    [["proc", "self", "exe"]]

/-- The names of the working directory and of those that it is in. They are not known; no part
of a path stands for such a name. -/
def workingDirectory : List String := List.replicate 4 ""

/-- Links and what they lead to. -/
def links : List (List String × List String) :=
  [(["bin"], ["usr", "bin"]), (["lib"], ["usr", "lib"]), (["lib64"], ["usr", "lib64"]),
    (["sbin"], ["usr", "sbin"]), (["var", "run"], ["run"]), (["dev", "fd"], ["proc", "self", "fd"]),
    (["proc", "1"], ["proc", "self"]), (["proc", "thread-self"], ["proc", "self"]),
    (["proc", "net"], ["proc", "self", "net"]), (["proc", "self", "cwd"], workingDirectory),
    (["proc", "self", "root"], [])]

/-- The heading of a table of limits. -/
def limitsHeading : String :=
  "Limit                     Soft Limit           Hard Limit           Units     \n"

/-- Files by the form of their first lines. -/
def texts : List (List String × String) :=
  [(["etc", "passwd"], "root:x:0:0:root:/root:/bin/sh\n"), (["etc", "group"], "root:x:0:\n"),
    (["etc", "shadow"], "root:*:::::::\n"), (["etc", "gshadow"], "root:*::\n"),
    (["proc", "meminfo"], "MemTotal:\n"), (["proc", "self", "status"], "Name:\n"),
    (["proc", "self", "io"], "rchar: 0\n"), (["proc", "self", "maps"], "0-1 r--p 0 00:00 0\n"),
    (["proc", "self", "cgroup"], "0::/\n"), (["proc", "version"], "#1 00:00:00\n"),
    (["proc", "self", "environ"], "PATH=/usr/local/bin:/usr/bin"),
    (["etc", "hosts"], "127.0.0.1\tlocalhost\n"), (["proc", "self", "limits"], limitsHeading),
    (["proc", "self", "mountinfo"], "1 1 0:1 / / rw - tmpfs tmpfs rw\n"),
    (["proc", "self", "smaps"], "0-1 r--p 0 00:00 0\n"),
    (["proc", "self", "smaps_rollup"], "0-1 ---p 0 00:00 0 [rollup]\n"),
    (["proc", "sys", "kernel", "ostype"], "Linux\n"),
    (["proc", "devices"], "Character devices:\n  1 mem\n"),
    (["proc", "filesystems"], "nodev\tsysfs\n"),
    (["proc", "partitions"], "major minor  #blocks  name\n"),
    (["proc", "swaps"], "Filename\t\t\t\tType\t\tSize\t\tUsed\t\tPriority\n")]

/-- What every host has, by the names on its path. -/
def places : List (List String × Place) :=
  directories.map (·, .directory) ++ programs.map (·, .program) ++
    links.map (fun (names, target) => (names, .link target)) ++
    texts.map (fun (names, content) => (names, .text content)) ++
    [(["dev", "null"], .file []),
      (["dev", "tty"], .closed "No such device or address (os error 6)"),
      (["proc", "self", "mem"], .closed "Input/output error (os error 5)")]

/-- The longest name on a path, in bytes. -/
def nameLimit : Nat := 255

/-- Whether a name is too long for a directory. Where names are made up as they are asked for,
any length will do. -/
def isTooLong (directory : List String) (name : String) : Bool :=
  nameLimit < name.utf8ByteSize && directory.head? ≠ some "proc" && directory.head? ≠ some "sys"

/-- The length in bytes that a path must stay below. -/
def pathLimit : Nat := 4096

def missing : String := "No such file or directory (os error 2)"

def tooLong : String := "File name too long (os error 36)"

/-- What stands at a place by the names on the way to it. -/
def at? (names : List String) : Option Place :=
  if names.all (· = "") then some .directory else places.lookup names

/-- The names of a place, which may be those of a link to it. -/
def resolve (names : List String) : List String :=
  match at? names with
  | some (.link target) => target
  | _ => names

/-- Follows the names of a path from the place at `here`. -/
def follow : List String → List String → Except String Place
  | here, [] => (at? here).elim (.error missing) .ok
  | here, name :: rest =>
      match at? here with
      | none => .error missing
      | some .directory =>
          if name = "" ∨ name = "." then follow here rest
          else if name = ".." then follow here.dropLast rest
          else if isTooLong here name then .error tooLong
          else follow (resolve (here ++ [name])) rest
      | some _ => .error "Not a directory (os error 20)"

/-- A place by its path. -/
def find (path : String) : Except String Place :=
  if path.toList.contains '\x00' then .error "file name contained an unexpected NUL byte"
  else if path.isEmpty then .error missing
  else if pathLimit ≤ path.utf8ByteSize then .error tooLong
  else follow (if path.startsWith "/" then [] else workingDirectory) (path.splitOn "/")

/-- The content of the file at a path, or the reason for which it cannot be read. -/
def read (path : String) : Except String ByteArray :=
  match find path with
  | .error reason => .error reason
  | .ok .directory => .error "Is a directory (os error 21)"
  | .ok (.file content) => .ok ⟨content.toArray⟩
  | .ok (.link _) => .error missing
  | .ok (.closed reason) => .error reason

end Litmus.HostPath
