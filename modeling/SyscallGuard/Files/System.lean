import SyscallGuard.Files.Tree

set_option autoImplicit false

/-! # The system around a tree

Paths can lead out of a tree into the system that it stands in. Of that system this much is known:
the directory of the programs, with the programs themselves, and the devices that programs read from
and write to. Programs and devices are kept as files without content; what they do depends on where
they stand. -/

namespace SyscallGuard.System

/-- The programs of the system: the ones that scripts in the place of a formatter call for. -/
def programs : List String :=
  ["[", "bash", "cat", "chmod", "cp", "cut", "dash", "echo", "env", "false", "grep", "head", "kill",
    "ln", "ls", "mkdir", "mv", "printf", "pwd", "rm", "rmdir", "sed", "sh", "sleep", "sort", "tac",
    "tail", "tee", "test", "touch", "tr", "true", "uniq", "wc"]

/-- A device that programs read from and write to. -/
inductive Device where
  /-- Holds nothing and takes everything. -/
  | null
  /-- Holds nothing and takes nothing. -/
  | full
  /-- What a descriptor of the program stands for. -/
  | descriptor (n : Nat)
deriving DecidableEq

/-- The devices with their names. -/
def devices : List (List String × Device) :=
  [(["null"], .null), (["full"], .full), (["stdin"], .descriptor 0), (["stdout"], .descriptor 1),
    (["stderr"], .descriptor 2)]
    ++ (List.range 10).map fun n => (["fd", toString n], .descriptor n)

/-- The location with some names. -/
def location (names : List String) : Location := names.map Bytes.ofString

/-- The device at a location. -/
def device? (place : Location) : Option Device :=
  (devices.find? fun d => location ("dev" :: d.1) == place).map Prod.snd

/-- The program at a location. -/
def program? (place : Location) : Option String :=
  programs.find? fun p => location ["usr", "bin", p] == place

/-- The system. -/
def tree : FileTree :=
  FileTree.empty.setAll (
    [(location ["bin"], .link (Bytes.ofString "usr/bin"))]
      ++ (["dev", "etc", "tmp", "usr"].map fun d => (location [d], .directory))
      ++ [(location ["dev", "fd"], .directory)]
      ++ (["bin", "lib", "local"].map fun d => (location ["usr", d], .directory))
      ++ (devices.map fun d => (location ("dev" :: d.1), .file [] false))
      ++ (programs.map fun p => (location ["usr", "bin", p], .file [] true)))

end SyscallGuard.System
