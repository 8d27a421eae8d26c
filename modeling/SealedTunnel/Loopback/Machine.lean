import SealedTunnel.Command.Memory
import SealedTunnel.Network.Endpoint

/-!
# A machine to run on

The surroundings of a program that runs in memory: around the working directory stands what a small
system has, and the network has no interfaces in use. Numeric hosts and the machine's own name are
known, other names cannot be looked up, no host can be reached, and only addresses that need no
interface can be listened at.

## Main definitions

* `Isolated.lookup`: the address of a host
* `Isolated.connectFault`: why a host cannot be reached
* `Isolated.listen`: whether one can listen at an endpoint
* `Memory.ofFiles`: some files in an otherwise empty working directory
-/

namespace SealedTunnel

namespace Isolated

/-! ## Failures -/

/-- No route leads to the host. -/
def unreachable : IoError := .other "Network is unreachable (os error 101)"

/-- No interface has the address that would be needed. -/
def noAddress : IoError := .other "Cannot assign requested address (os error 99)"

/-- The address says too little. -/
def invalid : IoError := .other "Invalid argument (os error 22)"

/-- There is no interface of that number. -/
def noInterface : IoError := .other "No such device (os error 19)"

/-- The system keeps the port to itself. -/
def notAllowed : IoError := .other "Permission denied (os error 13)"

/-- A host that was not looked up. -/
def notFound (why : String) : IoError :=
  .other ("failed to lookup address information: " ++ why)

/-- The servers of names do not answer. -/
def noAnswer : IoError := notFound "Temporary failure in name resolution"

/-- No server of names can know the host. -/
def noName : IoError := notFound "Name or service not known"

/-- A host holds a character that none may hold. -/
def nulInside : IoError := .other "file name contained an unexpected NUL byte"

/-! ## Names -/

/-- A character of a name. -/
def inName (c : Char) : Bool :=
  c.isAlphanum || c = '-' || c = '_'

/-- Whether a part of a name may stand between dots. -/
def isLabel (label : String) : Bool :=
  !label.isEmpty && label.length ≤ 63 && label.toList.all inName

/-- Whether a server of names may be asked for a host: labels with dots between them, and perhaps
one at the end; no more than 253 characters, the last dot apart. -/
def isName (host : String) : Bool :=
  let name := if host.endsWith "." then String.ofList host.toList.dropLast else host
  host = "." ||
    (name.length ≤ 253 && !name.startsWith "-" && (name.splitOn ".").all isLabel)

/-- The name that the machine has for itself. -/
def ownName : String := "localhost"

/-- The address that goes with its own name. -/
def ownAddress : Ip := .v4 0x7f000001

/-- The name of the interface that leads back to the machine. -/
def ownInterface : String := "lo"

/-- The IPv6 address that a host spells, where a scope may also be the name of an interface. -/
def v6? (host : String) : Option Ip :=
  match Ip.ofV6? host, host.splitOn "%" with
  | some ip, _ => some ip
  | none, [address, scope] =>
    match Ip.ofV6? address with
    | some (.v6 groups _) =>
      if scope = ownInterface && (Ip.isLinkLocal groups || Ip.isLinkMulticast groups) then
        some (.v6 groups 1)
      else none
    | _ => none
  | none, _ => none

/-- The address of a host. -/
def lookup (host : String) : Except IoError Ip :=
  if host.contains '\x00' then .error nulInside
  else
    match Ip.ofV4? host, v6? host with
    | some ip, _ => .ok ip
    | none, some ip => .ok ip
    | none, none =>
      if host.map Char.toLower = ownName then .ok ownAddress
      else if isName host then .error noAnswer
      else .error noName

/-! ## Connecting and listening -/

/-- Why the host at an address cannot be reached. -/
def ipFault : Ip → IoError
  | .v4 _ => unreachable
  | .v6 groups scope =>
    if Ip.isMapped groups || Ip.isMulticast groups then unreachable
    else if Ip.isLinkLocal groups && scope = 0 then invalid
    else noAddress

/-- Why a host cannot be reached. -/
def connectFault (host : String) : IoError :=
  match lookup host with
  | .error e => e
  | .ok ip => ipFault ip

/-- The ports below are for the system's own services. -/
def firstOpenPort : UInt16 := 1024

/-- Refuses a port that the system keeps to itself; port 0 leaves the choice to the system. -/
def checkPort (port : UInt16) : Except IoError Unit :=
  if port ≠ 0 && port < firstOpenPort then .error notAllowed else .ok ()

/-- Refuses an IPv6 address that no interface has. -/
def checkAddress (groups : List UInt16) (scope : UInt32) : Except IoError Unit :=
  if Ip.isMapped groups || groups.all (· = 0) then .ok ()
  else if Ip.isLinkLocal groups && scope = 0 then .error invalid
  else if Ip.isLinkLocal groups && scope ≠ 1 then .error noInterface
  else .error noAddress

/-- Whether one can listen at a port of an address. A multicast IPv6 address is refused before the
port is looked at, any other after it. -/
def listenAt (port : UInt16) : Ip → Except IoError Unit
  | .v4 _ => checkPort port
  | .v6 groups scope => do
    if Ip.isMulticast groups then .error invalid
    checkPort port
    checkAddress groups scope

/-- Whether one can listen at an endpoint. -/
def listen (endpoint : Endpoint) : Except IoError Unit := do
  listenAt endpoint.port (← lookup endpoint.host)

end Isolated

namespace Memory

/-! ## The system -/

/-- The path of the working directory. -/
def working : List String := ["tmp", "work"]

/-- The directories that a system has. -/
def systemDirectories : List String :=
  ["boot", "dev", "dev/mqueue", "dev/pts", "dev/shm", "etc", "etc/alternatives", "etc/apt",
   "etc/cron.d", "etc/default", "etc/init.d", "etc/pam.d", "etc/profile.d", "etc/security",
   "etc/skel", "etc/ssl", "etc/ssl/certs", "home", "media", "mnt", "opt", "proc", "proc/1",
   "proc/self", "proc/self/fd", "proc/sys", "root", "run", "run/lock", "srv", "sys", "sys/class",
   "sys/devices", "sys/fs", "sys/kernel", "tmp", "usr", "usr/bin", "usr/games", "usr/include",
   "usr/lib", "usr/lib64", "usr/libexec", "usr/local", "usr/local/bin", "usr/local/etc",
   "usr/local/include", "usr/local/lib", "usr/local/sbin", "usr/local/share", "usr/local/src",
   "usr/sbin", "usr/share", "usr/share/doc", "usr/share/man", "usr/src", "var", "var/backups",
   "var/cache", "var/lib", "var/local", "var/log", "var/mail", "var/opt", "var/spool", "var/tmp"]

/-- The links that a system has. -/
def systemLinks : List (String × String) :=
  [("bin", "usr/bin"), ("sbin", "usr/sbin"), ("lib", "usr/lib"), ("lib64", "usr/lib64"),
   ("dev/fd", "proc/self/fd"), ("dev/stdin", "proc/self/fd/0"), ("dev/stdout", "proc/self/fd/1"),
   ("dev/stderr", "proc/self/fd/2"), ("etc/os-release", "usr/lib/os-release"),
   ("proc/mounts", "proc/self/mounts"), ("proc/self/cwd", "tmp/work"), ("proc/self/root", ""),
   ("var/lock", "run/lock"), ("var/run", "run")]

/-- The files of a system that hold texts, each with the beginning of its text. -/
def systemFiles : List (String × String) :=
  [("etc/debian_version", "12.5\n"), ("etc/fstab", "/dev/sda1 / ext4 defaults 0 1\n"),
   ("etc/group", "root:x:0:\n"), ("etc/hostname", "localhost\n"),
   ("etc/hosts", "127.0.0.1\tlocalhost\n"), ("etc/issue", "Linux \\n \\l\n"),
   ("etc/nsswitch.conf", "hosts: files dns\n"), ("etc/passwd", "root:x:0:0:root:/root:/bin/sh\n"),
   ("etc/profile", "export PATH\n"), ("etc/resolv.conf", "nameserver 127.0.0.1\n"),
   ("etc/shells", "/bin/sh\n"), ("etc/timezone", "Etc/UTC\n"),
   ("usr/lib/os-release", "ID=linux\n")]

/-- The file that is always empty. -/
def sink : Special := ⟨.ok "", .ok .nowhere⟩

/-- A file that the system keeps to itself. -/
def secret : Special := ⟨.error FileTree.notAllowed, .error FileTree.notAllowed⟩

/-- A file in which the system reports on itself. -/
def report (text : String) : Special := ⟨.ok text, .error FileTree.notAllowed⟩

/-- A program, which is no text. -/
def binary : Special := ⟨.error FileTree.notText, .error FileTree.notAllowed⟩

/-- The special files of a system. -/
def systemSpecials : List (String × Special) :=
  [("dev/null", sink),
   ("dev/full", ⟨.error FileTree.noMemory, .error FileTree.noSpace⟩),
   ("dev/zero", ⟨.error FileTree.noMemory, .ok .nowhere⟩),
   ("dev/tty", ⟨.error FileTree.noDevice, .error FileTree.noDevice⟩),
   ("proc/self/fd/0", sink),
   ("proc/self/fd/1", ⟨.ok "", .ok .output⟩),
   ("proc/self/fd/2", ⟨.ok "", .ok .errors⟩),
   ("etc/shadow", secret),
   ("proc/self/mem", ⟨.error FileTree.broken, .error FileTree.broken⟩),
   ("proc/cpuinfo", report "processor\t: 0\n"), ("proc/loadavg", report "0.00 0.00 0.00 1/1 1\n"),
   ("proc/meminfo", report "MemTotal: 0 kB\n"),
   ("proc/self/mounts", report "proc /proc proc rw 0 0\n"),
   ("proc/self/status", report "Pid:\t1\n"), ("proc/uptime", report "0.00 0.00\n"),
   ("proc/version", report "Linux version\n"),
   ("proc/self/exe", binary), ("usr/bin/env", binary), ("usr/bin/ls", binary),
   ("usr/bin/sh", binary)]

/-- Where the program may write, and what it is told elsewhere: it has no more rights than any
program. -/
def systemGuarded : List (String × Option IoError) :=
  [("proc", some FileTree.missing), ("tmp", none), ("var/tmp", none), ("dev/shm", none),
   ("dev/mqueue", none), ("run/lock", none), ("", some FileTree.notAllowed)]

/-- The directories into which the program may not look. -/
def systemLocked : List String := ["root"]

/-- The directories on the way to a place. -/
def ancestors (place : List String) : List (List String) :=
  (List.range place.length).map place.take

/-- Files in an otherwise empty working directory. -/
def ofFiles (files : List (String × String)) (entropy : Entropy) : Memory :=
  let place (path : String) := FileTree.steps path
  let own := files.map fun (path, text) => (working ++ place path, text)
  { entropy
    listening := Isolated.listen
    tree :=
      { working
        directories := working :: (own.flatMap (ancestors ·.1) ++ [] :: systemDirectories.map place)
        files := own ++ systemFiles.map fun (path, text) => (place path, text)
        specials := systemSpecials.map fun (path, s) => (place path, s)
        links := systemLinks.map fun (path, target) => (place path, place target)
        guarded := systemGuarded.map fun (path, e) => (place path, e)
        locked := systemLocked.map place } }

end Memory

end SealedTunnel
