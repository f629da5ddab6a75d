/-!
# The machine around the working directory

The server saves drawings on a Linux machine, and a path may leave the
working directory for anywhere on it.  `Machine.layout` lists the standing
entries such a path can meet: the top directories, the device files, the
system's configuration files and programs, and the kernel's pseudo file
systems.

An entry is a directory, a file (anything that is not a directory), a
symbolic link to a place, or a directory that refuses new entries with an
error number of its own: the process file system answers that a new name does
not exist (2); the kernel's object file system refuses one at its top (13) and
below it (1); the terminal and message-queue file systems refuse one (1).
Places that are not listed are absent until a directory is created there.

The file system itself is a tree of `Entry`s, each directory holding its
entries by name; `Machine.root` is the layout grown into that tree.
-/

namespace Drafting

/-- A place of the file system, as a walk reaches it. -/
structure Place where
  /-- Reached from the root rather than from the working directory. -/
  rooted : Bool
  /-- The components from there. -/
  parts : List String
deriving BEq

/-- What stands at a place of the file system. -/
inductive Node where
  /-- A directory in which new directories can be made. -/
  | directory
  /-- A directory that refuses new entries, with the error number it refuses them with. -/
  | closed (code : Nat)
  /-- Anything that is not a directory: a regular file, a device, a link to a stream. -/
  | file
  /-- A symbolic link; a walk through it goes on from the place it names. -/
  | link (target : Place)

/-- What stands at a name of a directory, with everything below it. -/
inductive Entry where
  /-- A directory with its entries by name; `refusal` is the error number it
  refuses new entries with, when it does. -/
  | dir (refusal : Option Nat) (entries : List (String × Entry))
  /-- Anything that is not a directory. -/
  | file
  /-- A symbolic link; a walk through it goes on from the place it names. -/
  | link (target : Place)

namespace Entry

/-- A directory with nothing in it, which takes new entries. -/
def empty : Entry := .dir none []

/-- The entry of a name in a directory; nothing is in a file or a link. -/
def find? : Entry → String → Option Entry
  | .dir _ entries, name => entries.lookup name
  | _, _ => none

/-- The error number with which a directory refuses new entries, if it does. -/
def refusal? : Entry → Option Nat
  | .dir refusal _ => refusal
  | _ => none

/-- Entries by name with `entry` at `name`, in place of the one there or last. -/
def setEntry (name : String) (entry : Entry) : List (String × Entry) → List (String × Entry)
  | [] => [(name, entry)]
  | (n, e) :: rest => if n == name then (n, entry) :: rest else (n, e) :: setEntry name entry rest

/-- A directory with `entry` at `name`; anything else stays as it is. -/
def withEntry : Entry → String → Entry → Entry
  | .dir refusal entries, name, entry => .dir refusal (setEntry name entry entries)
  | other, _, _ => other

/-- This entry with `entry` at the place `path` names below it, and empty
directories on the way where nothing stood. -/
def put : Entry → List String → Entry → Entry
  | _, [], entry => entry
  | d, [name], entry => d.withEntry name entry
  | d, name :: rest, entry => d.withEntry name (((d.find? name).getD empty).put rest entry)

end Entry

/-- The entry a node of the layout stands for, before anything is below it. -/
def Node.entry : Node → Entry
  | .directory => .empty
  | .closed code => .dir (some code) []
  | .file => .file
  | .link target => .link target

namespace Machine

/-- Entries of one kind under a directory. -/
def entries (dir : List String) (node : Node) (names : List String) : List (List String × Node) :=
  names.map fun n => (dir ++ [n], node)

/-- A place reached from the root. -/
def rooted (parts : List String) : Place := ⟨true, parts⟩

/-- The top of the machine. -/
def top : List (List String × Node) :=
  [(["proc"], .closed 2), (["sys"], .closed 13),
    (["bin"], .link (rooted ["usr", "bin"])), (["sbin"], .link (rooted ["usr", "sbin"])),
    (["lib"], .link (rooted ["usr", "lib"])), (["lib64"], .link (rooted ["usr", "lib64"]))] ++
  entries [] .directory ["boot", "dev", "etc", "home", "media", "mnt", "opt", "root", "run",
    "srv", "tmp", "usr", "var"]

/-- The device files, and the directories beside them. -/
def devices : List (List String × Node) :=
  entries ["dev"] .file ["null", "zero", "full", "random", "urandom", "tty", "console", "ptmx",
    "kmsg", "stdin", "stdout", "stderr", "core"] ++
  [(["dev", "shm"], .directory), (["dev", "pts"], .closed 1), (["dev", "mqueue"], .closed 1),
    (["dev", "fd"], .link (rooted ["proc", "self", "fd"]))]

/-- The system's configuration. -/
def configuration : List (List String × Node) :=
  entries ["etc"] .file ["passwd", "group", "shadow", "gshadow", "hostname", "hosts",
    "resolv.conf", "os-release", "profile", "shells", "nsswitch.conf", "issue", "issue.net",
    "debian_version", "environment", "fstab", "host.conf", "login.defs", "mtab", "networks",
    "protocols", "services", "bash.bashrc", "gai.conf", "ld.so.cache", "ld.so.conf", "localtime",
    "subgid", "subuid", "xattr.conf", "adduser.conf", "deluser.conf", "e2scrub.conf",
    "mke2fs.conf", "pam.conf", "timezone", "inputrc", "machine-id", "motd", "ucf.conf"] ++
  entries ["etc"] .directory ["alternatives", "apt", "cron.d", "cron.daily", "default", "dpkg",
    "init.d", "kernel", "ld.so.conf.d", "logrotate.d", "opt", "pam.d", "profile.d", "rc0.d",
    "rc1.d", "rc2.d", "rc3.d", "rc4.d", "rc5.d", "rc6.d", "rcS.d", "security", "selinux", "skel",
    "ssl", "systemd", "terminfo", "update-motd.d"]

/-- The installed programs and libraries. -/
def programs : List (List String × Node) :=
  entries ["usr"] .directory ["bin", "games", "include", "lib", "lib64", "libexec", "local",
    "sbin", "share", "src"] ++
  entries ["usr", "bin"] .file ["env", "sh", "bash", "dash", "cat", "ls", "cp", "mv", "rm",
    "mkdir", "rmdir", "ln", "chmod", "chown", "chgrp", "echo", "true", "false", "grep", "egrep",
    "fgrep", "sed", "find", "xargs", "head", "tail", "sort", "uniq", "wc", "tr", "cut", "date",
    "sleep", "touch", "id", "whoami", "uname", "hostname", "tar", "gzip", "gunzip", "zcat",
    "perl", "dpkg", "apt", "apt-get", "awk", "mawk", "basename", "dirname", "expr", "test",
    "printf", "yes", "tee", "stat", "readlink", "realpath", "mktemp", "md5sum", "sha1sum",
    "sha256sum", "base64", "du", "df", "mount", "umount", "su", "passwd", "login", "kill",
    "nice", "nohup", "timeout", "tty", "stty", "seq", "split", "tac", "cksum", "comm", "join",
    "paste", "od", "fold", "install", "mknod", "mkfifo", "sync", "dd", "truncate", "which",
    "diff", "cmp", "getconf", "locale", "ldd", "iconv"] ++
  entries ["usr", "sbin"] .file ["ldconfig", "useradd", "userdel", "groupadd", "adduser",
    "nologin", "chroot"] ++
  entries ["usr", "lib"] .file ["os-release"] ++
  entries ["usr", "lib"] .directory ["x86_64-linux-gnu", "locale", "apt", "dpkg",
    "systemd", "terminfo", "mime", "ssl", "tmpfiles.d"] ++
  entries ["usr", "lib64"] .file ["ld-linux-x86-64.so.2"] ++
  entries ["usr", "local"] .directory ["bin", "etc", "games", "include", "lib", "man", "sbin",
    "share", "src"] ++
  entries ["usr", "share"] .directory ["doc", "man", "locale", "zoneinfo", "common-licenses",
    "info", "misc"]

/-- The variable data of the system. -/
def varData : List (List String × Node) :=
  entries ["var"] .directory ["backups", "cache", "lib", "local", "log", "mail", "opt", "spool",
    "tmp"] ++
  [(["var", "lock"], .link (rooted ["run", "lock"])), (["var", "run"], .link (rooted ["run"])),
    (["run", "lock"], .directory)]

/-- The entries of one process's directory in the process file system, with the
places its working directory and its root lead to. -/
def process (dir : List String) (cwd root : Option Place) : List (List String × Node) :=
  entries dir (.closed 2) ["attr", "fd", "fdinfo", "map_files", "net", "ns", "task"] ++
  entries dir .file ["arch_status", "autogroup", "auxv", "cgroup", "clear_refs", "cmdline",
    "comm", "coredump_filter", "cpuset", "environ", "exe", "gid_map", "io", "limits", "loginuid",
    "maps", "mem", "mountinfo", "mounts", "mountstats", "numa_maps", "oom_adj", "oom_score",
    "oom_score_adj", "pagemap", "personality", "projid_map", "sched", "schedstat", "sessionid",
    "setgroups", "smaps", "smaps_rollup", "stack", "stat", "statm", "status", "syscall",
    "timens_offsets", "timers", "timerslack_ns", "uid_map", "wchan"] ++
  entries (dir ++ ["fd"]) .file ["0", "1", "2"] ++
  (match cwd with
    | some p => [(dir ++ ["cwd"], .link p)]
    | none => []) ++
  (match root with
    | some p => [(dir ++ ["root"], .link p)]
    | none => [])

/-- The process file system: the kernel's reports, its tunables, and the
directories of the processes the server can see. -/
def processes : List (List String × Node) :=
  entries ["proc"] (.closed 2) ["acpi", "bus", "driver", "fs", "irq", "pressure", "sys",
    "sysvipc", "tty", "self", "thread-self", "1"] ++
  entries ["proc"] .file ["buddyinfo", "cgroups", "cmdline", "consoles", "cpuinfo", "crypto",
    "devices", "diskstats", "dma", "execdomains", "filesystems", "interrupts", "iomem",
    "ioports", "kallsyms", "kcore", "key-users", "keys", "kmsg", "kpagecgroup", "kpagecount",
    "kpageflags", "loadavg", "locks", "meminfo", "misc", "modules", "mounts", "mtrr",
    "pagetypeinfo", "partitions", "slabinfo", "softirqs", "stat", "swaps", "sysrq-trigger",
    "timer_list", "uptime", "version", "vmallocinfo", "vmstat", "zoneinfo"] ++
  [(["proc", "net"], .link (rooted ["proc", "self", "net"]))] ++
  entries ["proc", "sys"] (.closed 2) ["abi", "debug", "dev", "fs", "kernel", "net", "user",
    "vm"] ++
  process ["proc", "self"] (some ⟨false, []⟩) (some (rooted [])) ++
  process ["proc", "thread-self"] (some ⟨false, []⟩) (some (rooted [])) ++
  process ["proc", "1"] (some (rooted [])) (some (rooted []))

/-- The kernel's object file system. -/
def kernelObjects : List (List String × Node) :=
  entries ["sys"] (.closed 1) ["block", "bus", "class", "dev", "devices", "firmware", "fs",
    "hypervisor", "kernel", "module", "power"] ++
  entries ["sys", "kernel"] (.closed 1) ["mm", "debug", "security", "config", "tracing", "slab",
    "irq"] ++
  entries ["sys", "fs"] (.closed 1) ["cgroup", "bpf", "ext4", "fuse"] ++
  entries ["sys", "class"] (.closed 1) ["net", "tty", "block", "mem", "misc", "input"] ++
  entries ["sys", "devices"] (.closed 1) ["system", "virtual", "platform"] ++
  entries ["sys", "dev"] (.closed 1) ["block", "char"]

/-- Every standing entry of the machine below the root, by its components from
the root, each listed after the directories above it. -/
def layout : List (List String × Node) :=
  top ++ devices ++ configuration ++ programs ++ varData ++ processes ++ kernelObjects

/-- The machine from its root, as the layout puts it together. -/
def root : Entry :=
  layout.foldl (fun tree (path, node) => tree.put path node.entry) .empty

end Machine

end Drafting
