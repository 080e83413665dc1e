import GuidedExploration.SymbolicInput.Defaults

/-!
The built-in symbolic input of well-known programs, in listing order. Two programs are listed
twice; their first entries count.
-/

set_option autoImplicit false

namespace GuidedExploration.SymbolicInput

def builtinEntries : List (String × String) :=
  [("ls", "--sym-args 0 2 8 --sym-files 1 32"),
   ("touch", "--sym-args 0 2 8 --sym-files 1 16"),
   ("cp", "--sym-args 2 2 8 --sym-files 2 32"),
   ("du", "--sym-args 0 1 8 --sym-files 1 32"),
   ("stat", "--sym-args 1 1 8"),
   ("chmod", "--sym-args 2 2 8 --sym-files 1 16"),
   ("sort", "--sym-args 0 4 8 --sym-stdin 2048 --sym-files 2 4096 A B"),
   ("mv", "--sym-args 2 2 8 --sym-files 2 16"),
   ("ln", "--sym-args 2 2 8"),
   ("shred", "--sym-files 1 32 --sym-args 0 1 8"),
   ("wc", "--sym-args 0 6 10 --sym-stdin 4096 --sym-files 3 4096 A B C"),
   ("tail", "--sym-args 0 6 12 --sym-stdin 4096 --sym-files 3 4096 -- A B C"),
   ("grep", "--sym-args 0 4 8 --sym-files 2 32 A B"),
   ("mkdir", "--sym-args 1 2 8"),
   ("rm", "--sym-args 1 2 8 --sym-files 1 16"),
   ("rmdir", "--sym-args 1 2 8"),
   ("dd", "--sym-args 0 6 12 --sym-files 2 32 A B"),
   ("df", "--sym-args 0 2 8"),
   ("split", "--sym-args 0 4 8 --sym-files 1 64"),
   ("chown", "--sym-args 2 2 8 --sym-files 1 16"),
   ("chgrp", "--sym-args 2 2 8 --sym-files 1 16"),
   ("cat", "--sym-args 0 2 8 --sym-files 1 32"),
   ("head", "--sym-args 0 4 8 --sym-files 1 32"),
   ("tr", "--sym-args 0 2 8 --sym-stdin 1024"),
   ("cut", "--sym-args 0 4 8 --sym-files 1 32"),
   ("uniq", "--sym-args 0 2 8 --sym-files 1 32"),
   ("join", "--sym-args 0 2 8 --sym-files 2 32 A B"),
   ("paste", "--sym-args 0 2 8 --sym-files 2 32 A B"),
   ("comm", "--sym-args 0 2 8 --sym-files 2 32 A B"),
   ("diff", "--sym-args 0 2 8 --sym-files 2 32 A B"),
   ("cmp", "--sym-args 0 2 8 --sym-files 2 32 A B"),
   ("od", "--sym-args 0 4 8 --sym-files 1 32"),
   ("hexdump", "--sym-args 0 4 8 --sym-files 1 32"),
   ("base64", "--sym-args 0 2 8 --sym-files 1 32"),
   ("truncate", "--sym-args 1 2 8 --sym-files 1 16"),
   ("yes", "--sym-args 0 1 8"),
   ("seq", "--sym-args 0 3 8"),
   ("factor", "--sym-args 0 1 8"),
   ("pr", "--sym-args 0 4 8 --sym-files 1 32"),
   ("fold", "--sym-args 0 2 8 --sym-files 1 32"),
   ("fmt", "--sym-args 0 2 8 --sym-files 1 32"),
   ("expand", "--sym-args 0 2 8 --sym-files 1 32"),
   ("unexpand", "--sym-args 0 2 8 --sym-files 1 32"),
   ("nl", "--sym-args 0 2 8 --sym-files 1 32"),
   ("csplit", "--sym-args 1 2 8 --sym-files 1 32"),
   ("tac", "--sym-args 0 2 8 --sym-files 1 32"),
   ("rev", "--sym-args 0 2 8 --sym-files 1 32"),
   ("shuf", "--sym-args 0 2 8 --sym-files 1 32"),
   ("sum", "--sym-args 0 2 8 --sym-files 1 32"),
   ("cksum", "--sym-args 0 2 8 --sym-files 1 32"),
   ("md5sum", "--sym-args 0 2 8 --sym-files 1 32"),
   ("sha1sum", "--sym-args 0 2 8 --sym-files 1 32"),
   ("sha224sum", "--sym-args 0 2 8 --sym-files 1 32"),
   ("sha256sum", "--sym-args 0 2 8 --sym-files 1 32"),
   ("sha384sum", "--sym-args 0 2 8 --sym-files 1 32"),
   ("sha512sum", "--sym-args 0 2 8 --sym-files 1 32"),
   ("b2sum", "--sym-args 0 2 8 --sym-files 1 32"),
   ("basename", "--sym-args 1 2 8"),
   ("dirname", "--sym-args 1 2 8"),
   ("pathchk", "--sym-args 1 2 8"),
   ("mktemp", "--sym-args 0 2 8"),
   ("realpath", "--sym-args 1 2 8"),
   ("readlink", "--sym-args 1 2 8"),
   ("link", "--sym-args 2 2 8"),
   ("unlink", "--sym-args 1 1 8"),
   ("hostid", "--sym-args 0 0 0"),
   ("nproc", "--sym-args 0 1 8"),
   ("whoami", "--sym-args 0 0 0"),
   ("id", "--sym-args 0 2 8"),
   ("logname", "--sym-args 0 0 0"),
   ("groups", "--sym-args 0 0 0"),
   ("users", "--sym-args 0 0 0"),
   ("who", "--sym-args 0 2 8"),
   ("uptime", "--sym-args 0 0 0"),
   ("date", "--sym-args 0 2 8"),
   ("arch", "--sym-args 0 0 0"),
   ("uname", "--sym-args 0 2 8"),
   ("hostname", "--sym-args 0 1 8"),
   ("dircolors", "--sym-args 0 1 8"),
   ("tty", "--sym-args 0 0 0"),
   ("pwd", "--sym-args 0 0 0"),
   ("stty", "--sym-args 0 2 8"),
   ("printenv", "--sym-args 0 1 8"),
   ("env", "--sym-args 0 2 8"),
   ("nice", "--sym-args 1 2 8 --sym-files 1 16"),
   ("nohup", "--sym-args 1 2 8 --sym-files 1 16"),
   ("timeout", "--sym-args 1 2 8 --sym-files 1 16"),
   ("stdbuf", "--sym-args 1 2 8 --sym-files 1 16"),
   ("runcon", "--sym-args 1 2 8 --sym-files 1 16"),
   ("chroot", "--sym-args 1 2 8 --sym-files 1 16"),
   ("chcon", "--sym-args 1 2 8 --sym-files 1 16"),
   ("getfacl", "--sym-args 0 2 8 --sym-files 1 16"),
   ("setfacl", "--sym-args 1 2 8 --sym-files 1 16"),
   ("chacl", "--sym-args 1 2 8 --sym-files 1 16"),
   ("install", "--sym-args 2 4 8 --sym-files 2 32 A B"),
   ("mknod", "--sym-args 2 3 8"),
   ("mkfifo", "--sym-args 1 2 8"),
   ("mkswap", "--sym-args 1 2 8"),
   ("swapon", "--sym-args 0 2 8"),
   ("swapoff", "--sym-args 0 2 8"),
   ("sync", "--sym-args 0 0 0"),
   ("fsync", "--sym-args 0 0 0"),
   ("fdatasync", "--sym-args 0 0 0"),
   ("mount", "--sym-args 0 4 8"),
   ("umount", "--sym-args 0 2 8"),
   ("du", "--sym-args 0 2 8 --sym-files 1 32"),
   ("stat", "--sym-args 1 2 8"),
   ("dir", "--sym-args 0 2 8 --sym-files 1 32"),
   ("vdir", "--sym-args 0 2 8 --sym-files 1 32"),
   ("egrep", "--sym-args 0 4 8 --sym-files 2 32 A B"),
   ("fgrep", "--sym-args 0 4 8 --sym-files 2 32 A B"),
   ("test", "--sym-args 1 3 8"),
   ("true", "--sym-args 0 0 0"),
   ("false", "--sym-args 0 0 0"),
   ("echo", "--sym-args 0 2 8"),
   ("printf", "--sym-args 0 2 8"),
   ("sleep", "--sym-args 1 1 8"),
   ("kill", "--sym-args 1 2 8"),
   ("killall", "--sym-args 1 2 8"),
   ("pkill", "--sym-args 1 2 8"),
   ("ps", "--sym-args 0 2 8"),
   ("pgrep", "--sym-args 1 2 8"),
   ("pstree", "--sym-args 0 2 8"),
   ("top", "--sym-args 0 2 8"),
   ("htop", "--sym-args 0 2 8"),
   ("free", "--sym-args 0 2 8"),
   ("vmstat", "--sym-args 0 2 8"),
   ("iostat", "--sym-args 0 2 8"),
   ("sar", "--sym-args 0 2 8"),
   ("mpstat", "--sym-args 0 2 8"),
   ("pidstat", "--sym-args 0 2 8"),
   ("lscpu", "--sym-args 0 2 8"),
   ("lsmem", "--sym-args 0 2 8"),
   ("lsblk", "--sym-args 0 2 8"),
   ("lsusb", "--sym-args 0 2 8"),
   ("lspci", "--sym-args 0 2 8"),
   ("lsmod", "--sym-args 0 2 8"),
   ("modinfo", "--sym-args 1 2 8"),
   ("modprobe", "--sym-args 1 2 8"),
   ("rmmod", "--sym-args 1 2 8"),
   ("insmod", "--sym-args 1 2 8"),
   ("depmod", "--sym-args 0 2 8"),
   ("lsdev", "--sym-args 0 2 8"),
   ("lsattr", "--sym-args 0 2 8 --sym-files 1 16"),
   ("chattr", "--sym-args 1 2 8 --sym-files 1 16"),
   ("getfattr", "--sym-args 0 2 8 --sym-files 1 16"),
   ("setfattr", "--sym-args 1 2 8 --sym-files 1 16"),
   ("getcap", "--sym-args 0 2 8 --sym-files 1 16"),
   ("setcap", "--sym-args 1 2 8 --sym-files 1 16"),
   ("getsebool", "--sym-args 0 2 8"),
   ("setsebool", "--sym-args 1 2 8"),
   ("sestatus", "--sym-args 0 2 8"),
   ("semanage", "--sym-args 1 2 8"),
   ("restorecon", "--sym-args 0 2 8 --sym-files 1 16"),
   ("fixfiles", "--sym-args 0 2 8 --sym-files 1 16"),
   ("auditctl", "--sym-args 1 2 8"),
   ("ausearch", "--sym-args 0 2 8"),
   ("aureport", "--sym-args 0 2 8"),
   ("autrace", "--sym-args 1 2 8"),
   ("auparse", "--sym-args 0 2 8"),
   ("ausyscall", "--sym-args 0 2 8"),
   ("aulast", "--sym-args 0 2 8"),
   ("aulastlog", "--sym-args 0 2 8")]

def builtin : DefaultsTable := (DefaultsTable.build builtinEntries).1

end GuidedExploration.SymbolicInput
