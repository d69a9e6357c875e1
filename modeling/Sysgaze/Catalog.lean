import Mathlib.Tactic.Common
import Sysgaze.Event
import Sysgaze.Filter

/-! # The catalog of system calls (`syscall_catalog.h`, `syscall_catalog.c`)

    What is known about each system call of x86-64: its number and name, how
    many arguments it has and how they are rendered, and the classes it
    belongs to.  The table is `syscall_catalog.inc`, in its order.
-/

namespace Sysgaze

/-- The bytes of a string constant of the source. -/
def cstr (text : String) : Text := text.toUTF8.data.toList

/-- `enum sg_argument_kind`. -/
inductive ArgumentKind where
  | ARG_HEX
  | ARG_S32
  | ARG_U64
  | ARG_SIZE
  | ARG_FD
  | ARG_DIRFD
  | ARG_POINTER
  | ARG_STRING
  | ARG_STRING_OUT
  | ARG_BUFFER_IN
  | ARG_BUFFER_OUT
  | ARG_ARGV
  | ARG_MODE
  | ARG_OPEN_FLAGS
  | ARG_FD_FLAGS
  | ARG_PROT_FLAGS
  | ARG_MAP_FLAGS
  | ARG_CLONE_FLAGS
  | ARG_ACCESS_FLAGS
  | ARG_AT_FLAGS
  | ARG_SOCKET_DOMAIN
  | ARG_SOCKET_TYPE
  | ARG_SIGNAL
  | ARG_SIGMASK_HOW
  | ARG_SHUTDOWN_HOW
  | ARG_FCNTL_COMMAND
  | ARG_EPOLL_OPERATION
  | ARG_WHENCE
  | ARG_SOCKADDR_IN
  | ARG_TIMESPEC_IN
  | ARG_PIPE_OUT
  | ARG_UTS_OUT
  deriving DecidableEq, Repr

/-- `enum sg_result_kind`. -/
inductive ResultKind where
  | RESULT_INTEGER
  | RESULT_POINTER
  deriving DecidableEq, Repr

abbrev SG_CLASS_FILE : UInt32 := 1
abbrev SG_CLASS_PROCESS : UInt32 := 2
abbrev SG_CLASS_MEMORY : UInt32 := 4
abbrev SG_CLASS_NETWORK : UInt32 := 8
abbrev SG_CLASS_SIGNAL : UInt32 := 16
abbrev SG_CLASS_IPC : UInt32 := 32

/-- `struct sg_argument_spec`. -/
structure ArgumentSpec where
  kind : ArgumentKind
  auxiliary : Nat
  deriving DecidableEq, Repr

/-- `struct sg_syscall_descriptor`. -/
structure SyscallDescriptor where
  number : Int
  name : Text
  arity : Nat
  classes : UInt32
  result_kind : ResultKind
  arguments : Vector ArgumentSpec 6
  deriving DecidableEq, Repr

/-- The macro `ARG`. -/
def ARG (kind_value : ArgumentKind) : ArgumentSpec := ⟨kind_value, 0⟩

/-- The macro `ARG_AUX`. -/
def ARG_AUX (kind_value : ArgumentKind) (auxiliary_value : Nat) : ArgumentSpec :=
  ⟨kind_value, auxiliary_value⟩

/-- The macro `SYSCALL`; the arguments that are not given are zero. -/
def SYSCALL (syscall_number : Int) (syscall_name : String) (abi_arity : Nat)
    (class_mask : UInt32) (result : ResultKind) (arguments : List ArgumentSpec) :
    SyscallDescriptor where
  number := syscall_number
  name := cstr syscall_name
  arity := abi_arity
  classes := class_mask
  result_kind := result
  arguments := Vector.ofFn fun index => arguments.getD index (ARG .ARG_HEX)

/-- `syscalls`. -/
def syscalls : List SyscallDescriptor := [
  SYSCALL 0 "read" 3 SG_CLASS_FILE .RESULT_INTEGER
    [ARG .ARG_FD, ARG_AUX .ARG_BUFFER_OUT 2, ARG .ARG_SIZE],
  SYSCALL 1 "write" 3 SG_CLASS_FILE .RESULT_INTEGER
    [ARG .ARG_FD, ARG_AUX .ARG_BUFFER_IN 2, ARG .ARG_SIZE],
  SYSCALL 2 "open" 3 0 .RESULT_INTEGER [ARG .ARG_STRING, ARG .ARG_OPEN_FLAGS, ARG .ARG_MODE],
  SYSCALL 3 "close" 1 SG_CLASS_FILE .RESULT_INTEGER [ARG .ARG_FD],
  SYSCALL 4 "stat" 2 0 .RESULT_INTEGER [ARG .ARG_STRING, ARG .ARG_POINTER],
  SYSCALL 5 "fstat" 2 0 .RESULT_INTEGER [ARG .ARG_FD, ARG .ARG_POINTER],
  SYSCALL 6 "lstat" 2 0 .RESULT_INTEGER [ARG .ARG_STRING, ARG .ARG_POINTER],
  SYSCALL 7 "poll" 3 0 .RESULT_INTEGER [ARG .ARG_POINTER, ARG .ARG_U64, ARG .ARG_S32],
  SYSCALL 8 "lseek" 3 SG_CLASS_FILE .RESULT_INTEGER [ARG .ARG_FD, ARG .ARG_U64, ARG .ARG_WHENCE],
  SYSCALL 9 "mmap" 6 SG_CLASS_MEMORY .RESULT_POINTER
    [ARG .ARG_POINTER, ARG .ARG_SIZE, ARG .ARG_PROT_FLAGS, ARG .ARG_MAP_FLAGS, ARG .ARG_FD,
      ARG .ARG_U64],
  SYSCALL 10 "mprotect" 3 SG_CLASS_MEMORY .RESULT_INTEGER
    [ARG .ARG_POINTER, ARG .ARG_SIZE, ARG .ARG_PROT_FLAGS],
  SYSCALL 11 "munmap" 2 SG_CLASS_MEMORY .RESULT_INTEGER [ARG .ARG_POINTER, ARG .ARG_SIZE],
  SYSCALL 12 "brk" 1 SG_CLASS_MEMORY .RESULT_POINTER [ARG .ARG_POINTER],
  SYSCALL 13 "rt_sigaction" 4 SG_CLASS_SIGNAL .RESULT_INTEGER
    [ARG .ARG_SIGNAL, ARG .ARG_POINTER, ARG .ARG_POINTER, ARG .ARG_SIZE],
  SYSCALL 14 "rt_sigprocmask" 4 SG_CLASS_SIGNAL .RESULT_INTEGER
    [ARG .ARG_SIGMASK_HOW, ARG .ARG_POINTER, ARG .ARG_POINTER, ARG .ARG_SIZE],
  SYSCALL 15 "rt_sigreturn" 0 SG_CLASS_SIGNAL .RESULT_INTEGER [],
  SYSCALL 16 "ioctl" 3 SG_CLASS_FILE .RESULT_INTEGER [ARG .ARG_FD, ARG .ARG_HEX, ARG .ARG_POINTER],
  SYSCALL 17 "pread64" 4 SG_CLASS_FILE .RESULT_INTEGER
    [ARG .ARG_FD, ARG_AUX .ARG_BUFFER_OUT 2, ARG .ARG_SIZE, ARG .ARG_U64],
  SYSCALL 18 "pwrite64" 4 SG_CLASS_FILE .RESULT_INTEGER
    [ARG .ARG_FD, ARG_AUX .ARG_BUFFER_IN 2, ARG .ARG_SIZE, ARG .ARG_U64],
  SYSCALL 19 "readv" 3 SG_CLASS_FILE .RESULT_INTEGER [ARG .ARG_FD, ARG .ARG_POINTER, ARG .ARG_U64],
  SYSCALL 20 "writev" 3 SG_CLASS_FILE .RESULT_INTEGER
    [ARG .ARG_FD, ARG .ARG_POINTER, ARG .ARG_U64],
  SYSCALL 21 "access" 2 SG_CLASS_FILE .RESULT_INTEGER [ARG .ARG_STRING, ARG .ARG_ACCESS_FLAGS],
  SYSCALL 22 "pipe" 1 (SG_CLASS_FILE ||| SG_CLASS_IPC) .RESULT_INTEGER [ARG .ARG_PIPE_OUT],
  SYSCALL 23 "select" 5 SG_CLASS_FILE .RESULT_INTEGER
    [ARG .ARG_S32, ARG .ARG_POINTER, ARG .ARG_POINTER, ARG .ARG_POINTER, ARG .ARG_POINTER],
  SYSCALL 24 "sched_yield" 0 SG_CLASS_PROCESS .RESULT_INTEGER [],
  SYSCALL 25 "mremap" 5 SG_CLASS_MEMORY .RESULT_POINTER
    [ARG .ARG_POINTER, ARG .ARG_SIZE, ARG .ARG_SIZE, ARG .ARG_HEX, ARG .ARG_POINTER],
  SYSCALL 26 "msync" 3 SG_CLASS_MEMORY .RESULT_INTEGER
    [ARG .ARG_POINTER, ARG .ARG_SIZE, ARG .ARG_HEX],
  SYSCALL 27 "mincore" 3 SG_CLASS_MEMORY .RESULT_INTEGER
    [ARG .ARG_POINTER, ARG .ARG_SIZE, ARG .ARG_POINTER],
  SYSCALL 28 "madvise" 3 SG_CLASS_MEMORY .RESULT_INTEGER
    [ARG .ARG_POINTER, ARG .ARG_SIZE, ARG .ARG_S32],
  SYSCALL 29 "shmget" 3 (SG_CLASS_MEMORY ||| SG_CLASS_IPC) .RESULT_INTEGER [],
  SYSCALL 30 "shmat" 3 (SG_CLASS_MEMORY ||| SG_CLASS_IPC) .RESULT_INTEGER [],
  SYSCALL 31 "shmctl" 3 (SG_CLASS_MEMORY ||| SG_CLASS_IPC) .RESULT_INTEGER [],
  SYSCALL 32 "dup" 1 SG_CLASS_FILE .RESULT_INTEGER [ARG .ARG_FD],
  SYSCALL 33 "dup2" 2 SG_CLASS_FILE .RESULT_INTEGER [ARG .ARG_FD, ARG .ARG_FD],
  SYSCALL 34 "pause" 0 0 .RESULT_INTEGER [],
  SYSCALL 35 "nanosleep" 2 SG_CLASS_PROCESS .RESULT_INTEGER
    [ARG .ARG_TIMESPEC_IN, ARG .ARG_POINTER],
  SYSCALL 36 "getitimer" 2 0 .RESULT_INTEGER [],
  SYSCALL 37 "alarm" 1 0 .RESULT_INTEGER [],
  SYSCALL 38 "setitimer" 3 0 .RESULT_INTEGER [],
  SYSCALL 39 "getpid" 0 SG_CLASS_PROCESS .RESULT_INTEGER [],
  SYSCALL 40 "sendfile" 4 0 .RESULT_INTEGER
    [ARG .ARG_FD, ARG .ARG_FD, ARG .ARG_POINTER, ARG .ARG_SIZE],
  SYSCALL 41 "socket" 3 SG_CLASS_NETWORK .RESULT_INTEGER
    [ARG .ARG_SOCKET_DOMAIN, ARG .ARG_SOCKET_TYPE, ARG .ARG_S32],
  SYSCALL 42 "connect" 3 SG_CLASS_NETWORK .RESULT_INTEGER
    [ARG .ARG_FD, ARG_AUX .ARG_SOCKADDR_IN 2, ARG .ARG_SIZE],
  SYSCALL 43 "accept" 3 SG_CLASS_NETWORK .RESULT_INTEGER
    [ARG .ARG_FD, ARG .ARG_POINTER, ARG .ARG_POINTER],
  SYSCALL 44 "sendto" 6 SG_CLASS_NETWORK .RESULT_INTEGER
    [ARG .ARG_FD, ARG_AUX .ARG_BUFFER_IN 2, ARG .ARG_SIZE, ARG .ARG_HEX,
      ARG_AUX .ARG_SOCKADDR_IN 5, ARG .ARG_SIZE],
  SYSCALL 45 "recvfrom" 6 SG_CLASS_NETWORK .RESULT_INTEGER
    [ARG .ARG_FD, ARG_AUX .ARG_BUFFER_OUT 2, ARG .ARG_SIZE, ARG .ARG_HEX, ARG .ARG_POINTER,
      ARG .ARG_POINTER],
  SYSCALL 46 "sendmsg" 3 SG_CLASS_NETWORK .RESULT_INTEGER
    [ARG .ARG_FD, ARG .ARG_POINTER, ARG .ARG_HEX],
  SYSCALL 47 "recvmsg" 3 SG_CLASS_NETWORK .RESULT_INTEGER
    [ARG .ARG_FD, ARG .ARG_POINTER, ARG .ARG_HEX],
  SYSCALL 48 "shutdown" 2 SG_CLASS_NETWORK .RESULT_INTEGER [ARG .ARG_FD, ARG .ARG_SHUTDOWN_HOW],
  SYSCALL 49 "bind" 3 SG_CLASS_NETWORK .RESULT_INTEGER
    [ARG .ARG_FD, ARG_AUX .ARG_SOCKADDR_IN 2, ARG .ARG_SIZE],
  SYSCALL 50 "listen" 2 SG_CLASS_NETWORK .RESULT_INTEGER [ARG .ARG_FD, ARG .ARG_S32],
  SYSCALL 51 "getsockname" 3 SG_CLASS_NETWORK .RESULT_INTEGER
    [ARG .ARG_FD, ARG .ARG_POINTER, ARG .ARG_POINTER],
  SYSCALL 52 "getpeername" 3 SG_CLASS_NETWORK .RESULT_INTEGER
    [ARG .ARG_FD, ARG .ARG_POINTER, ARG .ARG_POINTER],
  SYSCALL 53 "socketpair" 4 (SG_CLASS_NETWORK ||| SG_CLASS_IPC) .RESULT_INTEGER
    [ARG .ARG_SOCKET_DOMAIN, ARG .ARG_SOCKET_TYPE, ARG .ARG_S32, ARG .ARG_PIPE_OUT],
  SYSCALL 54 "setsockopt" 5 SG_CLASS_NETWORK .RESULT_INTEGER
    [ARG .ARG_FD, ARG .ARG_S32, ARG .ARG_S32, ARG .ARG_POINTER, ARG .ARG_SIZE],
  SYSCALL 55 "getsockopt" 5 SG_CLASS_NETWORK .RESULT_INTEGER
    [ARG .ARG_FD, ARG .ARG_S32, ARG .ARG_S32, ARG .ARG_POINTER, ARG .ARG_POINTER],
  SYSCALL 56 "clone" 5 SG_CLASS_PROCESS .RESULT_INTEGER
    [ARG .ARG_CLONE_FLAGS, ARG .ARG_POINTER, ARG .ARG_POINTER, ARG .ARG_POINTER, ARG .ARG_HEX],
  SYSCALL 57 "fork" 0 SG_CLASS_PROCESS .RESULT_INTEGER [],
  SYSCALL 58 "vfork" 0 SG_CLASS_PROCESS .RESULT_INTEGER [],
  SYSCALL 59 "execve" 3 (SG_CLASS_PROCESS ||| SG_CLASS_FILE) .RESULT_INTEGER
    [ARG .ARG_STRING, ARG .ARG_ARGV, ARG .ARG_POINTER],
  SYSCALL 60 "exit" 1 SG_CLASS_PROCESS .RESULT_INTEGER [ARG .ARG_S32],
  SYSCALL 61 "wait4" 4 SG_CLASS_PROCESS .RESULT_INTEGER
    [ARG .ARG_S32, ARG .ARG_POINTER, ARG .ARG_HEX, ARG .ARG_POINTER],
  SYSCALL 62 "kill" 2 (SG_CLASS_SIGNAL ||| SG_CLASS_PROCESS) .RESULT_INTEGER
    [ARG .ARG_S32, ARG .ARG_SIGNAL],
  SYSCALL 63 "uname" 1 SG_CLASS_PROCESS .RESULT_INTEGER [ARG .ARG_UTS_OUT],
  SYSCALL 64 "semget" 3 0 .RESULT_INTEGER [],
  SYSCALL 65 "semop" 3 0 .RESULT_INTEGER [],
  SYSCALL 66 "semctl" 4 0 .RESULT_INTEGER [],
  SYSCALL 67 "shmdt" 1 0 .RESULT_INTEGER [],
  SYSCALL 68 "msgget" 2 0 .RESULT_INTEGER [],
  SYSCALL 69 "msgsnd" 4 0 .RESULT_INTEGER [],
  SYSCALL 70 "msgrcv" 5 0 .RESULT_INTEGER [],
  SYSCALL 71 "msgctl" 3 0 .RESULT_INTEGER [],
  SYSCALL 72 "fcntl" 3 SG_CLASS_FILE .RESULT_INTEGER
    [ARG .ARG_FD, ARG .ARG_FCNTL_COMMAND, ARG .ARG_HEX],
  SYSCALL 73 "flock" 2 0 .RESULT_INTEGER [],
  SYSCALL 74 "fsync" 1 SG_CLASS_FILE .RESULT_INTEGER [ARG .ARG_FD],
  SYSCALL 75 "fdatasync" 1 SG_CLASS_FILE .RESULT_INTEGER [ARG .ARG_FD],
  SYSCALL 76 "truncate" 2 SG_CLASS_FILE .RESULT_INTEGER [ARG .ARG_STRING, ARG .ARG_U64],
  SYSCALL 77 "ftruncate" 2 SG_CLASS_FILE .RESULT_INTEGER [ARG .ARG_FD, ARG .ARG_U64],
  SYSCALL 78 "getdents" 3 SG_CLASS_FILE .RESULT_INTEGER
    [ARG .ARG_FD, ARG .ARG_POINTER, ARG .ARG_SIZE],
  SYSCALL 79 "getcwd" 2 SG_CLASS_FILE .RESULT_INTEGER [ARG_AUX .ARG_STRING_OUT 1, ARG .ARG_SIZE],
  SYSCALL 80 "chdir" 1 SG_CLASS_FILE .RESULT_INTEGER [ARG .ARG_STRING],
  SYSCALL 81 "fchdir" 1 0 .RESULT_INTEGER [],
  SYSCALL 82 "rename" 2 SG_CLASS_FILE .RESULT_INTEGER [ARG .ARG_STRING, ARG .ARG_STRING],
  SYSCALL 83 "mkdir" 2 SG_CLASS_FILE .RESULT_INTEGER [ARG .ARG_STRING, ARG .ARG_MODE],
  SYSCALL 84 "rmdir" 1 SG_CLASS_FILE .RESULT_INTEGER [ARG .ARG_STRING],
  SYSCALL 85 "creat" 2 SG_CLASS_FILE .RESULT_INTEGER [ARG .ARG_STRING, ARG .ARG_MODE],
  SYSCALL 86 "link" 2 SG_CLASS_FILE .RESULT_INTEGER [ARG .ARG_STRING, ARG .ARG_STRING],
  SYSCALL 87 "unlink" 1 SG_CLASS_FILE .RESULT_INTEGER [ARG .ARG_STRING],
  SYSCALL 88 "symlink" 2 SG_CLASS_FILE .RESULT_INTEGER [ARG .ARG_STRING, ARG .ARG_STRING],
  SYSCALL 89 "readlink" 3 SG_CLASS_FILE .RESULT_INTEGER
    [ARG .ARG_STRING, ARG_AUX .ARG_BUFFER_OUT 2, ARG .ARG_SIZE],
  SYSCALL 90 "chmod" 2 SG_CLASS_FILE .RESULT_INTEGER [ARG .ARG_STRING, ARG .ARG_MODE],
  SYSCALL 91 "fchmod" 2 SG_CLASS_FILE .RESULT_INTEGER [ARG .ARG_FD, ARG .ARG_MODE],
  SYSCALL 92 "chown" 3 SG_CLASS_FILE .RESULT_INTEGER [ARG .ARG_STRING, ARG .ARG_U64, ARG .ARG_U64],
  SYSCALL 93 "fchown" 3 SG_CLASS_FILE .RESULT_INTEGER [ARG .ARG_FD, ARG .ARG_U64, ARG .ARG_U64],
  SYSCALL 94 "lchown" 3 0 .RESULT_INTEGER [],
  SYSCALL 95 "umask" 1 0 .RESULT_INTEGER [],
  SYSCALL 96 "gettimeofday" 2 SG_CLASS_PROCESS .RESULT_INTEGER [],
  SYSCALL 97 "getrlimit" 2 0 .RESULT_INTEGER [],
  SYSCALL 98 "getrusage" 2 0 .RESULT_INTEGER [],
  SYSCALL 99 "sysinfo" 1 0 .RESULT_INTEGER [],
  SYSCALL 100 "times" 1 0 .RESULT_INTEGER [],
  SYSCALL 101 "ptrace" 4 0 .RESULT_INTEGER [],
  SYSCALL 102 "getuid" 0 SG_CLASS_PROCESS .RESULT_INTEGER [],
  SYSCALL 103 "syslog" 3 0 .RESULT_INTEGER [],
  SYSCALL 104 "getgid" 0 SG_CLASS_PROCESS .RESULT_INTEGER [],
  SYSCALL 105 "setuid" 1 0 .RESULT_INTEGER [],
  SYSCALL 106 "setgid" 1 0 .RESULT_INTEGER [],
  SYSCALL 107 "geteuid" 0 SG_CLASS_PROCESS .RESULT_INTEGER [],
  SYSCALL 108 "getegid" 0 SG_CLASS_PROCESS .RESULT_INTEGER [],
  SYSCALL 109 "setpgid" 2 0 .RESULT_INTEGER [],
  SYSCALL 110 "getppid" 0 SG_CLASS_PROCESS .RESULT_INTEGER [],
  SYSCALL 111 "getpgrp" 0 0 .RESULT_INTEGER [],
  SYSCALL 112 "setsid" 0 SG_CLASS_PROCESS .RESULT_INTEGER [],
  SYSCALL 113 "setreuid" 2 0 .RESULT_INTEGER [],
  SYSCALL 114 "setregid" 2 0 .RESULT_INTEGER [],
  SYSCALL 115 "getgroups" 2 0 .RESULT_INTEGER [],
  SYSCALL 116 "setgroups" 2 0 .RESULT_INTEGER [],
  SYSCALL 117 "setresuid" 3 0 .RESULT_INTEGER [],
  SYSCALL 118 "getresuid" 3 0 .RESULT_INTEGER [],
  SYSCALL 119 "setresgid" 3 0 .RESULT_INTEGER [],
  SYSCALL 120 "getresgid" 3 0 .RESULT_INTEGER [],
  SYSCALL 121 "getpgid" 1 0 .RESULT_INTEGER [],
  SYSCALL 122 "setfsuid" 1 0 .RESULT_INTEGER [],
  SYSCALL 123 "setfsgid" 1 0 .RESULT_INTEGER [],
  SYSCALL 124 "getsid" 1 0 .RESULT_INTEGER [],
  SYSCALL 125 "capget" 2 0 .RESULT_INTEGER [],
  SYSCALL 126 "capset" 2 0 .RESULT_INTEGER [],
  SYSCALL 127 "rt_sigpending" 2 0 .RESULT_INTEGER [],
  SYSCALL 128 "rt_sigtimedwait" 4 0 .RESULT_INTEGER [],
  SYSCALL 129 "rt_sigqueueinfo" 3 0 .RESULT_INTEGER [],
  SYSCALL 130 "rt_sigsuspend" 2 0 .RESULT_INTEGER [],
  SYSCALL 131 "sigaltstack" 2 SG_CLASS_SIGNAL .RESULT_INTEGER [ARG .ARG_POINTER, ARG .ARG_POINTER],
  SYSCALL 132 "utime" 2 0 .RESULT_INTEGER [],
  SYSCALL 133 "mknod" 3 0 .RESULT_INTEGER [],
  SYSCALL 134 "uselib" 1 0 .RESULT_INTEGER [],
  SYSCALL 135 "personality" 1 0 .RESULT_INTEGER [],
  SYSCALL 136 "ustat" 2 0 .RESULT_INTEGER [],
  SYSCALL 137 "statfs" 2 0 .RESULT_INTEGER [],
  SYSCALL 138 "fstatfs" 2 0 .RESULT_INTEGER [],
  SYSCALL 139 "sysfs" 3 0 .RESULT_INTEGER [],
  SYSCALL 140 "getpriority" 2 0 .RESULT_INTEGER [],
  SYSCALL 141 "setpriority" 3 0 .RESULT_INTEGER [],
  SYSCALL 142 "sched_setparam" 2 0 .RESULT_INTEGER [],
  SYSCALL 143 "sched_getparam" 2 0 .RESULT_INTEGER [],
  SYSCALL 144 "sched_setscheduler" 3 0 .RESULT_INTEGER [],
  SYSCALL 145 "sched_getscheduler" 1 0 .RESULT_INTEGER [],
  SYSCALL 146 "sched_get_priority_max" 1 0 .RESULT_INTEGER [],
  SYSCALL 147 "sched_get_priority_min" 1 0 .RESULT_INTEGER [],
  SYSCALL 148 "sched_rr_get_interval" 2 0 .RESULT_INTEGER [],
  SYSCALL 149 "mlock" 2 0 .RESULT_INTEGER [],
  SYSCALL 150 "munlock" 2 0 .RESULT_INTEGER [],
  SYSCALL 151 "mlockall" 1 0 .RESULT_INTEGER [],
  SYSCALL 152 "munlockall" 0 0 .RESULT_INTEGER [],
  SYSCALL 153 "vhangup" 0 0 .RESULT_INTEGER [],
  SYSCALL 154 "modify_ldt" 3 0 .RESULT_INTEGER [],
  SYSCALL 155 "pivot_root" 2 0 .RESULT_INTEGER [],
  SYSCALL 156 "_sysctl" 1 0 .RESULT_INTEGER [],
  SYSCALL 157 "prctl" 5 0 .RESULT_INTEGER [],
  SYSCALL 158 "arch_prctl" 2 SG_CLASS_PROCESS .RESULT_INTEGER [ARG .ARG_S32, ARG .ARG_POINTER],
  SYSCALL 159 "adjtimex" 1 0 .RESULT_INTEGER [],
  SYSCALL 160 "setrlimit" 2 0 .RESULT_INTEGER [],
  SYSCALL 161 "chroot" 1 0 .RESULT_INTEGER [],
  SYSCALL 162 "sync" 0 0 .RESULT_INTEGER [],
  SYSCALL 163 "acct" 1 0 .RESULT_INTEGER [],
  SYSCALL 164 "settimeofday" 2 0 .RESULT_INTEGER [],
  SYSCALL 165 "mount" 5 0 .RESULT_INTEGER [],
  SYSCALL 166 "umount2" 2 0 .RESULT_INTEGER [],
  SYSCALL 167 "swapon" 2 0 .RESULT_INTEGER [],
  SYSCALL 168 "swapoff" 1 0 .RESULT_INTEGER [],
  SYSCALL 169 "reboot" 4 0 .RESULT_INTEGER [],
  SYSCALL 170 "sethostname" 2 0 .RESULT_INTEGER [],
  SYSCALL 171 "setdomainname" 2 0 .RESULT_INTEGER [],
  SYSCALL 172 "iopl" 1 0 .RESULT_INTEGER [],
  SYSCALL 173 "ioperm" 3 0 .RESULT_INTEGER [],
  SYSCALL 174 "create_module" 2 0 .RESULT_INTEGER [],
  SYSCALL 175 "init_module" 3 0 .RESULT_INTEGER [],
  SYSCALL 176 "delete_module" 2 0 .RESULT_INTEGER [],
  SYSCALL 177 "get_kernel_syms" 1 0 .RESULT_INTEGER [],
  SYSCALL 178 "query_module" 5 0 .RESULT_INTEGER [],
  SYSCALL 179 "quotactl" 4 0 .RESULT_INTEGER [],
  SYSCALL 180 "nfsservctl" 3 0 .RESULT_INTEGER [],
  SYSCALL 181 "getpmsg" 5 0 .RESULT_INTEGER [],
  SYSCALL 182 "putpmsg" 5 0 .RESULT_INTEGER [],
  SYSCALL 183 "afs_syscall" 5 0 .RESULT_INTEGER [],
  SYSCALL 184 "tuxcall" 1 0 .RESULT_INTEGER [],
  SYSCALL 185 "security" 3 0 .RESULT_INTEGER [],
  SYSCALL 186 "gettid" 0 0 .RESULT_INTEGER [],
  SYSCALL 187 "readahead" 3 0 .RESULT_INTEGER [],
  SYSCALL 188 "setxattr" 5 0 .RESULT_INTEGER [],
  SYSCALL 189 "lsetxattr" 5 0 .RESULT_INTEGER [],
  SYSCALL 190 "fsetxattr" 5 0 .RESULT_INTEGER [],
  SYSCALL 191 "getxattr" 4 0 .RESULT_INTEGER [],
  SYSCALL 192 "lgetxattr" 4 0 .RESULT_INTEGER [],
  SYSCALL 193 "fgetxattr" 4 0 .RESULT_INTEGER [],
  SYSCALL 194 "listxattr" 3 0 .RESULT_INTEGER [],
  SYSCALL 195 "llistxattr" 3 0 .RESULT_INTEGER [],
  SYSCALL 196 "flistxattr" 3 0 .RESULT_INTEGER [],
  SYSCALL 197 "removexattr" 2 0 .RESULT_INTEGER [],
  SYSCALL 198 "lremovexattr" 2 0 .RESULT_INTEGER [],
  SYSCALL 199 "fremovexattr" 2 0 .RESULT_INTEGER [],
  SYSCALL 200 "tkill" 2 0 .RESULT_INTEGER [],
  SYSCALL 201 "time" 1 0 .RESULT_INTEGER [],
  SYSCALL 202 "futex" 6 (SG_CLASS_PROCESS ||| SG_CLASS_IPC) .RESULT_INTEGER
    [ARG .ARG_POINTER, ARG .ARG_S32, ARG .ARG_U64, ARG .ARG_POINTER, ARG .ARG_POINTER,
      ARG .ARG_U64],
  SYSCALL 203 "sched_setaffinity" 3 0 .RESULT_INTEGER [],
  SYSCALL 204 "sched_getaffinity" 3 0 .RESULT_INTEGER [],
  SYSCALL 205 "set_thread_area" 1 0 .RESULT_INTEGER [],
  SYSCALL 206 "io_setup" 2 0 .RESULT_INTEGER [],
  SYSCALL 207 "io_destroy" 1 0 .RESULT_INTEGER [],
  SYSCALL 208 "io_getevents" 5 0 .RESULT_INTEGER [],
  SYSCALL 209 "io_submit" 3 0 .RESULT_INTEGER [],
  SYSCALL 210 "io_cancel" 3 0 .RESULT_INTEGER [],
  SYSCALL 211 "get_thread_area" 1 0 .RESULT_INTEGER [],
  SYSCALL 212 "lookup_dcookie" 3 0 .RESULT_INTEGER [],
  SYSCALL 213 "epoll_create" 1 0 .RESULT_INTEGER [],
  SYSCALL 214 "epoll_ctl_old" 4 0 .RESULT_INTEGER [],
  SYSCALL 215 "epoll_wait_old" 4 0 .RESULT_INTEGER [],
  SYSCALL 216 "remap_file_pages" 5 0 .RESULT_INTEGER [],
  SYSCALL 217 "getdents64" 3 0 .RESULT_INTEGER [],
  SYSCALL 218 "set_tid_address" 1 0 .RESULT_INTEGER [],
  SYSCALL 219 "restart_syscall" 0 0 .RESULT_INTEGER [],
  SYSCALL 220 "semtimedop" 4 0 .RESULT_INTEGER [],
  SYSCALL 221 "fadvise64" 4 0 .RESULT_INTEGER [],
  SYSCALL 222 "timer_create" 3 0 .RESULT_INTEGER [],
  SYSCALL 223 "timer_settime" 4 0 .RESULT_INTEGER [],
  SYSCALL 224 "timer_gettime" 2 0 .RESULT_INTEGER [],
  SYSCALL 225 "timer_getoverrun" 1 0 .RESULT_INTEGER [],
  SYSCALL 226 "timer_delete" 1 0 .RESULT_INTEGER [],
  SYSCALL 227 "clock_settime" 2 0 .RESULT_INTEGER [],
  SYSCALL 228 "clock_gettime" 2 0 .RESULT_INTEGER [],
  SYSCALL 229 "clock_getres" 2 0 .RESULT_INTEGER [],
  SYSCALL 230 "clock_nanosleep" 4 0 .RESULT_INTEGER [],
  SYSCALL 231 "exit_group" 1 SG_CLASS_PROCESS .RESULT_INTEGER [ARG .ARG_S32],
  SYSCALL 232 "epoll_wait" 4 SG_CLASS_FILE .RESULT_INTEGER
    [ARG .ARG_FD, ARG .ARG_POINTER, ARG .ARG_S32, ARG .ARG_S32],
  SYSCALL 233 "epoll_ctl" 4 SG_CLASS_FILE .RESULT_INTEGER
    [ARG .ARG_FD, ARG .ARG_EPOLL_OPERATION, ARG .ARG_FD, ARG .ARG_POINTER],
  SYSCALL 234 "tgkill" 3 0 .RESULT_INTEGER [],
  SYSCALL 235 "utimes" 2 0 .RESULT_INTEGER [],
  SYSCALL 236 "vserver" 0 0 .RESULT_INTEGER [],
  SYSCALL 237 "mbind" 6 0 .RESULT_INTEGER [],
  SYSCALL 238 "set_mempolicy" 3 0 .RESULT_INTEGER [],
  SYSCALL 239 "get_mempolicy" 5 0 .RESULT_INTEGER [],
  SYSCALL 240 "mq_open" 4 0 .RESULT_INTEGER [],
  SYSCALL 241 "mq_unlink" 1 0 .RESULT_INTEGER [],
  SYSCALL 242 "mq_timedsend" 5 0 .RESULT_INTEGER [],
  SYSCALL 243 "mq_timedreceive" 5 0 .RESULT_INTEGER [],
  SYSCALL 244 "mq_notify" 2 0 .RESULT_INTEGER [],
  SYSCALL 245 "mq_getsetattr" 3 0 .RESULT_INTEGER [],
  SYSCALL 246 "kexec_load" 4 0 .RESULT_INTEGER [],
  SYSCALL 247 "waitid" 5 0 .RESULT_INTEGER [],
  SYSCALL 248 "add_key" 5 0 .RESULT_INTEGER [],
  SYSCALL 249 "request_key" 4 0 .RESULT_INTEGER [],
  SYSCALL 250 "keyctl" 5 0 .RESULT_INTEGER [],
  SYSCALL 251 "ioprio_set" 3 0 .RESULT_INTEGER [],
  SYSCALL 252 "ioprio_get" 2 0 .RESULT_INTEGER [],
  SYSCALL 253 "inotify_init" 0 0 .RESULT_INTEGER [],
  SYSCALL 254 "inotify_add_watch" 3 0 .RESULT_INTEGER [],
  SYSCALL 255 "inotify_rm_watch" 2 0 .RESULT_INTEGER [],
  SYSCALL 256 "migrate_pages" 4 0 .RESULT_INTEGER [],
  SYSCALL 257 "openat" 4 SG_CLASS_FILE .RESULT_INTEGER
    [ARG .ARG_DIRFD, ARG .ARG_STRING, ARG .ARG_OPEN_FLAGS, ARG .ARG_MODE],
  SYSCALL 258 "mkdirat" 3 0 .RESULT_INTEGER [],
  SYSCALL 259 "mknodat" 4 0 .RESULT_INTEGER [],
  SYSCALL 260 "fchownat" 5 0 .RESULT_INTEGER [],
  SYSCALL 261 "futimesat" 3 0 .RESULT_INTEGER [],
  SYSCALL 262 "newfstatat" 4 SG_CLASS_FILE .RESULT_INTEGER
    [ARG .ARG_DIRFD, ARG .ARG_STRING, ARG .ARG_POINTER, ARG .ARG_AT_FLAGS],
  SYSCALL 263 "unlinkat" 3 SG_CLASS_FILE .RESULT_INTEGER
    [ARG .ARG_DIRFD, ARG .ARG_STRING, ARG .ARG_AT_FLAGS],
  SYSCALL 264 "renameat" 4 SG_CLASS_FILE .RESULT_INTEGER
    [ARG .ARG_DIRFD, ARG .ARG_STRING, ARG .ARG_DIRFD, ARG .ARG_STRING],
  SYSCALL 265 "linkat" 5 SG_CLASS_FILE .RESULT_INTEGER
    [ARG .ARG_DIRFD, ARG .ARG_STRING, ARG .ARG_DIRFD, ARG .ARG_STRING, ARG .ARG_AT_FLAGS],
  SYSCALL 266 "symlinkat" 3 SG_CLASS_FILE .RESULT_INTEGER
    [ARG .ARG_STRING, ARG .ARG_DIRFD, ARG .ARG_STRING],
  SYSCALL 267 "readlinkat" 4 SG_CLASS_FILE .RESULT_INTEGER
    [ARG .ARG_DIRFD, ARG .ARG_STRING, ARG_AUX .ARG_BUFFER_OUT 3, ARG .ARG_SIZE],
  SYSCALL 268 "fchmodat" 3 0 .RESULT_INTEGER [],
  SYSCALL 269 "faccessat" 3 0 .RESULT_INTEGER [],
  SYSCALL 270 "pselect6" 6 (SG_CLASS_FILE ||| SG_CLASS_SIGNAL) .RESULT_INTEGER
    [ARG .ARG_S32, ARG .ARG_POINTER, ARG .ARG_POINTER, ARG .ARG_POINTER, ARG .ARG_POINTER,
      ARG .ARG_POINTER],
  SYSCALL 271 "ppoll" 5 (SG_CLASS_FILE ||| SG_CLASS_SIGNAL) .RESULT_INTEGER
    [ARG .ARG_POINTER, ARG .ARG_U64, ARG .ARG_POINTER, ARG .ARG_POINTER, ARG .ARG_SIZE],
  SYSCALL 272 "unshare" 1 SG_CLASS_PROCESS .RESULT_INTEGER [ARG .ARG_CLONE_FLAGS],
  SYSCALL 273 "set_robust_list" 2 0 .RESULT_INTEGER [],
  SYSCALL 274 "get_robust_list" 3 0 .RESULT_INTEGER [],
  SYSCALL 275 "splice" 6 SG_CLASS_FILE .RESULT_INTEGER
    [ARG .ARG_FD, ARG .ARG_POINTER, ARG .ARG_FD, ARG .ARG_POINTER, ARG .ARG_SIZE, ARG .ARG_HEX],
  SYSCALL 276 "tee" 4 SG_CLASS_FILE .RESULT_INTEGER
    [ARG .ARG_FD, ARG .ARG_FD, ARG .ARG_SIZE, ARG .ARG_HEX],
  SYSCALL 277 "sync_file_range" 4 0 .RESULT_INTEGER [],
  SYSCALL 278 "vmsplice" 4 SG_CLASS_FILE .RESULT_INTEGER
    [ARG .ARG_FD, ARG .ARG_POINTER, ARG .ARG_U64, ARG .ARG_HEX],
  SYSCALL 279 "move_pages" 6 0 .RESULT_INTEGER [],
  SYSCALL 280 "utimensat" 4 0 .RESULT_INTEGER [],
  SYSCALL 281 "epoll_pwait" 6 0 .RESULT_INTEGER [],
  SYSCALL 282 "signalfd" 3 0 .RESULT_INTEGER [],
  SYSCALL 283 "timerfd_create" 2 0 .RESULT_INTEGER [],
  SYSCALL 284 "eventfd" 1 0 .RESULT_INTEGER [],
  SYSCALL 285 "fallocate" 4 0 .RESULT_INTEGER [],
  SYSCALL 286 "timerfd_settime" 4 0 .RESULT_INTEGER [],
  SYSCALL 287 "timerfd_gettime" 2 0 .RESULT_INTEGER [],
  SYSCALL 288 "accept4" 4 SG_CLASS_NETWORK .RESULT_INTEGER
    [ARG .ARG_FD, ARG .ARG_POINTER, ARG .ARG_POINTER, ARG .ARG_SOCKET_TYPE],
  SYSCALL 289 "signalfd4" 4 0 .RESULT_INTEGER [],
  SYSCALL 290 "eventfd2" 2 0 .RESULT_INTEGER [],
  SYSCALL 291 "epoll_create1" 1 0 .RESULT_INTEGER [],
  SYSCALL 292 "dup3" 3 SG_CLASS_FILE .RESULT_INTEGER [ARG .ARG_FD, ARG .ARG_FD, ARG .ARG_FD_FLAGS],
  SYSCALL 293 "pipe2" 2 (SG_CLASS_FILE ||| SG_CLASS_IPC) .RESULT_INTEGER
    [ARG .ARG_PIPE_OUT, ARG .ARG_FD_FLAGS],
  SYSCALL 294 "inotify_init1" 1 0 .RESULT_INTEGER [],
  SYSCALL 295 "preadv" 5 SG_CLASS_FILE .RESULT_INTEGER
    [ARG .ARG_FD, ARG .ARG_POINTER, ARG .ARG_U64, ARG .ARG_U64, ARG .ARG_U64],
  SYSCALL 296 "pwritev" 5 SG_CLASS_FILE .RESULT_INTEGER
    [ARG .ARG_FD, ARG .ARG_POINTER, ARG .ARG_U64, ARG .ARG_U64, ARG .ARG_U64],
  SYSCALL 297 "rt_tgsigqueueinfo" 4 0 .RESULT_INTEGER [],
  SYSCALL 298 "perf_event_open" 5 0 .RESULT_INTEGER [],
  SYSCALL 299 "recvmmsg" 5 0 .RESULT_INTEGER [],
  SYSCALL 300 "fanotify_init" 2 0 .RESULT_INTEGER [],
  SYSCALL 301 "fanotify_mark" 6 0 .RESULT_INTEGER [],
  SYSCALL 302 "prlimit64" 4 0 .RESULT_INTEGER [],
  SYSCALL 303 "name_to_handle_at" 5 0 .RESULT_INTEGER [],
  SYSCALL 304 "open_by_handle_at" 3 0 .RESULT_INTEGER [],
  SYSCALL 305 "clock_adjtime" 2 0 .RESULT_INTEGER [],
  SYSCALL 306 "syncfs" 1 0 .RESULT_INTEGER [],
  SYSCALL 307 "sendmmsg" 4 0 .RESULT_INTEGER [],
  SYSCALL 308 "setns" 2 0 .RESULT_INTEGER [],
  SYSCALL 309 "getcpu" 3 0 .RESULT_INTEGER [],
  SYSCALL 310 "process_vm_readv" 6 (SG_CLASS_PROCESS ||| SG_CLASS_MEMORY) .RESULT_INTEGER
    [ARG .ARG_S32, ARG .ARG_POINTER, ARG .ARG_U64, ARG .ARG_POINTER, ARG .ARG_U64, ARG .ARG_HEX],
  SYSCALL 311 "process_vm_writev" 6 (SG_CLASS_PROCESS ||| SG_CLASS_MEMORY) .RESULT_INTEGER
    [ARG .ARG_S32, ARG .ARG_POINTER, ARG .ARG_U64, ARG .ARG_POINTER, ARG .ARG_U64, ARG .ARG_HEX],
  SYSCALL 312 "kcmp" 5 0 .RESULT_INTEGER [],
  SYSCALL 313 "finit_module" 3 0 .RESULT_INTEGER [],
  SYSCALL 314 "sched_setattr" 3 0 .RESULT_INTEGER [],
  SYSCALL 315 "sched_getattr" 4 0 .RESULT_INTEGER [],
  SYSCALL 316 "renameat2" 5 0 .RESULT_INTEGER [],
  SYSCALL 317 "seccomp" 3 0 .RESULT_INTEGER [],
  SYSCALL 318 "getrandom" 3 0 .RESULT_INTEGER
    [ARG_AUX .ARG_BUFFER_OUT 1, ARG .ARG_SIZE, ARG .ARG_HEX],
  SYSCALL 319 "memfd_create" 2 0 .RESULT_INTEGER [],
  SYSCALL 320 "kexec_file_load" 5 0 .RESULT_INTEGER [],
  SYSCALL 321 "bpf" 3 0 .RESULT_INTEGER [],
  SYSCALL 322 "execveat" 5 (SG_CLASS_PROCESS ||| SG_CLASS_FILE) .RESULT_INTEGER
    [ARG .ARG_DIRFD, ARG .ARG_STRING, ARG .ARG_ARGV, ARG .ARG_POINTER, ARG .ARG_AT_FLAGS],
  SYSCALL 323 "userfaultfd" 1 0 .RESULT_INTEGER [],
  SYSCALL 324 "membarrier" 3 0 .RESULT_INTEGER [],
  SYSCALL 325 "mlock2" 3 0 .RESULT_INTEGER [],
  SYSCALL 326 "copy_file_range" 6 0 .RESULT_INTEGER [],
  SYSCALL 327 "preadv2" 6 SG_CLASS_FILE .RESULT_INTEGER
    [ARG .ARG_FD, ARG .ARG_POINTER, ARG .ARG_U64, ARG .ARG_U64, ARG .ARG_U64, ARG .ARG_HEX],
  SYSCALL 328 "pwritev2" 6 SG_CLASS_FILE .RESULT_INTEGER
    [ARG .ARG_FD, ARG .ARG_POINTER, ARG .ARG_U64, ARG .ARG_U64, ARG .ARG_U64, ARG .ARG_HEX],
  SYSCALL 329 "pkey_mprotect" 4 0 .RESULT_INTEGER [],
  SYSCALL 330 "pkey_alloc" 2 0 .RESULT_INTEGER [],
  SYSCALL 331 "pkey_free" 1 0 .RESULT_INTEGER [],
  SYSCALL 332 "statx" 5 0 .RESULT_INTEGER
    [ARG .ARG_DIRFD, ARG .ARG_STRING, ARG .ARG_AT_FLAGS, ARG .ARG_HEX, ARG .ARG_POINTER],
  SYSCALL 333 "io_pgetevents" 6 0 .RESULT_INTEGER [],
  SYSCALL 334 "rseq" 4 0 .RESULT_INTEGER [],
  SYSCALL 335 "uretprobe" 0 0 .RESULT_INTEGER [],
  SYSCALL 336 "uprobe" 0 0 .RESULT_INTEGER [],
  SYSCALL 424 "pidfd_send_signal" 4 0 .RESULT_INTEGER [],
  SYSCALL 425 "io_uring_setup" 2 0 .RESULT_INTEGER [],
  SYSCALL 426 "io_uring_enter" 6 0 .RESULT_INTEGER [],
  SYSCALL 427 "io_uring_register" 4 0 .RESULT_INTEGER [],
  SYSCALL 428 "open_tree" 3 0 .RESULT_INTEGER [],
  SYSCALL 429 "move_mount" 5 0 .RESULT_INTEGER [],
  SYSCALL 430 "fsopen" 2 0 .RESULT_INTEGER [],
  SYSCALL 431 "fsconfig" 5 0 .RESULT_INTEGER [],
  SYSCALL 432 "fsmount" 3 0 .RESULT_INTEGER [],
  SYSCALL 433 "fspick" 3 0 .RESULT_INTEGER [],
  SYSCALL 434 "pidfd_open" 2 0 .RESULT_INTEGER [],
  SYSCALL 435 "clone3" 2 SG_CLASS_PROCESS .RESULT_INTEGER [ARG .ARG_POINTER, ARG .ARG_SIZE],
  SYSCALL 436 "close_range" 3 SG_CLASS_FILE .RESULT_INTEGER
    [ARG .ARG_U64, ARG .ARG_U64, ARG .ARG_HEX],
  SYSCALL 437 "openat2" 4 SG_CLASS_FILE .RESULT_INTEGER
    [ARG .ARG_DIRFD, ARG .ARG_STRING, ARG .ARG_POINTER, ARG .ARG_SIZE],
  SYSCALL 438 "pidfd_getfd" 3 0 .RESULT_INTEGER [],
  SYSCALL 439 "faccessat2" 4 0 .RESULT_INTEGER [],
  SYSCALL 440 "process_madvise" 5 0 .RESULT_INTEGER [],
  SYSCALL 441 "epoll_pwait2" 6 0 .RESULT_INTEGER [],
  SYSCALL 442 "mount_setattr" 5 0 .RESULT_INTEGER [],
  SYSCALL 443 "quotactl_fd" 4 0 .RESULT_INTEGER [],
  SYSCALL 444 "landlock_create_ruleset" 3 0 .RESULT_INTEGER [],
  SYSCALL 445 "landlock_add_rule" 4 0 .RESULT_INTEGER [],
  SYSCALL 446 "landlock_restrict_self" 2 0 .RESULT_INTEGER [],
  SYSCALL 447 "memfd_secret" 1 0 .RESULT_INTEGER [],
  SYSCALL 448 "process_mrelease" 2 0 .RESULT_INTEGER [],
  SYSCALL 449 "futex_waitv" 5 0 .RESULT_INTEGER [],
  SYSCALL 450 "set_mempolicy_home_node" 4 0 .RESULT_INTEGER [],
  SYSCALL 451 "cachestat" 4 0 .RESULT_INTEGER [],
  SYSCALL 452 "fchmodat2" 4 0 .RESULT_INTEGER [],
  SYSCALL 453 "map_shadow_stack" 3 0 .RESULT_INTEGER [],
  SYSCALL 454 "futex_wake" 4 0 .RESULT_INTEGER [],
  SYSCALL 455 "futex_wait" 6 0 .RESULT_INTEGER [],
  SYSCALL 456 "futex_requeue" 4 0 .RESULT_INTEGER [],
  SYSCALL 457 "statmount" 4 0 .RESULT_INTEGER [],
  SYSCALL 458 "listmount" 4 0 .RESULT_INTEGER [],
  SYSCALL 459 "lsm_get_self_attr" 4 0 .RESULT_INTEGER [],
  SYSCALL 460 "lsm_set_self_attr" 4 0 .RESULT_INTEGER [],
  SYSCALL 461 "lsm_list_modules" 3 0 .RESULT_INTEGER [],
  SYSCALL 462 "mseal" 3 0 .RESULT_INTEGER [],
  SYSCALL 463 "setxattrat" 6 0 .RESULT_INTEGER [],
  SYSCALL 464 "getxattrat" 6 0 .RESULT_INTEGER [],
  SYSCALL 465 "listxattrat" 5 0 .RESULT_INTEGER [],
  SYSCALL 466 "removexattrat" 4 0 .RESULT_INTEGER [],
  SYSCALL 467 "open_tree_attr" 5 0 .RESULT_INTEGER [],
  SYSCALL 468 "file_getattr" 5 0 .RESULT_INTEGER [],
  SYSCALL 469 "file_setattr" 5 0 .RESULT_INTEGER [],
  SYSCALL 470 "listns" 4 0 .RESULT_INTEGER [],
  SYSCALL 471 "rseq_slice_yield" 0 0 .RESULT_INTEGER []
]

/-! ### Lookup -/

/-- The search loop of `sg_syscall_by_number`. -/
def search (table : List SyscallDescriptor) (number : Int) (left right : Nat) : Nat :=
  if left < right then
    let middle := left + (right - left) / 2
    match table[middle]? with
    | some descriptor =>
      if descriptor.number < number then search table number (middle + 1) right
      else search table number left middle
    | none => left
  else left
termination_by right - left

/-- `sg_syscall_by_number`, for any table. -/
def by_number (table : List SyscallDescriptor) (number : Int) : Option SyscallDescriptor :=
  if number < 0 ∨ number.toNat ≥ SG_SYSCALL_LIMIT then none
  else
    match table[search table number 0 table.length]? with
    | some descriptor => if descriptor.number = number then some descriptor else none
    | none => none

/-- `sg_syscall_by_number`. -/
def sg_syscall_by_number (number : Int) : Option SyscallDescriptor := by_number syscalls number

/-- `sg_syscall_by_name`, for any table. -/
def by_name (table : List SyscallDescriptor) (name : Text) : Option SyscallDescriptor :=
  table.find? fun descriptor => descriptor.name == name

/-- `sg_syscall_by_name`. -/
def sg_syscall_by_name (name : Text) : Option SyscallDescriptor :=
  syscalls.find? fun descriptor => descriptor.name == name

/-- `sg_syscall_argument_count`. -/
def sg_syscall_argument_count (number : Int) : Nat :=
  match sg_syscall_by_number number with
  | none => 6
  | some descriptor => descriptor.arity

theorem by_number_eq_some {table : List SyscallDescriptor} {number : Int}
    {descriptor : SyscallDescriptor} (h : by_number table number = some descriptor) :
    descriptor ∈ table ∧ descriptor.number = number := by
  unfold by_number at h
  split at h
  · simp at h
  · split at h
    · rename_i found hfound
      split at h
      · rename_i hnumber
        rw [Option.some.injEq] at h
        subst h
        exact ⟨List.mem_of_getElem? hfound, hnumber⟩
      · simp at h
    · simp at h

/-! ### What holds of the table -/

/-- `isprint` in the C locale. -/
def isprint (byte : UInt8) : Bool := decide (0x20 ≤ byte) && decide (byte ≤ 0x7e)

/-- What an entry of the table satisfies. -/
structure SyscallDescriptor.Ok (descriptor : SyscallDescriptor) : Prop where
  name : descriptor.name.all isprint = true
  arity : descriptor.arity ≤ 6

instance (descriptor : SyscallDescriptor) : Decidable descriptor.Ok :=
  decidable_of_iff (descriptor.name.all isprint = true ∧ descriptor.arity ≤ 6)
    ⟨fun ⟨a, b⟩ => ⟨a, b⟩, fun ⟨a, b⟩ => ⟨a, b⟩⟩

theorem syscalls_ok : ∀ descriptor ∈ syscalls, descriptor.Ok := by decide +kernel

/-- A text as a number, modulo the least number that tells all names apart. -/
def name_mark (name : Text) : Nat := name.foldl (fun mark byte => mark * 256 + byte.toNat) 0 % 9358

/-- **No two entries have the same name.** -/
theorem syscalls_names : (syscalls.map SyscallDescriptor.name).Nodup := by
  have hmarks : BitCount.distinctFrom 0 ((syscalls.map SyscallDescriptor.name).map name_mark) =
      true := by decide +kernel
  exact BitCount.nodup_of_distinct name_mark hmarks

/-- An entry is found by its name when no two entries share one. -/
theorem find_by_name {α : Type} {table : List α} (name : α → Text) {entry : α}
    (hnodup : (table.map name).Nodup) (h : entry ∈ table) :
    table.find? (fun other => name other == name entry) = some entry := by
  induction table with
  | nil => exact absurd h (by simp)
  | cons first table ih =>
    rw [List.map_cons, List.nodup_cons] at hnodup
    rcases List.mem_cons.mp h with rfl | h
    · exact List.find?_cons_of_pos (beq_self_eq_true _)
    · have hother : (name first == name entry) = false := by
        rw [beq_eq_false_iff_ne]
        intro hsame
        exact hnodup.1 (hsame ▸ List.mem_map_of_mem h)
      rw [List.find?_cons, hother]
      exact ih hnodup.2 h

/-! ### Lookup in any table -/

/-- The entries that the search loop reads. -/
def probes (table : List SyscallDescriptor) (number : Int) (left right : Nat) : List Nat :=
  if left < right then
    let middle := left + (right - left) / 2
    middle ::
      match table[middle]? with
      | some descriptor =>
        if descriptor.number < number then probes table number (middle + 1) right
        else probes table number left middle
      | none => []
  else []
termination_by right - left

/-- The entries that `sg_syscall_by_number` reads: those of the loop, and the one it ends at. -/
def entries_read (table : List SyscallDescriptor) (number : Int) : List Nat :=
  if number < 0 ∨ number.toNat ≥ SG_SYSCALL_LIMIT then []
  else
    let left := search table number 0 table.length
    probes table number 0 table.length ++ if left < table.length then [left] else []

/-- The numbers of a table increase. -/
def Increasing (table : List SyscallDescriptor) : Prop :=
  table.Pairwise fun first second => first.number < second.number

/-- The number is looked for between `left` and `right`. -/
structure Bracketed (table : List SyscallDescriptor) (number : Int) (left right : Nat) : Prop where
  le : left ≤ right
  fits : right ≤ table.length
  below : ∀ i descriptor, i < left → table[i]? = some descriptor → descriptor.number < number
  above : ∀ i descriptor, right ≤ i → table[i]? = some descriptor → number ≤ descriptor.number

section lookup
variable {table : List SyscallDescriptor} {number : Int} {left right : Nat}
  {descriptor : SyscallDescriptor}

theorem Increasing.lt (h : Increasing table) {i j : Nat} {first second : SyscallDescriptor}
    (hlt : i < j) (hfirst : table[i]? = some first) (hsecond : table[j]? = some second) :
    first.number < second.number := by
  obtain ⟨hi, rfl⟩ := List.getElem?_eq_some_iff.mp hfirst
  obtain ⟨hj, rfl⟩ := List.getElem?_eq_some_iff.mp hsecond
  exact List.pairwise_iff_getElem.mp h i j hi hj hlt

/-- The middle is below the number: what is left of it is too. -/
theorem Bracketed.right_half (hsorted : Increasing table) (h : Bracketed table number left right)
    {middle : Nat} (hmiddle : middle < right) (hfound : table[middle]? = some descriptor)
    (hlt : descriptor.number < number) : Bracketed table number (middle + 1) right where
  le := hmiddle
  fits := h.fits
  below i other hi hother := by
    obtain hlow | rfl := Nat.lt_succ_iff_lt_or_eq.mp hi
    · exact Int.lt_trans (hsorted.lt hlow hother hfound) hlt
    · rw [hother] at hfound
      rwa [Option.some.inj hfound]
  above := h.above

/-- The middle is not below the number: what is right of it is not either. -/
theorem Bracketed.left_half (hsorted : Increasing table) (h : Bracketed table number left right)
    {middle : Nat} (hleft : left ≤ middle) (hmiddle : middle < right)
    (hfound : table[middle]? = some descriptor) (hge : ¬descriptor.number < number) :
    Bracketed table number left middle where
  le := hleft
  fits := hmiddle.le.trans h.fits
  below := h.below
  above i other hi hother := by
    obtain hhigh | rfl := Nat.lt_or_eq_of_le hi
    · have := hsorted.lt hhigh hfound hother
      omega
    · rw [hother] at hfound
      rw [Option.some.inj hfound]
      omega

/-- **The search loop** closes in on the place of the number, and reads only entries of the
    table. -/
theorem search_spec (hsorted : Increasing table) (h : Bracketed table number left right) :
    Bracketed table number (search table number left right) (search table number left right) ∧
      (∀ i ∈ probes table number left right, i < table.length) ∧
      (probes table number left right).length ≤ right - left := by
  induction left, right using search.induct table number with
  | case1 left right hlt middle descriptor hfound hless ih =>
    have hmiddle : middle < right := by omega
    obtain ⟨hend, hinside, hfew⟩ := ih (h.right_half hsorted hmiddle hfound hless)
    have hfound' : table[left + (right - left) / 2]? = some descriptor := hfound
    have hfew' : (probes table number (left + (right - left) / 2 + 1) right).length ≤
        right - (left + (right - left) / 2 + 1) := hfew
    unfold search probes
    simp only [if_pos hlt, hfound', if_pos hless]
    refine ⟨hend, ?_, ?_⟩
    · intro i hi
      obtain rfl | hi := List.mem_cons.mp hi
      · exact hmiddle.trans_le h.fits
      · exact hinside i hi
    · rw [List.length_cons]
      omega
  | case2 left right hlt middle descriptor hfound hge ih =>
    have hmiddle : middle < right := by omega
    obtain ⟨hend, hinside, hfew⟩ :=
      ih (h.left_half hsorted (Nat.le_add_right _ _) hmiddle hfound hge)
    have hfound' : table[left + (right - left) / 2]? = some descriptor := hfound
    have hfew' : (probes table number left (left + (right - left) / 2)).length ≤
        left + (right - left) / 2 - left := hfew
    unfold search probes
    simp only [if_pos hlt, hfound', if_neg hge]
    refine ⟨hend, ?_, ?_⟩
    · intro i hi
      obtain rfl | hi := List.mem_cons.mp hi
      · exact hmiddle.trans_le h.fits
      · exact hinside i hi
    · rw [List.length_cons]
      omega
  | case3 left right hlt middle hnone =>
    have hlength : middle < table.length := by
      have := h.fits
      omega
    rw [List.getElem?_eq_getElem hlength] at hnone
    cases hnone
  | case4 left right hge =>
    have hsame : left = right := by
      have := h.le
      omega
    subst hsame
    unfold search probes
    simp only [if_neg hge]
    exact ⟨h, by simp, by simp⟩

theorem bracketed_all (table : List SyscallDescriptor) (number : Int) :
    Bracketed table number 0 table.length where
  le := Nat.zero_le _
  fits := le_refl _
  below i descriptor hi := absurd hi (Nat.not_lt_zero i)
  above i descriptor hi hfound := by
    rw [List.getElem?_eq_none hi] at hfound
    cases hfound

/-- An entry is where the loop ends when it is looked for. -/
theorem by_number_self (hsorted : Increasing table)
    (hrange : 0 ≤ descriptor.number ∧ descriptor.number < SG_SYSCALL_LIMIT)
    (h : descriptor ∈ table) : by_number table descriptor.number = some descriptor := by
  obtain ⟨i, hi⟩ := List.mem_iff_getElem?.mp h
  obtain ⟨hend, -, -⟩ := search_spec hsorted (bracketed_all table descriptor.number)
  have hplace : search table descriptor.number 0 table.length = i := by
    by_contra hne
    obtain hlow | hhigh := Nat.lt_or_gt_of_ne hne
    · -- The entry at the end is not below the number, and comes before it.
      have hlength : search table descriptor.number 0 table.length < table.length := by
        have := (List.getElem?_eq_some_iff.mp hi).1
        omega
      have hthere := List.getElem?_eq_getElem hlength
      have hle := hend.above _ _ (le_refl _) hthere
      have hlt := hsorted.lt hlow hthere hi
      omega
    · have hlt := hend.below i descriptor hhigh hi
      omega
  unfold by_number
  rw [if_neg (by omega), hplace, hi]
  exact if_pos rfl

theorem Increasing.unique (hsorted : Increasing table) {other : SyscallDescriptor}
    (h : descriptor ∈ table) (hother : other ∈ table) (hsame : other.number = descriptor.number) :
    other = descriptor := by
  obtain ⟨i, hi⟩ := List.mem_iff_getElem?.mp h
  obtain ⟨j, hj⟩ := List.mem_iff_getElem?.mp hother
  have hij : i = j := by
    by_contra hne
    obtain hlt | hgt := Nat.lt_or_gt_of_ne hne
    · have := hsorted.lt hlt hi hj
      omega
    · have := hsorted.lt hgt hj hi
      omega
  subst hij
  exact Option.some.inj (hj.symm.trans hi)

/-- **Lookup by number is linear search**, in a table of any length whose numbers increase;
    with names that are distinct, an entry is found again from its name. -/
theorem lookup_correct (table : List SyscallDescriptor) (hsorted : Increasing table)
    (hrange : ∀ descriptor ∈ table, 0 ≤ descriptor.number ∧ descriptor.number < SG_SYSCALL_LIMIT)
    (number : Int) :
    (∀ index ∈ entries_read table number, index < table.length) ∧
    (entries_read table number).length ≤ table.length + 1 ∧
    by_number table number = table.find? (fun descriptor => descriptor.number = number) ∧
    (∀ descriptor ∈ table, descriptor.number = number →
      by_number table number = some descriptor ∧
        ∀ other ∈ table, other.number = number → other = descriptor) ∧
    ((∀ descriptor ∈ table, descriptor.number ≠ number) → by_number table number = none) ∧
    ((table.map SyscallDescriptor.name).Nodup → ∀ descriptor ∈ table,
      ∃ named, by_name table descriptor.name = some named ∧
        by_number table named.number = some descriptor) := by
  obtain ⟨-, hinside, hfew⟩ := search_spec hsorted (bracketed_all table number)
  have hmember : ∀ descriptor ∈ table, descriptor.number = number →
      by_number table number = some descriptor := by
    rintro descriptor hmem rfl
    exact by_number_self hsorted (hrange descriptor hmem) hmem
  have habsent : (∀ descriptor ∈ table, descriptor.number ≠ number) →
      by_number table number = none := by
    intro hno
    by_contra hfound
    obtain ⟨descriptor, hfound⟩ := Option.ne_none_iff_exists'.mp hfound
    obtain ⟨hmem, hnumber⟩ := by_number_eq_some hfound
    exact hno descriptor hmem hnumber
  refine ⟨?_, ?_, ?_, ?_, habsent, ?_⟩
  · intro index hindex
    unfold entries_read at hindex
    split at hindex
    · cases hindex
    · obtain hloop | hlast := List.mem_append.mp hindex
      · exact hinside index hloop
      · split at hlast
        · rename_i hleft
          rwa [List.mem_singleton.mp hlast]
        · cases hlast
  · unfold entries_read
    split
    · exact Nat.zero_le _
    · rw [List.length_append]
      split
      · rw [List.length_singleton]
        omega
      · rw [List.length_nil]
        omega
  · cases hfind : table.find? (fun descriptor => descriptor.number = number) with
    | none =>
      apply habsent
      intro descriptor hmem hnumber
      have hno := List.find?_eq_none.mp hfind descriptor hmem
      simp [hnumber] at hno
    | some descriptor =>
      have hnumber := List.find?_some hfind
      exact hmember descriptor (List.mem_of_find?_eq_some hfind) (by simpa using hnumber)
  · intro descriptor hmem hnumber
    refine ⟨hmember descriptor hmem hnumber, fun other hother hsame => ?_⟩
    exact hsorted.unique hmem hother (by rw [hsame, hnumber])
  · intro hnames descriptor hmem
    exact ⟨descriptor, find_by_name SyscallDescriptor.name hnames hmem,
      by_number_self hsorted (hrange descriptor hmem) hmem⟩

end lookup

/-- The numbers of the catalog increase, and are below the limit. -/
theorem syscalls_increasing : Increasing syscalls ∧ ∀ descriptor ∈ syscalls,
    0 ≤ descriptor.number ∧ descriptor.number < SG_SYSCALL_LIMIT := by
  have hchain : syscalls.IsChain fun first second => first.number < second.number := by
    decide +kernel
  exact ⟨hchain.pairwise, by decide +kernel⟩

/-- The lookups of the catalog. -/
theorem lookup_correct_syscalls :
    (∀ index ∈ entries_read syscalls 39, index < syscalls.length) ∧
    ∀ descriptor ∈ syscalls, ∃ named, sg_syscall_by_name descriptor.name = some named ∧
      sg_syscall_by_number named.number = some descriptor := by
  obtain ⟨hreads, -, -, -, -, hnamed⟩ :=
    lookup_correct syscalls syscalls_increasing.1 syscalls_increasing.2 39
  exact ⟨hreads, hnamed syscalls_names⟩

/-- The calls of two numbers that are known have different names. -/
theorem sg_syscall_by_number_name {n m : Int} {d d' : SyscallDescriptor}
    (h : sg_syscall_by_number n = some d) (h' : sg_syscall_by_number m = some d')
    (hname : d.name = d'.name) : n = m := by
  obtain ⟨hmem, hn⟩ := by_number_eq_some h
  obtain ⟨hmem', hm⟩ := by_number_eq_some h'
  have hsame : d = d' := List.inj_on_of_nodup_map syscalls_names hmem hmem' hname
  rw [← hn, ← hm, hsame]

end Sysgaze
