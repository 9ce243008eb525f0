/-!
# Libraries of the system

The libraries that every system has, with what is known of them: the versions that the C library defines, and the names
that programs ask it for. Of the others only the names are known.
-/

namespace NativeLoader

/-- A library that is installed; one without versions answers to any. -/
structure InstalledLibrary where
  name : String
  versions : List String := []
  symbols : List String := []
  deriving DecidableEq, Repr

namespace InstalledLibrary

/-- The directory of the libraries. -/
def directory : String := "/lib/x86_64-linux-gnu/"

/-- The path of a library. -/
def path (library : InstalledLibrary) : String := directory ++ library.name

/-- A library has a version. -/
def hasVersion (library : InstalledLibrary) (version : String) : Bool :=
  library.versions.isEmpty || library.versions.contains version

/-- The releases in which the C library gained versions. -/
def releases : List String :=
  ["2.2.5", "2.2.6", "2.3", "2.3.2", "2.3.3", "2.3.4", "2.4", "2.5", "2.6", "2.7", "2.8", "2.9", "2.10", "2.11", "2.12",
    "2.13", "2.14", "2.15", "2.16", "2.17", "2.18", "2.22", "2.23", "2.24", "2.25", "2.26", "2.27", "2.28", "2.29",
    "2.30", "2.31", "2.32", "2.33", "2.34", "2.35", "2.36", "2.38", "2.39", "ABI_DT_RELR", "PRIVATE"]

/-- Names that programs ask the C library for. -/
def cNames : List String :=
  ["__cxa_atexit", "__cxa_finalize", "__errno_location", "__libc_start_main", "__stack_chk_fail", "_exit", "abort", "abs",
    "accept", "access", "atexit", "atoi", "atol", "bind", "bsearch", "calloc", "chdir", "close", "closedir", "connect",
    "dlclose", "dlerror", "dlopen", "dlsym", "dup", "dup2", "environ", "execve", "exit", "fclose", "fflush", "fgets",
    "fopen", "fork", "fprintf", "fputc", "fputs", "fread", "free", "fseek", "ftell", "fwrite", "getcwd", "getenv",
    "gethostname", "getpid", "getppid", "gettimeofday", "getuid", "ioctl", "isalpha", "isdigit", "isspace", "kill",
    "listen", "localtime", "longjmp", "lseek", "malloc", "memchr", "memcmp", "memcpy", "memmove", "memset", "mkdir",
    "mmap", "mprotect", "munmap", "nanosleep", "open", "opendir", "perror", "pipe", "poll", "printf",
    "pthread_create", "pthread_join", "pthread_mutex_lock", "pthread_mutex_unlock", "pthread_once", "pthread_self",
    "putchar", "putenv", "puts", "qsort", "raise", "rand", "read", "readdir", "realloc", "recv", "remove", "rename",
    "rmdir", "select", "send", "setenv", "sigaction", "signal", "sleep", "snprintf", "socket", "sprintf", "srand",
    "stat", "stderr", "stdin", "stdout", "strcat", "strchr", "strcmp", "strcpy", "strdup", "strerror", "strlen",
    "strncmp", "strncpy", "strrchr", "strstr", "strtol", "strtoul", "sysconf", "system", "time", "tolower", "toupper",
    "unlink", "usleep", "vfprintf", "vprintf", "vsnprintf", "wait", "waitpid", "write"]

/-- The C library. -/
def c : InstalledLibrary where
  name := "libc.so.6"
  versions := releases.map ("GLIBC_" ++ ·)
  symbols := cNames

/-- The libraries that every system has. -/
def all : List InstalledLibrary :=
  c :: ["ld-linux-x86-64.so.2", "libBrokenLocale.so.1", "libanl.so.1", "libdl.so.2", "libgcc_s.so.1", "libm.so.6",
    "libmvec.so.1", "libpthread.so.0", "libresolv.so.2", "librt.so.1", "libstdc++.so.6", "libthread_db.so.1",
    "libutil.so.1", "libz.so.1"].map fun name => { name }

/-- The installed library that a name or a path leads to. -/
def find? (name : String) : Option InstalledLibrary :=
  all.find? fun library => library.name = name ∨ library.path = name

end InstalledLibrary
end NativeLoader
