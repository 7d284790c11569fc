import UnitFoundry.Wasm.Types

/-! # The functions of the host

The host provides the first preview of the system interface, and the interface that went before it
under a name of its own. `Wasi.functions` lists the functions of the preview with their types. -/

namespace UnitFoundry.Wasm.Wasi

/-- The name of the host's module. -/
def moduleName : String := "wasi_snapshot_preview1"

/-- The name of the function that ends a unit. -/
def exitName : String := "proc_exit"

/-- The type of a function that takes numbers and returns an error number. -/
def reporting (params : List NumType) : FuncType :=
  ⟨params.map .num, [.num .i32]⟩

/-- The functions of the host by name. -/
def functions : List (String × FuncType) :=
  [("args_get", reporting [.i32, .i32]),
   ("args_sizes_get", reporting [.i32, .i32]),
   ("environ_get", reporting [.i32, .i32]),
   ("environ_sizes_get", reporting [.i32, .i32]),
   ("clock_res_get", reporting [.i32, .i32]),
   ("clock_time_get", reporting [.i32, .i64, .i32]),
   ("fd_advise", reporting [.i32, .i64, .i64, .i32]),
   ("fd_allocate", reporting [.i32, .i64, .i64]),
   ("fd_close", reporting [.i32]),
   ("fd_datasync", reporting [.i32]),
   ("fd_fdstat_get", reporting [.i32, .i32]),
   ("fd_fdstat_set_flags", reporting [.i32, .i32]),
   ("fd_fdstat_set_rights", reporting [.i32, .i64, .i64]),
   ("fd_filestat_get", reporting [.i32, .i32]),
   ("fd_filestat_set_size", reporting [.i32, .i64]),
   ("fd_filestat_set_times", reporting [.i32, .i64, .i64, .i32]),
   ("fd_pread", reporting [.i32, .i32, .i32, .i64, .i32]),
   ("fd_prestat_get", reporting [.i32, .i32]),
   ("fd_prestat_dir_name", reporting [.i32, .i32, .i32]),
   ("fd_pwrite", reporting [.i32, .i32, .i32, .i64, .i32]),
   ("fd_read", reporting [.i32, .i32, .i32, .i32]),
   ("fd_readdir", reporting [.i32, .i32, .i32, .i64, .i32]),
   ("fd_renumber", reporting [.i32, .i32]),
   ("fd_seek", reporting [.i32, .i64, .i32, .i32]),
   ("fd_sync", reporting [.i32]),
   ("fd_tell", reporting [.i32, .i32]),
   ("fd_write", reporting [.i32, .i32, .i32, .i32]),
   ("path_create_directory", reporting [.i32, .i32, .i32]),
   ("path_filestat_get", reporting [.i32, .i32, .i32, .i32, .i32]),
   ("path_filestat_set_times", reporting [.i32, .i32, .i32, .i32, .i64, .i64, .i32]),
   ("path_link", reporting [.i32, .i32, .i32, .i32, .i32, .i32, .i32]),
   ("path_open", reporting [.i32, .i32, .i32, .i32, .i32, .i64, .i64, .i32, .i32]),
   ("path_readlink", reporting [.i32, .i32, .i32, .i32, .i32, .i32]),
   ("path_remove_directory", reporting [.i32, .i32, .i32]),
   ("path_rename", reporting [.i32, .i32, .i32, .i32, .i32, .i32]),
   ("path_symlink", reporting [.i32, .i32, .i32, .i32, .i32]),
   ("path_unlink_file", reporting [.i32, .i32, .i32]),
   ("poll_oneoff", reporting [.i32, .i32, .i32, .i32]),
   (exitName, ⟨[.num .i32], []⟩),
   ("proc_raise", reporting [.i32]),
   ("sched_yield", reporting []),
   ("random_get", reporting [.i32, .i32]),
   ("sock_accept", reporting [.i32, .i32, .i32]),
   ("sock_recv", reporting [.i32, .i32, .i32, .i32, .i32, .i32]),
   ("sock_send", reporting [.i32, .i32, .i32, .i32, .i32]),
   ("sock_shutdown", reporting [.i32, .i32])]

/-- The name of the module that went before. -/
def olderModuleName : String := "wasi_unstable"

/-- The functions of the module that went before: all but one are the same. -/
def olderFunctions : List (String × FuncType) :=
  functions.filter (·.1 ≠ "sock_accept")

/-- The functions of both modules, each under the name of its module and its own. -/
def definitions : List ((String × String) × FuncType) :=
  functions.map (fun (name, t) => ((moduleName, name), t)) ++
    olderFunctions.map (fun (name, t) => ((olderModuleName, name), t))

end UnitFoundry.Wasm.Wasi
