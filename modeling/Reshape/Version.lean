/-!
# Version

* **`version`** — the version of the library.
-/

namespace Reshape

/-- The version of the library. -/
def version : String := "0.1.0"

end Reshape
