/-!
The version of the library.
-/

namespace Sexpr

def version : String := "0.1.0"

end Sexpr
