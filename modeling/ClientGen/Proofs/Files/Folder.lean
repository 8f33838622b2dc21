import ClientGen.Files.Folder
import Mathlib.Data.List.Basic

/-! Writing a file. It succeeds where no file stands in the way and the place is no directory; then the file has the
content that was given to it, and no other file has changed. -/

set_option autoImplicit false

namespace ClientGen.Files.Folder

end ClientGen.Files.Folder
