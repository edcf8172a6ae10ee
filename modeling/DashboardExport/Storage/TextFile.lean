import DashboardExport.Storage.FileStore
import DashboardExport.Text.FileText

/-!
# Text files

Reading a file of the store as a text.
-/

set_option autoImplicit false

namespace DashboardExport.Storage

/-- Why a text file cannot be read. -/
inductive TextFileError where
  | system (error : SystemError)
  /-- The file is not UTF-8.  The text is what was decoded before that was found. -/
  | encoding (before : String)
  deriving DecidableEq

/-- The text of a file. -/
def FileStore.readText (store : FileStore) (path : Path) : Except TextFileError String :=
  match store.read path with
  | .error error => .error (.system error)
  | .ok contents => (Text.decodeFile contents).mapError .encoding

end DashboardExport.Storage
