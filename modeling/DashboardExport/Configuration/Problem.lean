import DashboardExport.Configuration.Profiles
import DashboardExport.Decoding.Issue
import DashboardExport.Storage.TextFile
import DashboardExport.Yaml.Value

/-!
# Problems with the configuration

What can go wrong between the first look for a configuration file and a usable
configuration.  Faults of the files, of placeholders and of the values end an
export in good order.  A few things that the files can hold are not expected
(`reported` is false), such as bytes that are no text, and scalars with a type that
their text has not.
-/

set_option autoImplicit false

namespace DashboardExport.Configuration

open Storage

inductive Problem where
  /-- A placeholder names a variable that is not set or empty. -/
  | unsetVariable (name : String)
  | unreadable (path : Path) (error : SystemError)
  /-- The configuration file is not well formed. -/
  | malformed (path : Path)
  /-- The configuration file has a fault that its reader does not foresee. -/
  | unforeseen (fault : Yaml.Fault)
  | notMapping (path : Path)
  | badProfiles (path : Path) (fault : ProfilesFault)
  /-- The profile file is not UTF-8. -/
  | encoding
  | noProfileFile (path : Path)
  /-- There is no profile of the name, which is given as messages show it. -/
  | noProfile (shown : String) (path : Path)
  /-- What stands where a profile is named cannot be one, or messages do not show it. -/
  | unusableProfile (fault : Yaml.Value.KeyFault)
  /-- A path, or the user in it, is one that the system does not look up. -/
  | unusablePath (error : SystemError)
  /-- The path of the profile file begins with a home directory that is not known. -/
  | noHome
  | invalid (issues : List Decoding.Issue)
  deriving DecidableEq

/-- The words for a fault of the configuration file.  Where the decoder fails, they are left out. -/
def faultMessage : Yaml.Fault → String
  | .malformed => ""
  | .escapeOutOfRange code =>
    if code < 0x80000000 then "chr() arg not in range(0x110000)"
    else "Python int too large to convert to C int"
  | .badInteger message => message
  | .badFloat text => "could not convert string to float: " ++ Text.literal text
  | .emptyNumber => "string index out of range"
  | .badTruth text => Text.literal text
  | .badDate reason => reason
  | .notDate => "'NoneType' object has no attribute 'groupdict'"
  | .mappingAsDate => "expected string or bytes-like object, got 'list'"
  | .hugeWeight => "int too large to convert to float"
  | .undecodable => ""

namespace Problem

def message : Problem → String
  | .unsetVariable name => "环境变量 " ++ name ++ " 未设置"
  | .unreadable path error =>
    if error.fault.fromSystem then "Error loading " ++ path.text ++ ": " ++ error.message
    else error.message
  | .malformed path => "Error loading " ++ path.text
  | .unforeseen fault => faultMessage fault
  | .notMapping path => path.text ++ " must contain a mapping at the top level"
  | .badProfiles path fault => "Error loading " ++ path.text ++ ": " ++ fault.message path
  | .encoding => ""
  | .noProfileFile path => "Profile file " ++ path.text ++ " not found"
  | .noProfile shown path => "Profile " ++ shown ++ " not found in " ++ path.text
  | .unusableProfile fault => fault.message
  | .unusablePath error => error.message
  | .noHome => "Could not determine home directory."
  | .invalid _ => "Invalid configuration"

/-- Whether a problem ends an export in good order. -/
def reported : Problem → Bool
  | .unreadable _ error => error.fault.fromSystem
  | .unforeseen _ => false
  | .encoding => false
  | .unusableProfile _ => false
  | .unusablePath _ => false
  | .noHome => false
  | _ => true

end Problem

end DashboardExport.Configuration
