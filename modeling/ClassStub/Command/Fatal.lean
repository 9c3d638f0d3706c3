import ClassStub.Archive.Basic
import ClassStub.ClassFile.Fault
import ClassStub.Settings.Source

/-!
# Fatal errors

What ends a run before it is finished. The message starts with what could not be done and adds the causes one
after the other; a cause that already ends the text in front of it is said again.
-/

namespace ClassStub.Command

/-- Why a run ends early. -/
inductive Fatal where
  | currentDirectory (error : FileError)
  | settings (error : Settings.LoadError)
  | pattern (bad : BadPattern)
  | classes (input : Path) (fault : Archive.Fault)
  | createDirectory (path : Path) (error : FileError)
  | writeFile (path : Path) (error : FileError)
  | readFile (path : Path) (error : FileError)
  | parse (path : Path) (fault : ClassFile.Fault)
  /-- The report cannot be shown as JSON, as the path of a file is no text. -/
  | json

/-- What could not be done, and its causes. -/
def Fatal.chain : Fatal → List String
  | currentDirectory error => ["failed to determine current directory", error.message]
  | settings (.unreadable path cause) => [(Settings.LoadError.unreadable path cause).message, cause.message]
  | settings (.text cause) => [cause.message]
  | pattern bad => [bad.message, bad.cause]
  | classes input fault => ["failed to read classes from " ++ input.text, fault.message, fault.cause]
  | createDirectory path error => ["failed to create " ++ path.text, error.message]
  | writeFile path error => ["failed to write " ++ path.text, error.message]
  | readFile path error => ["failed to read " ++ path.text, error.message]
  | parse path fault => ["failed to parse " ++ path.text, fault.message]
  | json => ["path contains invalid UTF-8 characters"]

/-- The wording of a fatal error. -/
def Fatal.message (f : Fatal) : String := String.intercalate ": " f.chain

end ClassStub.Command
