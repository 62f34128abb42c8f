import DocRunner.Refusal
import DocRunner.Schema

/-!
# Why a task fails

`Failure` lists the causes, `Failure.message` is their wording, and `Failure.exitCode` the exit code of a
program that ends with one: a failed step hands on its own code, and every other cause gives 1.
-/

namespace DocRunner

/-- Why the start of a program, a change of directory, the settling of the settings or a task fails. -/
inductive Failure
  /-- A step ended with an exit code other than 0, or was killed (`none`). -/
  | stepFailed (command : String) (code : Option Int)
  /-- A step could not be started. -/
  | notStarted (command : String) (why : Refusal)
  /-- A directory could not be read. -/
  | unreadableDirectory (path : String) (why : Refusal)
  /-- An entry could not be removed. -/
  | notRemoved (path : String) (why : Refusal)
  /-- A file could not be read as text. -/
  | unreadableFile (why : Refusal)
  /-- The working directory of the program could not be told. -/
  | noCurrentDirectory (why : Refusal)
  /-- A path to work in names no directory. -/
  | noDirectory (path : String)
  /-- A settings file was asked for that is not there. -/
  | settingsNotFound (path : String)
  /-- A settings file does not hold settings. -/
  | settingsInvalid (path : String) (why : DocumentError)
  /-- The variable for the port holds no port. -/
  | portInvalid (value : String)
  deriving DecidableEq, Repr

namespace Failure

/-- How a failure reads. -/
def message : Failure → String
  | stepFailed command (some code) => "`" ++ command ++ "` exited with code " ++ toString code
  | stepFailed command none => "`" ++ command ++ "` was terminated by a signal"
  | notStarted command why => "Failed to start `" ++ command ++ "`: " ++ why.message
  | unreadableDirectory path why => "failed read directory `" ++ path ++ "`: " ++ why.message
  | notRemoved path why => "failed to remove path `" ++ path ++ "`: " ++ why.message
  | unreadableFile why => why.message
  | noCurrentDirectory why => "failed to get current directory: " ++ why.message
  | noDirectory path => "Not a directory: " ++ path
  | settingsNotFound path => "Config file not found: " ++ path
  | settingsInvalid path why => "Invalid config file " ++ path ++ ": " ++ why.message "TOML syntax error"
  | portInvalid value => "Invalid PORT value: " ++ value

/-- The exit code of a program that ends with a failure. -/
def exitCode : Failure → Int
  | stepFailed _ (some code) => code
  | _ => 1

end Failure

end DocRunner
