import SqlSelect.Config
import SqlSelect.Event

namespace SqlSelect

inductive File where
  | absent
  | directory
  | content (bytes : ByteArray)

structure Environment where
  settingsFile : Option String
  settingsHome : Option String
  home : Option String
  deriving DecidableEq, Repr

namespace Environment

def isAbsolute (path : String) : Bool := path.toList.head? == some '/'

/-- The user's directory of settings. Only an absolute path counts for the one that is set. -/
def userDirectory? (environment : Environment) : Option String :=
  (environment.settingsHome.filter isAbsolute).or
    ((environment.home.filter (!·.isEmpty)).map (· ++ "/.config"))

end Environment

namespace Config

def workingFile : String := "quillsql.toml"

def userFile (directory : String) : String := directory ++ "/quillsql/config.toml"

def ofFile : File → Except ConfigError Config
  | .content bytes =>
    match String.fromUTF8? bytes with
    | some source => ofToml source
    | none => .error .unreadable
  | .absent | .directory => .error .unreadable

def searchUser (environment : Environment) (file : String → File) : Config × List Event :=
  match environment.userDirectory?.map fun directory => ofFile (file (userFile directory)) with
  | some (.ok config) => (config, [.configFromUser])
  | _ => ({}, [.configDefault])

def searchWorking (environment : Environment) (file : String → File) : Config × List Event :=
  match ofFile (file workingFile) with
  | .ok config => (config, [.configFromDirectory])
  | .error _ => searchUser environment file

def search (environment : Environment) (file : String → File) : Config × List Event :=
  match environment.settingsFile with
  | none => searchWorking environment file
  | some path =>
    match ofFile (file path) with
    | .ok config => (config, [.configFromVariable])
    | .error _ =>
      let (config, events) := searchWorking environment file
      (config, .variableIgnored :: events)

end Config
end SqlSelect
