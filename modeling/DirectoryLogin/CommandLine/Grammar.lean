import DirectoryLogin.Settings.Site

/-!
# What the command line understands

A command stands after the options of the program and before options of its own. An option with a
value is a `Setting`: a variable of the environment can give it too. One without a value is a
`Switch`.
-/

namespace DirectoryLogin.CommandLine

/-- An option with a value. -/
inductive Setting where
  | config
  | bindAddress
  | port
  | databaseUrl
  | logLevel
  | logFormat
  deriving DecidableEq, Repr

/-- An option without a value. -/
inductive Switch where
  | testConnections
  | help
  | version
  deriving DecidableEq, Repr

/-- Where an option stands: before the command, or after one. -/
inductive Scope where
  | program
  | server
  | checkConfig
  | version
  deriving DecidableEq, Repr

inductive Command where
  /-- Serves logins. -/
  | server
  /-- Looks at the settings, and at the directory servers if asked to. -/
  | checkConfig (testConnections : Bool)
  /-- Tells the version. -/
  | version
  deriving DecidableEq, Repr

/-- A page of help. -/
inductive Page where
  | of (scope : Scope)
  /-- On the word that asks for help. -/
  | help
  deriving DecidableEq, Repr

namespace Setting

/-- The letter that is short for the option. -/
def letter? : Setting → Option Char
  | config => some 'c'
  | port => some 'p'
  | _ => none

/-- The word of the option, after two hyphens. -/
def word : Setting → String
  | config => "config"
  | bindAddress => "bind"
  | port => "port"
  | databaseUrl => "database-url"
  | logLevel => "log-level"
  | logFormat => "log-format"

/-- What stands for the value in a page of help. -/
def valueName : Setting → String
  | config => "CONFIG"
  | bindAddress => "BIND"
  | port => "PORT"
  | databaseUrl => "DATABASE_URL"
  | logLevel => "LOG_LEVEL"
  | logFormat => "LOG_FORMAT"

/-- The variable of the environment that gives the setting too. -/
def variableName : Setting → String
  | config => "LDAPGATE_CONFIG"
  | bindAddress => "LDAPGATE_BIND_ADDRESS"
  | port => "LDAPGATE_PORT"
  | databaseUrl => "LDAPGATE_DATABASE_URL"
  | logLevel => "LDAPGATE_LOG_LEVEL"
  | logFormat => "LDAPGATE_LOG_FORMAT"

def about : Setting → String
  | config => "Configuration file path"
  | bindAddress => "Bind address"
  | port => "Port number"
  | databaseUrl => "Database URL"
  | logLevel => "Log level (trace, debug, info, warn, error)"
  | logFormat => "Log format (pretty, json)"

end Setting

namespace Switch

def letter? : Switch → Option Char
  | testConnections => none
  | help => some 'h'
  | version => some 'V'

def word : Switch → String
  | testConnections => "test-connections"
  | help => "help"
  | version => "version"

def about : Switch → String
  | testConnections => "Also bind to every enabled directory server"
  | help => "Print help"
  | version => "Print version"

end Switch

namespace Scope

/-- The settings that can be given here, in the order of the help. -/
def settings : Scope → List Setting
  | program => [.config, .bindAddress, .port, .databaseUrl, .logLevel, .logFormat]
  | _ => [.config]

/-- The switches that can be set here and come before the settings in the help. -/
def ownSwitches : Scope → List Switch
  | checkConfig => [.testConnections]
  | _ => []

/-- The switches that come after the settings in the help. -/
def commonSwitches : Scope → List Switch
  | program => [.help, .version]
  | _ => [.help]

def switches (s : Scope) : List Switch := s.ownSwitches ++ s.commonSwitches

/-- The commands, in the order of the help. -/
def commands : List (String × Scope) :=
  [("server", server), ("check-config", checkConfig), ("version", version)]

/-- The word that asks for a page of help. -/
def helpWord : String := "help"

/-- The scope after a command. -/
def ofCommand? (word : String) : Option Scope := (commands.find? (·.1 == word)).map (·.2)

/-- The command that a scope belongs to. Without a command logins are served. -/
def command (testConnections : Bool) : Scope → Command
  | program => .server
  | server => .server
  | checkConfig => .checkConfig testConnections
  | version => .version

end Scope

/-- A port number as the command line takes it. A minus sign may stand in front of zero. -/
def portNumber? (text : String) : Option Nat :=
  match text.toList with
  | '-' :: digits => if !digits.isEmpty && digits.all (· == '0') then some 0 else none
  | _ => Settings.Site.port? text

/-- The value can be used for the setting. -/
def Setting.takes : Setting → String → Bool
  | port, value => (portNumber? value).isSome
  | _, _ => true

end DirectoryLogin.CommandLine
