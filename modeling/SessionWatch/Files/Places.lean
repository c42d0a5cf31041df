/-
# Where things are

The socket, the configuration and the logs are kept in a directory below the
home directory. Variables of the environment name other places for the socket
and the configuration; an empty variable counts as unset.

Key definitions: `Environment`, `Environment.socket?`, `Environment.config?`,
`Environment.logDir?`.
-/

namespace SessionWatch

/-- The variables that matter, and the home directory that the system has for the account. -/
structure Environment where
  home : Option String
  socketPath : Option String
  configPath : Option String
  accountHome : Option String

/-- A path below a directory, or the path itself if it starts at the root. -/
def joinPath (dir path : String) : String :=
  if dir = "" ∨ path.toList.head? = some '/' then path
  else if dir.toList.getLast? = some '/' then dir ++ path
  else dir ++ "/" ++ path

/-- A variable that is set to something. -/
def nonEmpty? (v : Option String) : Option String := v.filter (· ≠ "")

namespace Environment

def home? (e : Environment) : Option String := nonEmpty? e.home <|> e.accountHome

/-- The directory of the program in the home directory. -/
def attnDir? (e : Environment) : Option String := e.home?.map (joinPath · ".attn")

/-- The path of the socket. -/
def socket? (e : Environment) : Option String :=
  nonEmpty? e.socketPath <|> e.attnDir?.map (joinPath · "attn.sock")

/-- The path of the configuration. -/
def config? (e : Environment) : Option String :=
  nonEmpty? e.configPath <|> e.attnDir?.map (joinPath · "config.toml")

/-- The directory of the logs. -/
def logDir? (e : Environment) : Option String := e.attnDir?.map (joinPath · "logs")

end Environment

end SessionWatch
