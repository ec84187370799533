import QueryText.Dialect.Basic

/-!
# Configuration

What a rendering is told besides the statement: the dialect, whether values are bound as parameters
or written as literals, and whether finished statements are reported to the log.
-/

set_option autoImplicit false

namespace QueryText

structure Settings where
  dialect : Dialect := .sqlServer
  useParameters : Bool := true
  logSql : Bool := true
  deriving DecidableEq

namespace Settings

def standard : Settings := {}

def withDialect (settings : Settings) (dialect : Dialect) : Settings :=
  { settings with dialect }

def binding (settings : Settings) : Settings :=
  { settings with useParameters := true }

def inline (settings : Settings) : Settings :=
  { settings with useParameters := false }

def withLog (settings : Settings) (enabled : Bool) : Settings :=
  { settings with logSql := enabled }

end Settings

end QueryText
