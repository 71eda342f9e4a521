/-!
# Log records

What goes wrong on the way without stopping the program is written to a log.
-/

namespace SourceCheck

/-- How much a log record matters. -/
inductive LogLevel
  | warning
  | error
  deriving Repr, DecidableEq

/-- The part of the program that a log record comes from. -/
inductive LogSource
  | registry
  | settings
  | engine
  deriving Repr, DecidableEq

/-- **A log record.** -/
structure LogRecord where
  level : LogLevel
  source : LogSource
  text : String
  deriving Repr, DecidableEq

end SourceCheck
