/-!
# Log lines

What the site writes to its log: lines with a level.
-/

namespace DonationSite.Log

/-- How serious a line is. -/
inductive Level where
  | debug
  | info
  | error
  deriving DecidableEq, Repr

/-- The word for a level. -/
def Level.word : Level → String
  | .debug => "DEBUG"
  | .info => "INFO"
  | .error => "ERROR"

/-- A line of the log. -/
structure Line where
  level : Level
  message : String
  deriving DecidableEq, Repr

end DonationSite.Log
