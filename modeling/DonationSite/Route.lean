/-!
# Routes

The pages of the site and their paths. A path may end in one slash more; every path that belongs to
no page is `notFound`.
-/

namespace DonationSite

/-- A page of the site. -/
inductive Route where
  | home
  | pricing
  | donate
  | billing
  | notFound
  deriving DecidableEq, Repr

namespace Route

/-- All pages, in the order of their paths. -/
def all : List Route := [.home, .pricing, .donate, .billing, .notFound]

/-- The path of a page without its leading slash. -/
def tail : Route → String
  | .home => ""
  | .pricing => "pricing"
  | .donate => "donate"
  | .billing => "billing"
  | .notFound => "404"

/-- The path of a page. -/
def path (route : Route) : String :=
  "/" ++ route.tail

/-- Drops one slash at the end. -/
def dropLastSlash (cs : List Char) : List Char :=
  if cs.getLast? = some '/' then cs.dropLast else cs

/-- Drops one slash at the beginning. -/
def dropFirstSlash : List Char → List Char
  | '/' :: rest => rest
  | cs => cs

/-- The page of a path. -/
def ofPath (path : String) : Route :=
  let rest := dropFirstSlash (dropLastSlash path.toList)
  (all.find? (·.tail.toList = rest)).getD .notFound

end Route

end DonationSite
