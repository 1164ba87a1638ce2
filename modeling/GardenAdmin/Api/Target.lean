import GardenAdmin.Settings.Basic

/-!
# Request targets

The part of a URL that a request line names: its path and its query. In the path of an HTTP request
the segments `.` and `..` are resolved.
-/

namespace GardenAdmin

/-- A segment that stands for the place it is in. -/
def isHere (segment : String) : Bool := segment == "." || segment.toLower == "%2e"

/-- A segment that stands for the place above. -/
def isAbove (segment : String) : Bool :=
  [ "..", ".%2e", "%2e.", "%2e%2e" ].contains segment.toLower

/-- The segments after `before`, which is in reverse, without those that only name a place. A path that
ends in one of these ends in a slash. -/
def resolve (before : List String) : List String → List String
  | [] => before.reverse
  | [s] =>
    if isHere s then ("" :: before).reverse
    else if isAbove s then ("" :: before.tail).reverse
    else (s :: before).reverse
  | s :: rest =>
    if isHere s then resolve before rest
    else if isAbove s then resolve before.tail rest
    else resolve (s :: before) rest

/-- The parts of a path between its slashes. -/
def segments (path : String) : List String := (path.toList.splitOn '/').map String.ofList

/-- The resolved form of a path. -/
def resolvePath (path : String) : String :=
  "/" ++ "/".intercalate (resolve [] (segments ((after? "/" path).getD path)))

/-- What comes before and after the first character of that kind, which stays with the rest. -/
def breakAt (p : Char → Bool) (s : String) : String × String :=
  (.ofList (s.toList.takeWhile (!p ·)), .ofList (s.toList.dropWhile (!p ·)))

/-- What follows the scheme of a URL of one of these schemes. -/
def afterScheme? (schemes : List String) (url : String) : Option String :=
  schemes.findSome? fun scheme => after? (scheme ++ "://") url

/-- Path and query of a URL of one of these schemes; `none` for another scheme or without a host. -/
def pathAndQuery? (schemes : List String) (url : String) : Option (String × String) := do
  let rest ← afterScheme? schemes url
  let (authority, rest) := breakAt (fun c => c == '/' || c == '?' || c == '#') rest
  if authority = "" then none
  return breakAt (· == '?') (breakAt (· == '#') rest).1

/-- The target of an HTTP request. -/
def httpTarget? (url : String) : Option String :=
  (pathAndQuery? ["http", "https"] url).map fun (path, query) => resolvePath path ++ query

/-- The target of a websocket handshake, whose path is taken as it is. -/
def websocketTarget? (url : String) : Option String :=
  (pathAndQuery? ["ws", "wss"] url).map fun (path, query) =>
    (if path = "" then "/" else path) ++ query

end GardenAdmin
