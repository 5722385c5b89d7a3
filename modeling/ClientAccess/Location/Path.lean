/-! Absolute paths. A path stands for its non-empty segments between slashes; the canonical
spelling has one slash before each of them, and the root is a single slash. -/
namespace ClientAccess.Path

def segments (path : String) : List (List Char) :=
  (path.toList.splitOn '/').filter (!·.isEmpty)

def ofSegments (segments : List (List Char)) : String :=
  String.ofList ('/' :: ['/'].intercalate segments)

def normalize (path : String) : String :=
  ofSegments (segments path)

def isRooted (path : String) : Bool := path.toList.head? == some '/'

/-- The path of a child below its parent; a rooted child stands for itself. -/
def under (parent child : String) : String :=
  if isRooted child then normalize child
  else normalize (parent ++ "/" ++ child)

theorem normalize_congr {p q : String} (h : segments p = segments q) :
    normalize p = normalize q := congrArg ofSegments h

end ClientAccess.Path
