import ClientAccess.Location.Path
import ClientAccess.Text.Percent
import ClientAccess.Text.Split
/-! Locations: a path and the pairs of a query, with the text form `/path?key=value&…`. -/
namespace ClientAccess

structure Location where
  path : String
  query : List (String × String)
  deriving DecidableEq, Repr

namespace Location

def ofPath (path : String) : Location := ⟨Path.normalize path, []⟩

def addQuery (l : Location) (key value : String) : Location :=
  { l with query := l.query ++ [(key, value)] }

/-- A key or value as written in a query: a plus is a space and escapes are decoded. A component
whose bytes are not text keeps its escapes. -/
def decodeComponent (cs : List Char) : String :=
  let spaced := String.ofList (cs.map fun c => if c = '+' then ' ' else c)
  (Text.Percent.decode? spaced).getD spaced

/-- The pair of one piece of a query; without an equals sign the value is empty. -/
def decodePair (piece : List Char) : String × String :=
  let (key, value) := (Text.cutFirst '=' piece).getD (piece, [])
  (decodeComponent key, decodeComponent value)

def decodeQuery (cs : List Char) : List (String × String) :=
  ((cs.splitOn '&').filter (!·.isEmpty)).map decodePair

/-- Reads `/path?key=value&…`, dropping a fragment. -/
def parse (text : String) : Location :=
  let cs := Text.upTo '#' text.toList
  let (path, query) := (Text.cutFirst '?' cs).getD (cs, [])
  ⟨Path.normalize (String.ofList path), decodeQuery query⟩

def value? (l : Location) (key : String) : Option String :=
  (l.query.find? (·.1 == key)).map Prod.snd

def encodePair (pair : String × String) : String :=
  Text.Percent.encode pair.1 ++ "=" ++ Text.Percent.encode pair.2

def fullPath (l : Location) : String :=
  if l.query.isEmpty then l.path
  else l.path ++ "?" ++ "&".intercalate (l.query.map encodePair)

end ClientAccess.Location
