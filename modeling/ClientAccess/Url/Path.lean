import ClientAccess.Url.Escape
/-! Paths of URLs, built segment by segment. A dot leads nowhere and two dots lead back over the
segment before, but never over a drive. -/
namespace ClientAccess.Url.Path

def isDot (segment : List Char) : Bool :=
  [".", "%2e"].contains (String.ofList (segment.map Char.toLower))

def isDoubleDot (segment : List Char) : Bool :=
  ["..", ".%2e", "%2e.", "%2e%2e"].contains (String.ofList (segment.map Char.toLower))

def isDrive : List Char → Bool
  | [a, b] => a.isAlpha && (b == ':' || b == '|')
  | _ => false

def beginsWithDrive (segment : List Char) : Bool :=
  isDrive (segment.take 2) && (segment.drop 2).head?.all (· == '\\')

/-- A path so far, in reverse, and whether the URL keeps its host with it. -/
structure Draft where
  text : List Char
  keepsHost : Bool

def dropSlash : List Char → List Char
  | '/' :: text =>
    if text.contains '/' && !beginsWithDrive (text.takeWhile (· != '/')).reverse then text
    else '/' :: text
  | text => text

def dropSegment (text : List Char) : List Char := text.dropWhile (· != '/')

def close (text : List Char) : List Char :=
  if text.head? = some '/' then text else '/' :: text

def addPlain (d : Draft) (segment : List Char) (more : Bool) : Draft :=
  let text := (escape inPath segment).reverse ++ d.text
  { d with text := if more then '/' :: text else text }

/-- Puts a segment at the end; `more` tells whether a slash follows. The first segment of a file's
path may be a drive; it is written with a colon, and a file on a drive has no host. -/
def add (f : Family) (d : Draft) (segment : List Char) (more : Bool) : Draft :=
  if isDoubleDot segment then
    let text := dropSegment (dropSlash d.text)
    { d with text := if more then close text else text }
  else if isDot segment then { d with text := close d.text }
  else if f == .file && d.text.length == 1 && isDrive segment then
    addPlain ⟨d.text, false⟩ (segment.take 1 ++ [':']) more
  else addPlain d segment more

def addAll (f : Family) (d : Draft) : List (List Char) → Draft
  | [] => d
  | [s] => add f d s false
  | s :: t :: rest => addAll f (add f d s true) (t :: rest)

def build (f : Family) (start cs : List Char) : List Char × Bool :=
  let d := addAll f ⟨start, true⟩ (cs.splitOnP (isSlash f))
  let text := d.text.reverse
  (if f == .file then '/' :: text.dropWhile (· == '/') else text, d.keepsHost)

def afterAuthority (f : Family) (cs : List Char) : List Char × Bool :=
  match cs with
  | [] => if f.isSpecial then build f ['/'] [] else ([], true)
  | c :: rest =>
    if f.isSpecial then build f ['/'] (if isSlash f c then rest else cs)
    else build f (if c = '/' then [] else ['/']) cs

end ClientAccess.Url.Path
