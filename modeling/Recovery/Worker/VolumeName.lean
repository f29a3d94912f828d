import Recovery.Text.Blank
import Recovery.Text.Digest
/-!
# Volume names

The volumes of a pod are named after the claims and secrets they hold, but have to be DNS labels:
at most 63 lower-case letters, digits and hyphens. A source that does not fit is cut or rewritten,
and then a digest of it tells it from others that would look the same.
-/
set_option autoImplicit false

namespace Recovery

namespace VolumeName

def maxLength : Nat := 63

def digestBytes : Nat := 4

def labelChar (c : Char) : Char := if c.isAlphanum then c.toLower else '-'

def label (source : List Char) : List Char := source.map labelChar

def isHyphen (c : Char) : Bool := c == '-'

def digest (source : String) : List Char :=
  ((Digest.sha256 source.toUTF8.toList).take digestBytes).flatMap Digest.hex

def byteLength (cs : List Char) : Nat := cs.foldr (fun c n => c.utf8Size + n) 0

/-- As many of the characters as there is room for, in bytes. If the room ends within a character,
that is left out, where a cut of the bytes would have to fail. It does not come to that with the
stems in use, `tls` and `src`: with them all names that are cut are ASCII. -/
def takeBytes : (room : Nat) → List Char → List Char
  | _, [] => []
  | room, c :: cs =>
    if c.utf8Size ≤ room then c :: takeBytes (room - c.utf8Size) cs else []

def dropHyphensRight (cs : List Char) : List Char := (cs.reverse.dropWhile isHyphen).reverse

def plain (stem source : List Char) : List Char :=
  stem ++ '-' :: Text.trimBy isHyphen (label source)

/-- A name that is cut to leave room for the digest of its source. -/
def digested (name hash : List Char) : List Char :=
  dropHyphensRight (takeBytes (maxLength - hash.length - 1) name) ++ '-' :: hash

end VolumeName

def volumeName (stem source : String) : String :=
  let name := VolumeName.plain stem.toList source.toList
  if VolumeName.byteLength name ≤ VolumeName.maxLength ∧
      VolumeName.label source.toList = source.toList then
    String.ofList name
  else String.ofList (VolumeName.digested name (VolumeName.digest source))

end Recovery
