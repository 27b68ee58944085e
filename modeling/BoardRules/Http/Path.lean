import BoardRules.Engine.Fault
import BoardRules.Url.Basic

/-!
Paths of requests. A target is looked up from the root of the site unless it says where the site
itself is; what follows a question mark or a hash sign is not part of its path.
-/
namespace BoardRules.Http

open BoardRules.Text

/-- The path of a URL, from the root of the site if the URL does not say where that is. -/
def escapedPath? (u : Url) : Option (List Char) :=
  if u.isAbsolute then some u.path.toList
  else
    let path := Url.withoutDots (Url.cutAt '?' u.fromRoot.toList).1
    if Url.lengthLimit < path.length then none else some path

/-- The path that the server sees: escapes are replaced twice, by the client and by the server. -/
def seenPath (escaped : List Char) : List Char :=
  Url.unescape (Url.unescape (if escaped.isEmpty then ['/'] else escaped))

def addressFault? (u : Url) : Option AddressFault :=
  if !u.isAbsolute then none
  else if u.scheme = "http" ∨ u.scheme = "https" then
    if u.host.contains ':' then some .unclearPort else none
  else if u.scheme = "ws" ∨ u.scheme = "wss" then some .connection
  else some .noPort

/-- The characters that the address of another request may contain without being escaped. -/
def isSafeInAddress (c : Char) : Bool := ":/%#?=@[]!$&'()*+,;".toList.contains c

def ledTo (path : List Char) : List Char :=
  seenPath (Url.withoutDots ((Url.embed path).flatMap (Url.escapeChar isSafeInAddress)))

end BoardRules.Http
