import TrainingPortal.Encoding.Form
import TrainingPortal.Text.Blank
import TrainingPortal.Url.Host

/-!
# URLs

The absolute URLs of the schemes http and https. `Url.parse` brings a text into normal form: blanks
at the ends and line breaks are dropped, any number of slashes of either kind may follow the scheme,
the host is in its normal form and the port is left out where it is the usual one, `.` and `..` are
resolved in the path, and what may not stand in a part is percent-encoded.
-/

namespace TrainingPortal

open Text Encoding

/-- An absolute URL in normal form. -/
structure Url where
  /-- Whether the scheme is https. -/
  secure : Bool
  username : List Char
  password : List Char
  host : List Char
  /-- The port, where it is not the usual one of the scheme. -/
  port : Option Nat
  /-- The segments of the path, at least one. -/
  path : List (List Char)
  query : Option (List Char)
  fragment : Option (List Char)
  deriving DecidableEq, Inhabited

namespace Url

/-! ## Parts of a text -/

/-- The text without what may not stand at its ends or anywhere in a URL. -/
def tidy (cs : List Char) : List Char :=
  (dropTailWhile (·.toNat ≤ 0x20) (cs.dropWhile (·.toNat ≤ 0x20))).filter fun c =>
    c != '\t' && c != '\n' && c != '\r'

/-- Whether a character may stand in a scheme behind the first. -/
def isSchemeChar (c : Char) : Bool :=
  isWordChar c || c == '+' || c == '-' || c == '.'

/-- The scheme in lower case and the text after its colon. -/
def cutScheme (cs : List Char) : Option (List Char × List Char) :=
  match cs with
  | c :: _ =>
    if isLetter c then
      match cs.dropWhile isSchemeChar with
      | ':' :: rest => some ((cs.takeWhile isSchemeChar).map lower, rest)
      | _ => none
    else none
  | [] => none

/-- Whether a character is a slash of either kind. -/
def isSlash (c : Char) : Bool := c == '/' || c == '\\'

/-- Whether a character ends the authority of a URL. -/
def endsAuthority (c : Char) : Bool := isSlash c || c == '?' || c == '#'

/-! ## What is encoded where -/

/-- Whether a character stands for itself in a fragment. -/
def inFragment (c : Char) : Bool :=
  0x20 < c.toNat && c.toNat < 0x7F && !"\"<>`".toList.contains c

/-- Whether a character stands for itself in a path. -/
def inPath (c : Char) : Bool := inFragment c && !"#?\x7b\x7d".toList.contains c

/-- Whether a character stands for itself in a user name. -/
def inUserinfo (c : Char) : Bool := inPath c && !"/:;=@[\\]^|".toList.contains c

/-- Whether a character stands for itself in a query. -/
def inQuery (c : Char) : Bool := 0x20 < c.toNat && c.toNat < 0x7F && !"\"#<>'".toList.contains c

/-! ## Reading -/

/-- Whether a segment of a path stays where it is. -/
def isDot (segment : List Char) : Bool :=
  segment == ['.'] || segment.map lower == "%2e".toList

/-- Whether a segment of a path goes up. -/
def isDoubleDot (segment : List Char) : Bool :=
  ["..", ".%2e", "%2e.", "%2e%2e"].contains (String.ofList (segment.map lower))

/-- The segments of a path with dot segments resolved, `above` being those before them. -/
def resolve (above : List (List Char)) : List (List Char) → List (List Char)
  | [] => above
  | segment :: rest =>
    if isDoubleDot segment then
      resolve (if rest.isEmpty then above.dropLast ++ [[]] else above.dropLast) rest
    else if isDot segment then resolve (if rest.isEmpty then above ++ [[]] else above) rest
    else resolve (above ++ [Percent.encodeWith inPath segment]) rest

/-- The segments of a path, after the slash in front. -/
def readPath (cs : List Char) : List (List Char) :=
  let cs := cs.map fun c => if c = '\\' then '/' else c
  resolve [] (Path.segments (match cs with | '/' :: rest => rest | cs => cs))

/-- The user name and password in an authority, and the rest of it. -/
def readUserinfo (authority : List Char) : (List Char × List Char) × List Char :=
  match (authority.reverse.takeWhile (· != '@')).reverse, authority.contains '@' with
  | rest, true =>
    let userinfo := authority.take (authority.length - rest.length - 1)
    let (name, password) := cutWhere (· == ':') userinfo
    ((Percent.encodeWith inUserinfo name, Percent.encodeWith inUserinfo (password.drop 1)), rest)
  | _, false => (([], []), authority)

/-- The host part of an authority and the port after it. -/
def cutPort (cs : List Char) : List Char × List Char :=
  match cs with
  | '[' :: _ =>
    let (inside, rest) := cutWhere (· == ']') cs
    let (more, port) := cutWhere (· == ':') (rest.drop 1)
    (inside ++ rest.take 1 ++ more, port.drop 1)
  | cs =>
    let (host, port) := cutWhere (· == ':') cs
    (host, port.drop 1)

/-- The usual port of a scheme. -/
def usualPort (secure : Bool) : Nat := if secure then 443 else 80

/-- A port; none where it is the usual one or not given. -/
def readPort (secure : Bool) (cs : List Char) : Except Fault (Option Nat) :=
  if cs.isEmpty then .ok none
  else if !cs.all isDigit || ofDigits 10 cs > 65535 then .error .invalidPort
  else .ok (if ofDigits 10 cs = usualPort secure then none else some (ofDigits 10 cs))

/-- The URL of a text. -/
def parse (text : String) : Except Fault Url := do
  match cutScheme (tidy text.toList) with
  | none => .error .noScheme
  | some (scheme, rest) =>
    if scheme ≠ "http".toList ∧ scheme ≠ "https".toList then .error .otherScheme
    else
      let secure : Bool := scheme == "https".toList
      let (authority, rest) := cutWhere endsAuthority (rest.dropWhile isSlash)
      let ((username, password), hostPort) := readUserinfo authority
      let (host, port) := cutPort hostPort
      if host.isEmpty then .error .emptyHost
      else
        let host ← readHost host
        let port ← readPort secure port
        let (beforeFragment, fragment) := cutWhere (· == '#') rest
        let (path, query) := cutWhere (· == '?') beforeFragment
        return {
          secure, username, password, host, port
          path := readPath path
          query := if query.isEmpty then none else some (Percent.encodeWith inQuery (query.drop 1))
          fragment :=
            if fragment.isEmpty then none
            else some (Percent.encodeWith inFragment (fragment.drop 1)) }

/-! ## Writing -/

/-- The text of a URL up to its fragment. -/
def writeChars (u : Url) : List Char :=
  (if u.secure then "https://".toList else "http://".toList) ++
    (if u.username.isEmpty && u.password.isEmpty then []
      else u.username ++ (if u.password.isEmpty then [] else ':' :: u.password) ++ ['@']) ++
    u.host ++ (match u.port with | none => [] | some port => ':' :: decimal port) ++
    u.path.flatMap ('/' :: ·) ++
    (match u.query with | none => [] | some query => '?' :: query)

/-- The text of a URL with its fragment. -/
def write (u : Url) : String :=
  String.ofList (u.writeChars ++ match u.fragment with | none => [] | some f => '#' :: f)

/-- The URL with pairs added to its query. -/
def addPairs (u : Url) (pairs : List (String × String)) : Url :=
  if pairs.isEmpty then u
  else
    let added := Form.encodeChars pairs
    { u with query := some (match u.query with
        | none | some [] => added
        | some query => query ++ '&' :: added) }

@[simp] theorem host_addPairs (u : Url) (pairs : List (String × String)) :
    (u.addPairs pairs).host = u.host := by
  unfold addPairs
  split <;> rfl

end Url

end TrainingPortal
