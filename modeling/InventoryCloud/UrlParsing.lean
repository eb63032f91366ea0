import Mathlib
import InventoryCloud.DelimitedTexts
import InventoryCloud.TextPatterns

/-!
# Python's `urlparse`

`urllib.parse` as far as a reader of scheme, host, user, port, query and
fragment sees it; `none` stands for its `ValueError`.  Lower case, NFKC
normalization and IPv6 addresses come from tables of the interpreter and are
parameters.
-/

namespace Python

open Delimited

def isAscii (char : Char) : Bool :=
  decide (char.toNat < 128)

/-- The functions of the interpreter which `urlparse` uses. -/
structure UrlLibrary where
  /-- `str.lower` -/
  lower : List Char → List Char
  /-- `unicodedata.normalize('NFKC', text)` -/
  normalize : List Char → List Char
  /-- `ipaddress.ip_address(text)` is an IPv6 address. -/
  isIPv6Address : List Char → Bool
  lower_ascii : ∀ text, (∀ char ∈ text, isAscii char = true) →
    lower text = text.map Char.toLower
  lower_capital : ∀ text, ∀ char ∈ lower text, char.isUpper = false

/-! ### Lower case of ASCII -/

/-- A character which is no small letter is the lower case of itself only. -/
theorem eq_of_toLower {char other : Char} (hother : other.isLower = false)
    (hsame : char.toLower = other) : char = other := by
  by_cases hchar : char.isUpper = true
  · have hlower : char.toLower.isLower = true := by
      rw [Char.isLower_toLower_eq_isAlpha, Char.isAlpha, hchar, Bool.true_or]
    rw [hsame, hother] at hlower
    cases hlower
  · rw [← hsame, Char.toLower_eq_of_not_isUpper hchar]

theorem map_toLower_eq {text : List Char}
    (htext : ∀ char ∈ text, char.isUpper = false) :
    text.map Char.toLower = text := by
  have hsame : text.map Char.toLower = text.map id := by
    apply List.map_congr_left
    intro char hchar
    exact Char.toLower_eq_of_not_isUpper (by simp [htext char hchar])
  rw [hsame, List.map_id]

def isC0ControlOrSpace (char : Char) : Bool :=
  decide (char.toNat ≤ 0x20)

def isUnsafe (char : Char) : Bool :=
  char == '\t' || char == '\r' || char == '\n'

/-- The text which `urlsplit` reads: without leading control characters and
spaces and without tabs and line breaks. -/
def sanitized (url : List Char) : List Char :=
  (url.dropWhile isC0ControlOrSpace).filter fun char => !isUnsafe char

def isSchemeChar (char : Char) : Bool :=
  char.isAlphanum || char == '+' || char == '-' || char == '.'

/-- The scheme in lower case and what follows its colon; no scheme if the text
does not start with one. -/
def splitScheme (library : UrlLibrary) (url : List Char) :
    List Char × List Char :=
  let (scheme, found, rest) := partition ':' url
  match scheme with
  | first :: _ =>
      if found && first.isAlpha && scheme.all isSchemeChar then
        (library.lower scheme, rest)
      else ([], url)
  | [] => ([], url)

def isNetlocEnd (char : Char) : Bool :=
  char == '/' || char == '?' || char == '#'

/-- The authority after `//` and the rest. -/
def splitNetloc (url : List Char) : List Char × List Char :=
  match url with
  | '/' :: '/' :: rest =>
      (rest.takeWhile fun char => !isNetlocEnd char,
        rest.dropWhile fun char => !isNetlocEnd char)
  | _ => ([], url)

open TextPattern in
/-- `v[a-fA-F0-9]+\..+` -/
def ipvFuture : TextPattern :=
  chain [literal "v",
    several (.one fun char => char.isDigit || ('a' ≤ char && char ≤ 'f') ||
      ('A' ≤ char && char ≤ 'F')),
    literal ".", several (.one (· ≠ '\n'))]

def checkBracketedHost (library : UrlLibrary) (hostname : List Char) : Bool :=
  match hostname with
  | 'v' :: _ => ipvFuture.fullmatch hostname
  | _ => library.isIPv6Address hostname

def checkBracketedNetloc (library : UrlLibrary) (netloc : List Char) : Bool :=
  let (_, _, hostnameAndPort) := rpartition '@' netloc
  let (beforeBracket, haveOpenBr, bracketed) := partition '[' hostnameAndPort
  if haveOpenBr then
    let (hostname, _, port) := partition ']' bracketed
    beforeBracket.isEmpty && (port.isEmpty || port.head? == some ':') &&
      checkBracketedHost library hostname
  else
    let (hostname, _, _) := partition ':' hostnameAndPort
    checkBracketedHost library hostname

def checkBrackets (library : UrlLibrary) (netloc : List Char) : Bool :=
  if '[' ∈ netloc then ']' ∈ netloc && checkBracketedNetloc library netloc
  else ']' ∉ netloc

/-- `_checknetloc`: normalization brings no delimiter into the authority. -/
def checkNetloc (library : UrlLibrary) (netloc : List Char) : Bool :=
  if netloc.all isAscii then true
  else
    let text := netloc.filter fun char => char ∉ ['@', ':', '#', '?']
    let normal := library.normalize text
    text == normal || normal.all fun char => char ∉ ['/', '?', '#', '@', ':']

structure SplitResult where
  scheme : List Char
  netloc : List Char
  path : List Char
  query : List Char
  fragment : List Char

/-- `urlparse`, with the parameters of the last path segment left in the
path. -/
def urlparse (library : UrlLibrary) (value : List Char) :
    Option SplitResult :=
  let (scheme, hierarchical) := splitScheme library (sanitized value)
  let (netloc, rest) := splitNetloc hierarchical
  let (rest, _, fragment) := partition '#' rest
  let (path, _, query) := partition '?' rest
  if checkBrackets library netloc && checkNetloc library netloc then
    some ⟨scheme, netloc, path, query, fragment⟩
  else none

namespace SplitResult

variable (parsed : SplitResult)

/-- User name and password. -/
def userinfo : Option (List Char) × Option (List Char) :=
  let (userinfo, haveInfo, _) := rpartition '@' parsed.netloc
  if haveInfo then
    let (username, havePassword, password) := partition ':' userinfo
    (some username, if havePassword then some password else none)
  else (none, none)

/-- Host and port, as they are written. -/
def hostinfo : List Char × List Char :=
  let (_, _, hostinfo) := rpartition '@' parsed.netloc
  let (_, haveOpenBr, bracketed) := partition '[' hostinfo
  if haveOpenBr then
    let (hostname, _, rest) := partition ']' bracketed
    let (_, _, port) := partition ':' rest
    (hostname, port)
  else
    let (hostname, _, port) := partition ':' hostinfo
    (hostname, port)

/-- The host, in lower case up to a `%`; empty for `None`. -/
def hostname (library : UrlLibrary) : List Char :=
  let (name, percent, zone) := partition '%' parsed.hostinfo.1
  library.lower name ++ if percent then '%' :: zone else []

def decimalValue (digits : List Char) : Nat :=
  digits.foldl (fun value digit => 10 * value + (digit.toNat - '0'.toNat)) 0

/-- `none` where reading the port raises a `ValueError`. -/
def port : Option (Option Nat) :=
  let text := parsed.hostinfo.2
  if text.isEmpty then some none
  else if text.all Char.isDigit && decimalValue text ≤ 65535 then
    some (some (decimalValue text))
  else none

end SplitResult

end Python
