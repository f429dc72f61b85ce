import TimeReports.Address.Host
import TimeReports.Address.Name
import TimeReports.Text.Form
import TimeReports.Text.LowerCase
import TimeReports.Text.Quoted

set_option autoImplicit false

namespace TimeReports.Address

/-- Why a text is no address. -/
inductive Fault where
  | tooLong
  | partTooLong (name : Text)
  | unprintable (character : CodePoint) (position : Nat)
  | badFourPart (host : Text)
  | badBrackets (host : Text)
  | badName (host : Text)
  | badPort (portText : Text)
  | doubleSlash
  | colon
  deriving DecidableEq, Repr

def Fault.message : Fault → Text
  | .tooLong => "URL too long".text
  | .partTooLong name => "URL component '".text ++ name ++ "' too long".text
  | .unprintable character position =>
    "Invalid non-printable ASCII character in URL, ".text ++ Text.quoted [character]
      ++ " at position ".text ++ Text.natDigits position ++ ".".text
  | .badFourPart host => "Invalid IPv4 address: ".text ++ Text.quoted host
  | .badBrackets host => "Invalid IPv6 address: ".text ++ Text.quoted host
  | .badName host => "Invalid IDNA hostname: ".text ++ Text.quoted host
  | .badPort portText => "Invalid port: ".text ++ Text.quoted portText
  | .doubleSlash => "Relative URLs cannot have a path starting with '//'".text
  | .colon => "Relative URLs cannot have a path starting with ':'".text

/-- The most characters of an address and of each of its parts. -/
def lengthLimit : Nat := 65536

/-- The parts of a reference as they are written. -/
structure Reference where
  scheme : Text
  authority : Text
  path : Text
  query : Option Text
  fragment : Text
  deriving DecidableEq, Repr

def isScheme : Text → Bool
  | [] => true
  | first :: rest =>
    first.isAlpha && rest.all fun c => c.isAlphanum || c == '+' || c == '.' || c == '-'

/-- The scheme in front of a colon, and the rest. -/
def takeScheme (text : Text) : Text × Text :=
  match Text.cutAt? ':' text with
  | some (scheme, rest) =>
    if isScheme scheme then (scheme.map CodePoint.toLower, rest) else ([], text)
  | none => ([], text)

/-- The authority behind two slashes, and the rest. -/
def takeAuthority : Text → Text × Text
  | .char '/' :: .char '/' :: rest =>
    rest.span fun c : CodePoint => c != '/' && c != '?' && c != '#'
  | text => ([], text)

def Reference.split (text : Text) : Reference :=
  let (scheme, rest) := takeScheme text
  let (authority, rest) := takeAuthority rest
  let (path, rest) := rest.span fun c : CodePoint => c != '?' && c != '#'
  let query := match rest with
    | .char '?' :: rest => some (rest.takeWhile (· ≠ .char '#'))
    | _ => none
  ⟨scheme, authority, path, query, (rest.dropWhile (· ≠ .char '#')).drop 1⟩

/-- An authority: who asks, which host, and the number behind it as it is written. -/
structure Authority where
  user : Text
  host : Text
  portText : Text
  deriving DecidableEq, Repr

/-- A text up to the last occurrence of a character and behind it, if the character occurs. -/
def cutAtLast? (mark : CodePoint) (text : Text) : Option (Text × Text) :=
  (Text.cutAt? mark text.reverse).map fun (behind, before) => (before.reverse, behind.reverse)

/-- Splits an authority. A host in brackets goes up to the last bracket. -/
def Authority.split (text : Text) : Authority :=
  let (user, rest) := (cutAtLast? '@' text).getD ([], text)
  let (host, rest) : Text × Text :=
    match rest, cutAtLast? ']' rest with
    | .char '[' :: _, some (inside, behind) => (inside ++ "]".text, behind)
    | _, _ => rest.span (· ≠ ':')
  let portText := match rest with
    | .char ':' :: behind => behind
    | behind => behind
  ⟨user, host, portText⟩

/-- The number that a scheme implies behind the host. -/
def impliedPort? (scheme : Text) : Option Int :=
  [("ftp".text, 21), ("http".text, 80), ("https".text, 443), ("ws".text, 80),
    ("wss".text, 443)].lookup scheme

/-- The number that an authority names behind the host, unless its scheme implies it. -/
def readPort (scheme portText : Text) : Except Fault (Option Int) :=
  if portText.isEmpty then .ok none
  else
    match Number.readWhole portText with
    | .ok number => .ok (if impliedPort? scheme = some number then none else some number)
    | .error _ => .error (.badPort portText)

/-- The segments of a path without those that stand for their own or for the outer directory. -/
def resolveDots (segments : List Text) : List Text :=
  segments.foldl (fun kept segment =>
    if segment = ".".text then kept
    else if segment = "..".text then
      if kept = [] ∨ kept = [[]] then kept else kept.dropLast
    else kept ++ [segment]) []

def normalPath (path : Text) : Text :=
  let segments := Text.pieces '/' path
  if segments.contains ".".text || segments.contains "..".text then
    Text.join ['/'] (resolveDots segments)
  else path

def staysInQuery (c : CodePoint) : Bool :=
  0x20 < c.toNat && c.toNat < 0x7F && c != '"' && c != '#' && c != '<' && c != '>'

def staysInPath (c : CodePoint) : Bool :=
  staysInQuery c && c != '?' && c != '\x60' && c != '\x7b' && c != '\x7d'

/-- A text in which the characters that do not stay are written as bytes in hexadecimal. -/
def encoded (stays : CodePoint → Bool) (text : Text) : Text :=
  text.flatMap fun c => if stays c then [c] else (Text.utf8Char c).flatMap Text.percentByte

def staysInFragment (c : CodePoint) : Bool := c = '#' || (staysInQuery c && c != '\x60')

/-- Characters that the name of who asks shows as they are. -/
def staysInUser (c : CodePoint) : Bool := staysInPath c && !"/;=@[\\]^|".text.contains c

def staysInHost (c : CodePoint) : Bool :=
  0x20 < c.toNat && c.toNat < 0x7F && !"#/:<>?@[]^".text.contains c

/-- A host as an address writes it: in small letters, and in ASCII. A host that has the form of
numbers has to be one. -/
def hostText (host : Text) : Except Fault Text :=
  if looksFourPart host then
    if isFourPart host then .ok host else .error (.badFourPart host)
  else if looksBracketed host then
    let inside := (host.drop 1).dropLast
    if isGrouped inside then .ok inside else .error (.badBrackets host)
  else
    let small := Text.lower host
    if Text.isAscii host then .ok (encoded staysInHost small)
    else (writeName small).mapError fun _ => .badName host

structure Target where
  /-- Who asks, if the address tells. -/
  user : Text
  /-- The host, unless it is the one that all addresses below the base path have. -/
  host : Option Text
  /-- The number behind the host, if the address names one that its scheme does not imply. -/
  port : Option Int
  /-- The path, with bytes in hexadecimal. -/
  path : Text
  /-- The query, with bytes in hexadecimal, if there is one. -/
  query : Option Text
  /-- What follows a `#`, with bytes in hexadecimal. It is not sent. -/
  fragment : Text
  deriving DecidableEq, Repr

namespace Target

def shownPath (target : Target) : Text :=
  if target.path.isEmpty then ['/'] else Text.percentDecode target.path

def shownQuery (target : Target) : Text := target.query.getD []

/-- The host and the number behind it, as an address writes them. -/
def place (target : Target) : Text :=
  let host := target.host.getD []
  (if host.contains ':' then "[".text ++ host ++ "]".text else host)
    ++ (target.port.elim [] fun port => ":".text ++ Text.intDigits port)

/-- Who asks and the place, as an address writes them. -/
def authority (target : Target) : Text :=
  (if target.user.isEmpty then [] else encoded staysInUser target.user ++ "@".text)
    ++ target.place

/-- Checks the host as a request names it: the name that it stands for, if it starts with a label
written in ASCII, can be read, and the host is in ASCII. -/
def checkName (target : Target) : Except NameFault Unit := do
  let host := target.host.getD []
  if asciiPrefix.isPrefixOf host then
    let _ ← readName host
  match Text.Unencodable.inAscii? target.place with
  | some found => .error (.zone found)
  | none => .ok ()

/-- Refuses parts that are too long. -/
def checked (target : Target) : Except Fault Target :=
  if lengthLimit < target.authority.length then .error (.partTooLong "authority".text)
  else if lengthLimit < target.path.length then .error (.partTooLong "path".text)
  else if lengthLimit < target.shownQuery.length then .error (.partTooLong "query".text)
  else if lengthLimit < target.fragment.length then .error (.partTooLong "fragment".text)
  else .ok target

/-- The target below a base path; slashes in front do not count. -/
def below (base : Text) (target : Target) : Target :=
  { target with
    user := []
    host := none
    port := none
    fragment := []
    path := normalPath (base ++ target.path.dropWhile (· = .char '/')) }

/-- The target with another query. Its host is read again: a name with dots of another script may
have become one that has the form of numbers. -/
def withQuery (query : Text) (target : Target) : Except Fault Target := do
  let target ← { target with query := some query }.checked
  match target.host with
  | some host => if host.contains ':' then .ok target else (hostText host).map fun _ => target
  | none => .ok target

end Target

/-- Control characters of ASCII. -/
def isControl (c : CodePoint) : Bool := c.toNat < 0x20 || c.toNat == 0x7F

/-- Where a reference leads, taken below a base path if it names no host. -/
def resolve (base reference : Text) : Except Fault Target := do
  if lengthLimit < reference.length then .error .tooLong
  else
    match reference.find? isControl with
    | some c => .error (.unprintable c (reference.takeWhile fun c => !isControl c).length)
    | none => do
      let parts := Reference.split reference
      let authority := Authority.split parts.authority
      let host ← hostText authority.host
      let portNumber ← readPort parts.scheme authority.portText
      let hasAuthority :=
        !authority.user.isEmpty || !authority.host.isEmpty || portNumber.isSome
      if parts.scheme.isEmpty && !hasAuthority && "//".text.isPrefixOf parts.path then
        .error .doubleSlash
      else if parts.scheme.isEmpty && !hasAuthority && [.char ':'].isPrefixOf parts.path then
        .error .colon
      else
        let path :=
          if parts.scheme.isEmpty && !hasAuthority then parts.path else normalPath parts.path
        let target : Target :=
          ⟨authority.user, some host, portNumber, encoded staysInPath path,
            parts.query.map (encoded staysInQuery), encoded staysInFragment parts.fragment⟩
        if parts.scheme.isEmpty || authority.host.isEmpty then (target.below base).checked
        else .ok target

end TimeReports.Address
