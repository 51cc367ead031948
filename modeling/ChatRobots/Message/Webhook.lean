/-
Module: ChatRobots.Message.Webhook
Purpose: Posting a message to the address that takes the replies.
Main exports: WebhookRequest, Message.request, deliveryOf, WebhookAddress
-/
import ChatRobots.Message.Basic
import ChatRobots.Robot.Error
import ChatRobots.Text.Lowercase
import ChatRobots.Text.Split
import ChatRobots.Text.Utf8

namespace ChatRobots

/-!
A message is posted as JSON.  It is delivered when the answer has a status of the two-hundreds;
any other answer rejects it, and where there is no answer the transport has failed.

An address has a scheme, a host and a target on the host.  The target is the path with its
parameters; it begins with a slash, and a fragment is no part of it.  Controls, blanks, characters
beyond ASCII and a few marks are percent-encoded.  An address that cannot be read is refused
without being named, one with a scheme that takes no requests is refused by name.
-/

/-- A request that posts a message. -/
structure WebhookRequest where
  target : String
  contentType : String := "application/json"
  body : String
deriving DecidableEq, Repr

/-- The first line of the request. -/
def WebhookRequest.line (request : WebhookRequest) : String :=
  "POST " ++ request.target ++ " HTTP/1.1"

/-- The request that posts the message to a target. -/
def Message.request (message : Message) (target : String) : WebhookRequest where
  target := target
  body := message.body

/-- What an answer to the request means. -/
def deliveryOf (status : Nat) (body : String) : Except ReplyError Unit :=
  if 200 ≤ status ∧ status < 300 then .ok () else .error (.rejected status body)

/-- Percent-encode the controls, the blank, what is beyond ASCII, and the given marks. -/
def encodeMarks (marks : List Char) (text : List Char) : List Char :=
  (Text.encodeUtf8 (String.ofList text)).flatMap fun byte =>
    let n := byte.toNat
    if n ≤ 0x20 ∨ 0x7f ≤ n ∨ marks.contains (Char.ofNat n) then
      '%' :: (Nat.toDigits 16 (n / 16) ++ Nat.toDigits 16 (n % 16)).map Char.toUpper
    else [Char.ofNat n]

/-- An address that names a host. -/
structure WebhookAddress where
  scheme : String
  host : String
  target : String
  fragment : Option String
deriving DecidableEq, Repr

namespace WebhookAddress

/-- The schemes whose addresses name a host, each with the port that goes without saying. -/
def hostSchemes : List (String × String) :=
  [("http", "80"), ("https", "443"), ("ws", "80"), ("wss", "443"), ("ftp", "21")]

/-- A slash of either direction. -/
def isSlash (c : Char) : Bool :=
  c == '/' || c == '\\'

/-- The target for what follows the host in an address. -/
def targetOf (text : List Char) : String :=
  let text := text.takeWhile (· != '#')
  let path := (text.takeWhile (· != '?')).map fun c => if isSlash c then '/' else c
  let path := encodeMarks ['"', '<', '>', '\x60', '\x7b', '\x7d'] path
  let path := if path.head? = some '/' then path else '/' :: path
  String.ofList (path ++ encodeMarks ['"', '<', '>', '\x27'] (text.dropWhile (· != '?')))

/-- The part behind the first hash. -/
def fragmentOf (text : List Char) : Option String :=
  (Text.cut? '#' text).map fun (_, fragment) =>
    String.ofList (encodeMarks ['"', '<', '>', '\x60'] fragment)

/-- The host in lower case, without a port that goes without saying. -/
def hostOf (port : String) (text : List Char) : String :=
  let host := Text.asciiLowercase (String.ofList text)
  match Text.cut? ':' host.toList with
  | some (name, given) =>
      if given = [] ∨ String.ofList given = port then String.ofList name else host
  | none => host

/-- The scheme of an address and what follows it: a letter, then letters, digits and `+-.`. -/
def schemeOf? (text : List Char) : Option (String × List Char) := do
  let (scheme, rest) ← Text.cut? ':' text
  let first ← scheme.head?
  if first.isAlpha ∧ scheme.all fun c => c.isAlphanum || ['+', '-', '.'].contains c then
    pure (Text.asciiLowercase (String.ofList scheme), rest)
  else none

/-- The text without the controls and blanks that an address may be pasted with. -/
def unpasted (text : String) : List Char :=
  let outer (c : Char) : Bool := c.toNat ≤ 0x20
  let kept := ((text.toList.dropWhile outer).reverse.dropWhile outer).reverse
  kept.filter fun c => c != '\t' && c != '\n' && c != '\r'

/-- The address for what follows a scheme; without a host it is none. -/
def ofParts? (scheme port : String) (rest : List Char) : Option WebhookAddress :=
  let rest := rest.dropWhile isSlash
  let atHost (c : Char) : Bool := !isSlash c && c != '?' && c != '#'
  let host := rest.takeWhile atHost
  let rest := rest.dropWhile atHost
  if host = [] then none
  else some ⟨scheme, hostOf port host, targetOf rest, fragmentOf rest⟩

/-- The address as a text. -/
def toText (address : WebhookAddress) : String :=
  address.scheme ++ "://" ++ address.host ++ address.target ++
    match address.fragment with
    | some fragment => "#" ++ fragment
    | none => ""

/-- The scheme takes requests. -/
def takesRequests (address : WebhookAddress) : Bool :=
  address.scheme == "http" || address.scheme == "https"

end WebhookAddress

open WebhookAddress in
/-- Why nothing can be posted to an address that does not answer. -/
def unreachable (url : String) : ReplyError :=
  let refused (shown : String) := ReplyError.transport ("builder error for url (" ++ shown ++ ")")
  match schemeOf? (unpasted url) with
  | none => .transport "builder error"
  | some (scheme, rest) =>
      match hostSchemes.lookup scheme with
      | none => refused (scheme ++ ":" ++ String.ofList rest)
      | some port =>
          match ofParts? scheme port rest with
          | none => .transport "builder error"
          | some address =>
              if address.takesRequests then
                .transport ("error sending request for url (" ++ address.toText ++ ")")
              else refused address.toText

end ChatRobots
