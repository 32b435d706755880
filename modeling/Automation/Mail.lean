/-
# Sending mail

A mail server has a default sender for mail that names none. Mail is put
into a letter first: headers of one line each, and the text with its lines
ended by line feeds. A server that cannot take a letter may do so later.

Key definitions: `MailServer`, `Letter`, `MailServer.compose`,
`MailServer.deliver`.
-/
import Automation.Effect

namespace Automation

structure MailServer where
  host : String
  port : Int
  username : Option String
  password : Option String
  /-- Whether the connection is secure from its start. -/
  secure : Bool
  defaultSender : Option String
  timeout : Double

structure Letter where
  sender : String
  recipients : String
  subject : String
  content : String
deriving DecidableEq, Repr

namespace Text

/-- Whether a line ends at a character. -/
def endsLine (c : Char) : Bool :=
  let n := c.toNat
  (0x0a ≤ n && n ≤ 0x0d) || (0x1c ≤ n && n ≤ 0x1e) || n = 0x85 || n = 0x2028 || n = 0x2029

/-- The number of characters of the line end at the start. -/
def lineEnd : List Char → Nat
  | '\r' :: '\n' :: _ => 2
  | _ => 1

/-- Whether text has more than one line; a line end at its end does not begin
another line. -/
def hasLines (s : String) : Bool :=
  let rest := s.toList.dropWhile (!endsLine ·)
  lineEnd rest < rest.length

/-- Text whose lines all end in a line feed. -/
def withLineFeeds : List Char → List Char
  | [] => []
  | '\r' :: '\n' :: rest => '\n' :: withLineFeeds rest
  | '\r' :: rest => '\n' :: withLineFeeds rest
  | c :: rest => c :: withLineFeeds rest

/-- Text that ends in a line feed. -/
def ended (cs : List Char) : List Char := if cs.getLast? == some '\n' then cs else cs ++ ['\n']

end Text

namespace MailServer

/-- A server; without a default sender its user is the sender. -/
def make (host : String) (port : Int) (username password : Option String) (secure : Bool)
    (sender : Option String) (timeout : Double) : MailServer where
  host := host
  port := port
  username := username
  password := password
  secure := secure
  defaultSender :=
    match sender with
    | some s => if s.isEmpty then username else some s
    | none => username
  timeout := timeout

/-- A header, which has to be one line. -/
def header (value : String) : Except Failure String :=
  if Text.hasLines value then .error .brokenHeader else .ok value

/-- The sender of mail, if there is one. -/
def senderOf (server : MailServer) (mail : Mail) : Option String :=
  ((mail.sender.filter (!·.isEmpty)).or server.defaultSender).filter (!·.isEmpty)

/-- The letter for mail. -/
def compose (server : MailServer) (mail : Mail) : Except Failure Letter :=
  match server.senderOf mail with
  | none =>
    .error (.action (.transient "No sender address configured (MAIL_FROM or MAIL_USER)"
      "TRANSIENT_ERROR" []) none)
  | some sender => do
    let sender ← header sender
    let recipients ← header (", ".intercalate mail.recipients)
    let subject ← header mail.subject
    return ⟨sender, recipients, subject,
      String.ofList (Text.ended (Text.withLineFeeds mail.html.toList))⟩

/-- The failure of a server that does not take a letter, with its reason. -/
def refusal (server : MailServer) (reason : String) : Failure :=
  .action (.transient ("Email delivery failed: " ++ reason) "MAIL_DELIVERY_FAILED"
    [("host", .str server.host)]) none

/-- Sends mail through a server that refuses letters for a reason, if it
does: the letters that the server saw, and the failure. -/
def deliver (server : MailServer) (mail : Mail) (reason : Option String) :
    List Letter × Option Failure :=
  match server.compose mail with
  | .error f => ([], some f)
  | .ok letter => ([letter], reason.map server.refusal)

end MailServer

end Automation
