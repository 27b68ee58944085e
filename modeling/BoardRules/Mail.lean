import BoardRules.Json.Basic

/-!
Mails, and how handing one over to a mail service can turn out.
-/
namespace BoardRules

structure Message where
  recipient : String
  subject : String
  body : String
  card : String
  fromEmail : Option String := none
  fromName : Option String := none
  cc : Option String := none
  bcc : Option String := none
deriving DecidableEq

def Json.textMember (key : String) : Option String → Entries
  | some s => if s.isEmpty then [] else [(key, .str s)]
  | none => []

/-- What a mail service is given. Optional parts are left out where they are empty. -/
def Message.payload (m : Message) : Entries :=
  [("to", .str m.recipient), ("subject", .str m.subject), ("body", .str m.body),
    ("cardId", .str m.card), ("sentVia", .str "automation")] ++
  Json.textMember "from" m.fromEmail ++ Json.textMember "fromName" m.fromName ++
  Json.textMember "cc" m.cc ++ Json.textMember "bcc" m.bcc

inductive MailReply where
  | answered (status : Int) (body : String)
  | broken (reason : String)
deriving Repr, DecidableEq

def MailReply.accepts (status : Int) : Bool := 200 ≤ status && status < 300

/-- A mail service at an address. The answer may depend on how many mails went before. -/
structure MailService where
  url : String
  reply : Nat → Message → MailReply

/-- A service that gives the listed answers in turn, the last one again and again. -/
def MailService.scripted (url : String) (replies : List MailReply) : MailService where
  url := url
  reply := fun n _ => (replies[n]?.or replies.getLast?).getD (.answered 200 "")

end BoardRules
