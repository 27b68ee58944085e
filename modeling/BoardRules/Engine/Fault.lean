import BoardRules.Action
import BoardRules.CascadeRequest
import BoardRules.Store.Query
import BoardRules.Store.Rows

/-!
What can end a run, a request or a step: the kind of each fault and its message.
-/
namespace BoardRules

inductive HeaderFault where
  | notText (type : String)
  | notAscii (chars : List Char) (first : Nat)
deriving Repr, DecidableEq

namespace HeaderFault

def of? : Json → Option HeaderFault
  | .str s =>
    let cs := s.toList
    match cs.dropWhile (·.toNat < 0x80) with
    | [] => none
    | rest => some (.notAscii (rest.takeWhile (0x80 ≤ ·.toNat)) (cs.length - rest.length))
  | v => some (.notText v.typeName)

def message : HeaderFault → String
  | .notText t => "Header value must be str or bytes, not <class '" ++ t ++ "'>"
  | .notAscii [c] first =>
    "'ascii' codec can't encode character '" ++ String.ofList (Json.escapeByWidth c) ++
      "' in position " ++ Decimal.natText first ++ ": ordinal not in range(128)"
  | .notAscii cs first =>
    "'ascii' codec can't encode characters in position " ++ Decimal.natText first ++ "-" ++
      Decimal.natText (first + cs.length - 1) ++ ": ordinal not in range(128)"

end HeaderFault

inductive AddressFault where
  | malformed
  | connection
  | noPort
  | unclearPort
  | relative
deriving Repr, DecidableEq

def AddressFault.kind : AddressFault → String
  | .malformed => "InvalidURL"
  | .connection => "_Upgrade"
  | .noPort => "KeyError"
  | .unclearPort | .relative => "ValueError"

inductive Fault where
  | action (failure : ActionFailure)
  | storageRead
  | storageWrite
  | tooLarge
  | read (fault : ReadFault)
  | noMember (fault : NoMember)
  | rows (fault : RowFault)
  | invalid (record : String) (errors : List FieldError)
  | payload (fault : PayloadFault)
  | integer (fault : IntegerFault)
  | header (fault : HeaderFault)
  | address (fault : AddressFault)
  /-- A value is too deep, or a number that is none, where a reply should show it. -/
  | unshowable
  | database
deriving Repr, DecidableEq

def IntegerFault.kind : IntegerFault → String
  | .badText => "ValueError"
  | .infinite => "OverflowError"
  | .badType => "TypeError"

def IntegerFault.message : IntegerFault → String
  | .badText => "invalid literal for int() with base 10"
  | .infinite => "cannot convert float infinity to integer"
  | .badType => "int() argument must be a string, a bytes-like object or a real number"

def ShapeFault.kind : ShapeFault → String
  | .wrongLength .. => "ValueError"
  | _ => "TypeError"

namespace Fault

def kind : Fault → String
  | .action f => f.kind
  | .storageRead | .storageWrite => "StorageFailureError"
  | .tooLarge => "OverflowError"
  | .read (.shape f) => f.kind
  | .read (.dangling _) | .noMember _ => "AttributeError"
  | .rows f => f.kind
  | .invalid .. => "ValidationError"
  | .payload (.missing _) => "KeyError"
  | .payload .notObject => "TypeError"
  | .payload (.depth f) => f.kind
  | .integer f => f.kind
  | .header (.notText _) => "TypeError"
  | .header (.notAscii ..) => "UnicodeEncodeError"
  | .address f => f.kind
  | .unshowable => "ValueError"
  | .database => "OperationalError"

def code? : Fault → Option String
  | .action f => some f.code
  | .storageRead | .storageWrite => some "STORAGE_FAILURE"
  | _ => none

def message : Fault → String
  | .action f => f.message
  | .storageRead => "storage read failed"
  | .storageWrite => "storage write failed"
  | .tooLarge => "int too large to convert to float"
  | .read (.shape f) => f.message
  | .read (.dangling wanted) => NoMember.message ⟨"NoneType", wanted⟩
  | .noMember f => f.message
  | .rows _ => "rows cannot be added"
  | .invalid record errors =>
    "validation error" ++ (if errors.length = 1 then "" else "s") ++ " for " ++ record
  | .payload (.missing key) => "'" ++ key ++ "'"
  | .payload .notObject => "payload must be an object"
  | .payload (.depth f) => f.message
  | .integer f => f.message
  | .header f => f.message
  | .address _ => "address cannot be used"
  | .unshowable => "value cannot be shown"
  | .database => "database operation failed"

def isStorage : Fault → Bool
  | .storageRead | .storageWrite => true
  | _ => false

end Fault
end BoardRules
