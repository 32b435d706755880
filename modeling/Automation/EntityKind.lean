/-
# Kinds of business records

Key definitions: `EntityKind`, `EntityKind.parse`.
-/
import Automation.ActionError
import Automation.Text.Blank
import Automation.Text.Case

namespace Automation

/-- The kinds of records that actions update and create. -/
inductive EntityKind where
  | sale
  | product
  | customer
  | employee
  | store
  | user
deriving DecidableEq, Repr

namespace EntityKind

def all : List EntityKind := [.sale, .product, .customer, .employee, .store, .user]

def name : EntityKind → String
  | .sale => "sale"
  | .product => "product"
  | .customer => "customer"
  | .employee => "employee"
  | .store => "store"
  | .user => "user"

def ofName? (s : String) : Option EntityKind := all.find? (·.name == s)

/-- The kind that a text names, in any case and with blanks around it. -/
def parse (text : Option String) : Except ActionError EntityKind :=
  match text.bind fun s => ofName? (Text.toLower (Text.trimmed s)) with
  | some kind => .ok kind
  | none =>
    let shown := text.getD "None"
    .error (.invalidTarget ("Unknown entity type: " ++ shown) (some shown))

end EntityKind

end Automation
