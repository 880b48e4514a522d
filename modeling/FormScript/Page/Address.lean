import FormScript.Decimal.Reader

/-!
# Addresses of the bridge

Where the bridge waits for pages: a host and a number, parted by the last colon of a text.
-/

namespace FormScript.Page

/-- Where the bridge waits for pages. -/
structure Address where
  host : String
  number : Nat
  deriving DecidableEq, Repr

/-- Why a text is no address. -/
inductive Address.Fault where
  | noNumber
  | badNumber
  deriving DecidableEq, Repr

/-- The wording of a fault. -/
def Address.Fault.message : Address.Fault → String
  | noNumber => "invalid socket address"
  | badNumber => "invalid port value"

namespace Address

/-- The address in a text. -/
def read (text : String) : Except Fault Address :=
  let back := text.toList.reverse
  match back.dropWhile (· ≠ ':') with
  | [] => .error .noNumber
  | _ :: host =>
    match Decimal.readNatural? (Nat.pow 2 16) (back.takeWhile (· ≠ ':')).reverse with
    | none => .error .badNumber
    | some number => .ok ⟨String.ofList host.reverse, number⟩

/-- The text of an address. -/
def text (a : Address) : String := s!"{a.host}:{a.number}"

end Address

end FormScript.Page
