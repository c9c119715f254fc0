import Turnstile.Memory
import Turnstile.Value.ToJson

/-! # Results in text

* **`Value.display`** is how a result is printed: a text as it is, an owned string as its contents,
  numbers, integers and booleans plainly, nothing for `undefined`, and everything else as JSON. -/

namespace Turnstile

/-- Why a result has no text. -/
inductive DisplayFault where
  /-- It is an owned string that cannot be read. -/
  | unreadable (fault : MemoryFault)
  /-- Something is thrown on the way to its JSON, or to its text where JSON has no form for it. -/
  | thrown (value : Value)

namespace DisplayFault

/-- The value that is thrown for a fault. -/
def toValue : DisplayFault → Value
  | .unreadable fault => fault.toValue
  | .thrown value => value

/-- The kind that a fault is reported as. -/
def name (fault : DisplayFault) : Text := fault.toValue.kind

/-- The wording of a fault. -/
def message (fault : DisplayFault) : Text := fault.toValue.words

end DisplayFault

/-- **The text of a result.** There is none for an owned string that was released, and for what throws
when it is put into JSON or into a text. -/
def Value.display (m : Memory) : Value → Except DisplayFault Text
  | .owned s => (m.stringText s).mapError .unreadable
  | .undefined => .ok []
  | .text t => .ok t
  | .number n => .ok n.toText
  | .integer i => .ok (Text.ofInt i)
  | .boolean b => .ok (if b then "true" else "false")
  | v =>
    match v.toJson with
    | .error thrown => .error (.thrown thrown)
    | .ok (some tree) => .ok tree.render
    | .ok none => v.spelled.mapError .thrown

end Turnstile
