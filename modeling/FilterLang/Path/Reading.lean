import FilterLang.Path.Basic
import FilterLang.Text.Alphanumeric

/-!
Paths in writing: member names with points between them, and after a name any number of `[*]`, for
each element, and at most one `[]` in the whole path, for the entry of a map.
-/

namespace FilterLang

inductive Path.Fault
  | noMemberName
  | secondSlot
  | unknownBrackets
deriving DecidableEq

namespace Path

def Fault.message : Fault → Text
  | noMemberName => "expected a member name"
  | secondSlot => "only one indexer slot is allowed"
  | unknownBrackets => "expected '[*]' or '[]'"

def isNameChar (c : Char) : Bool := Text.isAlphanumeric c || c == '_'

def readBrackets (slot : Bool) : Text → Except Fault Path
  | [] => .ok []
  | '[' :: '*' :: ']' :: t => (readBrackets slot t).map (.each :: ·)
  | '[' :: ']' :: t =>
    if slot then .error .secondSlot else (readBrackets true t).map (.key none :: ·)
  | _ => .error .unknownBrackets

def readPart (slot : Bool) (part : Text) : Except Fault Path :=
  let name := part.takeWhile (· ≠ '[')
  if name.isEmpty || !name.all isNameChar then .error .noMemberName
  else (readBrackets slot (part.dropWhile (· ≠ '['))).map (.member name :: ·)

def readParts (slot : Bool) : List Text → Except Fault Path
  | [] => .ok []
  | part :: parts => do
    let first ← readPart slot part
    let rest ← readParts (slot || first.hasKeySlot) parts
    return first ++ rest

def read (t : Text) : Except Fault Path := readParts false (Text.splitAt '.' t)

end Path

end FilterLang
