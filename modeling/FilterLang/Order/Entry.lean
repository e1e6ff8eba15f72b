import FilterLang.Error
import FilterLang.Token.Ordering

/-!
Orderings in writing: entries between commas, each a field name with an indexer, a null marker and
a direction, all but the name optional.
-/

namespace FilterLang

inductive Direction
  | ascending
  | descending
deriving DecidableEq, Repr

inductive NullOrder
  /-- The value, nulls first when ascending. -/
  | natural
  /-- Whether there is a value. -/
  | hasValue
  /-- Whether the value is null. -/
  | isNull
deriving DecidableEq, Repr

structure OrderEntry where
  field : Text
  indexer : Option Text
  direction : Direction
  nullOrder : NullOrder
  position : Nat
deriving DecidableEq, Repr

def Token.ofOrdering (t : Text) : Except Error (List Token) :=
  match scanOrder t with
  | .ok ls => .ok (ls.map (Lexeme.place t))
  | .error fault => .error (.lexical (Text.offset t fault.start) fault.cause)

namespace OrderEntry

/-- The runs of tokens between commas, of which there is always one more. -/
def splitCommas : List Token → List (List Token)
  | [] => [[]]
  | token :: ts =>
    if token.kind = .comma then [] :: splitCommas ts
    else
      match splitCommas ts with
      | [] => [[token]]
      | run :: runs => (token :: run) :: runs

def readIndexer (name : Token) : List Token → Except SyntaxFault (Option Text × List Token)
  | [] => .ok (none, [])
  | token :: rest =>
    if token.kind = .indexerOpen then
      match rest with
      | key :: close :: rest =>
        if key.kind = .literal ∧ close.kind = .indexerClose then .ok (some key.text, rest)
        else .error ⟨name.position, .malformedIndexer⟩
      | _ => .error ⟨name.position, .malformedIndexer⟩
    else .ok (none, token :: rest)

def readNullOrder : List Token → NullOrder × List Token
  | [] => (.natural, [])
  | token :: rest =>
    match token.kind with
    | .hasValue => (.hasValue, rest)
    | .isNull => (.isNull, rest)
    | _ => (.natural, token :: rest)

def readDirection : List Token → Direction × List Token
  | [] => (.ascending, [])
  | token :: rest =>
    match token.kind with
    | .ascending => (.ascending, rest)
    | .descending => (.descending, rest)
    | _ => (.ascending, token :: rest)

def ofTokens (stop : Nat) : List Token → Except SyntaxFault OrderEntry
  | [] => .error ⟨stop, .emptyEntry⟩
  | name :: ts =>
    if name.kind = .identifier then do
      let (indexer, ts) ← readIndexer name ts
      let (nullOrder, ts) := readNullOrder ts
      let (direction, ts) := readDirection ts
      match ts with
      | [] => return ⟨name.text, indexer, direction, nullOrder, name.position⟩
      | token :: _ => throw ⟨token.position, .unexpectedInEntry token.text name.text⟩
    else .error ⟨name.position, .expectedFieldName name.text⟩

/-- The entries of an ordering; a blank one has none. -/
def readAll (t : Text) : Except Error (List OrderEntry) := do
  let ts ← Token.ofOrdering t
  if ts.isEmpty then return []
  else ((splitCommas ts).mapM (ofTokens (Text.size t))).mapError Error.syntactic

end OrderEntry

end FilterLang
