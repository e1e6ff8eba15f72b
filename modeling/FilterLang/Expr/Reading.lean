import FilterLang.Error
import FilterLang.Expr.Parser
import FilterLang.Token.Filter

/-!
From the text of a filter to its expression.
-/

namespace FilterLang

def Token.ofFilter (symbols : List Text) (t : Text) : Except Error (List Token) :=
  match scan symbols t with
  | .ok ls => .ok (ls.map (Lexeme.place t))
  | .error fault => .error (.lexical (Text.offset t fault.start) fault.cause)

namespace Expr

def defaultLimit : Nat := 256

def read (registry : Registry) (limit : Nat) (t : Text) : Except Error Expr := do
  let ts ← Token.ofFilter registry.symbols t
  (ofTokens limit (Text.size t) ts).mapError Error.syntactic

end Expr

end FilterLang
