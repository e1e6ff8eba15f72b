import FilterLang.Proofs.Token.Word

/-!
The grammar of filters over tokens, said without a parser: an expression is a chain of terms that
folds to the left, and a term is a comparison or an expression in parentheses. A tree that derives
from a list of tokens spells exactly that list when its nodes are read from left to right.
-/

namespace FilterLang

def Connective.kind : Connective → Token.Kind
  | and => .and
  | or => .or

namespace Leaf

def words (l : Leaf) : List Token.Word :=
  (.identifier, l.field) :: Token.indexerWords l.indexer ++ Token.markerWords l.fieldIgnoresCase ++
    (.operator, l.symbol) :: (.literal, l.value) :: Token.markerWords l.valueIgnoresCase

def unplaced (l : Leaf) : Leaf := { l with position := 0, symbolPosition := 0 }

end Leaf

namespace Expr

def words : Expr → List Token.Word
  | leaf l => l.words
  | binary left connective right => left.words ++ (connective.kind, connective.symbol) :: right.words
  | paren inner => (.openParen, "(") :: (inner.words ++ [((.closeParen, ")") : Token.Word)])

def unplaced : Expr → Expr
  | leaf l => leaf l.unplaced
  | binary left connective right => binary left.unplaced connective right.unplaced
  | paren inner => paren inner.unplaced

def isBinary : Expr → Bool
  | binary _ _ _ => true
  | _ => false

/-- No right side is a chain of its own, unless it stands in parentheses. -/
def leftFolded : Expr → Bool
  | leaf _ => true
  | binary left _ right => left.leftFolded && right.leftFolded && !right.isBinary
  | paren inner => inner.leftFolded

theorem one_le_depth (e : Expr) : 1 ≤ e.depth := by
  cases e <;> simp [depth]

@[simp] theorem depth_unplaced (e : Expr) : e.unplaced.depth = e.depth := by
  induction e with
  | leaf l => rfl
  | binary left connective right ihLeft ihRight => simp [unplaced, depth, ihLeft, ihRight]
  | paren inner ih => simp [unplaced, depth, ih]

end Expr

namespace Grammar

inductive Indexer : List Token → Option Text → Prop
  | absent : Indexer [] none
  | present {opening key closing : Token} (hopening : opening.kind = .indexerOpen)
      (hkey : key.kind = .literal) (hclosing : closing.kind = .indexerClose) :
      Indexer [opening, key, closing] (some key.text)

inductive Marker : List Token → Bool → Prop
  | absent : Marker [] false
  | present {token : Token} (h : token.kind = .caseInsensitive) : Marker [token] true

inductive Comparison (name : Token) : List Token → Leaf → Prop
  | intro {operator value : Token} {is ms vs : List Token} {key : Option Text}
      {fieldIgnoresCase valueIgnoresCase : Bool} (hindexer : Indexer is key)
      (hfield : Marker ms fieldIgnoresCase) (hoperator : operator.kind = .operator)
      (hliteral : value.kind = .literal) (hvalue : Marker vs valueIgnoresCase) :
      Comparison name (is ++ ms ++ operator :: value :: vs) {
        field := name.text
        indexer := key
        fieldIgnoresCase := fieldIgnoresCase
        position := name.position
        symbol := operator.text
        symbolPosition := operator.position
        value := value.text
        valueIgnoresCase := valueIgnoresCase }

inductive Symbol
  | expr
  | term

/--
`expr := term ((And | Or) term)*` and `term := '(' expr ')' | Identifier …`, with the tree of the
tokens. A further term takes the whole chain before it as its left side, whichever connective it has.
-/
inductive Derives : Symbol → List Token → Expr → Prop
  | comparison {name : Token} {ts : List Token} {l : Leaf} (hname : name.kind = .identifier)
      (h : Comparison name ts l) : Derives .term (name :: ts) (.leaf l)
  | paren {opening closing : Token} {ts : List Token} {e : Expr}
      (hopening : opening.kind = .openParen) (h : Derives .expr ts e)
      (hclosing : closing.kind = .closeParen) :
      Derives .term (opening :: ts ++ [closing]) (.paren e)
  | first {ts : List Token} {e : Expr} (h : Derives .term ts e) : Derives .expr ts e
  | next {token : Token} {ts us : List Token} {left right : Expr} {connective : Connective}
      (hleft : Derives .expr ts left) (htoken : token.kind = connective.kind)
      (hright : Derives .term us right) :
      Derives .expr (ts ++ token :: us) (.binary left connective right)

theorem isBinary_of_term {ts : List Token} {e : Expr} (h : Derives .term ts e) :
    e.isBinary = false := by
  cases h <;> rfl

theorem leftFolded_of_derives {symbol : Symbol} {ts : List Token} {e : Expr}
    (h : Derives symbol ts e) : e.leftFolded = true := by
  induction h with
  | comparison _ _ => rfl
  | paren _ _ _ ih => exact ih
  | first _ ih => exact ih
  | next _ _ hright ihLeft ihRight =>
      simp [Expr.leftFolded, ihLeft, ihRight, isBinary_of_term hright]

section Words

open Token

private theorem respelled_fixed {token : Token} {kind : Token.Kind} {t : Text}
    (hkind : token.kind = kind) (hspelling : kind.spelling? = some t) :
    token.word.respelled = (kind, t) := by
  subst hkind
  exact Word.respelled_of_fixed hspelling

private theorem respelled_free {token : Token} {kind : Token.Kind}
    (hkind : token.kind = kind) (hspelling : kind.spelling? = none) :
    token.word.respelled = (kind, token.text) := by
  subst hkind
  exact Word.respelled_of_free hspelling

private theorem map_indexer {is : List Token} {key : Option Text} (h : Indexer is key) :
    (is.map fun token => token.word.respelled) = indexerWords key := by
  cases h with
  | absent => rfl
  | present hopening hkey hclosing =>
      simp only [List.map_cons, List.map_nil, indexerWords]
      rw [respelled_fixed hopening rfl, respelled_free hkey rfl,
        respelled_fixed hclosing rfl]

private theorem map_marker {ms : List Token} {marked : Bool} (h : Marker ms marked) :
    (ms.map fun token => token.word.respelled) = markerWords marked := by
  cases h with
  | absent => rfl
  | present hmarker =>
      simp only [List.map_cons, List.map_nil, markerWords]
      rw [respelled_fixed hmarker rfl]

private theorem map_comparison {name : Token} {ts : List Token} {l : Leaf}
    (hname : name.kind = .identifier) (h : Comparison name ts l) :
    ((name :: ts).map fun token => token.word.respelled) = l.words := by
  cases h with
  | intro hindexer hfield hoperator hliteral hvalue =>
      simp only [List.map_cons, List.map_append, Leaf.words, List.cons_append]
      rw [respelled_free hname rfl, map_indexer hindexer, map_marker hfield,
        respelled_free hoperator rfl, respelled_free hliteral rfl, map_marker hvalue]

theorem words_eq_map {symbol : Symbol} {ts : List Token} {e : Expr} (h : Derives symbol ts e) :
    e.words = ts.map fun token => token.word.respelled := by
  induction h with
  | comparison hname h => exact (map_comparison hname h).symm
  | paren hopening _ hclosing ih =>
      simp only [Expr.words, List.map_append, List.map_cons, List.map_nil, List.cons_append, ← ih]
      rw [respelled_fixed hopening rfl, respelled_fixed hclosing rfl]
  | first _ ih => exact ih
  | @next token _ _ _ _ connective _ htoken _ ihLeft ihRight =>
      have hspelled : token.word.respelled = (connective.kind, connective.symbol) :=
        respelled_fixed htoken (by cases connective <;> rfl)
      simp only [Expr.words, List.map_append, List.map_cons, ← ihLeft, ← ihRight, hspelled]

end Words

end Grammar

end FilterLang
