import FilterLang.Expr.Basic
import FilterLang.Expr.Fault

/-!
From tokens to expressions. A chain of terms folds to the left, with no precedence between its
connectives; a term is a comparison or a chain in parentheses.
-/

namespace FilterLang.Expr

/-- What a parser reads from the front of `input`, at least one token of it. -/
structure Parsed (input : List Token) where
  expr : Expr
  depth : Nat
  rest : List Token
  shorter : rest.length < input.length

def connective? : Token.Kind → Option Connective
  | .and => some .and
  | .or => some .or
  | _ => none

def expect (stop : Nat) (kind : Token.Kind) (wanted : Wanted) :
    List Token → Except SyntaxFault (Token × List Token)
  | [] => .error ⟨stop, .expected wanted none⟩
  | token :: rest =>
    if token.kind = kind then .ok (token, rest)
    else .error ⟨token.position, .expected wanted (some token)⟩

def parseIndexer (stop : Nat) : List Token → Except SyntaxFault (Option Text × List Token)
  | [] => .ok (none, [])
  | token :: rest =>
    if token.kind = .indexerOpen then do
      let (key, rest) ← expect stop .literal .indexerKey rest
      let (_, rest) ← expect stop .indexerClose .closeBracket rest
      return (some key.text, rest)
    else .ok (none, token :: rest)

def parseMarker : List Token → Bool × List Token
  | [] => (false, [])
  | token :: rest =>
    if token.kind = .caseInsensitive then (true, rest) else (false, token :: rest)

def parseOperator (stop : Nat) (field : Text) :
    List Token → Except SyntaxFault (Token × List Token)
  | [] => .error ⟨stop, .expectedOperator field none⟩
  | token :: rest =>
    if token.kind = .operator then .ok (token, rest)
    else .error ⟨token.position, .expectedOperator field (some token)⟩

def parseLeaf (stop : Nat) (name : Token) (ts : List Token) :
    Except SyntaxFault (Leaf × List Token) := do
  let (indexer, ts) ← parseIndexer stop ts
  let (fieldIgnoresCase, ts) := parseMarker ts
  let (operator, ts) ← parseOperator stop name.text ts
  let (value, ts) ← expect stop .literal .value ts
  let (valueIgnoresCase, ts) := parseMarker ts
  return ({
    field := name.text
    indexer := indexer
    fieldIgnoresCase := fieldIgnoresCase
    position := name.position
    symbol := operator.text
    symbolPosition := operator.position
    value := value.text
    valueIgnoresCase := valueIgnoresCase }, ts)

theorem expect_length {stop : Nat} {kind : Token.Kind} {wanted : Wanted} {ts rest : List Token}
    {token : Token} (h : expect stop kind wanted ts = .ok (token, rest)) :
    rest.length < ts.length := by
  unfold expect at h
  split at h
  · cases h
  · split at h <;> cases h
    exact Nat.lt_succ_self _

theorem parseIndexer_length {stop : Nat} {ts rest : List Token} {key : Option Text}
    (h : parseIndexer stop ts = .ok (key, rest)) : rest.length ≤ ts.length := by
  unfold parseIndexer at h
  split at h
  · cases h; exact Nat.le_refl _
  · next token after =>
    split at h
    · rcases literal : expect stop .literal .indexerKey after with _ | ⟨k, r₁⟩ <;>
        simp only [literal, bind, Except.bind] at h
      · cases h
      rcases close : expect stop .indexerClose .closeBracket r₁ with _ | ⟨_, r₂⟩ <;>
        simp only [close] at h <;> cases h
      have first := expect_length literal
      have second := expect_length close
      simp only [List.length_cons]
      omega
    · cases h; exact Nat.le_refl _

theorem parseMarker_length (ts : List Token) : (parseMarker ts).2.length ≤ ts.length := by
  unfold parseMarker
  split
  · exact Nat.le_refl _
  · split <;> simp

theorem parseOperator_length {stop : Nat} {field : Text} {ts rest : List Token} {token : Token}
    (h : parseOperator stop field ts = .ok (token, rest)) : rest.length < ts.length := by
  unfold parseOperator at h
  split at h
  · cases h
  · split at h <;> cases h
    exact Nat.lt_succ_self _

theorem parseLeaf_length {stop : Nat} {name : Token} {ts rest : List Token} {l : Leaf}
    (h : parseLeaf stop name ts = .ok (l, rest)) : rest.length ≤ ts.length := by
  unfold parseLeaf at h
  rcases indexer : parseIndexer stop ts with _ | ⟨key, r₁⟩ <;>
    simp only [indexer, bind, Except.bind] at h
  · cases h
  rcases operator : parseOperator stop name.text (parseMarker r₁).2 with _ | ⟨op, r₂⟩ <;>
    simp only [operator] at h
  · cases h
  rcases value : expect stop .literal .value r₂ with _ | ⟨v, r₃⟩ <;> simp only [value] at h <;> cases h
  have := parseIndexer_length indexer
  have := parseMarker_length r₁
  have := parseOperator_length operator
  have := expect_length value
  have := parseMarker_length r₃
  omega

mutual

def parseTerm (limit stop nesting : Nat) (ts : List Token) : Except SyntaxFault (Parsed ts) :=
  match ts with
  | [] => .error ⟨stop, .expected .term none⟩
  | token :: rest =>
    match token.kind with
    | .openParen =>
      if limit < nesting + 1 then .error ⟨token.position, .tooDeep limit⟩
      else
        match parseChain limit stop (nesting + 1) rest with
        | .error fault => .error fault
        | .ok inner =>
          match close : expect stop .closeParen .closeParen inner.rest with
          | .error fault => .error fault
          | .ok (_, after) =>
            if limit < inner.depth + 1 then .error ⟨token.position, .tooDeep limit⟩
            else .ok ⟨paren inner.expr, inner.depth + 1, after, by
              have := expect_length close
              have := inner.shorter
              simp only [List.length_cons]
              omega⟩
    | .identifier =>
      match comparison : parseLeaf stop token rest with
      | .error fault => .error fault
      | .ok (l, after) => .ok ⟨leaf l, 1, after, Nat.lt_succ_of_le (parseLeaf_length comparison)⟩
    | .operator => .error ⟨token.position, .operatorWithoutField token.text⟩
    | _ => .error ⟨token.position, .expected .term (some token)⟩
termination_by (ts.length, 0)

def parseChain (limit stop nesting : Nat) (ts : List Token) : Except SyntaxFault (Parsed ts) :=
  match parseTerm limit stop nesting ts with
  | .error fault => .error fault
  | .ok first =>
    match parseMore limit stop nesting first.expr first.depth first.rest with
    | .error fault => .error fault
    | .ok ⟨(expr, depth, rest), bound⟩ =>
      .ok ⟨expr, depth, rest, Nat.lt_of_le_of_lt bound first.shorter⟩
termination_by (ts.length, 1)
decreasing_by
  · exact Prod.Lex.right _ Nat.zero_lt_one
  · exact Prod.Lex.left _ _ first.shorter

def parseMore (limit stop nesting : Nat) (left : Expr) (depth : Nat) (ts : List Token) :
    Except SyntaxFault { r : Expr × Nat × List Token // r.2.2.length ≤ ts.length } :=
  match ts with
  | [] => .ok ⟨(left, depth, []), Nat.le_refl _⟩
  | token :: rest =>
    match connective? token.kind with
    | none => .ok ⟨(left, depth, token :: rest), Nat.le_refl _⟩
    | some connective =>
      match parseTerm limit stop nesting rest with
      | .error fault => .error fault
      | .ok right =>
        let deeper := max depth right.depth + 1
        if limit < deeper then .error ⟨token.position, .tooDeep limit⟩
        else
          match parseMore limit stop nesting (binary left connective right.expr) deeper right.rest with
          | .error fault => .error fault
          | .ok ⟨result, bound⟩ =>
            .ok ⟨result, Nat.le_trans bound (Nat.le_of_lt (Nat.lt_succ_of_lt right.shorter))⟩
termination_by (ts.length, 2)
decreasing_by
  · exact Prod.Lex.left _ _ (Nat.lt_succ_self _)
  · exact Prod.Lex.left _ _ (Nat.lt_succ_of_lt right.shorter)

end

/--
The expression of a whole list of tokens. `limit` is the greatest depth allowed, and `stop` the
position of the end of the text.
-/
def ofTokens (limit stop : Nat) (ts : List Token) : Except SyntaxFault Expr :=
  match parseChain limit stop 0 ts with
  | .error fault => .error fault
  | .ok parsed =>
    match parsed.rest with
    | [] => .ok parsed.expr
    | token :: _ =>
      if token.kind = .closeParen then .error ⟨token.position, .unbalancedClose⟩
      else .error ⟨token.position, .unexpected token⟩

end FilterLang.Expr
