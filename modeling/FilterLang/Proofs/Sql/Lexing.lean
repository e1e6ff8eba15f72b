import FilterLang.Sql.Quoting

/-!
SQL as it is scanned: single quotes enclose strings and double quotes identifiers, and a quoted region
ends at its quote unless the quote is written twice. What stands outside quotes is code, where
parentheses open and close.
-/

namespace FilterLang.Sql

/-- A character outside quotes, or a quoted region by what it stands for. -/
inductive Piece
  | code (c : Char)
  | string (t : Text)
  | identifier (t : Text)
deriving DecidableEq

/-- Outside quotes, or in a quoted region of which so much has been read. -/
inductive Place
  | outside
  | inside (quote : Char) (read : Text)

def isQuote (c : Char) : Bool := c == '\'' || c == '"'

def Piece.quoted (quote : Char) (t : Text) : Piece := if quote = '"' then .identifier t else .string t

def lex : Place → Text → Option (List Piece)
  | .outside, [] => some []
  | .outside, c :: t =>
    if isQuote c then lex (.inside c []) t else (lex .outside t).map (.code c :: ·)
  | .inside _ _, [] => none
  | .inside quote read, [c] => if c = quote then some [.quoted quote read] else none
  | .inside quote read, c :: d :: t =>
    if c ≠ quote then lex (.inside quote (read ++ [c])) (d :: t)
    else if d = quote then lex (.inside quote (read ++ [quote])) t
    else (lex .outside (d :: t)).map (.quoted quote read :: ·)

/-- The number of parentheses that are open after a piece, if it closes none that was not opened. -/
def Piece.nest? (depth : Nat) : Piece → Option Nat
  | code '(' => some (depth + 1)
  | code ')' => if depth = 0 then none else some (depth - 1)
  | _ => some depth

def nesting (depth : Nat) (ps : List Piece) : Option Nat := ps.foldlM Piece.nest? depth

/-- Scanning ends outside quotes, with every parenthesis closed. -/
def Closed (t : Text) : Prop := ∃ ps, lex .outside t = some ps ∧ nesting 0 ps = some 0

def Piece.masked : Piece → Piece
  | string _ => string []
  | p => p

/-- Does not begin with a quote, which might be taken for the second of two. -/
def Detached (t : Text) : Prop := ∀ c ∈ t.head?, isQuote c = false

theorem detached_nil : Detached [] := nofun

theorem Detached.append {s t : Text} (hs : Detached s) (ht : Detached t) : Detached (s ++ t) := by
  cases s with
  | nil => exact ht
  | cons c s => exact hs

/-- The part is scanned into the pieces, whatever comes after it. -/
def Lexes (s : Text) (ps : List Piece) : Prop :=
  ∀ rest, Detached rest → lex .outside (s ++ rest) = (lex .outside rest).map (ps ++ ·)

theorem lexes_nil : Lexes [] [] := by
  intro rest _
  exact Option.map_id'.symm

theorem Lexes.cons {c : Char} {s : Text} {ps : List Piece} (hc : isQuote c = false) (h : Lexes s ps) :
    Lexes (c :: s) (.code c :: ps) := by
  intro rest hrest
  rw [List.cons_append, lex, hc, h rest hrest, if_neg Bool.false_ne_true, Option.map_map]
  rfl

theorem Lexes.append {s t : Text} {ps qs : List Piece} (hs : Lexes s ps) (ht : Lexes t qs)
    (hdetached : Detached t) : Lexes (s ++ t) (ps ++ qs) := by
  intro rest hrest
  rw [List.append_assoc, hs _ (hdetached.append hrest), ht rest hrest, Option.map_map]
  simp only [Function.comp_def, List.append_assoc]

/-- Reading on to the end of a quoted region gives back the text that was quoted. -/
theorem lex_doubled {quote : Char} (read t : Text) {rest : Text}
    (hrest : ∀ c ∈ rest.head?, c ≠ quote) :
    lex (.inside quote read) (doubled quote t ++ quote :: rest) =
      (lex .outside rest).map (.quoted quote (read ++ t) :: ·) := by
  induction t generalizing read with
  | nil =>
      cases rest with
      | nil => simp [doubled, lex]
      | cons d rest => simp [doubled, lex, hrest d rfl]
  | cons c t ih =>
      have hread : read ++ c :: t = read ++ [c] ++ t := by simp
      by_cases hc : c = quote
      · subst hc
        rw [doubled, if_pos rfl, hread, ← ih]
        simp [lex]
      · obtain ⟨d, tail, htail⟩ : ∃ d tail, doubled quote t ++ quote :: rest = d :: tail :=
          List.exists_cons_of_ne_nil (by simp)
        rw [doubled, if_neg hc, hread, ← ih, List.cons_append, htail, lex, if_pos hc]

theorem lexes_enclosed {quote : Char} (hquote : isQuote quote = true) (t : Text) :
    Lexes (enclosed quote t) [.quoted quote t] := by
  intro rest hrest
  have hne : ∀ c ∈ rest.head?, c ≠ quote := by
    rintro c hc rfl
    rw [hrest c hc] at hquote
    cases hquote
  rw [enclosed, List.cons_append, List.cons_append, List.append_assoc, lex, if_pos hquote]
  exact lex_doubled [] t hne

theorem lexes_string (t : Text) : Lexes (string t) [.string t] := lexes_enclosed rfl t

theorem lexes_identifier (t : Text) : Lexes (identifier t) [.identifier t] := lexes_enclosed rfl t

theorem lex_of_lexes {s : Text} {ps : List Piece} (h : Lexes s ps) : lex .outside s = some ps := by
  have hend := h [] detached_nil
  rw [List.append_nil, lex, Option.map_some, List.append_nil] at hend
  exact hend

/-- Opens no parenthesis that it does not close, and the other way round. -/
def Balanced (ps : List Piece) : Prop := ∀ depth, nesting depth ps = some depth

def isInert (c : Char) : Bool := !isQuote c && c != '(' && c != ')'

theorem isQuote_of_isInert {c : Char} (h : isInert c = true) : isQuote c = false := by
  simp only [isInert, Bool.and_eq_true, Bool.not_eq_true'] at h
  exact h.1.1

theorem balanced_nil : Balanced [] := fun _ => rfl

theorem Balanced.append {ps qs : List Piece} (hp : Balanced ps) (hq : Balanced qs) :
    Balanced (ps ++ qs) := by
  intro depth
  rw [nesting, List.foldlM_append, ← nesting, hp depth]
  exact hq depth

theorem Balanced.parens {ps : List Piece} (h : Balanced ps) :
    Balanced (.code '(' :: ps ++ [.code ')']) := by
  intro depth
  rw [nesting, List.cons_append, List.foldlM_cons]
  show nesting (depth + 1) (ps ++ [.code ')']) = some depth
  rw [nesting, List.foldlM_append, ← nesting, h]
  rfl

theorem balanced_string (t : Text) : Balanced [.string t] := fun _ => rfl

theorem balanced_identifier (t : Text) : Balanced [.identifier t] := fun _ => rfl

theorem balanced_code {c : Char} (h : isInert c = true) : Balanced [.code c] := by
  intro depth
  have hne : c ≠ '(' ∧ c ≠ ')' := by
    constructor <;> rintro rfl <;> cases h
  show (Piece.nest? depth (.code c)).bind some = some depth
  unfold Piece.nest?
  split
  · rename_i heq
    cases heq
    exact absurd rfl hne.1
  · rename_i heq
    cases heq
    exact absurd rfl hne.2
  · rfl

/-- Pieces with places for strings that render values. -/
abbrev Template := List (Option Piece)

namespace Template

/-- The pieces with one value after the other put in, if there are as many values as places. -/
def fill : Template → List Text → Option (List Piece)
  | [], [] => some []
  | some p :: template, values => (fill template values).map (p :: ·)
  | none :: template, value :: values => (fill template values).map (.string value :: ·)
  | [], _ :: _ => none
  | none :: _, [] => none

theorem fill_append {template template' : Template} {values values' : List Text} {ps qs : List Piece}
    (h : fill template values = some ps) (h' : fill template' values' = some qs) :
    fill (template ++ template') (values ++ values') = some (ps ++ qs) := by
  fun_induction fill template values generalizing ps with
  | case1 =>
      cases h
      exact h'
  | case2 p template values ih =>
      obtain ⟨rest, hrest, rfl⟩ := Option.map_eq_some_iff.1 h
      rw [List.cons_append, fill, ih hrest]
      rfl
  | case3 template value values ih =>
      obtain ⟨rest, hrest, rfl⟩ := Option.map_eq_some_iff.1 h
      rw [List.cons_append, List.cons_append, fill, ih hrest]
      rfl
  | case4 => cases h
  | case5 => cases h

def masked (template : Template) : List Piece :=
  template.map fun place => (place.getD (.string [])).masked

theorem map_masked_of_fill {template : Template} {values : List Text} {ps : List Piece}
    (h : fill template values = some ps) : ps.map Piece.masked = template.masked := by
  fun_induction fill template values generalizing ps with
  | case1 =>
      cases h
      rfl
  | case2 p template values ih =>
      obtain ⟨rest, hrest, rfl⟩ := Option.map_eq_some_iff.1 h
      exact congrArg (p.masked :: ·) (ih hrest)
  | case3 template value values ih =>
      obtain ⟨rest, hrest, rfl⟩ := Option.map_eq_some_iff.1 h
      exact congrArg (Piece.string [] :: ·) (ih hrest)
  | case4 => cases h
  | case5 => cases h

end Template

/-- The text is scanned into the template with the values put in, and is balanced. -/
structure Scanned (template : Template) (values : List Text) (s : Text) (ps : List Piece) : Prop where
  lexes : Lexes s ps
  fill : template.fill values = some ps
  balanced : Balanced ps

namespace Scanned

variable {template template' : Template} {values values' : List Text} {s t : Text} {ps qs : List Piece}

theorem nil : Scanned [] [] [] [] := ⟨lexes_nil, rfl, balanced_nil⟩

theorem cons {c : Char} (hc : isInert c = true) (h : Scanned template values s ps) :
    Scanned (some (.code c) :: template) values (c :: s) (.code c :: ps) where
  lexes := h.lexes.cons (isQuote_of_isInert hc)
  fill := by rw [Template.fill, h.fill, Option.map_some]
  balanced := (balanced_code hc).append h.balanced

theorem append (h : Scanned template values s ps) (h' : Scanned template' values' t qs)
    (ht : Detached t) : Scanned (template ++ template') (values ++ values') (s ++ t) (ps ++ qs) where
  lexes := h.lexes.append h'.lexes ht
  fill := Template.fill_append h.fill h'.fill
  balanced := h.balanced.append h'.balanced

theorem parens (h : Scanned template values s ps) :
    Scanned (some (.code '(') :: template ++ [some (.code ')')]) values ('(' :: s ++ [')'])
      (.code '(' :: ps ++ [.code ')']) where
  lexes := by
    have hclosing : Lexes [')'] [.code ')'] := lexes_nil.cons rfl
    have hdetached : Detached [')'] := fun c hc => by cases hc; rfl
    exact (h.lexes.append hclosing hdetached).cons rfl
  fill := by
    have hclosing := @Template.fill_append template [some (.code ')')] values [] ps _ h.fill rfl
    rw [List.append_nil] at hclosing
    rw [List.cons_append, Template.fill, hclosing]
    rfl
  balanced := h.balanced.parens

theorem string (t : Text) : Scanned [some (.string t)] [] (Sql.string t) [.string t] :=
  ⟨lexes_string t, rfl, balanced_string t⟩

theorem identifier (t : Text) : Scanned [some (.identifier t)] [] (Sql.identifier t) [.identifier t] :=
  ⟨lexes_identifier t, rfl, balanced_identifier t⟩

theorem value (t : Text) : Scanned [none] [t] (Sql.string t) [.string t] :=
  ⟨lexes_string t, rfl, balanced_string t⟩

end Scanned

end FilterLang.Sql
