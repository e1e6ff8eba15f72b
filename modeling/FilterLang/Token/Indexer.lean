import FilterLang.Token.Basic

/-!
Indexers, which filters and orderings share: a key between brackets. Inside, a backslash stands
before every character that would otherwise not be plain, brackets included.
-/

namespace FilterLang.Token

def isKeyEscapable (c : Char) : Bool := isEscapable c || c == '[' || c == ']'

def scanKey? : Text → Option (Text × Text)
  | [] => none
  | ']' :: t => some ([], t)
  | '\\' :: c :: t =>
    if isKeyEscapable c then (scanKey? t).map fun (key, rest) => (c :: key, rest)
    else (scanKey? (c :: t)).map fun (key, rest) => ('\\' :: key, rest)
  | c :: t => (scanKey? t).map fun (key, rest) => (c :: key, rest)

def scanIndexer (t : Text) : Except Lexeme.Fault (List Lexeme × Text) :=
  match scanKey? t.tail with
  | none => .error ⟨.unterminatedIndexer, t⟩
  | some (key, rest) =>
    .ok ([⟨.indexerOpen, ['['], t⟩, ⟨.literal, key.trim, t.tail⟩,
      ⟨.indexerClose, [']'], ']' :: rest⟩], rest)

theorem scanKey?_suffix {t key rest : Text} (h : scanKey? t = some (key, rest)) :
    ']' :: rest <:+ t := by
  fun_induction scanKey? t generalizing key rest with
  | case1 => cases h
  | case2 t => cases h; exact List.suffix_refl _
  | case3 c t _ ih =>
    obtain ⟨⟨_, _⟩, found, equal⟩ := Option.map_eq_some_iff.1 h
    cases equal
    exact (ih found).trans ((List.suffix_cons c t).trans (List.suffix_cons _ _))
  | case4 c t _ ih =>
    obtain ⟨⟨_, _⟩, found, equal⟩ := Option.map_eq_some_iff.1 h
    cases equal
    exact (ih found).trans (List.suffix_cons _ _)
  | case5 c t _ _ ih =>
    obtain ⟨⟨_, _⟩, found, equal⟩ := Option.map_eq_some_iff.1 h
    cases equal
    exact (ih found).trans (List.suffix_cons _ _)

theorem scanIndexer_suffix {t rest : Text} {ls : List Lexeme}
    (h : scanIndexer t = .ok (ls, rest)) : rest <:+ t := by
  unfold scanIndexer at h
  split at h
  · cases h
  · next found =>
    cases h
    exact (List.suffix_cons _ _).trans ((scanKey?_suffix found).trans (List.tail_suffix t))

end FilterLang.Token
