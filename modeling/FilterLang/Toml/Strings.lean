import FilterLang.Text.Hexadecimal

/-!
Strings of TOML: basic ones with escapes and literal ones without, on one line or, with tripled
quotes, on several. A reader gives what it read and the text after it.
-/

namespace FilterLang.Toml

def isSpace (c : Char) : Bool := c == ' ' || c == '\t'

def isPlain (c : Char) : Bool := c == '\t' || (0x20 ≤ c.toNat && c != '\x7f')

def newline? : Text → Option Text
  | '\n' :: t => some t
  | '\r' :: '\n' :: t => some t
  | _ => none

def push (c : Char) (r : Text × Text) : Text × Text := (c :: r.1, r.2)

def plainEscape? : Char → Option Char
  | '"' => some '"'
  | '\\' => some '\\'
  | 'b' => some '\x08'
  | 'f' => some '\x0c'
  | 'n' => some '\n'
  | 'r' => some '\r'
  | 't' => some '\t'
  | _ => none

def numbered? (digits : Text) : Option Char := (Text.ofHex? digits).bind Text.charOf?

def basicBody? : Text → Option (Text × Text)
  | [] => none
  | '"' :: t => some ([], t)
  | '\\' :: 'u' :: a :: b :: c :: d :: t => do return push (← numbered? [a, b, c, d]) (← basicBody? t)
  | '\\' :: 'U' :: a :: b :: c :: d :: e :: f :: g :: h :: t => do
    return push (← numbered? [a, b, c, d, e, f, g, h]) (← basicBody? t)
  | '\\' :: e :: t => do return push (← plainEscape? e) (← basicBody? t)
  | c :: t => if isPlain c then (basicBody? t).map (push c) else none

def literalBody? : Text → Option (Text × Text)
  | [] => none
  | '\'' :: t => some ([], t)
  | c :: t => if isPlain c then (literalBody? t).map (push c) else none

/-- After the closing three quotes: one or two quotes right before them belong to the string. -/
def closed (quote : Char) : Text → Text × Text
  | a :: b :: t =>
    if a = quote ∧ b = quote then ([quote, quote], t)
    else if a = quote then ([quote], b :: t)
    else ([], a :: b :: t)
  | [a] => if a = quote then ([quote], []) else ([], [a])
  | [] => ([], [])

def endsLine (t : Text) : Bool := (newline? (t.dropWhile isSpace)).isSome

/--
The rest of a basic string of several lines. `skipping` leaves out spaces and ends of lines, after a
backslash at the end of a line.
-/
def basicBlock? (skipping : Bool) : Text → Option (Text × Text)
  | [] => none
  | '"' :: '"' :: '"' :: t => some (closed '"' t)
  | '\\' :: 'u' :: a :: b :: c :: d :: t => do
    return push (← numbered? [a, b, c, d]) (← basicBlock? false t)
  | '\\' :: 'U' :: a :: b :: c :: d :: e :: f :: g :: h :: t => do
    return push (← numbered? [a, b, c, d, e, f, g, h]) (← basicBlock? false t)
  | '\\' :: e :: t =>
    if endsLine (e :: t) then basicBlock? true (e :: t)
    else do return push (← plainEscape? e) (← basicBlock? false t)
  | '\r' :: '\n' :: t => if skipping then basicBlock? true t else (basicBlock? false t).map (push '\n')
  | '\n' :: t => if skipping then basicBlock? true t else (basicBlock? false t).map (push '\n')
  | c :: t =>
    if skipping && isSpace c then basicBlock? true t
    else if isPlain c then (basicBlock? false t).map (push c)
    else none

def literalBlock? : Text → Option (Text × Text)
  | [] => none
  | '\'' :: '\'' :: '\'' :: t => some (closed '\'' t)
  | '\r' :: '\n' :: t => (literalBlock? t).map (push '\n')
  | '\n' :: t => (literalBlock? t).map (push '\n')
  | c :: t => if isPlain c then (literalBlock? t).map (push c) else none

/-- An end of line right after the opening quotes does not count. -/
def blockStart (t : Text) : Text := (newline? t).getD t

def quoted? : Text → Option (Text × Text)
  | '"' :: t => basicBody? t
  | '\'' :: t => literalBody? t
  | _ => none

def string? : Text → Option (Text × Text)
  | '"' :: '"' :: '"' :: t => basicBlock? false (blockStart t)
  | '\'' :: '\'' :: '\'' :: t => literalBlock? (blockStart t)
  | t => quoted? t

end FilterLang.Toml
