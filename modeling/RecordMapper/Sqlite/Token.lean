import RecordMapper.Sqlite.Numeral
import RecordMapper.Text.Digit

/-!
# Tokens of SQL

A text of SQL is cut into tokens: words, quoted names, strings, numbers, blobs, parameters and marks. Blanks and
comments only separate. What is no token at all is kept as one that no statement admits. Every token knows where it
stands, so that a part of a statement can be quoted as it is written.
-/

namespace RecordMapper.Sqlite

open Text

/-- The classes of tokens. -/
inductive TokenClass where
  /-- A keyword or a name without quotes. -/
  | word
  /-- A name between double quotes. -/
  | quoted
  /-- A name between brackets or backquotes. -/
  | bracketed
  | string
  | integer
  | float
  /-- A number with underscores. -/
  | grouped
  | blob
  | parameter
  /-- An operator or a punctuation mark. -/
  | mark
  /-- A piece of text that is no token. -/
  | invalid
  deriving DecidableEq, Repr, Inhabited

/-- A token as it is written, with the number of characters in front of it. -/
structure Token where
  kind : TokenClass
  spelling : List Char
  start : Nat
  deriving Inhabited, Repr

namespace Token

/-- The characters of names. -/
def isNameChar (c : Char) : Bool :=
  ('a' ≤ c && c ≤ 'z') || ('A' ≤ c && c ≤ 'Z') || isAsciiDigit c || c == '_' || c == '$' || '\x80' ≤ c

/-- A name has no digit or dollar at its start. -/
def isNameStart (c : Char) : Bool :=
  isNameChar c && !isAsciiDigit c && c != '$'

/-- Whether a character is a hexadecimal digit. -/
def isHexDigit (c : Char) : Bool := (hexValue? c).isSome

/-- The length of the rest of a quoted piece, the closing quote included; a quote written twice does not close. -/
def quotedLength? (quote : Char) : List Char → Option Nat
  | [] => none
  | [c] => if c = quote then some 1 else none
  | c :: d :: cs =>
    if c = quote then
      if d = quote then (quotedLength? quote cs).map (· + 2) else some 1
    else (quotedLength? quote (d :: cs)).map (· + 1)

/-- The characters between quotes, a quote written twice standing for one. -/
def unquoted (quote : Char) : List Char → List Char
  | [] => []
  | [c] => if c = quote then [] else [c]
  | c :: d :: cs =>
    if c = quote then
      if d = quote then quote :: unquoted quote cs else []
    else c :: unquoted quote (d :: cs)

/-- A text without the quotes around its first part, if it starts with one; what follows that part is dropped. -/
def dequoted (s : String) : String :=
  match s.toList with
  | '[' :: cs => String.ofList (unquoted ']' cs)
  | c :: cs => if c = '"' ∨ c = '\'' ∨ c = '`' then String.ofList (unquoted c cs) else s
  | [] => s

/-- The number of digits and underscores at the start of a text. -/
def digitsLength (isDigit : Char → Bool) (cs : List Char) : Nat :=
  (cs.takeWhile fun c => isDigit c || c == '_').length

/-- Whether a text starts as a hexadecimal number does. -/
def startsHex (cs : List Char) : Bool :=
  match cs with
  | '0' :: x :: _ => x = 'x' ∨ x = 'X'
  | _ => false

/-- The class and the length of a number without the name characters after it. -/
def numberShape (cs : List Char) : TokenClass × Nat :=
  let (kind, n) :=
    if startsHex cs && (cs[2]?.map isHexDigit).getD false then (.integer, 2 + digitsLength isHexDigit (cs.drop 2))
    else
      let whole := digitsLength isAsciiDigit cs
      let (kind, n) :=
        if (cs.drop whole).head? = some '.' then
          (TokenClass.float, whole + 1 + digitsLength isAsciiDigit (cs.drop (whole + 1)))
        else (.integer, whole)
      match exponentLength (cs.drop n) with
      | 0 => (kind, n)
      | m => (.float, n + m)
  (if (cs.take n).contains '_' then .grouped else kind, n)
where
  /-- The length of an exponent, which has a digit at its start, perhaps after a sign. -/
  exponentLength : List Char → Nat
    | e :: ds =>
      let signs := if ds.head? = some '+' ∨ ds.head? = some '-' then 1 else 0
      if (e = 'e' ∨ e = 'E') ∧ ((ds.drop signs).head?.map isAsciiDigit).getD false then
        1 + signs + digitsLength isAsciiDigit (ds.drop signs)
      else 0
    | [] => 0

/-- A number; name characters that follow it at once make it invalid. -/
def number (cs : List Char) : TokenClass × Nat :=
  let (kind, n) := numberShape cs
  let junk := ((cs.drop n).takeWhile isNameChar).length
  if junk = 0 then (kind, n) else (.invalid, n + junk)

/-- A number in which an underscore is not between two digits: without the underscores in front of the last one of these,
but as long as it was written. -/
def misgrouped? (cs : List Char) : Option String :=
  let isDigit := if startsHex cs then isHexDigit else isAsciiDigit
  let hasDigit (i : Nat) : Bool := (cs[i]?.map isDigit).getD false
  let isWrong (i : Nat) : Bool := cs[i]? == some '_' && !(hasDigit (i - 1) && hasDigit (i + 1))
  ((List.range cs.length).filter isWrong).getLast?.map fun i =>
    let kept := (cs.take i).filter (· != '_')
    String.ofList (kept ++ cs.drop kept.length)

/-- A parameter with a name after its mark: name characters, double colons, and at the end a part between parentheses;
this much of it has been read, and so many of its name characters. -/
def parameterShape (length named : Nat) : List Char → TokenClass × Nat
  | ':' :: ':' :: cs => parameterShape (length + 2) named cs
  | c :: cs =>
    if isNameChar c then parameterShape (length + 1) (named + 1) cs
    else if c = '(' ∧ 0 < named then
      let inner := (cs.takeWhile fun d => !isSpace d && d != ')').length
      if cs[inner]? = some ')' then (.parameter, length + inner + 2) else (.invalid, length + inner + 1)
    else (if named = 0 then .invalid else .parameter, length)
  | [] => (if named = 0 then .invalid else .parameter, length)

/-- The marks of two characters and more, longest first. -/
def longMarks : List (List Char) :=
  ["->>", "->", "==", "<=", "<>", "<<", ">=", ">>", "!=", "||"].map String.toList

/-- The marks of one character. -/
def shortMarks : List Char := "-();+*/%=<>|,&~.".toList

/-- A quoted piece of the given class; without its end it is invalid up to the end of the text. -/
def quotedShape (kind : TokenClass) (quote : Char) (cs : List Char) : TokenClass × Nat :=
  match quotedLength? quote (cs.drop 1) with
  | some n => (kind, n + 1)
  | none => (.invalid, cs.length)

/-- A blob: an even number of hexadecimal digits between quotes. -/
def blobShape (cs : List Char) : TokenClass × Nat :=
  let digits := (cs.drop 2).takeWhile isHexDigit
  if (cs.drop (2 + digits.length)).head? = some '\'' && digits.length % 2 = 0 then (.blob, digits.length + 3)
  else (.invalid, min cs.length (3 + ((cs.drop 2).takeWhile (· != '\'')).length))

/-- The class and the length of the token at the start of a text that starts with one. -/
def shape (cs : List Char) : TokenClass × Nat :=
  match cs with
  | [] => (.invalid, 0)
  | c :: rest =>
    if c = '\'' then quotedShape .string c cs
    else if c = '"' then quotedShape .quoted c cs
    else if c = '`' then quotedShape .bracketed c cs
    else if c = '[' then
      let n := (rest.takeWhile (· != ']')).length
      if n < rest.length then (.bracketed, n + 2) else (.invalid, cs.length)
    else if (c = 'x' ∨ c = 'X') ∧ rest.head? = some '\'' then blobShape cs
    else if isNameStart c then (.word, (cs.takeWhile isNameChar).length)
    else if isAsciiDigit c ∨ (c = '.' ∧ (rest.head?.map isAsciiDigit).getD false) then number cs
    else if c = '?' then (.parameter, 1 + (rest.takeWhile isAsciiDigit).length)
    else if c = ':' ∨ c = '@' ∨ c = '$' ∨ c = '#' then
      parameterShape 1 0 rest
    else match longMarks.find? (·.isPrefixOf cs) with
      | some mark => (.mark, mark.length)
      | none => if shortMarks.contains c then (.mark, 1) else (.invalid, 1)

/-- The length of a comment after its first two characters, its end included. -/
def commentLength : List Char → Nat
  | [] => 0
  | [_] => 1
  | c :: d :: cs => if c = '*' ∧ d = '/' then 2 else 1 + commentLength (d :: cs)

/-- The number of characters of blanks and comments at the start of a text; the mark `U+FEFF` counts as a blank. -/
def gap (cs : List Char) : Nat :=
  match cs with
  | [] => 0
  | c :: rest =>
    if (isSpace c && c != '\x0b') || c == '\uFEFF' then 1 + gap rest
    else if c = '-' ∧ rest.head? = some '-' then
      let n := (rest.takeWhile (· != '\n')).length
      1 + n + gap (rest.drop n)
    else if c = '/' ∧ rest.head? = some '*' ∧ 1 < rest.length then
      let n := 1 + commentLength (rest.drop 1)
      1 + n + gap (rest.drop n)
    else 0
termination_by cs.length
decreasing_by
  all_goals simp only [List.length_cons, List.length_drop]
  all_goals omega

/-- The tokens of a text whose first character has the given position. -/
def scan (start : Nat) (cs : List Char) : List Token :=
  let n := gap cs
  match _h : cs.drop n with
  | [] => []
  | c :: rest =>
    let (kind, length) := shape (c :: rest)
    ⟨kind, (c :: rest).take length, start + n⟩ :: scan (start + n + max 1 length) (rest.drop (length - 1))
termination_by cs.length
decreasing_by
  have : (cs.drop n).length = rest.length + 1 := by rw [_h]; rfl
  simp only [List.length_drop] at this ⊢
  omega

end Token

end RecordMapper.Sqlite
