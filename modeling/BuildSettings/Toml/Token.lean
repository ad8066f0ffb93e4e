/-
# Tokens of TOML

A TOML text is first cut into tokens: runs of unquoted characters, quoted texts,
punctuation, blanks and line breaks. Comments are checked and dropped. Dots are
tokens of their own, since they separate the parts of a key; a number or a date
is put together again from the tokens it consists of.
-/

import BuildSettings.Toml.Quotation

namespace BuildSettings.Toml

/-- A token of a TOML text. -/
inductive Token
  /-- A run of letters, digits, `_`, `-`, `+` and `:`. -/
  | bare (text : List Char)
  /-- A quoted text on one line. -/
  | quoted (text : String)
  /-- A quoted text that may span lines. -/
  | paragraph (text : String)
  /-- A run of blanks; the flag tells that it is a single space. -/
  | space (single : Bool)
  | lineBreak
  | dot
  | comma
  | equals
  | openBracket
  | closeBracket
  | openBrace
  | closeBrace
  deriving Repr, DecidableEq

/-- A character that may stand in an unquoted key. -/
def isKeyChar (c : Char) : Bool :=
  c.isAlphanum || c == '_' || c == '-'

/-- A character that may stand in an unquoted key or value, dots apart. -/
def isBareChar (c : Char) : Bool :=
  isKeyChar c || c == '+' || c == ':'

/-- The token that a character is by itself. -/
def punctuation? : Char → Option Token
  | '\n' => some .lineBreak
  | '.' => some .dot
  | ',' => some .comma
  | '=' => some .equals
  | '[' => some .openBracket
  | ']' => some .closeBracket
  | '{' => some .openBrace
  | '}' => some .closeBrace
  | _ => none

/-- The quoted text at the front of `cs`, whose first quote has been read, and
what follows it. -/
def quotedToken? (style : QuoteStyle) (cs : List Char) : Option (Token × List Char) :=
  if [style.mark, style.mark].isPrefixOf cs then
    (cutParagraph style false (cs.drop 2)).bind fun cut =>
      (textOfRaw? style true (dropFirstBreak cut.1)).map fun text => (.paragraph text, cut.2)
  else
    (cutLine style false cs).bind fun cut =>
      (textOfRaw? style false cut.1).map fun text => (.quoted text, cut.2)

theorem length_quotedToken?_le {style : QuoteStyle} {cs rest : List Char} {token : Token}
    (h : quotedToken? style cs = some (token, rest)) : rest.length ≤ cs.length := by
  unfold quotedToken? at h
  split at h
  · obtain ⟨cut, hcut, h⟩ := Option.bind_eq_some_iff.mp h
    obtain ⟨text, _, heq⟩ := Option.map_eq_some_iff.mp h
    have := length_cutParagraph_lt hcut
    rw [List.length_drop] at this
    rw [← (Prod.mk.inj heq).2]
    omega
  · obtain ⟨cut, hcut, h⟩ := Option.bind_eq_some_iff.mp h
    obtain ⟨text, _, heq⟩ := Option.map_eq_some_iff.mp h
    have := length_cutLine_lt hcut
    rw [← (Prod.mk.inj heq).2]
    omega

/-- The token at the front of a text that starts with `c`, and what follows it. -/
def firstToken? (c : Char) (cs : List Char) : Option (Token × List Char) :=
  match punctuation? c with
  | some token => some (token, cs)
  | none =>
    if isSpace c then
      some (.space (c == ' ' && (cs.takeWhile isSpace).isEmpty), cs.dropWhile isSpace)
    else if isBareChar c then
      some (.bare (c :: cs.takeWhile isBareChar), cs.dropWhile isBareChar)
    else if c = '\r' then
      match cs with
      | '\n' :: rest => some (.lineBreak, rest)
      | _ => none
    else if c = QuoteStyle.basic.mark then quotedToken? .basic cs
    else if c = QuoteStyle.literal.mark then quotedToken? .literal cs
    else none

theorem length_firstToken?_le {c : Char} {cs rest : List Char} {token : Token}
    (h : firstToken? c cs = some (token, rest)) : rest.length ≤ cs.length := by
  unfold firstToken? at h
  split at h
  · simp_all
  · split at h
    · simp only [Option.some.injEq, Prod.mk.injEq] at h
      rw [← h.2]
      exact (List.dropWhile_suffix _).length_le
    · split at h
      · simp only [Option.some.injEq, Prod.mk.injEq] at h
        rw [← h.2]
        exact (List.dropWhile_suffix _).length_le
      · split at h
        · split at h
          · simp only [Option.some.injEq, Prod.mk.injEq] at h
            simp [h.2]
          · simp at h
        · split at h
          · exact length_quotedToken?_le h
          · split at h
            · exact length_quotedToken?_le h
            · simp at h

/-- The tokens of a text, if it can be cut into tokens. -/
def tokens? (text : List Char) : Option (List Token) :=
  match text with
  | [] => some []
  | c :: cs =>
    if c = '#' then
      let after := cs.dropWhile isInline
      match after with
      | [] => some []
      | '\n' :: _ => tokens? after
      | '\r' :: _ => tokens? after
      | _ => none
    else
      match _h : firstToken? c cs with
      | none => none
      | some (token, rest) => (tokens? rest).map (token :: ·)
termination_by text.length
decreasing_by
  · have := (List.dropWhile_suffix (l := cs) isInline).length_le
    simp only [List.length_cons]
    omega
  · have := (List.dropWhile_suffix (l := cs) isInline).length_le
    simp only [List.length_cons]
    omega
  · have := length_firstToken?_le _h
    simp only [List.length_cons]
    omega

end BuildSettings.Toml
