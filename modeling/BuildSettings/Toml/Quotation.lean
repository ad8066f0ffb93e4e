/-
# Quoted texts of TOML

A TOML text stands in double quotes, where a backslash introduces an escape, or
in single quotes, where nothing does. One quote delimits a text on one line,
three delimit a text that may span lines. A text is read in two steps: first the
characters up to the closing quotes are cut off, then the escapes among them are
replaced. Line breaks inside a text become line feeds.
-/

namespace BuildSettings.Toml

/-- The two styles of quoting. -/
inductive QuoteStyle
  /-- Double quotes, with escapes. -/
  | basic
  /-- Single quotes, without escapes. -/
  | literal
  deriving Repr, DecidableEq

/-- The quote of a style. -/
def QuoteStyle.mark : QuoteStyle → Char
  | .basic => '"'
  | .literal => '\''

/-- A character that may stand on a line of a text or a comment: a tab, or
anything that is not a control character. -/
def isInline (c : Char) : Bool :=
  c == '\t' || (0x20 ≤ c.toNat && c.toNat ≠ 0x7F)

/-- The blanks that separate things on a line. -/
def isSpace (c : Char) : Bool :=
  c == ' ' || c == '\t'

/-- A backslash opens an escape in basic texts, unless it is itself escaped. -/
def opensEscape (style : QuoteStyle) (escaped : Bool) (c : Char) : Bool :=
  style == .basic && c == '\\' && !escaped

/-- Cut a one-line text off at its closing quote: the raw text, and what follows
the quote. The flag tells that a backslash stands before the next character. -/
def cutLine (style : QuoteStyle) : (escaped : Bool) → List Char → Option (List Char × List Char)
  | _, [] => none
  | escaped, c :: rest =>
    if c = style.mark ∧ !escaped then some ([], rest)
    else if isInline c then
      (cutLine style (opensEscape style escaped c) rest).map fun cut => (c :: cut.1, cut.2)
    else none

/-- Cut a text of several lines off at its three closing quotes. Up to two more
quotes right before those belong to the text, and so does a shorter run of
quotes elsewhere. A carriage return counts only as part of a line break. -/
def cutParagraph (style : QuoteStyle) :
    (escaped : Bool) → List Char → Option (List Char × List Char)
  | _, [] => none
  | escaped, c :: rest =>
    if c = style.mark ∧ !escaped then
      if [c, c].isPrefixOf rest then
        let extra := ((rest.drop 2).takeWhile (· == c)).take 2
        some (extra, (rest.drop 2).drop extra.length)
      else (cutParagraph style false rest).map fun cut => (c :: cut.1, cut.2)
    else if c = '\r' then
      if rest.head? = some '\n' then cutParagraph style escaped rest else none
    else if c = '\n' ∨ isInline c then
      (cutParagraph style (opensEscape style escaped c) rest).map fun cut => (c :: cut.1, cut.2)
    else none

theorem length_cutLine_lt {style : QuoteStyle} {escaped : Bool} {cs raw rest : List Char}
    (h : cutLine style escaped cs = some (raw, rest)) : rest.length < cs.length := by
  induction cs generalizing escaped raw with
  | nil => simp [cutLine] at h
  | cons c cs ih =>
    rw [cutLine] at h
    split at h
    · simp only [Option.some.injEq, Prod.mk.injEq] at h
      simp [h.2]
    · split at h
      · obtain ⟨⟨first, last⟩, hcut, heq⟩ := Option.map_eq_some_iff.mp h
        simp only [Prod.mk.injEq] at heq
        have := ih (heq.2 ▸ hcut)
        simp only [List.length_cons]
        omega
      · simp at h

theorem length_cutParagraph_lt {style : QuoteStyle} {escaped : Bool} {cs raw rest : List Char}
    (h : cutParagraph style escaped cs = some (raw, rest)) : rest.length < cs.length := by
  induction cs generalizing escaped raw with
  | nil => simp [cutParagraph] at h
  | cons c cs ih =>
    have step : ∀ {flag : Bool},
        (cutParagraph style flag cs).map (fun cut => (c :: cut.1, cut.2)) = some (raw, rest) →
          rest.length < (c :: cs).length := by
      intro flag hmap
      obtain ⟨⟨first, last⟩, hcut, heq⟩ := Option.map_eq_some_iff.mp hmap
      simp only [Prod.mk.injEq] at heq
      have := ih (heq.2 ▸ hcut)
      simp only [List.length_cons]
      omega
    rw [cutParagraph] at h
    split at h
    · split at h
      · simp only [Option.some.injEq, Prod.mk.injEq] at h
        simp only [← h.2, List.length_drop, List.length_cons]
        omega
      · exact step h
    · split at h
      · split at h
        · have := ih h
          simp only [List.length_cons]
          omega
        · simp at h
      · split at h
        · exact step h
        · simp at h

/-- The value of a hexadecimal digit. -/
def hexValue? (c : Char) : Option Nat :=
  if '0' ≤ c ∧ c ≤ '9' then some (c.toNat - '0'.toNat)
  else if 'a' ≤ c ∧ c ≤ 'f' then some (c.toNat - 'a'.toNat + 10)
  else if 'A' ≤ c ∧ c ≤ 'F' then some (c.toNat - 'A'.toNat + 10)
  else none

/-- The character whose code point is written in exactly `count` hexadecimal
digits; surrogates and numbers beyond the last code point are no characters. -/
def characterOfHex? (count : Nat) (digits : List Char) : Option Char :=
  if digits.length = count then
    (digits.mapM hexValue?).bind fun values =>
      let code := values.foldl (fun total value => total * 16 + value) 0
      if code.isValidChar then some (Char.ofNat code) else none
  else none

/-- What the escape in front of a text stands for, and how many characters it
takes behind the backslash. In a text of several lines a backslash at the end of
a line hides the line break and all blanks and line breaks that follow. -/
def escape? (multiline : Bool) (text : List Char) : Option (List Char × Nat) :=
  match text with
  | [] => none
  | c :: rest =>
    match c with
    | 'b' => some (['\x08'], 1)
    | 't' => some (['\t'], 1)
    | 'n' => some (['\n'], 1)
    | 'f' => some (['\x0c'], 1)
    | 'r' => some (['\r'], 1)
    | '"' => some (['"'], 1)
    | '\\' => some (['\\'], 1)
    | 'u' => (characterOfHex? 4 (rest.take 4)).map fun c => ([c], 5)
    | 'U' => (characterOfHex? 8 (rest.take 8)).map fun c => ([c], 9)
    | _ =>
      if multiline ∧ (text.dropWhile isSpace).head? = some '\n' then
        some ([], (text.takeWhile fun c => isSpace c || c == '\n').length)
      else none

/-- Replace the escapes of a raw text. -/
def unescape? (multiline : Bool) (text : List Char) : Option (List Char) :=
  match text with
  | [] => some []
  | c :: rest =>
    if c = '\\' then
      (escape? multiline rest).bind fun found =>
        (unescape? multiline (rest.drop found.2)).map (found.1 ++ ·)
    else (unescape? multiline rest).map (c :: ·)
termination_by text.length
decreasing_by all_goals simp only [List.length_cons, List.length_drop]; omega

/-- The text that a raw text stands for. -/
def textOfRaw? (style : QuoteStyle) (multiline : Bool) (raw : List Char) : Option String :=
  match style with
  | .basic => (unescape? multiline raw).map String.ofList
  | .literal => some (String.ofList raw)

/-- A line break right behind the opening quotes of a text does not count. -/
def dropFirstBreak : List Char → List Char
  | '\n' :: rest => rest
  | raw => raw

end BuildSettings.Toml
