/-
# Statements of TOML

A TOML document is a sequence of statements, each on lines of its own: a key is
given a value, or a header opens a table. A reader takes a statement, a key or a
value off the front of a token list; its result carries the proof that something
was taken, so repeated reading ends. Arrays and inline tables may be nested to a
fixed depth.
-/

import BuildSettings.Toml.Node
import BuildSettings.Toml.Token

namespace BuildSettings.Toml

/-- What was read off the front of `tokens`, and what is left. -/
structure Reading (α : Type) (tokens : List Token) where
  value : α
  rest : List Token
  shorter : rest.length < tokens.length

/-- A reader takes something off the front of every token list, or fails. -/
abbrev Reader (α : Type) := (tokens : List Token) → Option (Reading α tokens)

/-- The number of keys on a path, and of brackets around a value, stays below this. -/
def depthLimit : Nat := 80

/-- A blank token. -/
def Token.isSpace : Token → Bool
  | .space _ => true
  | _ => false

/-- A token that may stand between the items of an array. -/
def Token.isGap : Token → Bool
  | .space _ | .lineBreak => true
  | _ => false

/-- The tokens behind blanks. -/
def skipSpace (tokens : List Token) : List Token :=
  tokens.dropWhile Token.isSpace

/-- The tokens behind blanks and line breaks. -/
def skipGap (tokens : List Token) : List Token :=
  tokens.dropWhile Token.isGap

theorem length_skipSpace_le (tokens : List Token) :
    (skipSpace tokens).length ≤ tokens.length :=
  (List.dropWhile_suffix _).length_le

theorem length_skipGap_le (tokens : List Token) : (skipGap tokens).length ≤ tokens.length :=
  (List.dropWhile_suffix _).length_le

/-- The key that a token spells. -/
def Token.key? : Token → Option String
  | .bare text => if text.all isKeyChar then some (String.ofList text) else none
  | .quoted text => some text
  | _ => none

/-- Read a key: parts with dots between them, and blanks around the dots. -/
def readKeyPath (tokens : List Token) : Option (Reading KeyPath tokens) :=
  match tokens with
  | [] => none
  | token :: rest =>
    match token.key? with
    | none => none
    | some key =>
      match h : skipSpace rest with
      | .dot :: later =>
        have shorter : (skipSpace later).length < (token :: rest).length := by
          have := length_skipSpace_le rest
          have := length_skipSpace_le later
          rw [h] at *
          simp only [List.length_cons] at *
          omega
        (readKeyPath (skipSpace later)).map fun inner =>
          ⟨⟨key :: inner.value.parents, inner.value.key⟩, inner.rest,
            Nat.lt_trans inner.shorter shorter⟩
      | after =>
        some ⟨⟨[], key⟩, after, by
          have := length_skipSpace_le rest
          rw [h] at this
          simp only [List.length_cons]
          omega⟩
termination_by tokens.length
decreasing_by exact shorter

/-- Read a key that is not too long. -/
def readKey : Reader KeyPath := fun tokens =>
  (readKeyPath tokens).filter fun reading => reading.value.length < depthLimit

/-- The characters of the tokens that make up an unquoted value, and what follows. -/
def takeBare : List Token → List Char × List Token
  | .bare text :: rest => (text ++ (takeBare rest).1, (takeBare rest).2)
  | .dot :: rest => ('.' :: (takeBare rest).1, (takeBare rest).2)
  | rest => ([], rest)

/-- The characters of an unquoted value; a date, a single space and what follows
it belong together when the latter starts with a digit. -/
def takeUnquoted (tokens : List Token) : List Char × List Token :=
  let (text, rest) := takeBare tokens
  match rest with
  | .space true :: .bare (c :: cs) :: later =>
    if isDate text ∧ c.isDigit then
      let (time, after) := takeBare (.bare (c :: cs) :: later)
      (text ++ ' ' :: time, after)
    else (text, rest)
  | _ => (text, rest)

/-- Read a value that is no array and no table. -/
def readScalar : Reader Value
  | [] => none
  | .quoted text :: rest => some ⟨.string text, rest, by simp⟩
  | .paragraph text :: rest => some ⟨.string text, rest, by simp⟩
  | token :: rest =>
    let taken := takeUnquoted (token :: rest)
    (Value.ofBare? taken.1).bind fun value =>
      if h : taken.2.length < (token :: rest).length then some ⟨value, taken.2, h⟩ else none

/-- Read the rest of an array: items with commas between them up to the closing
bracket, and perhaps a comma behind the last. -/
def readItems (item : Reader Value) (tokens : List Token) :
    Option (Reading (List Value) tokens) :=
  match h : skipGap tokens with
  | [] => none
  | .closeBracket :: rest =>
    some ⟨[], rest, by
      have := length_skipGap_le tokens
      rw [h] at this
      simp only [List.length_cons] at this
      omega⟩
  | token :: rest =>
    (item (token :: rest)).bind fun first =>
      have taken : first.rest.length < tokens.length := by
        have := length_skipGap_le tokens
        have := first.shorter
        rw [h] at *
        omega
      match hafter : skipGap first.rest with
      | .comma :: later =>
        have shorter : later.length < tokens.length := by
          have := length_skipGap_le first.rest
          rw [hafter, List.length_cons] at this
          omega
        (readItems item later).map fun others =>
          ⟨first.value :: others.value, others.rest, Nat.lt_trans others.shorter shorter⟩
      | .closeBracket :: later =>
        some ⟨[first.value], later, by
          have := length_skipGap_le first.rest
          rw [hafter, List.length_cons] at this
          omega⟩
      | _ => none
termination_by tokens.length
decreasing_by exact shorter

/-- Read a key, an equals sign and a value. -/
def readAssignment (item : Reader Value) : Reader (KeyPath × Value) := fun tokens =>
  (readKey tokens).bind fun key =>
    match h : key.rest with
    | .equals :: later =>
      (item (skipSpace later)).map fun value =>
        ⟨(key.value, value.value), value.rest, by
          have := key.shorter
          have := value.shorter
          have := length_skipSpace_le later
          rw [h, List.length_cons] at *
          omega⟩
    | _ => none

/-- Read the rest of an inline table that is not empty: assignments with commas
between them up to the closing brace, on one line. -/
def readMembers (item : Reader Value) (tokens : List Token) :
    Option (Reading (List (KeyPath × Value)) tokens) :=
  (readAssignment item (skipSpace tokens)).bind fun first =>
    have taken : first.rest.length < tokens.length := by
      have := length_skipSpace_le tokens
      have := first.shorter
      omega
    match hafter : skipSpace first.rest with
    | .comma :: later =>
      have shorter : later.length < tokens.length := by
        have := length_skipSpace_le first.rest
        rw [hafter, List.length_cons] at this
        omega
      (readMembers item later).map fun others =>
        ⟨first.value :: others.value, others.rest, Nat.lt_trans others.shorter shorter⟩
    | .closeBrace :: later =>
      some ⟨[first.value], later, by
        have := length_skipSpace_le first.rest
        rw [hafter, List.length_cons] at this
        omega⟩
    | _ => none
termination_by tokens.length
decreasing_by exact shorter

/-- Read an inline table behind its opening brace. -/
def readInlineTable (item : Reader Value) : Reader Value := fun tokens =>
  match h : skipSpace tokens with
  | .closeBrace :: rest =>
    some ⟨.table [], rest, by
      have := length_skipSpace_le tokens
      rw [h, List.length_cons] at this
      omega⟩
  | _ =>
    (readMembers item tokens).bind fun reading =>
      (Entries.assignAll? [] reading.value).map fun entries =>
        ⟨.table (valuesOfEntries entries), reading.rest, reading.shorter⟩

/-- Read a value with at most `depth` brackets around any part of it. -/
def readValue : (depth : Nat) → Reader Value
  | 0 => readScalar
  | depth + 1 => fun tokens =>
    match tokens with
    | .openBracket :: rest =>
      (readItems (readValue depth) rest).map fun reading =>
        ⟨.array reading.value, reading.rest, Nat.lt_succ_of_lt reading.shorter⟩
    | .openBrace :: rest =>
      (readInlineTable (readValue depth) rest).map fun reading =>
        ⟨reading.value, reading.rest, Nat.lt_succ_of_lt reading.shorter⟩
    | other => readScalar other

/-- A statement of a document. -/
inductive Statement
  /-- A key is given a value. -/
  | assign (path : KeyPath) (value : Value)
  /-- A header opens a table. -/
  | table (path : KeyPath)
  /-- A header opens one more table of an array. -/
  | element (path : KeyPath)

/-- Read the rest of a header: a key and the closing brackets. -/
def readHeader (closing : List Token) : Reader KeyPath := fun tokens =>
  (readKey (skipSpace tokens)).bind fun key =>
    (closing.isPrefixOf? key.rest).bind fun later =>
      if h : later.length < tokens.length then some ⟨key.value, later, h⟩ else none

/-- Read a statement at the start of a line. -/
def readStatement : Reader Statement := fun tokens =>
  match tokens with
  | .openBracket :: .openBracket :: rest =>
    (readHeader [.closeBracket, .closeBracket] rest).map fun reading =>
      ⟨.element reading.value, reading.rest, by
        have := reading.shorter
        simp only [List.length_cons]
        omega⟩
  | .openBracket :: rest =>
    (readHeader [.closeBracket] rest).map fun reading =>
      ⟨.table reading.value, reading.rest, Nat.lt_succ_of_lt reading.shorter⟩
  | tokens =>
    (readAssignment (readValue (depthLimit - 1)) tokens).map fun reading =>
      ⟨.assign reading.value.1 reading.value.2, reading.rest, reading.shorter⟩

/-- The statements that tokens make up, each ended by a line break or the end. -/
def statements? (tokens : List Token) : Option (List Statement) :=
  match h : skipGap tokens with
  | [] => some []
  | token :: rest =>
    (readStatement (token :: rest)).bind fun first =>
      match hafter : skipSpace first.rest with
      | [] => some [first.value]
      | .lineBreak :: later =>
        have shorter : later.length < tokens.length := by
          have := length_skipGap_le tokens
          have := length_skipSpace_le first.rest
          have := first.shorter
          rw [h] at *
          rw [hafter] at *
          simp only [List.length_cons] at *
          omega
        (statements? later).map (first.value :: ·)
      | _ => none
termination_by tokens.length
decreasing_by exact shorter

end BuildSettings.Toml
