/-
# Blank characters

Names, locations and path segments are compared after the blanks around them
are dropped. A blank is a character with the Unicode property `White_Space`,
which includes the line separators and the wide spaces outside ASCII. The
functions work on character lists and come with thin versions for strings.
-/

namespace BuildSettings.Text

/-- The inclusive code point ranges of the Unicode property `White_Space`. -/
def blankRanges : List (Nat × Nat) :=
  [(0x09, 0x0D), (0x20, 0x20), (0x85, 0x85), (0xA0, 0xA0), (0x1680, 0x1680),
   (0x2000, 0x200A), (0x2028, 0x2029), (0x202F, 0x202F), (0x205F, 0x205F),
   (0x3000, 0x3000)]

/-- A character is blank when its code point lies in one of `blankRanges`. -/
def isBlank (c : Char) : Bool :=
  blankRanges.any fun range => range.1 ≤ c.toNat && c.toNat ≤ range.2

/-- Drop the longest tail whose members all satisfy `drop`. -/
def dropTailWhile {α : Type} (drop : α → Bool) (items : List α) : List α :=
  (items.reverse.dropWhile drop).reverse

/-- Drop the blanks at both ends of a character list. -/
def trimChars (cs : List Char) : List Char :=
  dropTailWhile isBlank (cs.dropWhile isBlank)

/-- Drop the blanks at both ends of a text. -/
def trim (s : String) : String :=
  String.ofList (trimChars s.toList)

/-- A text is blank when it holds blanks only; the empty text is blank. -/
def blank (s : String) : Bool :=
  s.toList.all isBlank

/-- Drop every copy of `c` at the end of a text. -/
def dropTrailing (c : Char) (s : String) : String :=
  String.ofList (dropTailWhile (· == c) s.toList)

theorem mem_of_mem_dropTailWhile {α : Type} {drop : α → Bool} {items : List α} {x : α}
    (h : x ∈ dropTailWhile drop items) : x ∈ items := by
  have := (List.dropWhile_suffix drop).subset (List.mem_reverse.mp h)
  exact List.mem_reverse.mp this

theorem mem_of_mem_trimChars {cs : List Char} {c : Char} (h : c ∈ trimChars cs) : c ∈ cs :=
  (List.dropWhile_suffix isBlank).subset (mem_of_mem_dropTailWhile h)

theorem dropTailWhile_prefix {α : Type} (drop : α → Bool) (items : List α) :
    dropTailWhile drop items <+: items := by
  have h := List.dropWhile_suffix (l := items.reverse) drop
  rw [← List.reverse_prefix, List.reverse_reverse] at h
  exact h

@[simp] theorem dropTailWhile_nil {α : Type} (drop : α → Bool) :
    dropTailWhile drop [] = [] := rfl

/-- What is left after dropping a tail does not end in a droppable member. -/
theorem dropTailWhile_getLast {α : Type} {drop : α → Bool} {items : List α} {x : α}
    (h : (dropTailWhile drop items).getLast? = some x) : drop x = false := by
  rw [dropTailWhile, List.getLast?_reverse] at h
  have := List.head?_dropWhile_not drop items.reverse
  rw [h] at this
  simpa using this

/-- Dropping a tail twice is dropping it once. -/
theorem dropTailWhile_idem {α : Type} (drop : α → Bool) (items : List α) :
    dropTailWhile drop (dropTailWhile drop items) = dropTailWhile drop items := by
  have h : ∀ l : List α, (l.dropWhile drop).dropWhile drop = l.dropWhile drop := by
    intro l
    induction l with
    | nil => rfl
    | cons x rest ih => by_cases hx : drop x <;> simp [hx, ih]
  simp [dropTailWhile, h]

/-- Trimming twice is trimming once. -/
theorem trimChars_idem (cs : List Char) : trimChars (trimChars cs) = trimChars cs := by
  have head : ∀ d : List Char, d.dropWhile isBlank = d →
      (dropTailWhile isBlank d).dropWhile isBlank = dropTailWhile isBlank d := by
    intro d hd
    obtain ⟨tail, htail⟩ := dropTailWhile_prefix isBlank d
    cases hrest : dropTailWhile isBlank d with
    | nil => rfl
    | cons c rest =>
      rw [hrest] at htail
      have hc : isBlank c = false := by
        cases hb : isBlank c with
        | false => rfl
        | true =>
          have hlength := congrArg List.length hd
          rw [← htail, List.cons_append, List.dropWhile_cons_of_pos hb] at hlength
          have := (List.dropWhile_suffix (l := rest ++ tail) isBlank).length_le
          rw [hlength, List.length_cons] at this
          omega
      rw [List.dropWhile_cons_of_neg (by simp [hc])]
  have whole : ∀ l : List Char, (l.dropWhile isBlank).dropWhile isBlank = l.dropWhile isBlank := by
    intro l
    induction l with
    | nil => rfl
    | cons c rest ih => by_cases hc : isBlank c <;> simp [hc, ih]
  unfold trimChars
  rw [head _ (whole cs), dropTailWhile_idem]

end BuildSettings.Text
