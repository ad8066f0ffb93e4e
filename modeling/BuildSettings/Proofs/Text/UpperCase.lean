/-
# Upper case of marks

The upper case of a character is never empty, so no character gets lost by it. Marks have
no case: a dot, say, is its own upper case, and no other character has a dot in its upper
case. Whether that is so of a character can be read off the tables.
-/

import Mathlib.Data.List.Basic
import BuildSettings.Text.UpperCase

namespace BuildSettings.Text

variable {c d : Char}

/-- A table gives this character as the upper case of another one, or as a part of it. -/
def isListedUpperCase (d : Char) : Bool :=
  (expandedUpperCase.any fun entry => entry.2.any (Char.ofNat · == d))
    || singleUpperCase.any fun run =>
      run.first + run.shift ≤ d.toNat && d.toNat ≤ run.last + run.shift

/-- The character is its own upper case, and has no part in that of any other. -/
def isCaseless (d : Char) : Bool :=
  d.toNat ≠ 0 && upperCase d == [d] && !isListedUpperCase d

/-- A code that makes another character than zero is the code point of that character. -/
theorem toNat_ofNat_of_ne_zero {code : Nat} (h : (Char.ofNat code).toNat ≠ 0) :
    (Char.ofNat code).toNat = code := by
  by_cases hvalid : code.isValidChar
  · rw [Char.ofNat, dif_pos hvalid]
    rfl
  · rw [Char.ofNat, dif_neg hvalid] at h
    exact absurd rfl h

theorem mem_of_lookup_eq_some {α : Type} {entries : List (Nat × α)} {code : Nat} {value : α}
    (h : entries.lookup code = some value) : (code, value) ∈ entries := by
  obtain ⟨before, after, rfl, -⟩ := List.lookup_eq_some_iff.mp h
  simp

/-- Every character has an upper case. -/
theorem upperCase_ne_nil (c : Char) : upperCase c ≠ [] := by
  rw [upperCase]
  split
  · rename_i codes hcodes
    have hne : ∀ entry ∈ expandedUpperCase, entry.2 ≠ [] := by decide
    simpa using hne _ (mem_of_lookup_eq_some hcodes)
  · split <;> exact List.cons_ne_nil _ _

/-- A character that the tables do not give is in its own upper case only. -/
theorem eq_of_mem_upperCase (hd : d.toNat ≠ 0) (hlisted : isListedUpperCase d = false)
    (hmem : d ∈ upperCase c) : d = c := by
  rw [isListedUpperCase, Bool.or_eq_false_iff] at hlisted
  obtain ⟨hexpanded, hsingle⟩ := hlisted
  rw [upperCase] at hmem
  split at hmem
  · rename_i codes hcodes
    obtain ⟨code, hcode, rfl⟩ := List.mem_map.mp hmem
    have hentry := List.any_eq_false.mp hexpanded _ (mem_of_lookup_eq_some hcodes)
    have hfound : codes.any (Char.ofNat · == Char.ofNat code) = true :=
      List.any_eq_true.mpr ⟨code, hcode, beq_self_eq_true _⟩
    exact absurd hfound hentry
  · split at hmem
    · rename_i run hrun
      obtain rfl := List.mem_singleton.mp hmem
      have hcode := toNat_ofNat_of_ne_zero hd
      have hholds := List.find?_some hrun
      have hnot := List.any_eq_false.mp hsingle _ (List.mem_of_find?_eq_some hrun)
      rw [hcode] at hnot hd
      simp only [CaseRun.holds, Bool.and_eq_true, decide_eq_true_eq] at hholds hnot
      omega
    · exact List.mem_singleton.mp hmem

theorem isCaseless_iff :
    isCaseless d = true ↔
      d.toNat ≠ 0 ∧ upperCase d = [d] ∧ isListedUpperCase d = false := by
  simp [isCaseless, and_assoc]

theorem upperCase_of_isCaseless (h : isCaseless d = true) : upperCase d = [d] :=
  (isCaseless_iff.mp h).2.1

/-- A caseless character is in its own upper case and in no other. -/
theorem mem_upperCase_iff (h : isCaseless d = true) : d ∈ upperCase c ↔ c = d := by
  obtain ⟨hd, hself, hlisted⟩ := isCaseless_iff.mp h
  apply Iff.intro
  · intro hmem
    exact (eq_of_mem_upperCase hd hlisted hmem).symm
  · rintro rfl
    rw [hself]
    exact List.mem_singleton_self _

theorem isCaseless_dot : isCaseless '.' = true := by decide

end BuildSettings.Text
