/-
# Naming the settings file

Arguments that name no settings file mean the same when one is named in front of them:
the same command, now with a settings file. Every step of reading keeps what has been
given before, and only the option itself looks at whether a file has been named.
-/

import BuildSettings.Command.Arguments
import BuildSettings.Proofs.FirstFault

namespace BuildSettings.Command

namespace Given

/-- The same, with a settings file named. -/
def naming (given : Given) (file : String) : Given :=
  { given with settings? := some file }

/-- Taking something names no file, or it goes on alike when one has been named. -/
def KeepsName (take : Given → Except Halt Given) : Prop :=
  ∀ {given taken : Given}, take given = .ok taken → taken.settings? = none →
    given.settings? = none ∧ ∀ file, take (given.naming file) = .ok (taken.naming file)

theorem keepsName_takeFlag (flag : Flag) : KeepsName (·.takeFlag flag) := by
  intro given taken h hnone
  cases flag with
  | help => cases h
  | version => cases h
  | verbose =>
      simp only [takeFlag, naming] at h ⊢
      split at h
      · cases h
      · obtain rfl := Except.ok.inj h
        exact ⟨hnone, fun file => if_neg ‹_›⟩

theorem keepsName_takeWord (verb : Verb) (word : String) : KeepsName (·.takeWord verb word) := by
  intro given taken h hnone
  simp only [takeWord, naming] at h ⊢
  split at h
  · obtain rfl := Except.ok.inj h
    exact ⟨hnone, fun file => if_pos ‹_›⟩
  · cases h

/-- After the option itself a file has been named, so there is nothing to show for it. -/
theorem keepsName_takeSetting (setting : Setting) (value : String) :
    KeepsName (·.takeSetting setting value) := by
  intro given taken h hnone
  cases setting with
  | settings =>
      simp only [takeSetting] at h
      split_ifs at h
      obtain rfl := Except.ok.inj h
      cases hnone
  | format =>
      simp only [takeSetting, naming] at h ⊢
      split_ifs at h with htaken
      cases hformat : formatOfName? value with
      | none => simp [hformat] at h
      | some format =>
          simp only [hformat] at h ⊢
          obtain rfl := Except.ok.inj h
          exact ⟨hnone, fun file => if_neg htaken⟩
  | scope =>
      simp only [takeSetting, naming] at h ⊢
      split_ifs at h with htaken
      cases hlisted : listedOfName? value with
      | none => simp [hlisted] at h
      | some listed =>
          simp only [hlisted] at h ⊢
          obtain rfl := Except.ok.inj h
          exact ⟨hnone, fun file => if_neg htaken⟩

/-- Taking several things one after the other. -/
theorem KeepsName.foldlM {α : Type} {take : Given → α → Except Halt Given}
    (htake : ∀ item, KeepsName (take · item)) (items : List α) :
    KeepsName (items.foldlM take) := by
  induction items with
  | nil =>
      rintro given taken ⟨⟩ hnone
      exact ⟨hnone, fun file => rfl⟩
  | cons item rest ih =>
      intro given taken h hnone
      simp only [List.foldlM_cons, bind_eq_ok_iff] at h ⊢
      obtain ⟨next, hnext, hrest⟩ := h
      obtain ⟨hnextNone, hrest'⟩ := ih hrest hnone
      obtain ⟨hgivenNone, hnext'⟩ := htake item hnext hnextNone
      exact ⟨hgivenNone, fun file => ⟨_, hnext' file, hrest' file⟩⟩

theorem keepsName_takeLetters (verb? : Option Verb) (letters : List Char) :
    KeepsName (·.takeLetters verb? letters) := by
  apply KeepsName.foldlM
  intro letter given taken h hnone
  cases hflag : flagOfLetter? verb? letter with
  | none => simp [hflag] at h
  | some flag =>
      simp only [hflag] at h ⊢
      exact keepsName_takeFlag flag h hnone

end Given

open Given

/-- Reading goes on behind a step as it would have without a name. -/
theorem readLevel_bind_naming {verb? : Option Verb} {take : Given → Except Halt Given}
    {given outer : Given} {arguments rest : List String} (htake : KeepsName take)
    (hread : ∀ given, readLevel verb? given arguments = .ok (outer, rest) →
      given.settings? = none ∧
        ∀ file, readLevel verb? (given.naming file) arguments = .ok (outer.naming file, rest))
    (h : (take given >>= (readLevel verb? · arguments)) = .ok (outer, rest)) :
    given.settings? = none ∧
      ∀ file, (take (given.naming file) >>= (readLevel verb? · arguments)) =
        .ok (outer.naming file, rest) := by
  obtain ⟨next, hnext, hrest⟩ := bind_eq_ok_iff.mp h
  obtain ⟨hnextNone, hrest'⟩ := hread next hrest
  obtain ⟨hgivenNone, hnext'⟩ := htake hnext hnextNone
  exact ⟨hgivenNone, fun file => bind_eq_ok_iff.mpr ⟨_, hnext' file, hrest' file⟩⟩

/-- What is read at a level without a settings file is read in the same way behind one. The
induction follows the reading: at the end of the arguments nothing changes, and every step
that goes on keeps a name. -/
theorem readLevel_naming {verb? : Option Verb} {given outer : Given}
    {arguments rest : List String} (h : readLevel verb? given arguments = .ok (outer, rest))
    (hnone : outer.settings? = none) :
    given.settings? = none ∧
      ∀ file, readLevel verb? (given.naming file) arguments = .ok (outer.naming file, rest) := by
  fun_induction readLevel verb? given arguments with
  | case1 given =>
      obtain ⟨rfl, rfl⟩ := Prod.mk.inj (Except.ok.inj h)
      exact ⟨hnone, fun file => by rw [readLevel]⟩
  | case2 given argument later word hform hverb =>
      obtain ⟨rfl, rfl⟩ := Prod.mk.inj (Except.ok.inj h)
      refine ⟨hnone, fun file => ?_⟩
      rw [readLevel.eq_def]
      simp only [hform, hverb]
  | case3 given argument later word hform verb hverb ih =>
      subst hverb
      have hnext := readLevel_bind_naming (keepsName_takeWord verb word) ih h
      simpa only [readLevel, hform] using hnext
  | case5 given argument later hform verb hverb =>
      subst hverb
      -- All that is left is taken as words at once, so there is no reading to go on with.
      obtain ⟨words, hwords, hend⟩ := bind_eq_ok_iff.mp h
      obtain ⟨rfl, rfl⟩ := Prod.mk.inj (Except.ok.inj hend)
      obtain ⟨hgivenNone, hnaming⟩ := KeepsName.foldlM (keepsName_takeWord verb) later hwords hnone
      refine ⟨hgivenNone, fun file => ?_⟩
      simp only [readLevel, hform]
      exact bind_eq_ok_iff.mpr ⟨_, hnaming file, rfl⟩
  | case6 given argument later letters hform ih =>
      have hnext := readLevel_bind_naming (keepsName_takeLetters verb? letters) ih h
      refine ⟨hnext.1, fun file => ?_⟩
      rw [readLevel.eq_def]
      simpa only [hform] using hnext.2 file
  | case7 given argument later name flag hflag hform ih =>
      have hnext := readLevel_bind_naming (keepsName_takeFlag flag) ih h
      refine ⟨hnext.1, fun file => ?_⟩
      rw [readLevel.eq_def]
      simpa only [hform, hflag] using hnext.2 file
  | case10 given argument later name setting value hsetting hflag hform ih =>
      have hnext := readLevel_bind_naming (keepsName_takeSetting setting value) ih h
      refine ⟨hnext.1, fun file => ?_⟩
      rw [readLevel.eq_def]
      simpa only [hform, hflag, hsetting] using hnext.2 file
  | case12 given argument name setting hsetting hflag next later value hword hform ih =>
      have hnext := readLevel_bind_naming (keepsName_takeSetting setting value) ih h
      refine ⟨hnext.1, fun file => ?_⟩
      rw [readLevel.eq_def]
      simpa only [hform, hflag, hsetting, hword] using hnext.2 file
  | case4 | case8 | case9 | case11 | case13 => cases h

end BuildSettings.Command

namespace BuildSettings.Invocation

open Command

variable {arguments : List String} {invocation : Invocation}

/-- Arguments make an invocation when both levels can be read and there is a command between
them. Without one from the environment, the settings file is the one named further behind. -/
theorem ofArguments_eq_ok_iff :
    ofArguments none arguments = .ok invocation ↔
      ∃ outer name rest verb inner unread command,
        readLevel none {} arguments = .ok (outer, name :: rest) ∧ name ≠ "help" ∧
          Verb.ofName? name = some verb ∧ readLevel (some verb) {} rest = .ok (inner, unread) ∧
          ofGiven inner verb = .ok command ∧
          ⟨command, (inner.settings? <|> outer.settings?).map Path.mk,
            outer.verbose || inner.verbose⟩ = invocation := by
  have hchoose (outer inner : Given) : chooseSettings outer inner none =
      .ok ((inner.settings? <|> outer.settings?).map Path.mk) := by
    rw [chooseSettings, if_neg (by simp)]
    cases inner.settings? <;> cases outer.settings? <;> rfl
  rw [ofArguments, bind_eq_ok_iff]
  apply Iff.intro
  · rintro ⟨⟨outer, rest⟩, hread, h⟩
    cases rest with
    | nil => cases h
    | cons name rest =>
        dsimp only at h
        split at h
        · cases h
        · split at h
          · cases h
          · rename_i hhelp _ verb hverb
            obtain ⟨⟨inner, unread⟩, hinner, h⟩ := bind_eq_ok_iff.mp h
            dsimp only at h
            rw [hchoose, ok_bind] at h
            obtain ⟨command, hcommand, h⟩ := bind_eq_ok_iff.mp h
            exact ⟨outer, name, rest, verb, inner, unread, command, hread, hhelp, hverb, hinner,
              hcommand, Except.ok.inj h⟩
  · rintro ⟨outer, name, rest, verb, inner, unread, command, hread, hhelp, hverb, hinner,
      hcommand, rfl⟩
    refine ⟨(outer, name :: rest), hread, ?_⟩
    simp only [if_neg hhelp, hverb, bind_eq_ok_iff, hchoose]
    exact ⟨_, hinner, _, rfl, _, hcommand, rfl⟩

/-- An absolute path is no option. -/
theorem ofText_spelling {path : Path} (h : path.isAbsolute = true) :
    Argument.ofText path.spelling = .word path.spelling := by
  obtain ⟨rest, hspelling⟩ : ∃ rest, path.spelling.toList = '/' :: rest :=
    List.head?_eq_some_iff.mp (beq_iff_eq.mp h)
  rw [Argument.ofText, hspelling]
  rfl

/-- Naming a settings file in front of arguments that name none adds it to the invocation. -/
theorem ofArguments_naming (h : ofArguments none arguments = .ok invocation)
    (hnone : invocation.settings? = none) {file : String} (hempty : file ≠ "")
    (hword : Argument.ofText file = .word file) :
    ofArguments none ("--settings" :: file :: arguments) =
      .ok { invocation with settings? := some ⟨file⟩ } := by
  obtain ⟨outer, name, rest, verb, inner, unread, command, hread, hhelp, hverb, hinner, hcommand,
    rfl⟩ := ofArguments_eq_ok_iff.mp h
  obtain ⟨hinnerNone, houterNone⟩ : inner.settings? = none ∧ outer.settings? = none := by
    cases hfile : inner.settings? <;> cases hfile' : outer.settings? <;> simp_all
  have hoption : readLevel none {} ("--settings" :: file :: arguments) =
      readLevel none (Given.naming {} file) arguments := by
    have hform : Argument.ofText "--settings" = .long "settings" none := by decide
    rw [readLevel]
    simp [hform, hword, flagOfName?, settingOfName?, Given.takeSetting, Given.naming, hempty]
    rfl
  refine ofArguments_eq_ok_iff.mpr ⟨outer.naming file, name, rest, verb, inner, unread, command,
    ?_, hhelp, hverb, hinner, hcommand, ?_⟩
  · rw [hoption, (readLevel_naming hread houterNone).2 file]
  · simp [hinnerNone, Given.naming]

end BuildSettings.Invocation
