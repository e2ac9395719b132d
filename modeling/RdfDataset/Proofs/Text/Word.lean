import Mathlib.Data.List.Forall2
import Mathlib.Data.List.TakeWhile
import RdfDataset.Text.Blank
import RdfDataset.Text.Word

/-!
# Keywords in any case

`Text.InAnyCase` says what it is for a word to be a keyword without turning either into small
letters: every letter is that of the keyword or its small letter. A keyword at the front of a text
ends where the letters end, and what stands behind a mark is found by the text in front of it.
-/

set_option autoImplicit false

namespace RdfDataset.Text

/-! ## Letters -/

theorem isUpper_iff (c : Char) : c.isUpper = true ↔ 65 ≤ c.toNat ∧ c.toNat ≤ 90 :=
  decide_eq_true_iff

theorem isLower_iff (c : Char) : c.isLower = true ↔ 97 ≤ c.toNat ∧ c.toNat ≤ 122 := by
  change (decide (c.val ≥ 'a'.val) && decide (c.val ≤ 'z'.val)) = true ↔ _
  rw [Bool.and_eq_true, decide_eq_true_iff, decide_eq_true_iff]
  rfl

theorem isAlpha_iff (c : Char) :
    c.isAlpha = true ↔ (65 ≤ c.toNat ∧ c.toNat ≤ 90) ∨ (97 ≤ c.toNat ∧ c.toNat ≤ 122) := by
  change (c.isUpper || c.isLower) = true ↔ _
  rw [Bool.or_eq_true, isUpper_iff, isLower_iff]

theorem isAlpha_of_isUpper {c : Char} (capital : c.isUpper = true) : c.isAlpha = true :=
  (isAlpha_iff c).mpr (Or.inl ((isUpper_iff c).mp capital))

theorem isBlank_of_isAlpha {c : Char} (letter : c.isAlpha = true) : isBlank c = false := by
  rw [isAlpha_iff] at letter
  simp only [isBlank, Ranges.has, blankRanges, List.any_cons, List.any_nil, Bool.or_false,
    Bool.or_eq_false_iff, Bool.and_eq_false_iff, decide_eq_false_iff_not]
  omega

theorem toNat_toLower_of_isUpper {c : Char} (capital : c.isUpper = true) :
    c.toLower.toNat = c.toNat + 32 := by
  have range := (isUpper_iff c).mp capital
  have small : c.toLower.val = c.val + ('a'.val - 'A'.val) :=
    congrArg Char.val (dif_pos range)
  rw [Char.toNat, small]
  change (c.toNat + 32) % 2 ^ 32 = c.toNat + 32
  exact Nat.mod_eq_of_lt (by omega)

theorem toLower_eq_self_of_not_isUpper {c : Char} (other : ¬ c.isUpper = true) : c.toLower = c :=
  dif_neg fun range => other ((isUpper_iff c).mpr range)

theorem toLower_toLower_of_isUpper {c : Char} (capital : c.isUpper = true) :
    c.toLower.toLower = c.toLower := by
  refine toLower_eq_self_of_not_isUpper ?_
  rw [isUpper_iff, toNat_toLower_of_isUpper capital]
  have range := (isUpper_iff c).mp capital
  omega

theorem isAlpha_toLower_of_isUpper {c : Char} (capital : c.isUpper = true) :
    c.toLower.isAlpha = true := by
  rw [isAlpha_iff, toNat_toLower_of_isUpper capital]
  have range := (isUpper_iff c).mp capital
  omega

theorem toLower_eq_toLower_iff {c letter : Char} (capital : letter.isUpper = true) :
    c.toLower = letter.toLower ↔ c = letter ∨ c = letter.toLower := by
  constructor
  · intro same
    by_cases upper : c.isUpper = true
    · left
      have numbers := congrArg Char.toNat same
      rw [toNat_toLower_of_isUpper upper, toNat_toLower_of_isUpper capital] at numbers
      exact Char.toNat_inj.mp (Nat.add_right_cancel numbers)
    · rw [toLower_eq_self_of_not_isUpper upper] at same
      exact Or.inr same
  · rintro (rfl | rfl)
    · rfl
    · exact toLower_toLower_of_isUpper capital

/-! ## Keywords -/

/-- The word is the keyword, where small letters may stand for capitals. -/
def InAnyCase (keyword : String) (word : List Char) : Prop :=
  List.Forall₂ (fun c letter => c = letter ∨ c = letter.toLower) word keyword.toList

theorem sameWord_iff {keyword : String}
    (capitals : ∀ letter ∈ keyword.toList, letter.isUpper = true) (word : List Char) :
    sameWord word keyword.toList = true ↔ InAnyCase keyword word := by
  unfold sameWord InAnyCase
  rw [beq_iff_eq]
  generalize keyword.toList = letters at capitals
  induction letters generalizing word with
  | nil => cases word <;> simp
  | cons letter letters ih =>
      rw [List.forall_mem_cons] at capitals
      cases word with
      | nil => simp
      | cons c word =>
          rw [List.map_cons, List.map_cons, List.cons.injEq, List.forall₂_cons,
            toLower_eq_toLower_iff capitals.1, ih word capitals.2]

theorem InAnyCase.letters {keyword : String} {word : List Char}
    (capitals : ∀ letter ∈ keyword.toList, letter.isUpper = true) (same : InAnyCase keyword word) :
    ∀ c ∈ word, c.isAlpha = true := by
  unfold InAnyCase at same
  generalize keyword.toList = letters at capitals same
  induction same with
  | nil => exact List.forall_mem_nil _
  | @cons c letter _ _ first _ ih =>
      rw [List.forall_mem_cons] at capitals ⊢
      refine ⟨?_, ih capitals.2⟩
      rcases first with rfl | rfl
      · exact isAlpha_of_isUpper capitals.1
      · exact isAlpha_toLower_of_isUpper capitals.1

/-- A word can end in front of the text: no letter comes first. -/
def EndsWord (text : List Char) : Prop := ∀ c ∈ text.head?, c.isAlpha = false

theorem takeWhile_letters {word behind : List Char} (letters : ∀ c ∈ word, c.isAlpha = true)
    (ends : EndsWord behind) : (word ++ behind).takeWhile Char.isAlpha = word := by
  rw [List.takeWhile_append_of_pos letters]
  cases behind with
  | nil => exact List.append_nil word
  | cons c rest => rw [List.takeWhile_cons_of_neg (by simp [ends c rfl]), List.append_nil]

theorem endsWord_dropWhile (text : List Char) : EndsWord (text.dropWhile Char.isAlpha) := by
  intro c first
  have stopped := List.head?_dropWhile_not Char.isAlpha text
  rw [Option.mem_def.mp first] at stopped
  simpa using stopped

/-! ## What stands behind a mark -/

theorem after?_append {c : Char} {before : List Char} (absent : c ∉ before) (rest : List Char) :
    after? c (before ++ c :: rest) = some rest := by
  induction before with
  | nil => rw [List.nil_append, after?, if_pos rfl]
  | cons d before ih =>
      rw [List.mem_cons, not_or] at absent
      rw [List.cons_append, after?, if_neg (Ne.symm absent.1), ih absent.2]

theorem after?_eq_some_iff {c : Char} {text rest : List Char} :
    after? c text = some rest ↔ ∃ before, c ∉ before ∧ text = before ++ c :: rest := by
  constructor
  · intro found
    induction text with
    | nil => cases found
    | cons d text ih =>
        rw [after?] at found
        split at found
        · next same =>
            cases found
            exact ⟨[], List.not_mem_nil, by rw [same, List.nil_append]⟩
        · next other =>
            obtain ⟨before, absent, rfl⟩ := ih found
            refine ⟨d :: before, ?_, rfl⟩
            rw [List.mem_cons, not_or]
            exact ⟨Ne.symm other, absent⟩
  · rintro ⟨before, absent, rfl⟩
    exact after?_append absent rest

end RdfDataset.Text
