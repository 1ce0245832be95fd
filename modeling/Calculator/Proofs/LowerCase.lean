import Calculator.Command

/-!
# What lowering does to a text

The runs of the table move their characters to places that are in no run, are not white space, and, but for the
letters `A` to `Z` and the Kelvin sign, are not in ASCII. These are facts about pairs of runs, so no character
is looked at. With them a lowered text stays as it is when it is lowered again, gains no white space, and does
not depend on the case that the letters `A` to `Z` were typed in, not even where a sigma looks around.
-/

set_option autoImplicit false

namespace Calculator.Text

-- What is said of the letters of a list is decided letter by letter, not over all characters.
attribute [local instance (1001)] List.decidableBAll

namespace CaseRun

variable {run other : CaseRun} {low high code moved : Nat}

theorem holds_iff : run.holds code = true ↔
    (run.first ≤ code ∧ code ≤ run.last) ∧ (code - run.first) % run.step = 0 := by
  simp only [holds, Bool.and_eq_true, decide_eq_true_eq, beq_iff_eq]

def movedFirst (run : CaseRun) : Nat :=
  (run.first + run.shift).toNat

def movedLast (run : CaseRun) : Nat :=
  (run.last + run.shift).toNat

def clears (run : CaseRun) (low high : Nat) : Bool :=
  run.movedLast.blt low || high.blt run.movedFirst

/-- Nothing is moved to a code of the other run: it comes to lie beside it, or between its codes. -/
def misses (run other : CaseRun) : Bool :=
  run.clears other.first other.last ||
    other.step == 2 && (run.step == 2 || run.first == run.last) && (run.movedFirst - other.first) % 2 == 1

theorem clears_iff : run.clears low high = true ↔ run.movedLast < low ∨ high < run.movedFirst := by
  simp only [clears, Bool.or_eq_true, Nat.blt_eq]

theorem misses_iff : run.misses other = true ↔ run.clears other.first other.last = true ∨
    (other.step = 2 ∧ (run.step = 2 ∨ run.first = run.last)) ∧ (run.movedFirst - other.first) % 2 = 1 := by
  simp only [misses, Bool.or_eq_true, Bool.and_eq_true, beq_iff_eq]

theorem outside_of_clears (clears : run.clears low high = true) (held : run.holds code = true)
    (shifted : (moved : Int) = code + run.shift) : moved < low ∨ high < moved := by
  obtain ⟨within, _⟩ := holds_iff.mp held
  rw [clears_iff, movedFirst, movedLast] at clears
  omega

theorem not_held_of_misses (misses : run.misses other = true) (held : run.holds code = true)
    (natural : 0 ≤ run.first + run.shift) (shifted : (moved : Int) = code + run.shift) :
    other.holds moved = false := by
  rw [← Bool.not_eq_true, holds_iff]
  rintro ⟨reached, onStep⟩
  rcases misses_iff.mp misses with clears | ⟨⟨otherStep, step⟩, odd⟩
  · have outside := outside_of_clears clears held shifted
    omega
  · obtain ⟨within, own⟩ := holds_iff.mp held
    rw [otherStep] at onStep
    rw [movedFirst] at odd
    rcases step with step | single
    · rw [step] at own
      omega
    · omega

end CaseRun

def capitalRun : CaseRun := ⟨0x41, 0x5a, 1, 32⟩

def kelvinRun : CaseRun := ⟨0x212a, 0x212a, 1, -8383⟩

theorem runs_movable : ∀ run ∈ caseRuns, 0 ≤ run.first + run.shift ∧
    (run.last + run.shift < 0xd800 ∨
      0xdfff < run.first + run.shift ∧ run.last + run.shift < 0x110000) := by
  decide +kernel

theorem runs_miss : ∀ run ∈ caseRuns, caseRuns.all run.misses = true := by
  decide +kernel

theorem runs_clear_blanks : ∀ run ∈ caseRuns,
    whitespaceRanges.all (fun range => run.clears range.1 range.2) = true := by
  decide +kernel

theorem runs_clear_dotted_i : ∀ run ∈ caseRuns, run.clears 0x130 0x130 = true := by
  decide +kernel

theorem runs_clear_ascii :
    ∀ run ∈ caseRuns, run.clears 0 0x7f = true ∨ run = capitalRun ∨ run = kelvinRun := by
  decide +kernel

/-- A character that lowering leaves alone, wherever it stands. -/
def IsLowered (character : Char) : Prop :=
  character ≠ capitalDottedI ∧ ∀ run ∈ caseRuns, run.holds character.toNat = false

instance (character : Char) : Decidable (IsLowered character) :=
  inferInstanceAs (Decidable (_ ∧ _))

section

variable {character lowered : Char} {before behind text : List Char}

theorem to_nat_of_code {code : Nat} (valid : code.isValidChar) : (Char.ofNat code).toNat = code := by
  rw [Char.ofNat, dif_pos valid]
  rfl

theorem lower_char_cases (character : Char) :
    (lowerChar character = character ∧ ∀ run ∈ caseRuns, run.holds character.toNat = false) ∨
      ∃ run ∈ caseRuns, run.holds character.toNat = true ∧
        ((lowerChar character).toNat : Int) = character.toNat + run.shift := by
  rw [lowerChar]
  cases found : caseRuns.find? fun run => run.holds character.toNat with
  | none =>
      left
      refine ⟨rfl, ?_⟩
      intro run member
      exact Bool.not_eq_true _ ▸ List.find?_eq_none.mp found run member
  | some run =>
      right
      have member := List.mem_of_find?_eq_some found
      have held := (List.find?_eq_some_iff_append.mp found).1
      obtain ⟨natural, range⟩ := runs_movable run member
      obtain ⟨within, _⟩ := CaseRun.holds_iff.mp held
      have valid : (character.toNat + run.shift).toNat.isValidChar := by
        rw [Nat.isValidChar]
        omega
      refine ⟨run, member, held, ?_⟩
      show ((Char.ofNat (character.toNat + run.shift).toNat).toNat : Int) = _
      rw [to_nat_of_code valid]
      omega

theorem lower_char_lowered (plain : character ≠ capitalDottedI) : IsLowered (lowerChar character) := by
  rcases lower_char_cases character with ⟨stays, unheld⟩ | ⟨run, member, held, shifted⟩
  · rw [stays]
    exact ⟨plain, unheld⟩
  · have natural := (runs_movable run member).1
    constructor
    · intro dotted
      have outside := CaseRun.outside_of_clears (runs_clear_dotted_i run member) held shifted
      rw [dotted] at outside
      revert outside
      decide
    · intro other otherMember
      have misses := List.all_eq_true.mp (runs_miss run member) other otherMember
      exact CaseRun.not_held_of_misses misses held natural shifted

theorem lower_char_visible (visible : isWhitespace character = false) :
    isWhitespace (lowerChar character) = false := by
  rcases lower_char_cases character with ⟨stays, _⟩ | ⟨run, member, held, shifted⟩
  · rw [stays]
    exact visible
  · rw [← Bool.not_eq_true, isWhitespace, CharRanges.holds, List.any_eq_true]
    rintro ⟨range, blank, within⟩
    rw [Bool.and_eq_true, decide_eq_true_eq, decide_eq_true_eq] at within
    have clears := List.all_eq_true.mp (runs_clear_blanks run member) range blank
    have outside := CaseRun.outside_of_clears clears held shifted
    omega

/-- A sigma has two forms and the dotted capital two characters. Any other character has one. -/
theorem lower_between_cases (before : List Char) (character : Char) (behind : List Char) :
    lowerBetween before character behind = [finalSigma] ∨
      lowerBetween before character behind = [smallSigma] ∨
        lowerBetween before character behind = ['i', combiningDot] ∨
          character ≠ capitalDottedI ∧ lowerBetween before character behind = [lowerChar character] := by
  unfold lowerBetween
  split
  · split
    · exact Or.inl rfl
    · exact Or.inr (Or.inl rfl)
  · split
    · exact Or.inr (Or.inr (Or.inl rfl))
    · next plain => exact Or.inr (Or.inr (Or.inr ⟨plain, rfl⟩))

theorem forall_mem_lower_between {holds : Char → Prop}
    (fixed : ∀ lowered ∈ [finalSigma, smallSigma, 'i', combiningDot], holds lowered)
    (moved : character ≠ capitalDottedI → holds (lowerChar character)) (before behind : List Char) :
    ∀ lowered ∈ lowerBetween before character behind, holds lowered := by
  simp only [List.forall_mem_cons] at fixed
  obtain ⟨final, small, letter, dot, _⟩ := fixed
  rcases lower_between_cases before character behind with last | inside | dotted | ⟨plain, single⟩
  · rw [last, List.forall_mem_singleton]
    exact final
  · rw [inside, List.forall_mem_singleton]
    exact small
  · rw [dotted, List.forall_mem_cons, List.forall_mem_singleton]
    exact ⟨letter, dot⟩
  · rw [single, List.forall_mem_singleton]
    exact moved plain

theorem forall_mem_lower_from {holds : Char → Prop}
    (fixed : ∀ lowered ∈ [finalSigma, smallSigma, 'i', combiningDot], holds lowered)
    (moved : ∀ character ∈ text, character ≠ capitalDottedI → holds (lowerChar character))
    (before : List Char) : ∀ lowered ∈ lowerFrom before text, holds lowered := by
  induction text generalizing before with
  | nil => exact nofun
  | cons character behind ih =>
      rw [List.forall_mem_cons] at moved
      rw [lowerFrom, List.forall_mem_append]
      exact ⟨forall_mem_lower_between fixed moved.1 before behind, ih moved.2 (character :: before)⟩

theorem lower_from_lowered (before text : List Char) :
    ∀ lowered ∈ lowerFrom before text, IsLowered lowered :=
  forall_mem_lower_from (by decide +kernel) (fun _ _ => lower_char_lowered) before

theorem lower_from_visible (before : List Char)
    (visible : ∀ character ∈ text, isWhitespace character = false) :
    ∀ lowered ∈ lowerFrom before text, isWhitespace lowered = false :=
  forall_mem_lower_from (by decide) (fun _ member _ => lower_char_visible (visible _ member)) before

theorem IsLowered.not_sigma (lowered : IsLowered character) : character ≠ capitalSigma := by
  rintro rfl
  revert lowered
  decide +kernel

theorem IsLowered.lower_char (lowered : IsLowered character) : lowerChar character = character := by
  rcases lower_char_cases character with ⟨stays, _⟩ | ⟨run, member, held, _⟩
  · exact stays
  · rw [lowered.2 run member] at held
    cases held

theorem lower_from_of_lowered (before : List Char) (lowered : ∀ character ∈ text, IsLowered character) :
    lowerFrom before text = text := by
  induction text generalizing before with
  | nil => rfl
  | cons character behind ih =>
      rw [List.forall_mem_cons] at lowered
      have stays : lowerBetween before character behind = [character] := by
        rw [lowerBetween, if_neg lowered.1.not_sigma, if_neg lowered.1.1, lowered.1.lower_char]
      rw [lowerFrom, stays, ih (character :: before) lowered.2]
      rfl

/-! ## The letters of ASCII -/

def capitals : List Char :=
  "ABCDEFGHIJKLMNOPQRSTUVWXYZ".toList

/-- `Char.toLower` knows no other letters. -/
theorem to_lower_cases (character : Char) :
    character ∈ capitals ∨ capitalRun.holds character.toNat = false ∧ character.toLower = character := by
  have letters : ∀ code ∈ List.range' 0x41 26, Char.ofNat code ∈ capitals := by decide
  by_cases capital : 0x41 ≤ character.toNat ∧ character.toNat ≤ 0x5a
  · left
    rw [← Char.ofNat_toNat character]
    exact letters _ (List.mem_range'_1.mpr ⟨capital.1, by omega⟩)
  · right
    constructor
    · rw [← Bool.not_eq_true, CaseRun.holds_iff]
      exact fun held => capital held.1
    · exact dif_neg capital

theorem capitals_places : ∀ letter ∈ capitals, (0x41 ≤ letter.toNat ∧ letter.toNat ≤ 0x5a) ∧
    0x61 ≤ letter.toLower.toNat ∧ letter.toLower.toNat ≤ 0x7a := by
  decide

theorem capitals_lowered : ∀ letter ∈ capitals,
    lowerChar letter = letter.toLower ∧ lowerChar letter.toLower = letter.toLower := by
  decide +kernel

theorem capitals_cased : ∀ letter ∈ capitals, isCased letter.toLower = isCased letter := by
  decide +kernel

theorem ignorable_clear_letters : (ignorableBasic ++ ignorableUpper).all (fun range =>
    range.2.blt 0x41 || (Nat.blt 0x5a range.1 && range.2.blt 0x61) || Nat.blt 0x7a range.1) = true := by
  decide +kernel

theorem letter_not_ignorable (letter : 0x41 ≤ character.toNat ∧ character.toNat ≤ 0x5a ∨
    0x61 ≤ character.toNat ∧ character.toNat ≤ 0x7a) : isCaseIgnorable character = false := by
  rw [isCaseIgnorable, CharRanges.holds, CharRanges.holds, ← List.any_append, List.any_eq_false]
  intro range member
  have clear := List.all_eq_true.mp ignorable_clear_letters range member
  simp only [Bool.or_eq_true, Bool.and_eq_true, Nat.blt_eq, decide_eq_true_eq] at clear ⊢
  omega

theorem to_lower_ignorable (character : Char) :
    isCaseIgnorable character.toLower = isCaseIgnorable character := by
  rcases to_lower_cases character with capital | ⟨_, same⟩
  · obtain ⟨upper, lower⟩ := capitals_places character capital
    rw [letter_not_ignorable (Or.inl upper), letter_not_ignorable (Or.inr lower)]
  · rw [same]

theorem to_lower_cased (character : Char) : isCased character.toLower = isCased character := by
  rcases to_lower_cases character with capital | ⟨_, same⟩
  · exact capitals_cased character capital
  · rw [same]

theorem lower_char_to_lower (character : Char) : lowerChar character.toLower = lowerChar character := by
  rcases to_lower_cases character with capital | ⟨_, same⟩
  · obtain ⟨upper, lower⟩ := capitals_lowered character capital
    rw [upper, lower]
  · rw [same]

/-- A character behind ASCII is not made a letter, nor is a letter made one. -/
theorem to_lower_eq_iff {other : Char} (behind : 0x80 ≤ other.toNat) :
    character.toLower = other ↔ character = other := by
  rcases to_lower_cases character with capital | ⟨_, same⟩
  · obtain ⟨upper, lower⟩ := capitals_places character capital
    constructor <;>
    · rintro rfl
      omega
  · rw [same]

theorem meets_cased_cons (character : Char) (rest : List Char) :
    meetsCased (character :: rest) =
      if isCaseIgnorable character then meetsCased rest else isCased character := by
  rw [meetsCased, List.dropWhile_cons]
  by_cases ignorable : isCaseIgnorable character = true
  · rw [if_pos ignorable, if_pos ignorable, meetsCased]
  · rw [if_neg ignorable, if_neg ignorable]

theorem meets_cased_to_lower (text : List Char) : meetsCased (text.map Char.toLower) = meetsCased text := by
  induction text with
  | nil => rfl
  | cons character rest ih =>
      rw [List.map_cons, meets_cased_cons, meets_cased_cons, to_lower_ignorable, to_lower_cased, ih]

/-- What a character is lowered to depends on the letters around it, but not on their case. -/
theorem lower_between_to_lower (before : List Char) (character : Char) (behind : List Char) :
    lowerBetween (before.map Char.toLower) character.toLower (behind.map Char.toLower) =
      lowerBetween before character behind := by
  have sigma : character.toLower = capitalSigma ↔ character = capitalSigma := to_lower_eq_iff (by decide)
  have dotted : character.toLower = capitalDottedI ↔ character = capitalDottedI := to_lower_eq_iff (by decide)
  simp only [lowerBetween, meets_cased_to_lower, sigma, dotted, lower_char_to_lower]

theorem lower_from_to_lower (before text : List Char) :
    lowerFrom (before.map Char.toLower) (text.map Char.toLower) = lowerFrom before text := by
  induction text generalizing before with
  | nil => rfl
  | cons character behind ih =>
      rw [List.map_cons, lowerFrom, lower_between_to_lower, lowerFrom, ← ih (character :: before)]
      rfl

/-- Only the Kelvin sign comes into ASCII from behind it. -/
theorem to_lower_of_lower_char (ascii : (lowerChar character).toNat < 0x80)
    (plain : lowerChar character ≠ 'k') : character.toLower = lowerChar character := by
  rcases to_lower_cases character with capital | ⟨unheld, same⟩
  · exact (capitals_lowered character capital).1.symm
  · rw [same]
    rcases lower_char_cases character with ⟨stays, _⟩ | ⟨run, member, held, shifted⟩
    · exact stays.symm
    · rcases runs_clear_ascii run member with clears | rfl | rfl
      · have outside := CaseRun.outside_of_clears clears held shifted
        omega
      · rw [unheld] at held
        cases held
      · obtain ⟨within, _⟩ := CaseRun.holds_iff.mp held
        have code : (lowerChar character).toNat = 'k'.toNat := by
          have kelvin : kelvinRun = ⟨0x212a, 0x212a, 1, -8383⟩ := rfl
          have letter : 'k'.toNat = 0x6b := rfl
          simp only [kelvin] at within shifted
          omega
        exact absurd (Char.toNat_inj.mp code) plain

end

/-- Small letters of ASCII, but for the one that the Kelvin sign is lowered to. -/
def IsPlainWord (word : List Char) : Prop :=
  ∀ letter ∈ word, (letter.toNat < 0x80 ∧ letter ≠ 'k') ∧ IsLowered letter

instance (word : List Char) : Decidable (IsPlainWord word) :=
  inferInstanceAs (Decidable (∀ letter ∈ word, _))

/-- Nothing is lowered to such a word but its own letters in either case. -/
theorem lower_from_eq_iff {word : List Char} (plain : IsPlainWord word) (before text : List Char) :
    lowerFrom before text = word ↔ text.map Char.toLower = word := by
  constructor
  · intro spelled
    induction text generalizing before word with
    | nil => exact spelled
    | cons character behind ih =>
        rw [lowerFrom] at spelled
        rcases lower_between_cases before character behind with final | small | dotted | ⟨_, single⟩
        · rw [final] at spelled
          have letter := plain finalSigma (spelled ▸ List.mem_cons_self)
          exact absurd letter.1.1 (by decide)
        · rw [small] at spelled
          have letter := plain smallSigma (spelled ▸ List.mem_cons_self)
          exact absurd letter.1.1 (by decide)
        · rw [dotted] at spelled
          have letter := plain combiningDot (spelled ▸ List.mem_cons_of_mem _ List.mem_cons_self)
          exact absurd letter.1.1 (by decide)
        · rw [single] at spelled
          subst spelled
          have letter := plain (lowerChar character) List.mem_cons_self
          have plainRest : IsPlainWord (lowerFrom (character :: before) behind) :=
            fun next member => plain next (List.mem_cons_of_mem _ member)
          have rest := ih plainRest (character :: before) rfl
          rw [List.map_cons, rest, to_lower_of_lower_char letter.1.1 letter.1.2]
          rfl
  · rintro rfl
    rw [← lower_from_to_lower, lower_from_of_lowered]
    exact fun letter member => (plain letter member).2

end Calculator.Text
