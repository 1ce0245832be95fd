import Calculator.Proofs.Partition
import Calculator.Proofs.Reachable
import Calculator.Proofs.Takings
import Calculator.Proofs.Word

/-!
# The look-ahead and its text

The token in view and the text in view are set one after the other and could come from different lexemes. In
no session do they: whatever is asked of a cursor, and whatever fails, both are those of one lexeme of the
source, or the source is at its end and there is no text.
-/

set_option autoImplicit false

namespace Calculator

namespace Binary64

theorem round_unsigned (dividend divisor : Nat) :
    round false dividend divisor ≠ .nan ∧
      (round false dividend divisor).toBits.toNat < signBits true := by
  unfold round
  split
  · exact ⟨by simp, to_bits_of_unsigned _⟩
  · exact ⟨by simp, by decide +kernel⟩

end Binary64

namespace Cursor

structure AtEnd (cursor : Cursor) : Prop where
  finished : cursor.lookahead = .finish
  noText : cursor.text = ""

/-- A numeral of the source is in view as the double nearest to it. -/
structure AtNumber (source : String) (cursor : Cursor) : Prop where
  numeral : ∃ lexeme ∈ Lexeme.ofSource source, lexeme.kind = .numeral ∧ lexeme.text = cursor.text
  converted : ∃ decimal, Decimal.read? cursor.text.toList = some decimal ∧
    cursor.lookahead = .number decimal.nearest ∧ decimal.nearest ≠ .nan ∧
      decimal.nearest.toBits.toNat < Binary64.signBits true

/-- An operator of the source is in view, written as it is known. -/
structure AtOperator (source : String) (cursor : Cursor) : Prop where
  symbol : ∃ lexeme ∈ Lexeme.ofSource source, lexeme.text = cursor.text
  known : ∃ operator, cursor.lookahead = .symbol operator ∧ cursor.text = operator.symbol ∧
    Operator.ofSymbol? cursor.text = some operator

def ShowsOf (source : String) (cursor : Cursor) : Prop :=
  ∃ ahead, cursor.Shows ahead ∧ ahead ⊆ Lexeme.ofSource source

variable {source : String} {cursor : Cursor}

theorem shows_of_take (before : cursor.ShowsOf source) : cursor.take.cursor.ShowsOf source := by
  obtain ⟨ahead, shows, within⟩ := before
  rcases cursor.take_cases with
    ⟨_, failed⟩ | ⟨waiting, ⟨next, took, showsNext, _⟩ | ⟨bad, rest, more, _, failed⟩⟩
  · rw [failed]
    exact ⟨ahead, shows, within⟩
  · cases ahead with
    | nil => exact absurd shows.1 waiting
    | cons lexeme pending =>
        rw [took]
        rw [shows.2.2] at showsNext
        exact ⟨pending, showsNext, List.subset_of_cons_subset within⟩
  · cases ahead with
    | nil => exact absurd shows.1 waiting
    | cons lexeme pending =>
        rw [failed]
        refine ⟨lexeme :: rest, ⟨shows.1, shows.2.1, rfl⟩, ?_⟩
        have own : lexeme ∈ Lexeme.ofSource source := within List.mem_cons_self
        have later : bad :: rest ⊆ Lexeme.ofSource source := by
          rw [← more, shows.2.2]
          exact List.subset_of_cons_subset within
        exact List.cons_subset.mpr ⟨own, List.subset_of_cons_subset later⟩

theorem shows_of_reachable (reached : Session.Reachable source cursor) : cursor.ShowsOf source := by
  have kept : Kept fun cursor => cursor.ShowsOf source :=
    { taken := fun _ => shows_of_take
      logged := fun _ _ before => before }
  refine kept.holds_of_reachable ?_ reached
  intro first opens
  exact ⟨Lexeme.ofSource source, (advance_done opens).1, List.Subset.refl _⟩

theorem at_one_of_shows (shows : cursor.ShowsOf source) :
    cursor.AtEnd ∨ cursor.AtNumber source ∨ cursor.AtOperator source := by
  obtain ⟨ahead, shows, within⟩ := shows
  cases ahead with
  | nil => exact Or.inl ⟨shows.1, shows.2.1⟩
  | cons lexeme rest =>
      obtain ⟨known, written, _⟩ := shows
      have member : lexeme ∈ Lexeme.ofSource source := within List.mem_cons_self
      have matched := (Lexeme.Partition.of_source source).classes lexeme member
      rw [Token.ofLexeme?, ← written] at known
      rw [← written] at matched
      cases kind : lexeme.kind with
      | numeral =>
          rw [kind] at known
          obtain ⟨decimal, read, value⟩ := Option.map_eq_some_iff.mp known
          have unsigned := Binary64.round_unsigned decimal.dividend decimal.divisor
          exact Or.inr (Or.inl ⟨⟨lexeme, member, kind, written.symm⟩,
            decimal, read, value.symm, unsigned⟩)
      | word =>
          rw [kind] at known
          obtain ⟨operator, found, symbol⟩ := Option.map_eq_some_iff.mp known
          have spelled := (Operator.symbol_of_of_symbol found).symm
          exact Or.inr (Or.inr ⟨⟨lexeme, member, written.symm⟩, operator, symbol.symm, spelled, found⟩)
      | mark operator =>
          rw [kind] at known matched
          obtain ⟨_, _, _, spelled⟩ := matched
          rw [String.ofList_toList] at spelled
          have found := Operator.of_symbol_symbol operator
          rw [spelled] at found
          exact Or.inr (Or.inr ⟨⟨lexeme, member, written.symm⟩, operator, (Option.some.inj known).symm,
            spelled.symm, found⟩)

theorem AtEnd.kept : Kept AtEnd where
  taken := by
    intro cursor before
    rcases cursor.take_cases with ⟨_, failed⟩ | ⟨waiting, _⟩
    · rw [failed]
      exact before
    · exact absurd before.finished waiting
  logged := fun _ _ before => ⟨before.finished, before.noText⟩

theorem AtEnd.stays (before : cursor.AtEnd) (steps : List Session.Step) :
    (Session.behind cursor steps).AtEnd := by
  induction steps generalizing cursor with
  | nil => exact before
  | cons step steps ih => exact ih (AtEnd.kept.holds_of_step step before)

theorem AtNumber.unfinished (before : cursor.AtNumber source) : cursor.lookahead ≠ .finish := by
  obtain ⟨_, _, _, ahead, _⟩ := before
  simp [ahead]

theorem AtOperator.unfinished (before : cursor.AtOperator source) : cursor.lookahead ≠ .finish := by
  obtain ⟨_, _, ahead, _⟩ := before
  simp [ahead]

end Cursor

/-- Wherever a session has come to, exactly one of three is in view, and behind the end nothing else ever
is. -/
theorem look_ahead_and_text_belong {source : String} {cursor : Cursor}
    (reached : Session.Reachable source cursor) :
    (cursor.AtEnd ∨ cursor.AtNumber source ∨ cursor.AtOperator source) ∧
      ¬(cursor.AtEnd ∧ cursor.AtNumber source) ∧
        ¬(cursor.AtEnd ∧ cursor.AtOperator source) ∧
          ¬(cursor.AtNumber source ∧ cursor.AtOperator source) ∧
            (cursor.lookahead = .finish → ∀ steps, (Session.behind cursor steps).AtEnd) := by
  have one := Cursor.at_one_of_shows (Cursor.shows_of_reachable reached)
  refine ⟨one, ?_, ?_, ?_, ?_⟩
  · intro both
    exact both.2.unfinished both.1.finished
  · intro both
    exact both.2.unfinished both.1.finished
  · intro both
    obtain ⟨_, _, _, number, _⟩ := both.1
    obtain ⟨_, _, symbol, _⟩ := both.2
    rw [number] at symbol
    cases symbol
  · intro finished
    rcases one with ended | number | operator
    · exact ended.stays
    · exact absurd finished number.unfinished
    · exact absurd finished operator.unfinished

/-- The unknown run between the parenthesis and the number is never in view, and behind the number is the
end for good. -/
theorem end_reached_behind_unknown_run :
    ∃ last, Session.Reachable "($1" last ∧ last.lookahead = .finish ∧
      (last.AtEnd ∨ last.AtNumber "($1" ∨ last.AtOperator "($1") ∧
        ∀ steps, (Session.behind last steps).AtEnd := by
  have opened : Cursor.openSource "($1" = .done () (Cursor.openSource "($1").cursor := by
    decide +kernel
  have reached := (((Session.Reachable.opened opened).step .takeOperator).step .takeOperator).step
    .takeNumber
  obtain ⟨one, _, _, _, stays⟩ := look_ahead_and_text_belong reached
  refine ⟨_, reached, ?_, one, stays ?_⟩
  all_goals decide +kernel

end Calculator
