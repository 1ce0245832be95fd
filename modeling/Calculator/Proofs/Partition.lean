import Mathlib.Data.List.Chain
import Calculator.Proofs.Runs
import Calculator.Proofs.Spans

/-!
# The partition into lexemes

Every character belongs to numerals, to words, or is a mark by itself. The lexemes of a source are its
longest runs of one class, and two descriptions that do not mention how runs are gathered determine them. A
`Partition` covers the source and keeps no two neighbours of one class apart; there is only one. And
`Scans` takes the longest match of the patterns wherever it stands, as a lexer does that is given patterns
only; it never comes to a place where none of them matches.
-/

set_option autoImplicit false

namespace Calculator

theorem Operator.symbol_injective {first second : Operator} (same : first.symbol = second.symbol) :
    first = second := by
  apply Option.some.inj
  rw [← of_symbol_symbol first, same, of_symbol_symbol]

namespace Lexeme

def numeralCharacters : List Char :=
  ['0', '1', '2', '3', '4', '5', '6', '7', '8', '9', '.']

def markCharacters : List Char :=
  ['+', '-', '*', '/', '%', '(', ')', ',']

namespace Kind

/-- The pattern of each kind: a mark is one character, the other kinds are repetitions. -/
def Matches : Kind → List Char → Prop
  | numeral, text => text ≠ [] ∧ ∀ character ∈ text, character ∈ numeralCharacters
  | word, text =>
      text ≠ [] ∧ ∀ character ∈ text, character ∉ numeralCharacters ∧ character ∉ markCharacters
  | mark operator, text =>
      ∃ character ∈ markCharacters, text = [character] ∧ operator.symbol = String.ofList text

def Apart (first second : Kind) : Prop :=
  ¬(first = numeral ∧ second = numeral) ∧ ¬(first = word ∧ second = word)

variable {kind other : Kind} {character second : Char} {text rest : List Char}

theorem apart_iff : kind.Apart other ↔ ¬(other = kind ∧ other.gathers = true) := by
  cases kind <;> cases other <;> simp [Apart, gathers]

theorem Matches.nonempty (matched : kind.Matches text) : text ≠ [] := by
  cases kind with
  | numeral => exact matched.1
  | word => exact matched.1
  | mark operator =>
      obtain ⟨character, _, rfl, _⟩ := matched
      exact List.cons_ne_nil _ _

/-- Only runs that gather are longer than one character, and then all parts of a run match. -/
theorem matches_append (nonempty : text ≠ []) (more : rest ≠ []) : kind.Matches (text ++ rest) ↔
    kind.gathers = true ∧ kind.Matches text ∧ kind.Matches rest := by
  cases kind with
  | numeral => simp [Matches, gathers, nonempty, more, or_imp, forall_and]
  | word => simp [Matches, gathers, nonempty, more, or_imp, forall_and, and_and_and_comm]
  | mark operator =>
      obtain ⟨first, front, rfl⟩ := List.exists_cons_of_ne_nil nonempty
      simp [Matches, gathers, more]

theorem matches_cons_cons : kind.Matches (character :: second :: rest) ↔
    kind.gathers = true ∧ kind.Matches [character] ∧ kind.Matches (second :: rest) :=
  matches_append (List.cons_ne_nil character []) (List.cons_ne_nil second rest)

theorem word_matches (nonempty : text ≠ []) (plain : (text.all fun character =>
      decide (character ∉ numeralCharacters ∧ character ∉ markCharacters)) = true) :
    word.Matches text :=
  ⟨nonempty, fun character member => of_decide_eq_true (List.all_eq_true.mp plain character member)⟩

theorem mem_numeral_characters :
    character ∈ numeralCharacters ↔ (character.isDigit || character == '.') = true := by
  constructor
  · intro member
    have all : (numeralCharacters.all fun listed => listed.isDigit || listed == '.') = true := by
      decide
    exact List.all_eq_true.mp all character member
  · intro gathers
    rw [Bool.or_eq_true] at gathers
    rcases gathers with digit | point
    · have bounds : 48 ≤ character.toNat ∧ character.toNat ≤ 57 := by
        simpa [Char.isDigit, UInt32.le_iff_toNat_le] using digit
      have all : ∀ code ∈ List.range' 48 10, Char.ofNat code ∈ numeralCharacters := by decide
      rw [← Char.ofNat_toNat character]
      exact all character.toNat (List.mem_range'_1.mpr (by omega))
    · rw [beq_iff_eq.mp point]
      decide

/-- A mark is the symbol of its operator, and no numeral. -/
theorem of_mark_known {operator : Operator} (known : Operator.ofMark? character = some operator) :
    character ∈ markCharacters ∧ operator.symbol = String.ofList [character] := by
  unfold Operator.ofMark? at known
  split at known
  all_goals first | cases known; exact ⟨by decide, rfl⟩ | cases known

theorem not_mark_of_unmarked (unmarked : Operator.ofMark? character = none) :
    character ∉ markCharacters := by
  intro member
  have all : (markCharacters.all fun listed => (Operator.ofMark? listed).isSome) = true := by decide
  have marked := List.all_eq_true.mp all character member
  rw [unmarked] at marked
  cases marked

theorem matches_of_char (character : Char) : (ofChar character).Matches [character] := by
  unfold ofChar
  split
  · next operator known =>
      obtain ⟨member, symbol⟩ := of_mark_known known
      exact ⟨character, member, rfl, symbol⟩
  · next unmarked =>
      have noMark := not_mark_of_unmarked unmarked
      split
      · next digit => simpa [Matches, mem_numeral_characters] using digit
      · next noDigit => simpa [Matches, mem_numeral_characters, noMark] using noDigit

theorem of_char_eq_iff : ofChar character = kind ↔ kind.Matches [character] := by
  constructor
  · rintro rfl
    exact matches_of_char character
  · intro matched
    have own := matches_of_char character
    have plain : ∀ listed ∈ markCharacters, listed ∉ numeralCharacters := by
      simp [markCharacters, numeralCharacters]
    have apart := plain character
    cases known : ofChar character with
    | mark operator =>
        rw [known] at own
        cases kind with
        | mark other =>
            obtain ⟨_, _, _, symbol⟩ := own
            obtain ⟨_, _, _, otherSymbol⟩ := matched
            rw [Operator.symbol_injective (symbol.trans otherSymbol.symm)]
        | numeral => simp_all [Matches]
        | word => simp_all [Matches]
    | numeral => cases kind <;> simp_all [Matches]
    | word => cases kind <;> simp_all [Matches]

theorem Matches.of_char (matched : kind.Matches (character :: rest)) : ofChar character = kind := by
  rw [of_char_eq_iff]
  cases rest with
  | nil => exact matched
  | cons second rest => exact (matches_cons_cons.mp matched).2.1

end Kind

variable {kind other : Kind} {text behind : List Char}

theorem runs_of_matches (matched : kind.Matches text)
    (apart : ∀ run ∈ (runs behind).head?, kind.Apart run.kind) :
    runs (text ++ behind) = { kind, text } :: runs behind := by
  induction text with
  | nil => exact absurd rfl matched.nonempty
  | cons character rest ih =>
      cases rest with
      | nil =>
          have ownKind := Kind.of_char_eq_iff.mpr matched
          rw [List.singleton_append, runs_cons]
          cases more : runs behind with
          | nil => rw [extend, ownKind]
          | cons run others =>
              rw [more] at apart
              have different := Kind.apart_iff.mp (apart run rfl)
              rw [extend, ownKind, if_neg different]
      | cons second rest =>
          obtain ⟨gathers, single, later⟩ := Kind.matches_cons_cons.mp matched
          have ownKind := Kind.of_char_eq_iff.mpr single
          rw [List.cons_append, runs_cons, ih later, extend, ownKind]
          exact if_pos ⟨rfl, gathers⟩

/-- Runs that cover a text, each of one class, and no two neighbours of the same. -/
structure Divides (text : List Char) (all : List Run) : Prop where
  whole : (all.map Run.text).flatten = text
  classes : ∀ run ∈ all, run.kind.Matches run.text
  apart : all.IsChain fun first second => first.kind.Apart second.kind

namespace Divides

variable {all rest : List Run} {run : Run}

theorem nil : Divides [] [] where
  whole := rfl
  classes := nofun
  apart := .nil

theorem extend (divides : Divides text all) (character : Char) :
    Divides (character :: text) (extend character all) where
  whole := by rw [flatten_extend, divides.whole]
  classes := by
    obtain ⟨_, classes, _⟩ := divides
    have own := Kind.matches_of_char character
    cases all with
    | nil => simpa [Lexeme.extend] using own
    | cons run rest =>
        obtain ⟨first, others⟩ := List.forall_mem_cons.mp classes
        simp only [Lexeme.extend]
        split
        · next joined =>
            obtain ⟨second, behind, written⟩ := List.exists_cons_of_ne_nil first.nonempty
            rw [List.forall_mem_cons]
            refine ⟨?_, others⟩
            rw [written] at first ⊢
            rw [← joined.1] at own
            exact Kind.matches_cons_cons.mpr ⟨joined.2, own, first⟩
        · rw [List.forall_mem_cons]
          exact ⟨own, classes⟩
  apart := by
    obtain ⟨_, _, apart⟩ := divides
    cases all with
    | nil => exact .singleton _
    | cons run rest =>
        simp only [Lexeme.extend]
        split
        · exact List.isChain_cons.mpr (List.isChain_cons.mp apart)
        · next different => exact .cons_cons (Kind.apart_iff.mpr different) apart

theorem runs (text : List Char) : Divides text (runs text) := by
  induction text with
  | nil => exact nil
  | cons character text ih => exact ih.extend character

theorem tail (divides : Divides text (run :: rest)) : ∃ behind, text = run.text ++ behind ∧
    Divides behind rest ∧ ∀ next ∈ rest.head?, run.kind.Apart next.kind := by
  obtain ⟨rfl, classes, apart⟩ := divides
  obtain ⟨first, later⟩ := List.isChain_cons.mp apart
  exact ⟨_, rfl, ⟨rfl, (List.forall_mem_cons.mp classes).2, later⟩, first⟩

/-- Nothing else divides a text. -/
theorem eq_runs (divides : Divides text all) : all = Lexeme.runs text := by
  induction all generalizing text with
  | nil =>
      rw [← divides.whole]
      rfl
  | cons run rest ih =>
      have matched := divides.classes run List.mem_cons_self
      obtain ⟨behind, rfl, later, apart⟩ := divides.tail
      have others := ih later
      rw [others] at apart
      rw [runs_of_matches matched apart, ← others]

end Divides

/-- Lexemes with spans side by side from the first byte of the source to its end, each holding what the
source holds there, of one class, and no two neighbours of the same. -/
structure Partition (source : String) (lexemes : List Lexeme) : Prop where
  contiguous : Contiguous 0 (lexemes.map span) source.utf8ByteSize
  slices : ∀ lexeme ∈ lexemes, Text.At source lexeme.start lexeme.stop lexeme.text
  nonempty : ∀ lexeme ∈ lexemes, lexeme.start < lexeme.stop
  classes : ∀ lexeme ∈ lexemes, lexeme.kind.Matches lexeme.text.toList
  apart : lexemes.IsChain fun first second => first.kind.Apart second.kind

theorem eq_of_append_of_size {front back before after : String} (same : front ++ back = before ++ after)
    (size : front.utf8ByteSize = before.utf8ByteSize) : front = before ∧ back = after := by
  have lists : front.toList ++ back.toList = before.toList ++ after.toList := by
    rw [← String.toList_append, same, String.toList_append]
  have shorter : ∀ {short long : String} {gap : List Char},
      short.utf8ByteSize = long.utf8ByteSize → long.toList = short.toList ++ gap → short = long := by
    intro short long gap size longer
    have written : long = short ++ String.ofList gap := by
      apply String.toList_injective
      rw [longer, String.toList_append, String.toList_ofList]
    rw [written, String.utf8ByteSize_append] at size
    have nothing : (String.ofList gap).utf8ByteSize = 0 := by omega
    rw [written, String.utf8ByteSize_eq_zero_iff.mp nothing, String.append_empty]
  have equal : front = before := by
    rcases List.append_eq_append_iff.mp lists with ⟨gap, longer, _⟩ | ⟨gap, longer, _⟩
    · exact shorter size longer
    · exact (shorter size.symm longer).symm
  subst equal
  exact ⟨rfl, (String.append_right_inj front).mp same⟩

theorem contiguous_nil {start stop : Nat} (spans : Contiguous start [] stop) : start = stop := by
  cases spans
  rfl

theorem contiguous_cons {start stop : Nat} {first : Nat × Nat} {rest : List (Nat × Nat)}
    (spans : Contiguous start (first :: rest) stop) : first.1 = start ∧ Contiguous first.2 rest stop := by
  cases spans with
  | span more => exact ⟨rfl, more⟩

/-- Slices of a source that lie side by side are what the source holds, and their places are those of their
texts one behind another. -/
theorem slices_determined {front back : String} {lexemes : List Lexeme}
    (spans : Contiguous front.utf8ByteSize (lexemes.map span) (front ++ back).utf8ByteSize)
    (slices : ∀ lexeme ∈ lexemes, Text.At (front ++ back) lexeme.start lexeme.stop lexeme.text) :
    written lexemes = back ∧ lexemes = place front.utf8ByteSize (lexemes.map run) := by
  induction lexemes generalizing front back with
  | nil =>
      have size := contiguous_nil spans
      rw [String.utf8ByteSize_append] at size
      have nothing : back.utf8ByteSize = 0 := by omega
      exact ⟨(String.utf8ByteSize_eq_zero_iff.mp nothing).symm, rfl⟩
  | cons lexeme rest ih =>
      obtain ⟨begins, more⟩ := contiguous_cons spans
      obtain ⟨first, others⟩ := List.forall_mem_cons.mp slices
      obtain ⟨before, behind, same, size, _⟩ := first
      rw [String.append_assoc] at same
      obtain ⟨rfl, rfl⟩ := eq_of_append_of_size same (begins.symm.trans size.symm)
      have stops : (front ++ lexeme.text).utf8ByteSize = lexeme.stop := by
        rw [String.utf8ByteSize_append, stop, ← size]
      rw [← String.append_assoc] at more others
      rw [span, ← stops] at more
      obtain ⟨texts, places⟩ := ih more others
      rw [stops] at places
      have own : lexeme = { kind := lexeme.run.kind, text := String.ofList lexeme.run.text,
                            start := front.utf8ByteSize } := by
        rw [ofList_text_run, size]
        rfl
      refine ⟨by rw [written_cons, texts], ?_⟩
      rw [List.map_cons, place, ← own, ← places]

theorem Partition.of_source (source : String) : Partition source (ofSource source) := by
  have divides := Divides.runs source.toList
  rw [← map_run_of_source] at divides
  have whole : ofSource source = ofSource source ++ [] := (List.append_nil _).symm
  have classes : ∀ lexeme ∈ ofSource source, lexeme.kind.Matches lexeme.text.toList :=
    fun lexeme member => divides.classes lexeme.run (List.mem_map_of_mem member)
  refine ⟨?_, ?_, ?_, classes, (List.isChain_map run).mp divides.apart⟩
  · have spans := contiguous_of_source whole
    rwa [written_of_source] at spans
  · intro lexeme member
    obtain ⟨front, behind, split⟩ := List.append_of_mem member
    exact at_of_source split
  · intro lexeme member
    have nonempty : lexeme.text ≠ "" := by
      intro empty
      apply (classes lexeme member).nonempty
      rw [empty]
      rfl
    have size : lexeme.text.utf8ByteSize ≠ 0 := mt String.utf8ByteSize_eq_zero_iff.mp nonempty
    rw [stop]
    omega

/-- The lexemes are the only partition. -/
theorem Partition.eq_of_source {source : String} {lexemes : List Lexeme}
    (partition : Partition source lexemes) : lexemes = ofSource source := by
  obtain ⟨spans, slices, _, classes, apart⟩ := partition
  have whole : "" ++ source = source := String.empty_append
  obtain ⟨texts, places⟩ := @slices_determined "" source lexemes (by rwa [whole]) (by rwa [whole])
  have divides : Divides source.toList (lexemes.map run) := by
    refine ⟨?_, ?_, (List.isChain_map run).mpr apart⟩
    · rw [← written_place "".utf8ByteSize, ← places, texts]
    · exact List.forall_mem_map.mpr classes
  rw [places, divides.eq_runs]
  rfl

/-- Reads a text from the left, wherever it stands the longest match of a pattern. Where no pattern matches
it gives up a character, which then is of no kind. -/
inductive Scans : List Char → List (Option Kind × List Char) → Prop where
  | nothing : Scans [] []
  | longest {kind : Kind} {text rest : List Char} {results : List (Option Kind × List Char)}
      (matched : kind.Matches text)
      (furthest : ∀ (other : Kind) (front behind : List Char), text ++ rest = front ++ behind →
        other.Matches front → front.length ≤ text.length)
      (more : Scans rest results) : Scans (text ++ rest) ((some kind, text) :: results)
  | reject {character : Char} {rest : List Char} {results : List (Option Kind × List Char)}
      (unmatched : ∀ (kind : Kind) (front behind : List Char), character :: rest = front ++ behind →
        ¬kind.Matches front)
      (more : Scans rest results) : Scans (character :: rest) ((none, [character]) :: results)

namespace Scans

variable {results : List (Option Kind × List Char)} {run : Run}

def accepted (run : Run) : Option Kind × List Char :=
  (some run.kind, run.text)

theorem eq_runs (scans : Scans text results) : results = (Lexeme.runs text).map accepted := by
  induction scans with
  | nothing => rfl
  | reject unmatched more ih =>
      exact absurd (Kind.matches_of_char _) (unmatched _ _ _ rfl)
  | @longest kind text rest results matched furthest more ih =>
      rw [runs_of_matches matched, List.map_cons, ← ih]
      · rfl
      · intro next member
        obtain ⟨others, found⟩ := List.head?_eq_some_iff.mp member
        have divides := Divides.runs rest
        rw [found] at divides
        obtain ⟨behind, rfl, _, _⟩ := divides.tail
        have nextMatched := divides.classes next List.mem_cons_self
        rw [Kind.apart_iff]
        rintro ⟨same, gathers⟩
        rw [same] at nextMatched gathers
        -- The scan would have gone on through the next run.
        have longer := (Kind.matches_append matched.nonempty nextMatched.nonempty).mpr
          ⟨gathers, matched, nextMatched⟩
        have bound := furthest kind _ behind (List.append_assoc _ _ _).symm longer
        have size := List.length_pos_of_ne_nil nextMatched.nonempty
        rw [List.length_append] at bound
        omega

/-- The run behind another begins with a character of its own kind. -/
theorem not_matched_further {all : List Run} (divides : Divides text (run :: all))
    (gathers : run.kind.gathers = true) {gap behind : List Char} (nonempty : gap ≠ [])
    (split : text = run.text ++ (gap ++ behind)) : ¬run.kind.Matches gap := by
  intro matched
  obtain ⟨rest, same, later, apart⟩ := divides.tail
  have rest_eq := List.append_cancel_left (same.symm.trans split)
  subst rest_eq
  obtain ⟨first, others, rfl⟩ := List.exists_cons_of_ne_nil nonempty
  cases all with
  | nil => cases later.whole
  | cons next all =>
      have nextMatched := later.classes next List.mem_cons_self
      obtain ⟨_, begins, _, _⟩ := later.tail
      obtain ⟨second, more, written⟩ := List.exists_cons_of_ne_nil nextMatched.nonempty
      rw [written] at begins nextMatched
      injection begins with begins _
      subst begins
      have kind := nextMatched.of_char.symm.trans matched.of_char
      exact Kind.apart_iff.mp (apart next rfl) ⟨kind, by rw [kind]; exact gathers⟩

theorem of_divides {all : List Run} (divides : Divides text all) : Scans text (all.map accepted) := by
  induction all generalizing text with
  | nil =>
      rw [← divides.whole]
      exact .nothing
  | cons run others ih =>
      have matched := divides.classes run List.mem_cons_self
      have whole := divides
      obtain ⟨behind, rfl, later, _⟩ := divides.tail
      refine .longest matched ?_ (ih later)
      intro other front more same frontMatched
      by_contra longer
      rcases List.append_eq_append_iff.mp same with ⟨gap, rfl, rest⟩ | ⟨gap, shorter, _⟩
      · have nonempty : gap ≠ [] := by
          rintro rfl
          simp at longer
        obtain ⟨gathers, ownMatched, gapMatched⟩ :=
          (Kind.matches_append matched.nonempty nonempty).mp frontMatched
        obtain ⟨first, _, written⟩ := List.exists_cons_of_ne_nil matched.nonempty
        rw [written] at matched ownMatched
        have kind := ownMatched.of_char.symm.trans matched.of_char
        rw [kind] at gathers gapMatched
        exact not_matched_further whole gathers nonempty (by rw [rest]) gapMatched
      · rw [shorter, List.length_append] at longer
        omega

end Scans

/-- A scan of a source by the longest match finds its lexemes, and gives up none of its characters. -/
theorem scans_iff {source : String} {results : List (Option Kind × List Char)} :
    Scans source.toList results ↔
      results = (ofSource source).map fun lexeme => (some lexeme.kind, lexeme.text.toList) := by
  have runs : (ofSource source).map (fun lexeme => (some lexeme.kind, lexeme.text.toList)) =
      (Lexeme.runs source.toList).map Scans.accepted := by
    rw [← map_run_of_source, List.map_map]
    rfl
  rw [runs]
  constructor
  · exact Scans.eq_runs
  · rintro rfl
    exact .of_divides (.runs source.toList)

end Lexeme

/-- The lexemes of a source are its one partition into runs of one class, written one behind another they
are the source, and a lexer that takes the longest match finds them and rejects nothing. -/
theorem lexemes_are_the_partition (source : String) :
    (∀ lexemes, Lexeme.Partition source lexemes ↔ lexemes = Lexeme.ofSource source) ∧
      Lexeme.written (Lexeme.ofSource source) = source ∧
        ∀ results, Lexeme.Scans source.toList results ↔
          results = (Lexeme.ofSource source).map fun lexeme =>
            (some lexeme.kind, lexeme.text.toList) := by
  refine ⟨?_, Lexeme.written_of_source source, fun _ => Lexeme.scans_iff⟩
  intro lexemes
  constructor
  · exact Lexeme.Partition.eq_of_source
  · rintro rfl
    exact .of_source source

end Calculator
