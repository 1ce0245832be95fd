import Calculator.Text.BreakClass

/-!
# Clusters

A text falls into clusters, the pieces that a reader takes for single characters: a letter with its
accents, a syllable, a flag, an emoji joined from several. The text is cut everywhere but where a rule
joins a character to the cluster before it.
-/

set_option autoImplicit false

namespace Calculator.Text

namespace BreakClass

/-- The line ends and the other controls stand alone, but for a carriage return before a line feed. -/
def standsAlone : BreakClass → Bool
  | carriageReturn => true
  | lineFeed => true
  | control => true
  | _ => false

def attaches : BreakClass → Bool
  | extender => true
  | linker => true
  | nonJoiner => true
  | joiner => true
  | spacingMark => true
  | _ => false

def continuesSyllable (last next : BreakClass) : Bool :=
  match last, next with
  | hangulLeading, hangulLeading => true
  | hangulLeading, hangulVowel => true
  | hangulLeading, hangulOpen => true
  | hangulLeading, hangulClosed => true
  | hangulOpen, hangulVowel => true
  | hangulOpen, hangulTrailing => true
  | hangulVowel, hangulVowel => true
  | hangulVowel, hangulTrailing => true
  | hangulClosed, hangulTrailing => true
  | hangulTrailing, hangulTrailing => true
  | _, _ => false

/-- Behind a consonant: linkers and extenders with at least one linker. The classes are read backward. -/
def endsInLinkedConsonant (classes : List BreakClass) : Bool :=
  let marks := classes.takeWhile fun mark => mark = extender ∨ mark = linker ∨ mark = joiner
  marks.contains linker && (classes.drop marks.length).head? == some consonant

/-- Behind a pictograph: extenders and then a joiner. The classes are read backward. -/
def endsInJoinedPictograph : List BreakClass → Bool
  | joiner :: classes =>
      let rest := classes.dropWhile fun mark => mark = extender ∨ mark = linker ∨ mark = nonJoiner
      rest.head? == some pictograph
  | _ => false

/-- Regional indicators join in pairs. -/
def endsInLoneIndicator : List BreakClass → Bool
  | regionalIndicator :: regionalIndicator :: _ => false
  | regionalIndicator :: _ => true
  | _ => false

def joins (classes : List BreakClass) (next : BreakClass) : Bool :=
  match classes with
  | [] => false
  | last :: _ =>
      if last = carriageReturn ∧ next = lineFeed then true
      else if last.standsAlone || next.standsAlone then false
      else
        next.attaches || last == prepended || continuesSyllable last next ||
          (next == consonant && endsInLinkedConsonant classes) ||
          (next == pictograph && endsInJoinedPictograph classes) ||
          (next == regionalIndicator && endsInLoneIndicator classes)

end BreakClass

abbrev Classified := Char × BreakClass

/-- Adds a character behind clusters of which the latest comes first, each held backward. -/
def addToClusters (clusters : List (List Classified)) (next : Classified) :
    List (List Classified) :=
  match clusters with
  | [] => [[next]]
  | latest :: earlier =>
      if BreakClass.joins (latest.map Prod.snd) next.2 then
        (next :: latest) :: earlier
      else
        [next] :: latest :: earlier

def clusters (text : List Char) : List (List Char) :=
  let backward := (text.map fun character => (character, breakClass character)).foldl addToClusters []
  backward.reverse.map fun cluster => cluster.reverse.map Prod.fst

end Calculator.Text
