import GridCommons.Text.DecompositionTable

/-!
Contract: canonical composition of texts, with or without compatibility
mappings first.

Owns:
- full decomposition of a character, Hangul syllables and wide forms by rule;
- canonical ordering of combining marks;
- canonical composition;
- the two normal forms that names and shortened texts use.

ASCII text is its own normal form and is returned as it is.
-/

namespace GridCommons.Text

def combiningClass (c : Char) : Nat :=
  if c.toNat < 128 then 0 else classOf DecompositionTable.combining c.toNat

/-- First leading consonant, vowel, trailing consonant and syllable of Hangul. -/
structure HangulBase where
  lead : Nat := 0x1100
  vowel : Nat := 0x1161
  trail : Nat := 0x11a7
  syllable : Nat := 0xac00

def hangul : HangulBase := {}

def hangulParts? (n : Nat) : Option (List Nat) :=
  if hangul.syllable ≤ n ∧ n < hangul.syllable + 11172 then
    let index := n - hangul.syllable
    let lead := hangul.lead + index / 588
    let vowel := hangul.vowel + index % 588 / 28
    let trail := index % 28
    some (if trail = 0 then [lead, vowel] else [lead, vowel, hangul.trail + trail])
  else
    none

/-- The ASCII character of which a code point is the wide form. -/
def narrowForm? (n : Nat) : Option (List Nat) :=
  if 0xff01 ≤ n ∧ n ≤ 0xff5e then some [n - 0xfee0] else none

/-- One step of decomposition; `compatible` admits compatibility mappings. -/
def decomposeOnce (compatible : Bool) (n : Nat) : Option (List Nat) :=
  if n < 128 then none
  else
    (hangulParts? n).orElse fun _ =>
      (if compatible then narrowForm? n else none).orElse fun _ =>
        (formOf? DecompositionTable.canonical n).orElse fun _ =>
          if compatible then formOf? DecompositionTable.compatibility n else none

/-- Decomposition to the end.  No character needs more than a few steps; the
bound is the first argument. -/
def decomposePoint (compatible : Bool) : Nat → Nat → List Nat
  | 0, n => [n]
  | bound + 1, n =>
    match decomposeOnce compatible n with
    | some parts => parts.flatMap (decomposePoint compatible bound)
    | none => [n]

/-- Full decomposition of a text, marks not yet ordered. -/
def decompose (compatible : Bool) (s : List Char) : List Char :=
  s.flatMap fun c =>
    if c.toNat < 128 then [c] else (decomposePoint compatible 8 c.toNat).map Char.ofNat

/-- Put a mark among the marks before it, nearest first: it passes those of a
greater class. -/
def insertMark (mark : Char) : List Char → List Char
  | [] => [mark]
  | c :: earlier =>
    if combiningClass mark < combiningClass c then c :: insertMark mark earlier
    else mark :: c :: earlier

/-- Canonical order: each run of marks sorted by class, stably. -/
def orderMarks (s : List Char) : List Char :=
  let reversed := s.foldl
    (fun done c => if combiningClass c = 0 then c :: done else insertMark c done)
    []
  reversed.reverse

/-- Canonical pairs that compose, with the composite. -/
def compositions : Array (Nat × Nat × Nat) :=
  DecompositionTable.canonical.filterMap fun (composite, parts) =>
    match parts with
    | [first, second] =>
      if DecompositionTable.neverComposed.has composite then none
      else some (first, second, composite)
    | _ => none

def composePair? (first second : Nat) : Option Nat :=
  if hangul.lead ≤ first ∧ first < hangul.lead + 19 ∧
      hangul.vowel ≤ second ∧ second < hangul.vowel + 21 then
    some (hangul.syllable + ((first - hangul.lead) * 21 + (second - hangul.vowel)) * 28)
  else if hangul.syllable ≤ first ∧ first < hangul.syllable + 11172 ∧
      (first - hangul.syllable) % 28 = 0 ∧
      hangul.trail < second ∧ second < hangul.trail + 28 then
    some (first + (second - hangul.trail))
  else
    (compositions.find? fun (a, b, _) => a == first && b == second).map fun entry => entry.2.2

/-- Composition of an ordered text.  `starter` is the last starter with the
marks kept after it, nearest first; `kept` holds everything before. -/
def composeFrom (kept : List Char) (starter : Option Char) (marks : List Char) :
    List Char → List Char
  | [] => (marks ++ starter.toList ++ kept).reverse
  | c :: rest =>
    match starter with
    | none => if combiningClass c = 0 then composeFrom kept (some c) [] rest
      else composeFrom (c :: kept) none [] rest
    | some s =>
      let class' := combiningClass c
      let blocked :=
        match marks with
        | [] => false
        | last :: _ => class' ≤ combiningClass last
      match if blocked then none else composePair? s.toNat c.toNat with
      | some composite => composeFrom kept (some (Char.ofNat composite)) marks rest
      | none =>
        if class' = 0 then composeFrom (marks ++ s :: kept) (some c) [] rest
        else composeFrom kept (some s) (c :: marks) rest

/-- Normal form: decompose, order the marks, compose. -/
def normalize (compatible : Bool) (s : List Char) : List Char :=
  if s.all fun c => c.toNat < 128 then s
  else composeFrom [] none [] (orderMarks (decompose compatible s))

def canonicalForm (s : String) : String :=
  String.ofList (normalize false s.toList)

/-- Compatibility normal form, in which names are stored. -/
def compatibilityForm (s : String) : String :=
  String.ofList (normalize true s.toList)

end GridCommons.Text
