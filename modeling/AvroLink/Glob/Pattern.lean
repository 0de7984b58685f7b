/-!
# File name patterns

`?` stands for one character, `*` for any number of them, `[a-c]` for one of a set and `[!a-c]` for
one outside it. `**` stands alone between slashes, for any number of directories.
-/

namespace AvroLink.Glob

inductive Token where
  | char (c : Char)
  | anyChar
  | anySequence
  | anyDirectories
  | within (ranges : List (Char × Char))
  | except (ranges : List (Char × Char))
  deriving DecidableEq, Repr

abbrev Pattern := List Token

inductive PatternFault where
  | wildcards
  | recursiveWildcards
  | invalidRange
  deriving DecidableEq, Repr

structure PatternError where
  position : Nat
  fault : PatternFault
  deriving DecidableEq, Repr

def PatternFault.text : PatternFault → String
  | wildcards => "wildcards are either regular `*` or recursive `**`"
  | recursiveWildcards => "recursive wildcards must form a single path component"
  | invalidRange => "invalid range pattern"

def PatternError.message (e : PatternError) : String :=
  s!"Pattern syntax error near position {e.position}: " ++ e.fault.text

/-- Ranges and single characters between brackets. -/
def ranges : List Char → List (Char × Char)
  | a :: '-' :: b :: cs => (a, b) :: ranges cs
  | a :: cs => (a, a) :: ranges cs
  | [] => []

/-- A set after its opening bracket: the first character never closes it. -/
def bracket (cs : List Char) : Option (Token × List Char) :=
  match cs with
  | '!' :: c :: cs =>
    match cs.dropWhile (· ≠ ']') with
    | _ :: rest => some (.except (ranges (c :: cs.takeWhile (· ≠ ']'))), rest)
    | [] => none
  | c :: cs =>
    if c = '!' then none
    else
      match cs.dropWhile (· ≠ ']') with
      | _ :: rest => some (.within (ranges (c :: cs.takeWhile (· ≠ ']'))), rest)
      | [] => none
  | [] => none

/-- Add a mark for directories, unless one just stands there behind something else. -/
def pushDirectories (done : Pattern) : Pattern :=
  match done with
  | .anyDirectories :: _ :: _ => done
  | _ => .anyDirectories :: done

/-- Read `cs`, which begins at `position` behind the character `before`; `done` holds the tokens so
far, last first. -/
def tokens : Nat → Nat → Option Char → Pattern → List Char → Except PatternError Pattern
  | 0, _, _, done, _ => .ok done.reverse
  | _, _, _, done, [] => .ok done.reverse
  | fuel + 1, position, before, done, c :: cs =>
    if c = '?' then tokens fuel (position + 1) (some c) (.anyChar :: done) cs
    else if c = '*' then
      let stars := 1 + (cs.takeWhile (· = '*')).length
      let rest := cs.dropWhile (· = '*')
      if 2 < stars then .error ⟨position + 2, .wildcards⟩
      else if stars = 1 then tokens fuel (position + 1) (some c) (.anySequence :: done) cs
      else if before ≠ none ∧ before ≠ some '/' then .error ⟨position - 1, .recursiveWildcards⟩
      else
        match rest with
        | [] => .ok (pushDirectories done).reverse
        | '/' :: rest => tokens fuel (position + 3) (some '/') (pushDirectories done) rest
        | _ => .error ⟨position + 2, .recursiveWildcards⟩
    else if c = '[' then
      match bracket cs with
      | none => .error ⟨position, .invalidRange⟩
      | some (t, rest) =>
        tokens fuel (position + 1 + (cs.length - rest.length)) (some ']') (t :: done) rest
    else tokens fuel (position + 1) (some c) (.char c :: done) cs

def parse (pattern : List Char) : Except PatternError Pattern :=
  tokens pattern.length 0 none [] pattern

/-- Characters with a meaning are put into brackets, so that they stand for themselves. -/
def escape (cs : List Char) : List Char :=
  cs.flatMap fun c => if c ∈ ['?', '*', '[', ']'] then ['[', c, ']'] else [c]

def inRanges (ranges : List (Char × Char)) (c : Char) : Bool :=
  ranges.any fun (lo, hi) => lo ≤ c && c ≤ hi

/-- Whether one character is matched by a token that stands for one. -/
def Token.accepts : Token → Char → Bool
  | char d, c => c == d
  | anyChar, _ => true
  | within rs, c => inRanges rs c
  | .except rs, c => !inRanges rs c
  | anySequence, _ => false
  | anyDirectories, _ => false

def Token.isMany : Token → Bool
  | anySequence => true
  | anyDirectories => true
  | _ => false

/-- For `ok` at each tail of a name, the whole name first: whether it holds there or at a later
tail. -/
def orLater : List Bool → List Bool
  | [] => []
  | ok :: oks =>
    let later := orLater oks
    (ok || later.headD false) :: later

/-- For each tail of `name`, the whole name first and the empty one last: whether the pattern
matches it. -/
def matchedTails : Pattern → List Char → List Bool
  | [], name => name.map (fun _ => false) ++ [true]
  | t :: ts, name =>
    let later := matchedTails ts name
    if t.isMany then orLater later
    else List.zipWith (fun c ok => t.accepts c && ok) name later.tail ++ [false]

/-- Whether a pattern matches a whole name. -/
def matchesName (pattern : Pattern) (name : List Char) : Bool :=
  (matchedTails pattern name).headD false

theorem length_orLater (oks : List Bool) : (orLater oks).length = oks.length := by
  induction oks with
  | nil => rfl
  | cons ok oks ih => simp [orLater, ih]

theorem length_matchedTails (p : Pattern) (name : List Char) :
    (matchedTails p name).length = name.length + 1 := by
  induction p with
  | nil => simp [matchedTails]
  | cons t ts ih =>
    by_cases hm : t.isMany <;> simp [matchedTails, hm, length_orLater, ih]

/-- The tails of a longer name are those of the shorter one and itself. -/
theorem matchedTails_cons (p : Pattern) (c : Char) (cs : List Char) :
    matchedTails p (c :: cs) = matchesName p (c :: cs) :: matchedTails p cs := by
  induction p with
  | nil => rfl
  | cons t ts ih =>
    cases h : matchedTails ts cs with
    | nil => simpa [h] using length_matchedTails ts cs
    | cons ok oks =>
      obtain ⟨first, hfirst⟩ : ∃ b, matchedTails ts (c :: cs) = b :: ok :: oks := ⟨_, h ▸ ih⟩
      by_cases hm : t.isMany <;> simp [matchesName, matchedTails, hm, orLater, hfirst, h]

theorem matchesName_nil (name : List Char) : matchesName [] name = name.isEmpty := by
  cases name <;> rfl

/-- A mark for many characters stands for none or for one more; another takes one that it
accepts. -/
theorem matchesName_cons (t : Token) (ts : Pattern) (c : Char) (cs : List Char) :
    matchesName (t :: ts) (c :: cs) =
      if t.isMany then matchesName ts (c :: cs) || matchesName (t :: ts) cs
      else t.accepts c && matchesName ts cs := by
  cases h : matchedTails ts cs with
  | nil => simpa [h] using length_matchedTails ts cs
  | cons ok oks =>
    obtain ⟨first, hfirst⟩ : ∃ b, matchedTails ts (c :: cs) = b :: ok :: oks :=
      ⟨_, h ▸ matchedTails_cons ts c cs⟩
    by_cases hm : t.isMany <;> simp [matchesName, matchedTails, hm, orLater, hfirst, h]

/-- The name that a pattern without wildcards stands for. -/
def literal? : Pattern → Option (List Char)
  | [] => some []
  | .char c :: ts => (literal? ts).map (c :: ·)
  | _ :: _ => none

def isRecursive (p : Pattern) : Bool := p.any fun t => t == .anyDirectories

end AvroLink.Glob
