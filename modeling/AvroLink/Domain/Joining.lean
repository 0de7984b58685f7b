import AvroLink.Unicode.Category
import AvroLink.Unicode.Normal

/-!
# Marks and joiners in domain names

A label does not begin with a mark. The two joiners have an effect only in some places, and stand
only there: behind a virama, and the one that parts letters also between two that would join.
-/

namespace AvroLink.Domain

open Unicode

/-- Marks without a width of their own that Unicode 17 adds. -/
def laterNonspacing : CodeSet := .ofText "
  1ACF-1ADD 1AE0-1AEB 10EFA-10EFB 11B60 11B62-11B64 11B66 1E6E3 1E6E6 1E6EE-1E6EF 1E6F5"

/-- Other marks that Unicode 17 adds. -/
def laterSpacing : CodeSet := .ofText "11B61 11B65 11B67"

def nonspacing : CodeSet := .unions [nonspacingMarks, enclosingMarks, laterNonspacing]

def combining : CodeSet := .unions [marks, laterNonspacing, laterSpacing]

/-- Letters that join the letter behind them. -/
def joinNext : CodeSet := .ofText "
  620 626 628 62A-62E 633-63F 641-647 649-64A 66E-66F 679-687 69A-6BF 6C1-6C2 6CC 6CE 6D0-6D1
  6FA-6FC 6FF 712-714 71A-71D 71F-727 729 72B 72D-72E 74E-758 75C-76A 76D-770 772 775-777 77A-77F
  7CA-7EA 841-845 848 84A-853 855 860 862-865 868 886 889-88D 88F 8A0-8A9 8AF-8B0 8B3-8B8 8BA-8C8
  1807 1820-1878 1887-18A8 18AA A840-A872 10AC0-10AC4 10ACD 10AD3-10ADC 10ADE-10AE0 10AEB-10AEE
  10B80 10B82 10B86-10B88 10B8A-10B8B 10B8D 10B90 10BAD-10BAE 10D00-10D21 10D23 10EC3-10EC4
  10EC6-10EC7 10F30-10F32 10F34-10F44 10F51-10F53 10F70-10F73 10F76-10F81 10FB0 10FB2-10FB3 10FB8
  10FBB-10FBC 10FBE-10FBF 10FC1 10FC4 10FCA-10FCB 1E922-1E943"

/-- Letters that join the letter before them. -/
def joinPrevious : CodeSet := .ofText "
  620 622-63F 641-64A 66E-66F 671-673 679-6D3 6D5 6EE-6EF 6FA-6FC 6FF 710 712-72F 74D-77F 7CA-7EA
  840-858 860 862-865 867-882 886 889-88F 8A0-8AC 8AE-8C8 1807 1820-1878 1887-18A8 18AA A840-A871
  10AC0-10AC5 10AC7 10AC9-10ACA 10ACE-10AD6 10AD8-10AE1 10AE4 10AEB-10AEF 10B80-10B91 10BA9-10BAE
  10D01-10D23 10EC2-10EC4 10EC6-10EC7 10F30-10F44 10F51-10F54 10F70-10F81 10FB0 10FB2-10FB6
  10FB8-10FBF 10FC1-10FC4 10FC9-10FCA 1E922-1E943"

/-- Characters that letters join across. -/
def transparent : CodeSet := nonspacing.union (.single 0x1E94B)

def nonJoiner : Char := Char.ofNat 0x200C

def joiner : Char := Char.ofNat 0x200D

/-- Whether the first character that letters do not join across is in a set. -/
def meets (set : CodeSet) (cs : List Char) : Bool :=
  match cs.dropWhile transparent.mem with
  | [] => false
  | c :: _ => set.mem c

/-- Whether a joiner may stand behind `before`, here last first, and in front of `after`. -/
def joinerAllowed (c : Char) (before after : List Char) : Bool :=
  match before with
  | [] => false
  | b :: _ =>
    combiningClass b = viramaClass ||
      (c == nonJoiner && meets joinNext before && meets joinPrevious after)

/-- Whether every joiner stands where it may; `before` is what has been passed, last first. -/
def joinersAllowed (before : List Char) : List Char → Bool
  | [] => true
  | c :: cs =>
    ((c != nonJoiner && c != joiner) || joinerAllowed c before cs) &&
      joinersAllowed (c :: before) cs

def beginsWithMark : List Char → Bool
  | [] => false
  | c :: _ => combining.mem c

end AvroLink.Domain
