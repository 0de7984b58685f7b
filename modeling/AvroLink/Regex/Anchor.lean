import AvroLink.Unicode.Query

/-!
# Anchors

An anchor is a condition on the two characters around a place of a text. `holds` decides it; a
missing character means an end of the text.
-/

namespace AvroLink.Regex

/-- Conditions on the characters around a place. -/
inductive Anchor where
  | textStart
  | textEnd
  | lineStart (crlf : Bool)
  | lineEnd (crlf : Bool)
  | wordEdge (unicode : Bool)
  | noWordEdge (unicode : Bool)
  | wordStart (unicode : Bool)
  | wordEnd (unicode : Bool)
  | notAfterWord (unicode : Bool)
  | notBeforeWord (unicode : Bool)
  deriving DecidableEq, Repr

namespace Anchor

/-- A word character among the first 128. -/
def isAsciiWord (c : Char) : Bool := c.isAlphanum || c == '_'

/-- Whether there is a word character on one side of a place. -/
def isWord (unicode : Bool) (c : Option Char) : Bool :=
  c.any (if unicode then Unicode.wordChars.mem else isAsciiWord)

/-- Whether a place between two characters fulfils the condition. -/
def holds (before after : Option Char) : Anchor → Bool
  | textStart => before.isNone
  | textEnd => after.isNone
  | lineStart crlf =>
    before.isNone || before == some '\n' ||
      (crlf && before == some '\r' && after != some '\n')
  | lineEnd crlf =>
    after.isNone || (crlf && after == some '\r') ||
      (after == some '\n' && !(crlf && before == some '\r'))
  | wordEdge u => isWord u before != isWord u after
  | noWordEdge u => isWord u before == isWord u after
  | wordStart u => !isWord u before && isWord u after
  | wordEnd u => isWord u before && !isWord u after
  | notAfterWord u => !isWord u before
  | notBeforeWord u => !isWord u after

end Anchor

end AvroLink.Regex
