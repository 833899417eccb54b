import Mathlib.Tactic

/-!
# Searching and trimming texts

Functions of the standard library on texts that look at characters only: what a text starts with,
ends with and contains, what stands before and after the first separator, its lines, and texts without the
white space or the repeated characters at their ends.
-/

namespace Iicp.Rust

variable (char : Char)

def isWhitespace : Bool :=
  let code := char.toNat
  (9 ≤ code && code ≤ 13) || (0x2000 ≤ code && code ≤ 0x200a) ||
    [0x20, 0x85, 0xa0, 0x1680, 0x2028, 0x2029, 0x202f, 0x205f, 0x3000].contains code

/-- A list without the items at its end that pass a test. -/
def dropEndWhile {α : Type} (test : α → Bool) (items : List α) : List α :=
  (items.reverse.dropWhile test).reverse

variable (text : String)

def trim : String :=
  String.ofList (dropEndWhile isWhitespace (text.toList.dropWhile isWhitespace))

def trimStartMatches : String :=
  String.ofList (text.toList.dropWhile (· == char))

/-- The text without the given character at its end. -/
def trimEndMatches : String :=
  String.ofList (dropEndWhile (· == char) text.toList)

def toAsciiLowercase : String := String.ofList (text.toList.map Char.toLower)

/-- The text in lower case, where the case table for texts beyond ASCII is given. -/
def toLowercase (unicode : String → String) : String :=
  if text.toList.all (·.toNat < 128) then toAsciiLowercase text else unicode text

def startsWith (text start : String) : Bool := start.toList.isPrefixOf text.toList

def endsWith (text stop : String) : Bool := stop.toList.isSuffixOf text.toList

def containsText (text part : String) : Bool :=
  text.toList.tails.any part.toList.isPrefixOf

def stripStart (text start : String) : Option String :=
  if startsWith text start then some (String.ofList (text.toList.drop start.toList.length)) else none

def stripEnd (text stop : String) : Option String :=
  if endsWith text stop then
    some (String.ofList (text.toList.take (text.toList.length - stop.toList.length)))
  else none

/-- The lines of a text, where `line` holds the characters of the present one in reverse. A line ends
with a line feed, or with a carriage return and a line feed. -/
def linesFrom (line : List Char) : List Char → List String
  | [] => if line.isEmpty then [] else [String.ofList line.reverse]
  | char :: rest =>
    if char = '\n' then
      String.ofList (if line.head? = some '\r' then line.tail else line).reverse :: linesFrom [] rest
    else linesFrom (char :: line) rest

def lines : List String := linesFrom [] text.toList

def beforeFirst (separator : Char) (text : String) : String :=
  String.ofList (text.toList.takeWhile (· != separator))

/-- The parts around the first separator. -/
def splitOnce (separator : Char) (text : String) : Option (String × String) :=
  match text.toList.dropWhile (· != separator) with
  | _ :: rest => some (beforeFirst separator text, String.ofList rest)
  | [] => none

/-- A text that has a separator after a part without one is split there. -/
lemma splitOnce_append {separator : Char} {head middle : String}
    (hmiddle : middle.toList = [separator]) (h : separator ∉ head.toList) (tail : String) :
    splitOnce separator (head ++ middle ++ tail) = some (head, tail) := by
  have hkeep : ∀ char ∈ head.toList, (char != separator) :=
    fun char hchar ↦ bne_iff_ne.mpr fun heq ↦ h (heq ▸ hchar)
  have hlist : (head ++ middle ++ tail).toList = head.toList ++ separator :: tail.toList := by
    simp [hmiddle]
  rw [splitOnce, beforeFirst, hlist, List.dropWhile_append_of_pos hkeep,
    List.takeWhile_append_of_pos hkeep]
  simp

def isAsciiHexdigit : Bool :=
  ('0' ≤ char && char ≤ '9') || ('a' ≤ char && char ≤ 'f') || ('A' ≤ char && char ≤ 'F')

end Iicp.Rust
