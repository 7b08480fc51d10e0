import SmartQuotes.Console.Emoji.Names
import SmartQuotes.Text.Class

/-!
# Emoji by name

A name between colons stands for an emoji. The name may end in a wish to show the emoji in colour or
as a plain character. A code whose name is not known is left as it is.
-/

namespace SmartQuotes.Console.Emoji

/-! ## The table -/

def digit (c : Char) : Nat := if '0' ≤ c && c ≤ '9' then c.toNat - 48 else c.toNat - 87

/-- The characters of an entry, given by code points between plus signs. -/
def ofPoints (t : Text) : Text :=
  (t.splitOn (· == '+')).map fun p => Char.ofNat (p.foldl (fun n c => 16 * n + digit c) 0)

/-- The emoji in one entry, if it has the name. -/
def entryOf? (name entry : Text) : Option Text :=
  if entry.takeWhile (· != '=') = name then some (ofPoints (entry.dropWhile (· != '=')).tail)
  else none

/-- The emoji of a name. -/
def ofName? (name : Text) : Option Text :=
  (name.head?.elim [] rows).findSome? fun row =>
    ((text row).splitOn (· == ' ')).findSome? (entryOf? name)

/-! ## Codes -/

/-- The wishes that may end a name, each with the character that asks for it. -/
def styles : List (Text × Text) :=
  [(text "-emoji:", ['\ufe0f']), (text "-text:", ['\ufe0e']), ([':'], [])]

/-- A code behind its first colon: its name, the character that asks for a style, its written form,
and what is left of the text. -/
structure Code (t : Text) where
  name : Text
  style : Text
  written : Text
  rest : Text
  rest_lt : rest.length < t.length

/-- The code in front, if there is one: a name has no blanks. -/
def code? : (t : Text) → Option (Code t)
  | [] => none
  | c :: t =>
    match styles.find? fun s => s.1.isPrefixOf (c :: t) with
    | some (ending, style) =>
      some ⟨[], style, ending, t.drop (ending.length - 1), by
        simp only [List.length_drop, List.length_cons]; omega⟩
    | none =>
      if Text.Class.isBlank c then none
      else (code? t).map fun k =>
        ⟨c :: k.name, k.style, c :: k.written, k.rest, by
          have := k.rest_lt
          simp only [List.length_cons]; omega⟩

/-- What a code stands for. -/
def Code.shown {t : Text} (k : Code t) : Text :=
  match ofName? k.name.lower with
  | some emoji => emoji ++ k.style
  | none => ':' :: k.written

/-- The text with emoji in place of their codes. -/
def replace : Text → Text
  | [] => []
  | c :: t =>
    if c = ':' then
      match code? t with
      | some k => k.shown ++ replace k.rest
      | none => ':' :: replace t
    else c :: replace t
termination_by t => t.length
decreasing_by
  all_goals simp only [List.length_cons]
  · have := k.rest_lt; omega
  · omega
  · omega

end SmartQuotes.Console.Emoji
