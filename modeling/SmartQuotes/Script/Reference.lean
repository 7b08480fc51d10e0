import SmartQuotes.Breakdown
import SmartQuotes.Script.Character

/-!
# References in the strings of tags

In the string of a tag an ampersand may start a reference, which a semicolon ends. Strings keep
their spelling, so all that matters of a reference is the number it may name: one that is no
character stops the reader.
-/

namespace SmartQuotes.Script

open Text.Class

/-- What the last characters belong to. -/
inductive Reference
  /-- Nothing refers. -/
  | text
  /-- A reference that has just started. -/
  | opened
  /-- A reference to a number, behind its mark. -/
  | marked
  /-- A reference to a name, which may hold any character but the semicolon. -/
  | named
  /-- A reference to a number, behind digits of the base that amount to the value. -/
  | number (base value : Nat)

namespace Reference

/-- Go on with a character. What is no digit of a number ends the reference. -/
def next : Reference → Char → Reference
  | text, c => if c = '&' then opened else text
  | opened, c => if c = '#' then marked else if c = ';' then text else named
  | named, c => if c = ';' then text else named
  | marked, c =>
    if c = 'x' then number 16 0
    else if isAsciiDigit c then number 10 (c.toNat - 48)
    else text
  | number base value, c =>
    match hexValue? c with
    | some d => if d < base then number base (base * value + d) else text
    | none => text

/-- The numbers that references in the rest of a string name. -/
def numbers (r : Reference) : Text → List Nat
  | [] => []
  | c :: t =>
    match r with
    | number base value =>
      if c = ';' then value :: numbers text t else numbers ((number base value).next c) t
    | r => numbers (r.next c) t

/-- Why a number names no character, if it names none. -/
def breakdown? (n : Nat) : Option Breakdown :=
  if n < 0x110000 then none
  else if n < 0x80000000 then some .beyondCharacters
  else some .beyondWords

/-- Why a string stops the reader, if it does: the first of its numbers that names no character. -/
def stop? (t : Text) : Option Breakdown := (numbers text t).findSome? breakdown?

end Reference

end SmartQuotes.Script
