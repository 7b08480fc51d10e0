import SmartQuotes.Command.Problem
import SmartQuotes.Text.Class

/-!
# Words of a command line

What a word is: an argument, a flag, or the separator behind which all words are arguments. A long
flag may be shortened as long as it is told from the others; a value may be attached to a flag.
Negative numbers and words with a space in them are arguments, unless they are flags.
-/

namespace SmartQuotes.Command

/-- What is attached to a flag: nothing, or a text, behind an equals sign or directly. -/
inductive Attached
  | nothing
  | value (equals : Bool) (t : Text)
deriving DecidableEq, Repr

inductive Word
  | argument
  | separator
  | unknown
  | flag (f : Flag) (long : Bool) (a : Attached)
deriving DecidableEq, Repr

namespace Word

/-- The word in front of its first equals sign, and what is attached to it. -/
def cut (w : Text) : Text × Attached :=
  match w.dropWhile (· != '=') with
  | [] => (w, .nothing)
  | _ :: t => (w.takeWhile (· != '='), .value true t)

/-- Whether a spelling is a long one. -/
def isLong (name : Text) : Bool := (text "--").isPrefixOf name

/-- The spellings that a word may stand for, each with its meaning. -/
def readings (flags : List Flag) (w : Text) : List (Text × Word) :=
  flags.flatMap fun f => f.names.filterMap fun name =>
    if isLong w then
      if (cut w).1.isPrefixOf name then some (name, flag f true (cut w).2) else none
    else if name = w.take 2 then some (name, flag f false (.value false (w.drop 2)))
    else none

/-- A minus sign with a decimal number behind it; a line feed may follow. -/
def isNegativeNumber (w : Text) : Bool :=
  let isDigit (c : Char) : Bool := (Text.Class.digitValue? c).isSome
  match w with
  | '-' :: t =>
    let t := if t.getLast? = some '\n' then t.dropLast else t
    let fraction := t.dropWhile isDigit
    match fraction with
    | [] => !t.isEmpty
    | c :: digits => c == '.' && !digits.isEmpty && digits.all isDigit
  | _ => false

/-- A word that begins with a minus sign. -/
def ofDashed (flags : List Flag) (w : Text) : Except Problem Word :=
  match Flag.ofName? flags w, Flag.ofName? flags (cut w).1 with
  | some f, _ => .ok (flag f (isLong w) .nothing)
  | none, some f => .ok (flag f (isLong w) (cut w).2)
  | none, none =>
    match readings flags w with
    | [] => .ok (if isNegativeNumber w || w.contains ' ' then argument else unknown)
    | [(_, word)] => .ok word
    | several => .error (.ambiguous w (several.map (·.1)))

/-- A word in front of the separator. -/
def ofText (flags : List Flag) (w : Text) : Except Problem Word :=
  match w with
  | '-' :: _ :: _ => ofDashed flags w
  | _ => .ok argument

/-- All words of a command line. -/
def ofTexts (flags : List Flag) : List Text → Except Problem (List (Text × Word))
  | [] => .ok []
  | w :: ws =>
    if w = text "--" then .ok ((w, separator) :: ws.map (·, argument))
    else do
      let word ← ofText flags w
      return (w, word) :: (← ofTexts flags ws)

end Word

end SmartQuotes.Command
