import SmartQuotes.Command.Word

/-!
# Reading a command line

A command line is read from left to right. Flags take effect in the order in which they stand. The
other words are taken once, as many as the form of the command line admits; words that are left over
are kept for a message.
-/

namespace SmartQuotes.Command

/-- Which words are taken besides flags: a command with all that follows, any number, or one. -/
inductive Operand
  | command
  | any
  | one
deriving DecidableEq, Repr

/-- What a command line may hold. -/
structure Form where
  flags : List Flag
  operand : Operand
deriving DecidableEq, Repr

/-- What takes effect while a command line is read. -/
inductive Step
  | flag (f : Flag) (value : Option Text)
  | operands (words : List Text)
deriving DecidableEq, Repr

/-- The steps of a command line, and its end: a problem, or the words that are left over. -/
structure Reading where
  steps : List Step
  ending : Except Problem (List Text)

namespace Reading

def refuse (p : Problem) : Reading := ⟨[], .error p⟩

/-- The reading behind some steps. -/
def after (r : Reading) (steps : List Step) : Reading := { r with steps := steps ++ r.steps }

/-- The reading behind words that are left over. -/
def leaving (r : Reading) (words : List Text) : Reading :=
  { r with ending := r.ending.map (words ++ ·) }

end Reading

/-! ## Flags in one word -/

/-- What one word says: steps, a flag that waits for its value, and what is left over. -/
structure Spread where
  steps : List Step
  waiting : Option Flag
  left : List Text
deriving DecidableEq, Repr

/-- A flag to which nothing is attached. -/
def Flag.alone (f : Flag) : Spread :=
  if f.takesValue then ⟨[], some f, []⟩ else ⟨[.flag f none], none, []⟩

/-- A flag to which a text is attached: its value, or, if a short flag takes none, the letters of
further flags. -/
def Flag.spread (flags : List Flag) (f : Flag) (long equals : Bool) (t : Text) :
    Except Problem Spread :=
  if f.takesValue then .ok ⟨[.flag f (some t)], none, []⟩
  else match t with
    | [] => .error (.needlessValue f [])
    | c :: rest =>
      if long || equals || c == '-' then .error (.needlessValue f (c :: rest))
      else
        let first (s : Spread) : Spread := { s with steps := .flag f none :: s.steps }
        match Flag.ofName? flags ['-', c], rest with
        | none, _ => .ok ⟨[.flag f none], none, ['-' :: c :: rest]⟩
        | some g, [] => .ok (first g.alone)
        | some g, d :: more =>
          if d = '=' then (spread flags g false true more).map first
          else (spread flags g false false (d :: more)).map first
termination_by t.length

/-- What a flag says with all that is attached to it. -/
def Flag.attach (flags : List Flag) (f : Flag) (long : Bool) : Attached → Except Problem Spread
  | .nothing => .ok f.alone
  | .value equals t => f.spread flags long equals t

/-! ## All words -/

/-- How many of the words in front are taken. -/
def Operand.count : Operand → List (Text × Word) → Nat
  | .any, ws => (ws.takeWhile fun w => w.2 == .argument || w.2 == .separator).length
  | .one, (_, .separator) :: (_, .argument) :: _ => 2
  | .one, (_, .argument) :: (_, .separator) :: _ => 2
  | .one, (_, .argument) :: _ => 1
  | .command, (_, .separator) :: (_, .argument) :: ws => ws.length + 2
  | .command, (_, .argument) :: ws => ws.length + 1
  | _, _ => 0

/-- The words that are taken, without the separator; a command keeps it. -/
def Operand.values (o : Operand) (words : List Text) : List Text :=
  match o with
  | .command => words
  | .any | .one => words.erase (text "--")

/-- Read words; the operand is `none` once it has been taken. -/
def readWords (flags : List Flag) (operand : Option Operand) : List (Text × Word) → Reading
  | [] => ⟨if operand = some .any then [.operands []] else [], .ok []⟩
  | (w, .unknown) :: ws => (readWords flags operand ws).leaving [w]
  | (_, .flag f long a) :: ws =>
    match f.attach flags long a with
    | .error p => .refuse p
    | .ok ⟨steps, none, left⟩ => ((readWords flags operand ws).leaving left).after steps
    | .ok ⟨steps, some g, _⟩ =>
      match ws with
      | (v, .argument) :: rest =>
        (readWords flags operand rest).after (steps ++ [.flag g (some v)])
      | _ => .refuse (.missingValue g)
  | w :: ws =>
    match operand with
    | none => (readWords flags none ws).leaving [w.1]
    | some o =>
      let n := o.count (w :: ws)
      if _h : 0 < n then
        (readWords flags none ((w :: ws).drop n)).after
          [.operands (o.values (((w :: ws).take n).map (·.1)))]
      else (readWords flags operand ws).leaving [w.1]
termination_by ws => ws.length
decreasing_by
  all_goals simp only [List.length_cons, List.length_drop]
  all_goals omega

/-- Read a command line. -/
def Form.read (form : Form) (words : List Text) : Reading :=
  match Word.ofTexts form.flags words with
  | .error p => .refuse p
  | .ok ws => readWords form.flags (some form.operand) ws

end SmartQuotes.Command
